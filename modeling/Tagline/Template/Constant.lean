import Tagline.Template.Expr

/-!
# Constant expressions

An expression made of literals and operators alone has one value wherever it stands
(`Expr.constant?`), unless one of its operators fails. The conjunction of two constants is
the second if both count as true and is false otherwise; where an operand is not constant
it is the operand that decides, so the two differ if that is neither true nor false.
-/

namespace Tagline

namespace Template

/-- The outcome of a comparison. -/
def Comparison.apply (c : Comparison) (a b : Value) : Except Error Value := do
  let v ← Value.apply c.operator a b
  return if c.negated then .bool !v.truth else v

/-- The conjunction of two constants. -/
def Value.conjunction (a b : Value) : Value := if a.truth && b.truth then b else .bool false

namespace Expr

mutual

/-- The value of a constant expression. -/
def constant? : Expr → Option Value
  | .const v => some v
  | .list items => (constants? items).map .list
  | .map entries => (constantEntries? [] entries).map (.map · false)
  | .neg e => do (Value.neg (← constant? e)).toOption
  | .not e => do return .bool !(← constant? e).truth
  | .and a b => do return (← constant? a).conjunction (← constant? b)
  | .or a b => do
    let v ← constant? a
    let w ← constant? b
    return if v.truth then v else w
  | .binary o a b => do (Value.apply o (← constant? a) (← constant? b)).toOption
  | .chain e links => do constantChain? (← constant? e) links
  | _ => none

/-- The values of constant expressions. -/
def constants? : List Expr → Option (List Value)
  | [] => some []
  | e :: es => do return (← constant? e) :: (← constants? es)

/-- The entries of a constant map, added one by one to `done`. -/
def constantEntries? (done : List (Value × Value)) :
    List (Expr × Expr) → Option (List (Value × Value))
  | [] => some done
  | (k, e) :: es => do constantEntries? (Value.insert (← constant? k) (← constant? e) done) es

/-- Whether a row of comparisons of constants holds, the first with `v`. -/
def constantChain? (v : Value) : List (Comparison × Expr) → Option Value
  | [] => some (.bool true)
  | (c, e) :: links => do
    let w ← constant? e
    let r ← (c.apply v w).toOption
    let rest ← constantChain? w links
    return if r.truth then rest else .bool false

end

end Expr

end Template

end Tagline
