import Tagline.Block

/-!
# The clauses of a block

Whatever its filter, a block is expanded to the tags of a list of clauses, one after the
other and with nothing between them (`Block.value_expand`). The list is the clauses of the
lines for a `js` block, and a single clause for any other (`Block.clauses`), so that a law
about the expansion is a law about lists of clauses.

The script of a clause is fixed text around the texts that the clause was given
(`Clause.payloads`). Those are written as they are, so what can be said of the tag depends on
them.
-/

namespace Tagline

/-! ### The script of a clause -/

namespace Clause

/-- The texts that a clause was given and that stand in its script. The last branch of a
conditional has no condition to write. -/
def payloads : Clause → List Text
  | .echo code => [code]
  | .conditional .otherwise _ => []
  | .conditional _ condition => condition.toList
  | .loopStart collection item => [collection, item]
  | .loopEnd => []
  | .blockEnd _ => []
  | .verbatim text => [text]

/-- Script that opens a block: a head, something in parentheses, and a brace. -/
def opener (head inner : Text) : Text := head ++ '(' :: (inner ++ ')' :: " \x7b".toList)

@[simp] theorem script_echo (code : Text) : script (.echo code) = code := rfl

@[simp] theorem script_ifThen (condition : Option Text) :
    script (.conditional .ifThen condition) = opener "if".toList (condition.getD []) := rfl

@[simp] theorem script_elseIf (condition : Option Text) :
    script (.conditional .elseIf condition) =
      opener "\x7d else if".toList (condition.getD []) := rfl

@[simp] theorem script_otherwise (condition : Option Text) :
    script (.conditional .otherwise condition) = "\x7d else \x7b".toList := rfl

@[simp] theorem script_loopStart (collection item : Text) :
    script (.loopStart collection item) =
      opener (collection ++ ".each(function".toList) item := by
  have hscript : script (.loopStart collection item) =
      collection ++ ".each(function(".toList ++ item ++ ") \x7b".toList := rfl
  rw [hscript]
  simp [opener]

@[simp] theorem script_loopEnd : script .loopEnd = "\x7d);".toList := rfl

@[simp] theorem script_blockEnd_true : script (.blockEnd true) = "\x7d);".toList := rfl

@[simp] theorem script_blockEnd_false : script (.blockEnd false) = "\x7d".toList := rfl

@[simp] theorem script_verbatim (text : Text) : script (.verbatim text) = text := rfl

end Clause

/-! ### Blocks and their clauses -/

namespace Block

/-- The clauses whose tags a block is expanded to. The expressions that its lines echo are
settled, if there is a resolver. -/
def clauses (resolver : Option Resolver) (b : Block) : List Clause :=
  match b.clause?.value with
  | some c => [c]
  | none => b.scriptLines.map fun line => resolved resolver (Clause.ofLine line)

/-- **An expansion is the tags of its clauses.** -/
theorem value_expand (resolver : Option Resolver) (b : Block) :
    (b.expand resolver).value = (b.clauses resolver).flatMap Clause.render := by
  -- the record of the start of an expansion has no part in its value
  have hvalue : (b.expand resolver).value =
      (match b.clause?.value with
      | some c => (pure c.render : Logged Text)
      | none => expandLines resolver b.scriptLines).value := rfl
  rw [hvalue]
  unfold clauses
  cases b.clause?.value with
  | some c => simp
  | none => rw [value_expandLines, List.flatMap_map]

/-- Only a `js` block is read line by line. -/
theorem value_clause?_eq_none_iff {b : Block} : b.clause?.value = none ↔ b.filter = .script := by
  unfold clause?
  cases b.filter <;> simp

theorem clauses_of_script {b : Block} (h : b.filter = .script) (resolver : Option Resolver) :
    b.clauses resolver = b.scriptLines.map fun line => resolved resolver (Clause.ofLine line) := by
  unfold clauses
  rw [value_clause?_eq_none_iff.2 h]

/-- A block of any other filter is one clause, with or without a resolver. -/
theorem exists_clauses_eq_singleton {b : Block} (h : b.filter ≠ .script) :
    ∃ c, b.clause?.value = some c ∧ ∀ resolver, b.clauses resolver = [c] := by
  obtain ⟨c, hc⟩ := Option.ne_none_iff_exists'.1 (mt value_clause?_eq_none_iff.1 h)
  refine ⟨c, hc, ?_⟩
  intro resolver
  unfold clauses
  rw [hc]

/-- The expansion of a block that is one clause in all. -/
theorem render_of_clause? {b : Block} {c : Clause} (h : b.clause?.value = some c) :
    b.render = c.render := by
  unfold render
  rw [value_expand]
  unfold clauses
  rw [h]
  exact List.flatMap_singleton Clause.render c

end Block

end Tagline
