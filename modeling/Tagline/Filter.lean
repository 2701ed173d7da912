import Tagline.Text.Basic

/-!
# Filters

A host template marks a block of text with the name of a filter. There are seven:
one for each kind of clause that stands alone, and `js`, whose block is read line by
line. A filter is looked up by its exact name (`Filter.ofName`).
-/

namespace Tagline

/-- A filter. -/
inductive Filter where
  | each
  | endEach
  | ifThen
  | elseIf
  | otherwise
  | close
  | script
  deriving DecidableEq, Repr

/-- A name that no filter has. -/
structure UnknownFilter where
  name : Text
  deriving DecidableEq, Repr

namespace Filter

/-- All filters, in their order (`pairwise_all`). -/
def all : List Filter := [.each, .endEach, .ifThen, .elseIf, .otherwise, .close, .script]

/-- The name by which a filter is called. -/
def name : Filter → Text
  | .each => "each".toList
  | .endEach => "endeach".toList
  | .ifThen => "if".toList
  | .elseIf => "elseif".toList
  | .otherwise => "else".toList
  | .close => "end".toList
  | .script => "js".toList

/-- The place of a filter in the order of filters, which is the order of their declaration. -/
def rank (f : Filter) : Nat := f.ctorIdx

/-- The filter with a name. -/
def ofName (name : Text) : Except UnknownFilter Filter :=
  match all.find? (fun f => f.name == name) with
  | some f => .ok f
  | none => .error ⟨name⟩

/-- Filters in their order. -/
def sort (fs : List Filter) : List Filter := fs.mergeSort (fun f g => f.rank ≤ g.rank)

/-- The list of all filters follows their order, and none of them is in it twice. -/
theorem pairwise_all : all.Pairwise fun f g => f.rank < g.rank := by decide

end Filter

/-- Why a name is rejected, in words. -/
def UnknownFilter.message (e : UnknownFilter) : Text :=
  "unknown filter '".toList ++ e.name ++ "' (expected one of: ".toList ++
    Text.joinWith ", ".toList (Filter.all.map Filter.name) ++ [')']

end Tagline
