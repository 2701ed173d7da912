import Tagline.Block
import Tagline.Failure

/-!
# Filter tables

A table says how the blocks of each filter are expanded. A host looks a filter up and
expands a block by what it finds (`FilterTable.expand`). The table also carries the
resolver that its `js` entry was made with; later changes of the entries leave it alone.

* `get?_insert` and `get?_erase`: a change gives its own filter a new entry and leaves the
  others alone.
* `FilterTable.filters` lists the filters with an entry, in the order of filters.
-/

namespace Tagline

/-- How blocks are expanded. -/
abbrev Expander := Block → Logged Text

/-- The expanders of filters. -/
structure FilterTable where
  entries : Filter → Option Expander
  resolver : Option Resolver

namespace FilterTable

/-- The table without entries. -/
def empty : FilterTable := ⟨fun _ => none, none⟩

/-- The table in which every filter expands by its own rules. -/
def standard : FilterTable := ⟨fun _ => some (Block.expand none), none⟩

/-- The expander of `filter` where the expressions of `js` blocks are resolved. -/
def resolving (r : Resolver) (filter : Filter) : Expander :=
  if filter = .script then Block.expand (some r) else Block.expand none

/-- The standard table, except that the expressions of `js` blocks are resolved. -/
def withResolver (r : Resolver) : FilterTable := ⟨fun f => some (resolving r f), some r⟩

/-- The expander of a filter. -/
def get? (t : FilterTable) (f : Filter) : Option Expander := t.entries f

/-- Whether a filter has an expander. -/
def contains (t : FilterTable) (f : Filter) : Bool := (t.get? f).isSome

/-- Gives a filter another entry, or none. -/
def set (t : FilterTable) (f : Filter) (entry : Option Expander) : FilterTable :=
  { t with entries := fun g => if g = f then entry else t.entries g }

/-- Gives a filter an expander, and returns the one that it had before. -/
def insert (t : FilterTable) (f : Filter) (expander : Expander) :
    Option Expander × FilterTable :=
  (t.get? f, t.set f (some expander))

/-- Takes the expander of a filter away, and returns it. -/
def erase (t : FilterTable) (f : Filter) : Option Expander × FilterTable :=
  (t.get? f, t.set f none)

/-- The filters with an expander, in the order of filters. -/
def filters (t : FilterTable) : List Filter := Filter.all.filter t.contains

/-- The names of the filters with an expander, in the order of filters. -/
def names (t : FilterTable) : List Text := t.filters.map Filter.name

/-- A table in one line: the names of its filters, and whether it has a resolver. -/
def describe (t : FilterTable) : Text :=
  "FilterRegistry \x7b filters: [".toList ++
    Text.joinWith ", ".toList (t.names.map Text.quoted) ++ "], evaluator: ".toList ++
    (if t.resolver.isSome then "true".toList else "false".toList) ++ " \x7d".toList

/-- Expands a block by the expander of its filter. -/
def expand (t : FilterTable) (b : Block) : Attempt Text :=
  match t.get? b.filter with
  | some expander => Attempt.ofLogged (expander b)
  | none => throw (.notRegistered b.filter)

/-- The record that a block is expanded by the name of its filter. -/
def lookupMessage (name : Text) : Text :=
  "translating '".toList ++ name ++ "' through registry".toList

/-- Expands a block that is given by the name of its filter. -/
def expandNamed (t : FilterTable) (name : Text) (body : List Text) (argument : Option Text) :
    Attempt Text := do
  let block ← Attempt.lift ((Block.named name body argument).mapError .unknownFilter)
  Attempt.ofLogged (Logged.note .debug .table (lookupMessage name))
  t.expand block

@[simp] theorem get?_set (t : FilterTable) (f g : Filter) (entry : Option Expander) :
    (t.set f entry).get? g = if g = f then entry else t.get? g := rfl

@[simp] theorem resolver_set (t : FilterTable) (f : Filter) (entry : Option Expander) :
    (t.set f entry).resolver = t.resolver := rfl

theorem get?_insert (t : FilterTable) (f g : Filter) (expander : Expander) :
    (t.insert f expander).2.get? g = if g = f then some expander else t.get? g := rfl

theorem get?_erase (t : FilterTable) (f g : Filter) :
    (t.erase f).2.get? g = if g = f then none else t.get? g := rfl

end FilterTable

end Tagline
