import Tagline.FilterTable
import Tagline.Fragment
import Tagline.Markup
import Tagline.Settings
import Tagline.Template.Rendering

/-!
# Filters in a host template

A filter table is bound into a template environment (`Host.register`): each of its filters
becomes a filter of the template language under its name with the prefix of the settings,
and the functions of `Markup` become `link_to`, `image_tag` and `tag` with the same
prefix. The value that a filter is applied to is the text of the block, and the argument of
the filter that of the block.

What the filters and functions give is marked as safe, so that tags are never escaped.
-/

namespace Tagline

open Template

namespace Host

/-- The lines of the block that a value stands for. -/
def bodyOf (s : Settings) (v : Value) : List Text :=
  if v.isAbsent then [] else s.splitBody v.text

/-- The block that a filter of the template language stands for. -/
def blockOf (s : Settings) (f : Filter) (v : Value) (argument : Option Text) : Block :=
  { filter := f, body := bodyOf s v, argument }

/-! ### Filters -/

/-- Expands the block that a value and an argument stand for. -/
def applyFilter (t : FilterTable) (s : Settings) (f : Filter) (v : Value)
    (argument : Option Text) : Run Value := do
  let out ← (t.expand (blockOf s f v argument)).toRun
  return .safeText out

/-- A filter as one of the template language. -/
def filterBinding (t : FilterTable) (s : Settings) (f : Filter) : Callable :=
  fun m args => do
    let (v, rest) ← Run.lift (Argument.value m args)
    let (argument, rest) ← Run.lift (Argument.optionalText rest)
    Run.lift (Argument.done rest)
    applyFilter t s f v argument

/-! ### Functions -/

/-- The complaint about options that are not a map. -/
def optionsMessage : Text := "options must be a map of attribute names to values".toList

/-- The attributes that a map of options gives. -/
def attributesOf : Option Value → Except Template.Error (List Markup.Attribute)
  | none => .ok []
  | some (.map entries _) => .ok (entries.map fun e => ⟨e.1.text, e.2.text⟩)
  | some _ => .error { fault := .invalidOperation, detail := some optionsMessage }

/-- The last argument of a function: a map of options that may be missing. -/
def optionsArgument (args : List Value) : Except Template.Error (List Markup.Attribute) := do
  let (options, rest) ← Argument.optional args
  Argument.done rest
  attributesOf options

/-- The function that writes a link. -/
def linkBinding (resolver : Option Resolver) : Callable := fun m args => do
  let (content, rest) ← Run.lift (Argument.text m args)
  let (url, rest) ← Run.lift (Argument.text m rest)
  let as ← Run.lift (optionsArgument rest)
  let out ← Run.ofLogged (Markup.anchor resolver content url as)
  return .safeText out

/-- A function that writes an element from one text and options. -/
def elementBinding (write : Text → List Markup.Attribute → Text) : Callable :=
  fun m args => do
    let (s, rest) ← Run.lift (Argument.text m args)
    let as ← Run.lift (optionsArgument rest)
    return .safeText (write s as)

/-! ### Environments -/

/-- Binds the filters of a list, each as a table expands it. -/
def bindAll (t : FilterTable) (s : Settings) (fs : List Filter) (env : Environment) :
    Environment :=
  fs.foldl (fun e f => e.bindFilter (s.qualified f.name) (filterBinding t s f)) env

/-- Binds the filters of a table. -/
def bindFilters (env : Environment) (t : FilterTable) (s : Settings) : Environment :=
  bindAll t s t.filters env

/-- The functions that write markup, by name. -/
def markupFunctions (resolver : Option Resolver) : List (Text × Callable) :=
  [("link_to".toList, linkBinding resolver),
    ("image_tag".toList, elementBinding Markup.image),
    ("tag".toList, elementBinding Markup.element)]

/-- Binds the functions that write markup. -/
def bindFunctions (env : Environment) (t : FilterTable) (s : Settings) : Environment :=
  (markupFunctions t.resolver).foldl (fun e f => e.bindFunction (s.qualified f.1) f.2) env

/-- The message that fragments are to be resolved and are not. -/
def unresolvedMessage : Text :=
  "compile_text is set but the registry has no evaluator; expressions pass through".toList

/-- Binds the filters of a table and the functions that write markup. -/
def register (env : Environment) (t : FilterTable) (s : Settings) : Logged Environment := do
  -- The table decides; the settings alone resolve nothing.
  if s.resolveFragments && t.resolver.isNone then
    Logged.note .debug .host unresolvedMessage
  return bindFunctions (bindFilters env t s) t s

/-- The table that settings ask for: one whose resolver knows no data, if fragments are to
be resolved. -/
def table (s : Settings) : FilterTable :=
  if s.resolveFragments then .withResolver (Fragment.resolve Fragment.noData) else .standard

/-- The environment that settings ask for. -/
def environment (s : Settings) : Logged Environment :=
  register (Builtin.environment false) (table s) s

/-- Renders a template in an environment. -/
def renderIn (env : Logged Environment) (name : Option Text) (source : Text) (data : Value) :
    Attempt Text := do
  let env ← Attempt.ofLogged env
  Attempt.ofRun (Template.render env name source data)

/-- Renders a template with the filters of a table. -/
def renderWith (t : FilterTable) (s : Settings) (name : Option Text) (source : Text)
    (data : Value) : Attempt Text :=
  renderIn (register (Builtin.environment false) t s) name source data

/-- Renders a template as settings ask for. -/
def render (s : Settings) (name : Option Text) (source : Text) (data : Value) : Attempt Text :=
  renderIn (environment s) name source data

end Host

end Tagline
