import Tagline.Yaml.Value

/-!
# YAML nodes of a known type

Where a node of a certain type is expected, its text is taken for one of that type,
whatever type it would show by itself: `3` and `~` are texts where a text is expected.
A truth value must not be quoted.

The root of a document may be left out; then it has no entries (`Document.entries`).
-/

namespace Tagline

namespace Yaml

namespace Document

/-- What a node stands for: an alias stands for the node with its anchor. -/
def target (d : Document) (n : Node) : Node :=
  match n with
  | .alias k => (d.anchors.lookup k).getD n
  | n => n

/-- The text of a scalar. -/
def text (d : Document) (n : Node) : Except Error Text :=
  match d.target n with
  | .scalar _ _ s => .ok s
  | _ => .error .unexpectedKind

/-- Whether a scalar may be a truth value: it is plain, or it is literal and has the tag of
one. -/
def mayBeBool (tag : Option Text) : Style → Bool
  | .plain => true
  | .literal => tag == some (coreTag "bool")
  | _ => false

/-- The truth value of a scalar. -/
def bool (d : Document) (n : Node) : Except Error Bool :=
  match d.target n with
  | .scalar tag style s =>
    match if mayBeBool tag style then bool? s else none with
    | some b => .ok b
    | none => .error .invalidScalar
  | _ => .error .unexpectedKind

/-- The entries of the mapping that a document is. -/
def entries (d : Document) : Except Error (List (Node × Node)) :=
  match d.root with
  | none => .ok []
  | some (.scalar _ .plain []) => .ok []
  | some (.mapping _ es) => .ok es
  | some _ => .error .unexpectedKind

end Document

end Yaml

end Tagline
