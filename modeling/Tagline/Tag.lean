import Tagline.Clause

/-!
# Inline tags

A client-side template holds script in tags: `<%= code %>` writes the value of an
expression, and `<% code %>` runs a statement. Every clause is exactly one tag
(`Clause.tag`), and the text of a clause is written in it as it is.
-/

namespace Tagline

/-- An inline tag: whether it echoes a value, and the script in it. -/
structure Tag where
  echoes : Bool
  script : Text
  deriving DecidableEq, Repr

namespace Tag

/-- The mark that opens a tag. -/
def opening (echoes : Bool) : Text := if echoes then "<%=".toList else "<%".toList

/-- The mark that closes a tag. -/
def closing : Text := "%>".toList

/-- A tag in writing: one blank separates the script from either mark. -/
def text (t : Tag) : Text := opening t.echoes ++ ' ' :: t.script ++ ' ' :: closing

end Tag

namespace Clause

/-- The script that a clause stands for. -/
def script : Clause → Text
  | .echo code => code
  | .conditional .ifThen condition => "if(".toList ++ condition.getD [] ++ ") \x7b".toList
  | .conditional .elseIf condition =>
    "\x7d else if(".toList ++ condition.getD [] ++ ") \x7b".toList
  | .conditional .otherwise _ => "\x7d else \x7b".toList
  | .loopStart collection item =>
    collection ++ ".each(function(".toList ++ item ++ ") \x7b".toList
  | .loopEnd => "\x7d);".toList
  | .blockEnd true => "\x7d);".toList
  | .blockEnd false => "\x7d".toList
  | .verbatim text => text

/-- Whether a clause writes a value. -/
def echoes : Clause → Bool
  | .echo _ => true
  | _ => false

/-- The tag of a clause. -/
def tag (c : Clause) : Tag := ⟨c.echoes, c.script⟩

/-- The tag of a clause in writing. -/
def render (c : Clause) : Text := c.tag.text

end Clause

end Tagline
