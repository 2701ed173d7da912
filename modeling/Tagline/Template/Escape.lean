import Tagline.Template.Value

/-!
# Escaping

A template whose name is that of a markup file writes its values escaped, so that
they cannot be taken for markup. Safe texts, numbers, truth values and what is missing
are written as they are.
-/

namespace Tagline

namespace Template

/-- A character in markup. -/
def escapeChar : Char → Text
  | '<' => "&lt;".toList
  | '>' => "&gt;".toList
  | '&' => "&amp;".toList
  | '"' => "&quot;".toList
  | '\'' => "&#x27;".toList
  | '/' => "&#x2f;".toList
  | c => [c]

/-- A text in markup. -/
def escapeText (s : Text) : Text := s.flatMap escapeChar

/-- A value in markup. -/
def Value.escaped (v : Value) : Text :=
  match v with
  | .string s safe => if safe then s else escapeText s
  | .list _ => escapeText v.text
  | .lazy _ _ => escapeText v.text
  | .map _ _ => escapeText v.text
  | .function _ => escapeText v.text
  | v => v.text

/-- What stands after the last point of a name. -/
def extension (name : Text) : Text := (name.reverse.takeWhile (· != '.')).reverse

/-- Whether a template with the given name writes its values escaped. An ending `.j2` does
not count. -/
def escapes (name : Text) : Bool :=
  let e := extension ((Text.before? ".j2".toList name).getD name)
  e == "html".toList || e == "htm".toList || e == "xml".toList

end Template

end Tagline
