import Tagline.Number.Digits
import Tagline.Text.Shown

/-!
# Quoted texts

A text in double quotes on one line: the quote, the backslash and the usual
controls are written with a backslash, and a character that leaves no mark of its
own (`Text.isShown`) by its code point.
-/

namespace Tagline

namespace Text

/-- A character as it stands in a quoted text. -/
def escapeChar (c : Char) : Text :=
  match c with
  | '"' => ['\\', '"']
  | '\\' => ['\\', '\\']
  | '\n' => ['\\', 'n']
  | '\r' => ['\\', 'r']
  | '\t' => ['\\', 't']
  | '\x00' => ['\\', '0']
  | c => if isShown c then [c] else "\\u\x7b".toList ++ Number.hexText c.toNat ++ ['\x7d']

/-- A text in double quotes. -/
def quoted (s : Text) : Text := '"' :: s.flatMap escapeChar ++ ['"']

end Text

end Tagline
