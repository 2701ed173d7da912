import Tagline.Text.Basic

/-!
# Blanks

A blank is a character with the `White_Space` property. Trimming a text removes
the blanks at its ends, and the words of a text are its maximal runs of other
characters.

The property is wider than `Char.isWhitespace`: it holds of the line and paragraph
separators and of all the spaces of fixed width, and it does not hold of the joiners
of width zero or of the information separators.
-/

namespace Tagline

namespace Text

/-- The `White_Space` property. -/
def isBlank (c : Char) : Bool :=
  let n := c.toNat
  (9 ≤ n && n ≤ 13) || n == 0x20 || n == 0x85 || n == 0xA0 || n == 0x1680 ||
    (0x2000 ≤ n && n ≤ 0x200A) || n == 0x2028 || n == 0x2029 || n == 0x202F ||
    n == 0x205F || n == 0x3000

/-- Without the blanks at the start. -/
def trimStart (s : Text) : Text := s.dropWhile isBlank

/-- Without the blanks at the end. -/
def trimEnd (s : Text) : Text := (s.reverse.dropWhile isBlank).reverse

/-- Without the blanks at either end. -/
def trim (s : Text) : Text := trimEnd (trimStart s)

/-- Whether a text holds blanks only. -/
def allBlank (s : Text) : Bool := s.all isBlank

/-- Whether a text is empty or begins with a blank, so that a word that stands
before it ends there. -/
def endsWord : Text → Bool
  | [] => true
  | c :: _ => isBlank c

/-- Puts a character at the front of the first text of a list. -/
def consFirst (c : Char) : List Text → List Text
  | [] => [[c]]
  | w :: ws => (c :: w) :: ws

/-- The maximal runs of characters that are not blanks, in order. -/
def words : Text → List Text
  | [] => []
  | c :: s =>
    if isBlank c then words s
    else if endsWord s then [c] :: words s
    else consFirst c (words s)

end Text

end Tagline
