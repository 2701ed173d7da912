import Tagline.Text.Basic

/-!
# The characters of a YAML text

A YAML text has its own classes of characters. White space is the space and the
tab only; a line ends at a carriage return, a line feed, the pair of them, or one
of three separators; and most controls are not allowed at all.
-/

namespace Tagline

namespace Yaml

/-- Whether a character may stand in a YAML text. -/
def isAllowed (c : Char) : Bool :=
  let n := c.toNat
  n == 0x09 || n == 0x0A || n == 0x0D || (0x20 ≤ n && n ≤ 0x7E) || n == 0x85 ||
    (0xA0 ≤ n && n ≤ 0xFFFD) || 0x10000 ≤ n

/-- A space or a tab. -/
def isSpace (c : Char) : Bool := c == ' ' || c == '\t'

/-- A character that ends a line. -/
def isBreak (c : Char) : Bool :=
  c == '\n' || c == '\r' || c == '\u0085' || c == '\u2028' || c == '\u2029'

/-- What a line end contributes to a scalar: the two Unicode separators stay, every
other one becomes a line feed. -/
def breakText (c : Char) : Text :=
  if c == '\u2028' || c == '\u2029' then [c] else ['\n']

/-- Whether a text is at its end or goes on with white space or a line end. -/
def atGap : Text → Bool
  | [] => true
  | c :: _ => isSpace c || isBreak c

/-- Whether a text is at its end or at the end of a line. -/
def atLineEnd : Text → Bool
  | [] => true
  | c :: _ => isBreak c

/-- A letter or digit of the basic range, `_` or `-`. -/
def isNameChar (c : Char) : Bool := c.isAlphanum || c == '_' || c == '-'

/-- Whether a line that begins with the given text is the mark `---` or `...`. -/
def isDocumentMark : Text → Bool
  | '-' :: '-' :: '-' :: s => atGap s
  | '.' :: '.' :: '.' :: s => atGap s
  | _ => false

/-- A place in a text: lines and columns are counted from zero. -/
structure Place where
  line : Nat
  column : Nat
  deriving DecidableEq, Repr

namespace Place

/-- The place `n` characters further on the line. -/
def skip (n : Nat) (p : Place) : Place := { p with column := p.column + n }

/-- The place after one character. -/
def next (p : Place) : Place := p.skip 1

/-- The start of the next line. -/
def nextLine (p : Place) : Place := ⟨p.line + 1, 0⟩

end Place

end Yaml

end Tagline
