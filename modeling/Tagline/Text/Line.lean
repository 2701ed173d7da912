import Tagline.Text.Basic

/-!
# Lines

A line ends at a line feed, or at a carriage return directly before one. A final
line that nothing ends is a line too, unless it is empty; a carriage return
elsewhere is an ordinary character.

* `Text.lines` is the list of lines of a text.
* `Text.dropTerminator` removes one terminator from the end of a text: the pair of
  carriage return and line feed, or either of them alone.
-/

namespace Tagline

namespace Text

/-- The lines of a text, without their terminators. -/
def lines : Text → List Text
  | [] => []
  | '\n' :: s => [] :: lines s
  | '\r' :: '\n' :: s => [] :: lines s
  | c :: s =>
    match lines s with
    | [] => [[c]]
    | l :: ls => (c :: l) :: ls

/-- The texts in order, with a line feed between each two neighbours. -/
def joinLines (ls : List Text) : Text := joinWith ['\n'] ls

/-- Without the one terminator that the reversed text begins with. -/
def dropTerminatorRev : Text → Text
  | '\n' :: '\r' :: s => s
  | '\n' :: s => s
  | '\r' :: s => s
  | s => s

/-- Without one line terminator at the end: a carriage return with a line feed,
a line feed, or a carriage return. -/
def dropTerminator (s : Text) : Text := (dropTerminatorRev s.reverse).reverse

end Text

end Tagline
