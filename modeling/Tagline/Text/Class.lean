import Tagline.Text.Basic

/-!
# Classes of characters

A property of characters that a standard lists by ranges is kept as the increasing
list of the code points at which membership changes: the first is the start of the
first range, the second the first code point after it, and so on.
-/

namespace Tagline

namespace Text

/-- Whether a code point lies in the class with the given changes: an odd number of
changes is at or before it. -/
def inClass (changes : List Nat) (n : Nat) : Bool :=
  (changes.takeWhile (· ≤ n)).length % 2 == 1

end Text

end Tagline
