/-!
# Texts

A text is the list of its characters. Everything in this library is defined by
recursion on that list, so that a statement about a text is proved by following
the text itself.

* `Text.after? w s` is what follows `w` in a text `s` that begins with it; by
  `Text.after?_eq_some_iff` it is found exactly when `s = w ++ r`.
* `Text.before? w s` is what precedes `w` in a text `s` that ends with it
  (`Text.before?_eq_some_iff`).
* `Text.joinWith` and `Text.replaceAll` put texts together and exchange one text
  for another inside a third.
-/

namespace Tagline

/-- A text, as the list of its characters. -/
abbrev Text := List Char

namespace Text

/-! ### Beginnings and ends -/

/-- What follows `word` in a text that begins with it, and `none` in any other
text. -/
def after? : (word text : Text) → Option Text
  | [], s => some s
  | _ :: _, [] => none
  | w :: ws, c :: s => if w = c then after? ws s else none

/-- Whether a text begins with `word`. -/
def begins (word text : Text) : Bool := (after? word text).isSome

/-- What precedes `word` in a text that ends with it, and `none` in any other
text. -/
def before? (word text : Text) : Option Text :=
  (after? word.reverse text.reverse).map List.reverse

theorem after?_eq_some_iff {w s r : Text} : after? w s = some r ↔ s = w ++ r := by
  induction w generalizing s with
  | nil => simp [after?]
  | cons a w ih =>
    cases s with
    | nil => simp [after?]
    | cons c s =>
      by_cases h : a = c
      · subst h
        simp [after?, ih]
      · simp [after?, h, Ne.symm h]

@[simp] theorem after?_append (w r : Text) : after? w (w ++ r) = some r :=
  after?_eq_some_iff.2 rfl

theorem before?_eq_some_iff {w s r : Text} : before? w s = some r ↔ s = r ++ w := by
  simp only [before?, Option.map_eq_some_iff, after?_eq_some_iff]
  constructor
  · rintro ⟨a, h, rfl⟩
    simpa using congrArg List.reverse h
  · rintro rfl
    exact ⟨r.reverse, by simp, by simp⟩

theorem begins_iff {w s : Text} : begins w s = true ↔ ∃ r, s = w ++ r := by
  simp [begins, Option.isSome_iff_exists, after?_eq_some_iff]

/-! ### Joining and exchanging -/

/-- The texts in order, with `sep` between each two neighbours. -/
def joinWith (sep : Text) : List Text → Text
  | [] => []
  | [s] => s
  | s :: t :: ts => s ++ sep ++ joinWith sep (t :: ts)

/-- Exchanges the occurrences of a non-empty `old`, read from the left and without
overlap, for `new`. The `skip` characters that still belong to the last
occurrence are passed over. -/
def replaceFrom (old new : Text) : (skip : Nat) → Text → Text
  | _, [] => []
  | k + 1, _ :: s => replaceFrom old new k s
  | 0, c :: s =>
    if begins old (c :: s) then new ++ replaceFrom old new (old.length - 1) s
    else c :: replaceFrom old new 0 s

/-- Exchanges every occurrence of `old` for `new`. An empty `old` occurs before
each character and at the end. -/
def replaceAll (old new s : Text) : Text :=
  match old with
  | [] => new ++ s.flatMap (fun c => c :: new)
  | _ => replaceFrom old new 0 s

/-- Whether `word` occurs somewhere in a text. -/
def occursIn (word : Text) : Text → Bool
  | [] => word.isEmpty
  | c :: s => begins word (c :: s) || occursIn word s

/-- The text made of `n` copies of `s`. -/
def copies (n : Nat) (s : Text) : Text := (List.replicate n s).flatten

/-! ### Order -/

/-- Compares two texts character by character, by code point. -/
def compare : Text → Text → Ordering
  | [], [] => .eq
  | [], _ :: _ => .lt
  | _ :: _, [] => .gt
  | a :: s, b :: t =>
    if a.toNat < b.toNat then .lt else if b.toNat < a.toNat then .gt else compare s t

end Text

end Tagline
