import Tagline.Proofs.Text.Trimming

/-!
# How a text is put together

`trimStart`, `trim`, `dropTerminator` and `words` find parts of a text. This module says what
those parts are: the text is put together from them and from blanks or a terminator, and there is
only one way to do it. Each description is a relation of its own, which does not say how to look
for the part, and the function is shown to compute it.

* `trimStart_eq_iff` — blanks, and behind them a flush text;
* `trim_eq_iff` — blanks on both sides of a text that neither begins nor ends with one; where that
  text is a word, it is enough that blanks surround it (`trim_eq_word_iff`);
* `dropTerminator_eq_iff` — a text, and behind it the longest terminator that could stand there;
* `words_eq_iff` — words with blanks before, between and behind them.
-/

namespace Tagline

namespace Text

/-! ### Between blanks -/

/-- `t` is what follows the blanks at the start of `s`. -/
def IsTrimStart (s t : Text) : Prop :=
  (∃ pad, allBlank pad = true ∧ s = pad ++ t) ∧ Flush t

/-- `t` is what stands between the blanks at the ends of `s`. -/
def IsTrim (s t : Text) : Prop :=
  (∃ pad pad', allBlank pad = true ∧ allBlank pad' = true ∧ s = pad ++ t ++ pad') ∧
    Flush t ∧ Flush t.reverse

theorem trimStart_append_of_allBlank {pad : Text} (h : allBlank pad = true) (s : Text) :
    trimStart (pad ++ s) = trimStart s :=
  trimStart_append_of_blank (List.all_eq_true.1 h) s

theorem exists_allBlank (s : Text) : ∃ pad, allBlank pad = true ∧ s = pad ++ trimStart s := by
  obtain ⟨pad, hs, hpad⟩ := exists_blanks s
  exact ⟨pad, List.all_eq_true.2 hpad, hs⟩

theorem trimStart_eq_iff {s t : Text} : trimStart s = t ↔ IsTrimStart s t := by
  constructor
  · rintro rfl
    exact ⟨exists_allBlank s, flush_trimStart s⟩
  · rintro ⟨⟨pad, hpad, rfl⟩, ht⟩
    rw [trimStart_append_of_allBlank hpad, trimStart_of_flush ht]

/-- What `trimEnd` takes away are blanks: they are those at the start of the reversed text. -/
theorem exists_allBlank_end (s : Text) : ∃ pad, allBlank pad = true ∧ s = trimEnd s ++ pad := by
  obtain ⟨pad, hpad, hs⟩ := exists_allBlank s.reverse
  refine ⟨pad.reverse, ?_, ?_⟩
  · unfold allBlank
    rw [List.all_reverse]
    exact hpad
  · show s = (trimStart s.reverse).reverse ++ pad.reverse
    rw [← List.reverse_append, ← hs, List.reverse_reverse]

theorem flush_reverse_trimEnd (s : Text) : Flush (trimEnd s).reverse := by
  show Flush (trimStart s.reverse).reverse.reverse
  rw [List.reverse_reverse]
  exact flush_trimStart s.reverse

theorem trimEnd_of_flush_reverse {s : Text} (h : Flush s.reverse) : trimEnd s = s := by
  show (trimStart s.reverse).reverse = s
  rw [trimStart_of_flush h, List.reverse_reverse]

theorem trim_eq_iff {s t : Text} : trim s = t ↔ IsTrim s t := by
  constructor
  · rintro rfl
    obtain ⟨pad, hpad, hs⟩ := exists_allBlank s
    obtain ⟨pad', hpad', hs'⟩ := exists_allBlank_end (trimStart s)
    refine ⟨⟨pad, pad', hpad, hpad', ?_⟩, flush_trim s, flush_reverse_trimEnd _⟩
    calc s = pad ++ trimStart s := hs
      _ = pad ++ (trim s ++ pad') := congrArg (pad ++ ·) hs'
      _ = pad ++ trim s ++ pad' := (List.append_assoc _ _ _).symm
  · rintro ⟨⟨pad, pad', hpad, hpad', rfl⟩, hstart, hend⟩
    -- first the blanks behind `t`, then those in front of it
    rw [trim_append_of_blank (List.all_eq_true.1 hpad')]
    unfold trim
    rw [trimStart_append_of_allBlank hpad, trimStart_of_flush hstart,
      trimEnd_of_flush_reverse hend]

theorem IsWord.flush {w : Text} (h : IsWord w) : Flush w := by
  cases w with
  | nil => exact flush_nil
  | cons c w => exact h.2 c List.mem_cons_self

theorem IsWord.reverse {w : Text} (h : IsWord w) : IsWord w.reverse := by
  refine ⟨mt List.reverse_eq_nil_iff.1 h.1, ?_⟩
  intro c hc
  exact h.2 c (List.mem_reverse.1 hc)

/-- A word is what trimming leaves of it with blanks around it, and of nothing else. -/
theorem trim_eq_word_iff {s w : Text} (hw : IsWord w) :
    trim s = w ↔
      ∃ pad pad', allBlank pad = true ∧ allBlank pad' = true ∧ s = pad ++ w ++ pad' := by
  rw [trim_eq_iff]
  exact and_iff_left ⟨hw.flush, hw.reverse.flush⟩

/-! ### Before the terminator -/

/-- `t` is `s` without the longest terminator that `s` ends in. -/
def IsDropTerminator (s t : Text) : Prop :=
  ∃ e ∈ terminators, s = t ++ e ∧ ∀ e' ∈ terminators, e' <:+ s → e'.length ≤ e.length

/-- What ends a text begins the reversed one. -/
theorem isPrefix_reverse_of_isSuffix {e r : Text} (h : e <:+ r.reverse) : e.reverse <+: r := by
  rw [← List.reverse_suffix, List.reverse_reverse]
  exact h

/-- Only one terminator has two characters. -/
theorem length_le_one_or_eq_pair {e : Text} (he : e ∈ terminators) :
    e.length ≤ 1 ∨ e = ['\r', '\n'] := by
  have hall : ∀ e ∈ terminators, e.length ≤ 1 ∨ e = ['\r', '\n'] := by decide
  exact hall e he

theorem isDropTerminator_dropTerminator (s : Text) : IsDropTerminator s (dropTerminator s) := by
  obtain ⟨r, rfl⟩ : ∃ r : Text, s = r.reverse := ⟨s.reverse, (List.reverse_reverse s).symm⟩
  unfold dropTerminator
  rw [List.reverse_reverse]
  -- In each case, a terminator that is longer than the one found would have to begin the reversed
  -- text with other characters than those that are there.
  fun_cases dropTerminatorRev r with
  | case1 r => exact ⟨['\r', '\n'], by decide, by simp, by simp [terminators]⟩
  | case2 r hr =>
    refine ⟨['\n'], by decide, by simp, ?_⟩
    intro e he hsuffix
    rcases length_le_one_or_eq_pair he with hle | rfl
    · exact hle
    · obtain ⟨r', hr'⟩ := isPrefix_reverse_of_isSuffix hsuffix
      exact absurd (List.cons.inj hr').2.symm (hr r')
  | case3 r =>
    refine ⟨['\r'], by decide, by simp, ?_⟩
    intro e he hsuffix
    rcases length_le_one_or_eq_pair he with hle | rfl
    · exact hle
    · have hpre := isPrefix_reverse_of_isSuffix hsuffix
      exact absurd (List.cons_prefix_cons.1 hpre).1 (by decide)
  | case4 r hpair hfeed hreturn =>
    refine ⟨[], by decide, by simp, ?_⟩
    intro e he hsuffix
    obtain ⟨r', rfl⟩ := isPrefix_reverse_of_isSuffix hsuffix
    simp only [terminators, List.mem_cons, List.not_mem_nil, or_false] at he
    rcases he with rfl | rfl | rfl | rfl
    · exact Nat.le_refl 0
    · exact absurd rfl (hfeed r')
    · exact absurd rfl (hpair r')
    · exact absurd rfl (hreturn r')

/-- There is one longest terminator, and it leaves one text. -/
theorem IsDropTerminator.unique {s t t' : Text} (h : IsDropTerminator s t)
    (h' : IsDropTerminator s t') : t = t' := by
  obtain ⟨e, he, hs, hlongest⟩ := h
  obtain ⟨e', he', hs', hlongest'⟩ := h'
  have hle : e'.length ≤ e.length := hlongest e' he' ⟨t', hs'.symm⟩
  have hge : e.length ≤ e'.length := hlongest' e he ⟨t, hs.symm⟩
  have happ : t ++ e = t' ++ e' := hs.symm.trans hs'
  exact (List.append_inj' happ (Nat.le_antisymm hge hle)).1

theorem dropTerminator_eq_iff {s t : Text} : dropTerminator s = t ↔ IsDropTerminator s t := by
  constructor
  · rintro rfl
    exact isDropTerminator_dropTerminator s
  · exact (isDropTerminator_dropTerminator s).unique

/-! ### Words between blanks -/

/-- The words of a text, in order: blanks may stand anywhere but inside a word, and between two
words there are some. -/
inductive HasWords : Text → List Text → Prop
  | nil {pad : Text} (hpad : allBlank pad = true) : HasWords pad []
  | cons {pad w rest : Text} {ws : List Text} (hpad : allBlank pad = true) (hw : IsWord w)
    (hend : endsWord rest = true) (hrest : HasWords rest ws) :
    HasWords (pad ++ (w ++ rest)) (w :: ws)

theorem words_append_of_allBlank {pad : Text} (h : allBlank pad = true) (s : Text) :
    words (pad ++ s) = words s := by
  rw [← words_trimStart, trimStart_append_of_allBlank h, words_trimStart]

/-- A text without words is blank: its first character that is not would begin one. -/
theorem allBlank_of_words_eq_nil {s : Text} (h : words s = []) : allBlank s = true := by
  obtain ⟨pad, hpad, hs⟩ := exists_allBlank s
  cases hrest : trimStart s with
  | nil =>
    rw [hrest, List.append_nil] at hs
    rw [hs]
    exact hpad
  | cons c r =>
    have hc : isBlank c = false := flush_cons.1 (hrest ▸ flush_trimStart s)
    rw [← words_trimStart, hrest] at h
    exact absurd h (words_cons_ne_nil hc r)

theorem words_eq_iff {s : Text} {ws : List Text} : words s = ws ↔ HasWords s ws := by
  constructor
  · intro h
    induction ws generalizing s with
    | nil => exact .nil (allBlank_of_words_eq_nil h)
    | cons w ws ih =>
      -- the first word stands behind some blanks, with the others in the rest
      obtain ⟨rest, htrim, hend, hrest⟩ := words_eq_cons h
      obtain ⟨pad, hpad, hs⟩ := exists_allBlank s
      have hw : IsWord w := isWord_of_mem_words (h ▸ List.mem_cons_self)
      rw [hs, htrim]
      exact .cons hpad hw hend (ih hrest)
  · intro h
    induction h with
    | nil hpad => exact words_of_allBlank hpad
    | cons hpad hw hend _ ih =>
      rw [words_append_of_allBlank hpad, words_append hw hend, ih]

end Text

end Tagline
