import Tagline.Text.Blank
import Tagline.Text.Line

/-!
# Blanks and terminators at the ends of a text

Lines and arguments lose blanks at their ends and at most one line terminator, in an
order that differs from place to place. This module says what is left, and that the order
does not matter:

* `flush_trimStart` — trimming at the start leaves a text that is *flush*, i.e. does not begin
  with a blank, and leaves a flush text alone (`trimStart_of_flush`);
* `trim_append_of_blank` — blanks at the end are invisible to `trim`;
* `exists_terminator` — `dropTerminator` takes away a terminator or nothing, hence only
  blanks (`trim_dropTerminator`);
* `dropTerminator_append` — and it takes away exactly the terminator that was put after a
  text which ends in none;
* `dropTerminator_trimStart` — trimming at the start and dropping the terminator commute.

The words of a text are read off the same way: `words_append` gives the first of them, and
`words_eq_cons` finds it again.
-/

namespace Tagline

namespace Text

/-! ### Texts that do not begin with a blank -/

/-- A text that does not begin with a blank: it is empty, or its first character is none. -/
def Flush : Text → Prop
  | [] => True
  | c :: _ => isBlank c = false

instance : DecidablePred Flush
  | [] => inferInstanceAs (Decidable True)
  | c :: _ => inferInstanceAs (Decidable (isBlank c = false))

@[simp] theorem flush_nil : Flush [] := trivial

@[simp] theorem flush_cons {c : Char} {s : Text} : Flush (c :: s) ↔ isBlank c = false := Iff.rfl

theorem Flush.of_append {s t : Text} (h : Flush (s ++ t)) : Flush s := by
  cases s with
  | nil => exact flush_nil
  | cons c s => exact h

theorem trimStart_cons_of_blank {c : Char} (hc : isBlank c = true) (s : Text) :
    trimStart (c :: s) = trimStart s :=
  List.dropWhile_cons_of_pos hc

theorem trimStart_of_flush {s : Text} (h : Flush s) : trimStart s = s := by
  cases s with
  | nil => rfl
  | cons c s =>
    rw [flush_cons] at h
    exact List.dropWhile_cons_of_neg (by rw [h]; exact Bool.false_ne_true)

theorem flush_trimStart (s : Text) : Flush (trimStart s) := by
  induction s with
  | nil => exact flush_nil
  | cons c s ih =>
    by_cases hc : isBlank c = true
    · rw [trimStart_cons_of_blank hc]
      exact ih
    · have hflush : Flush (c :: s) := by simpa using hc
      rw [trimStart_of_flush hflush]
      exact hflush

/-- A text is the blanks at its start, followed by the rest. -/
theorem exists_blanks (s : Text) :
    ∃ pad, s = pad ++ trimStart s ∧ ∀ c ∈ pad, isBlank c = true := by
  refine ⟨s.takeWhile isBlank, ?_, ?_⟩
  · exact (List.takeWhile_append_dropWhile).symm
  · intro c hc
    exact List.all_eq_true.1 List.all_takeWhile c hc

theorem trimStart_append_of_blank {pad : Text} (hpad : ∀ c ∈ pad, isBlank c = true) (s : Text) :
    trimStart (pad ++ s) = trimStart s :=
  List.dropWhile_append_of_pos hpad

theorem trimStart_eq_nil {s : Text} (h : ∀ c ∈ s, isBlank c = true) : trimStart s = [] := by
  have happ := trimStart_append_of_blank h []
  rwa [List.append_nil] at happ

/-! ### Blanks at the end -/

theorem trimEnd_append_of_blank {t : Text} (ht : ∀ c ∈ t, isBlank c = true) (s : Text) :
    trimEnd (s ++ t) = trimEnd s := by
  unfold trimEnd
  rw [List.reverse_append, List.dropWhile_append_of_pos]
  intro c hc
  exact ht c (List.mem_reverse.1 hc)

/-- **Blanks at the end are invisible to `trim`.** The text before them may itself consist
of blanks, in which case nothing is left on either side. -/
theorem trim_append_of_blank {t : Text} (ht : ∀ c ∈ t, isBlank c = true) (s : Text) :
    trim (s ++ t) = trim s := by
  unfold trim
  obtain ⟨pad, hs, hpad⟩ := exists_blanks s
  cases hrest : trimStart s with
  | nil =>
    -- blanks and nothing else, with `t` and without it
    have hall : ∀ c ∈ s ++ t, isBlank c = true := by
      intro c hc
      rw [hs, hrest, List.append_nil] at hc
      rcases List.mem_append.1 hc with hc | hc
      · exact hpad c hc
      · exact ht c hc
    rw [trimStart_eq_nil hall]
  | cons c r =>
    -- trimming at the start stops at `c`, before it comes to `t`
    have hflush : Flush (c :: r) := hrest ▸ flush_trimStart s
    have happ : trimStart (s ++ t) = (c :: r) ++ t := by
      rw [hs, hrest, List.append_assoc, trimStart_append_of_blank hpad]
      exact trimStart_of_flush hflush
    rw [happ, trimEnd_append_of_blank ht]

theorem trim_cons_of_blank {c : Char} (hc : isBlank c = true) (s : Text) :
    trim (c :: s) = trim s := by
  unfold trim
  rw [trimStart_cons_of_blank hc]

theorem exists_eq_trimEnd_append (s : Text) : ∃ t, s = trimEnd s ++ t := by
  refine ⟨(s.reverse.takeWhile isBlank).reverse, ?_⟩
  unfold trimEnd
  rw [← List.reverse_append, List.takeWhile_append_dropWhile, List.reverse_reverse]

theorem trimEnd_trimEnd (s : Text) : trimEnd (trimEnd s) = trimEnd s := by
  -- the end of a text is the start of the reversed one
  have hflush : Flush (trimStart s.reverse) := flush_trimStart _
  unfold trimEnd
  rw [List.reverse_reverse]
  exact congrArg List.reverse (trimStart_of_flush hflush)

/-- Trimming at the end leaves the front as it is, so the front stays flush. -/
theorem flush_trim (s : Text) : Flush (trim s) := by
  obtain ⟨t, ht⟩ := exists_eq_trimEnd_append (trimStart s)
  have hs : Flush (trimStart s) := flush_trimStart s
  rw [ht] at hs
  exact hs.of_append

/-- A trimmed text has nothing left to trim. -/
theorem trim_trim (s : Text) : trim (trim s) = trim s := by
  have hflush : Flush (trimEnd (trimStart s)) := flush_trim s
  unfold trim
  rw [trimStart_of_flush hflush, trimEnd_trimEnd]

/-! ### The terminator of a text -/

/-- The terminators of a line, and the empty text, which ends a line that nothing ends. -/
def terminators : List Text := [[], ['\n'], ['\r', '\n'], ['\r']]

/-- A text that ends in no terminator. -/
def Unterminated (s : Text) : Prop := s.getLast? ≠ some '\n' ∧ s.getLast? ≠ some '\r'

instance : DecidablePred Unterminated :=
  fun s => inferInstanceAs (Decidable (s.getLast? ≠ some '\n' ∧ s.getLast? ≠ some '\r'))

theorem isBlank_of_mem_terminator {t : Text} (ht : t ∈ terminators) :
    ∀ c ∈ t, isBlank c = true := by
  have hall : ∀ t ∈ terminators, t.all isBlank = true := by decide
  exact List.all_eq_true.1 (hall t ht)

/-- `dropTerminator` takes away a terminator, or nothing. -/
theorem exists_terminator (s : Text) : ∃ t ∈ terminators, s = dropTerminator s ++ t := by
  obtain ⟨r, rfl⟩ : ∃ r : Text, s = r.reverse := ⟨s.reverse, (List.reverse_reverse s).symm⟩
  unfold dropTerminator
  rw [List.reverse_reverse]
  -- the cases are those of the reversed text: what it begins with is the terminator
  fun_cases dropTerminatorRev r with
  | case1 r => exact ⟨['\r', '\n'], by decide, by simp⟩
  | case2 r => exact ⟨['\n'], by decide, by simp⟩
  | case3 r => exact ⟨['\r'], by decide, by simp⟩
  | case4 r => exact ⟨[], by decide, by simp⟩

theorem Flush.dropTerminator {s : Text} (h : Flush s) : Flush (dropTerminator s) := by
  obtain ⟨t, -, hs⟩ := exists_terminator s
  rw [hs] at h
  exact h.of_append

/-- A terminator is invisible to `trim`. -/
theorem trim_dropTerminator (s : Text) : trim (dropTerminator s) = trim s := by
  obtain ⟨t, ht, hs⟩ := exists_terminator s
  have happ := trim_append_of_blank (isBlank_of_mem_terminator ht) (dropTerminator s)
  rw [← hs] at happ
  exact happ.symm

/-- The pair of carriage return and line feed is dropped after any text. -/
theorem dropTerminator_append_pair (s : Text) : dropTerminator (s ++ ['\r', '\n']) = s := by
  simp [dropTerminator, dropTerminatorRev]

/-- A terminator after a text that ends in none is dropped, and nothing else. -/
theorem dropTerminator_append {s t : Text} (hs : Unterminated s) (ht : t ∈ terminators) :
    dropTerminator (s ++ t) = s := by
  obtain ⟨r, rfl⟩ : ∃ r : Text, s = r.reverse := ⟨s.reverse, (List.reverse_reverse s).symm⟩
  have hr : r.head? ≠ some '\n' ∧ r.head? ≠ some '\r' := by
    simpa [Unterminated, List.getLast?_reverse] using hs
  -- on the reversed text, the terminator stands in front of a character that is none
  have hrev : dropTerminatorRev (t.reverse ++ r) = r := by
    simp only [terminators, List.mem_cons, List.not_mem_nil, or_false] at ht
    rcases ht with rfl | rfl | rfl | rfl <;> cases r with
    | nil => rfl
    | cons c r =>
      simp only [List.head?_cons, ne_eq, Option.some.injEq] at hr
      simp [dropTerminatorRev, hr.1, hr.2]
  unfold dropTerminator
  rw [List.reverse_append, List.reverse_reverse, hrev]

/-- What stands before a character that is no terminator plays no part. -/
theorem dropTerminatorRev_append {c : Char} (hc : isBlank c = false) (s t : Text) :
    dropTerminatorRev (s ++ c :: t) = dropTerminatorRev (s ++ [c]) ++ t := by
  have hn : c ≠ '\n' := by
    rintro rfl
    exact absurd hc (by decide)
  have hr : c ≠ '\r' := by
    rintro rfl
    exact absurd hc (by decide)
  -- a terminator has two characters at most, so only the first two of `s` are looked at
  rcases s with _ | ⟨a, _ | ⟨b, s⟩⟩
  · simp [dropTerminatorRev, hn, hr]
  · by_cases ha : a = '\n'
    · simp [dropTerminatorRev, ha, hr]
    · by_cases ha' : a = '\r' <;> simp [dropTerminatorRev, ha, ha']
  · by_cases ha : a = '\n'
    · by_cases hb : b = '\r' <;> simp [dropTerminatorRev, ha, hb]
    · by_cases ha' : a = '\r' <;> simp [dropTerminatorRev, ha, ha']

/-- **The order does not matter.** Trimming at the start and dropping the terminator
commute, also on a text of blanks, of which both leave nothing. -/
theorem dropTerminator_trimStart (s : Text) :
    dropTerminator (trimStart s) = trimStart (dropTerminator s) := by
  obtain ⟨pad, hs, hpad⟩ := exists_blanks s
  cases hrest : trimStart s with
  | nil =>
    -- `s` is blanks only, and so is what dropping its terminator leaves
    obtain ⟨t, -, ht⟩ := exists_terminator s
    have hall : ∀ c ∈ dropTerminator s, isBlank c = true := by
      intro c hc
      have hmem : c ∈ s := by
        rw [ht]
        exact List.mem_append_left t hc
      rw [hs, hrest, List.append_nil] at hmem
      exact hpad c hmem
    rw [trimStart_eq_nil hall]
    rfl
  | cons c r =>
    -- the terminator lies behind `c`, out of reach of the blanks at the start
    have hflush : Flush (c :: r) := hrest ▸ flush_trimStart s
    have hdrop : dropTerminator s = pad ++ dropTerminator (c :: r) := by
      rw [hs, hrest]
      unfold dropTerminator
      rw [List.reverse_append, List.reverse_cons, List.append_assoc, List.singleton_append,
        dropTerminatorRev_append (flush_cons.1 hflush), List.reverse_append, List.reverse_reverse]
    rw [hdrop, trimStart_append_of_blank hpad, trimStart_of_flush hflush.dropTerminator]

/-! ### Words -/

/-- A word: not empty, and without blanks. -/
def IsWord (w : Text) : Prop := w ≠ [] ∧ ∀ c ∈ w, isBlank c = false

instance : DecidablePred IsWord :=
  fun w => decidable_of_iff (w ≠ [] ∧ w.all (fun c => !isBlank c) = true) (by simp [IsWord])

theorem words_cons_of_blank {c : Char} (hc : isBlank c = true) (s : Text) :
    words (c :: s) = words s := by
  rw [words, if_pos hc]

/-- A text that begins with a character of a word has a word. -/
theorem words_cons_ne_nil {c : Char} (hc : isBlank c = false) (s : Text) : words (c :: s) ≠ [] := by
  rw [words, if_neg (by rw [hc]; exact Bool.false_ne_true)]
  split
  · exact List.cons_ne_nil _ _
  · cases words s <;> exact List.cons_ne_nil _ _

/-- **The first word.** A word that ends where another text begins is the first word of the
two together. -/
theorem words_append {w s : Text} (hw : IsWord w) (hs : endsWord s = true) :
    words (w ++ s) = w :: words s := by
  obtain ⟨hne, hb⟩ := hw
  induction w with
  | nil => exact absurd rfl hne
  | cons c w ih =>
    have hc : ¬ isBlank c = true := by
      rw [hb c List.mem_cons_self]
      exact Bool.false_ne_true
    rw [List.cons_append, words, if_neg hc]
    cases w with
    | nil => rw [List.nil_append, if_pos hs]
    | cons d w =>
      -- the word goes on with `d`, so `c` is put in front of what it begins
      have hd : ¬ endsWord (d :: w ++ s) = true := by
        show ¬ isBlank d = true
        rw [hb d (by simp)]
        exact Bool.false_ne_true
      rw [if_neg hd, ih (List.cons_ne_nil d w) fun a ha => hb a (List.mem_cons_of_mem c ha)]
      rfl

theorem isWord_of_mem_words {s w : Text} (h : w ∈ words s) : IsWord w := by
  fun_induction words s generalizing w with
  | case1 => exact absurd h List.not_mem_nil
  | case2 c s hc ih => exact ih h
  | case3 c s hc hs ih =>
    rcases List.mem_cons.1 h with rfl | h
    · exact ⟨List.cons_ne_nil c [], by simpa using hc⟩
    · exact ih h
  | case4 c s hc hs ih =>
    -- `c` joins the first word of `s`, or is a word of its own
    cases hws : words s with
    | nil =>
      rw [hws] at h
      obtain rfl : w = [c] := List.mem_singleton.1 h
      exact ⟨List.cons_ne_nil c [], by simpa using hc⟩
    | cons v vs =>
      rw [hws] at h ih
      rcases List.mem_cons.1 h with rfl | h
      · have hv : IsWord v := ih List.mem_cons_self
        refine ⟨List.cons_ne_nil c v, ?_⟩
        intro a ha
        rcases List.mem_cons.1 ha with rfl | ha
        · simpa using hc
        · exact hv.2 a ha
      · exact ih (List.mem_cons_of_mem v h)

/-- Where the first word of a text stands: after the blanks at the start, and before an end
or a blank, with the other words behind it. -/
theorem words_eq_cons {s w : Text} {ws : List Text} (h : words s = w :: ws) :
    ∃ r, trimStart s = w ++ r ∧ endsWord r = true ∧ words r = ws := by
  fun_induction words s generalizing w ws with
  | case1 => exact absurd h (List.cons_ne_nil w ws).symm
  | case2 c s hc ih =>
    rw [trimStart_cons_of_blank hc]
    exact ih h
  | case3 c s hc hs ih =>
    obtain ⟨rfl, rfl⟩ := List.cons.inj h
    have hflush : Flush (c :: s) := by simpa using hc
    exact ⟨s, trimStart_of_flush hflush, hs, rfl⟩
  | case4 c s hc hs ih =>
    have hflush : Flush (c :: s) := by simpa using hc
    rw [trimStart_of_flush hflush]
    -- the word goes on: `s` begins with its next character, so it has a first word too
    cases s with
    | nil => exact absurd rfl hs
    | cons d s =>
      have hd : isBlank d = false := by simpa [endsWord] using hs
      obtain ⟨v, vs, hv⟩ := List.exists_cons_of_ne_nil (words_cons_ne_nil hd s)
      rw [hv] at h
      obtain ⟨rfl, rfl⟩ := List.cons.inj h
      obtain ⟨r, hr, hend, hws⟩ := ih hv
      rw [trimStart_of_flush (s := d :: s) hd] at hr
      exact ⟨r, by rw [hr]; rfl, hend, hws⟩

theorem words_trimStart (s : Text) : words (trimStart s) = words s := by
  induction s with
  | nil => rfl
  | cons c s ih =>
    by_cases hc : isBlank c = true
    · rw [trimStart_cons_of_blank hc, words_cons_of_blank hc]
      exact ih
    · have hflush : Flush (c :: s) := by simpa using hc
      rw [trimStart_of_flush hflush]

theorem words_of_allBlank {s : Text} (h : allBlank s = true) : words s = [] := by
  have hall : ∀ c ∈ s, isBlank c = true := List.all_eq_true.1 h
  rw [← words_trimStart, trimStart_eq_nil hall]
  rfl

end Text

end Tagline
