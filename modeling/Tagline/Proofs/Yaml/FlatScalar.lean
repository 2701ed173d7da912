import Tagline.Proofs.Yaml.Scalars
import Tagline.Text.Blank
import Tagline.Yaml.Token

/-!
# Scalars on a line

Two ways to write a scalar that have no surprises: as a *word* of letters, digits and `_`, and as a
printable text in single quotes, in which every quote is written twice. Nothing in a word has a
meaning of its own, and in quotes nothing has one but the quote.

* `plainFrom_key` — a word before a colon and a space is a plain scalar, and so may be a key;
* `exists_plainFrom_value` — so is a word at the end of a line, which the next line does not go on
  with, since it is not indented;
* `exists_singleFrom_doubled` — a text in single quotes is found again, spaces and quotes included.
-/

namespace Tagline

namespace Yaml

namespace Flat

/-! ### Words and quoted texts -/

/-- A letter or digit of the basic range, or `_`. -/
def isWordChar (c : Char) : Bool := c.isAlphanum || c == '_'

/-- A word: not empty, and made of letters, digits and `_`. -/
def IsWord (w : Text) : Prop := w ≠ [] ∧ ∀ c ∈ w, isWordChar c = true

instance : DecidablePred IsWord :=
  fun w => decidable_of_iff (w ≠ [] ∧ w.all isWordChar = true) (by simp [IsWord])

/-- A printable character of the basic range, the space included. -/
def isPrintable (c : Char) : Bool := 0x20 ≤ c.toNat && c.toNat ≤ 0x7E

/-- A text with every single quote written twice. -/
def doubled (s : Text) : Text := s.flatMap fun c => if c = '\'' then ['\'', '\''] else [c]

section WordChar

variable {c : Char}

theorem ne_of_isWordChar (h : isWordChar c = true) {d : Char} (hd : isWordChar d = false) :
    c ≠ d := by
  rintro rfl
  exact Bool.false_ne_true (hd.symm.trans h)

/-- No character of a word has a meaning of its own. -/
theorem indicators_of_isWordChar (h : isWordChar c = true) :
    ∀ d ∈ Reader.indicators, (c == d) = false := by
  have hall : Reader.indicators.all (fun d => !isWordChar d) = true := by decide
  intro d hd
  refine beq_false_of_ne (ne_of_isWordChar h ?_)
  simpa using List.all_eq_true.1 hall d hd

theorem isSpace_of_isWordChar (h : isWordChar c = true) : isSpace c = false := by
  unfold isSpace
  rw [beq_false_of_ne (ne_of_isWordChar h (by decide)),
    beq_false_of_ne (ne_of_isWordChar h (by decide))]
  rfl

theorem isFlowIndicator_of_isWordChar (h : isWordChar c = true) : isFlowIndicator c = false := by
  have hne := indicators_of_isWordChar h
  unfold isFlowIndicator
  rw [hne _ (by decide), hne _ (by decide), hne _ (by decide), hne _ (by decide),
    hne _ (by decide)]
  rfl

/-- The characters of words are from `0` to `z`. -/
theorem toNat_of_isWordChar (h : isWordChar c = true) : 48 ≤ c.toNat ∧ c.toNat ≤ 122 := by
  have hclass : ((c.isUpper || c.isLower || c.isDigit) || c == '_') = true := h
  rw [Bool.or_eq_true, Bool.or_eq_true, Bool.or_eq_true] at hclass
  rcases hclass with ((hupper | hlower) | hdigit) | hline
  · have hrange : 65 ≤ c.toNat ∧ c.toNat ≤ 90 := of_decide_eq_true hupper
    omega
  · obtain ⟨ha, hz⟩ := Bool.and_eq_true_iff.1 hlower
    have hrange : 97 ≤ c.toNat ∧ c.toNat ≤ 122 := ⟨of_decide_eq_true ha, of_decide_eq_true hz⟩
    omega
  · obtain ⟨hzero, hnine⟩ := Bool.and_eq_true_iff.1 hdigit
    have hrange : 48 ≤ c.toNat ∧ c.toNat ≤ 57 :=
      ⟨of_decide_eq_true hzero, of_decide_eq_true hnine⟩
    omega
  · rw [eq_of_beq hline]
    decide

theorem isPrintable_of_isWordChar (h : isWordChar c = true) : isPrintable c = true := by
  have hrange := toNat_of_isWordChar h
  unfold isPrintable
  rw [Bool.and_eq_true, decide_eq_true_eq, decide_eq_true_eq]
  omega

theorem isBlank_of_isWordChar (h : isWordChar c = true) : Text.isBlank c = false := by
  have hrange := toNat_of_isWordChar h
  unfold Text.isBlank
  simp only [Bool.or_eq_false_iff, Bool.and_eq_false_iff, decide_eq_false_iff_not,
    beq_eq_false_iff_ne]
  omega

end WordChar

theorem isAllowed_of_isPrintable {c : Char} (h : isPrintable c = true) : isAllowed c = true := by
  unfold isPrintable at h
  unfold isAllowed
  simp only [h, Bool.or_true, Bool.true_or]

/-- No printable character ends a line. -/
theorem isBreak_of_isPrintable {c : Char} (h : isPrintable c = true) : isBreak c = false := by
  have hne : ∀ d, isPrintable d = false → (c == d) = false := by
    intro d hd
    refine beq_false_of_ne ?_
    rintro rfl
    exact Bool.false_ne_true (hd.symm.trans h)
  unfold isBreak
  rw [hne _ (by decide), hne _ (by decide), hne _ (by decide), hne _ (by decide),
    hne _ (by decide)]
  rfl

theorem isBreak_of_isWordChar {c : Char} (h : isWordChar c = true) : isBreak c = false :=
  isBreak_of_isPrintable (isPrintable_of_isWordChar h)

/-! ### Reading a scalar -/

/-- What stands behind a line, and what is left at the start of the next one: nothing, be it behind
the end of the line, or a line that begins with a word. -/
inductive Tail : Text → Text → Prop
  | ended : Tail [] []
  | feed : Tail ['\n'] []
  | line {c : Char} {s : Text} (hc : isWordChar c = true) : Tail ('\n' :: c :: s) (c :: s)

section Word

variable {i : Nat}

/-- A plain scalar goes on through a word. -/
theorem plainFrom_word {w : Text} (hw : ∀ c ∈ w, isWordChar c = true) (here : Place)
    (rest : Text) :
    plainFrom false i {} here (w ++ rest) =
      (plainFrom false i {} (here.skip w.length) rest).map (Scanned.prepend w) := by
  induction w generalizing here with
  | nil =>
    have hskip : here.skip ([] : Text).length = here := rfl
    rw [List.nil_append, hskip]
    cases plainFrom false i {} here rest <;> rfl
  | cons c w ih =>
    obtain ⟨hc, hw⟩ := List.forall_mem_cons.1 hw
    have hcolon : (c == ':' && atGap (w ++ rest)) = false := by
      rw [indicators_of_isWordChar hc _ (by decide), Bool.false_and]
    have hplace : here.next.skip w.length = here.skip (c :: w).length := Place.next_skip _ _
    rw [List.cons_append, plainFrom_first (isBreak_of_isWordChar hc) (isSpace_of_isWordChar hc)
      hcolon (isFlowIndicator_of_isWordChar hc), Bool.false_and, Bool.false_and,
      if_neg Bool.false_ne_true, ih hw, hplace]
    cases plainFrom false i {} (here.skip (c :: w).length) rest <;> rfl

/-- A word before a colon and a space is a key. -/
theorem plainFrom_key {w : Text} (hw : ∀ c ∈ w, isWordChar c = true) (here : Place)
    (rest : Text) :
    plainFrom false i {} here (w ++ ':' :: ' ' :: rest) =
      .ok ⟨w, ':' :: ' ' :: rest, here.skip w.length, false⟩ := by
  have hend : plainFrom false i {} (here.skip w.length) (':' :: ' ' :: rest) =
      .ok ⟨[], ':' :: ' ' :: rest, here.skip w.length, false⟩ := by
    rw [plainFrom_cons (by decide)]
    rfl
  rw [plainFrom_word hw, hend]
  simp [Except.map, Scanned.prepend]

/-- A word at the end of a line is a value: the next line is not indented, and so not a part of
it. -/
theorem exists_plainFrom_value {w : Text} (hw : ∀ c ∈ w, isWordChar c = true) (here : Place)
    {tail rest : Text} (htail : Tail tail rest) :
    ∃ place broken, plainFrom false 1 {} here (w ++ tail) = .ok ⟨w, rest, place, broken⟩ ∧
      (rest ≠ [] → place.column = 0 ∧ broken = true) := by
  have hend : ∃ place broken, plainFrom false 1 {} (here.skip w.length) tail =
      .ok ⟨[], rest, place, broken⟩ ∧ (rest ≠ [] → place.column = 0 ∧ broken = true) := by
    generalize here.skip w.length = here
    have hfeed : ∀ s, plainFrom false 1 {} here ('\n' :: s) =
        plainFrom false 1 (({} : Gap).addBreak ['\n']) here.nextLine s :=
      passesGaps_plainFrom.lineEnd {} here (.inl rfl)
    cases htail with
    | ended => exact ⟨here, false, by rw [plainFrom]; rfl, fun h => absurd rfl h⟩
    | feed =>
      refine ⟨here.nextLine, true, ?_, fun h => absurd rfl h⟩
      rw [hfeed, plainFrom]
      rfl
    | @line c s hc =>
      refine ⟨here.nextLine, true, ?_, fun _ => ⟨rfl, rfl⟩⟩
      rw [hfeed, plainFrom_cons (isBreak_of_isWordChar hc), isSpace_of_isWordChar hc]
      rfl
  obtain ⟨place, broken, hend, hline⟩ := hend
  refine ⟨place, broken, ?_, hline⟩
  rw [plainFrom_word hw, hend]
  simp [Except.map, Scanned.prepend]

end Word

/-- **A text in single quotes is found again,** with the spaces before it that were read already.
The closing quote is the one behind which there is none. -/
theorem exists_singleFrom_doubled {s : Text} (hs : ∀ c ∈ s, isPrintable c = true) {g : Gap}
    (hg : g.first = none) (here : Place) (hcolumn : here.column ≠ 0) {rest : Text}
    (hrest : rest.head? ≠ some '\'') :
    ∃ place, singleFrom g here (doubled s ++ '\'' :: rest) =
      .ok ⟨g.text ++ s, rest, place, false⟩ := by
  have hmark : ∀ (p : Place) t, p.column ≠ 0 → (p.column == 0 && isDocumentMark t) = false := by
    intro p t hp
    rw [beq_false_of_ne hp, Bool.false_and]
  have hunbroken : ∀ g : Gap, g.first = none → g.text = g.spaces := by
    intro g hg
    unfold Gap.text
    rw [hg]
  induction s generalizing g here with
  | nil =>
    refine ⟨here.next, ?_⟩
    show singleFrom g here ('\'' :: rest) = _
    rw [singleFrom_cons (by decide) fun _ => hrest, if_neg (by decide), hmark _ _ hcolumn,
      List.append_nil]
    rfl
  | cons c s ih =>
    obtain ⟨hc, hs'⟩ := List.forall_mem_cons.1 hs
    have hbreak := isBreak_of_isPrintable hc
    by_cases hquote : c = '\''
    · subst hquote
      obtain ⟨place, hplace⟩ := ih hs' (g := {}) rfl (here.skip 2) (Nat.succ_ne_zero _)
      refine ⟨place, ?_⟩
      show singleFrom g here ('\'' :: '\'' :: (doubled s ++ '\'' :: rest)) = _
      rw [singleFrom, hplace]
      simp [Except.map, Scanned.prepend, hunbroken]
    · have hdoubled : doubled (c :: s) = c :: doubled s := by
        simp [doubled, hquote]
      rw [hdoubled, List.cons_append, singleFrom_cons hbreak fun h => absurd h hquote]
      by_cases hblank : isSpace c = true
      · -- a space waits in the gap for what follows it
        have hadd : g.addSpace c = { g with spaces := g.spaces ++ [c] } := by
          unfold Gap.addSpace Gap.broken
          rw [hg]
          rfl
        obtain ⟨place, hplace⟩ := ih hs' (g := g.addSpace c) (by rw [hadd]; exact hg)
          here.next (Nat.succ_ne_zero _)
        refine ⟨place, ?_⟩
        rw [if_pos hblank, hplace, hunbroken _ (by rw [hadd]; exact hg), hunbroken _ hg, hadd]
        simp
      · obtain ⟨place, hplace⟩ := ih hs' (g := {}) rfl here.next (Nat.succ_ne_zero _)
        refine ⟨place, ?_⟩
        rw [if_neg hblank, hmark _ _ hcolumn, if_neg Bool.false_ne_true,
          beq_false_of_ne hquote, if_neg Bool.false_ne_true, hplace]
        simp [Except.map, Scanned.prepend, hunbroken]

end Flat

end Yaml

end Tagline
