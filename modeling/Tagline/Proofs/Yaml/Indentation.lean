import Tagline.Yaml.Token

/-!
# Indentation in a YAML text

A YAML text can be moved to the right as a whole. This module says what it means that a text is
another one with more spaces before its lines (`Indented`), and what two readers of the two texts
have to do with each other.

* `Indented` — the second text has `n` more spaces before each later line than the first, may end
  its lines with a carriage return, and may have a trail: the end of its last line and spaces. The
  first is a *bare* document, none of whose lines is a directive or a mark, and neither holds a sign
  that may begin a block scalar, whose lines are told apart by their indentation;
* `InStep` — the readers are at the same character, some lines and `n` columns apart;
* `Onward` — how far they have come from an earlier place. On one line they have read the same
  bytes, which is what the distance of a key from its `:` is measured in;
* `Tracks` — what the second reader finds is also found by the first. Nothing is said of errors.
-/

namespace Tagline

namespace Yaml

/-! ### Reading in parallel -/

/-- Whatever the second computation gives, the first gives something that is related to it. -/
def Tracks {α β : Type} (R : α → β → Prop) (x : Except Error α) (y : Except Error β) : Prop :=
  ∀ b, y = .ok b → ∃ a, x = .ok a ∧ R a b

namespace Tracks

variable {α β γ δ : Type} {R : α → β → Prop} {S : γ → δ → Prop}

theorem ok {a : α} {b : β} (h : R a b) : Tracks R (.ok a) (.ok b) := by
  intro b' hb
  obtain rfl := Except.ok.inj hb
  exact ⟨a, rfl, h⟩

theorem error {x : Except Error α} {e : Error} : Tracks R x (.error e) :=
  fun _ hb => nomatch hb

theorem bind {x : Except Error α} {y : Except Error β} {f : α → Except Error γ}
    {g : β → Except Error δ} (hx : Tracks R x y) (hf : ∀ a b, R a b → Tracks S (f a) (g b)) :
    Tracks S (x >>= f) (y >>= g) := by
  intro d hd
  cases y with
  | error e => exact nomatch hd
  | ok b =>
    obtain ⟨a, rfl, hR⟩ := hx b rfl
    exact hf a b hR d hd

theorem map {x : Except Error α} {y : Except Error β} {f : α → γ} {g : β → δ}
    (hx : Tracks R x y) (hf : ∀ a b, R a b → S (f a) (g b)) : Tracks S (x.map f) (y.map g) := by
  intro d hd
  cases y with
  | error e => exact nomatch hd
  | ok b =>
    obtain ⟨a, rfl, hR⟩ := hx b rfl
    obtain rfl := Except.ok.inj hd
    exact ⟨f a, rfl, hf a b hR⟩

theorem mono {R' : α → β → Prop} {x : Except Error α} {y : Except Error β} (hx : Tracks R x y)
    (h : ∀ a b, R a b → R' a b) : Tracks R' x y := by
  intro b hb
  obtain ⟨a, ha, hR⟩ := hx b hb
  exact ⟨a, ha, h a b hR⟩

/-- Both computations take the same branch. -/
theorem ite {p p' : Prop} [Decidable p] [Decidable p']
    {x y : Except Error α} {x' y' : Except Error β} (hp : p' ↔ p) (h : p → Tracks R x x')
    (h' : ¬ p → Tracks R y y') : Tracks R (if p then x else y) (if p' then x' else y') := by
  by_cases hb : p
  · rw [if_pos hb, if_pos (hp.2 hb)]
    exact h hb
  · rw [if_neg hb, if_neg (mt hp.1 hb)]
    exact h' hb

/-- It may be assumed that the second computation gives something. -/
theorem of_ok {x : Except Error α} {y : Except Error β} (h : ∀ b, y = .ok b → Tracks R x y) :
    Tracks R x y := fun b hb => h b hb b hb

end Tracks

/-! ### Texts that are indented more -/

/-- Spaces in a row. -/
def spaces (n : Nat) : Text := List.replicate n ' '

/-- The two ways to end a line. -/
def IsLineEnd (b : Text) : Prop := b = ['\n'] ∨ b = ['\r', '\n']

/-- What may stand behind the last line: nothing, or the end of the line and spaces. -/
def IsTrail (t : Text) : Prop := t = [] ∨ ∃ b k, IsLineEnd b ∧ t = b ++ spaces k

/-- A text may begin a line of a bare document: with something else than a gap, and with neither a
directive nor a byte order mark nor one of the marks `---` and `...`. -/
def LineStart : Text → Prop
  | [] => False
  | c :: s => isSpace c = false ∧ isBreak c = false ∧ c ≠ '%' ∧ c ≠ '\ufeff' ∧
      isDocumentMark (c :: s) = false

instance : DecidablePred LineStart
  | [] => .isFalse id
  | c :: s => inferInstanceAs (Decidable (isSpace c = false ∧ isBreak c = false ∧ c ≠ '%' ∧
      c ≠ '\ufeff' ∧ isDocumentMark (c :: s) = false))

/-- The second text is the first, with `n` more spaces before each line but the first, either way
to end a line, and a trail. There are no signs that may begin a block scalar. -/
inductive Indented (n : Nat) : Text → Text → Prop
  | trail {t : Text} (ht : IsTrail t) : Indented n [] t
  | char {c : Char} {s s' : Text} (hc : isBreak c = false) (hb : c ≠ '|' ∧ c ≠ '>')
      (h : Indented n s s') : Indented n (c :: s) (c :: s')
  | line {b s s' : Text} (hb : IsLineEnd b) (hs : LineStart s) (h : Indented n s s') :
      Indented n ('\n' :: s) (b ++ (spaces n ++ s'))

theorem isBreak_eq_false {c : Char} (h : isBreak c = false) : c ≠ '\n' ∧ c ≠ '\r' := by
  constructor <;> rintro rfl <;> exact absurd h (by decide)

theorem IsLineEnd.exists_cons {b : Text} (h : IsLineEnd b) :
    ∃ c r, b = c :: r ∧ (c = '\n' ∨ c = '\r') := by
  rcases h with rfl | rfl
  · exact ⟨'\n', [], rfl, .inl rfl⟩
  · exact ⟨'\r', ['\n'], rfl, .inr rfl⟩

/-- The first character of a trail ends a line. -/
theorem IsTrail.head?_mem {t : Text} (h : IsTrail t) {c : Char} (hc : t.head? = some c) :
    c = '\n' ∨ c = '\r' := by
  rcases h with rfl | ⟨b, k, hb, rfl⟩
  · exact nomatch hc
  · obtain ⟨d, r, rfl, hd⟩ := hb.exists_cons
    obtain rfl := Option.some.inj hc
    exact hd

theorem isDocumentMark_iff {s : Text} : isDocumentMark s = true ↔
    ∃ m r, (m = "---".toList ∨ m = "...".toList) ∧ s = m ++ r ∧ atGap r = true := by
  constructor
  · intro h
    unfold isDocumentMark at h
    split at h
    · exact ⟨_, _, .inl rfl, rfl, h⟩
    · exact ⟨_, _, .inr rfl, rfl, h⟩
    · exact nomatch h
  · rintro ⟨m, r, rfl | rfl, rfl, h⟩
    · exact h
    · exact h

namespace Indented

variable {n : Nat} {s s' : Text}

/-- What is said of the next character, and does not hold of an end of a line, holds in both texts
or in neither. -/
theorem any_head? (h : Indented n s s') {p : Char → Bool} (hn : p '\n' = false)
    (hr : p '\r' = false) : s'.head?.any p = s.head?.any p := by
  cases h with
  | trail ht =>
    cases hhead : s'.head? with
    | none => rfl
    | some c => rcases ht.head?_mem hhead with rfl | rfl <;> assumption
  | char hc hb h => rfl
  | line hb hs h =>
    obtain ⟨c, r, rfl, hc⟩ := hb.exists_cons
    show p c = p '\n'
    rcases hc with rfl | rfl <;> simp [hn, hr]

/-- What holds of the ends of lines is said of the next character in both texts or in neither, if
there is one. -/
theorem all_head? (h : Indented n s s') {p : Char → Bool} (hn : p '\n' = true)
    (hr : p '\r' = true) : s'.head?.all p = s.head?.all p := by
  have hall : ∀ t : Text, t.head?.all p = !t.head?.any fun c => !p c := by
    intro t
    cases t <;> simp
  rw [hall, hall, h.any_head? (by simp [hn]) (by simp [hr])]

theorem atGap_eq (h : Indented n s s') : atGap s' = atGap s := by
  have hall : ∀ t, atGap t = t.head?.all fun c => isSpace c || isBreak c := by
    intro t
    cases t <;> rfl
  rw [hall, hall]
  exact h.all_head? (by decide) (by decide)

theorem endsName_eq (h : Indented n s s') : Reader.endsName s' = Reader.endsName s := by
  have hall : ∀ t, Reader.endsName t = t.head?.all fun c =>
      isSpace c || isBreak c || "?:,]\x7d%@`".toList.contains c := by
    intro t
    cases t <;> rfl
  rw [hall, hall]
  exact h.all_head? (by decide) (by decide)

/-- A character that ends no line stands in both texts. -/
theorem of_cons {c : Char} (hc : isBreak c = false) (h : Indented n s (c :: s')) :
    ∃ r, s = c :: r ∧ c ≠ '|' ∧ c ≠ '>' ∧ Indented n r s' := by
  generalize ht : c :: s' = t at h
  cases h with
  | trail htrail =>
    obtain ⟨hn, hr⟩ := isBreak_eq_false hc
    rcases htrail.head?_mem (c := c) (by rw [← ht]; rfl) with rfl | rfl
    · exact absurd rfl hn
    · exact absurd rfl hr
  | char _ hb h =>
    obtain ⟨rfl, rfl⟩ := List.cons.inj ht
    exact ⟨_, rfl, hb.1, hb.2, h⟩
  | line hb _ _ =>
    obtain ⟨hn, hr⟩ := isBreak_eq_false hc
    obtain ⟨d, r, rfl, hd⟩ := hb.exists_cons
    obtain ⟨rfl, -⟩ := List.cons.inj ht
    rcases hd with rfl | rfl
    · exact absurd rfl hn
    · exact absurd rfl hr

/-- Where the second text has the end of a line, the first ends or has one too. -/
theorem of_isBreak {c : Char} (hc : isBreak c = true) (h : Indented n s (c :: s')) :
    (s = [] ∧ IsTrail (c :: s')) ∨ ∃ b r r', IsLineEnd b ∧ LineStart r ∧ Indented n r r' ∧
      s = '\n' :: r ∧ c :: s' = b ++ (spaces n ++ r') := by
  generalize ht : c :: s' = t at h ⊢
  cases h with
  | trail htrail => exact .inl ⟨rfl, htrail⟩
  | char hc' _ _ =>
    obtain ⟨rfl, -⟩ := List.cons.inj ht
    exact absurd (hc.symm.trans hc') (by decide)
  | line hb hs h => exact .inr ⟨_, _, _, hb, hs, h, rfl, rfl⟩

/-- A character of the first text that ends no line stands in both texts. -/
theorem of_cons_left {c : Char} {r : Text} (hc : isBreak c = false) (h : Indented n (c :: r) s') :
    ∃ r', s' = c :: r' ∧ Indented n r r' := by
  generalize ht : c :: r = t at h
  cases h with
  | trail _ => exact nomatch ht
  | char _ _ h =>
    obtain ⟨rfl, rfl⟩ := List.cons.inj ht
    exact ⟨_, rfl, h⟩
  | line _ _ _ =>
    obtain ⟨rfl, -⟩ := List.cons.inj ht
    exact absurd rfl (isBreak_eq_false hc).1

/-- Characters that end no line stand in both texts. -/
theorem of_append {w : Text} (hw : ∀ c ∈ w, isBreak c = false) (h : Indented n s (w ++ s')) :
    ∃ r, s = w ++ r ∧ Indented n r s' := by
  induction w generalizing s with
  | nil => exact ⟨s, rfl, h⟩
  | cons c w ih =>
    obtain ⟨hc, hw⟩ := List.forall_mem_cons.1 hw
    obtain ⟨r, rfl, -, -, hr⟩ := h.of_cons hc
    obtain ⟨t, rfl, ht⟩ := ih hw hr
    exact ⟨t, rfl, ht⟩

/-- A mark of the second text is one of the first. -/
theorem isDocumentMark_of (h : Indented n s s') (hmark : isDocumentMark s' = true) :
    isDocumentMark s = true := by
  obtain ⟨m, r', hm, rfl, hgap⟩ := isDocumentMark_iff.1 hmark
  have hall : m.all (fun c => !isBreak c) = true := by
    rcases hm with rfl | rfl <;> decide
  have hbreak : ∀ c ∈ m, isBreak c = false := by
    intro c hc
    exact Bool.not_eq_true' _ ▸ List.all_eq_true.1 hall c hc
  obtain ⟨r, rfl, hr⟩ := h.of_append hbreak
  rw [hr.atGap_eq] at hgap
  exact isDocumentMark_iff.2 ⟨m, r, hm, rfl, hgap⟩

/-- The characters of a class are the same ones at the front of both texts. -/
theorem takeWhile_eq (h : Indented n s s') {p : Char → Bool} (hn : p '\n' = false)
    (hr : p '\r' = false) :
    s'.takeWhile p = s.takeWhile p ∧ Indented n (s.dropWhile p) (s'.dropWhile p) := by
  induction h with
  | trail ht =>
    rcases ht with rfl | ⟨b, k, rfl | rfl, rfl⟩
    · exact ⟨rfl, .trail (.inl rfl)⟩
    · simp [hn]
      exact .trail (.inr ⟨_, k, .inl rfl, rfl⟩)
    · simp [hr]
      exact .trail (.inr ⟨_, k, .inr rfl, rfl⟩)
  | @char c s s' hc hb h ih =>
    by_cases hp : p c = true
    · simp only [List.takeWhile_cons_of_pos hp, List.dropWhile_cons_of_pos hp, List.cons.injEq,
        true_and]
      exact ih
    · simp only [List.takeWhile_cons_of_neg hp, List.dropWhile_cons_of_neg hp, true_and]
      exact .char hc hb h
  | @line b s s' hb hs h _ =>
    rcases hb with rfl | rfl
    · simp [hn]
      exact .line (.inl rfl) hs h
    · simp [hn, hr]
      exact .line (.inr rfl) hs h

/-- A character that ends no line is the first of both texts or of neither. -/
theorem cases_head (h : Indented n s s') {c : Char} (hc : isBreak c = false) :
    (∃ r r', s = c :: r ∧ s' = c :: r' ∧ Indented n r r') ∨
      (∀ r, s ≠ c :: r) ∧ ∀ r', s' ≠ c :: r' := by
  by_cases hhead : ∃ r, s = c :: r
  · obtain ⟨r, rfl⟩ := hhead
    obtain ⟨r', rfl, hr⟩ := h.of_cons_left hc
    exact .inl ⟨r, r', rfl, rfl, hr⟩
  · refine .inr ⟨fun r hr => hhead ⟨r, hr⟩, ?_⟩
    rintro r' rfl
    obtain ⟨r, hr, -⟩ := h.of_cons hc
    exact hhead ⟨r, hr⟩

theorem head?_beq (h : Indented n s s') {c : Char} (hc : isBreak c = false) :
    (s'.head? == some c) = (s.head? == some c) := by
  rcases h.cases_head hc with ⟨r, r', rfl, rfl, -⟩ | ⟨hne, hne'⟩
  · rfl
  · have hfalse : ∀ t : Text, (∀ r, t ≠ c :: r) → (t.head? == some c) = false := by
      intro t ht
      refine beq_false_of_ne fun hhead => ?_
      obtain ⟨r, hr⟩ := List.head?_eq_some_iff.1 hhead
      exact ht r hr
    rw [hfalse s hne, hfalse s' hne']

theorem all_isAllowed (h : Indented n s s')
    (hs : s'.all isAllowed = true) : s.all isAllowed = true := by
  induction h with
  | trail ht => rfl
  | char hc hb h ih =>
    rw [List.all_cons, Bool.and_eq_true] at hs ⊢
    exact ⟨hs.1, ih hs.2⟩
  | line hb hstart h ih =>
    rw [List.all_append, List.all_append, Bool.and_eq_true, Bool.and_eq_true] at hs
    rw [List.all_cons, Bool.and_eq_true]
    exact ⟨by decide, ih hs.2.2⟩

end Indented

/-- Behind the same characters, the second text is indented more. -/
def Cut (n : Nat) (s s' t t' : Text) : Prop := ∃ w, s = w ++ t ∧ s' = w ++ t' ∧ Indented n t t'

namespace Cut

variable {n : Nat} {s s' t t' u u' : Text}

theorem trans (h : Cut n s s' t t') (h' : Cut n t t' u u') : Cut n s s' u u' := by
  obtain ⟨w, rfl, rfl, -⟩ := h
  obtain ⟨v, rfl, rfl, hu⟩ := h'
  exact ⟨w ++ v, (List.append_assoc w v u).symm, (List.append_assoc w v u').symm, hu⟩

theorem dropWhile (h : Indented n s s') {p : Char → Bool} (hn : p '\n' = false)
    (hr : p '\r' = false) : Cut n s s' (s.dropWhile p) (s'.dropWhile p) := by
  obtain ⟨hword, htail⟩ := h.takeWhile_eq hn hr
  refine ⟨s.takeWhile p, List.takeWhile_append_dropWhile.symm, ?_, htail⟩
  rw [← hword, List.takeWhile_append_dropWhile]

theorem cons (c : Char) (h : Indented n s s') : Cut n (c :: s) (c :: s') s s' :=
  ⟨[c], rfl, rfl, h⟩

end Cut

/-! ### Places in both texts -/

theorem Place.next_skip (p : Place) (k : Nat) : p.next.skip k = p.skip (k + 1) := by
  simp only [Place.next, Place.skip]
  rw [Nat.add_right_comm, Nat.add_assoc]

theorem byteLength_foldl (m : Nat) (s : Text) :
    s.foldl (fun n c => n + c.utf8Size) m = m + byteLength s := by
  unfold byteLength
  induction s generalizing m with
  | nil => rfl
  | cons c s ih =>
    simp only [List.foldl_cons]
    rw [ih, ih (0 + c.utf8Size)]
    omega

theorem byteLength_append (s t : Text) :
    byteLength (s ++ t) = byteLength s + byteLength t := by
  unfold byteLength
  rw [List.foldl_append, byteLength_foldl]
  rfl

theorem byteLength_cons (c : Char) (s : Text) :
    byteLength (c :: s) = byteLength [c] + byteLength s :=
  byteLength_append [c] s

theorem Indented.byteLength_le {n : Nat} {s s' : Text} (h : Indented n s s') :
    byteLength s ≤ byteLength s' := by
  induction h with
  | trail ht => exact Nat.zero_le _
  | @char c s s' _ _ _ ih =>
    rw [byteLength_cons, byteLength_cons c s']
    omega
  | @line b s s' hb _ _ ih =>
    have hfeed : byteLength ['\n'] ≤ byteLength b := by
      rcases hb with rfl | rfl <;> decide
    rw [byteLength_cons, byteLength_append, byteLength_append]
    omega

/-- Two readers are at the same place of the two texts: `d` lines and `n` columns apart. -/
structure InStep (n d : Nat) (p : Place) (s : Text) (p' : Place) (s' : Text) : Prop where
  text : Indented n s s'
  line : p'.line = p.line + d
  column : p'.column = p.column + n
  start : p.column = 0 → LineStart s

/-- Two readers have gone on from a place, to a later line or by the same number of bytes. -/
structure Onward (p : Place) (s s' : Text) (q : Place) (t t' : Text) : Prop where
  line : p.line ≤ q.line
  bytes : q.line = p.line → byteLength s' + byteLength t = byteLength s + byteLength t'
  length : t.length ≤ s.length
  length' : t'.length ≤ s'.length

namespace Onward

variable {p q r : Place} {s s' t t' u u' : Text}

theorem refl (p : Place) (s s' : Text) : Onward p s s' p s s' :=
  ⟨Nat.le_refl _, fun _ => Nat.add_comm _ _, Nat.le_refl _, Nat.le_refl _⟩

theorem trans (h : Onward p s s' q t t') (h' : Onward q t t' r u u') : Onward p s s' r u u' := by
  refine ⟨Nat.le_trans h.line h'.line, ?_, Nat.le_trans h'.length h.length,
    Nat.le_trans h'.length' h.length'⟩
  intro hline
  have hp := h.line
  have hq := h'.line
  have hb := h.bytes (by omega)
  have hb' := h'.bytes (by omega)
  omega

/-- Both have read the same characters on a line. -/
theorem skip (p : Place) (w t t' : Text) : Onward p (w ++ t) (w ++ t') (p.skip w.length) t t' := by
  refine ⟨Nat.le_refl _, ?_, ?_, ?_⟩
  · intro _
    rw [byteLength_append, byteLength_append]
    omega
  · rw [List.length_append]
    exact Nat.le_add_left _ _
  · rw [List.length_append]
    exact Nat.le_add_left _ _

/-- Both have read the end of a line, and the second also the spaces behind it. -/
theorem nextLine (p : Place) (b s s' : Text) (n : Nat) :
    Onward p ('\n' :: s) (b ++ (spaces n ++ s')) p.nextLine s s' := by
  refine ⟨Nat.le_succ _, fun heq => absurd heq (Nat.succ_ne_self _), Nat.le_succ _, ?_⟩
  rw [List.length_append, List.length_append]
  omega

end Onward

namespace InStep

variable {n d : Nat} {p p' : Place} {s s' : Text}

/-- After the same characters on a line, the readers are at the same place again. -/
theorem skip {w : Text} (hw : w ≠ []) (h : InStep n d p (w ++ s) p' (w ++ s'))
    (ht : Indented n s s') : InStep n d (p.skip w.length) s (p'.skip w.length) s' := by
  have hpos : 0 < w.length := List.length_pos_iff.2 hw
  refine ⟨ht, h.line, ?_, ?_⟩
  · have hcolumn := h.column
    simp only [Place.skip]
    omega
  · intro hzero
    simp only [Place.skip] at hzero
    omega

theorem next {c : Char} (h : InStep n d p (c :: s) p' (c :: s')) (ht : Indented n s s') :
    InStep n d p.next s p'.next s' :=
  skip (w := [c]) (List.cons_ne_nil c []) h ht

/-- The start of the next line, after the spaces that only the second text has. -/
theorem nextLine {t t' : Text} (h : InStep n d p t p' t') (hs : LineStart s)
    (ht : Indented n s s') : InStep n d p.nextLine s (p'.nextLine.skip n) s' := by
  refine ⟨ht, ?_, rfl, fun _ => hs⟩
  have hline := h.line
  simp only [Place.nextLine, Place.skip]
  omega

/-- What no line may begin with, neither reader finds at the start of a line. -/
theorem start_and (h : InStep n d p s p' s') {b b' : Bool}
    (hb : LineStart s → b = false ∧ b' = false) :
    (p.column == 0 && b) = false ∧ (p'.column == 0 && b') = false := by
  have hcolumn := h.column
  by_cases hzero : p.column = 0
  · obtain ⟨hb, hb'⟩ := hb (h.start hzero)
    rw [hb, hb', Bool.and_false, Bool.and_false]
    exact ⟨rfl, rfl⟩
  · have hzero' : p'.column ≠ 0 := by omega
    simp [hzero, hzero']

/-- Neither reader is before a mark of the document. -/
theorem no_mark {c : Char} (h : InStep n d p (c :: s) p' (c :: s')) :
    (p.column == 0 && isDocumentMark (c :: s)) = false ∧
      (p'.column == 0 && isDocumentMark (c :: s')) = false := by
  refine h.start_and ?_
  rintro ⟨-, -, -, -, hmark⟩
  refine ⟨hmark, Bool.eq_false_iff.2 fun hmark' => ?_⟩
  exact Bool.eq_false_iff.1 hmark (h.text.isDocumentMark_of hmark')

end InStep

end Yaml

end Tagline
