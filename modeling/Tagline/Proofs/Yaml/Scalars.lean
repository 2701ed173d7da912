import Tagline.Proofs.Yaml.Indentation

/-!
# Scalars in a text that is indented more

A scalar may go on over several lines. The spaces before its later lines are no part of it, so that
a reader finds the same scalar where the lines are indented more.

* `PassesGaps` — what the readers of scalars have in common: the end of a line is noted, and the
  spaces behind it are passed over;
* `tracks_plainFrom`, `tracks_singleFrom`, `tracks_doubleFrom` — the three ways to write a scalar
  that do not depend on the indentation of its lines. A plain scalar ends before a line that is
  indented too little, which is measured against an indentation that has moved along;
* `Escapes` — an escape in double quotes stands on one line, hence in both texts.
-/

namespace Tagline

namespace Yaml

/-- Two readers have found the same scalar, and are in step behind it or at the ends of their
texts. -/
inductive SameScalar (n d : Nat) (p : Place) (s s' : Text) (x x' : Scanned) : Prop
  | inStep (text : x'.text = x.text) (step : InStep n d x.place x.rest x'.place x'.rest)
      (onward : Onward p s s' x.place x.rest x'.rest) (broken : x'.broken = x.broken)
  | ended (text : x'.text = x.text) (rest : x.rest = []) (rest' : x'.rest = [])
      (line : p.line ≤ x.place.line) (line' : x.place.line + d ≤ x'.place.line)

namespace SameScalar

variable {n d : Nat} {p q : Place} {s s' t t' : Text} {x x' : Scanned}

theorem of_onward (ho : Onward p s s' q t t') (h : SameScalar n d q t t' x x') :
    SameScalar n d p s s' x x' := by
  cases h with
  | inStep text step onward broken => exact .inStep text step (ho.trans onward) broken
  | ended text rest rest' line line' =>
    exact .ended text rest rest' (Nat.le_trans ho.line line) line'

theorem prepend (w : Text) (h : SameScalar n d p s s' x x') :
    SameScalar n d p s s' (x.prepend w) (x'.prepend w) := by
  cases h with
  | inStep text step onward broken => exact .inStep (congrArg (w ++ ·) text) step onward broken
  | ended text rest rest' line line' =>
    exact .ended (congrArg (w ++ ·) text) rest rest' line line'

end SameScalar

/-! ### Gaps -/

theorem broken_addBreak (g : Gap) (b : Text) : (g.addBreak b).broken = true := by
  unfold Gap.addBreak Gap.broken
  cases g.first <;> simp

theorem addSpace_of_broken {g : Gap} (h : g.broken = true) (c : Char) : g.addSpace c = g := by
  unfold Gap.addSpace
  rw [if_pos h]

/-- A reader of scalars notes the ends of lines and passes over the spaces behind them. -/
structure PassesGaps (scan : Gap → Place → Text → Except Error Scanned) : Prop where
  lineEnd : ∀ (g : Gap) (here : Place) {b : Text}, IsLineEnd b → ∀ s,
    scan g here (b ++ s) = scan (g.addBreak ['\n']) here.nextLine s
  space : ∀ {g : Gap} (here : Place), g.broken = true → ∀ s,
    scan g here (' ' :: s) = scan g here.next s

namespace PassesGaps

variable {scan scan' : Gap → Place → Text → Except Error Scanned} {g : Gap} {here here' : Place}

theorem spaces_append (hscan : PassesGaps scan) (hg : g.broken = true) (k : Nat) (s : Text) :
    scan g here (spaces k ++ s) = scan g (here.skip k) s := by
  induction k generalizing here with
  | zero => rfl
  | succ k ih =>
    show scan g here (' ' :: (spaces k ++ s)) = _
    rw [hscan.space here hg, ih, Place.next_skip]

/-- A trail is a gap as a whole. -/
theorem trail (hscan : PassesGaps scan) {t : Text} (ht : IsTrail t) :
    ∃ g' q, scan g here t = scan g' q [] ∧ here.line ≤ q.line := by
  rcases ht with rfl | ⟨b, k, hb, rfl⟩
  · exact ⟨g, here, rfl, Nat.le_refl _⟩
  · refine ⟨g.addBreak ['\n'], here.nextLine.skip k, ?_, Nat.le_succ _⟩
    rw [hscan.lineEnd g here hb, ← List.append_nil (spaces k),
      hscan.spaces_append (broken_addBreak g _)]

/-- **The next line.** Two readers that go on in step behind the end of a line did so before it. -/
theorem tracks_line {n d : Nat} {b s s' : Text} (hscan : PassesGaps scan)
    (hscan' : PassesGaps scan') (hb : IsLineEnd b)
    (h : Tracks (SameScalar n d here.nextLine s s') (scan (g.addBreak ['\n']) here.nextLine s)
      (scan' (g.addBreak ['\n']) (here'.nextLine.skip n) s')) :
    Tracks (SameScalar n d here ('\n' :: s) (b ++ (spaces n ++ s'))) (scan g here ('\n' :: s))
      (scan' g here' (b ++ (spaces n ++ s'))) := by
  have hfeed : scan g here ('\n' :: s) = scan (g.addBreak ['\n']) here.nextLine s :=
    hscan.lineEnd g here (.inl rfl) s
  rw [hfeed, hscan'.lineEnd g here' hb, hscan'.spaces_append (broken_addBreak g _)]
  exact h.mono fun x x' hx => hx.of_onward (Onward.nextLine _ _ _ _ _)

end PassesGaps

/-! ### Plain scalars -/

section Plain

variable {flow : Bool} {i : Nat}

/-- A plain scalar at a character that ends no line. -/
theorem plainFrom_cons {c : Char} (hc : isBreak c = false) (g : Gap) (here : Place) (s : Text) :
    plainFrom flow i g here (c :: s) =
      if isSpace c then
        if g.broken && c == '\t' && here.column < i then .error .tabIndentation
        else plainFrom flow i (g.addSpace c) here.next s
      else if !g.isEmpty &&
          ((!flow && here.column < i) || (here.column == 0 && isDocumentMark (c :: s)) ||
            c == '#') then
        .ok ⟨[], c :: s, here, g.broken⟩
      else if flow && c == ':' && (s.head?.any fun d => isFlowIndicator d || d == '?') then
        .error .unexpectedColon
      else if (c == ':' && atGap s) || (flow && isFlowIndicator c) then
        .ok ⟨[], c :: s, here, g.broken⟩
      else
        (plainFrom flow i {} here.next s).map (Scanned.prepend (g.text ++ [c])) := by
  obtain ⟨-, hr⟩ := isBreak_eq_false hc
  rw [plainFrom]
  · simp only [hc, Bool.false_eq_true, if_false]
  · exact fun _ h => absurd h hr

/-- A plain scalar has its first character, if that is no sign. -/
theorem plainFrom_first {c : Char} {s : Text} {here : Place}
    (hc : isBreak c = false) (hspace : isSpace c = false)
    (hcolon : (c == ':' && atGap s) = false) (hflow : isFlowIndicator c = false) :
    plainFrom flow i {} here (c :: s) =
      if flow && c == ':' && (s.head?.any fun d => isFlowIndicator d || d == '?') then
        .error .unexpectedColon
      else (plainFrom flow i {} here.next s).map (Scanned.prepend [c]) := by
  have hempty : (({} : Gap).isEmpty) = true := rfl
  rw [plainFrom_cons hc, hspace, hempty, hcolon, hflow, Bool.and_false, Bool.not_true,
    Bool.false_and, Bool.or_false]
  rfl

theorem passesGaps_plainFrom : PassesGaps (plainFrom flow i) := by
  constructor
  · intro g here b hb s
    rcases hb with rfl | rfl
    · show plainFrom flow i g here ('\n' :: s) = _
      rw [plainFrom]
      · rfl
      · simp
    · show plainFrom flow i g here ('\r' :: '\n' :: s) = _
      rw [plainFrom]
  · intro g here hg s
    have htab : (' ' == '\t') = false := by decide
    rw [plainFrom_cons (by decide), if_pos (by decide), addSpace_of_broken hg, htab,
      Bool.and_false, Bool.false_and, if_neg Bool.false_ne_true]

end Plain

/-- **Plain scalars.** Where they end is told by columns, which are compared with an indentation
that is more by `n` in the second text, if there is any. -/
theorem tracks_plainFrom {n d : Nat} {flow : Bool} {i i' : Nat} (hi : ∀ k, k + n < i' ↔ k < i)
    {s s' : Text} (h : Indented n s s') {g : Gap} {here here' : Place}
    (hstep : InStep n d here s here' s') :
    Tracks (SameScalar n d here s s') (plainFrom flow i g here s)
      (plainFrom flow i' g here' s') := by
  induction h generalizing g here here' with
  | trail ht =>
    obtain ⟨g', q, hq, hline⟩ := passesGaps_plainFrom.trail ht
    rw [hq, plainFrom, plainFrom]
    refine .ok (.ended rfl rfl rfl (Nat.le_refl _) ?_)
    have hd := hstep.line
    show here.line + d ≤ q.line
    omega
  | @char c s s' hc hb h ih =>
    have hcolumn : (here'.column < i') = (here.column < i) := by
      rw [hstep.column]
      exact propext (hi here.column)
    have hhead := h.any_head? (p := fun d => isFlowIndicator d || d == '?') (by decide) (by decide)
    obtain ⟨hmark, hmark'⟩ := hstep.no_mark
    have hend : SameScalar n d here (c :: s) (c :: s') ⟨[], c :: s, here, g.broken⟩
        ⟨[], c :: s', here', g.broken⟩ := .inStep rfl hstep (Onward.refl _ _ _) rfl
    have hskip : Onward here (c :: s) (c :: s') here.next s s' := Onward.skip here [c] s s'
    -- every condition is the same for both readers, so they take the same branch
    rw [plainFrom_cons hc, plainFrom_cons hc, hmark, hmark', hhead, h.atGap_eq]
    simp only [hcolumn]
    split
    · split
      · exact .error
      · exact (ih (hstep.next h)).mono fun x x' hx => hx.of_onward hskip
    · split
      · exact .ok hend
      · split
        · exact .error
        · split
          · exact .ok hend
          · exact (ih (hstep.next h)).map fun x x' hx => (hx.of_onward hskip).prepend _
  | @line b s s' hb hs h ih =>
    exact passesGaps_plainFrom.tracks_line passesGaps_plainFrom hb (ih (hstep.nextLine hs h))

/-! ### Single quotes -/

/-- A scalar in single quotes at a character that ends no line, and is no quote before another. -/
theorem singleFrom_cons {c : Char} {s : Text} (hc : isBreak c = false)
    (hquote : c = '\'' → s.head? ≠ some '\'') (g : Gap) (here : Place) :
    singleFrom g here (c :: s) =
      if isSpace c then singleFrom (g.addSpace c) here.next s
      else if here.column == 0 && isDocumentMark (c :: s) then .error .unfinishedQuote
      else if c == '\'' then .ok ⟨g.text, s, here.next, false⟩
      else (singleFrom {} here.next s).map (Scanned.prepend (g.text ++ [c])) := by
  obtain ⟨-, hr⟩ := isBreak_eq_false hc
  rw [singleFrom]
  · simp only [hc, Bool.false_eq_true, if_false]
  · exact fun _ h => absurd h hr
  · rintro r rfl rfl
    exact absurd rfl (hquote rfl)

theorem passesGaps_singleFrom : PassesGaps singleFrom := by
  constructor
  · intro g here b hb s
    rcases hb with rfl | rfl
    · show singleFrom g here ('\n' :: s) = _
      rw [singleFrom]
      · rfl
      all_goals simp
    · show singleFrom g here ('\r' :: '\n' :: s) = _
      rw [singleFrom]
  · intro g here hg s
    rw [singleFrom_cons (by decide) fun hc => absurd hc (by decide), if_pos (by decide),
      addSpace_of_broken hg]

/-- **Scalars in single quotes.** -/
theorem tracks_singleFrom {n d : Nat} {s s' : Text} (h : Indented n s s') {g : Gap}
    {here here' : Place} (hstep : InStep n d here s here' s') :
    Tracks (SameScalar n d here s s') (singleFrom g here s) (singleFrom g here' s') := by
  -- two quotes in a row are read at once, hence by induction on the length
  induction hlen : s.length using Nat.strongRecOn generalizing s s' g here here' with
  | ind m ih =>
  subst hlen
  cases h with
  | trail ht =>
    obtain ⟨g', q, hq, -⟩ := passesGaps_singleFrom.trail ht
    rw [hq, singleFrom.eq_1 g' q]
    exact .error
  | @char c s s' hc hb h =>
    by_cases hpair : c = '\'' ∧ s.head? = some '\''
    · obtain ⟨rfl, hhead⟩ := hpair
      obtain ⟨r, rfl⟩ := List.head?_eq_some_iff.1 hhead
      obtain ⟨r', rfl, hr⟩ := h.of_cons_left (by decide)
      have hskip := Onward.skip here ['\'', '\''] r r'
      have hstep' := InStep.skip (w := ['\'', '\'']) (by simp) hstep hr
      rw [singleFrom, singleFrom]
      refine (ih r.length ?_ hr hstep' rfl).map fun x x' hx => (hx.of_onward hskip).prepend _
      simp only [List.length_cons]
      omega
    · have hquote : c = '\'' → s.head? ≠ some '\'' := fun hc hs => hpair ⟨hc, hs⟩
      have hquote' : c = '\'' → s'.head? ≠ some '\'' := by
        intro hc hs
        have hhead := h.head?_beq (c := '\'') (by decide)
        rw [hs, beq_self_eq_true] at hhead
        exact hquote hc (beq_iff_eq.1 hhead.symm)
      obtain ⟨hmark, hmark'⟩ := hstep.no_mark
      have hskip : Onward here (c :: s) (c :: s') here.next s s' := Onward.skip here [c] s s'
      have hnext := hstep.next h
      have hrest : s.length < (c :: s).length := Nat.lt_succ_self _
      rw [singleFrom_cons hc hquote, singleFrom_cons hc hquote', hmark, hmark']
      simp only [Bool.false_eq_true, if_false]
      split
      · exact (ih _ hrest h hnext rfl).mono fun x x' hx => hx.of_onward hskip
      · split
        · exact .ok (.inStep rfl hnext hskip rfl)
        · exact (ih _ hrest h hnext rfl).map fun x x' hx => (hx.of_onward hskip).prepend _
  | @line b s s' hb hs h =>
    exact passesGaps_singleFrom.tracks_line passesGaps_singleFrom hb
      (ih _ (Nat.lt_succ_self _) h (hstep.nextLine hs h) rfl)

/-! ### Double quotes -/

theorem digitValue?_of_isBreak {c : Char} (h : isBreak c = true) : Number.digitValue? c = none := by
  simp only [isBreak, Bool.or_eq_true, beq_iff_eq] at h
  rcases h with (((rfl | rfl) | rfl) | rfl) | rfl <;> decide

/-- No digit of a number ends a line. -/
theorem isBreak_of_readFrom? {base m k : Nat} {s : Text} (h : Number.readFrom? base m s = some k) :
    ∀ c ∈ s, isBreak c = false := by
  induction s generalizing m with
  | nil => simp
  | cons c s ih =>
    simp only [Number.readFrom?, Option.bind_eq_bind, Option.bind_eq_some_iff] at h
    obtain ⟨v, hv, hs⟩ := h
    have hc : isBreak c = false := by
      refine Bool.eq_false_iff.2 fun hb => ?_
      simp [Number.digitIn?, digitValue?_of_isBreak hb] at hv
    exact List.forall_mem_cons.2 ⟨hc, ih hs⟩

theorem isBreak_of_codePoint? {s : Text} {d : Char} (h : codePoint? s = some d) :
    ∀ c ∈ s, isBreak c = false := by
  simp only [codePoint?, Option.bind_eq_bind, Option.bind_eq_some_iff] at h
  obtain ⟨m, hm, -⟩ := h
  unfold Number.readNat? at hm
  split at hm
  · exact nomatch hm
  · exact isBreak_of_readFrom? hm

/-- What may stand behind a backslash on the same line, and the character that it stands for. -/
inductive Escapes : Text → Char → Prop
  | short {c d : Char} (hc : isBreak c = false) (h : escape? c = some d) : Escapes [c] d
  | two {a b d : Char} (h : codePoint? [a, b] = some d) : Escapes ['x', a, b] d
  | four {a b c e d : Char} (h : codePoint? [a, b, c, e] = some d) : Escapes ['u', a, b, c, e] d
  | eight {a b c e f g i j d : Char} (h : codePoint? [a, b, c, e, f, g, i, j] = some d) :
      Escapes ['U', a, b, c, e, f, g, i, j] d

theorem Escapes.isBreak {w : Text} {d : Char} (h : Escapes w d) :
    ∀ c ∈ w, isBreak c = false := by
  cases h with
  | short hc _ => simpa using hc
  | two h => exact List.forall_mem_cons.2 ⟨by decide, isBreak_of_codePoint? h⟩
  | four h => exact List.forall_mem_cons.2 ⟨by decide, isBreak_of_codePoint? h⟩
  | eight h => exact List.forall_mem_cons.2 ⟨by decide, isBreak_of_codePoint? h⟩

/-- A scalar in double quotes at a character that ends no line and is no backslash. -/
theorem doubleFrom_cons {c : Char} (hc : isBreak c = false) (hslash : c ≠ '\\') (g : Gap)
    (here : Place) (s : Text) :
    doubleFrom g here (c :: s) =
      if isSpace c then doubleFrom (g.addSpace c) here.next s
      else if here.column == 0 && isDocumentMark (c :: s) then .error .unfinishedQuote
      else if c == '"' then .ok ⟨g.text, s, here.next, false⟩
      else (doubleFrom {} here.next s).map (Scanned.prepend (g.text ++ [c])) := by
  obtain ⟨-, hr⟩ := isBreak_eq_false hc
  rw [doubleFrom]
  · simp only [hc, Bool.false_eq_true, if_false]
  · rintro r rfl
    exact absurd rfl hr
  all_goals
    intros
    exact absurd ‹c = '\\'› hslash

theorem passesGaps_doubleFrom : PassesGaps doubleFrom := by
  constructor
  · intro g here b hb s
    rcases hb with rfl | rfl
    · show doubleFrom g here ('\n' :: s) = _
      rw [doubleFrom]
      · rfl
      all_goals simp
    · show doubleFrom g here ('\r' :: '\n' :: s) = _
      rw [doubleFrom]
  · intro g here hg s
    rw [doubleFrom_cons (by decide) (by decide), if_pos (by decide), addSpace_of_broken hg]

theorem doubleFrom_escapes {w : Text} {d : Char} (h : Escapes w d) (g : Gap) (here : Place)
    (s : Text) :
    doubleFrom g here ('\\' :: w ++ s) =
      (doubleFrom {} (here.skip ('\\' :: w).length) s).map (Scanned.prepend (g.text ++ [d])) := by
  cases h with
  | @short c d hc h =>
    show doubleFrom g here ('\\' :: c :: s) = _
    -- the letters of the longer escapes are no short ones
    have hletter : c ≠ 'x' ∧ c ≠ 'u' ∧ c ≠ 'U' := by
      refine ⟨?_, ?_, ?_⟩ <;> rintro rfl <;> exact absurd h (by simp [escape?])
    rw [doubleFrom]
    · simp only [hc, Bool.false_eq_true, if_false, h]
      rfl
    · exact fun _ hr => absurd hr (isBreak_eq_false hc).2
    · exact fun _ _ _ hx => absurd hx hletter.1
    · exact fun _ _ _ _ _ hu => absurd hu hletter.2.1
    · exact fun _ _ _ _ _ _ _ _ _ hU => absurd hU hletter.2.2
  | two h =>
    show doubleFrom g here ('\\' :: 'x' :: _ :: _ :: s) = _
    rw [doubleFrom, h]
    rfl
  | four h =>
    show doubleFrom g here ('\\' :: 'u' :: _ :: _ :: _ :: _ :: s) = _
    rw [doubleFrom, h]
    rfl
  | eight h =>
    show doubleFrom g here ('\\' :: 'U' :: _ :: _ :: _ :: _ :: _ :: _ :: _ :: _ :: s) = _
    rw [doubleFrom, h]
    rfl

/-- A backslash at the end of a line joins it to the next. -/
theorem doubleFrom_joined {b : Text} (hb : IsLineEnd b) (g : Gap) (here : Place) (s : Text) :
    doubleFrom g here ('\\' :: (b ++ s)) =
      (doubleFrom { first := some [] } here.nextLine s).map (Scanned.prepend g.text) := by
  rcases hb with rfl | rfl
  · show doubleFrom g here ('\\' :: '\n' :: s) = _
    rw [doubleFrom]
    · rfl
    all_goals simp
  · show doubleFrom g here ('\\' :: '\r' :: '\n' :: s) = _
    rw [doubleFrom]

/-- Behind a backslash stands an escape or the end of a line. -/
theorem doubleFrom_slash {g : Gap} {here : Place} {s : Text} {x : Scanned}
    (h : doubleFrom g here ('\\' :: s) = .ok x) :
    (∃ w d r, Escapes w d ∧ s = w ++ r) ∨ ∃ c r, isBreak c = true ∧ s = c :: r := by
  rw [doubleFrom.eq_def] at h
  split at h
  case h_1 heq => exact nomatch heq
  case h_2 heq => exact absurd (List.cons.inj heq).1 (by decide)
  case h_3 r heq =>
    obtain ⟨-, rfl⟩ := List.cons.inj heq
    exact .inr ⟨'\r', _, by decide, rfl⟩
  case h_4 a b r heq =>
    obtain ⟨-, rfl⟩ := List.cons.inj heq
    cases hcode : codePoint? [a, b] with
    | none => simp [hcode] at h
    | some d => exact .inl ⟨_, d, r, .two hcode, rfl⟩
  case h_5 a b c e r heq =>
    obtain ⟨-, rfl⟩ := List.cons.inj heq
    cases hcode : codePoint? [a, b, c, e] with
    | none => simp [hcode] at h
    | some d => exact .inl ⟨_, d, r, .four hcode, rfl⟩
  case h_6 a b c e f i j k r heq =>
    obtain ⟨-, rfl⟩ := List.cons.inj heq
    cases hcode : codePoint? [a, b, c, e, f, i, j, k] with
    | none => simp [hcode] at h
    | some d => exact .inl ⟨_, d, r, .eight hcode, rfl⟩
  case h_7 c r _ _ _ _ heq =>
    obtain ⟨-, rfl⟩ := List.cons.inj heq
    cases hc : isBreak c with
    | true => exact .inr ⟨c, r, hc, rfl⟩
    | false =>
      cases hcode : escape? c with
      | none => simp [hc, hcode] at h
      | some d => exact .inl ⟨[c], d, r, .short hc hcode, rfl⟩
  case h_8 c r _ _ _ _ _ hno heq =>
    -- nothing stands behind it, so that the quotes are not closed
    obtain ⟨rfl, rfl⟩ := List.cons.inj heq
    cases s with
    | nil => simp [isBreak, isSpace, isDocumentMark, doubleFrom, Except.map] at h
    | cons d s => exact absurd rfl (hno d s rfl)

/-- **Scalars in double quotes.** -/
theorem tracks_doubleFrom {n d : Nat} {s s' : Text} (h : Indented n s s') {g : Gap}
    {here here' : Place} (hstep : InStep n d here s here' s') :
    Tracks (SameScalar n d here s s') (doubleFrom g here s) (doubleFrom g here' s') := by
  -- an escape is read at once, hence by induction on the length
  induction hlen : s.length using Nat.strongRecOn generalizing s s' g here here' with
  | ind m ih =>
  subst hlen
  cases h with
  | trail ht =>
    obtain ⟨g', q, hq, -⟩ := passesGaps_doubleFrom.trail ht
    rw [hq, doubleFrom.eq_1 g' q]
    exact .error
  | @char c s s' hc hb h =>
    by_cases hslash : c = '\\'
    · subst hslash
      refine .of_ok fun x' hx' => ?_
      rcases doubleFrom_slash hx' with ⟨w, e, r', hw, rfl⟩ | ⟨c, r', hbreak, rfl⟩
      · -- an escape, which both texts have
        obtain ⟨r, rfl, hr⟩ := h.of_append hw.isBreak
        have hskip := Onward.skip here ('\\' :: w) r r'
        have hstep' := InStep.skip (w := '\\' :: w) (List.cons_ne_nil _ _) hstep hr
        have hlength : r.length < ('\\' :: (w ++ r)).length := by
          simp only [List.length_cons, List.length_append]
          omega
        rw [← List.cons_append, ← List.cons_append, doubleFrom_escapes hw, doubleFrom_escapes hw]
        exact (ih _ hlength hr hstep' rfl).map fun x x' hx => (hx.of_onward hskip).prepend _
      · rcases h.of_isBreak hbreak with ⟨rfl, ht⟩ | ⟨b, r, t', hb, hs, hr, rfl, heq⟩
        · -- the text ends within the quotes
          obtain heq | ⟨b, k, hb, heq⟩ := ht
          · exact nomatch heq
          · rw [heq, doubleFrom_joined hb, ← List.append_nil (spaces k),
              passesGaps_doubleFrom.spaces_append rfl, doubleFrom.eq_1 _ (here'.nextLine.skip k)]
            exact .error
        · rw [heq, doubleFrom_joined hb, passesGaps_doubleFrom.spaces_append rfl]
          have hfeed : doubleFrom g here ('\\' :: '\n' :: r) =
              (doubleFrom { first := some [] } here.nextLine r).map (Scanned.prepend g.text) :=
            doubleFrom_joined (.inl rfl) g here r
          rw [hfeed]
          have hlength : r.length < ('\\' :: '\n' :: r).length := by
            simp only [List.length_cons]
            omega
          have hskip := (Onward.skip here ['\\'] ('\n' :: r) (b ++ (spaces n ++ t'))).trans
            (Onward.nextLine _ b r t' n)
          exact (ih _ hlength hr (hstep.nextLine hs hr) rfl).map
            fun x x' hx => (hx.of_onward hskip).prepend _
    · obtain ⟨hmark, hmark'⟩ := hstep.no_mark
      have hskip : Onward here (c :: s) (c :: s') here.next s s' := Onward.skip here [c] s s'
      have hnext := hstep.next h
      have hrest : s.length < (c :: s).length := Nat.lt_succ_self _
      rw [doubleFrom_cons hc hslash, doubleFrom_cons hc hslash, hmark, hmark']
      simp only [Bool.false_eq_true, if_false]
      split
      · exact (ih _ hrest h hnext rfl).mono fun x x' hx => hx.of_onward hskip
      · split
        · exact .ok (.inStep rfl hnext hskip rfl)
        · exact (ih _ hrest h hnext rfl).map fun x x' hx => (hx.of_onward hskip).prepend _
  | @line b s s' hb hs h =>
    exact passesGaps_doubleFrom.tracks_line passesGaps_doubleFrom hb
      (ih _ (Nat.lt_succ_self _) h (hstep.nextLine hs h) rfl)

end Yaml

end Tagline
