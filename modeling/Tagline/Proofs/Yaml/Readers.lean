import Mathlib.Data.List.Forall2
import Tagline.Proofs.Yaml.Scalars

/-!
# Two readers of one document

A reader keeps more than its place in the text: the tokens so far, the indentations of the block
collections around it, and the places where a key may have begun. This module says when the states
of two readers belong together, where the second one reads the text that is indented more, and that
they go on to the same token.

* `shift` — the indentation of a block collection in the second text;
* `Alike` — the same tokens and the same collections, whatever the readers know of keys;
* `Alongside` — the readers are in step (`InStep`), and their keys are the same (`SameKey`): a key
  stays one on its own line and within 1024 bytes, and since both have read the same bytes of a
  line, it becomes too old for both at once (`Alongside.isStale_eq`);
* `Finished` — the first text is at its end. The second may have a trail, which brings its reader to
  another line, so that keys may become too old for that reader only. A key that must not do so is
  an error there, and the first reader is never worse off (`Finished.refresh`);
* `AtToken` — the readers are in step before a token. What a reader does to its state in place keeps
  this: it closes and opens block collections, and saves and drops keys.
-/

namespace Tagline

namespace Yaml

/-! ### Indentations -/

/-- The indentation of a block collection in the second text. Outside all of them there is none to
be moved. -/
def shift (n : Nat) (i : Int) : Int := if i < 0 then i else i + n

section Shift

variable (n k : Nat) (i : Int)

theorem shift_natCast : shift n k = ((k + n : Nat) : Int) := by
  have hk : ¬ (k : Int) < 0 := by omega
  rw [shift, if_neg hk]
  rfl

theorem lt_shift_iff : ((k + n : Nat) : Int) < shift n i ↔ (k : Int) < i := by
  unfold shift
  split <;> omega

theorem le_shift_iff : ((k + n : Nat) : Int) ≤ shift n i ↔ (k : Int) ≤ i := by
  unfold shift
  split <;> omega

theorem shift_eq_iff : shift n i = ((k + n : Nat) : Int) ↔ i = k := by
  unfold shift
  split <;> omega

theorem neg_one_lt_shift_iff : -1 < shift n i ↔ -1 < i := by
  unfold shift
  split <;> omega

/-- The least indentation of the later lines of a plain scalar. -/
theorem lt_toNat_shift_iff : k + n < (shift n i + 1).toNat ↔ k < (i + 1).toNat := by
  unfold shift
  split <;> omega

end Shift

namespace Reader

/-! ### What the reader does to its state -/

theorem closeFrom_shift {n : Nat} {column column' : Int}
    (hcolumn : ∀ i, column' < shift n i ↔ column < i) (read : List Token) (i : Int)
    (is : List Int) :
    closeFrom read (shift n i) column' (is.map (shift n)) =
      ((closeFrom read i column is).1, shift n (closeFrom read i column is).2.1,
        (closeFrom read i column is).2.2.map (shift n)) := by
  induction is generalizing read i with
  | nil => rfl
  | cons j is ih =>
    rw [List.map_cons, closeFrom, closeFrom]
    by_cases h : column < i
    · rw [if_pos h, if_pos ((hcolumn i).2 h), ih]
    · rw [if_neg h, if_neg (mt (hcolumn i).1 h)]
      rfl

/-- What is closed at a column need not be closed at the end of the text. -/
theorem closeFrom_closeFrom {column : Int} (h : -1 ≤ column) (read : List Token) (i : Int)
    (is : List Int) :
    closeFrom (closeFrom read i column is).1 (closeFrom read i column is).2.1 (-1)
      (closeFrom read i column is).2.2 = closeFrom read i (-1) is := by
  induction is generalizing read i with
  | nil => rfl
  | cons j is ih =>
    rw [closeFrom]
    by_cases hi : column < i
    · have hi' : -1 < i := by omega
      rw [if_pos hi, ih, closeFrom, if_pos hi']
    · rw [if_neg hi]

variable (r : Reader)

theorem unindent_of_inFlow (h : r.inFlow = true) (column : Int) : r.unindent column = r := by
  unfold unindent
  rw [if_pos h]

theorem unindent_of_not_inFlow (h : r.inFlow = false) (column : Int) :
    r.unindent column =
      { r with
        read := (closeFrom r.read r.indent column r.outer).1
        indent := (closeFrom r.read r.indent column r.outer).2.1
        outer := (closeFrom r.read r.indent column r.outer).2.2 } := by
  unfold unindent
  rw [if_neg (by simp [h])]

theorem unindent_unindent {column : Int} (h : -1 ≤ column) :
    (r.unindent column).unindent (-1) = r.unindent (-1) := by
  cases hflow : r.inFlow with
  | true => rw [unindent_of_inFlow r hflow]
  | false =>
    rw [unindent_of_not_inFlow r hflow, unindent_of_not_inFlow r hflow, unindent_of_not_inFlow]
    · simp only [closeFrom_closeFrom h]
    · exact hflow

theorem dropKey_eq :
    r.dropKey = if r.candidate.any (·.required) then .error .unfinishedKey
      else .ok { r with candidate := none } := by
  obtain ⟨rest, place, read, indent, outer, keyAllowed, candidate, candidates⟩ := r
  cases candidate with
  | none => rfl
  | some k => rfl

theorem saveKey_eq :
    r.saveKey =
      if r.keyAllowed then
        if r.candidate.any (·.required) then .error .unfinishedKey
        else .ok { r with candidate := some ⟨!r.inFlow && r.indent == r.place.column,
          r.read.length, r.place, byteLength r.rest⟩ }
      else .ok r := by
  unfold saveKey
  rw [dropKey_eq]
  split
  · split <;> rfl
  · rfl

end Reader

/-! ### Places of keys -/

/-- Two readers remember a key from the same place. For the second one no less of the text was
left. -/
structure OldKey (d : Nat) (k k' : KeyPlace) : Prop where
  required : k'.required = k.required
  line : k'.place.line = k.place.line + d
  remaining : k.remaining ≤ k'.remaining

/-- Two readers that are in step remember a key from the same place. If it is on the present line,
both have read the same number of bytes since. -/
structure SameKey (n d : Nat) (p : Place) (s s' : Text) (k k' : KeyPlace) : Prop
    extends OldKey d k k' where
  number : k'.number = k.number
  column : k'.place.column = k.place.column + n
  earlier : k.place.line ≤ p.line
  bytes : k.place.line = p.line → k'.remaining + byteLength s = k.remaining + byteLength s'

theorem SameKey.onward {n d : Nat} {p q : Place} {s s' t t' : Text} {k k' : KeyPlace}
    (ho : Onward p s s' q t t') (h : SameKey n d p s s' k k') : SameKey n d q t t' k k' := by
  refine ⟨h.toOldKey, h.number, h.column, Nat.le_trans h.earlier ho.line, ?_⟩
  intro hline
  have hearlier := h.earlier
  have hlater := ho.line
  have hbytes := h.bytes (by omega)
  have hbytes' := ho.bytes (by omega)
  omega

theorem Tracks.mapM {α β γ δ : Type} {R : α → β → Prop} {S : γ → δ → Prop}
    {f : α → Except Error γ} {g : β → Except Error δ} (hf : ∀ a b, R a b → Tracks S (f a) (g b))
    {as : List α} {bs : List β} (h : List.Forall₂ R as bs) :
    Tracks (List.Forall₂ S) (as.mapM f) (bs.mapM g) := by
  induction h with
  | nil => exact .ok .nil
  | cons hab _ ih =>
    rw [List.mapM_cons, List.mapM_cons]
    refine (hf _ _ hab).bind fun c d hcd => ih.bind fun cs ds hcds => ?_
    exact .ok (.cons hcd hcds)

/-! ### Readers side by side -/

/-- Two readers have read the same tokens within the same block collections. -/
structure Alike (n : Nat) (K : Option KeyPlace → Option KeyPlace → Prop) (r r' : Reader) :
    Prop where
  read : r'.read = r.read
  indent : r'.indent = shift n r.indent
  outer : r'.outer = r.outer.map (shift n)
  candidate : K r.candidate r'.candidate
  candidates : List.Forall₂ K r.candidates r'.candidates

namespace Alike

variable {n : Nat} {K K' : Option KeyPlace → Option KeyPlace → Prop} {r r' : Reader}

theorem inFlow_eq (h : Alike n K r r') : r'.inFlow = r.inFlow := by
  have hkeys := h.candidates
  unfold Reader.inFlow
  cases hr : r.candidates with
  | nil =>
    rw [hr, List.forall₂_nil_left_iff] at hkeys
    rw [hkeys]
  | cons k ks =>
    rw [hr, List.forall₂_cons_left_iff] at hkeys
    obtain ⟨k', ks', -, -, hr'⟩ := hkeys
    rw [hr']
    rfl

theorem mono (h : Alike n K r r') (hK : ∀ k k', K k k' → K' k k') : Alike n K' r r' :=
  ⟨h.read, h.indent, h.outer, hK _ _ h.candidate, h.candidates.imp hK⟩

theorem unindent (h : Alike n K r r') {column column' : Int}
    (hcolumn : ∀ i, column' < shift n i ↔ column < i) :
    Alike n K (r.unindent column) (r'.unindent column') := by
  have hflow := h.inFlow_eq
  cases hr : r.inFlow with
  | true =>
    rw [r.unindent_of_inFlow hr, r'.unindent_of_inFlow (hflow.trans hr)]
    exact h
  | false =>
    rw [r.unindent_of_not_inFlow hr, r'.unindent_of_not_inFlow (hflow.trans hr), h.read, h.indent,
      h.outer, Reader.closeFrom_shift hcolumn]
    exact ⟨rfl, rfl, rfl, h.candidate, h.candidates⟩

theorem emitAt (h : Alike n K r r') (number : Nat) (t : Token) :
    Alike n K (r.emitAt number t) (r'.emitAt number t) := by
  refine ⟨?_, h.indent, h.outer, h.candidate, h.candidates⟩
  simp only [Reader.emitAt, h.read]

theorem indentTo (h : Alike n K r r') (column number : Nat) (t : Token) :
    Alike n K (r.indentTo column number t) (r'.indentTo (column + n) number t) := by
  have hle : ((column + n : Nat) : Int) ≤ r'.indent ↔ (column : Int) ≤ r.indent := by
    rw [h.indent]
    exact le_shift_iff n column r.indent
  unfold Reader.indentTo
  rw [h.inFlow_eq]
  simp only [hle]
  split
  · exact h
  · refine ⟨(h.emitAt number t).read, (shift_natCast n column).symm, ?_, h.candidate, h.candidates⟩
    show r'.indent :: r'.outer = _
    rw [h.indent, h.outer]
    rfl

end Alike

theorem rel_imp {α β : Type} {R S : α → β → Prop} (h : ∀ a b, R a b → S a b) (x : Option α)
    (y : Option β) (hxy : Option.Rel R x y) : Option.Rel S x y := by
  cases hxy with
  | some hab => exact .some (h _ _ hab)
  | none => exact .none

/-- Two readers are in step and have read the same. -/
structure Alongside (n d : Nat) (r r' : Reader) : Prop
    extends Alike n (Option.Rel (SameKey n d r.place r.rest r'.rest)) r r' where
  step : InStep n d r.place r.rest r'.place r'.rest
  keyAllowed : r'.keyAllowed = r.keyAllowed

/-- The first reader is at the end of its text and the second before a trail. They have read the
same. -/
structure Finished (n d : Nat) (r r' : Reader) : Prop
    extends Alike n (Option.Rel (OldKey d)) r r' where
  rest : r.rest = []
  rest' : IsTrail r'.rest
  line : r.place.line + d ≤ r'.place.line

/-- Two readers are before a token. -/
structure AtToken (n d : Nat) (c : Char) (s s' : Text) (r r' : Reader) : Prop
    extends Alongside n d r r' where
  rest : r.rest = c :: s
  rest' : r'.rest = c :: s'
  char : isBreak c = false
  tail : Indented n s s'

/-! ### Between tokens -/

section Gaps

variable {flow keyAllowed comment : Bool} {here : Place}

theorem gapFrom_cons {c : Char} (hc : isBreak c = false) (s : Text) :
    Reader.gapFrom flow keyAllowed comment here (c :: s) =
      if comment || c == ' ' || (c == '\t' && (flow || !keyAllowed)) ||
          (c == '\ufeff' && here.column == 0) then
        Reader.gapFrom flow keyAllowed comment here.next s
      else if c == '#' then Reader.gapFrom flow keyAllowed true here.next s
      else (keyAllowed, here, c :: s) := by
  obtain ⟨-, hr⟩ := isBreak_eq_false hc
  rw [Reader.gapFrom]
  · simp only [hc, Bool.false_eq_true, if_false]
  · exact fun _ h => absurd h hr

theorem gapFrom_lineEnd {b : Text} (hb : IsLineEnd b) (s : Text) :
    Reader.gapFrom flow keyAllowed comment here (b ++ s) =
      Reader.gapFrom flow (keyAllowed || !flow) false here.nextLine s := by
  rcases hb with rfl | rfl
  · show Reader.gapFrom flow keyAllowed comment here ('\n' :: s) = _
    rw [Reader.gapFrom]
    · rfl
    · simp
  · show Reader.gapFrom flow keyAllowed comment here ('\r' :: '\n' :: s) = _
    rw [Reader.gapFrom]

theorem gapFrom_spaces (k : Nat) (s : Text) :
    Reader.gapFrom flow keyAllowed comment here (spaces k ++ s) =
      Reader.gapFrom flow keyAllowed comment (here.skip k) s := by
  induction k generalizing here with
  | zero => rfl
  | succ k ih =>
    show Reader.gapFrom flow keyAllowed comment here (' ' :: (spaces k ++ s)) = _
    rw [gapFrom_cons (by decide), if_pos (by simp), ih, Place.next_skip]

variable (flow keyAllowed comment here) in
theorem gapFrom_trail {t : Text} (ht : IsTrail t) :
    ∃ k q, Reader.gapFrom flow keyAllowed comment here t = (k, q, []) ∧ here.line ≤ q.line := by
  rcases ht with rfl | ⟨b, k, hb, rfl⟩
  · exact ⟨keyAllowed, here, rfl, Nat.le_refl _⟩
  · refine ⟨keyAllowed || !flow, here.nextLine.skip k, ?_, Nat.le_succ _⟩
    rw [gapFrom_lineEnd hb, ← List.append_nil (spaces k), gapFrom_spaces]
    rfl

end Gaps

/-- Two readers have passed over a gap, and are before a token or at the ends of their texts. -/
inductive SameGap (n d : Nat) (p : Place) (s s' : Text) :
    Bool × Place × Text → Bool × Place × Text → Prop
  | token {k : Bool} {q q' : Place} {c : Char} {t t' : Text}
      (step : InStep n d q (c :: t) q' (c :: t')) (onward : Onward p s s' q (c :: t) (c :: t'))
      (char : isBreak c = false) (tail : Indented n t t') :
      SameGap n d p s s' (k, q, c :: t) (k, q', c :: t')
  | ended {k k' : Bool} {q q' : Place} (line : q.line + d ≤ q'.line) :
      SameGap n d p s s' (k, q, []) (k', q', [])

theorem SameGap.of_onward {n d : Nat} {p q : Place} {s s' t t' : Text} {x x' : Bool × Place × Text}
    (ho : Onward p s s' q t t') (h : SameGap n d q t t' x x') : SameGap n d p s s' x x' := by
  cases h with
  | token step onward char tail => exact .token step (ho.trans onward) char tail
  | ended line => exact .ended line

theorem sameGap_gapFrom {n d : Nat} (flow keyAllowed comment : Bool) {s s' : Text}
    (h : Indented n s s') {here here' : Place} (hstep : InStep n d here s here' s') :
    SameGap n d here s s' (Reader.gapFrom flow keyAllowed comment here s)
      (Reader.gapFrom flow keyAllowed comment here' s') := by
  induction h generalizing keyAllowed comment here here' with
  | trail ht =>
    obtain ⟨k, q, hq, hline⟩ := gapFrom_trail flow keyAllowed comment here' ht
    rw [hq]
    have hd := hstep.line
    exact .ended (by omega)
  | @char c s s' hc hb h ih =>
    -- a byte order mark would have to begin a line
    have hstart : LineStart (c :: s) → (c == '\ufeff') = false ∧ (c == '\ufeff') = false := by
      rintro ⟨-, -, -, hmark, -⟩
      exact ⟨beq_false_of_ne hmark, beq_false_of_ne hmark⟩
    obtain ⟨hmark, hmark'⟩ := hstep.start_and hstart
    rw [Bool.and_comm] at hmark hmark'
    have hskip : Onward here (c :: s) (c :: s') here.next s s' := Onward.skip here [c] s s'
    rw [gapFrom_cons hc, gapFrom_cons hc, hmark, hmark']
    split
    · exact (ih _ _ (hstep.next h)).of_onward hskip
    · split
      · exact (ih _ _ (hstep.next h)).of_onward hskip
      · exact .token hstep (Onward.refl _ _ _) hc h
  | @line b s s' hb hs h ih =>
    have hfeed : Reader.gapFrom flow keyAllowed comment here ('\n' :: s) =
        Reader.gapFrom flow (keyAllowed || !flow) false here.nextLine s :=
      gapFrom_lineEnd (.inl rfl) s
    rw [hfeed, gapFrom_lineEnd hb, gapFrom_spaces]
    exact (ih _ _ (hstep.nextLine hs h)).of_onward (Onward.nextLine _ _ _ _ _)

/-- **To the next token.** Two readers in step come before the same token, or to the ends of their
texts. -/
theorem Alongside.toToken {n d : Nat} {r r' : Reader} (h : Alongside n d r r') :
    (∃ c s s', AtToken n d c s s' r.toToken r'.toToken ∧ s.length < r.rest.length ∧
      s'.length < r'.rest.length) ∨
    (Finished n d r.toToken r'.toToken ∧ r'.toToken.rest = []) := by
  have hgap := sameGap_gapFrom r.inFlow r.keyAllowed false h.step.text h.step
  unfold Reader.toToken
  rw [h.inFlow_eq, h.keyAllowed]
  generalize Reader.gapFrom r.inFlow r.keyAllowed false r.place r.rest = x at hgap
  generalize Reader.gapFrom r.inFlow r.keyAllowed false r'.place r'.rest = x' at hgap
  cases hgap with
  | @token k q q' c t t' step onward char tail =>
    have halike := h.toAlike.mono (rel_imp fun _ _ hk => hk.onward onward)
    refine .inl ⟨c, t, t', ?_, onward.length, onward.length'⟩
    exact ⟨⟨⟨h.read, h.indent, h.outer, halike.candidate, halike.candidates⟩, step, rfl⟩, rfl, rfl,
      char, tail⟩
  | ended line =>
    have halike := h.toAlike.mono (rel_imp fun _ _ hk => hk.toOldKey)
    refine .inr ⟨?_, rfl⟩
    exact ⟨⟨h.read, h.indent, h.outer, halike.candidate, halike.candidates⟩, rfl, .inl rfl, line⟩

theorem Finished.toToken {n d : Nat} {r r' : Reader} (h : Finished n d r r') :
    Finished n d r.toToken r'.toToken ∧ r'.toToken.rest = [] := by
  obtain ⟨k, q, hq, hline⟩ := gapFrom_trail r'.inFlow r'.keyAllowed false r'.place h.rest'
  unfold Reader.toToken
  rw [hq, h.rest]
  refine ⟨⟨⟨h.read, h.indent, h.outer, h.candidate, h.candidates⟩, rfl, .inl rfl, ?_⟩, rfl⟩
  exact Nat.le_trans h.line hline

/-! ### Keys that are too old -/

namespace Reader

/-- Whether a possible key is on an earlier line or too far away. -/
def isStale (r : Reader) (k : KeyPlace) : Bool :=
  k.place.line < r.place.line || byteLength r.rest + 1024 < k.remaining

theorem refresh_some (r : Reader) (k : KeyPlace) :
    r.refresh (some k) =
      if r.isStale k && k.required then .error .unfinishedKey
      else .ok (if r.isStale k then none else some k) := by
  show (if r.isStale k then _ else _) = _
  cases r.isStale k <;> cases k.required <;> rfl

end Reader

/-- A possible key becomes too old for both readers at once. -/
theorem Alongside.isStale_eq {n d : Nat} {r r' : Reader} (h : Alongside n d r r')
    {k k' : KeyPlace} (hk : SameKey n d r.place r.rest r'.rest k k') :
    r'.isStale k' = r.isStale k := by
  have hline := h.step.line
  have hline' := hk.line
  have hearlier := hk.earlier
  have hbytes := hk.bytes
  unfold Reader.isStale
  rw [Bool.eq_iff_iff]
  simp only [Bool.or_eq_true, decide_eq_true_eq]
  omega

theorem Alongside.refresh {n d : Nat} {r r' : Reader} (h : Alongside n d r r')
    (k k' : Option KeyPlace) (hk : Option.Rel (SameKey n d r.place r.rest r'.rest) k k') :
    Tracks (Option.Rel (SameKey n d r.place r.rest r'.rest)) (r.refresh k) (r'.refresh k') := by
  cases hk with
  | none => exact .ok .none
  | some hk =>
    rw [Reader.refresh_some, Reader.refresh_some, h.isStale_eq hk, hk.required]
    refine .ite Iff.rfl (fun _ => .error) fun _ => .ok ?_
    split
    · exact .none
    · exact .some hk

/-- At the ends of the texts, a key that is too old for the first reader is so for the second. -/
theorem Finished.isStale_of {n d : Nat} {r r' : Reader} (h : Finished n d r r')
    (hrest : r'.rest = []) {k k' : KeyPlace} (hk : OldKey d k k') (hstale : r.isStale k = true) :
    r'.isStale k' = true := by
  have hline := h.line
  have hline' := hk.line
  have hremaining := hk.remaining
  unfold Reader.isStale at hstale ⊢
  rw [h.rest] at hstale
  rw [hrest]
  simp only [Bool.or_eq_true, decide_eq_true_eq] at hstale ⊢
  omega

/-- At the ends of the texts, a key that is required of the first reader is required of the
second. -/
def Required (k k' : Option KeyPlace) : Prop :=
  k.any (·.required) = true → k'.any (·.required) = true

theorem Finished.refresh {n d : Nat} {r r' : Reader} (h : Finished n d r r') (hrest : r'.rest = [])
    (k k' : Option KeyPlace) (hk : Option.Rel (OldKey d) k k') :
    Tracks Required (r.refresh k) (r'.refresh k') := by
  cases hk with
  | none => exact .ok id
  | @some k k' hk =>
    rw [Reader.refresh_some, Reader.refresh_some, hk.required]
    by_cases hfail : (r'.isStale k' && k.required) = true
    · rw [if_pos hfail]
      exact .error
    · have hpass : ¬ (r.isStale k && k.required) = true := by
        intro hstale
        rw [Bool.and_eq_true] at hstale
        exact hfail (by rw [h.isStale_of hrest hk hstale.1, hstale.2]; rfl)
      rw [if_neg hfail, if_neg hpass]
      refine .ok fun hany => ?_
      -- the key is still there, and it is required
      have hrequired : k.required = true := by
        split at hany
        · exact nomatch hany
        · exact hany
      rw [hrequired, Bool.and_true] at hfail
      rw [if_neg hfail]
      exact hk.required.trans hrequired

/-! ### Updates that stay in place -/

/-- A reader has gone neither on nor to a place where a key may begin. -/
structure Stays (r a : Reader) : Prop where
  rest : a.rest = r.rest
  place : a.place = r.place
  keyAllowed : a.keyAllowed = r.keyAllowed

theorem stays_unindent (r : Reader) (column : Int) : Stays r (r.unindent column) := by
  cases h : r.inFlow with
  | true =>
    rw [r.unindent_of_inFlow h]
    exact ⟨rfl, rfl, rfl⟩
  | false =>
    rw [r.unindent_of_not_inFlow h]
    exact ⟨rfl, rfl, rfl⟩

theorem stays_indentTo (r : Reader) (column number : Nat) (t : Token) :
    Stays r (r.indentTo column number t) := by
  unfold Reader.indentTo
  split
  · exact ⟨rfl, rfl, rfl⟩
  · exact ⟨rfl, rfl, rfl⟩

namespace AtToken

variable {n d : Nat} {c : Char} {s s' : Text} {r r' a a' : Reader}

theorem of_stays (h : AtToken n d c s s' r r') (hr : Stays r a) (hr' : Stays r' a')
    (ha : Alike n (Option.Rel (SameKey n d r.place r.rest r'.rest)) a a') :
    AtToken n d c s s' a a' := by
  obtain ⟨hrest, hplace, hallowed⟩ := hr
  obtain ⟨hrest', hplace', hallowed'⟩ := hr'
  refine ⟨⟨?_, ?_, ?_⟩, hrest.trans h.rest, hrest'.trans h.rest', h.char, h.tail⟩
  · rw [hrest, hplace, hrest']
    exact ha
  · rw [hrest, hplace, hrest', hplace']
    exact h.step
  · rw [hallowed, hallowed']
    exact h.keyAllowed

theorem allowKey (h : AtToken n d c s s' r r') (b : Bool) :
    AtToken n d c s s' { r with keyAllowed := b } { r' with keyAllowed := b } :=
  ⟨⟨⟨h.read, h.indent, h.outer, h.candidate, h.candidates⟩, h.step, rfl⟩, h.rest, h.rest', h.char,
    h.tail⟩

theorem setKey (h : AtToken n d c s s' r r') {k k' : Option KeyPlace}
    (hk : Option.Rel (SameKey n d r.place r.rest r'.rest) k k') :
    AtToken n d c s s' { r with candidate := k } { r' with candidate := k' } :=
  ⟨⟨⟨h.read, h.indent, h.outer, hk, h.candidates⟩, h.step, h.keyAllowed⟩, h.rest, h.rest', h.char,
    h.tail⟩

theorem emitAt (h : AtToken n d c s s' r r') (number : Nat) (t : Token) :
    AtToken n d c s s' (r.emitAt number t) (r'.emitAt number t) :=
  h.of_stays ⟨rfl, rfl, rfl⟩ ⟨rfl, rfl, rfl⟩ (h.toAlike.emitAt number t)

theorem indentTo (h : AtToken n d c s s' r r') {column column' : Nat}
    (hcolumn : column' = column + n) (number : Nat) (t : Token) :
    AtToken n d c s s' (r.indentTo column number t) (r'.indentTo column' number t) := by
  rw [hcolumn]
  exact h.of_stays (stays_indentTo _ _ _ _) (stays_indentTo _ _ _ _)
    (h.toAlike.indentTo column number t)

theorem required_eq (h : AtToken n d c s s' r r') :
    r'.candidate.any (·.required) = r.candidate.any (·.required) := by
  have hkey := h.candidate
  generalize r.candidate = k at hkey
  generalize r'.candidate = k' at hkey
  cases hkey with
  | none => rfl
  | some hk => exact hk.required

theorem dropKey (h : AtToken n d c s s' r r') :
    Tracks (AtToken n d c s s') r.dropKey r'.dropKey := by
  rw [Reader.dropKey_eq, Reader.dropKey_eq, h.required_eq]
  exact .ite Iff.rfl (fun _ => .error) fun _ => .ok (h.setKey .none)

theorem saveKey (h : AtToken n d c s s' r r') :
    Tracks (AtToken n d c s s') r.saveKey r'.saveKey := by
  have hcolumn : (r'.indent == (r'.place.column : Int)) = (r.indent == (r.place.column : Int)) := by
    rw [h.indent, h.step.column, Bool.eq_iff_iff, beq_iff_eq, beq_iff_eq]
    exact shift_eq_iff n r.place.column r.indent
  have hkey : SameKey n d r.place r.rest r'.rest
      ⟨!r.inFlow && r.indent == r.place.column, r.read.length, r.place, byteLength r.rest⟩
      ⟨!r'.inFlow && r'.indent == r'.place.column, r'.read.length, r'.place,
        byteLength r'.rest⟩ := by
    refine ⟨⟨?_, h.step.line, h.step.text.byteLength_le⟩, congrArg List.length h.read,
      h.step.column, Nat.le_refl _, fun _ => Nat.add_comm _ _⟩
    rw [h.inFlow_eq, hcolumn]
  rw [Reader.saveKey_eq, Reader.saveKey_eq, h.required_eq]
  refine .ite (by rw [h.keyAllowed]) (fun _ => ?_) fun _ => .ok h
  exact .ite Iff.rfl (fun _ => .error) fun _ => .ok (h.setKey (.some hkey))

theorem dropStale (h : AtToken n d c s s' r r') :
    Tracks (AtToken n d c s s') r.dropStale r'.dropStale := by
  unfold Reader.dropStale
  refine (h.refresh _ _ h.candidate).bind fun k k' hk => ?_
  refine (Tracks.mapM h.refresh h.candidates).bind fun ks ks' hks => .ok ?_
  exact ⟨⟨⟨h.read, h.indent, h.outer, hk, hks⟩, h.step, h.keyAllowed⟩, h.rest, h.rest', h.char,
    h.tail⟩

/-- Both readers close the same block collections before a token. -/
theorem unindent (h : AtToken n d c s s' r r') :
    AtToken n d c s s' (r.unindent r.place.column) (r'.unindent r'.place.column) := by
  have halike : Alike n (Option.Rel (SameKey n d r.place r.rest r'.rest))
      (r.unindent r.place.column) (r'.unindent r'.place.column) := by
    refine h.toAlike.unindent fun i => ?_
    rw [h.step.column]
    exact lt_shift_iff n r.place.column i
  exact h.of_stays (stays_unindent _ _) (stays_unindent _ _) halike

end AtToken

end Yaml

end Tagline
