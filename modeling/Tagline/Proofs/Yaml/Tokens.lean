import Tagline.Proofs.Yaml.Readers

/-!
# The tokens of a text that is indented more

A document has the same tokens when all of its lines are moved to the right by the same number of
spaces, and when rows of spaces are put before it (`tracks_tokens`). It is shown token by token:
each kind of token takes two readers that are in step before it to two readers that are in step
behind it (`AtToken.dispatch`), or to the ends of their texts, and a run is a row of such steps
(`tracks_run`).

The characters at the front of a line decide which token begins there, and with which collections it
is done. Directives and document marks count only at the start of a line, where no line of a bare
document has them. Block scalars are the one kind of token that depends on how far a line is
indented by itself, and they cannot begin.
-/

namespace Tagline

namespace Yaml

/-! ### Tags -/

/-- Two readers have found the same tag. -/
structure SameTag (n : Nat) (s s' : Text) (x x' : Text × Text × Text) : Prop where
  handle : x'.1 = x.1
  suffix : x'.2.1 = x.2.1
  cut : Cut n s s' x.2.2 x'.2.2

theorem tracks_tagText {n : Nat} {s s' : Text} (h : Indented n s s') (full : Bool) (start : Text) :
    Tracks (fun x x' => x'.1 = x.1 ∧ Cut n s s' x.2 x'.2) (Reader.tagText full start s)
      (Reader.tagText full start s') := by
  have hn : Reader.isTagChar full '\n' = false := by cases full <;> decide
  have hr : Reader.isTagChar full '\r' = false := by cases full <;> decide
  unfold Reader.tagText
  rw [(h.takeWhile_eq hn hr).1]
  cases Reader.unescapeTag 0 (start ++ s.takeWhile (Reader.isTagChar full)) with
  | error e => exact .error
  | ok text => exact .ok ⟨rfl, .dropWhile h hn hr⟩

/-- **Tags.** A tag between `<` and `>` does not occur, since its end may begin a block scalar. -/
theorem tracks_tagParts {n : Nat} {s s' : Text} (h : Indented n s s') :
    Tracks (SameTag n s s') (Reader.tagParts s) (Reader.tagParts s') := by
  rcases h.cases_head (c := '<') (by decide) with ⟨r, r', rfl, rfl, hr⟩ | ⟨hne, hne'⟩
  · rw [Reader.tagParts.eq_1, Reader.tagParts.eq_1]
    refine (tracks_tagText hr true []).bind fun x x' hx => ?_
    obtain ⟨-, w, -, -, hrest⟩ := hx
    obtain ⟨suffix, rest⟩ := x'
    refine .of_ok fun _ htag => ?_
    dsimp only at hrest htag
    split at htag
    · obtain ⟨-, -, -, hsign, -⟩ := hrest.of_cons (by decide)
      exact absurd rfl hsign
    · exact nomatch htag
  · rw [Reader.tagParts.eq_2 s hne, Reader.tagParts.eq_2 s' hne']
    obtain ⟨hword, htail⟩ := h.takeWhile_eq (p := isNameChar) (by decide) (by decide)
    have hcut : Cut n s s' (s.dropWhile isNameChar) (s'.dropWhile isNameChar) :=
      .dropWhile h (by decide) (by decide)
    rw [hword]
    generalize s.takeWhile isNameChar = word
    generalize s.dropWhile isNameChar = t at *
    generalize s'.dropWhile isNameChar = t' at *
    rcases htail.cases_head (c := '!') (by decide) with ⟨r, r', rfl, rfl, hr⟩ | ⟨hne, hne'⟩
    · refine (tracks_tagText hr false []).bind fun x x' hx => ?_
      obtain ⟨hsuffix, hrest⟩ := hx
      dsimp only
      rw [hsuffix]
      refine .ite Iff.rfl (fun _ => .error) fun _ => .ok ⟨rfl, rfl, ?_⟩
      exact hcut.trans ((Cut.cons '!' hr).trans hrest)
    · split
      · exact absurd rfl (hne _)
      · refine (tracks_tagText htail false word).bind fun x x' hx => .ok ?_
        obtain ⟨hsuffix, hrest⟩ := hx
        rw [hsuffix]
        split
        · exact ⟨rfl, rfl, hcut.trans hrest⟩
        · exact ⟨rfl, rfl, hcut.trans hrest⟩

/-! ### Moving past a token -/

/-- What one token leads to: readers in step or at the ends of their texts, with no more than `s`
and `s'` left. -/
structure Follows (n d : Nat) (s s' : Text) (a a' : Reader) : Prop where
  state : Alongside n d a a' ∨ Finished n d a a'
  length : a.rest.length ≤ s.length
  length' : a'.rest.length ≤ s'.length

theorem Reader.rest_skip {r : Reader} {w t : Text} (h : r.rest = w ++ t) :
    (r.skip w.length).rest = t := by
  show r.rest.drop w.length = t
  rw [h, List.drop_left]

namespace Alongside

variable {n d : Nat} {r r' : Reader}

theorem emit (h : Alongside n d r r') (k : Token) : Alongside n d (r.emit k) (r'.emit k) :=
  ⟨⟨congrArg (k :: ·) h.read, h.indent, h.outer, h.candidate, h.candidates⟩, h.step, h.keyAllowed⟩

/-- Both readers move past the same characters of a line. -/
theorem skip (h : Alongside n d r r') {w t t' : Text} (hw : w ≠ []) (hr : r.rest = w ++ t)
    (hr' : r'.rest = w ++ t') (ht : Indented n t t') :
    Alongside n d (r.skip w.length) (r'.skip w.length) := by
  have hrest := Reader.rest_skip hr
  have hrest' := Reader.rest_skip hr'
  have hstep := h.step
  have halike := h.toAlike
  rw [hr, hr'] at hstep halike
  have hkeys := halike.mono (rel_imp fun _ _ hk => hk.onward (Onward.skip r.place w t t'))
  have hnext := hstep.skip hw ht
  rw [← hrest, ← hrest'] at hkeys hnext
  exact ⟨⟨h.read, h.indent, h.outer, hkeys.candidate, hkeys.candidates⟩, hnext, h.keyAllowed⟩

end Alongside

theorem Reader.skip_skip (r : Reader) (j k : Nat) : (r.skip j).skip k = r.skip (k + j) := by
  simp only [Reader.skip, Place.skip, List.drop_drop, Nat.add_assoc, Nat.add_comm j k]

namespace AtToken

variable {n d : Nat} {c : Char} {s s' : Text} {r r' : Reader}

theorem skip_rest (h : AtToken n d c s s' r r') : (r.skip 1).rest = s ∧ (r'.skip 1).rest = s' := by
  constructor
  · exact Reader.rest_skip (w := [c]) h.rest
  · exact Reader.rest_skip (w := [c]) h.rest'

theorem skip_one (h : AtToken n d c s s' r r') : Alongside n d (r.skip 1) (r'.skip 1) :=
  h.toAlongside.skip (w := [c]) (List.cons_ne_nil c []) h.rest h.rest' h.tail

theorem emit_next (h : AtToken n d c s s' r r') (k : Token) :
    Follows n d s s' ((r.skip 1).emit k) ((r'.skip 1).emit k) := by
  obtain ⟨hrest, hrest'⟩ := h.skip_rest
  refine ⟨.inl (h.skip_one.emit k), ?_, ?_⟩
  · exact Nat.le_of_eq (congrArg List.length hrest)
  · exact Nat.le_of_eq (congrArg List.length hrest')

theorem flowStart (h : AtToken n d c s s' r r') (k : Token) :
    Tracks (Follows n d s s') (r.flowStart k) (r'.flowStart k) := by
  refine h.saveKey.bind fun a a' ha => .ok ?_
  have hnew : AtToken n d c s s'
      { a with candidate := none, candidates := a.candidate :: a.candidates, keyAllowed := true }
      { a' with candidate := none, candidates := a'.candidate :: a'.candidates,
                keyAllowed := true } :=
    ⟨⟨⟨ha.read, ha.indent, ha.outer, .none, .cons ha.candidate ha.candidates⟩, ha.step, rfl⟩,
      ha.rest, ha.rest', ha.char, ha.tail⟩
  exact hnew.emit_next k

theorem flowEnd (h : AtToken n d c s s' r r') (k : Token) :
    Tracks (Follows n d s s') (r.flowEnd k) (r'.flowEnd k) := by
  refine h.dropKey.bind fun a a' ha => .ok ?_
  -- the keys around the collection are taken apart together, so the readers are first
  obtain ⟨rest, place, read, indent, outer, keyAllowed, candidate, candidates⟩ := a
  obtain ⟨rest', place', read', indent', outer', keyAllowed', candidate', candidates'⟩ := a'
  have hkeys : List.Forall₂ _ candidates candidates' := ha.candidates
  cases hkeys with
  | nil => exact (ha.allowKey false).emit_next k
  | cons hkey hkeys =>
    have hnew : AtToken n d c s s'
        ⟨rest, place, read, indent, outer, false, _, _⟩
        ⟨rest', place', read', indent', outer', false, _, _⟩ :=
      ⟨⟨⟨ha.read, ha.indent, ha.outer, hkey, hkeys⟩, ha.step, rfl⟩, ha.rest, ha.rest', ha.char,
        ha.tail⟩
    exact hnew.emit_next k

theorem flowEntry (h : AtToken n d c s s' r r') :
    Tracks (Follows n d s s') r.flowEntry r'.flowEntry :=
  h.dropKey.bind fun _ _ ha => .ok ((ha.allowKey true).emit_next _)

theorem blockEntry (h : AtToken n d c s s' r r') :
    Tracks (Follows n d s s') r.blockEntry r'.blockEntry := by
  unfold Reader.blockEntry
  rw [h.inFlow_eq, h.keyAllowed, h.read]
  refine .ite Iff.rfl (fun _ => .error) fun _ => ?_
  refine (h.indentTo h.step.column _ _).dropKey.bind fun a a' ha => .ok ?_
  exact (ha.allowKey true).emit_next _

theorem explicitKey (h : AtToken n d c s s' r r') :
    Tracks (Follows n d s s') r.explicitKey r'.explicitKey := by
  unfold Reader.explicitKey
  rw [h.inFlow_eq, h.keyAllowed, h.read]
  refine .ite Iff.rfl (fun _ => .error) fun _ => ?_
  refine (h.indentTo h.step.column _ _).dropKey.bind fun a a' ha => .ok ?_
  rw [ha.inFlow_eq]
  exact (ha.allowKey _).emit_next _

theorem mappingValue (h : AtToken n d c s s' r r') :
    Tracks (Follows n d s s') r.mappingValue r'.mappingValue := by
  unfold Reader.mappingValue
  have hcandidate := h.candidate
  cases hkey : r.candidate with
  | none =>
    rw [hkey] at hcandidate
    have hkey' : r'.candidate = none := by
      generalize r'.candidate = k' at hcandidate
      cases hcandidate
      rfl
    rw [hkey', h.inFlow_eq, h.keyAllowed, h.read]
    refine .ite Iff.rfl (fun _ => .error) fun _ => .ok ?_
    have hnew := h.indentTo h.step.column r.read.length .blockMappingStart
    rw [hnew.inFlow_eq]
    exact (hnew.allowKey _).emit_next _
  | some key =>
    rw [hkey] at hcandidate
    obtain ⟨key', hkey', hsame⟩ : ∃ key', r'.candidate = some key' ∧
        SameKey n d r.place r.rest r'.rest key key' := by
      generalize r'.candidate = k' at hcandidate
      cases hcandidate with
      | some hsame => exact ⟨_, rfl, hsame⟩
    have hnew : AtToken n d c s s'
        ((r.emitAt key.number .key).indentTo key.place.column key.number .blockMappingStart)
        ((r'.emitAt key'.number .key).indentTo key'.place.column key'.number
          .blockMappingStart) := by
      rw [hsame.number]
      exact (h.emitAt _ _).indentTo hsame.column _ _
    rw [hkey']
    exact .ok (((hnew.setKey .none).allowKey false).emit_next _)

/-- Both readers move past more characters behind the first one, and add a token. -/
theorem emit_skip {w t t' : Text} (h : AtToken n d c (w ++ t) (w ++ t') r r')
    (ht : Indented n t t') (k : Token) :
    Follows n d (w ++ t) (w ++ t') ((r.skip (w.length + 1)).emit k)
      ((r'.skip (w.length + 1)).emit k) := by
  have hrest : r.rest = (c :: w) ++ t := h.rest
  have hrest' : r'.rest = (c :: w) ++ t' := h.rest'
  have hnext := h.toAlongside.skip (List.cons_ne_nil c w) hrest hrest' ht
  refine ⟨.inl (hnext.emit k), ?_, ?_⟩
  · show (r.skip (c :: w).length).rest.length ≤ _
    rw [Reader.rest_skip hrest, List.length_append]
    omega
  · show (r'.skip (c :: w).length).rest.length ≤ _
    rw [Reader.rest_skip hrest', List.length_append]
    omega

/-- Both readers find the same name. -/
theorem name (h : AtToken n d c s s' r r') (make : Text → Token) :
    Tracks (Follows n d s s') (r.name make) (r'.name make) := by
  unfold Reader.name
  refine h.saveKey.bind fun a a' ha => ?_
  have hnew := ha.allowKey false
  obtain ⟨hrest, hrest'⟩ := hnew.skip_rest
  obtain ⟨hword, htail⟩ := ha.tail.takeWhile_eq (p := isNameChar) (by decide) (by decide)
  have hsplit : s = s.takeWhile isNameChar ++ s.dropWhile isNameChar :=
    List.takeWhile_append_dropWhile.symm
  have hsplit' : s' = s.takeWhile isNameChar ++ s'.dropWhile isNameChar := by
    rw [← hword, List.takeWhile_append_dropWhile]
  dsimp only
  rw [hrest, hrest', hword, Reader.skip_skip, Reader.skip_skip]
  generalize s.takeWhile isNameChar = w at *
  generalize s.dropWhile isNameChar = t at *
  generalize s'.dropWhile isNameChar = t' at *
  subst hsplit hsplit'
  have hend : (Reader.skip (w.length + 1) { a with keyAllowed := false }).rest = t :=
    Reader.rest_skip (w := c :: w) hnew.rest
  have hend' : (Reader.skip (w.length + 1) { a' with keyAllowed := false }).rest = t' :=
    Reader.rest_skip (w := c :: w) hnew.rest'
  rw [hend, hend', htail.endsName_eq]
  exact .ite Iff.rfl (fun _ => .error) fun _ => .ok (hnew.emit_skip htail _)

/-- Both readers find the same tag. -/
theorem tag (h : AtToken n d c s s' r r') : Tracks (Follows n d s s') r.tag r'.tag := by
  unfold Reader.tag
  refine h.saveKey.bind fun a a' ha => ?_
  have hparts : Tracks (SameTag n s s') (Reader.tagParts (a.rest.drop 1))
      (Reader.tagParts (a'.rest.drop 1)) := by
    rw [ha.rest, ha.rest']
    exact tracks_tagParts ha.tail
  refine hparts.bind fun x x' hx => ?_
  obtain ⟨hhandle, hsuffix, w, rfl, rfl, hrest⟩ := hx
  have hlength : a.rest.length - x.2.2.length = w.length + 1 := by
    rw [ha.rest]
    simp only [List.length_cons, List.length_append]
    omega
  have hlength' : a'.rest.length - x'.2.2.length = w.length + 1 := by
    rw [ha.rest']
    simp only [List.length_cons, List.length_append]
    omega
  have hnew := ha.allowKey false
  dsimp only
  rw [hlength, hlength', hhandle, hsuffix, hrest.atGap_eq, hrest.head?_beq (by decide)]
  refine .ite ?_ (fun _ => .ok (hnew.emit_skip hrest _)) fun _ => .error
  show (_ || a'.inFlow && _) = true ↔ (_ || a.inFlow && _) = true
  rw [ha.inFlow_eq]

end AtToken

/-! ### Scalars -/

theorem Alike.accept {n d : Nat} {p : Place} {t t' : Text} {r r' : Reader} {x x' : Scanned}
    (h : Alike n (Option.Rel (SameKey n d p t t')) r r') (hx : SameScalar n d p t t' x x')
    (hallowed : x'.broken = x.broken → r'.keyAllowed = r.keyAllowed) (style : Style) :
    Follows n d t t' (r.accept style x) (r'.accept style x') := by
  cases hx with
  | inStep text step onward broken =>
    have hkeys := h.mono (rel_imp fun _ _ hk => hk.onward onward)
    refine ⟨.inl ⟨⟨?_, h.indent, h.outer, hkeys.candidate, hkeys.candidates⟩, step,
      hallowed broken⟩, onward.length, onward.length'⟩
    show _ :: r'.read = _ :: r.read
    rw [text, h.read]
  | ended text rest rest' line line' =>
    have hkeys := h.mono (rel_imp fun _ _ hk => hk.toOldKey)
    refine ⟨.inr ⟨⟨?_, h.indent, h.outer, hkeys.candidate, hkeys.candidates⟩, rest, .inl rest',
      line'⟩, ?_, ?_⟩
    · show _ :: r'.read = _ :: r.read
      rw [text, h.read]
    · show x.rest.length ≤ _
      rw [rest]
      exact Nat.zero_le _
    · show x'.rest.length ≤ _
      rw [rest']
      exact Nat.zero_le _

namespace AtToken

variable {n d : Nat} {c : Char} {s s' : Text} {r r' : Reader}

/-- The keys, seen from behind the first character of a token. -/
theorem alike_next (h : AtToken n d c s s' r r') :
    Alike n (Option.Rel (SameKey n d r.place.next s s')) r r' := by
  have halike := h.toAlike
  rw [h.rest, h.rest'] at halike
  exact halike.mono (rel_imp fun _ _ hk => hk.onward (Onward.skip r.place [c] s s'))

theorem step_next (h : AtToken n d c s s' r r') : InStep n d r.place.next s r'.place.next s' := by
  have hstep := h.step
  rw [h.rest, h.rest'] at hstep
  exact hstep.next h.tail

theorem quotedScalar {scan : Gap → Place → Text → Except Error Scanned}
    (h : AtToken n d c s s' r r') (style : Style)
    (hscan : ∀ {here here' : Place}, InStep n d here s here' s' →
      Tracks (SameScalar n d here s s') (scan {} here s) (scan {} here' s')) :
    Tracks (Follows n d s s') (r.quotedScalar style scan) (r'.quotedScalar style scan) := by
  unfold Reader.quotedScalar
  refine h.saveKey.bind fun a a' ha => ?_
  have hnew := ha.allowKey false
  obtain ⟨hrest, hrest'⟩ := hnew.skip_rest
  dsimp only
  rw [hrest, hrest']
  refine (hscan hnew.step_next).bind fun x x' hx => .ok ?_
  exact hnew.alike_next.accept hx (fun _ => rfl) style

theorem plainScalar (h : AtToken n d c s s' r r') (hspace : isSpace c = false)
    (hcolon : (c == ':' && atGap s) = false) (hflow : isFlowIndicator c = false) :
    Tracks (Follows n d s s') r.plainScalar r'.plainScalar := by
  unfold Reader.plainScalar
  refine h.saveKey.bind fun a a' ha => ?_
  have hscan : Tracks (SameScalar n d a.place.next s s')
      (plainFrom a.inFlow (a.indent + 1).toNat {} a.place a.rest)
      (plainFrom a'.inFlow (a'.indent + 1).toNat {} a'.place a'.rest) := by
    have hhead := ha.tail.any_head? (p := fun d => isFlowIndicator d || d == '?') (by decide)
      (by decide)
    have hindent : ∀ k, k + n < (a'.indent + 1).toNat ↔ k < (a.indent + 1).toNat := by
      intro k
      rw [ha.indent]
      exact lt_toNat_shift_iff n k a.indent
    rw [ha.rest, ha.rest', ha.inFlow_eq, plainFrom_first ha.char hspace hcolon hflow,
      plainFrom_first ha.char hspace (by rw [ha.tail.atGap_eq]; exact hcolon) hflow, hhead]
    refine .ite Iff.rfl (fun _ => .error) fun _ => ?_
    exact (tracks_plainFrom hindent ha.tail ha.step_next).map fun _ _ hx => hx.prepend _
  refine hscan.bind fun x x' hx => .ok ?_
  have halike := ha.alike_next
  have hnew : Alike n (Option.Rel (SameKey n d a.place.next s s'))
      { a with keyAllowed := x.broken } { a' with keyAllowed := x'.broken } :=
    ⟨halike.read, halike.indent, halike.outer, halike.candidate, halike.candidates⟩
  exact hnew.accept hx id .plain

/-- **One token.** Both readers read the same one. -/
theorem dispatch (h : AtToken n d c s s' r r') :
    Tracks (Follows n d s s') (r.dispatch c s) (r'.dispatch c s') := by
  have hstep := h.step
  rw [h.rest, h.rest'] at hstep
  have hstart : LineStart (c :: s) → (c == '%') = false ∧ (c == '%') = false := by
    rintro ⟨-, -, hpercent, -⟩
    exact ⟨beq_false_of_ne hpercent, beq_false_of_ne hpercent⟩
  obtain ⟨hdirective, hdirective'⟩ := hstep.start_and hstart
  obtain ⟨hmark, hmark'⟩ := hstep.no_mark
  obtain ⟨-, -, hliteral, hfolded, -⟩ := hstep.text.of_cons h.char
  unfold Reader.dispatch
  -- now both readers ask the same questions, and a token is read by the lemma of its kind
  rw [hdirective, hdirective', hmark, hmark', h.inFlow_eq, h.tail.atGap_eq]
  refine .ite Iff.rfl (fun hno => nomatch hno) fun _ => ?_
  refine .ite Iff.rfl (fun hno => nomatch hno) fun _ => ?_
  refine .ite Iff.rfl (fun _ => h.flowStart _) fun hopen => ?_
  refine .ite Iff.rfl (fun _ => h.flowStart _) fun hopen' => ?_
  refine .ite Iff.rfl (fun _ => h.flowEnd _) fun hclose => ?_
  refine .ite Iff.rfl (fun _ => h.flowEnd _) fun hclose' => ?_
  refine .ite Iff.rfl (fun _ => h.flowEntry) fun hcomma => ?_
  refine .ite Iff.rfl (fun _ => h.blockEntry) fun _ => ?_
  refine .ite Iff.rfl (fun _ => h.explicitKey) fun _ => ?_
  refine .ite Iff.rfl (fun _ => h.mappingValue) fun hcolon => ?_
  refine .ite Iff.rfl (fun _ => h.name _) fun _ => ?_
  refine .ite Iff.rfl (fun _ => h.name _) fun _ => ?_
  refine .ite Iff.rfl (fun _ => h.tag) fun _ => ?_
  refine .ite Iff.rfl (fun hno => ?_) fun _ => ?_
  · simp [hliteral] at hno
  refine .ite Iff.rfl (fun hno => ?_) fun _ => ?_
  · simp [hfolded] at hno
  refine .ite Iff.rfl (fun _ => h.quotedScalar _ (tracks_singleFrom h.tail)) fun _ => ?_
  refine .ite Iff.rfl (fun _ => h.quotedScalar _ (tracks_doubleFrom h.tail)) fun _ => ?_
  refine .ite Iff.rfl (fun hplain => ?_) fun _ => .error
  refine h.plainScalar ?_ ?_ ?_
  · -- the signs that may begin a plain scalar are no white space either
    refine Bool.eq_false_iff.2 fun hspace => ?_
    rcases Bool.or_eq_true_iff.1 hspace with hc | hc
    all_goals
      rw [beq_iff_eq] at hc
      subst hc
      revert hplain
      cases r.inFlow <;> decide
  · rw [Bool.eq_false_iff]
    intro hno
    rw [Bool.and_eq_true] at hno
    exact hcolon (by rw [hno.1, hno.2, Bool.or_true]; rfl)
  · simp only [isFlowIndicator, Bool.or_eq_false_iff]
    simp only [Bool.not_eq_true] at hopen hopen' hclose hclose' hcomma
    exact ⟨⟨⟨⟨hcomma, hopen⟩, hclose⟩, hopen'⟩, hclose'⟩

end AtToken

/-! ### The whole text -/

/-- What is closed before the end is closed at the end as well. -/
theorem Reader.finish_unindent (r : Reader) (column : Nat) :
    (r.unindent column).finish = r.finish := by
  unfold Reader.finish
  rw [r.unindent_unindent (by omega)]

theorem Alike.finish {n : Nat} {r r' : Reader} (h : Alike n Required r r') :
    Tracks (fun a a' => a'.read = a.read) r.finish r'.finish := by
  have hclosed := h.unindent (neg_one_lt_shift_iff n)
  unfold Reader.finish
  rw [Reader.dropKey_eq, Reader.dropKey_eq]
  by_cases hrequired' : (r'.unindent (-1)).candidate.any (·.required) = true
  · rw [if_pos hrequired']
    exact .error
  · rw [if_neg hrequired', if_neg (mt hclosed.candidate hrequired')]
    exact .ok hclosed.read

theorem Finished.dropStale {n d : Nat} {r r' : Reader} (h : Finished n d r r')
    (hrest : r'.rest = []) :
    Tracks (fun a a' => Alike n Required a a' ∧ a.rest = [] ∧ a'.rest = []) r.dropStale
      r'.dropStale := by
  unfold Reader.dropStale
  refine (h.refresh hrest _ _ h.candidate).bind fun k k' hk => ?_
  refine (Tracks.mapM (h.refresh hrest) h.candidates).bind fun ks ks' hks => .ok ?_
  exact ⟨⟨h.read, h.indent, h.outer, hk, hks⟩, h.rest, hrest⟩

/-- At the ends of the texts nothing is left to be read, and both readers close the same. -/
theorem Finished.run_succ {n d : Nat} {r r' : Reader} (h : Finished n d r.toToken r'.toToken)
    (hrest : r'.toToken.rest = []) (fuel fuel' : Nat) :
    Tracks (fun a a' => a'.read = a.read) (Reader.run (fuel + 1) r)
      (Reader.run (fuel' + 1) r') := by
  unfold Reader.run Reader.advance
  simp only [bind_assoc, pure_bind]
  refine (h.dropStale hrest).bind fun a a' ha => ?_
  obtain ⟨halike, ha, ha'⟩ := ha
  rw [(stays_unindent a _).rest, (stays_unindent a' _).rest, ha, ha']
  dsimp only
  rw [Reader.finish_unindent, Reader.finish_unindent]
  exact halike.finish

/-- **Runs.** Two readers that are in step, or at the ends of their texts, find the same tokens, if
they may go on to the end. -/
theorem tracks_run {n d : Nat} {fuel fuel' : Nat} {r r' : Reader} (hfuel : r.rest.length < fuel)
    (hfuel' : r'.rest.length < fuel') (h : Alongside n d r r' ∨ Finished n d r r') :
    Tracks (fun a a' => a'.read = a.read) (Reader.run fuel r) (Reader.run fuel' r') := by
  -- the fuel is more than what is left of either text, and every token takes a character of both
  induction fuel generalizing fuel' r r' with
  | zero => exact absurd hfuel (Nat.not_lt_zero _)
  | succ fuel ih =>
    cases fuel' with
    | zero => exact absurd hfuel' (Nat.not_lt_zero _)
    | succ fuel' =>
      rcases h with h | h
      · rcases h.toToken with ⟨c, s, s', htoken, hlength, hlength'⟩ | ⟨hend, hrest⟩
        · unfold Reader.run Reader.advance
          simp only [bind_assoc, pure_bind]
          refine htoken.dropStale.bind fun a a' ha => ?_
          have hnew := ha.unindent
          rw [hnew.rest, hnew.rest']
          refine hnew.dispatch.bind fun b b' hb => ?_
          have hb_length := hb.length
          have hb_length' := hb.length'
          exact ih (by omega) (by omega) hb.state
        · exact hend.run_succ hrest fuel fuel'
      · obtain ⟨hend, hrest⟩ := h.toToken
        exact hend.run_succ hrest fuel fuel'

/-! ### Rows of spaces in front -/

/-- Rows of spaces. -/
def blankRows (rows : List (Nat × Text)) : Text := rows.flatMap fun row => spaces row.1 ++ row.2

theorem gapFrom_blankRows {rows : List (Nat × Text)} (hrows : ∀ row ∈ rows, IsLineEnd row.2)
    (line : Nat) (t : Text) :
    Reader.gapFrom false true false ⟨line, 0⟩ (blankRows rows ++ t) =
      Reader.gapFrom false true false ⟨line + rows.length, 0⟩ t := by
  unfold blankRows
  induction rows generalizing line with
  | nil => rfl
  | cons row rows ih =>
    obtain ⟨hrow, hrows⟩ := List.forall_mem_cons.1 hrows
    rw [List.flatMap_cons, List.append_assoc, List.append_assoc, gapFrom_spaces,
      gapFrom_lineEnd hrow]
    show Reader.gapFrom false true false ⟨line + 1, 0⟩ _ = _
    rw [ih hrows, List.length_cons, Nat.add_right_comm, Nat.add_assoc]

/-- Before the first line, the reader passes over rows of spaces. -/
theorem toToken_blankRows {rows : List (Nat × Text)} (hrows : ∀ row ∈ rows, IsLineEnd row.2)
    (n : Nat) (s : Text) :
    ({ rest := blankRows rows ++ (spaces n ++ s) } : Reader).toToken =
      ({ rest := s, place := ⟨rows.length, n⟩ } : Reader).toToken := by
  have hgap := gapFrom_blankRows hrows 0 (spaces n ++ s)
  have hskip : (⟨0 + rows.length, 0⟩ : Place).skip n = ⟨rows.length, n⟩ := by
    simp only [Place.skip, Nat.zero_add]
  rw [gapFrom_spaces, hskip] at hgap
  exact congrArg (fun x : Bool × Place × Text =>
    ({ rest := x.2.2, place := x.2.1, keyAllowed := x.1 } : Reader)) hgap

theorem run_blankRows {rows : List (Nat × Text)} (hrows : ∀ row ∈ rows, IsLineEnd row.2)
    (n fuel : Nat) (s : Text) :
    Reader.run (fuel + 1) { rest := blankRows rows ++ (spaces n ++ s) } =
      Reader.run (fuel + 1) { rest := s, place := ⟨rows.length, n⟩ } := by
  unfold Reader.run Reader.advance
  rw [toToken_blankRows hrows]

/-- Two readers are in step before the first line. -/
theorem alongside_start {n d : Nat} {s s' : Text} (h : Indented n s s') (hs : LineStart s) :
    Alongside n d { rest := s } { rest := s', place := ⟨d, n⟩ } := by
  have hstep : InStep n d ⟨0, 0⟩ s ⟨d, n⟩ s' :=
    ⟨h, (Nat.zero_add d).symm, (Nat.zero_add n).symm, fun _ => hs⟩
  exact ⟨⟨rfl, rfl, rfl, .none, .nil⟩, hstep, rfl⟩

/-- **The same tokens.** They are found in a document that is indented more, and behind rows of
spaces. -/
theorem tracks_tokens {n : Nat} {rows : List (Nat × Text)} {s s' : Text} (h : Indented n s s')
    (hs : LineStart s) (hrows : ∀ row ∈ rows, IsLineEnd row.2) :
    Tracks (fun ts ts' => ts' = ts) (tokens s) (tokens (blankRows rows ++ (spaces n ++ s'))) := by
  unfold tokens
  by_cases hall : (blankRows rows ++ (spaces n ++ s')).all isAllowed = true
  · have hall' : s.all isAllowed = true := by
      rw [List.all_append, List.all_append, Bool.and_eq_true, Bool.and_eq_true] at hall
      exact h.all_isAllowed hall.2.2
    have hfuel : s'.length < (blankRows rows ++ (spaces n ++ s')).length + 1 := by
      rw [List.length_append, List.length_append]
      omega
    have hrun := tracks_run (Nat.lt_succ_self s.length) hfuel
      (.inl (alongside_start (d := rows.length) h hs))
    rw [if_pos hall, if_pos hall', run_blankRows hrows]
    refine hrun.bind fun a a' ha => .ok ?_
    rw [ha]
  · rw [if_neg hall]
    exact .error

end Yaml

end Tagline
