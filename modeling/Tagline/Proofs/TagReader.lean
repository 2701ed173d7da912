import Tagline.Proofs.Expansion

/-!
# Reading the tags of a template

The engine that runs a template cuts it at the marks: a tag begins at `<%`, echoes a value if
`=` follows at once, and ends at the first `%>`; everything else is literal text, and so is a
`<%` that nothing closes. `Segment.ofText` is that reader.

Nothing is escaped in a tag, so the reader finds the tags of an expansion again exactly if no
text that was put into one of them holds the closing mark:

* `ofText_text_append` — one tag without the mark in its script is read off the front of a
  text, whatever follows it;
* `closing_not_isInfix_of_mem_ofText` — the content of a tag that was read never holds the
  mark, whatever the text;
* `closing_isInfix_script_iff` — the fixed text around the payloads of a clause neither holds
  the mark nor completes it, so that the script holds it only if a payload does;
* `ofText_flatMap_render_iff` — hence the tags of a list of clauses are read back if and only
  if no payload holds the mark.
-/

namespace Tagline

namespace Text

/-! ### Occurrences -/

/-- What stands before and after the first occurrence of a mark. -/
def around? (mark : Text) : Text → Option (Text × Text)
  | [] => (after? mark []).map fun rest => ([], rest)
  | c :: s =>
    match after? mark (c :: s) with
    | some rest => some ([], rest)
    | none => (around? mark s).map fun (before, rest) => (c :: before, rest)

theorem eq_of_around? {mark s x y : Text} (h : around? mark s = some (x, y)) :
    s = x ++ mark ++ y := by
  induction s generalizing x with
  | nil =>
    obtain ⟨rest, hrest, hpair⟩ := Option.map_eq_some_iff.1 h
    obtain ⟨rfl, rfl⟩ := Prod.mk.inj hpair
    exact after?_eq_some_iff.1 hrest
  | cons c s ih =>
    rw [around?] at h
    cases hafter : after? mark (c :: s) with
    | some rest =>
      rw [hafter] at h
      obtain ⟨rfl, rfl⟩ := Prod.mk.inj (Option.some.inj h)
      exact after?_eq_some_iff.1 hafter
    | none =>
      rw [hafter] at h
      obtain ⟨⟨x', y'⟩, hrest, hpair⟩ := Option.map_eq_some_iff.1 h
      obtain ⟨rfl, rfl⟩ := Prod.mk.inj hpair
      -- the mark is further on, and `c` belongs to what stands before it
      rw [ih hrest]
      rfl

theorem not_isInfix_of_around? {mark s x y : Text} (hmark : mark ≠ [])
    (h : around? mark s = some (x, y)) : ¬ mark <:+: x := by
  induction s generalizing x with
  | nil =>
    obtain ⟨rest, -, hpair⟩ := Option.map_eq_some_iff.1 h
    obtain ⟨rfl, rfl⟩ := Prod.mk.inj hpair
    exact fun hocc => hmark (List.infix_nil.1 hocc)
  | cons c s ih =>
    have hs : c :: s = x ++ mark ++ y := eq_of_around? h
    rw [around?] at h
    cases hafter : after? mark (c :: s) with
    | some rest =>
      rw [hafter] at h
      obtain ⟨rfl, rfl⟩ := Prod.mk.inj (Option.some.inj h)
      exact fun hocc => hmark (List.infix_nil.1 hocc)
    | none =>
      rw [hafter] at h
      obtain ⟨⟨x', y'⟩, hrest, hpair⟩ := Option.map_eq_some_iff.1 h
      obtain ⟨rfl, rfl⟩ := Prod.mk.inj hpair
      intro hocc
      rcases List.infix_cons_iff.1 hocc with hfront | hocc
      · -- the mark would stand at the front of the whole text, where none was found
        obtain ⟨t, ht⟩ := hfront
        have hsome : after? mark (c :: s) = some (t ++ (mark ++ y')) := by
          rw [after?_eq_some_iff, hs, List.append_assoc, ← ht, List.append_assoc]
        rw [hafter] at hsome
        exact absurd hsome.symm (Option.some_ne_none _)
      · exact ih hrest hocc

/-- A character that is not in a word separates its occurrences: the word stands before it
or after it. -/
theorem isInfix_append_cons_iff {w x y : Text} {k : Char} (hk : k ∉ w) :
    w <:+: x ++ k :: y ↔ w <:+: x ∨ w <:+: y := by
  constructor
  · rintro ⟨s, t, h⟩
    rcases List.append_eq_append_iff.1 h with ⟨a, hx, -⟩ | ⟨a, hsw, hrest⟩
    · -- the word ends in `x`
      exact .inl ⟨s, a, hx.symm⟩
    · -- it ends at `k` or behind it, and then also begins there, since `k` is not in it
      cases a with
      | nil =>
        rw [List.append_nil] at hsw
        exact .inl ⟨s, [], by rw [List.append_nil, hsw]⟩
      | cons k' a =>
        obtain ⟨rfl, rfl⟩ := List.cons.inj hrest
        rcases List.append_eq_append_iff.1 hsw with ⟨b, -, hw⟩ | ⟨b, -, hka⟩
        · exact absurd (by rw [hw]; simp) hk
        · cases b with
          | nil => exact absurd (by rw [← List.nil_append w, ← hka]; simp) hk
          | cons k' b =>
            obtain ⟨-, rfl⟩ := List.cons.inj hka
            exact .inr ⟨b, t, rfl⟩
  · rintro (⟨s, t, rfl⟩ | ⟨s, t, rfl⟩)
    · exact ⟨s, t ++ k :: y, by simp⟩
    · exact ⟨x ++ k :: s, t, by simp⟩

end Text

/-! ### The reader -/

/-- A segment of a template. The content of a tag is all that stands between its marks. -/
inductive Segment where
  | literal (text : Text)
  | tag (echoes : Bool) (content : Text)
  deriving DecidableEq, Repr

namespace Segment

/-- The kind of the tag that is opened at the start of a text, and what follows the mark. -/
def opened? (s : Text) : Option (Bool × Text) :=
  -- The longer mark first, since it begins with the other one.
  match Text.after? (Tag.opening true) s with
  | some inside => some (true, inside)
  | none => (Text.after? (Tag.opening false) s).map fun inside => (false, inside)

/-- The tag at the start of a text, if one is opened there and closed somewhere, and what
follows it. -/
def tagAt? (s : Text) : Option (Segment × Text) :=
  match opened? s with
  | some (echoes, inside) =>
    (Text.around? Tag.closing inside).map fun (content, rest) => (.tag echoes content, rest)
  | none => none

/-- Puts a character in front of segments, as literal text. -/
def consLiteral (c : Char) : List Segment → List Segment
  | .literal text :: segments => .literal (c :: text) :: segments
  | segments => .literal [c] :: segments

/-- What `tagAt?` finds: an opening mark, and the first closing mark after it. -/
theorem tagAt?_eq_some {s rest : Text} {segment : Segment}
    (h : tagAt? s = some (segment, rest)) :
    ∃ echoes content inside, segment = .tag echoes content ∧ opened? s = some (echoes, inside) ∧
      Text.around? Tag.closing inside = some (content, rest) := by
  unfold tagAt? at h
  cases hopened : opened? s with
  | none =>
    rw [hopened] at h
    exact absurd h.symm (Option.some_ne_none _)
  | some found =>
    obtain ⟨echoes, inside⟩ := found
    rw [hopened] at h
    obtain ⟨⟨content, rest'⟩, haround, hpair⟩ := Option.map_eq_some_iff.1 h
    obtain ⟨rfl, rfl⟩ := Prod.mk.inj hpair
    exact ⟨echoes, content, inside, rfl, rfl, haround⟩

theorem eq_of_opened? {s inside : Text} {echoes : Bool} (h : opened? s = some (echoes, inside)) :
    s = Tag.opening echoes ++ inside := by
  unfold opened? at h
  cases hecho : Text.after? (Tag.opening true) s with
  | some found =>
    rw [hecho] at h
    obtain ⟨rfl, rfl⟩ := Prod.mk.inj (Option.some.inj h)
    exact Text.after?_eq_some_iff.1 hecho
  | none =>
    rw [hecho] at h
    obtain ⟨found, hafter, hpair⟩ := Option.map_eq_some_iff.1 h
    obtain ⟨rfl, rfl⟩ := Prod.mk.inj hpair
    exact Text.after?_eq_some_iff.1 hafter

theorem length_of_tagAt? {s rest : Text} {segment : Segment}
    (h : tagAt? s = some (segment, rest)) : rest.length < s.length := by
  obtain ⟨echoes, content, inside, -, hopened, haround⟩ := tagAt?_eq_some h
  rw [eq_of_opened? hopened, Text.eq_of_around? haround]
  simp only [List.length_append]
  have hclosing : Tag.closing.length = 2 := rfl
  omega

/-- The segments of a template: tags, and the literal text between them. -/
def ofText : Text → List Segment
  | [] => []
  | c :: s =>
    match _hat : tagAt? (c :: s) with
    | some (segment, rest) => segment :: ofText rest
    -- Literal text, after which a tag may begin at the very next character.
    | none => consLiteral c (ofText s)
termination_by s => s.length
decreasing_by
  · exact length_of_tagAt? _hat
  · exact Nat.lt_succ_self _

theorem ofText_of_tagAt? {s rest : Text} {segment : Segment}
    (h : tagAt? s = some (segment, rest)) : ofText s = segment :: ofText rest := by
  cases s with
  | nil => exact absurd h.symm (Option.some_ne_none _)
  | cons c s =>
    rw [ofText]
    split
    · next segment' rest' h' =>
      rw [h] at h'
      obtain ⟨rfl, rfl⟩ := Prod.mk.inj (Option.some.inj h')
      rfl
    · next h' =>
      rw [h] at h'
      exact absurd h' (Option.some_ne_none _)

/-! ### What was read -/

theorem mem_consLiteral {c : Char} {segments : List Segment} {echoes : Bool} {content : Text}
    (h : .tag echoes content ∈ consLiteral c segments) : .tag echoes content ∈ segments := by
  unfold consLiteral at h
  split at h
  · rcases List.mem_cons.1 h with heq | h
    · exact absurd heq (by simp)
    · exact List.mem_cons_of_mem _ h
  · rcases List.mem_cons.1 h with heq | h
    · exact absurd heq (by simp)
    · exact h

/-- **Tags end at the first closing mark.** The content of a tag that was read holds none. -/
theorem closing_not_isInfix_of_mem_ofText {s content : Text} {echoes : Bool}
    (h : .tag echoes content ∈ ofText s) : ¬ Tag.closing <:+: content := by
  fun_induction ofText s with
  | case1 => exact absurd h List.not_mem_nil
  | case2 c s segment rest hat ih =>
    rcases List.mem_cons.1 h with rfl | h
    · -- the content is what stands before the first mark
      obtain ⟨echoes', content', inside, heq, -, haround⟩ := tagAt?_eq_some hat
      obtain ⟨rfl, rfl⟩ := Segment.tag.inj heq
      exact Text.not_isInfix_of_around? (by decide) haround
    · exact ih h
  | case3 c s hat ih => exact ih (mem_consLiteral h)

/-! ### Reading tags back -/

/-- The first closing mark after a text that holds none is the one put there: no mark begins
in the text and ends behind it. -/
theorem around?_closing {x : Text} (hx : ¬ Tag.closing <:+: x) (rest : Text) :
    Text.around? Tag.closing (x ++ (Tag.closing ++ rest)) = some (x, rest) := by
  induction x with
  | nil => rfl
  | cons c x ih =>
    obtain ⟨hfront, hx⟩ := not_or.1 (mt List.infix_cons_iff.2 hx)
    -- a mark at `c` would need `>` next: `x` does not begin so, and neither does the mark
    have hnone : Text.after? Tag.closing (c :: x ++ (Tag.closing ++ rest)) = none := by
      cases hafter : Text.after? Tag.closing (c :: x ++ (Tag.closing ++ rest)) with
      | none => rfl
      | some r =>
        have heq : c :: (x ++ (Tag.closing ++ rest)) = '%' :: '>' :: r :=
          Text.after?_eq_some_iff.1 hafter
        obtain ⟨rfl, htail⟩ := List.cons.inj heq
        cases x with
        | nil => exact absurd (List.cons.inj htail).1 (by decide)
        | cons d x =>
          obtain ⟨rfl, -⟩ := List.cons.inj htail
          exact absurd ⟨x, rfl⟩ hfront
    rw [List.cons_append] at hnone ⊢
    rw [Text.around?, hnone, ih hx]
    rfl

/-- The tag of a script is opened by its own mark. A statement is no echo, since a blank
follows its mark. -/
theorem opened?_opening (echoes : Bool) (s : Text) :
    opened? (Tag.opening echoes ++ ' ' :: s) = some (echoes, ' ' :: s) := by
  cases echoes <;> rfl

theorem closing_not_isInfix {s : Text} (h : '%' ∉ s) : ¬ Tag.closing <:+: s :=
  fun hocc => h (hocc.subset List.mem_cons_self)

theorem closing_isInfix_blanks_iff {s : Text} :
    Tag.closing <:+: ' ' :: s ++ [' '] ↔ Tag.closing <:+: s := by
  have hblank : ' ' ∉ Tag.closing := by decide
  have hnil : ¬ Tag.closing <:+: [] := closing_not_isInfix List.not_mem_nil
  have hback := @Text.isInfix_append_cons_iff Tag.closing s [] ' ' hblank
  have hfront := @Text.isInfix_append_cons_iff Tag.closing [] (s ++ [' ']) ' ' hblank
  rw [List.nil_append] at hfront
  rw [List.cons_append, hfront, hback]
  simp only [hnil, false_or, or_false]

/-- **One tag.** A tag without the closing mark in its script is read off the front of a
text, whatever follows. -/
theorem ofText_text_append {t : Tag} (h : ¬ Tag.closing <:+: t.script) (rest : Text) :
    ofText (t.text ++ rest) = .tag t.echoes (' ' :: t.script ++ [' ']) :: ofText rest := by
  have htext : t.text ++ rest =
      Tag.opening t.echoes ++ ' ' :: (t.script ++ ([' '] ++ (Tag.closing ++ rest))) := by
    simp [Tag.text]
  -- the blanks belong to the content, which ends at the mark of the tag itself
  have haround : Text.around? Tag.closing
      (' ' :: (t.script ++ ([' '] ++ (Tag.closing ++ rest)))) =
        some (' ' :: t.script ++ [' '], rest) := by
    have h' := around?_closing (mt closing_isInfix_blanks_iff.1 h) rest
    rwa [List.cons_append, List.cons_append, List.append_assoc] at h'
  apply ofText_of_tagAt?
  unfold tagAt?
  rw [htext, opened?_opening]
  show (Text.around? Tag.closing _).map _ = _
  rw [haround]
  rfl

end Segment

/-! ### The tags of clauses -/

namespace Clause

/-- The segment that the tag of a clause should be read as. -/
def segment (c : Clause) : Segment := .tag c.echoes (' ' :: c.script ++ [' '])

/-- The mark stands in the head or in the parentheses, since it holds no parenthesis itself
and does not fit into the text behind them. -/
theorem closing_isInfix_opener_iff {head inner : Text} :
    Tag.closing <:+: opener head inner ↔ Tag.closing <:+: head ∨ Tag.closing <:+: inner := by
  have hopen : '(' ∉ Tag.closing := by decide
  have hclose : ')' ∉ Tag.closing := by decide
  have hlast : ¬ Tag.closing <:+: " \x7b".toList := Segment.closing_not_isInfix (by decide)
  unfold opener
  rw [Text.isInfix_append_cons_iff hopen, Text.isInfix_append_cons_iff hclose]
  simp only [hlast, or_false]

/-- Under a head without the mark, it stands in a condition or nowhere. -/
theorem closing_isInfix_condition_iff {head : Text} (hhead : '%' ∉ head)
    (condition : Option Text) :
    Tag.closing <:+: opener head (condition.getD []) ↔
      ∃ p ∈ condition.toList, Tag.closing <:+: p := by
  have hnot : ¬ Tag.closing <:+: head := Segment.closing_not_isInfix hhead
  have hnil : ¬ Tag.closing <:+: [] := Segment.closing_not_isInfix List.not_mem_nil
  rw [closing_isInfix_opener_iff]
  cases condition with
  | none => simp [hnot, hnil]
  | some condition => simp [hnot]

/-- **No mark by accident.** The fixed text of a script holds no closing mark, and completes
none that a payload has begun. -/
theorem closing_isInfix_script_iff (c : Clause) :
    Tag.closing <:+: c.script ↔ ∃ p ∈ c.payloads, Tag.closing <:+: p := by
  -- a script that is fixed as a whole holds no `%`, and its clause has no payload
  have hfixed : ∀ s : Text, '%' ∉ s → (Tag.closing <:+: s ↔ ∃ p ∈ [], Tag.closing <:+: p) := by
    intro s hs
    simp [Segment.closing_not_isInfix hs]
  match c with
  | .echo code => simp [payloads]
  | .conditional .ifThen condition =>
    rw [script_ifThen]
    exact closing_isInfix_condition_iff (by decide) condition
  | .conditional .elseIf condition =>
    rw [script_elseIf]
    exact closing_isInfix_condition_iff (by decide) condition
  | .conditional .otherwise condition =>
    rw [script_otherwise]
    exact hfixed _ (by decide)
  | .loopStart collection item =>
    have hdot : '.' ∉ Tag.closing := by decide
    have hcall : ¬ Tag.closing <:+: "each(function".toList :=
      Segment.closing_not_isInfix (by decide)
    have hhead : Tag.closing <:+: collection ++ ".each(function".toList ↔
        Tag.closing <:+: collection := by
      show Tag.closing <:+: collection ++ '.' :: "each(function".toList ↔ _
      rw [Text.isInfix_append_cons_iff hdot]
      simp only [hcall, or_false]
    rw [script_loopStart, closing_isInfix_opener_iff, hhead]
    simp [payloads]
  | .loopEnd => exact hfixed _ (by decide)
  | .blockEnd true => exact hfixed _ (by decide)
  | .blockEnd false => exact hfixed _ (by decide)
  | .verbatim text => simp [payloads]

theorem closing_not_isInfix_iff (c : Clause) :
    ¬ Tag.closing <:+: ' ' :: c.script ++ [' '] ↔ ∀ p ∈ c.payloads, ¬ Tag.closing <:+: p := by
  rw [Segment.closing_isInfix_blanks_iff, closing_isInfix_script_iff]
  simp only [not_exists, not_and]

/-- **Many tags.** The tags of clauses whose payloads hold no closing mark are read back one
by one. -/
theorem ofText_flatMap_render {cs : List Clause}
    (h : ∀ c ∈ cs, ∀ p ∈ c.payloads, ¬ Tag.closing <:+: p) :
    Segment.ofText (cs.flatMap render) = cs.map segment := by
  induction cs with
  | nil => rw [List.flatMap_nil, Segment.ofText, List.map_nil]
  | cons c cs ih =>
    have hscript : ¬ Tag.closing <:+: c.tag.script := by
      show ¬ Tag.closing <:+: c.script
      rw [closing_isInfix_script_iff]
      rintro ⟨p, hp, hocc⟩
      exact h c List.mem_cons_self p hp hocc
    have hrest := ih fun c' hc' => h c' (List.mem_cons_of_mem c hc')
    rw [List.flatMap_cons, List.map_cons, render, Segment.ofText_text_append hscript, hrest]
    rfl

/-- **Tags are read back exactly if no payload holds the closing mark.** Backwards, no reading
at all has a content that holds the mark, so the one that gives each clause its segment rules
the mark out of every payload. -/
theorem ofText_flatMap_render_iff (cs : List Clause) :
    Segment.ofText (cs.flatMap render) = cs.map segment ↔
      ∀ c ∈ cs, ∀ p ∈ c.payloads, ¬ Tag.closing <:+: p := by
  constructor
  · intro h c hc
    have hmem : c.segment ∈ Segment.ofText (cs.flatMap render) := by
      rw [h]
      exact List.mem_map_of_mem hc
    exact (closing_not_isInfix_iff c).1 (Segment.closing_not_isInfix_of_mem_ofText hmem)
  · exact ofText_flatMap_render

end Clause

namespace Block

/-- **An expansion is cut back into its tags.** Whether expressions are kept (`none`) or
resolved (`some r`), the segments of an expanded `js` block are the tags of its lines, one for
each and nothing between them, if and only if no payload of a clause that was written holds the
closing mark. The same goes for the one tag of a block of any other filter. -/
theorem ofText_expand_iff (resolver : Option Resolver) :
    (∀ b : Block, b.filter = .script →
      let cs := b.scriptLines.map fun line => resolved resolver (Clause.ofLine line)
      Segment.ofText (b.expand resolver).value = cs.map Clause.segment ↔
        ∀ c ∈ cs, ∀ p ∈ c.payloads, ¬ Tag.closing <:+: p) ∧
    ∀ b : Block, b.filter ≠ .script →
      ∃ c, b.clause?.value = some c ∧
        (Segment.ofText (b.expand resolver).value = [c.segment] ↔
          ∀ p ∈ c.payloads, ¬ Tag.closing <:+: p) := by
  constructor
  · intro b hb cs
    rw [value_expand, clauses_of_script hb]
    exact Clause.ofText_flatMap_render_iff cs
  · intro b hb
    obtain ⟨c, hc, hclauses⟩ := exists_clauses_eq_singleton hb
    refine ⟨c, hc, ?_⟩
    -- one tag is a list of tags of length one
    have hiff := Clause.ofText_flatMap_render_iff [c]
    rw [List.map_singleton] at hiff
    rw [value_expand, hclauses, hiff]
    simp only [List.mem_singleton, forall_eq]

/-- Both sides occur: half a mark at the end of an expression does no harm, and a whole one in
a condition cuts its tag short. -/
theorem ofText_expand_sample :
    Segment.ofText (Block.mk .script ["= 1 %".toList, "end".toList] none).render =
        [.tag true " 1 % ".toList, .tag false " \x7d ".toList] ∧
      Segment.ofText (Block.mk .ifThen [] (some "'%>'".toList)).render ≠
        [.tag false " if('%>') \x7b ".toList] := by
  obtain ⟨hlines, hblock⟩ := ofText_expand_iff none
  constructor
  · refine (hlines (Block.mk .script ["= 1 %".toList, "end".toList] none) rfl).2 ?_
    have hclauses : (Block.mk .script ["= 1 %".toList, "end".toList] none).scriptLines.map
        (fun line => resolved none (Clause.ofLine line)) =
          [.echo "1 %".toList, .blockEnd false] := by decide
    rw [hclauses]
    simp [Clause.payloads, Tag.closing, List.infix_cons_iff]
  · obtain ⟨c, hc, hiff⟩ := hblock (Block.mk .ifThen [] (some "'%>'".toList)) (by decide)
    obtain rfl : Clause.conditional .ifThen (some "'%>'".toList) = c := Option.some.inj hc
    intro hread
    exact hiff.1 hread "'%>'".toList List.mem_cons_self ⟨['\''], ['\''], rfl⟩

end Block

end Tagline
