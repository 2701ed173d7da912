import Tagline.Proofs.TagReader

/-!
# The clause behind a tag

The texts of a clause are written into its tag as they are, so that tags of different clauses
could coincide: a condition may spell out the call of a loop, and the name of a loop may hold
the end of a condition. They do not, up to what a tag cannot show: whether a loop was closed by
its own end or by an `end` with a hint, whether a condition was missing or empty, and what was
said after an `else`. Those differences are removed by `Clause.normal`.

The argument is a reader. `Clause.ofTag` cuts a script at its first parenthesis: what stands
before it is fixed text for a conditional, and a collection with `.each` behind it for a loop.
The payload is then what is left between there and the brace at the end, whatever it holds.

* `ofTag_tag` — a tag is read back to the normal form of its clause. This needs a collection
  without a parenthesis, since otherwise the cut is made inside of the name, and it excludes
  script that is kept, which can spell any tag (`Clause.Legible`);
* `tag_normal` — the normal form has the same tag;
* `render_eq_render_iff` — hence two tags in writing are equal exactly if the normal forms of
  their clauses are.
-/

namespace Tagline

namespace Text

/-! ### Cutting at a character -/

/-- The first occurrence of a character stands behind a text that does not hold it. -/
theorem around?_append_cons {k : Char} {x : Text} (hx : k ∉ x) (y : Text) :
    around? [k] (x ++ k :: y) = some (x, y) := by
  induction x with
  | nil => simp [around?, after?]
  | cons c x ih =>
    obtain ⟨hc, hx⟩ := not_or.1 (mt List.mem_cons.2 hx)
    -- no cut before `c`, so the search goes on behind it
    have hafter : after? [k] (c :: (x ++ k :: y)) = none := by simp [after?, hc]
    rw [List.cons_append, around?, hafter, ih hx]
    rfl

end Text

namespace Tag

/-- A tag in writing shows both its kind and its script. -/
theorem text_injective : Function.Injective text := by
  rintro ⟨e, s⟩ ⟨e', s'⟩ h
  have hbody : ∀ x y : Text, ' ' :: x ++ ' ' :: closing = ' ' :: y ++ ' ' :: closing → x = y := by
    intro x y hxy
    rw [List.cons_append, List.cons_append] at hxy
    exact List.append_cancel_right (List.cons.inj hxy).2
  -- behind `<%` there is an `=` in one kind and a blank in the other
  cases e <;> cases e' <;> simp only [text, opening] at h
  · rw [hbody s s' (by simpa using h)]
  · simp at h
  · simp at h
  · rw [hbody s s' (by simpa using h)]

end Tag

namespace Clause

/-! ### What a tag cannot show -/

/-- The clause that stands for all those with its tag. -/
def normal : Clause → Clause
  | .conditional .otherwise _ => .conditional .otherwise none
  | .conditional branch condition => .conditional branch (some (condition.getD []))
  | .loopEnd => .blockEnd true
  | c => c

theorem tag_normal (c : Clause) : c.normal.tag = c.tag := by
  match c with
  | .echo code => rfl
  | .conditional .ifThen condition => rfl
  | .conditional .elseIf condition => rfl
  | .conditional .otherwise condition => rfl
  | .loopStart collection item => rfl
  | .loopEnd => rfl
  | .blockEnd closesLoop => rfl
  | .verbatim text => rfl

/-! ### Reading a tag -/

/-- The clause whose script is `head`, then `inner` in parentheses, and a brace. The head holds
no parenthesis, so the one of a loop's function is part of what stands inside. -/
def ofOpener? (head inner : Text) : Option Clause :=
  if head = "if".toList then some (.conditional .ifThen (some inner))
  else if head = "\x7d else if".toList then some (.conditional .elseIf (some inner))
  else do
    let collection ← Text.before? ".each".toList head
    let item ← Text.after? "function(".toList inner
    return .loopStart collection item

/-- The clause whose script is fixed text without an opening parenthesis. -/
def ofFixed? (script : Text) : Option Clause :=
  if script = "\x7d else \x7b".toList then some (.conditional .otherwise none)
  else if script = "\x7d);".toList then some (.blockEnd true)
  else if script = "\x7d".toList then some (.blockEnd false)
  else none

/-- The clause of a statement, in normal form. -/
def ofStatement? (script : Text) : Option Clause :=
  match Text.around? ['('] script with
  | none => ofFixed? script
  | some (head, rest) => do
    let inner ← Text.before? ") \x7b".toList rest
    ofOpener? head inner

/-- The clause behind a tag, in normal form. A statement of no other form is script that was
kept. -/
def ofTag (t : Tag) : Clause :=
  if t.echoes then .echo t.script else (ofStatement? t.script).getD (.verbatim t.script)

/-- Clauses whose tag tells what they are: not script, which can spell any tag, and no loop over
something with an opening parenthesis in it, which could be that of a call. -/
def Legible : Clause → Prop
  | .verbatim _ => False
  | .loopStart collection _ => '(' ∉ collection
  | _ => True

instance : DecidablePred Legible
  | .verbatim _ => inferInstanceAs (Decidable False)
  | .loopStart collection _ => inferInstanceAs (Decidable ('(' ∉ collection))
  | .echo _ => inferInstanceAs (Decidable True)
  | .conditional _ _ => inferInstanceAs (Decidable True)
  | .loopEnd => inferInstanceAs (Decidable True)
  | .blockEnd _ => inferInstanceAs (Decidable True)

/-- Script that opens a block is cut where its head ends. -/
theorem ofStatement?_opener {head : Text} (hhead : '(' ∉ head) (inner : Text) :
    ofStatement? (opener head inner) = ofOpener? head inner := by
  have hcut : Text.around? ['('] (opener head inner) = some (head, inner ++ ") \x7b".toList) :=
    Text.around?_append_cons hhead _
  have hinner : Text.before? ") \x7b".toList (inner ++ ") \x7b".toList) = some inner :=
    Text.before?_eq_some_iff.2 rfl
  unfold ofStatement?
  rw [hcut]
  show (Text.before? ") \x7b".toList (inner ++ ") \x7b".toList)).bind (ofOpener? head) = _
  rw [hinner]
  rfl

/-- The head of a loop is neither of the two fixed ones, since these do not end in `.each`. -/
theorem ofOpener?_loop (collection item : Text) :
    ofOpener? (collection ++ ".each".toList) ("function(".toList ++ item) =
      some (.loopStart collection item) := by
  have hlast : ∀ head : Text, head.getLast? ≠ some 'h' → collection ++ ".each".toList ≠ head := by
    rintro head hne rfl
    exact hne (by simp)
  have hcollection : Text.before? ".each".toList (collection ++ ".each".toList) = some collection :=
    Text.before?_eq_some_iff.2 rfl
  unfold ofOpener?
  rw [if_neg (hlast _ (by decide)), if_neg (hlast _ (by decide)), hcollection, Text.after?_append]
  rfl

theorem script_loopStart_eq_opener (collection item : Text) :
    script (.loopStart collection item) =
      opener (collection ++ ".each".toList) ("function(".toList ++ item) := by
  rw [script_loopStart]
  simp [opener]

/-- **A tag is read back.** Whatever its payloads hold, the tag of a legible clause determines
the clause up to its normal form. -/
theorem ofTag_tag {c : Clause} (h : c.Legible) : ofTag c.tag = c.normal := by
  -- a statement is read from its script, and script that is kept is not legible
  have hstatement : ∀ {c d : Clause}, c.echoes = false → ofStatement? c.script = some d →
      ofTag c.tag = d := by
    intro c d hechoes hscript
    show (if c.echoes = true then _ else (ofStatement? c.script).getD _) = d
    rw [hechoes, hscript]
    rfl
  match c, h with
  | .echo code, _ => rfl
  | .conditional .ifThen condition, _ =>
    apply hstatement rfl
    rw [script_ifThen, ofStatement?_opener (by decide)]
    rfl
  | .conditional .elseIf condition, _ =>
    apply hstatement rfl
    rw [script_elseIf, ofStatement?_opener (by decide)]
    rfl
  | .conditional .otherwise condition, _ => exact hstatement rfl rfl
  | .loopStart collection item, hcollection =>
    -- the first parenthesis is that of the call, since there is none in the collection
    have hhead : '(' ∉ collection ++ ".each".toList := by
      intro hmem
      rcases List.mem_append.1 hmem with hmem | hmem
      · exact hcollection hmem
      · exact absurd hmem (by decide)
    apply hstatement rfl
    rw [script_loopStart_eq_opener, ofStatement?_opener hhead, ofOpener?_loop]
    rfl
  | .loopEnd, _ => exact hstatement rfl rfl
  | .blockEnd true, _ => exact hstatement rfl rfl
  | .blockEnd false, _ => exact hstatement rfl rfl

/-! ### Tags in writing -/

theorem render_eq_render_iff_tag {c d : Clause} : c.render = d.render ↔ c.tag = d.tag :=
  Tag.text_injective.eq_iff

/-- The mark of an echo stands at the front of an echo only: behind the mark of a statement
there is a blank. -/
theorem opening_isPrefix_render_iff (c : Clause) :
    Tag.opening true <+: c.render ↔ c.echoes = true := by
  unfold render Tag.text
  show Tag.opening true <+: Tag.opening c.echoes ++ _ ++ _ ↔ _
  cases c.echoes <;> simp [Tag.opening]

theorem echoes_eq_true_iff {c : Clause} : c.echoes = true ↔ ∃ code, c = .echo code := by
  cases c <;> simp [echoes]

/-- **A tag determines its clause.** Two legible clauses have the same tag exactly if they have
the same normal form, with any payloads; and a tag, be it of script that is kept, begins with
the mark of an echo exactly if its clause is one. -/
theorem render_eq_render_iff :
    (∀ c d : Clause, c.Legible → d.Legible → (c.render = d.render ↔ c.normal = d.normal)) ∧
      ∀ c : Clause, "<%=".toList <+: c.render ↔ ∃ code, c = .echo code := by
  constructor
  · intro c d hc hd
    rw [render_eq_render_iff_tag]
    constructor
    · intro htag
      rw [← ofTag_tag hc, ← ofTag_tag hd, htag]
    · intro hnormal
      rw [← tag_normal c, ← tag_normal d, hnormal]
  · intro c
    exact (opening_isPrefix_render_iff c).trans echoes_eq_true_iff

/-- A condition that spells out a loop is told from the loop, and an end that says that it
closes a loop is not told from the loop's own. -/
theorem render_eq_render_sample :
    render (.conditional .ifThen (some "a) \x7b b.each(function(c".toList)) ≠
        render (.loopStart "if".toList "a) \x7b b.each(function(c".toList) ∧
      render .loopEnd = render (.blockEnd true) := by
  obtain ⟨hiff, -⟩ := render_eq_render_iff
  constructor
  · exact mt (hiff _ _ (by decide) (by decide)).1 (by decide)
  · exact (hiff _ _ (by decide) (by decide)).2 rfl

-- With a parenthesis in a collection, two loops can share one tag.
example : render (.loopStart "a.each(function(b".toList "c".toList) =
    render (.loopStart "a".toList "b.each(function(c".toList) := by decide

end Clause

end Tagline
