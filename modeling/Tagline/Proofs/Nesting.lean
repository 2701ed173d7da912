import Tagline.Proofs.Expansion
import Tagline.Proofs.Text.Bracket

/-!
# Nesting of blocks and brackets

The clauses of a template nest: a conditional runs from `if` to its end, with the branches in
between, and a loop from `each` to its end (`Clause.Nesting`). In script the nesting is one of
brackets, and each tag closes and opens some: `if` leaves a brace open, a loop a parenthesis
with a brace in it, and each kind of end closes what its block left open.

* `turns_render` — what the tag of a clause closes and what it leaves open;
* `Nesting.turns` — clauses that nest close all that they open, on top of any other brackets;
* `count_of_plainEnds` — to write the end of a loop as a plain `end` loses a closing
  parenthesis;
* `balanced_render_of_wellNested` — so the tags of clauses that nest are balanced, and those
  of clauses in which a loop is ended like a conditional are not.
-/

namespace Tagline

namespace Clause

open Text (Turns Balanced turns_of_openAfter balanced_iff_turns)

/-! ### The grammar of nesting -/

/-- Whether a clause says that it closes a loop. -/
def endsLoop : Clause → Bool
  | .loopEnd => true
  | .blockEnd closesLoop => closesLoop
  | _ => false

/-- Where a sequence of clauses stands: it is whole blocks, or it goes on with a conditional
after the first block of it, to its end. -/
inductive Place where
  | block
  | branches
  deriving DecidableEq, Repr

/-- Clauses that nest, at a place. A conditional has any number of `elseif` branches, then at
most one `else`, and is closed by a plain `end`. -/
inductive Nesting : Place → List Clause → Prop
  | nil : Nesting .block []
  | echo (code : Text) {cs : List Clause} (hrest : Nesting .block cs) :
    Nesting .block (.echo code :: cs)
  | verbatim (text : Text) {cs : List Clause} (hrest : Nesting .block cs) :
    Nesting .block (.verbatim text :: cs)
  | conditional (condition : Option Text) {body branches cs : List Clause}
    (hbody : Nesting .block body) (hbranches : Nesting .branches branches)
    (hrest : Nesting .block cs) :
    Nesting .block (.conditional .ifThen condition :: (body ++ (branches ++ cs)))
  | loop (collection item : Text) {close : Clause} {body cs : List Clause}
    (hbody : Nesting .block body) (hclose : close.endsLoop = true) (hrest : Nesting .block cs) :
    Nesting .block (.loopStart collection item :: (body ++ close :: cs))
  | elseIf (condition : Option Text) {body branches : List Clause}
    (hbody : Nesting .block body) (hbranches : Nesting .branches branches) :
    Nesting .branches (.conditional .elseIf condition :: (body ++ branches))
  | otherwise (condition : Option Text) {body : List Clause} (hbody : Nesting .block body) :
    Nesting .branches (.conditional .otherwise condition :: (body ++ [.blockEnd false]))
  | close : Nesting .branches [.blockEnd false]

/-- Clauses that nest. -/
def WellNested (cs : List Clause) : Prop := Nesting .block cs

/-- `PlainEnds n cs cs'`: the clauses `cs'` are `cs`, but for `n` ends of loops that are
written as a plain `end`. -/
inductive PlainEnds : Nat → List Clause → List Clause → Prop
  | nil : PlainEnds 0 [] []
  | keep (c : Clause) {n : Nat} {cs cs' : List Clause} (hrest : PlainEnds n cs cs') :
    PlainEnds n (c :: cs) (c :: cs')
  | plain {c : Clause} (hc : c.endsLoop = true) {n : Nat} {cs cs' : List Clause}
    (hrest : PlainEnds n cs cs') : PlainEnds (n + 1) (c :: cs) (.blockEnd false :: cs')

/-! ### What a tag does to the brackets -/

/-- The brackets that the tag of a clause closes, innermost first. -/
def closes : Clause → List BracketKind
  | .conditional .elseIf _ => [.curly]
  | .conditional .otherwise _ => [.curly]
  | .loopEnd => [.curly, .round]
  | .blockEnd true => [.curly, .round]
  | .blockEnd false => [.curly]
  | _ => []

/-- The brackets that the tag of a clause leaves open, innermost first. -/
def opens : Clause → List BracketKind
  | .conditional _ _ => [.curly]
  | .loopStart _ _ => [.curly, .round]
  | _ => []

/-- A head that turns the stack, with balanced text in parentheses behind it, leaves a brace
open in addition. -/
theorem turns_opener {head inner : Text} {before after : List BracketKind}
    (hhead : Turns head before after) (hinner : Balanced inner) :
    Turns (opener head inner) before (.curly :: after) := by
  have hopen : Turns ['('] after (.round :: after) :=
    (turns_of_openAfter (by rfl) : Turns ['('] [] [.round]).over after
  have hmiddle : Turns inner (.round :: after) (.round :: after) :=
    (balanced_iff_turns.1 hinner).over (.round :: after)
  have hclose : Turns ") \x7b".toList (.round :: after) (.curly :: after) :=
    (turns_of_openAfter (by rfl) : Turns ") \x7b".toList [.round] [.curly]).over after
  exact hhead.append (hopen.append (hmiddle.append hclose))

/-- The marks of a tag hold no brackets. -/
theorem turns_text {t : Tag} {before after : List BracketKind} (h : Turns t.script before after) :
    Turns t.text before after := by
  have hopening : Turns (Tag.opening t.echoes ++ [' ']) before before := by
    cases t.echoes <;> exact (turns_of_openAfter (by rfl) : Turns _ [] []).over before
  have hclosing : Turns (' ' :: Tag.closing) after after :=
    (turns_of_openAfter (by rfl) : Turns _ [] []).over after
  have htext : t.text = (Tag.opening t.echoes ++ [' ']) ++ (t.script ++ ' ' :: Tag.closing) := by
    simp [Tag.text]
  rw [htext]
  exact hopening.append (h.append hclosing)

/-- A condition that is missing is balanced as well. -/
theorem balanced_condition {condition : Option Text}
    (h : ∀ p ∈ condition.toList, Balanced p) : Balanced (condition.getD []) := by
  cases condition with
  | none => rfl
  | some condition => exact h condition List.mem_cons_self

/-- **What a tag does to the brackets.** Given balanced payloads, the tag of a clause closes
and opens what `closes` and `opens` say. -/
theorem turns_render (c : Clause) (h : ∀ p ∈ c.payloads, Balanced p) :
    Turns c.render c.closes c.opens := by
  apply turns_text
  show Turns c.script c.closes c.opens
  -- only `script` matters, and there only what stands around the payloads
  match c with
  | .echo code => exact balanced_iff_turns.1 (h code List.mem_cons_self)
  | .conditional .ifThen condition =>
    rw [script_ifThen]
    exact turns_opener (turns_of_openAfter rfl) (balanced_condition h)
  | .conditional .elseIf condition =>
    rw [script_elseIf]
    exact turns_opener (turns_of_openAfter rfl) (balanced_condition h)
  | .conditional .otherwise condition =>
    rw [script_otherwise]
    exact turns_of_openAfter rfl
  | .loopStart collection item =>
    rw [script_loopStart]
    have hcollection : Turns collection [] [] :=
      balanced_iff_turns.1 (h collection List.mem_cons_self)
    have hcall : Turns ".each(function".toList [] [.round] := turns_of_openAfter rfl
    have hitem : Balanced item := h item (List.mem_cons_of_mem _ List.mem_cons_self)
    exact turns_opener (hcollection.append hcall) hitem
  | .loopEnd => exact turns_of_openAfter rfl
  | .blockEnd true => exact turns_of_openAfter rfl
  | .blockEnd false => exact turns_of_openAfter rfl
  | .verbatim text => exact balanced_iff_turns.1 (h text List.mem_cons_self)

/-! ### What nesting clauses do -/

/-- The brackets that are open at a place, of those that the clauses there have to close. -/
def Place.stack : Place → List BracketKind
  | .block => []
  | .branches => [.curly]

/-- **Clauses that nest close what they open.** Blocks leave the stack as it is; what goes on
with a conditional closes its brace at the end. -/
theorem Nesting.turns {place : Place} {cs : List Clause} (h : Nesting place cs)
    (hp : ∀ c ∈ cs, ∀ p ∈ c.payloads, Balanced p) :
    Turns (cs.flatMap render) place.stack [] := by
  induction h with
  | nil => exact turns_of_openAfter rfl
  | echo code hrest ih =>
    obtain ⟨hc, hcs⟩ := List.forall_mem_cons.1 hp
    exact (turns_render _ hc).append (ih hcs)
  | verbatim text hrest ih =>
    obtain ⟨hc, hcs⟩ := List.forall_mem_cons.1 hp
    exact (turns_render _ hc).append (ih hcs)
  | conditional condition hbody hbranches hrest ihbody ihbranches ihrest =>
    obtain ⟨hc, hcs⟩ := List.forall_mem_cons.1 hp
    obtain ⟨hpbody, hcs⟩ := List.forall_mem_append.1 hcs
    obtain ⟨hpbranches, hprest⟩ := List.forall_mem_append.1 hcs
    rw [List.flatMap_cons, List.flatMap_append, List.flatMap_append]
    -- the body stands on the brace of `if`, which the branches close
    exact (turns_render _ hc).append (((ihbody hpbody).over [.curly]).append
      ((ihbranches hpbranches).append (ihrest hprest)))
  | @loop collection item close body cs hbody hclose hrest ihbody ihrest =>
    obtain ⟨hc, hcs⟩ := List.forall_mem_cons.1 hp
    obtain ⟨hpbody, hcs⟩ := List.forall_mem_append.1 hcs
    obtain ⟨hpclose, hprest⟩ := List.forall_mem_cons.1 hcs
    -- either end closes the brace and the parenthesis on which the body stands
    have hend : Turns close.render [.curly, .round] [] := by
      have hrender := turns_render close hpclose
      match close, hclose with
      | .loopEnd, _ => exact hrender
      | .blockEnd true, _ => exact hrender
    rw [List.flatMap_cons, List.flatMap_append, List.flatMap_cons]
    exact (turns_render _ hc).append (((ihbody hpbody).over [.curly, .round]).append
      (hend.append (ihrest hprest)))
  | elseIf condition hbody hbranches ihbody ihbranches =>
    -- the brace of the branch before is exchanged for a new one
    obtain ⟨hc, hcs⟩ := List.forall_mem_cons.1 hp
    obtain ⟨hpbody, hpbranches⟩ := List.forall_mem_append.1 hcs
    rw [List.flatMap_cons, List.flatMap_append]
    exact (turns_render _ hc).append (((ihbody hpbody).over [.curly]).append
      (ihbranches hpbranches))
  | otherwise condition hbody ihbody =>
    obtain ⟨hc, hcs⟩ := List.forall_mem_cons.1 hp
    obtain ⟨hpbody, hpclose⟩ := List.forall_mem_append.1 hcs
    have hend : Turns (render (.blockEnd false)) [.curly] [] :=
      turns_render _ (hpclose _ List.mem_cons_self)
    rw [List.flatMap_cons, List.flatMap_append, List.flatMap_singleton]
    exact (turns_render _ hc).append (((ihbody hpbody).over [.curly]).append hend)
  | close =>
    rw [List.flatMap_singleton]
    exact turns_render _ (hp _ List.mem_cons_self)

theorem WellNested.balanced {cs : List Clause} (h : WellNested cs)
    (hp : ∀ c ∈ cs, ∀ p ∈ c.payloads, Balanced p) : Balanced (cs.flatMap render) :=
  balanced_iff_turns.2 (Nesting.turns h hp)

/-! ### Loops that are ended like conditionals -/

/-- The end of a loop has one parenthesis, which it closes; a plain `end` has none. -/
theorem count_render_of_endsLoop {c : Clause} (h : c.endsLoop = true) :
    c.render.count '(' = (render (.blockEnd false)).count '(' ∧
      c.render.count ')' = (render (.blockEnd false)).count ')' + 1 := by
  match c, h with
  | .loopEnd, _ => decide
  | .blockEnd true, _ => decide

/-- **Each plain `end` of a loop loses a closing parenthesis**, and no opening one. -/
theorem count_of_plainEnds {n : Nat} {cs cs' : List Clause} (h : PlainEnds n cs cs') :
    (cs.flatMap render).count '(' = (cs'.flatMap render).count '(' ∧
      (cs.flatMap render).count ')' = (cs'.flatMap render).count ')' + n := by
  induction h with
  | nil => exact ⟨rfl, rfl⟩
  | keep c hrest ih =>
    simp only [List.flatMap_cons, List.count_append]
    omega
  | plain hc hrest ih =>
    have hend := count_render_of_endsLoop hc
    simp only [List.flatMap_cons, List.count_append]
    omega

/-- A plain `end` carries no payload, and neither does the end of a loop. -/
theorem PlainEnds.payloads {n : Nat} {cs cs' : List Clause} (h : PlainEnds n cs cs') :
    cs.flatMap payloads = cs'.flatMap payloads := by
  induction h with
  | nil => rfl
  | keep c hrest ih => rw [List.flatMap_cons, List.flatMap_cons, ih]
  | @plain c hc n cs cs' hrest ih =>
    have hnone : c.payloads = [] := by
      match c, hc with
      | .loopEnd, _ => rfl
      | .blockEnd true, _ => rfl
    rw [List.flatMap_cons, List.flatMap_cons, ih, hnone]
    rfl

theorem PlainEnds.not_balanced {n : Nat} {cs cs' : List Clause} (h : PlainEnds n cs cs')
    (hn : 0 < n) (hnest : WellNested cs) (hp : ∀ c ∈ cs', ∀ p ∈ c.payloads, Balanced p) :
    ¬ Balanced (cs'.flatMap render) := by
  intro hbalanced
  -- the payloads are those of the clauses that nest, whose parentheses are even
  have hp' : ∀ c ∈ cs, ∀ p ∈ c.payloads, Balanced p := by
    intro c hc p hpc
    have hmem : p ∈ cs.flatMap Clause.payloads := List.mem_flatMap.2 ⟨c, hc, hpc⟩
    rw [h.payloads] at hmem
    obtain ⟨c', hc', hpc'⟩ := List.mem_flatMap.1 hmem
    exact hp c' hc' p hpc'
  have hcount := count_of_plainEnds h
  have hnested := (hnest.balanced hp').count_eq
  have hplain := hbalanced.count_eq
  omega

end Clause

namespace Block

open Text (Balanced)
open Clause (WellNested PlainEnds Nesting)

/-- **Expansion keeps the nesting of blocks.** If the payloads of its lines are balanced, a
`js` block whose clauses nest is expanded to a balanced text; and one whose clauses would nest,
were it not for loops that are ended by a plain `end`, is not. -/
theorem balanced_render_of_wellNested (b : Block) (hb : b.filter = .script)
    (hp : ∀ line ∈ b.scriptLines, ∀ p ∈ (Clause.ofLine line).payloads, Balanced p) :
    (WellNested (b.scriptLines.map Clause.ofLine) → Balanced b.render) ∧
    ∀ (cs : List Clause) (n : Nat), WellNested cs → 0 < n →
      PlainEnds n cs (b.scriptLines.map Clause.ofLine) → ¬ Balanced b.render := by
  have hrender : b.render = (b.scriptLines.map Clause.ofLine).flatMap Clause.render := by
    unfold render
    rw [value_expand, clauses_of_script hb]
    simp only [resolved_none]
  have hpayloads : ∀ c ∈ b.scriptLines.map Clause.ofLine, ∀ p ∈ c.payloads, Balanced p := by
    intro c hc
    obtain ⟨line, hline, rfl⟩ := List.mem_map.1 hc
    exact hp line hline
  rw [hrender]
  constructor
  · intro hnest
    exact hnest.balanced hpayloads
  · intro cs n hnest hn hends
    exact hends.not_balanced hn hnest hpayloads

/-- A conditional with three branches inside a loop, which nests when the loop is ended by
`end each` and leaves a parenthesis open when it is ended by `end`. -/
theorem balanced_render_sample :
    Balanced (Block.mk .script ["each rows(1) r".toList, "if (r)".toList, "= f(\x7b\x7d)".toList,
        "elseif x".toList, "else".toList, "g();".toList, "end".toList, "end each".toList]
        none).render ∧
      ¬ Balanced (Block.mk .script ["each rows(1) r".toList, "= f(\x7b\x7d)".toList,
        "end".toList] none).render := by
  constructor
  · refine (balanced_render_of_wellNested _ rfl (by decide)).1 ?_
    have hbranches := Nesting.elseIf (some "x".toList) .nil
      (.otherwise none (.verbatim "g();".toList .nil))
    have hbody := Nesting.conditional (some "(r)".toList)
      (.echo "f(\x7b\x7d)".toList .nil) hbranches .nil
    exact Nesting.loop "rows(1)".toList "r".toList hbody (rfl : (Clause.blockEnd true).endsLoop = _)
      .nil
  · refine (balanced_render_of_wellNested _ rfl (by decide)).2
      [.loopStart "rows(1)".toList "r".toList, .echo "f(\x7b\x7d)".toList, .loopEnd] 1 ?_
      Nat.one_pos ?_
    · exact Nesting.loop _ _ (.echo _ .nil) (rfl : Clause.loopEnd.endsLoop = _) .nil
    · exact .keep _ (.keep _ (.plain rfl .nil))

end Block

end Tagline
