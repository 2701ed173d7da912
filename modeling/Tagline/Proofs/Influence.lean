import Tagline.Proofs.Expansion
import Tagline.Proofs.LineGrammar

/-!
# What a resolver can change

A resolver is foreign code, and an expansion asks it about some texts and takes what it says.
This module bounds what can come of it: two expansions of one block, with two resolvers, can
differ only where a line echoes a fragment and the resolvers say different things about that
very fragment.

* `Block.fragments` — the fragments that a block echoes: what stands behind the `=` of a line,
  without the blanks around it. A block of a filter other than `js` echoes none;
* `resolved_ofLine_congr` — the clause of one line depends on the resolver through its fragment
  alone;
* `clauses_congr` — hence so does the list of the clauses of a block. No resolver at all counts
  as one that keeps every fragment (`Resolver.settledBy`), so the same step compares an expansion
  with a resolver to one without;
* `renderWith_influence` — the consequences for the text of the expansion.

The reasons why a fragment could not be resolved are not part of the text, so it does not matter
whether two resolvers fail for the same reason.
-/

namespace Tagline

namespace Resolver

/-! ### What two resolvers say about a fragment -/

/-- Two resolvers agree about a fragment: they give the same text for it, or both give none. -/
def Agree (r s : Resolver) (code : Text) : Prop :=
  (∃ value, r code = .ok value ∧ s code = .ok value) ∨
    ((∃ e, r code = .error e) ∧ ∃ e, s code = .error e)

/-- A resolver changes nothing about a fragment: it gives the fragment itself, or fails. -/
def Keeps (r : Resolver) (code : Text) : Prop := r code = .ok code ∨ ∃ e, r code = .error e

/-- The text of a fragment in an expansion, which is the fragment itself if there is no
resolver. -/
def settledBy (resolver : Option Resolver) (code : Text) : Text :=
  match resolver with
  | some r => r.settled code
  | none => code

theorem settled_of_ok {r : Resolver} {code value : Text} (h : r code = .ok value) :
    r.settled code = value := by
  unfold settled
  rw [h]

theorem settled_of_error {r : Resolver} {code : Text} {e : Unresolved} (h : r code = .error e) :
    r.settled code = code := by
  unfold settled
  rw [h]

theorem Agree.settled_eq {r s : Resolver} {code : Text} (h : r.Agree s code) :
    r.settled code = s.settled code := by
  rcases h with ⟨value, hr, hs⟩ | ⟨⟨e, hr⟩, ⟨e', hs⟩⟩
  · rw [settled_of_ok hr, settled_of_ok hs]
  · -- both keep the fragment, whatever their reasons
    rw [settled_of_error hr, settled_of_error hs]

theorem Keeps.settled_eq {r : Resolver} {code : Text} (h : r.Keeps code) :
    r.settled code = code := by
  rcases h with hr | ⟨e, hr⟩
  · exact settled_of_ok hr
  · exact settled_of_error hr

end Resolver

namespace Clause

/-- A line echoes a fragment exactly if it begins with `=`. -/
theorem ofLine_eq_echo_iff {line code : Text} :
    ofLine line = .echo code ↔ ∃ rest, line = '=' :: rest ∧ code = Text.trim rest := by
  rw [← means_iff]
  constructor
  · intro h
    cases h with
    | echo rest => exact ⟨rest, rfl, rfl⟩
  · rintro ⟨rest, rfl, rfl⟩
    exact .echo rest

end Clause

namespace Block

/-! ### The fragments of a block -/

/-- The fragments that a block echoes. -/
def fragments (b : Block) : List Text :=
  if b.filter = .script then
    b.scriptLines.filterMap fun line => (Text.after? "=".toList line).map Text.trim
  else []

theorem mem_fragments_iff {b : Block} {code : Text} :
    code ∈ b.fragments ↔
      b.filter = .script ∧ ∃ rest, '=' :: rest ∈ b.scriptLines ∧ code = Text.trim rest := by
  unfold fragments
  split
  · next hb =>
    simp only [hb, true_and, List.mem_filterMap, Option.map_eq_some_iff]
    constructor
    · rintro ⟨line, hline, rest, hrest, rfl⟩
      have heq : line = '=' :: rest := Text.after?_eq_some_iff.1 hrest
      exact ⟨rest, heq ▸ hline, rfl⟩
    · rintro ⟨rest, hline, rfl⟩
      exact ⟨_, hline, rest, Text.after?_eq_some_iff.2 rfl, rfl⟩
  · next hb => simp [hb]

/-! ### One line -/

theorem resolved_echo (resolver : Option Resolver) (code : Text) :
    resolved resolver (.echo code) = .echo (Resolver.settledBy resolver code) := by
  cases resolver <;> rfl

/-- A clause that echoes nothing is left alone. -/
theorem resolved_of_not_echo {c : Clause} (h : ∀ code, c ≠ .echo code)
    (resolver : Option Resolver) : resolved resolver c = c := by
  cases c with
  | echo code => exact absurd rfl (h code)
  | _ => rfl

/-- **One line.** What a line becomes depends on the resolver only through the fragment that
the line echoes, if it echoes one. -/
theorem resolved_ofLine_congr {r s : Option Resolver} {line : Text}
    (h : ∀ rest, line = '=' :: rest →
      Resolver.settledBy r (Text.trim rest) = Resolver.settledBy s (Text.trim rest)) :
    resolved r (Clause.ofLine line) = resolved s (Clause.ofLine line) := by
  by_cases hecho : ∃ code, Clause.ofLine line = .echo code
  · obtain ⟨code, hcode⟩ := hecho
    obtain ⟨rest, hline, rfl⟩ := Clause.ofLine_eq_echo_iff.1 hcode
    rw [hcode, resolved_echo, resolved_echo, h rest hline]
  · have hnot : ∀ code, Clause.ofLine line ≠ .echo code := fun code hcode => hecho ⟨code, hcode⟩
    rw [resolved_of_not_echo hnot, resolved_of_not_echo hnot]

/-! ### All lines -/

/-- **The whole block.** Its clauses depend on the resolver only through its fragments. -/
theorem clauses_congr {r s : Option Resolver} {b : Block}
    (h : ∀ code ∈ b.fragments, Resolver.settledBy r code = Resolver.settledBy s code) :
    b.clauses r = b.clauses s := by
  by_cases hb : b.filter = .script
  · rw [clauses_of_script hb, clauses_of_script hb]
    apply List.map_congr_left
    intro line hline
    apply resolved_ofLine_congr
    rintro rest rfl
    exact h _ (mem_fragments_iff.2 ⟨hb, rest, hline, rfl⟩)
  · -- one clause in all, for which no resolver is asked
    obtain ⟨c, -, hclauses⟩ := exists_clauses_eq_singleton hb
    rw [hclauses, hclauses]

theorem value_expand_congr {r s : Option Resolver} {b : Block}
    (h : ∀ code ∈ b.fragments, Resolver.settledBy r code = Resolver.settledBy s code) :
    (b.expand r).value = (b.expand s).value := by
  rw [value_expand, value_expand, clauses_congr h]

theorem fragments_of_not_script {b : Block} (h : b.filter ≠ .script) : b.fragments = [] :=
  if_neg h

/-- Without an argument, the lines of a `js` block are those of its body. -/
theorem scriptLines_of_no_argument (filter : Filter) (body : List Text) :
    (Block.mk filter body none).scriptLines = body := by
  cases body <;> rfl

/-- **Lines are expanded independently.** The expansion of two bodies in a row is that of the
first and then that of the second. -/
theorem value_expand_append (resolver : Option Resolver) (body body' : List Text) :
    ((Block.mk .script (body ++ body') none).expand resolver).value =
      ((Block.mk .script body none).expand resolver).value ++
        ((Block.mk .script body' none).expand resolver).value := by
  have hlines : ∀ ls : List Text, (Block.mk .script ls none).clauses resolver =
      ls.map fun line => resolved resolver (Clause.ofLine line) := by
    intro ls
    rw [clauses_of_script rfl, scriptLines_of_no_argument]
  simp only [value_expand, hlines, List.map_append, List.flatMap_append]

/-- **A resolver reaches the fragments that are echoed, and nothing else.** Two resolvers that
agree about the fragments of a block expand it to the same text; for a filter other than `js` that
is the text without a resolver, as it is if the resolver keeps each fragment. Nor does one line
see what became of another: bodies are expanded one after the other. -/
theorem renderWith_influence :
    (∀ (b : Block) (r s : Resolver), (∀ code ∈ b.fragments, r.Agree s code) →
      b.renderWith r = b.renderWith s) ∧
    (∀ (b : Block) (r : Resolver), b.filter ≠ .script → b.renderWith r = b.render) ∧
    (∀ (b : Block) (r : Resolver), (∀ code ∈ b.fragments, r.Keeps code) →
      b.renderWith r = b.render) ∧
    ∀ (r : Resolver) (body body' : List Text),
      (Block.mk .script (body ++ body') none).renderWith r =
        (Block.mk .script body none).renderWith r ++
          (Block.mk .script body' none).renderWith r := by
  refine ⟨?_, ?_, ?_, ?_⟩
  · intro b r s h
    exact value_expand_congr fun code hcode => (h code hcode).settled_eq
  · intro b r hb
    apply value_expand_congr
    rw [fragments_of_not_script hb]
    exact fun code hcode => absurd hcode List.not_mem_nil
  · intro b r h
    exact value_expand_congr fun code hcode => (h code hcode).settled_eq
  · intro r body body'
    exact value_expand_append (some r) body body'

/-- Resolvers that agree about `a` and differ about everything else give the same expansion of
lines that echo `a` alone, although a condition holds another text; and one that fails on all
fragments gives the expansion without a resolver, as any does for a conditional. -/
theorem renderWith_influence_sample :
    let b := Block.mk .script ["=  a ".toList, "if b".toList] none
    let r : Resolver := fun code => if code = "a".toList then .ok "1".toList else .ok "2".toList
    let s : Resolver := fun code =>
      if code = "a".toList then .ok "1".toList else .error (.undefined code)
    b.renderWith r = b.renderWith s ∧
      b.renderWith (fun code => .error (.undefined code)) = b.render ∧
      (Block.mk .ifThen [] (some "b".toList)).renderWith r =
        (Block.mk .ifThen [] (some "b".toList)).render := by
  intro b r s
  obtain ⟨hagree, hother, hkeeps, -⟩ := renderWith_influence
  have hfragments : b.fragments = ["a".toList] := by decide
  refine ⟨?_, ?_, hother _ r (by decide)⟩
  · apply hagree
    intro code hcode
    rw [hfragments, List.mem_singleton] at hcode
    subst hcode
    exact .inl ⟨"1".toList, rfl, rfl⟩
  · exact hkeeps b _ fun code _ => .inr ⟨_, rfl⟩

end Block

end Tagline
