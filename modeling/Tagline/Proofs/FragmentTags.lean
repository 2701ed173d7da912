import Mathlib.Data.List.Forall2
import Tagline.Fragment
import Tagline.Proofs.TableRoutes

/-!
# The tags of resolved fragments

Where the fragments of a `js` block are resolved as expressions, a fragment is exchanged for its
value only if the value can be written in script, which a text and a number can (`Engine.Spells`).
Everything else keeps its source: a fragment that is no expression, one whose evaluation fails, one
that is undefined or none, and one whose value is a truth value, a collection or a function.

None of this depends on what the expressions of an engine are or mean, so the results hold of any
`Fragment.Engine`. The resolver always asks it to be strict about undefined names, and the
conditions below are about the values that the engine gives then.

* `Engine.resolve_cases` — the three answers of the resolver, each with the condition under which it
  is given. Since exactly one of the conditions holds, each answer is given if and only if its
  condition holds (`Engine.resolve_eq_ok_iff`, `Engine.resolve_eq_undefined_iff`,
  `Engine.resolve_eq_failed_iff`);
* `Engine.LineTag` — the tag of a line: the text of the value if the line echoes a fragment that has
  one, and otherwise the tag that the standard table gives to that line alone;
* `Engine.lineTag_iff` — a line has one tag in this sense, the one that the resolver makes of it;
* `expand_lineTags` — so the expansion of a block is the tags of its lines.
-/

namespace Tagline

namespace Fragment

namespace Engine

variable {engine : Engine} {undefined : Undefined} {data : engine.Data} {code : Text}

/-! ### What the resolver answers -/

/-- The fragment compiles, and what it compiles to evaluates to `v`. -/
def Yields (engine : Engine) (undefined : Undefined) (data : engine.Data) (code : Text)
    (v : engine.Value) : Prop :=
  ∃ program, engine.compile undefined code = .ok program ∧
    engine.eval undefined program data = .ok v

/-- The fragment has a value that can be written in script. -/
def Spells (engine : Engine) (undefined : Undefined) (data : engine.Data) (code : Text)
    (v : engine.Value) : Prop :=
  engine.Yields undefined data code v ∧ (engine.kind v = .string ∨ engine.kind v = .number)

/-- The fragment can be evaluated, and there is nothing there. -/
def Absent (engine : Engine) (undefined : Undefined) (data : engine.Data) (code : Text) : Prop :=
  ∃ v, engine.Yields undefined data code v ∧
    (engine.kind v = .undefined ∨ engine.kind v = .none)

theorem yields_iff {v : engine.Value} :
    engine.Yields undefined data code v ↔ engine.value undefined data code = .ok v := by
  unfold Yields value
  cases hcompile : engine.compile undefined code with
  | error message => simp [bind, Except.bind]
  | ok program => simp [bind, Except.bind]

/-- The answer about a value, by its kind. -/
theorem textOf_cases (engine : Engine) (code : Text) (v : engine.Value) :
    ((engine.kind v = .string ∨ engine.kind v = .number) ∧
        engine.textOf code v = .ok (engine.text v)) ∨
      ((engine.kind v = .undefined ∨ engine.kind v = .none) ∧
        engine.textOf code v = .error (.undefined code)) ∨
      (¬ (engine.kind v = .string ∨ engine.kind v = .number) ∧
        ¬ (engine.kind v = .undefined ∨ engine.kind v = .none) ∧
        ∃ cause, engine.textOf code v = .error (.failed code cause)) := by
  unfold textOf
  cases engine.kind v <;> simp

/-- **One answer for each fragment.** -/
theorem resolve_cases (engine : Engine) (data : engine.Data) (code : Text) :
    (∃ v, engine.Spells .strict data code v ∧ ¬ engine.Absent .strict data code ∧
        engine.resolve data code = .ok (engine.text v)) ∨
      ((∀ v, ¬ engine.Spells .strict data code v) ∧ engine.Absent .strict data code ∧
        engine.resolve data code = .error (.undefined code)) ∨
      ((∀ v, ¬ engine.Spells .strict data code v) ∧ ¬ engine.Absent .strict data code ∧
        ∃ cause, engine.resolve data code = .error (.failed code cause)) := by
  unfold resolve Spells Absent
  simp only [yields_iff]
  cases hvalue : engine.value .strict data code with
  | error message => exact .inr (.inr ⟨by simp, by simp, _, rfl⟩)
  | ok v =>
    -- a fragment has one value, so a condition on the value is one on the fragment
    simp only [Except.ok.injEq, exists_eq_left', not_and]
    rcases textOf_cases engine code v with ⟨hkind, htext⟩ | ⟨hkind, htext⟩ | ⟨hno, hno', htext⟩
    · refine .inl ⟨v, ⟨rfl, hkind⟩, ?_, htext⟩
      rcases hkind with h | h <;> simp [h]
    · refine .inr (.inl ⟨?_, hkind, htext⟩)
      rcases hkind with h | h <;> simp [h]
    · exact .inr (.inr ⟨by simpa using hno, hno', htext⟩)

theorem Spells.resolve_eq {v : engine.Value} (h : engine.Spells .strict data code v) :
    engine.resolve data code = .ok (engine.text v) := by
  obtain ⟨hyields, hkind⟩ := h
  unfold resolve textOf
  rw [yields_iff.1 hyields]
  rcases hkind with h | h <;> simp [h]

theorem resolve_eq_ok_iff {text : Text} :
    engine.resolve data code = .ok text ↔
      ∃ v, engine.Spells .strict data code v ∧ text = engine.text v := by
  constructor
  · intro h
    rcases resolve_cases engine data code with ⟨v, hv, -, heq⟩ | ⟨-, -, heq⟩ | ⟨-, -, cause, heq⟩
    · rw [heq] at h
      exact ⟨v, hv, (Except.ok.inj h).symm⟩
    all_goals
      rw [heq] at h
      nomatch h
  · rintro ⟨v, hv, rfl⟩
    exact hv.resolve_eq

theorem resolve_eq_undefined_iff {c : Text} :
    engine.resolve data code = .error (.undefined c) ↔
      c = code ∧ engine.Absent .strict data code := by
  rcases resolve_cases engine data code with
    ⟨v, -, hnot, heq⟩ | ⟨-, habsent, heq⟩ | ⟨-, hnot, cause, heq⟩
  · simp [heq, hnot]
  · simp [heq, habsent, eq_comm]
  · simp [heq, hnot]

theorem resolve_eq_failed_iff {c : Text} :
    (∃ cause, engine.resolve data code = .error (.failed c cause)) ↔
      c = code ∧ (∀ v, ¬ engine.Spells .strict data code v) ∧
        ¬ engine.Absent .strict data code := by
  rcases resolve_cases engine data code with
    ⟨v, hv, hnot, heq⟩ | ⟨-, habsent, heq⟩ | ⟨hno, hnot, cause, heq⟩
  · have hspells : ¬ ∀ v, ¬ engine.Spells .strict data code v := fun h => h v hv
    simp [heq, hspells]
  · simp [heq, habsent]
  · simp [heq, hno, hnot, eq_comm]

/-! ### What becomes of a line -/

/-- The tag of a line in a `js` block whose fragments are resolved over the given data. -/
inductive LineTag (engine : Engine) (undefined : Undefined) (data : engine.Data) :
    (line tag : Text) → Prop
  /-- The line echoes a fragment that can be written in script. -/
  | spelled {line code : Text} {v : engine.Value} (hline : Clause.ofLine line = .echo code)
      (hv : engine.Spells undefined data code v) :
      LineTag engine undefined data line ("<%= ".toList ++ engine.text v ++ " %>".toList)
  /-- The line does not, and has the tag that it has as a block of its own. -/
  | kept {line tag : Text}
      (hline : ∀ code v, Clause.ofLine line = .echo code → ¬ engine.Spells undefined data code v)
      (htag : (FilterTable.standard.expand { filter := .script, body := [line] }).outcome =
        .ok tag) : LineTag engine undefined data line tag

theorem outcome_expand_line (line : Text) :
    (FilterTable.standard.expand { filter := .script, body := [line] }).outcome =
      .ok (Clause.ofLine line).render := by
  have hclauses : (Block.mk .script [line] none).clauses none = [Clause.ofLine line] := by
    rw [Block.clauses_of_script rfl, Block.scriptLines_of_no_argument, List.map_singleton,
      Block.resolved_none]
  rw [FilterTable.outcome_expand_standard]
  unfold Block.render
  rw [Block.value_expand, hclauses, List.flatMap_singleton]

/-- A line whose fragment cannot be written in script is left alone. -/
theorem resolved_of_not_spells {line : Text}
    (h : ∀ code v, Clause.ofLine line = .echo code → ¬ engine.Spells .strict data code v) :
    Block.resolved (some (engine.resolve data)) (Clause.ofLine line) = Clause.ofLine line := by
  have hkept : Block.resolved none (Clause.ofLine line) =
      Block.resolved (some (engine.resolve data)) (Clause.ofLine line) := by
    apply Block.resolved_ofLine_congr
    intro rest hrest
    have hecho := Clause.ofLine_eq_echo_iff.2 ⟨rest, hrest, rfl⟩
    rcases resolve_cases engine data (Text.trim rest) with
      ⟨v, hv, -⟩ | ⟨-, -, heq⟩ | ⟨-, -, cause, heq⟩
    · exact absurd hv (h _ v hecho)
    · exact (Resolver.settled_of_error heq).symm
    · exact (Resolver.settled_of_error heq).symm
  rw [← hkept, Block.resolved_none]

/-- A line whose fragment can be written in script echoes the text of its value. -/
theorem Spells.render_resolved {line : Text} {v : engine.Value}
    (hline : Clause.ofLine line = .echo code) (hv : engine.Spells .strict data code v) :
    (Block.resolved (some (engine.resolve data)) (Clause.ofLine line)).render =
      "<%= ".toList ++ engine.text v ++ " %>".toList := by
  have hsettled : Resolver.settledBy (some (engine.resolve data)) code = engine.text v :=
    Resolver.settled_of_ok hv.resolve_eq
  rw [hline, Block.resolved_echo, hsettled]
  rfl

/-- **One line.** It has one tag, and that is what the resolver makes of it. -/
theorem lineTag_iff {line tag : Text} :
    engine.LineTag .strict data line tag ↔
      tag = (Block.resolved (some (engine.resolve data)) (Clause.ofLine line)).render := by
  constructor
  · rintro (⟨hline, hv⟩ | ⟨hline, htag⟩)
    · exact (hv.render_resolved hline).symm
    · rw [outcome_expand_line] at htag
      rw [resolved_of_not_spells hline]
      exact (Except.ok.inj htag).symm
  · rintro rfl
    by_cases hspells : ∃ code v, Clause.ofLine line = .echo code ∧ engine.Spells .strict data code v
    · obtain ⟨code, v, hline, hv⟩ := hspells
      rw [hv.render_resolved hline]
      exact .spelled hline hv
    · have hline : ∀ code v, Clause.ofLine line = .echo code → ¬ engine.Spells .strict data code v :=
        fun code v hecho hv => hspells ⟨code, v, hecho, hv⟩
      rw [resolved_of_not_spells hline]
      exact .kept hline (outcome_expand_line line)

/-- Lines have one list of tags. -/
theorem forall₂_lineTag_iff {lines tags : List Text} :
    List.Forall₂ (engine.LineTag .strict data) lines tags ↔
      tags = lines.map fun line =>
        (Block.resolved (some (engine.resolve data)) (Clause.ofLine line)).render := by
  -- the relation is the graph of a function, and along a list that is `List.map`
  have hgraph : engine.LineTag .strict data = fun line tag =>
      (Block.resolved (some (engine.resolve data)) (Clause.ofLine line)).render = tag := by
    funext line tag
    exact propext (lineTag_iff.trans eq_comm)
  rw [hgraph, ← List.forall₂_map_left_iff (R := Eq), List.forall₂_eq_eq_eq, eq_comm]

end Engine

/-- **Resolving changes the fragments that can be written in script, and nothing else.** This is so
whatever compiles and evaluates the fragments, and over any data. The expansion of a `js` block is
the tags of its lines, one after the other, where a line has the tag that it has without a resolver,
except that a fragment whose value, undefined names being errors, is a text or a number is exchanged
for it. The resolver gives a text exactly for those fragments; it calls a fragment undefined exactly
if its value is undefined or none; and else it names the fragment as one that failed. -/
theorem expand_lineTags (engine : Engine) (data : engine.Data) :
    (∀ (body : List Text) (argument : Option Text),
      let b : Block := { filter := .script, body, argument }
      (∃ tags, List.Forall₂ (engine.LineTag .strict data) b.scriptLines tags) ∧
        ∀ tags, List.Forall₂ (engine.LineTag .strict data) b.scriptLines tags →
          ((FilterTable.withResolver (engine.resolve data)).expand b).outcome = .ok tags.flatten) ∧
    ∀ code : Text,
      (∀ text, engine.resolve data code = .ok text ↔
        ∃ v, engine.Spells .strict data code v ∧ text = engine.text v) ∧
      (∀ c, engine.resolve data code = .error (.undefined c) ↔
        c = code ∧ engine.Absent .strict data code) ∧
      ∀ c, (∃ cause, engine.resolve data code = .error (.failed c cause)) ↔
        c = code ∧ (∀ v, ¬ engine.Spells .strict data code v) ∧
          ¬ engine.Absent .strict data code := by
  refine ⟨?_, ?_⟩
  · intro body argument b
    refine ⟨⟨_, Engine.forall₂_lineTag_iff.2 rfl⟩, ?_⟩
    intro tags htags
    rw [Engine.forall₂_lineTag_iff.1 htags, FilterTable.outcome_expand_withResolver]
    unfold Block.renderWith
    rw [Block.value_expand, Block.clauses_of_script rfl, List.flatMap_map, List.flatMap_def]
  · intro code
    exact ⟨fun text => Engine.resolve_eq_ok_iff, fun c => Engine.resolve_eq_undefined_iff,
      fun c => Engine.resolve_eq_failed_iff⟩

/-- With the built-in engine and no data, a number and a text are written in place of their
fragments. A name that the data do not hold, also as a part of a text, `none`, a truth value, a
list, a function and a text that is no expression are kept, and so is a condition. An engine that
were lenient about the name would have a text for that fragment. -/
theorem expand_lineTags_sample :
    let lines : List Text := ["= 1 + 2".toList, "= 'a' ~ 'b'".toList, "= x ~ 'a'".toList,
      "= none".toList, "= true".toList, "= [1]".toList, "= range".toList, "= a &&".toList,
      "if 1 + 2".toList]
    let tags : List Text := ["<%= 3 %>".toList, "<%= ab %>".toList, "<%= x ~ 'a' %>".toList,
      "<%= none %>".toList, "<%= true %>".toList, "<%= [1] %>".toList, "<%= range %>".toList,
      "<%= a && %>".toList, "<% if(1 + 2) \x7b %>".toList]
    List.Forall₂ (builtin.LineTag .strict noData) lines tags ∧
      ((FilterTable.withResolver (resolve noData)).expand
        { filter := .script, body := lines }).outcome = .ok tags.flatten ∧
      (∃ v, builtin.Spells .strict noData "'a' ~ 'b'".toList v ∧ "ab".toList = builtin.text v) ∧
      builtin.Absent .strict noData "none".toList ∧
      ((∀ v, ¬ builtin.Spells .strict noData "x ~ 'a'".toList v) ∧
        ¬ builtin.Absent .strict noData "x ~ 'a'".toList) ∧
      ∃ v, builtin.Spells .lenient noData "x ~ 'a'".toList v := by
  intro lines tags
  obtain ⟨hexpand, hresolve⟩ := expand_lineTags builtin noData
  have htags : List.Forall₂ (builtin.LineTag .strict noData) lines tags :=
    Engine.forall₂_lineTag_iff.2 (by decide +kernel)
  refine ⟨htags, (hexpand lines none).2 tags htags, ?_, ?_, ?_, ?_⟩
  · exact ((hresolve _).1 _).1 (by decide +kernel)
  · exact (((hresolve _).2.1 "none".toList).1 (by decide +kernel)).2
  · have hfailed : builtin.resolve noData "x ~ 'a'".toList =
        .error (.failed "x ~ 'a'".toList (.invalid "undefined value".toList)) := by decide +kernel
    exact (((hresolve _).2.2 _).1 ⟨_, hfailed⟩).2
  · have hkind : (builtin.value .lenient noData "x ~ 'a'".toList).map builtin.kind =
        .ok .string := by decide +kernel
    cases hvalue : builtin.value .lenient noData "x ~ 'a'".toList with
    | error message =>
      rw [hvalue] at hkind
      nomatch hkind
    | ok v =>
      rw [hvalue] at hkind
      exact ⟨v, Engine.yields_iff.2 hvalue, .inl (Except.ok.inj hkind)⟩

end Fragment

end Tagline
