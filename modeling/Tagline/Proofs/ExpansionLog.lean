import Mathlib.Data.List.Forall2
import Tagline.Block

/-!
# The log of an expansion

A fragment that cannot be resolved is kept, and the text of an expansion does not show whether it
was kept or resolved to itself. The log does. This module says which records the expansion of a
`js` block writes, in which order, and that there are no others: that the block is expanded, and
then, line by line, what the line means and, right behind it, why its fragment is kept, if it is.

* `LineRun` — what one line can do: the clause that is written for it, and its records. Which of
  the cases it is depends on the line and on what the resolver says about its fragment;
* `lineRun_expandLine` — one line of an expansion does one of these things, and only one
  (`LineRun.eq_expandLine`);
* `expandLines_eq` — the lines of an expansion do so one after the other;
* `LineRun.countP_isFallback` — a line writes that its fragment is kept once if the resolver fails
  on it, and never otherwise, so that these records are as many as such lines
  (`countP_isFallback_flatMap`);
* `expand_script_runs` — the expansion of a block and its log.
-/

namespace Tagline

/-- Whether a record says that a fragment is kept. -/
def Log.Record.isFallback (record : Log.Record) : Bool :=
  record.level == .debug && record.origin == .resolver &&
    Text.begins "keeping source text: ".toList record.message

namespace Block

/-! ### One line -/

/-- What one line does by itself: it is read, and the fragment that it echoes is resolved. -/
def expandLine (resolver : Option Resolver) (line : Text) : Logged Clause :=
  Clause.read line >>= resolve resolver

/-- The record of what a line means, before anything in it is resolved. -/
def readingRecord (line : Text) : Log.Record :=
  ⟨.trace, .clause, "recognized ".toList ++ Text.quoted line ++ " as ".toList ++
    (Clause.ofLine line).describe⟩

/-- What a line of an expansion can do: the clause that is written for it, and its records. -/
inductive LineRun (resolver : Option Resolver) (line : Text) : Logged Clause → Prop
  /-- The resolver fails on the fragment of the line, which is kept, and the log says why. -/
  | kept {r : Resolver} {code : Text} {e : Unresolved} (hresolver : resolver = some r)
      (hline : Clause.ofLine line = .echo code) (he : r code = .error e) :
      LineRun resolver line ⟨.echo code,
        [readingRecord line, ⟨.debug, .resolver, "keeping source text: ".toList ++ e.message⟩]⟩
  /-- The resolver gives a text for the fragment of the line. -/
  | settled {r : Resolver} {code value : Text} (hresolver : resolver = some r)
      (hline : Clause.ofLine line = .echo code) (hvalue : r code = .ok value) :
      LineRun resolver line ⟨.echo value, [readingRecord line]⟩
  /-- There is nothing to resolve, or nothing to resolve it with. -/
  | plain (h : resolver = none ∨ ∀ code, Clause.ofLine line ≠ .echo code) :
      LineRun resolver line ⟨Clause.ofLine line, [readingRecord line]⟩

theorem resolve_of_plain {resolver : Option Resolver} {c : Clause}
    (h : resolver = none ∨ ∀ code, c ≠ .echo code) : resolve resolver c = pure c := by
  cases resolver with
  | none => cases c <;> rfl
  | some r =>
    have hne : ∀ code, c ≠ .echo code := h.resolve_left (Option.some_ne_none r)
    cases c with
    | echo code => exact absurd rfl (hne code)
    | _ => rfl

/-- The record of the reading comes first, whatever becomes of the clause. -/
theorem expandLine_eq (resolver : Option Resolver) (line : Text) :
    expandLine resolver line = ⟨(resolve resolver (Clause.ofLine line)).value,
      readingRecord line :: (resolve resolver (Clause.ofLine line)).log⟩ := rfl

theorem expandLine_of_plain {resolver : Option Resolver} {line : Text}
    (h : resolver = none ∨ ∀ code, Clause.ofLine line ≠ .echo code) :
    expandLine resolver line = ⟨Clause.ofLine line, [readingRecord line]⟩ := by
  rw [expandLine_eq, resolve_of_plain h]
  rfl

theorem expandLine_of_echo (r : Resolver) {line code : Text}
    (hline : Clause.ofLine line = .echo code) :
    expandLine (some r) line =
      ⟨.echo (r.settle code).value, readingRecord line :: (r.settle code).log⟩ := by
  have hresolve : resolve (some r) (.echo code) = Clause.echo <$> r.settle code := rfl
  rw [expandLine_eq, hline, hresolve, Logged.value_map, Logged.log_map]

/-- **One line.** -/
theorem lineRun_expandLine (resolver : Option Resolver) (line : Text) :
    LineRun resolver line (expandLine resolver line) := by
  by_cases hplain : resolver = none ∨ ∀ code, Clause.ofLine line ≠ .echo code
  · rw [expandLine_of_plain hplain]
    exact .plain hplain
  · simp only [not_or, not_forall, not_not] at hplain
    obtain ⟨hsome, code, hline⟩ := hplain
    obtain ⟨r, rfl⟩ := Option.ne_none_iff_exists'.1 hsome
    rw [expandLine_of_echo r hline]
    unfold Resolver.settle
    cases hcode : r code with
    | ok value => exact .settled rfl hline hcode
    | error e => exact .kept rfl hline hcode

/-- A line has one run only. -/
theorem LineRun.eq_expandLine {resolver : Option Resolver} {line : Text} {run : Logged Clause}
    (h : LineRun resolver line run) : run = expandLine resolver line := by
  cases h with
  | kept hresolver hline he =>
    rw [hresolver, expandLine_of_echo _ hline]
    unfold Resolver.settle
    rw [he]
    rfl
  | settled hresolver hline hvalue =>
    rw [hresolver, expandLine_of_echo _ hline]
    unfold Resolver.settle
    rw [hvalue]
  | plain h => exact (expandLine_of_plain h).symm

theorem eq_map_of_forall₂ {resolver : Option Resolver} {lines : List Text}
    {runs : List (Logged Clause)} (h : List.Forall₂ (LineRun resolver) lines runs) :
    runs = lines.map (expandLine resolver) := by
  induction h with
  | nil => rfl
  | cons hrun _ ih => rw [List.map_cons, ← hrun.eq_expandLine, ← ih]

/-! ### All lines -/

/-- **Lines one after the other.** Their tags and their records are in the order of the lines. -/
theorem expandLines_eq (resolver : Option Resolver) (lines : List Text) :
    expandLines resolver lines =
      ⟨lines.flatMap fun line => (expandLine resolver line).value.render,
        lines.flatMap fun line => (expandLine resolver line).log⟩ := by
  induction lines with
  | nil => rfl
  | cons line lines ih =>
    have hcons : expandLines resolver (line :: lines) =
        expandLine resolver line >>= fun c =>
          expandLines resolver lines >>= fun rest => pure (c.render ++ rest) := by
      rw [expandLines, expandLine, bind_assoc]
    rw [hcons, ih]
    apply Logged.ext
    · simp only [Logged.value_bind, Logged.value_pure, List.flatMap_cons]
    · simp only [Logged.log_bind, Logged.log_pure, List.append_nil, List.flatMap_cons]

/-! ### How often a fragment is kept -/

/-- Whether the resolver fails on the fragment of a line. -/
def failsOn (resolver : Option Resolver) (line : Text) : Bool :=
  match resolver, Clause.ofLine line with
  | some r, .echo code => !(r code).isOk
  | _, _ => false

theorem failsOn_of_echo (r : Resolver) {line code : Text}
    (hline : Clause.ofLine line = .echo code) : failsOn (some r) line = !(r code).isOk := by
  unfold failsOn
  rw [hline]

theorem failsOn_eq_false {resolver : Option Resolver} {line : Text}
    (h : resolver = none ∨ ∀ code, Clause.ofLine line ≠ .echo code) :
    failsOn resolver line = false := by
  unfold failsOn
  split
  · next r code hline =>
    rcases h with h | h
    · exact absurd h (Option.some_ne_none r)
    · exact absurd hline (h code)
  · rfl

theorem isFallback_of_reason (reason : Text) :
    Log.Record.isFallback ⟨.debug, .resolver, "keeping source text: ".toList ++ reason⟩ = true := by
  show Text.begins "keeping source text: ".toList ("keeping source text: ".toList ++ reason) = true
  exact Text.begins_iff.2 ⟨reason, rfl⟩

/-- **One line.** It notes that its fragment is kept if the resolver fails on it, and never else. -/
theorem LineRun.countP_isFallback {resolver : Option Resolver} {line : Text} {run : Logged Clause}
    (h : LineRun resolver line run) :
    run.log.countP Log.Record.isFallback = (failsOn resolver line).toNat := by
  -- the level alone tells the record of a reading from that of a fragment
  have hreading : ¬ (readingRecord line).isFallback = true := Bool.false_ne_true
  cases h with
  | kept hresolver hline he =>
    rw [hresolver, failsOn_of_echo _ hline, he, List.countP_cons_of_neg hreading,
      List.countP_cons_of_pos (isFallback_of_reason _)]
    rfl
  | settled hresolver hline hvalue =>
    rw [hresolver, failsOn_of_echo _ hline, hvalue, List.countP_cons_of_neg hreading]
    rfl
  | plain h =>
    rw [failsOn_eq_false h, List.countP_cons_of_neg hreading]
    rfl

/-- **All lines.** -/
theorem countP_isFallback_flatMap {resolver : Option Resolver} {lines : List Text}
    {runs : List (Logged Clause)} (h : List.Forall₂ (LineRun resolver) lines runs) :
    (runs.flatMap Logged.log).countP Log.Record.isFallback = lines.countP (failsOn resolver) := by
  induction h with
  | nil => rfl
  | @cons line run lines runs hrun _ ih =>
    rw [List.flatMap_cons, List.countP_append, ih, hrun.countP_isFallback, List.countP_cons,
      Nat.add_comm]
    cases failsOn resolver line <;> rfl

/-! ### The whole block -/

/-- A `js` block notes that it is expanded, and then its lines are. -/
theorem expand_of_script {b : Block} (h : b.filter = .script) (resolver : Option Resolver) :
    b.expand resolver =
      Logged.note .debug .block b.startMessage >>= fun _ =>
        expandLines resolver b.scriptLines := by
  unfold expand clause?
  rw [h]
  rfl

/-- The number of lines that a block notes is that of the lines it reads, unless they are those of
its argument. -/
theorem length_body (b : Block) :
    b.body.length = if b.body = [] then 0 else b.scriptLines.length := by
  unfold scriptLines
  cases b.body <;> rfl

theorem startMessage_of_script {b : Block} (h : b.filter = .script) :
    b.startMessage = "rendering 'js' filter (".toList ++
      Number.natText (if b.body = [] then 0 else b.scriptLines.length) ++
      " body lines)".toList := by
  unfold startMessage
  rw [h, ← length_body]
  rfl

/-- **No failure is passed over in silence.** The expansion of a `js` block is the tags of runs of
its lines, one for each and in order. Its log is the record that the block is expanded, with the
number of its own lines, and then the records of these runs, and nothing else. So there are as many
records that a fragment is kept as there are lines with a fragment that the resolver fails on. -/
theorem expand_script_runs {b : Block} (h : b.filter = .script) (resolver : Option Resolver) :
    ∃ runs, List.Forall₂ (LineRun resolver) b.scriptLines runs ∧
      (b.expand resolver).value = runs.flatMap (fun run => run.value.render) ∧
      (b.expand resolver).log =
        ⟨.debug, .block, "rendering 'js' filter (".toList ++
          Number.natText (if b.body = [] then 0 else b.scriptLines.length) ++
          " body lines)".toList⟩ :: runs.flatMap Logged.log ∧
      (b.expand resolver).log.countP Log.Record.isFallback =
        b.scriptLines.countP (failsOn resolver) := by
  have hruns : List.Forall₂ (LineRun resolver) b.scriptLines
      (b.scriptLines.map (expandLine resolver)) := by
    rw [List.forall₂_map_right_iff]
    exact List.forall₂_same.2 fun line _ => lineRun_expandLine resolver line
  have hlog : (b.expand resolver).log = ⟨.debug, .block, b.startMessage⟩ ::
      (b.scriptLines.map (expandLine resolver)).flatMap Logged.log := by
    rw [expand_of_script h, expandLines_eq, List.flatMap_map]
    rfl
  refine ⟨b.scriptLines.map (expandLine resolver), hruns, ?_, ?_, ?_⟩
  · rw [expand_of_script h, expandLines_eq, List.flatMap_map]
    rfl
  · rw [hlog, startMessage_of_script h]
  · -- the first record is of another origin
    rw [hlog, List.countP_cons_of_neg Bool.false_ne_true, countP_isFallback_flatMap hruns]

/-- A block whose lines are those of its argument, with a fragment that has a text, one that has
none, and a condition: no line is counted at the start, each line is noted as it is read, and one
fragment is kept. -/
theorem expand_script_runs_sample :
    let b := Block.mk .script [] (some "= a\n= b\nif b".toList)
    let r : Resolver := fun code =>
      if code = "a".toList then .ok "1".toList else .error (.undefined code)
    let runs : List (Logged Clause) :=
      [⟨.echo "1".toList,
          [⟨.trace, .clause, "recognized \"= a\" as Expression \x7b code: \"a\" \x7d".toList⟩]⟩,
        ⟨.echo "b".toList,
          [⟨.trace, .clause, "recognized \"= b\" as Expression \x7b code: \"b\" \x7d".toList⟩,
            ⟨.debug, .resolver,
              "keeping source text: 'b' evaluated to an undefined value".toList⟩]⟩,
        ⟨.conditional .ifThen (some "b".toList),
          [⟨.trace, .clause, ("recognized \"if b\" as Conditional " ++
            "\x7b kind: If, condition: Some(\"b\") \x7d").toList⟩]⟩]
    List.Forall₂ (LineRun (some r)) ["= a".toList, "= b".toList, "if b".toList] runs ∧
      (b.expand (some r)).value = runs.flatMap (fun run => run.value.render) ∧
      (b.expand (some r)).value = "<%= 1 %><%= b %><% if(b) \x7b %>".toList ∧
      (b.expand (some r)).log =
        ⟨.debug, .block, "rendering 'js' filter (0 body lines)".toList⟩ ::
          runs.flatMap Logged.log ∧
      (b.expand (some r)).log.countP Log.Record.isFallback = 1 := by
  intro b r runs
  have hscript : b.filter = .script := rfl
  have hlines : b.scriptLines = ["= a".toList, "= b".toList, "if b".toList] := by decide
  have htags : (b.expand (some r)).value = "<%= 1 %><%= b %><% if(b) \x7b %>".toList := by decide
  have hmessage : "rendering 'js' filter (".toList ++
      Number.natText (if b.body = [] then 0 else b.scriptLines.length) ++ " body lines)".toList =
        "rendering 'js' filter (0 body lines)".toList := by decide +kernel
  have hmap : ["= a".toList, "= b".toList, "if b".toList].map (expandLine (some r)) = runs := by
    decide +kernel
  obtain ⟨runs', hruns, hvalue, hlog, hcount⟩ := expand_script_runs hscript (some r)
  rw [hlines] at hruns hcount
  rw [hmessage] at hlog
  obtain rfl : runs' = runs := (eq_map_of_forall₂ hruns).trans hmap
  exact ⟨hruns, hvalue, htags, hlog, hcount⟩

end Block

end Tagline
