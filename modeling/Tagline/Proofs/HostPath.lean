import Tagline.Proofs.Binding
import Tagline.Proofs.Template.BlockSource

/-!
# From a host template to a block

A host applies a filter to a text in a template; the library expands a block. Between the two lie
an environment with bound names, a template that has to be read, a value that has to be found and
taken apart into lines, and the writing of the outcome, which in some templates escapes what it
writes. This module shows that nothing on that way changes the text.

* `outcome_eval_blockExpr` — the value of a filtered block is what the binding of the filter makes
  of the block's text;
* `outcome_filterBinding_standard` — without a resolver, that is the expansion of the block, as a
  safe text;
* `written_safeText` — a safe text is written as it is, whether values are escaped or not;
* `outcome_render_block` — so the template writes the expansion, under every name that it may have.

That the value is a safe text does not depend on how values are treated when it is written: it is
shown for every `Template.Mode`, and only the last step looks at the mode at all.
-/

namespace Tagline

namespace Template

namespace Environment

/-- The environment in which values are treated in another way. -/
def inMode (env : Environment) (mode : Mode) : Environment := { env with mode }

@[simp] theorem filters_inMode (env : Environment) (mode : Mode) :
    (env.inMode mode).filters = env.filters := rfl

/-! ### Writing a safe text -/

theorem written_safeText (env : Environment) (t : Text) : env.written (.safeText t) = .ok t := by
  have hdefined : env.defined (.safeText t) = .ok (.safeText t) := by
    unfold defined
    rw [show (Value.safeText t).isUnset = false from rfl, Bool.and_false]
    rfl
  unfold written
  rw [hdefined]
  -- escaped or not, it is the same text
  show Except.ok (if env.mode.escape = true then t else t) = _
  rw [ite_self]

theorem outcome_exec_output {env : Environment} {sc : Scope} {e : Expr} {t : Text}
    (he : (env.eval sc e).outcome = .ok (.safeText t)) :
    (env.exec sc (.output e)).outcome = .ok (t, sc) := by
  rw [exec, Run.outcome_bind, he]
  show (Run.lift (env.written (.safeText t)) >>= _).outcome = _
  rw [Run.outcome_bind, Run.outcome_lift, written_safeText]
  rfl

theorem outcome_execAll_singleton {env : Environment} {sc sc' : Scope} {s : Statement} {t : Text}
    (h : (env.exec sc s).outcome = .ok (t, sc')) : (env.execAll sc [s]).outcome = .ok (t, sc') := by
  rw [execAll, Run.outcome_bind, h]
  show (env.execAll sc' [] >>= _).outcome = _
  rw [execAll, Run.outcome_bind]
  show Except.ok (t ++ [], sc') = _
  rw [List.append_nil]

end Environment

/-- A template of one output writes its value, if that is a safe text in every mode. The name of
the template selects the mode, and so does not matter. -/
theorem outcome_render_output {env : Environment} {source t : Text} {e : Expr} {data : Value}
    (hsource : Statement.ofSource source = .ok [.output e])
    (he : ∀ mode : Mode, ((env.inMode mode).eval { root := data } e).outcome = .ok (.safeText t))
    (name : Option Text) : (render env name source data).outcome = .ok t := by
  have hexec := Environment.outcome_execAll_singleton
    (Environment.outcome_exec_output (he { env.mode with escape := name.any escapes }))
  unfold render
  rw [hsource]
  show ((env.inMode _).execAll { root := data } [.output e] >>= _).outcome = _
  rw [Run.outcome_bind, hexec]
  rfl

end Template

open Template

namespace Host

/-! ### The value of a filtered block -/

/-- The data of a template that is given one block. -/
def blockData (text : Text) : Value := .ofJson (.object [("block".toList, .string text)])

theorem variableValue_block (env : Environment) (text : Text) :
    env.variableValue { root := blockData text } "block".toList = .ofText text := rfl

/-- The value of a filtered block is what the filter makes of the block's text. -/
theorem outcome_eval_blockExpr {env : Environment} {filter : Text} {f : Callable}
    (h : env.filters filter = some f) (text : Text) :
    (env.eval { root := blockData text } (blockExpr filter)).outcome =
      (f env.mode [.ofText text]).outcome := by
  have happly : env.applyFilter filter [.ofText text] = f env.mode [.ofText text] := by
    unfold Environment.applyFilter
    rw [h]
  rw [← happly]
  unfold blockExpr
  rw [Environment.eval, Environment.eval, variableValue_block, Environment.evalAll,
    Environment.evalKeywords]
  simp only [Run.outcome_bind, Run.outcome_pure]
  rfl

/-- In the standard table, the binding of a filter expands the block of a text. -/
theorem outcome_filterBinding_standard (s : Settings) (f : Filter) (m : Mode) (text : Text) :
    (filterBinding .standard s f m [.ofText text]).outcome =
      .ok (.safeText (Block.mk f (s.splitBody text) none).render) := by
  have hexpand : (FilterTable.standard.expand (blockOf s f (.ofText text) none)).outcome =
      .ok (Block.mk f (s.splitBody text) none).render := FilterTable.outcome_expand rfl
  have hargument : Argument.optionalText [] = .ok (none, []) := rfl
  have hset : (m.strict && (Value.ofText text).isUnset) = false := Bool.and_false m.strict
  rw [outcome_filterBinding .standard s f hset hargument, hexpand]
  rfl

/-! ### The environment of settings -/

/-- Settings that resolve nothing ask for the standard table, in which every filter is found. -/
theorem filters_environment {s : Settings} (h : s.resolveFragments = false) (f : Filter) :
    (environment s).value.filters (s.qualified f.name) = some (filterBinding .standard s f) := by
  have htable : table s = .standard := by
    unfold table
    rw [h]
    rfl
  unfold environment
  rw [htable, filters_register]
  exact filters_bindFilters_of_mem (FilterTable.mem_filters_iff.2 rfl) _

/-- Behind a prefix that is a name, the name of a filter is one, too. -/
theorem isName_qualified {s : Settings} (h : IsName s.namePrefix) (f : Filter) :
    IsName (s.qualified f.name) := by
  have hall : f.name.all isNameChar = true := by cases f <;> decide
  exact h.append (List.all_eq_true.1 hall)

theorem outcome_render (s : Settings) (name : Option Text) (source : Text) (data : Value) :
    (render s name source data).outcome =
      (Template.render (environment s).value name source data).outcome.mapError .template := by
  unfold render renderIn
  rw [Attempt.outcome_bind, Attempt.outcome_ofLogged]
  exact Attempt.outcome_ofRun _

/-- **The host's way to a filter is the library's own.** Under settings whose prefix is a name and
that resolve nothing, the template that filters a block is rendered, whatever it is called, and
its output is the expansion of the block, character by character. Nor would another way of
escaping change it: the template is one output, and its value comes out the same in every mode and
however values are written, as long as safe texts are written as they are. -/
theorem outcome_render_block (s : Settings) (hpre : IsName s.namePrefix)
    (hresolve : s.resolveFragments = false) (f : Filter) (text : Text) :
    let source := blockSource (s.qualified f.name)
    let out := (Block.mk f (s.splitBody text) none).render
    (∀ name : Option Text, (render s name source (blockData text)).outcome = .ok out) ∧
    ∃ e, Statement.ofSource source = .ok [.output e] ∧
      ∀ (mode : Mode) (write : Value → Text), (∀ t, write (.safeText t) = t) →
        (((environment s).value.inMode mode).eval { root := blockData text } e).outcome.map write =
          .ok out := by
  intro source out
  have hsource := ofSource_blockSource (isName_qualified hpre f)
  -- the binding is found by its name in every mode, and does not ask for the mode
  have hvalue : ∀ mode : Mode, (((environment s).value.inMode mode).eval
      { root := blockData text } (blockExpr (s.qualified f.name))).outcome =
        .ok (.safeText out) := by
    intro mode
    have hfilter : ((environment s).value.inMode mode).filters (s.qualified f.name) =
        some (filterBinding .standard s f) := by
      rw [Environment.filters_inMode, filters_environment hresolve]
    rw [outcome_eval_blockExpr hfilter]
    exact outcome_filterBinding_standard s f mode text
  refine ⟨?_, blockExpr (s.qualified f.name), hsource, ?_⟩
  · intro name
    rw [outcome_render, outcome_render_output hsource hvalue name]
    rfl
  · intro mode write hwrite
    rw [hvalue mode]
    exact congrArg Except.ok (hwrite out)

/-- Marks, quotes and signs come through in a template that escapes its values, and also if every
value but a safe text were written in quotes. -/
theorem outcome_render_block_sample :
    let s : Settings := { namePrefix := "t_".toList }
    let source := "\x7b\x7b block | t_js \x7d\x7d".toList
    let text := "  = a < b && \"c\"\r\n\n  if 'd'\n".toList
    let out := "<%= a < b && \"c\" %><% if('d') \x7b %>".toList
    let write (v : Value) : Text := if v.isSafe then v.text else Text.quoted v.text
    (render s (some "page.html".toList) source (blockData text)).outcome = .ok out ∧
      ∃ e, Statement.ofSource source = .ok [.output e] ∧
        (((environment s).value.inMode ⟨true, true⟩).eval { root := blockData text }
          e).outcome.map write = .ok out := by
  intro s source text out write
  have hout : (Block.mk .script (s.splitBody text) none).render = out := by decide
  obtain ⟨hrender, e, hsource, hwrite⟩ := outcome_render_block s (by decide) rfl .script text
  rw [hout] at hrender hwrite
  exact ⟨hrender _, e, hsource, hwrite _ write fun _ => rfl⟩

end Host

end Tagline
