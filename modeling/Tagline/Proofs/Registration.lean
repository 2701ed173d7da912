import Tagline.Proofs.Binding

/-!
# What registration binds

`Host.register` changes an environment in two places: the filters of a table get names, and so do
three functions. This module says that it changes nothing else, whatever the prefix, the table and
the environment are, and that what it binds never fails for want of an entry in the table.

* `called_eq_some_iff` — a name of the host calls at most one filter, since a prefix keeps names
  apart (`Settings.qualified_name_injective`);
* `filters_register_eq` and `functions_register_eq` — the filters and functions after registration,
  name by name, in terms of those before it;
* `exists_expand_eq` — a filter that was bound has an expander, as the table is the one that it was
  bound from, so that the binding succeeds (`outcome_applyFilter_eq`);
* `register_congr` — of the settings, whether fragments are resolved plays no part.

Two filters may be given expanders that do the same, and then their bindings are the same function.
So which filter a name calls is not read off its binding but told by `Host.called`.
-/

namespace Tagline

open Template

namespace Host

/-! ### Names -/

/-- The filter of a table that a name calls in the host, if it calls one. -/
def called (t : FilterTable) (s : Settings) (n : Text) : Option Filter :=
  t.filters.find? fun f => n = s.qualified f.name

section Registration

variable {t : FilterTable} {s : Settings}

theorem called_eq_none_iff {n : Text} :
    called t s n = none ↔ ∀ f ∈ t.filters, n ≠ s.qualified f.name := by
  unfold called
  simp only [List.find?_eq_none, decide_eq_true_eq, ne_eq]

theorem eq_qualified_of_called {n : Text} {f : Filter} (h : called t s n = some f) :
    n = s.qualified f.name :=
  of_decide_eq_true (List.find?_some (p := fun f : Filter => decide (n = s.qualified f.name)) h)

theorem called_eq_some_iff {n : Text} {f : Filter} :
    called t s n = some f ↔ t.contains f = true ∧ n = s.qualified f.name := by
  constructor
  · intro h
    exact ⟨FilterTable.mem_filters_iff.1 (List.mem_of_find?_eq_some h), eq_qualified_of_called h⟩
  · rintro ⟨hf, rfl⟩
    cases hfound : called t s (s.qualified f.name) with
    | none =>
      -- the filter itself is in the list, and has the name
      exact absurd rfl (called_eq_none_iff.1 hfound f (FilterTable.mem_filters_iff.2 hf))
    | some g =>
      -- what comes first under this name can only be the filter itself
      rw [s.qualified_name_injective (eq_qualified_of_called hfound)]

/-! ### The environment after registration -/

/-- **The filters.** Those of the table are found under their names, and all others as before. -/
theorem filters_register_eq (env : Environment) (n : Text) :
    (register env t s).value.filters n =
      match called t s n with
      | some f => some (filterBinding t s f)
      | none => env.filters n := by
  rw [filters_register]
  cases h : called t s n with
  | some f =>
    obtain ⟨hf, rfl⟩ := called_eq_some_iff.1 h
    exact filters_bindFilters_of_mem (FilterTable.mem_filters_iff.2 hf) env
  | none => exact filters_bindAll_of_ne (called_eq_none_iff.1 h) env

theorem functions_bindAll (fs : List Filter) (env : Environment) :
    (bindAll t s fs env).functions = env.functions := by
  induction fs generalizing env with
  | nil => rfl
  | cons f fs ih => exact ih _

theorem mode_bindAll (fs : List Filter) (env : Environment) :
    (bindAll t s fs env).mode = env.mode := by
  induction fs generalizing env with
  | nil => rfl
  | cons f fs ih => exact ih _

theorem mode_register (env : Environment) : (register env t s).value.mode = env.mode := by
  rw [value_register]
  exact mode_bindAll t.filters env

/-- **The functions.** The one that is bound last is asked for first. -/
theorem functions_register_eq (env : Environment) (n : Text) :
    (register env t s).value.functions n =
      if n = s.qualified "tag".toList then some (elementBinding Markup.element)
      else if n = s.qualified "image_tag".toList then some (elementBinding Markup.image)
      else if n = s.qualified "link_to".toList then some (linkBinding t.resolver)
      else env.functions n := by
  have hfilters : (bindFilters env t s).functions = env.functions := functions_bindAll t.filters env
  rw [value_register, ← hfilters]
  rfl

/-- Names of functions that differ do so behind a prefix. -/
theorem qualified_ne {name name' : Text} (h : name ≠ name') : s.qualified name ≠ s.qualified name' :=
  fun heq => h (List.append_cancel_left heq)

/-! ### What a bound filter does -/

theorem exists_expand_eq {f : Filter} (h : t.contains f = true) (body : List Text)
    (argument : Option Text) :
    ∃ out, (t.expand { filter := f, body, argument }).outcome = .ok out := by
  obtain ⟨expander, hexpander⟩ := Option.isSome_iff_exists.1 h
  exact ⟨_, FilterTable.outcome_expand hexpander⟩

theorem outcome_applyFilter_eq {f : Filter} {v : Value} {argument : Option Text} {out : Text}
    (h : (t.expand (blockOf s f v argument)).outcome = .ok out) :
    (applyFilter t s f v argument).outcome = .ok (.safeText out) := by
  rw [outcome_applyFilter, h]
  rfl

/-- An argument that is a text or missing is taken as it is. -/
theorem optionalText_ofText (argument : Option Text) :
    Argument.optionalText (argument.toList.map .ofText) = .ok (argument, []) := by
  cases argument <;> rfl

/-- A call from a template is an application of the filter, if the mode lets the value through. -/
theorem outcome_filterBinding_eq {f : Filter} {v : Value} {argument : Option Text} {out : Text}
    (h : (t.expand (blockOf s f v argument)).outcome = .ok out) {m : Mode}
    (hv : m.strict = false ∨ v.isUnset = false) :
    (filterBinding t s f m (v :: argument.toList.map .ofText)).outcome = .ok (.safeText out) := by
  have hpasses : (m.strict && v.isUnset) = false := by
    rcases hv with hv | hv <;> simp [hv]
  rw [outcome_filterBinding t s f hpasses (optionalText_ofText argument), h]
  rfl

end Registration

/-! ### What registration depends on -/

/-- Neither names nor lines depend on whether fragments are resolved. -/
theorem register_congr (env : Environment) (t : FilterTable) {s s' : Settings}
    (hname : s'.namePrefix = s.namePrefix) (hindent : s'.stripIndent = s.stripIndent)
    (hblank : s'.skipBlankLines = s.skipBlankLines) :
    (register env t s').value = (register env t s).value := by
  obtain ⟨namePrefix, resolveFragments, stripIndent, skipBlankLines⟩ := s
  obtain ⟨namePrefix', resolveFragments', stripIndent', skipBlankLines'⟩ := s'
  obtain rfl : namePrefix' = namePrefix := hname
  obtain rfl : stripIndent' = stripIndent := hindent
  obtain rfl : skipBlankLines' = skipBlankLines := hblank
  rw [value_register, value_register]
  rfl

/-- **Registration binds the filters of the table and three functions, and nothing else.** A name
calls a filter after registration exactly if the filter is in the table and the name is that of the
filter behind the prefix; then it is bound to that filter, and otherwise to what it was bound to
before. Of the functions, those that write links, images and elements are bound behind the prefix
and all others are kept. A bound filter succeeds on every value and argument and gives the table's
expansion of the block, marked as safe; so does a call from a template, unless the environment
forbids undefined values and the value is one, and is then not handed to the filter. Settings that
differ only in whether fragments are resolved bind the same. -/
theorem register_binds_exactly (env : Environment) (t : FilterTable) (s : Settings) :
    let env' := (register env t s).value
    ((∀ (n : Text) (f : Filter),
        called t s n = some f ↔ t.contains f = true ∧ n = s.qualified f.name) ∧
      ∀ n : Text, env'.filters n =
        match called t s n with
        | some f => some (filterBinding t s f)
        | none => env.filters n) ∧
    (env'.functions (s.qualified "link_to".toList) = some (linkBinding t.resolver) ∧
      env'.functions (s.qualified "image_tag".toList) = some (elementBinding Markup.image) ∧
      env'.functions (s.qualified "tag".toList) = some (elementBinding Markup.element) ∧
      ∀ n : Text, n ∉ ["link_to", "image_tag", "tag"].map (fun name => s.qualified name.toList) →
        env'.functions n = env.functions n) ∧
    env'.mode = env.mode ∧
    (∀ (f : Filter) (v : Value) (argument : Option Text), t.contains f = true →
      let body := if v.isAbsent then [] else s.splitBody v.text
      ∃ out, (t.expand { filter := f, body, argument }).outcome = .ok out ∧
        (applyFilter t s f v argument).outcome = .ok (.safeText out) ∧
        ∀ m : Mode, m.strict = false ∨ v.isUnset = false →
          (filterBinding t s f m (v :: argument.toList.map .ofText)).outcome =
            .ok (.safeText out)) ∧
    ∀ s' : Settings, s'.namePrefix = s.namePrefix → s'.stripIndent = s.stripIndent →
      s'.skipBlankLines = s.skipBlankLines → (register env t s').value = env' := by
  intro env'
  refine ⟨⟨fun n f => called_eq_some_iff, filters_register_eq env⟩, ⟨?_, ?_, ?_, ?_⟩,
    mode_register env, ?_, ?_⟩
  · rw [functions_register_eq, if_neg (qualified_ne (by decide)), if_neg (qualified_ne (by decide)),
      if_pos rfl]
  · rw [functions_register_eq, if_neg (qualified_ne (by decide)), if_pos rfl]
  · rw [functions_register_eq, if_pos rfl]
  · intro n hn
    simp only [List.map_cons, List.map_nil, List.mem_cons, List.not_mem_nil, or_false,
      not_or] at hn
    rw [functions_register_eq, if_neg hn.2.2, if_neg hn.2.1, if_neg hn.1]
  · intro f v argument hf body
    obtain ⟨out, hout⟩ := exists_expand_eq hf body argument
    exact ⟨out, hout, outcome_applyFilter_eq hout, fun m hv => outcome_filterBinding_eq hout hv⟩
  · intro s' hname hindent hblank
    exact register_congr env t hname hindent hblank

/-- A table without `js` is registered over the standard one: `js` keeps its earlier binding, and so
does a function of another name. In an environment that forbids undefined values, the end of a loop
is asked for by an argument. -/
theorem register_binds_exactly_sample :
    let s : Settings := { namePrefix := "t_".toList }
    let env := (register (Builtin.environment true) .standard s).value
    let t := (FilterTable.standard.erase .script).2
    let env' := (register env t s).value
    env'.filters "t_end".toList = some (filterBinding t s .close) ∧
      env'.filters "t_js".toList = env.filters "t_js".toList ∧
      env'.functions "range".toList = env.functions "range".toList ∧
      (applyFilter t s .close (.undefined false) (some "each".toList)).outcome =
        .ok (.safeText "<% \x7d); %>".toList) ∧
      (filterBinding t s .close ⟨true, true⟩ [.none, .ofText "each".toList]).outcome =
        .ok (.safeText "<% \x7d); %>".toList) ∧
      (register env t { s with resolveFragments := true }).value = env' := by
  intro s env t env'
  obtain ⟨⟨hcalled, hfilters⟩, ⟨-, -, -, hfunctions⟩, -, happly, hcongr⟩ :=
    register_binds_exactly env t s
  have hend : called t s "t_end".toList = some .close := (hcalled _ _).2 ⟨rfl, rfl⟩
  have hjs : called t s "t_js".toList = none := by decide
  have hloop : (t.expand { filter := .close, argument := some "each".toList }).outcome =
      .ok "<% \x7d); %>".toList := rfl
  obtain ⟨out, hout, hvalue, -⟩ := happly .close (.undefined false) (some "each".toList) rfl
  obtain ⟨out', hout', -, hcall⟩ := happly .close .none (some "each".toList) rfl
  obtain rfl : out = "<% \x7d); %>".toList := Except.ok.inj (hout.symm.trans hloop)
  obtain rfl : out' = "<% \x7d); %>".toList := Except.ok.inj (hout'.symm.trans hloop)
  refine ⟨?_, ?_, hfunctions _ (by decide), hvalue, hcall _ (.inr rfl), hcongr _ rfl rfl rfl⟩
  · rw [hfilters, hend]
  · rw [hfilters, hjs]

end Host

end Tagline
