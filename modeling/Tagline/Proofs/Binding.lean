import Tagline.Host

/-!
# Filters bound into an environment

Binding a table adds its filters to an environment one after the other, each under its name with
the prefix of the settings. Names of different filters stay different behind a prefix
(`qualified_name_injective`), so that no filter takes the name of another, whatever the prefix is:

* `filters_bindAll_of_ne` — binding some filters leaves every other name alone;
* `filters_bindAll_of_mem` — hence the binding of a filter survives those that come after it;
* `filters_register` — and the functions that are bound at the end do not touch it.

A binding reads its arguments, expands the block that they stand for, and marks the text as safe
(`outcome_filterBinding`).
-/

namespace Tagline

open Template

theorem Filter.ofName_name (f : Filter) : Filter.ofName f.name = .ok f := by
  cases f <;> rfl

/-- No two filters have the same name, since each is found by its own. -/
theorem Filter.name_injective : Function.Injective Filter.name := by
  intro f g h
  have hf := Filter.ofName_name f
  rw [h, Filter.ofName_name] at hf
  exact (Except.ok.inj hf).symm

theorem Filter.mem_all (f : Filter) : f ∈ Filter.all := by
  cases f <;> decide

/-- A prefix keeps the names of filters apart. -/
theorem Settings.qualified_name_injective (s : Settings) :
    Function.Injective fun f : Filter => s.qualified f.name := by
  intro f g h
  exact Filter.name_injective (List.append_cancel_left h)

namespace FilterTable

theorem mem_filters_iff {t : FilterTable} {f : Filter} :
    f ∈ t.filters ↔ t.contains f = true := by
  unfold filters
  rw [List.mem_filter]
  exact and_iff_right (Filter.mem_all f)

theorem outcome_expand {t : FilterTable} {b : Block} {expander : Expander}
    (h : t.get? b.filter = some expander) : (t.expand b).outcome = .ok (expander b).value := by
  unfold expand
  rw [h]
  rfl

end FilterTable

namespace Host

/-! ### Looking a filter up -/

section Lookup

variable {t : FilterTable} {s : Settings}

theorem filters_bindAll_of_ne {n : Text} {fs : List Filter}
    (h : ∀ f ∈ fs, n ≠ s.qualified f.name) (env : Environment) :
    (bindAll t s fs env).filters n = env.filters n := by
  induction fs generalizing env with
  | nil => rfl
  | cons g fs ih =>
    obtain ⟨hg, hfs⟩ := List.forall_mem_cons.1 h
    show (bindAll t s fs (env.bindFilter _ _)).filters n = _
    rw [ih hfs, Environment.filters_bindFilter, if_neg hg]

theorem filters_bindAll_of_mem {f : Filter} {fs : List Filter} (h : f ∈ fs) (env : Environment) :
    (bindAll t s fs env).filters (s.qualified f.name) = some (filterBinding t s f) := by
  induction fs generalizing env with
  | nil => exact absurd h List.not_mem_nil
  | cons g fs ih =>
    show (bindAll t s fs (env.bindFilter _ _)).filters _ = _
    by_cases hmem : f ∈ fs
    · exact ih hmem _
    · -- bound last here: the filters that follow have other names
      obtain rfl : f = g := (List.mem_cons.1 h).resolve_right hmem
      have hne : ∀ g ∈ fs, s.qualified f.name ≠ s.qualified g.name := by
        intro g hg heq
        exact hmem (s.qualified_name_injective heq ▸ hg)
      rw [filters_bindAll_of_ne hne, Environment.filters_bindFilter, if_pos rfl]

theorem filters_bindFilters_of_mem {f : Filter} (h : f ∈ t.filters) (env : Environment) :
    (bindFilters env t s).filters (s.qualified f.name) = some (filterBinding t s f) :=
  filters_bindAll_of_mem h env

theorem value_register (env : Environment) :
    (register env t s).value = bindFunctions (bindFilters env t s) t s := by
  unfold register
  split <;> rfl

/-- The functions are bound apart from the filters. -/
theorem filters_register (env : Environment) :
    (register env t s).value.filters = (bindFilters env t s).filters := by
  rw [value_register]
  rfl

end Lookup

/-! ### Calling a filter -/

theorem outcome_applyFilter (t : FilterTable) (s : Settings) (f : Filter) (v : Value)
    (argument : Option Text) :
    (applyFilter t s f v argument).outcome =
      ((t.expand (blockOf s f v argument)).outcome.mapError Failure.toError).map .safeText := by
  unfold applyFilter
  rw [Run.outcome_bind, Attempt.outcome_toRun]
  cases (t.expand (blockOf s f v argument)).outcome <;> rfl

/-- **What a binding gives.** If the mode lets the first value through and what follows it is a text
or nothing, the binding expands the block that the two stand for and marks the text as safe. -/
theorem outcome_filterBinding (t : FilterTable) (s : Settings) (f : Filter) {m : Mode} {v : Value}
    (hv : (m.strict && v.isUnset) = false) {rest : List Value} {argument : Option Text}
    (h : Argument.optionalText rest = .ok (argument, [])) :
    (filterBinding t s f m (v :: rest)).outcome =
      ((t.expand (blockOf s f v argument)).outcome.mapError Failure.toError).map .safeText := by
  have hvalue : Argument.value m (v :: rest) = .ok (v, rest) :=
    if_neg (by rw [hv]; exact Bool.false_ne_true)
  rw [← outcome_applyFilter]
  unfold filterBinding
  rw [Run.outcome_bind, Run.outcome_lift, hvalue]
  show (Run.lift (Argument.optionalText rest) >>= _).outcome = _
  rw [Run.outcome_bind, Run.outcome_lift, h]
  rfl

end Host

end Tagline
