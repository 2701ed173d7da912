import Tagline.Proofs.Binding

/-!
# The history of a table

The entries of a table are changed one at a time, by giving a filter an expander or by taking its
expander away. After any number of changes, what the table holds for a filter is a matter of the
last change that was about it, and of nothing else: neither of the changes about other filters nor
of the order between the two.

* `Change.make` — one change, with the entry that it returns; `after` and `returned` are those of
  a list of changes;
* `get?_make` — one change writes the entry of its own filter and keeps the others;
* `get?_after` — hence the entry of a filter is what the last change about it left, or what was
  there before all of them;
* `after_congr` — hence two lists with the same changes about each single filter lead to the same
  table.

The resolver of a table is no entry, and no change reaches it (`resolver_after`).
-/

namespace Tagline

namespace FilterTable

/-- A change of the entries of a table. -/
inductive Change where
  | insert (f : Filter) (expander : Expander)
  | erase (f : Filter)

namespace Change

/-- The filter whose entry is changed. -/
def filter : Change → Filter
  | .insert f _ => f
  | .erase f => f

/-- The entry that a change leaves. -/
def entry : Change → Option Expander
  | .insert _ expander => some expander
  | .erase _ => none

/-- Makes a change, and gives what it returns with the table after it. -/
def make (t : FilterTable) : Change → Option Expander × FilterTable
  | .insert f expander => t.insert f expander
  | .erase f => t.erase f

end Change

/-- The table after some changes, made one after the other. -/
def after (t : FilterTable) : List Change → FilterTable
  | [] => t
  | c :: cs => (c.make t).2.after cs

/-- What some changes return, each when its turn comes. -/
def returned (t : FilterTable) : List Change → List (Option Expander)
  | [] => []
  | c :: cs => (c.make t).1 :: (c.make t).2.returned cs

/-- The changes about one filter, in their order. -/
def changesOf (f : Filter) (cs : List Change) : List Change := cs.filter fun c => c.filter = f

theorem changesOf_cons_of_eq {f : Filter} {c : Change} (h : c.filter = f) (cs : List Change) :
    changesOf f (c :: cs) = c :: changesOf f cs :=
  List.filter_cons_of_pos (by simpa using h)

theorem changesOf_cons_of_ne {f : Filter} {c : Change} (h : c.filter ≠ f) (cs : List Change) :
    changesOf f (c :: cs) = changesOf f cs :=
  List.filter_cons_of_neg (by simpa using h)

/-! ### One change -/

theorem get?_make (t : FilterTable) (c : Change) (f : Filter) :
    (c.make t).2.get? f = if f = c.filter then c.entry else t.get? f := by
  cases c with
  | insert g expander => exact get?_insert t g f expander
  | erase g => exact get?_erase t g f

/-- A change returns the entry that it writes over. -/
theorem make_fst (t : FilterTable) (c : Change) : (c.make t).1 = t.get? c.filter := by
  cases c <;> rfl

theorem resolver_make (t : FilterTable) (c : Change) : (c.make t).2.resolver = t.resolver := by
  cases c with
  | insert g expander => exact resolver_set t g (some expander)
  | erase g => exact resolver_set t g none

/-! ### Many changes -/

theorem after_append (t : FilterTable) (cs cs' : List Change) :
    t.after (cs ++ cs') = (t.after cs).after cs' := by
  induction cs generalizing t with
  | nil => rfl
  | cons c cs ih => exact ih (c.make t).2

theorem resolver_after (t : FilterTable) (cs : List Change) :
    (t.after cs).resolver = t.resolver := by
  induction cs generalizing t with
  | nil => rfl
  | cons c cs ih =>
    show ((c.make t).2.after cs).resolver = _
    rw [ih, resolver_make]

/-- **The last change decides.** -/
theorem get?_after (t : FilterTable) (cs : List Change) (f : Filter) :
    (t.after cs).get? f =
      match (changesOf f cs).getLast? with
      | some c => c.entry
      | none => t.get? f := by
  induction cs generalizing t with
  | nil => rfl
  | cons c cs ih =>
    -- `c` is overruled by the changes after it that are about `f`, if there are any
    have hcons : (t.after (c :: cs)).get? f = ((c.make t).2.after cs).get? f := rfl
    rw [hcons, ih, get?_make]
    by_cases hc : f = c.filter
    · rw [changesOf_cons_of_eq hc.symm, List.getLast?_cons, if_pos hc]
      cases (changesOf f cs).getLast? <;> rfl
    · rw [changesOf_cons_of_ne (Ne.symm hc), if_neg hc]

theorem changesOf_eq_nil {f : Filter} {cs : List Change} (h : ∀ c ∈ cs, c.filter ≠ f) :
    changesOf f cs = [] := by
  unfold changesOf
  rw [List.filter_eq_nil_iff]
  intro c hc
  simpa using h c hc

theorem get?_after_of_untouched (t : FilterTable) {cs : List Change} {f : Filter}
    (h : ∀ c ∈ cs, c.filter ≠ f) : (t.after cs).get? f = t.get? f := by
  rw [get?_after, changesOf_eq_nil h]
  rfl

/-- A change is the last word on its filter, if none about that filter follows. -/
theorem get?_after_of_last (t : FilterTable) (earlier : List Change) (c : Change)
    {later : List Change} (h : ∀ d ∈ later, d.filter ≠ c.filter) :
    (t.after (earlier ++ c :: later)).get? c.filter = c.entry := by
  have happ : t.after (earlier ++ c :: later) = (c.make (t.after earlier)).2.after later := by
    rw [after_append]
    rfl
  rw [happ, get?_after_of_untouched _ h, get?_make, if_pos rfl]

theorem length_returned (t : FilterTable) (cs : List Change) :
    (t.returned cs).length = cs.length := by
  induction cs generalizing t with
  | nil => rfl
  | cons c cs ih => exact congrArg (· + 1) (ih _)

/-- Each change returns what its filter had right before it. -/
theorem getElem?_returned (t : FilterTable) (earlier : List Change) (c : Change)
    (later : List Change) :
    (t.returned (earlier ++ c :: later))[earlier.length]? =
      some ((t.after earlier).get? c.filter) := by
  induction earlier generalizing t with
  | nil => exact congrArg some (make_fst t c)
  | cons d earlier ih => exact ih (d.make t).2

/-- **The order between filters does not matter.** A table is given by what was done about each
single filter. -/
theorem after_congr (t : FilterTable) {cs cs' : List Change}
    (h : ∀ f, changesOf f cs = changesOf f cs') : t.after cs = t.after cs' := by
  have hentries : (t.after cs).entries = (t.after cs').entries := by
    funext f
    show (t.after cs).get? f = (t.after cs').get? f
    rw [get?_after, get?_after, h f]
  have hresolver : (t.after cs).resolver = (t.after cs').resolver := by
    rw [resolver_after, resolver_after]
  exact FilterTable.mk.injEq _ _ _ _ ▸ ⟨hentries, hresolver⟩

/-! ### What a table shows -/

theorem mem_filters_iff_exists {t : FilterTable} {f : Filter} :
    f ∈ t.filters ↔ ∃ expander, t.get? f = some expander := by
  rw [mem_filters_iff]
  exact Option.isSome_iff_exists

/-- The filters of a table are listed in the order of filters, and none of them twice. -/
theorem pairwise_filters (t : FilterTable) : t.filters.Pairwise fun f g => f.rank < g.rank :=
  Filter.pairwise_all.filter _

theorem outcome_expand_of_none {t : FilterTable} {b : Block} (h : t.get? b.filter = none) :
    (t.expand b).outcome = .error (.notRegistered b.filter) := by
  unfold expand
  rw [h]
  rfl

/-- **A table is its history.** After any changes, the entry of a filter is what the last change
about it left, and the entry of a filter that no change was about is that of the table at the
start; each change returned the entry of its filter right before it; the lists of filters and
names and the expansion of blocks all follow the entries; the resolver is that of the start. Two
histories with the same changes about each filter expand every block alike. -/
theorem history_decides (t : FilterTable) (cs : List Change) :
    (∀ (f : Filter) (earlier later : List Change) (expander : Expander),
      cs = earlier ++ .insert f expander :: later → (∀ c ∈ later, c.filter ≠ f) →
        (t.after cs).get? f = some expander) ∧
    (∀ (f : Filter) (earlier later : List Change),
      cs = earlier ++ .erase f :: later → (∀ c ∈ later, c.filter ≠ f) →
        (t.after cs).get? f = none) ∧
    (∀ f : Filter, (∀ c ∈ cs, c.filter ≠ f) → (t.after cs).get? f = t.get? f) ∧
    ((t.returned cs).length = cs.length ∧
      ∀ (earlier later : List Change) (c : Change), cs = earlier ++ c :: later →
        (t.returned cs)[earlier.length]? = some ((t.after earlier).get? c.filter)) ∧
    ((∀ f : Filter, f ∈ (t.after cs).filters ↔ ∃ expander, (t.after cs).get? f = some expander) ∧
      (∀ f : Filter, (t.after cs).contains f = true ↔ f ∈ (t.after cs).filters) ∧
      ((t.after cs).filters.Pairwise fun f g => f.rank < g.rank) ∧
      (t.after cs).names = (t.after cs).filters.map Filter.name) ∧
    (∀ b : Block,
      (∀ expander, (t.after cs).get? b.filter = some expander →
        ((t.after cs).expand b).outcome = .ok (expander b).value) ∧
      ((t.after cs).get? b.filter = none →
        ((t.after cs).expand b).outcome = .error (.notRegistered b.filter))) ∧
    (t.after cs).resolver = t.resolver ∧
    ∀ cs' : List Change, (∀ f, changesOf f cs = changesOf f cs') →
      ∀ b : Block, (t.after cs).expand b = (t.after cs').expand b := by
  refine ⟨?_, ?_, ?_, ⟨length_returned t cs, ?_⟩,
    ⟨fun f => mem_filters_iff_exists, fun f => mem_filters_iff.symm, pairwise_filters _, rfl⟩, ?_,
    resolver_after t cs, ?_⟩
  · rintro f earlier later expander rfl h
    exact get?_after_of_last t earlier (.insert f expander) h
  · rintro f earlier later rfl h
    exact get?_after_of_last t earlier (.erase f) h
  · intro f h
    exact get?_after_of_untouched t h
  · rintro earlier later c rfl
    exact getElem?_returned t earlier c later
  · intro b
    exact ⟨fun expander h => outcome_expand h, outcome_expand_of_none⟩
  · intro cs' h b
    rw [after_congr t h]

/-- The loop end is given another expander and `else` is taken away, given one and taken away
again; the conditional is left alone, and so is the resolver. The two changes about different
filters may as well be made the other way round. -/
theorem history_decides_sample :
    let r : Resolver := fun code => .error (.undefined code)
    let bare : Expander := fun _ => pure "<% \x7d) %>".toList
    let t := FilterTable.withResolver r
    let cs : List Change :=
      [.erase .otherwise, .insert .endEach bare, .insert .otherwise bare, .erase .otherwise]
    (t.after cs).get? .endEach = some bare ∧
      (t.after cs).get? .otherwise = none ∧
      (t.after cs).get? .ifThen = t.get? .ifThen ∧
      (t.returned cs)[3]? = some ((t.after (cs.take 3)).get? .otherwise) ∧
      ((t.after cs).expand { filter := .otherwise }).outcome =
        .error (.notRegistered .otherwise) ∧
      (t.after cs).expand { filter := .endEach } =
        (t.after [.insert .endEach bare, .erase .otherwise, .insert .otherwise bare,
          .erase .otherwise]).expand { filter := .endEach } := by
  intro r bare t cs
  obtain ⟨hinsert, herase, huntouched, ⟨-, hreturned⟩, -, hexpand, -, hcongr⟩ :=
    history_decides t cs
  have hotherwise : (t.after cs).get? .otherwise = none :=
    herase .otherwise [.erase .otherwise, .insert .endEach bare, .insert .otherwise bare] [] rfl
      (by simp)
  refine ⟨?_, hotherwise, ?_, ?_, (hexpand _).2 hotherwise, ?_⟩
  · exact hinsert .endEach [.erase .otherwise] [.insert .otherwise bare, .erase .otherwise] bare rfl
      (by simp [Change.filter])
  · exact huntouched .ifThen (by simp [cs, Change.filter])
  · exact hreturned (cs.take 3) [] (.erase .otherwise) rfl
  · apply hcongr
    intro f
    cases f <;> rfl

end FilterTable

end Tagline
