import Tagline.Proofs.Binding
import Tagline.Proofs.Influence

/-!
# Tables and blocks

A block can be expanded by its own rules (`Block.renderNamed`, `Block.renderWith`) or by looking its
filter up in a table (`FilterTable.expandNamed`, `FilterTable.expand`). The two routes find the
filter of a name each in its own way and build the block anew, and the table of a resolver makes an
exception of `js` alone. They come to the same:

* `Filter.ofName_cases` — a name is that of one filter, or of none and rejected as it stands, and
  so it is for blocks (`Block.renderNamed_cases`);
* `outcome_expandNamed` — a table first finds the filter and then expands the block;
* `expandNamed_standard` — hence the standard table gives what the block gives by its name;
* `outcome_expand_withResolver` — the table of a resolver gives what the block gives with that
  resolver. For filters other than `js` the table holds the plain expander, and the resolver would
  not have been asked.
-/

namespace Tagline

/-! ### Names -/

namespace Filter

/-- The names of filters, in their order. -/
theorem map_name_all : all.map name =
    ["each", "endeach", "if", "elseif", "else", "end", "js"].map String.toList := rfl

theorem mem_map_name_all_iff {n : Text} : n ∈ all.map name ↔ ∃ f : Filter, f.name = n := by
  rw [List.mem_map]
  constructor
  · rintro ⟨f, -, hf⟩
    exact ⟨f, hf⟩
  · rintro ⟨f, hf⟩
    exact ⟨f, mem_all f, hf⟩

/-- A name is that of one filter, or of none and rejected as it stands. -/
theorem ofName_cases (n : Text) :
    (∃ f : Filter, f.name = n ∧ ofName n = .ok f) ∨
      n ∉ all.map name ∧ ofName n = .error ⟨n⟩ := by
  by_cases h : ∃ f : Filter, f.name = n
  · obtain ⟨f, rfl⟩ := h
    exact .inl ⟨f, rfl, ofName_name f⟩
  · refine .inr ⟨mt mem_map_name_all_iff.1 h, ?_⟩
    have hfind : all.find? (fun f => f.name == n) = none := by
      rw [List.find?_eq_none]
      intro f _ hf
      exact h ⟨f, by simpa using hf⟩
    unfold ofName
    rw [hfind]

end Filter

/-- A block is expanded by the name of its filter, or else the name is none and rejected. -/
theorem Block.renderNamed_cases (name : Text) (body : List Text) (argument : Option Text) :
    (name ∈ Filter.all.map Filter.name ∧ ∃ text, renderNamed name body argument = .ok text) ∨
      name ∉ Filter.all.map Filter.name ∧ renderNamed name body argument = .error ⟨name⟩ := by
  unfold renderNamed named
  rcases Filter.ofName_cases name with ⟨f, hf, hname⟩ | ⟨hmem, hname⟩
  · rw [hname]
    exact .inl ⟨Filter.mem_map_name_all_iff.2 ⟨f, hf⟩, _, rfl⟩
  · rw [hname]
    exact .inr ⟨hmem, rfl⟩

namespace FilterTable

/-! ### The standard table -/

theorem outcome_expandNamed (t : FilterTable) (name : Text) (body : List Text)
    (argument : Option Text) :
    (t.expandNamed name body argument).outcome =
      match Filter.ofName name with
      | .ok filter => (t.expand { filter, body, argument }).outcome
      | .error e => .error (.unknownFilter e) := by
  unfold expandNamed Block.named
  rw [Attempt.outcome_bind, Attempt.outcome_lift]
  cases Filter.ofName name with
  | ok filter =>
    -- the record of the look-up has no part in the outcome
    exact Attempt.outcome_bind _ _
  | error e => rfl

theorem outcome_expand_standard (b : Block) : (standard.expand b).outcome = .ok b.render :=
  outcome_expand rfl

/-- **The routes by name agree.** -/
theorem expandNamed_standard (name : Text) (body : List Text) (argument : Option Text) :
    (standard.expandNamed name body argument).outcome =
      (Block.renderNamed name body argument).mapError .unknownFilter := by
  rw [outcome_expandNamed]
  unfold Block.renderNamed Block.named
  cases Filter.ofName name with
  | ok filter => exact outcome_expand_standard _
  | error e => rfl

/-! ### The table of a resolver -/

theorem get?_withResolver (r : Resolver) (f : Filter) :
    (withResolver r).get? f = some (resolving r f) := rfl

/-- **The routes with a resolver agree.** -/
theorem outcome_expand_withResolver (r : Resolver) (b : Block) :
    ((withResolver r).expand b).outcome = .ok (b.renderWith r) := by
  rw [outcome_expand (get?_withResolver r b.filter)]
  unfold resolving
  by_cases hb : b.filter = .script
  · rw [if_pos hb]
    rfl
  · -- the plain expander, which gives the same since the block has no fragments
    have hfragments : ∀ code ∈ b.fragments,
        Resolver.settledBy none code = Resolver.settledBy (some r) code := by
      rw [Block.fragments_of_not_script hb]
      exact fun code hcode => absurd hcode List.not_mem_nil
    rw [if_neg hb, Block.value_expand_congr hfragments]
    rfl

/-- A resolver that fails on every fragment leaves all of them as they are. -/
theorem renderWith_of_fails {r : Resolver} (h : ∀ code, ∃ e, r code = .error e) (b : Block) :
    b.renderWith r = b.render := by
  apply Block.value_expand_congr
  intro code _
  obtain ⟨e, he⟩ := h code
  exact Resolver.settled_of_error he

/-- **A table and the blocks themselves agree.** By name, the standard table and the block give the
same text, or both reject the name; they reject exactly the names that are not one of the seven, to
the letter. The table of a resolver gives for every block what the block gives with that resolver,
and if the resolver fails on every fragment, that is what the standard table gives. -/
theorem routes_agree :
    (∀ (name : Text) (body : List Text) (argument : Option Text),
      ((∃ text, (standard.expandNamed name body argument).outcome = .ok text ∧
          Block.renderNamed name body argument = .ok text) ∨
        (standard.expandNamed name body argument).outcome = .error (.unknownFilter ⟨name⟩) ∧
          Block.renderNamed name body argument = .error ⟨name⟩) ∧
      ((standard.expandNamed name body argument).outcome = .error (.unknownFilter ⟨name⟩) ↔
        name ∉ ["each", "endeach", "if", "elseif", "else", "end", "js"].map String.toList)) ∧
    (∀ (r : Resolver) (b : Block), ((withResolver r).expand b).outcome = .ok (b.renderWith r)) ∧
    ∀ r : Resolver, (∀ code, ∃ e, r code = .error e) →
      ∀ b : Block, ((withResolver r).expand b).outcome = (standard.expand b).outcome := by
  refine ⟨?_, outcome_expand_withResolver, ?_⟩
  · intro name body argument
    rw [← Filter.map_name_all, expandNamed_standard]
    rcases Block.renderNamed_cases name body argument with ⟨hmem, text, htext⟩ | ⟨hmem, herror⟩
    · rw [htext]
      refine ⟨.inl ⟨text, rfl, rfl⟩, iff_of_false ?_ (not_not_intro hmem)⟩
      exact fun h => nomatch h
    · rw [herror]
      exact ⟨.inr ⟨rfl, rfl⟩, iff_of_true rfl hmem⟩
  · intro r h b
    rw [outcome_expand_withResolver, renderWith_of_fails h, outcome_expand_standard]

/-- A resolver that knows nothing, and a block that echoes a fragment. -/
theorem routes_agree_sample :
    let r : Resolver := fun code => .error (.undefined code)
    let b : Block := { filter := .script, body := ["= a".toList, "if b".toList] }
    ((withResolver r).expand b).outcome = (standard.expand b).outcome ∧
      (standard.expand b).outcome = .ok "<%= a %><% if(b) \x7b %>".toList := by
  intro r b
  obtain ⟨-, -, hfails⟩ := routes_agree
  exact ⟨hfails r (fun code => ⟨_, rfl⟩) b, rfl⟩

end FilterTable

end Tagline
