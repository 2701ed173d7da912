import Tagline.Proofs.Yaml.FlatMapping
import Tagline.Yaml.Value

/-!
# The tree and the value of a flat mapping

The tokens of a flat mapping form one mapping of scalars. Read with types of their own, the scalars
in quotes are strings and the words are what they show; a key that is there already is an error
then, so the keys are told apart here.

* `document_text` — the tree of a flat mapping, with the entries in their order;
* `ofText_text` — its value, if the keys are strings and no two of them are the same.
-/

namespace Tagline

namespace Yaml

namespace Flat

/-! ### The tree -/

/-- The nodes of an entry. -/
def Entry.nodes (e : Entry) : Node × Node :=
  (.scalar none .plain e.key, .scalar none e.value.style e.value.text)

/-- A scalar without anchor and tag is a node. -/
theorem node_scalar (block atKey : Bool) (fuel : Nat) (b : Builder) (style : Style) (s : Text)
    (ts : List Token) :
    Builder.node block atKey (fuel + 1) { b with tokens := .scalar style s :: ts } =
      .ok (.scalar none style s, { b with tokens := ts }) := by
  rw [Builder.node]
  rfl

/-- One entry is read off the front. -/
theorem blockMapping_entry (e : Entry) (fuel : Nat) (b : Builder) (ts : List Token) :
    Builder.blockMapping (fuel + 2) { b with tokens := e.tokens ++ ts } =
      (Builder.blockMapping (fuel + 1) { b with tokens := ts }).map
        fun r => (e.nodes :: r.1, r.2) := by
  have hkey := node_scalar true true fuel b .plain e.key
    (.value :: .scalar e.value.style e.value.text :: ts)
  have hvalue := node_scalar true true fuel b e.value.style e.value.text ts
  have htokens : e.tokens ++ ts = .key :: .scalar .plain e.key :: .value ::
      .scalar e.value.style e.value.text :: ts := rfl
  rw [htokens, Builder.blockMapping]
  show (Builder.node true true (fuel + 1) { b with tokens := _ :: _ } >>= _) = _
  rw [hkey]
  dsimp only [bind, Except.bind]
  -- a scalar stands behind the colon, so the value is not left out
  rw [if_neg (by exact Bool.false_ne_true), hvalue]
  dsimp only
  cases Builder.blockMapping (fuel + 1) { b with tokens := ts } <;> rfl

/-- All entries are read, up to the end of the mapping. -/
theorem blockMapping_entries {es : List Entry} {fuel : Nat} (hfuel : es.length + 1 < fuel)
    (b : Builder) (ts : List Token) :
    Builder.blockMapping fuel
        { b with tokens := es.flatMap Entry.tokens ++ .blockEnd :: ts } =
      .ok (es.map Entry.nodes, { b with tokens := ts }) := by
  induction es generalizing fuel with
  | nil =>
    obtain ⟨fuel, rfl⟩ : ∃ more, fuel = more + 1 := ⟨fuel - 1, by omega⟩
    rw [Builder.blockMapping]
    rfl
  | cons e es ih =>
    rw [List.length_cons] at hfuel
    obtain ⟨fuel, rfl⟩ : ∃ more, fuel = more + 2 := ⟨fuel - 2, by omega⟩
    rw [List.flatMap_cons, List.append_assoc, blockMapping_entry, ih (by omega)]
    rfl

theorem length_le_tokens (es : List Entry) : es.length ≤ (es.flatMap Entry.tokens).length := by
  induction es with
  | nil => exact Nat.le_refl 0
  | cons e es ih =>
    have htokens : e.tokens.length = 4 := rfl
    rw [List.flatMap_cons, List.length_append, List.length_cons]
    omega

/-- The root is the mapping of all entries, and nothing is left behind it. -/
theorem root_entries (es : List Entry) :
    Builder.root { tokens := .blockMappingStart :: (es.flatMap Entry.tokens ++ [.blockEnd]) } =
      .ok (some (.mapping none (es.map Entry.nodes)), { tokens := [] }) := by
  have hroot : ∀ ts, Builder.root { tokens := .blockMappingStart :: ts } =
      Builder.node true false (2 * (ts.length + 1) + 1 + 1) { tokens := .blockMappingStart :: ts }
        >>= fun r => .ok (some r.1, r.2) := fun _ => rfl
  have hnode : ∀ fuel ts, Builder.node true false (fuel + 1)
      { tokens := .blockMappingStart :: ts } =
      Builder.blockMapping fuel { tokens := ts } >>= fun r => .ok (.mapping none r.1, r.2) := by
    intro fuel ts
    rw [Builder.node]
    rfl
  -- an entry has more than one token, so no key is too deep
  have hlength := length_le_tokens es
  rw [hroot, hnode, blockMapping_entries (by rw [List.length_append]; omega) { tokens := [] } []]
  rfl

/-- **The tree of a flat mapping.** -/
theorem document_text {last : Text} (hlast : last = [] ∨ last = ['\n']) {es : List Entry}
    (hes : es ≠ []) :
    document (text last es) = .ok ⟨some (.mapping none (es.map Entry.nodes)), []⟩ := by
  have hanchors : ({ tokens := [] } : Builder).anchorTable = [] := by simp [Builder.anchorTable]
  unfold document
  rw [tokens_text hlast hes]
  show (Builder.root { tokens := .blockMappingStart :: (es.flatMap Entry.tokens ++ [.blockEnd]) }
    >>= _) = _
  rw [root_entries]
  dsimp only [bind, Except.bind]
  rw [hanchors]
  rfl

/-! ### The value -/

/-- A scalar has the value that its style and its text show. -/
theorem ofNode_scalar {style : Style} {s : Text} {v : Value}
    (h : Value.ofScalar none style s = .ok v) (anchors : List (Nat × Node)) (depth : Nat) :
    Value.ofNode anchors depth (.scalar none style s) = pure v := by
  have htagged : Value.ofTagged none style s = .ok v := h
  have hlift : (liftM (Value.ofTagged none style s) : Following Value) = pure v := by
    rw [htagged]
    rfl
  cases depth with
  | zero => exact hlift
  | succ depth => exact hlift

theorem find?_concat {k l v : Value} {done : List (Value × Value)}
    (hdone : Value.find? k done = none) (h : Value.same k l = false) :
    Value.find? k (done ++ [(l, v)]) = none := by
  unfold Value.find? at hdone ⊢
  rw [Option.map_eq_none_iff] at hdone ⊢
  rw [List.find?_append, hdone, Option.none_or, List.find?_cons, h]
  rfl

section Value

variable {es : List Entry} {value : Entry → Value}
  (hkey : ∀ e ∈ es, Value.ofScalar none .plain e.key = .ok (.string e.key))
  (hvalue : ∀ e ∈ es, Value.ofScalar none e.value.style e.value.text = .ok (value e))
  (hdistinct : (es.map Entry.key).Nodup)

include hkey hvalue hdistinct

/-- Entries whose keys are new are added one by one. -/
theorem entriesWith_entries (done : List (Value × Value))
    (hdone : ∀ e ∈ es, Value.find? (.string e.key) done = none) (depth : Nat) :
    entriesWith (Value.ofNode [] depth) done (es.map Entry.nodes) =
      pure (done ++ es.map fun e => (.string e.key, value e)) := by
  induction es generalizing done with
  | nil => rw [List.map_nil, List.map_nil, List.append_nil, entriesWith]
  | cons e es ih =>
    obtain ⟨hk, hkey⟩ := List.forall_mem_cons.1 hkey
    obtain ⟨hv, hvalue⟩ := List.forall_mem_cons.1 hvalue
    obtain ⟨hnew, hdone⟩ := List.forall_mem_cons.1 hdone
    obtain ⟨hother, hdistinct⟩ := List.nodup_cons.1 hdistinct
    -- the later keys are not there yet, since they differ from this one too
    have hmore : ∀ f ∈ es,
        Value.find? (.string f.key) (done ++ [(.string e.key, value e)]) = none := by
      intro f hf
      refine find?_concat (hdone f hf) ?_
      rw [Value.same]
      exact beq_false_of_ne fun heq => hother (heq ▸ List.mem_map_of_mem hf)
    have hrest := ih hkey hvalue hdistinct _ hmore
    show entriesWith _ done ((.scalar none .plain e.key, .scalar none _ _) :: _) = _
    rw [entriesWith, ofNode_scalar hk, ofNode_scalar hv, pure_bind, hnew, List.map_cons,
      List.append_cons, ← hrest]
    simp

/-- **The value of a flat mapping.** -/
theorem ofText_text {last : Text} (hlast : last = [] ∨ last = ['\n']) (hes : es ≠ []) :
    Value.ofText (text last es) = .ok (.mapping (es.map fun e => (.string e.key, value e))) := by
  have hentries := entriesWith_entries hkey hvalue hdistinct [] (fun _ _ => rfl) 127
  have hnode : Value.ofNode [] (127 + 1) (.mapping none (es.map Entry.nodes)) =
      entriesWith (Value.ofNode [] 127) [] (es.map Entry.nodes) >>=
        fun vs => pure (.mapping vs) := by
    rw [Value.ofNode]
    rfl
  unfold Value.ofText
  rw [document_text hlast hes]
  show (Value.ofNode [] (127 + 1) (.mapping none (es.map Entry.nodes))).run' _ = _
  rw [hnode, hentries]
  rfl

end Value

end Flat

end Yaml

end Tagline
