import Tagline.Proofs.OptionsBlock
import Tagline.Proofs.Template.BlockSource
import Tagline.Proofs.Yaml.FlatDocument

/-!
# Options of a loop by name

The block of the filter `each` is a mapping with a name under `collection` and one under `item`. The
value of a mapping has types, though, and a name is written back from its value: a word for nothing
gives no name at all, and a word for a truth value gives the usual spelling of that value. All other
names are kept as they are written.

* `Yaml.ofPlain_name` — what a name shows when it is read as a plain scalar: never a number;
* `LoopNames.ofText_flat` — the names in a flat mapping of any number of entries, in any order;
* `LoopNames.ofText_named_options` — the names in a block of the two options, and exactly which ones
  come out, there and in the tag of the block, as they are written.
-/

namespace Tagline

/-! ### Names as plain scalars -/

namespace Yaml

/-- The value of a plain word that is no number. -/
def wordValue (w : Text) : Value :=
  if isNull w then .null
  else match bool? w with
    | some b => .bool b
    | none => .string w

section Start

variable {c : Char} (hc : Template.isNameStart c = true) (s : Text)

include hc

/-- The first character of a name is no decimal digit, though it may be one of a larger base. -/
theorem digitIn?_of_isNameStart : Number.digitIn? 10 c = none := by
  have hrange := Template.toNat_of_isNameStart hc
  have hdigit : ¬ ('0' ≤ c ∧ c ≤ '9') := by
    rintro ⟨-, hle⟩
    have hle' : c.toNat ≤ 57 := hle
    omega
  unfold Number.digitIn? Number.digitValue?
  -- a letter that has a value is worth ten or more
  rw [if_neg hdigit, Option.filter_eq_none_iff]
  intro n hn
  rw [decide_eq_true_eq]
  split at hn
  · next h =>
    have hle : 97 ≤ c.toNat := h.1
    cases hn
    omega
  · split at hn
    · next h =>
      have hle : 65 ≤ c.toNat := h.1
      cases hn
      omega
    · exact nomatch hn

/-- It is none of the characters that may begin a number besides the digits from one on. -/
theorem ne_signs_of_isNameStart : c ≠ '-' ∧ c ≠ '+' ∧ c ≠ '.' ∧ c ≠ '0' :=
  ⟨Template.ne_of_isNameStart hc (by decide), Template.ne_of_isNameStart hc (by decide),
    Template.ne_of_isNameStart hc (by decide), Template.ne_of_isNameStart hc (by decide)⟩

theorem hasLeadingZero_of_isNameStart : hasLeadingZero (c :: s) = false := by
  obtain ⟨hminus, hplus, -, hzero⟩ := ne_signs_of_isNameStart hc
  have hsign : dropSign (c :: s) = c :: s := by simp [dropSign, hminus, hplus]
  unfold hasLeadingZero
  rw [hsign]
  simp [hzero]

theorem int?_of_isNameStart : int? (c :: s) = none := by
  obtain ⟨hminus, hplus, -, hzero⟩ := ne_signs_of_isNameStart hc
  have hbased : readBased? (c :: s) = none := by simp [readBased?, hzero]
  have hdecimal : Number.readNat? 10 (c :: s) = none := by
    show (Number.digitIn? 10 c).bind _ = none
    rw [digitIn?_of_isNameStart hc]
    rfl
  simp [int?, hminus, hplus, hbased, hdecimal]

theorem readFloat?_of_isNameStart : Number.readFloat? (c :: s) = none := by
  obtain ⟨hminus, hplus, hpoint, -⟩ := ne_signs_of_isNameStart hc
  have hread : Number.Decimal.read? (c :: s) = none := by
    simp [Number.Decimal.read?, Template.isDigit_of_isNameStart hc, hpoint]
  simp [Number.readFloat?, hminus, hplus, hread]

theorem float?_of_isNameStart : float? (c :: s) = none := by
  obtain ⟨hminus, hplus, hpoint, -⟩ := ne_signs_of_isNameStart hc
  have hread := readFloat?_of_isNameStart hc s
  simp [float?, hminus, hplus, hpoint, hread]

end Start

theorem isWord_of_isName {w : Text} (hw : Template.IsName w) : Flat.IsWord w := by
  cases w with
  | nil => exact hw.elim
  | cons c s =>
    obtain ⟨hc, hs⟩ := hw
    exact ⟨List.cons_ne_nil c s,
      List.forall_mem_cons.2 ⟨Template.isNameChar_of_isNameStart hc, hs⟩⟩

/-- **A name shows no number.** -/
theorem ofPlain_name {w : Text} (hw : Template.IsName w) : Value.ofPlain w = .ok (wordValue w) := by
  cases w with
  | nil => exact hw.elim
  | cons c s =>
    have hc := hw.1
    unfold Value.ofPlain wordValue
    rw [List.isEmpty_cons, Bool.false_or, int?_of_isNameStart hc, hasLeadingZero_of_isNameStart hc,
      float?_of_isNameStart hc]
    by_cases hnull : isNull (c :: s) = true
    · rw [if_pos hnull, if_pos hnull]
    · rw [if_neg hnull, if_neg hnull]
      cases bool? (c :: s) <;> rfl

/-- The words that stand for something else than themselves. -/
def typedWords : List Text :=
  ["null", "Null", "NULL", "true", "True", "TRUE", "false", "False", "FALSE"].map String.toList

/-- All other names stand for themselves. -/
theorem wordValue_of_not_mem {w : Text} (hw : Template.IsName w) (h : w ∉ typedWords) :
    wordValue w = .string w := by
  have hne : ∀ t ∈ typedWords, (w == t) = false := by
    intro t ht
    exact beq_false_of_ne fun heq => h (heq ▸ ht)
  have hmark : (w == "~".toList) = false := by
    refine beq_false_of_ne ?_
    rintro rfl
    exact absurd hw (by decide)
  have hnull : isNull w = false := by
    unfold isNull
    rw [hne _ (by decide), hne _ (by decide), hne _ (by decide), hmark]
    rfl
  have hbool : bool? w = none := by
    unfold bool?
    rw [hne _ (by decide), hne _ (by decide), hne _ (by decide), hne _ (by decide),
      hne _ (by decide), hne _ (by decide)]
    rfl
  unfold wordValue
  rw [hnull, hbool]
  rfl

end Yaml

/-! ### The names in a flat mapping -/

namespace LoopNames

/-- The name that a word gives: none for nothing, and the usual spelling of a truth value. -/
def wordName? (w : Text) : Option Text :=
  if Yaml.isNull w then none else some ((Yaml.bool? w).elim w Yaml.boolText)

theorem scalarName?_wordValue (w : Text) : scalarName? (Yaml.wordValue w) = wordName? w := by
  unfold Yaml.wordValue wordName?
  by_cases hnull : Yaml.isNull w = true
  · rw [if_pos hnull, if_pos hnull]
    rfl
  · rw [if_neg hnull, if_neg hnull]
    cases Yaml.bool? w <;> rfl

/-- The names that are not kept: those for nothing, and all but one for each truth value. -/
def unkept : List Text :=
  ["null", "Null", "NULL", "True", "TRUE", "False", "FALSE"].map String.toList

/-- **All other names are kept.** -/
theorem wordName?_eq_some_iff {w : Text} (hw : Template.IsName w) :
    wordName? w = some w ↔ w ∉ unkept := by
  have hwords : ∀ w ∈ Yaml.typedWords, (wordName? w = some w ↔ w ∉ unkept) := by decide
  have hsubset : unkept ⊆ Yaml.typedWords := by decide
  by_cases htyped : w ∈ Yaml.typedWords
  · exact hwords w htyped
  · -- a word that stands for itself gives itself
    have hname : wordName? w = some w := by
      rw [← scalarName?_wordValue, Yaml.wordValue_of_not_mem hw htyped]
      rfl
    exact iff_of_true hname fun hmem => htyped (hsubset hmem)

/-- The name under a key of a flat mapping. -/
def flatName? (es : List Yaml.Flat.Entry) (key : Text) : Option Text :=
  (es.find? fun e => key == e.key).bind fun e => wordName? e.value.text

theorem value_nameAt (entries : List (Yaml.Value × Yaml.Value)) (key : Text) :
    (nameAt entries key).value = (Yaml.Value.find? (.string key) entries).bind scalarName? := by
  unfold nameAt
  cases Yaml.Value.find? (.string key) entries <;> rfl

theorem value_nameAt_flat (es : List Yaml.Flat.Entry) (key : Text) :
    (nameAt (es.map fun e => (.string e.key, Yaml.wordValue e.value.text)) key).value =
      flatName? es key := by
  have hsame : ((fun p : Yaml.Value × Yaml.Value => Yaml.Value.same (.string key) p.1) ∘
      fun e : Yaml.Flat.Entry => (.string e.key, Yaml.wordValue e.value.text)) =
      fun e => key == e.key := by
    funext e
    show Yaml.Value.same (.string key) (.string e.key) = _
    rw [Yaml.Value.same]
  rw [value_nameAt]
  unfold Yaml.Value.find? flatName?
  rw [List.find?_map, Option.map_map, hsame]
  cases es.find? fun e => key == e.key with
  | none => rfl
  | some e => exact scalarName?_wordValue e.value.text

/-- An entry of names, the key of which stands for itself. -/
structure GivesName (e : Yaml.Flat.Entry) : Prop where
  key : Template.IsName e.key
  untyped : e.key ∉ Yaml.typedWords
  plain : e.value.style = .plain
  value : Template.IsName e.value.text

/-- **The names in a flat mapping** of names under different keys. Other keys may be among them. -/
theorem ofText_flat {es : List Yaml.Flat.Entry} (hes : es ≠ []) (h : ∀ e ∈ es, GivesName e)
    (hdistinct : (es.map Yaml.Flat.Entry.key).Nodup) :
    ofText (Yaml.Flat.text [] es) =
      ⟨flatName? es "collection".toList, flatName? es "item".toList⟩ := by
  have hkey : ∀ e ∈ es, Yaml.Value.ofScalar none .plain e.key = .ok (.string e.key) := by
    intro e he
    rw [← Yaml.wordValue_of_not_mem (h e he).key (h e he).untyped]
    exact Yaml.ofPlain_name (h e he).key
  have hvalue : ∀ e ∈ es, Yaml.Value.ofScalar none e.value.style e.value.text =
      .ok (Yaml.wordValue e.value.text) := by
    intro e he
    rw [(h e he).plain]
    exact Yaml.ofPlain_name (h e he).value
  have hmapping := Yaml.Flat.ofText_text hkey hvalue hdistinct (.inl rfl) hes
  rw [ofText_of_mapping (Yaml.Flat.allBlank_text [] hes) hmapping, value_nameAt_flat,
    value_nameAt_flat]

/-! ### The two options -/

/-- The names in a mapping of two lines. -/
theorem ofText_pair {e f : Yaml.Flat.Entry} (he : GivesName e) (hf : GivesName f)
    (hne : e.key ≠ f.key) :
    ofText (e.line ++ '\n' :: f.line) =
      ⟨flatName? [e, f] "collection".toList, flatName? [e, f] "item".toList⟩ := by
  have htext : e.line ++ '\n' :: f.line = Yaml.Flat.text [] [e, f] := by
    rw [Yaml.Flat.text, Yaml.Flat.text, List.append_nil]
  rw [htext]
  refine ofText_flat (List.cons_ne_nil e [f]) ?_ ?_
  · exact List.forall_mem_cons.2 ⟨he, List.forall_mem_singleton.2 hf⟩
  · simpa using hne

/-- An option of the loop. -/
def option (key : Text) (hword : Yaml.Flat.IsWord key) (hshort : Yaml.byteLength key ≤ 1024)
    {w : Text} (hw : Template.IsName w) : Yaml.Flat.Entry :=
  ⟨key, hword, hshort, .word w (Yaml.isWord_of_isName hw)⟩

/-- The names of the two options, in either order. -/
theorem ofText_options {collection item s : Text} (hcollection : Template.IsName collection)
    (hitem : Template.IsName item)
    (hs : s = "collection: ".toList ++ collection ++ "\nitem: ".toList ++ item ∨
      s = "item: ".toList ++ item ++ "\ncollection: ".toList ++ collection) :
    ofText s = ⟨wordName? collection, wordName? item⟩ := by
  let first := option "collection".toList (by decide) (by decide) hcollection
  let second := option "item".toList (by decide) (by decide) hitem
  have hfirst : GivesName first := ⟨show Template.IsName "collection".toList by decide,
    show "collection".toList ∉ Yaml.typedWords by decide, rfl, hcollection⟩
  have hsecond : GivesName second := ⟨show Template.IsName "item".toList by decide,
    show "item".toList ∉ Yaml.typedWords by decide, rfl, hitem⟩
  have hne : first.key ≠ second.key := show "collection".toList ≠ "item".toList by decide
  have hlines : first.line = "collection: ".toList ++ collection ∧
      second.line = "item: ".toList ++ item := ⟨rfl, rfl⟩
  -- whichever line comes first, each key is found on its own
  rcases hs with rfl | rfl
  · have htext : "collection: ".toList ++ collection ++ "\nitem: ".toList ++ item =
        first.line ++ '\n' :: second.line := by
      rw [hlines.1, hlines.2, List.append_assoc]
      rfl
    rw [htext, ofText_pair hfirst hsecond hne]
    rfl
  · have htext : "item: ".toList ++ item ++ "\ncollection: ".toList ++ collection =
        second.line ++ '\n' :: first.line := by
      rw [hlines.1, hlines.2, List.append_assoc]
      rfl
    rw [htext, ofText_pair hsecond hfirst hne.symm]
    rfl

/-- The tag that opens a loop. -/
theorem render_loopStart (collection item : Text) :
    (Clause.loopStart collection item).render = "<% ".toList ++ collection ++
      ".each(function(".toList ++ item ++ ") \x7b %>".toList := by
  have hopening : "<% ".toList = Tag.opening false ++ [' '] := by decide
  have hclosing : ") \x7b %>".toList = ") \x7b".toList ++ ' ' :: Tag.closing := by decide
  have htag : (Clause.loopStart collection item).render = Tag.opening false ++ ' ' ::
      (collection ++ ".each(function(".toList ++ item ++ ") \x7b".toList) ++ ' ' :: Tag.closing :=
    rfl
  rw [htag, hopening, hclosing]
  simp only [List.append_assoc, List.cons_append, List.nil_append]

/-- The tag of a block whose text names the loop. -/
theorem render_each {b : Block} (h : b.filter = .each) :
    b.render = (ofText b.argumentText).clause.render := by
  refine Block.render_of_clause? ?_
  unfold Block.clause?
  rw [h]
  rfl

/-- **Options by name.** In a block of the two options, in either order, each gives the name that its
word gives, and the usual name applies where a word gives none. So both names come out as they are
written exactly if neither is a word for nothing or an unusual spelling of a truth value. -/
theorem ofText_named_options {collection item s : Text} (hcollection : Template.IsName collection)
    (hitem : Template.IsName item)
    (hs : s = "collection: ".toList ++ collection ++ "\nitem: ".toList ++ item ∨
      s = "item: ".toList ++ item ++ "\ncollection: ".toList ++ collection) :
    ofText s = ⟨wordName? collection, wordName? item⟩ ∧
      (ofText s = ⟨some collection, some item⟩ ↔ collection ∉ unkept ∧ item ∉ unkept) ∧
      ∀ b : Block, b.filter = .each → b.argumentText = s →
        b.render = "<% ".toList ++ (wordName? collection).getD "collection".toList ++
          ".each(function(".toList ++ (wordName? item).getD "item".toList ++
            ") \x7b %>".toList := by
  have hnames := ofText_options hcollection hitem hs
  refine ⟨hnames, ?_, ?_⟩
  · rw [hnames, LoopNames.mk.injEq, wordName?_eq_some_iff hcollection, wordName?_eq_some_iff hitem]
  · intro b hfilter htext
    rw [render_each hfilter, htext, hnames]
    exact render_loopStart _ _

/-- Names that begin with a word for nothing and look like a number, in a block of two lines. -/
theorem ofText_named_options_sample :
    let lines := ["item: e1".toList, "collection: nulls".toList]
    "nulls".toList ∉ unkept ∧ "e1".toList ∉ unkept ∧
      ofText (Text.joinLines lines) = ⟨some "nulls".toList, some "e1".toList⟩ ∧
      (Block.mk .each lines none).render = "<% nulls.each(function(e1) \x7b %>".toList := by
  intro lines
  obtain ⟨-, hnames, hrender⟩ :=
    @ofText_named_options "nulls".toList "e1".toList (Text.joinLines lines) (by decide) (by decide)
      (.inr (by decide))
  refine ⟨by decide, by decide, hnames.2 ⟨by decide, by decide⟩, ?_⟩
  rw [hrender _ rfl rfl]
  decide

/-- **Names that are not kept.** A truth value loses its spelling, and a word for nothing makes way
for the usual name. -/
theorem ofText_unkept_names :
    Template.IsName "True".toList ∧ Template.IsName "Null".toList ∧ Template.IsName "tab".toList ∧
      ofText "collection: True\nitem: tab".toList = ⟨some "true".toList, some "tab".toList⟩ ∧
      ofText "collection: Null\nitem: tab".toList = ⟨none, some "tab".toList⟩ := by
  decide +kernel

end LoopNames

end Tagline
