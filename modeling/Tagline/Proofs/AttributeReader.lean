import Tagline.Proofs.MarkupValue

/-!
# Reading attributes

Attributes are written one after the other, each as a blank, its name, the sign `=` and its value
between single quotes. Nothing is escaped, and a name or a value may hold blanks and the sign, so
it is the quotes alone that show where a field ends. As long as none stands inside of a name or a
value (`Attribute.Legible`), they come in turn before and behind the values, and the attributes can
be read again.

* `readAttributes?` — the reader: cuts at the single quotes and takes the pieces in pairs;
* `readAttributes?_text_append` — one attribute is read off the front of a text, whatever follows
  it, and hence so are all of them (`readAttributes?_attributes`);
* `readAttributes?_eq_some_iff` — and nothing else is read: a text has at most one reading, and it
  has one exactly if it is the writing of attributes without single quotes;
* `Sets.filter_eq`, `Sets.filter_ne` — an attribute that is set is there once, if the names differ,
  and the others are as they were;
* `attributes_readable` — so attributes in writing determine the attributes, and those of an image
  are its address and everything else as it was given.
-/

namespace Tagline

namespace Text

/-- No piece holds the mark at which a text is cut. -/
theorem not_mem_of_mem_splitOn {k : Char} {s piece : Text} (h : piece ∈ s.splitOn k) :
    k ∉ piece := by
  induction s generalizing piece with
  | nil =>
    rw [List.splitOn_nil, List.mem_singleton] at h
    rw [h]
    exact List.not_mem_nil
  | cons c s ih =>
    rw [List.splitOn_cons_eq_if_modifyHead] at h
    split at h
    · rcases List.mem_cons.1 h with rfl | h
      · exact List.not_mem_nil
      · exact ih h
    · next hc =>
      -- `c` is not the mark, and joins the first of the pieces that follow it
      obtain ⟨first, pieces, hsplit⟩ := List.exists_cons_of_ne_nil (List.splitOn_ne_nil k s)
      rw [hsplit] at h ih
      rcases List.mem_cons.1 h with rfl | h
      · intro hk
        rcases List.mem_cons.1 hk with rfl | hk
        · exact hc (beq_self_eq_true k)
        · exact ih List.mem_cons_self hk
      · exact ih (List.mem_cons_of_mem first h)

end Text

namespace Markup

/-! ### The reader -/

/-- An attribute that can be told from what stands around it in writing: it holds no single
quote. -/
structure Attribute.Legible (a : Attribute) : Prop where
  name : '\'' ∉ a.name
  value : '\'' ∉ a.value

instance : DecidablePred Attribute.Legible :=
  fun a => decidable_of_iff ('\'' ∉ a.name ∧ '\'' ∉ a.value)
    ⟨fun h => ⟨h.1, h.2⟩, fun h => ⟨h.name, h.value⟩⟩

/-- The name in what leads to a value: it stands between a blank and the sign `=`. -/
def leadName? (lead : Text) : Option Text := (Text.after? [' '] lead).bind (Text.before? ['='])

/-- Reads attributes from pieces between single quotes: leads and values in turn. Nothing follows
the quote behind the last value. -/
def ofPieces? : List Text → Option (List Attribute)
  | [] => none
  | [last] => if last = [] then some [] else none
  | lead :: value :: pieces => do
    let name ← leadName? lead
    let as ← ofPieces? pieces
    return ⟨name, value⟩ :: as

/-- Reads attributes in writing. -/
def readAttributes? (s : Text) : Option (List Attribute) := ofPieces? (s.splitOn '\'')

/-- Reads the attributes between two given ends of a text. -/
def attributesBetween? (opening closing s : Text) : Option (List Attribute) :=
  ((Text.after? opening s).bind (Text.before? closing)).bind readAttributes?

theorem leadName?_eq_some_iff {lead name : Text} :
    leadName? lead = some name ↔ lead = ' ' :: name ++ ['='] := by
  unfold leadName?
  rw [Option.bind_eq_some_iff]
  simp only [Text.after?_eq_some_iff, Text.before?_eq_some_iff]
  constructor
  · rintro ⟨rest, rfl, rfl⟩
    rfl
  · rintro rfl
    exact ⟨name ++ ['='], rfl, rfl⟩

/-! ### What was written is read -/

/-- The quotes of an attribute cut it into what leads to its value, and the value. -/
theorem splitOn_text_append {a : Attribute} (h : a.Legible) (rest : Text) :
    (a.text ++ rest).splitOn '\'' = (' ' :: a.name ++ ['=']) :: a.value :: rest.splitOn '\'' := by
  have hlead : '\'' ∉ ' ' :: a.name ++ ['='] := by simpa using h.name
  have htext : a.text ++ rest =
      (' ' :: a.name ++ ['=']) ++ '\'' :: (a.value ++ '\'' :: rest) := by
    simp [Attribute.text]
  rw [htext, List.splitOn_append_cons_self_of_not_mem hlead,
    List.splitOn_append_cons_self_of_not_mem h.value]

/-- **One attribute.** It is read off the front of a text, whatever follows it. -/
theorem readAttributes?_text_append {a : Attribute} (h : a.Legible) (rest : Text) :
    readAttributes? (a.text ++ rest) = (readAttributes? rest).map (a :: ·) := by
  have hname : leadName? (' ' :: a.name ++ ['=']) = some a.name := leadName?_eq_some_iff.2 rfl
  unfold readAttributes?
  rw [splitOn_text_append h, ofPieces?, hname, Option.map_eq_bind]
  rfl

/-- **All attributes.** -/
theorem readAttributes?_attributes {as : List Attribute} (h : ∀ a ∈ as, a.Legible) :
    readAttributes? (attributes as) = some as := by
  induction as with
  | nil => rfl
  | cons a as ih =>
    obtain ⟨ha, has⟩ := List.forall_mem_cons.1 h
    calc readAttributes? (attributes (a :: as))
        = readAttributes? (a.text ++ attributes as) := by rw [attributes, List.flatMap_cons]; rfl
      _ = (readAttributes? (attributes as)).map (a :: ·) := readAttributes?_text_append ha _
      _ = some (a :: as) := by rw [ih has, Option.map_some]

/-! ### What is read was written -/

/-- Pieces that are read as attributes are those into which the writing of the attributes is
cut. -/
theorem intercalate_of_ofPieces? {pieces : List Text} {as : List Attribute}
    (h : ofPieces? pieces = some as) (hpieces : ∀ piece ∈ pieces, '\'' ∉ piece) :
    ['\''].intercalate pieces = attributes as ∧ ∀ a ∈ as, a.Legible := by
  fun_induction ofPieces? pieces generalizing as with
  | case1 => exact absurd h.symm (Option.some_ne_none as)
  | case2 =>
    obtain rfl := Option.some.inj h
    exact ⟨rfl, List.forall_mem_nil _⟩
  | case3 last hlast => exact absurd h.symm (Option.some_ne_none as)
  | case4 lead value pieces ih =>
    obtain ⟨name, hname, hrest⟩ := Option.bind_eq_some_iff.1 h
    obtain ⟨as, has, heq⟩ := Option.bind_eq_some_iff.1 hrest
    obtain rfl := Option.some.inj heq
    obtain rfl := leadName?_eq_some_iff.1 hname
    obtain ⟨hlead, hpieces⟩ := List.forall_mem_cons.1 hpieces
    obtain ⟨hvalue, hpieces⟩ := List.forall_mem_cons.1 hpieces
    obtain ⟨hjoin, hlegible⟩ := ih has hpieces
    have hfirst : (Attribute.mk name value).Legible := ⟨by simpa using hlead, hvalue⟩
    refine ⟨?_, List.forall_mem_cons.2 ⟨hfirst, hlegible⟩⟩
    -- a piece follows the value, since the pieces behind it were read
    cases pieces with
    | nil => exact absurd has.symm (Option.some_ne_none as)
    | cons next pieces =>
      rw [List.intercalate_cons_cons, List.intercalate_cons_cons, hjoin]
      simp [attributes, Attribute.text]

/-- **A text has one reading at most.** It is read as attributes exactly if it is what they are in
writing, and they hold no single quote. -/
theorem readAttributes?_eq_some_iff {s : Text} {as : List Attribute} :
    readAttributes? s = some as ↔ s = attributes as ∧ ∀ a ∈ as, a.Legible := by
  constructor
  · intro h
    obtain ⟨hjoin, hlegible⟩ := intercalate_of_ofPieces? h fun piece => Text.not_mem_of_mem_splitOn
    rw [List.intercalate_splitOn] at hjoin
    exact ⟨hjoin, hlegible⟩
  · rintro ⟨rfl, hlegible⟩
    exact readAttributes?_attributes hlegible

theorem eq_of_attributes_eq {as bs : List Attribute} (has : ∀ a ∈ as, a.Legible)
    (hbs : ∀ b ∈ bs, b.Legible) (h : attributes as = attributes bs) : as = bs := by
  have hread : some as = some bs := by
    rw [← readAttributes?_attributes has, ← readAttributes?_attributes hbs, h]
  exact Option.some.inj hread

/-! ### The attributes of an image -/

theorem attributesBetween?_append (opening closing : Text) {as : List Attribute}
    (h : ∀ a ∈ as, a.Legible) :
    attributesBetween? opening closing (opening ++ attributes as ++ closing) = some as := by
  unfold attributesBetween?
  rw [List.append_assoc, Text.after?_append, Option.bind_some, Text.before?_eq_some_iff.2 rfl,
    Option.bind_some, readAttributes?_attributes h]

variable {name value : Text} {as as' : List Attribute}

/-- Setting an attribute adds none but that one. -/
theorem Sets.mem_or_eq (h : Sets name value as as') {a : Attribute} (ha : a ∈ as') :
    a ∈ as ∨ a = ⟨name, value⟩ := by
  cases h with
  | @replaced before after old h =>
    rcases List.mem_append.1 ha with ha | ha
    · exact .inl (List.mem_append_left _ ha)
    rcases List.mem_cons.1 ha with ha | ha
    · exact .inr ha
    · exact .inl (List.mem_append_right before (List.mem_cons_of_mem _ ha))
  | added h =>
    rcases List.mem_append.1 ha with ha | ha
    · exact .inl ha
    · exact .inr (List.mem_singleton.1 ha)

/-- Those of other names are left alone, and stay in their order. -/
theorem Sets.filter_ne (h : Sets name value as as') :
    as'.filter (fun a => a.name ≠ name) = as.filter (fun a => a.name ≠ name) := by
  cases h with
  | replaced h => simp
  | added h => simp

theorem filter_name_eq_nil (h : ∀ a ∈ as, a.name ≠ name) :
    as.filter (fun a => a.name = name) = [] := by
  rw [List.filter_eq_nil_iff]
  intro a ha heq
  exact h a ha (of_decide_eq_true heq)

/-- If no two attributes have the same name, there is one of a name once it has been set. -/
theorem Sets.filter_eq (h : Sets name value as as') (hnodup : (as.map Attribute.name).Nodup) :
    as'.filter (fun a => a.name = name) = [⟨name, value⟩] := by
  cases h with
  | @replaced before after old h =>
    -- the name is that of the attribute that is replaced, and so of none behind it
    have hafter : ∀ a ∈ after, a.name ≠ name := by
      intro a ha heq
      rw [List.map_append, List.map_cons] at hnodup
      have hname : name ∉ after.map Attribute.name :=
        (List.nodup_cons.1 (List.nodup_append.1 hnodup).2.1).1
      exact hname (heq ▸ List.mem_map_of_mem ha)
    rw [List.filter_append, filter_name_eq_nil h, List.filter_cons, filter_name_eq_nil hafter,
      if_pos (decide_eq_true rfl), List.nil_append]
  | added h =>
    rw [List.filter_append, filter_name_eq_nil h, List.nil_append, List.filter_cons,
      if_pos (decide_eq_true rfl), List.filter_nil]

theorem quote_not_mem_spliced {script : Text} (h : '\'' ∉ script) : '\'' ∉ spliced script := by
  have hopen : '\'' ∉ "\" + ".toList := by decide
  have hclose : '\'' ∉ " + \"".toList := by decide
  unfold spliced
  rw [List.mem_append, List.mem_append]
  rintro ((hmem | hmem) | hmem)
  · exact hopen hmem
  · exact h hmem
  · exact hclose hmem

/-- **Attributes in writing are uniquely readable.** A text is read as attributes exactly if it is
what they are in writing, as long as they hold no single quote, so that attributes which are written
alike are the same ones, in the same order. In particular, if no two attributes that are given to an
image have the same name, then those that can be read between the ends of its script are one
address, which is the script that was spliced in, and all the others in their order. -/
theorem attributes_readable :
    (∀ (s : Text) (as : List Attribute),
      readAttributes? s = some as ↔ s = attributes as ∧ ∀ a ∈ as, a.Legible) ∧
    (∀ as bs : List Attribute, (∀ a ∈ as, a.Legible) → (∀ b ∈ bs, b.Legible) →
      attributes as = attributes bs → as = bs) ∧
    ∀ (source : Text) (as : List Attribute), '\'' ∉ source → (∀ a ∈ as, a.Legible) →
      (as.map Attribute.name).Nodup →
      ∃ as', attributesBetween? "\"<img ".toList " />\"".toList (image source as) = some as' ∧
        as'.filter (fun a => a.name = "src".toList) =
          [⟨"src".toList, "\" + ".toList ++ source ++ " + \"".toList⟩] ∧
        as'.filter (fun a => a.name ≠ "src".toList) =
          as.filter (fun a => a.name ≠ "src".toList) := by
  refine ⟨?_, ?_, ?_⟩
  · intro s as
    exact readAttributes?_eq_some_iff
  · intro as bs has hbs h
    exact eq_of_attributes_eq has hbs h
  · intro source as hsource has hnodup
    have hsets := sets_setAttribute "src".toList (spliced source) as
    have hname : '\'' ∉ "src".toList := by decide
    have himage : image source as = "\"<img ".toList ++
        attributes (setAttribute "src".toList (spliced source) as) ++ " />\"".toList := rfl
    refine ⟨_, ?_, hsets.filter_eq hnodup, hsets.filter_ne⟩
    rw [himage]
    apply attributesBetween?_append
    intro a ha
    rcases hsets.mem_or_eq ha with ha | rfl
    · exact has a ha
    · exact ⟨hname, quote_not_mem_spliced hsource⟩

/-- Names and values with blanks, signs and nothing in them, among them an address: they are read
off their writing, giving the address the value that it has leaves them as they are, and an image
gives it another one. -/
theorem attributes_readable_sample :
    let as : List Attribute := [⟨"a b=".toList, []⟩, ⟨"src".toList, "= old".toList⟩,
      ⟨[], " c=".toList⟩]
    readAttributes? " a b=='' src='= old' =' c='".toList = some as ∧
      as = setAttribute "src".toList "= old".toList as ∧
      ∃ as', attributesBetween? "\"<img ".toList " />\"".toList
          "\"<img  a b=='' src='\" + m.url() + \"' =' c=' />\"".toList = some as' ∧
        as'.filter (fun a => a.name = "src".toList) =
          [⟨"src".toList, "\" + m.url() + \"".toList⟩] ∧
        as'.filter (fun a => a.name ≠ "src".toList) =
          [⟨"a b=".toList, []⟩, ⟨[], " c=".toList⟩] := by
  intro as
  have has : ∀ a ∈ as, a.Legible := by decide
  obtain ⟨hread, hinjective, himage⟩ := attributes_readable
  refine ⟨?_, ?_, ?_⟩
  · exact (hread _ as).2 ⟨by decide, has⟩
  · exact hinjective as (setAttribute "src".toList "= old".toList as) has (by decide) (by decide)
  · exact himage "m.url()".toList as (by decide) has (by decide)

/-- A single quote in a value can spell another attribute. -/
example : attributes [⟨"a".toList, "x' b='y".toList⟩] =
    attributes [⟨"a".toList, "x".toList⟩, ⟨"b".toList, "y".toList⟩] := by
  decide

end Markup

end Tagline
