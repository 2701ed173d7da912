import Mathlib.Data.List.Forall2
import Tagline.Markup

/-!
# The value of markup in script

The functions of `Markup` write script that puts markup together: quoted texts, with `+` and other
script between them. This module says what such script is worth and that it is the markup that was
meant.

Script is cut at its double quotes, and the pieces are quoted and unquoted in turn. Between two
quoted pieces there is `+` alone, or an expression between two of them, which has a value in an
environment (`value?`).

* `Writes` — what a text is worth inside quotes, in front of any rest. A text without quotes is
  worth itself (`writes_of_not_mem`), script that is spliced in has its own value
  (`writes_spliced`), and the worth of two texts in a row is that of both (`Writes.append`);
* `writes_attributes` — so attributes are worth the attributes with the worth of their values,
  however many there are, wherever the one with script in it stands;
* `value?_markup` — and elements, images and links are worth their markup.
-/

namespace Tagline

namespace Markup

/-! ### The value of script -/

/-- The sign that joins two texts. -/
def plus : Text := " + ".toList

/-- What stands between two quoted texts adds nothing if it is the sign alone, and else the value of
the expression between two signs. -/
def joint? (env : Text → Text) (piece : Text) : Option Text :=
  if piece = plus then some []
  else ((Text.after? plus piece).bind (Text.before? plus)).map env

/-- The value of pieces of script, the first of which is quoted. The last one is not, and is
empty. -/
def valueFrom? (env : Text → Text) : List Text → Option Text
  | [] => some []
  | [_] => none
  | [literal, last] => if last = [] then some literal else none
  | literal :: piece :: next :: pieces => do
    let joint ← joint? env piece
    let rest ← valueFrom? env (next :: pieces)
    return literal ++ joint ++ rest

/-- The value of script in an environment, if it joins texts and begins and ends with a quoted
one. -/
def value? (env : Text → Text) (script : Text) : Option Text :=
  match script.splitOn '"' with
  | [] :: pieces => valueFrom? env pieces
  | _ => none

/-- The value of script from inside a quoted text. -/
def inside? (env : Text → Text) (script : Text) : Option Text :=
  valueFrom? env (script.splitOn '"')

variable {env : Text → Text}

theorem joint?_plus : joint? env plus = some [] := if_pos rfl

theorem joint?_expression (script : Text) :
    joint? env (plus ++ script ++ plus) = some (env script) := by
  have hne : plus ++ script ++ plus ≠ plus := by
    intro heq
    have hlength := congrArg List.length heq
    rw [List.length_append, List.length_append] at hlength
    have hplus : plus.length = 3 := rfl
    omega
  unfold joint?
  rw [if_neg hne, List.append_assoc, Text.after?_append, Option.bind_some,
    Text.before?_eq_some_iff.2 rfl]
  rfl

theorem value?_cons_quote (script : Text) : value? env ('"' :: script) = inside? env script := by
  have hsplit : ('"' :: script).splitOn '"' = [] :: script.splitOn '"' :=
    List.splitOn_append_cons_self_of_not_mem (List.not_mem_nil : '"' ∉ ([] : Text)) script
  unfold value?
  rw [hsplit]
  rfl

theorem inside?_quote : inside? env ['"'] = some [] := rfl

/-- A quoted text ends, and another one begins behind a piece of script. -/
theorem inside?_quote_cons {piece : Text} (h : '"' ∉ piece) (rest : Text) :
    inside? env ('"' :: (piece ++ '"' :: rest)) =
      (joint? env piece).bind fun joint => (inside? env rest).map (joint ++ ·) := by
  have hsplit : ('"' :: (piece ++ '"' :: rest)).splitOn '"' =
      [] :: piece :: rest.splitOn '"' := by
    rw [← List.splitOn_append_cons_self_of_not_mem h rest]
    exact List.splitOn_append_cons_self_of_not_mem (List.not_mem_nil : '"' ∉ ([] : Text)) _
  obtain ⟨next, pieces, hrest⟩ := List.exists_cons_of_ne_nil (List.splitOn_ne_nil '"' rest)
  unfold inside?
  rw [hsplit, hrest, valueFrom?]
  simp only [List.nil_append, Option.map_eq_bind]
  rfl

/-! ### What a text is worth inside quotes -/

/-- Inside quotes, a text is worth another one, whatever follows it. -/
def Writes (env : Text → Text) (w v : Text) : Prop :=
  ∀ rest, inside? env (w ++ rest) = (inside? env rest).map (v ++ ·)

theorem Writes.append {w w' v v' : Text} (h : Writes env w v) (h' : Writes env w' v') :
    Writes env (w ++ w') (v ++ v') := by
  intro rest
  have hcomp : (v ++ ·) ∘ (v' ++ ·) = (v ++ v' ++ ·) := by
    funext x
    exact (List.append_assoc v v' x).symm
  rw [List.append_assoc, h, h', Option.map_map, hcomp]

/-- A character in front of script from inside a quoted text belongs to that text. -/
theorem writes_singleton {c : Char} (hc : c ≠ '"') : Writes env [c] [c] := by
  intro rest
  have hsplit : (c :: rest).splitOn '"' = (rest.splitOn '"').modifyHead (c :: ·) := by
    rw [List.splitOn_cons_eq_if_modifyHead, if_neg (by simpa using hc)]
  unfold inside?
  rw [List.singleton_append, hsplit]
  -- the quoted piece in front is made longer, and nothing else is looked at
  match rest.splitOn '"', List.splitOn_ne_nil '"' rest with
  | [literal], _ => rfl
  | [literal, last], _ =>
    by_cases hlast : last = []
    · simp [valueFrom?, hlast]
    · simp [valueFrom?, hlast]
  | literal :: piece :: next :: pieces, _ =>
    cases hjoint : joint? env piece <;> cases hrest : valueFrom? env (next :: pieces) <;>
      simp [valueFrom?, hjoint, hrest]

/-- **Quoted text is worth itself.** -/
theorem writes_of_not_mem {w : Text} (h : '"' ∉ w) : Writes env w w := by
  induction w with
  | nil =>
    intro rest
    exact Option.map_id'.symm
  | cons c w ih =>
    obtain ⟨hc, hw⟩ := not_or.1 (mt List.mem_cons.2 h)
    exact (writes_singleton (Ne.symm hc)).append (ih hw)

theorem quote_not_mem_plus : '"' ∉ plus := by decide

/-- Spliced script is a piece between two quotes. -/
theorem spliced_append (script rest : Text) :
    spliced script ++ rest = '"' :: (plus ++ script ++ plus ++ '"' :: rest) := by
  have hopen : "\" + ".toList = '"' :: plus := by decide
  have hclose : " + \"".toList = plus ++ ['"'] := by decide
  unfold spliced
  rw [hopen, hclose]
  simp only [List.cons_append, List.nil_append, List.append_assoc]

/-- **Script that is spliced in has its value.** -/
theorem writes_spliced {script : Text} (h : '"' ∉ script) :
    Writes env (spliced script) (env script) := by
  intro rest
  have hpiece : '"' ∉ plus ++ script ++ plus := by
    rw [List.mem_append, List.mem_append]
    simp only [quote_not_mem_plus, h, or_self, not_false_eq_true]
  rw [spliced_append, inside?_quote_cons hpiece, joint?_expression, Option.bind_some]

/-- What the address of a link is worth: the address itself inside the page, and else the value of
the script that it is. -/
def reference (env : Text → Text) (url : Text) : Text :=
  if url.head? = some '#' then url else env url

/-- An address inside the page is quoted, so that it stands between two joints. -/
theorem writes_address {url : Text} (h : '"' ∉ url) :
    Writes env (spliced (address url)) (reference env url) := by
  by_cases hpage : url.head? = some '#'
  · obtain ⟨rest, rfl⟩ := List.head?_eq_some_iff.1 hpage
    intro after
    have hspliced : spliced (address ('#' :: rest)) ++ after =
        '"' :: (plus ++ '"' :: ('#' :: rest ++ '"' :: (plus ++ '"' :: after))) := by
      rw [spliced_append]
      simp only [address, List.cons_append, List.nil_append, List.append_assoc]
    rw [hspliced, inside?_quote_cons quote_not_mem_plus, joint?_plus, Option.bind_some,
      writes_of_not_mem h, inside?_quote_cons quote_not_mem_plus, joint?_plus, Option.bind_some]
    simp [reference, Function.comp_def]
  · have haddress : address url = url := by
      unfold address
      split
      · exact absurd rfl hpage
      · rfl
    rw [haddress, reference, if_neg hpage]
    exact writes_spliced h

/-- Between quotes, a text has the value that it is worth. -/
theorem Writes.value?_eq {w v : Text} (h : Writes env w v) :
    value? env ('"' :: (w ++ ['"'])) = some v := by
  rw [value?_cons_quote, h, inside?_quote]
  simp

/-! ### Attributes -/

/-- An attribute is worth the attribute of the same name with the worth of its value. -/
def WritesAttribute (env : Text → Text) (a a' : Attribute) : Prop :=
  a'.name = a.name ∧ '"' ∉ a.name ∧ Writes env a.value a'.value

theorem WritesAttribute.text {a a' : Attribute} (h : WritesAttribute env a a') :
    Writes env a.text a'.text := by
  obtain ⟨hname, hquote, hvalue⟩ := h
  unfold Attribute.text
  rw [hname]
  have hfront : '"' ∉ ' ' :: a.name ++ "='".toList := by simpa using hquote
  exact ((writes_of_not_mem hfront).append hvalue).append (writes_of_not_mem (by decide))

/-- **Attributes one by one.** -/
theorem writes_attributes {as as' : List Attribute}
    (h : List.Forall₂ (WritesAttribute env) as as') :
    Writes env (attributes as) (attributes as') := by
  induction h with
  | nil => exact writes_of_not_mem List.not_mem_nil
  | cons ha _ ih => exact ha.text.append ih

/-- An attribute without quotes. -/
def Attribute.Unquoted (a : Attribute) : Prop := '"' ∉ a.name ∧ '"' ∉ a.value

instance : DecidablePred Attribute.Unquoted :=
  fun a => inferInstanceAs (Decidable ('"' ∉ a.name ∧ '"' ∉ a.value))

theorem Attribute.Unquoted.writes {a : Attribute} (h : a.Unquoted) : WritesAttribute env a a :=
  ⟨rfl, h.1, writes_of_not_mem h.2⟩

theorem forall₂_writes {as : List Attribute} (h : ∀ a ∈ as, a.Unquoted) :
    List.Forall₂ (WritesAttribute env) as as :=
  List.forall₂_same.2 fun a ha => (h a ha).writes

/-- A value that is given to an attribute is worth its own worth, wherever the attribute stands. -/
theorem forall₂_setAttribute {as : List Attribute} (h : ∀ a ∈ as, a.Unquoted) {name : Text}
    (hname : '"' ∉ name) {value worth : Text} (hvalue : Writes env value worth) :
    List.Forall₂ (WritesAttribute env) (setAttribute name value as)
      (setAttribute name worth as) := by
  induction as with
  | nil => exact .cons ⟨rfl, hname, hvalue⟩ .nil
  | cons a as ih =>
    obtain ⟨ha, has⟩ := List.forall_mem_cons.1 h
    unfold setAttribute
    split
    · exact .cons ⟨rfl, ha.1, hvalue⟩ (forall₂_writes has)
    · exact .cons ha.writes (ih has)

/-- A list of attributes is another one in which the first attribute of a name has a value, in
place, or to which an attribute of the name has been added at the end, if there was none. -/
inductive Sets (name value : Text) : List Attribute → List Attribute → Prop
  | replaced {before after : List Attribute} {old : Text} (h : ∀ a ∈ before, a.name ≠ name) :
      Sets name value (before ++ ⟨name, old⟩ :: after) (before ++ ⟨name, value⟩ :: after)
  | added {as : List Attribute} (h : ∀ a ∈ as, a.name ≠ name) :
      Sets name value as (as ++ [⟨name, value⟩])

/-- Another attribute in front changes nothing. -/
theorem Sets.cons {name value : Text} {as as' : List Attribute} (h : Sets name value as as')
    {a : Attribute} (ha : a.name ≠ name) : Sets name value (a :: as) (a :: as') := by
  cases h with
  | @replaced before after old h =>
    have hfront : ∀ b ∈ a :: before, b.name ≠ name := List.forall_mem_cons.2 ⟨ha, h⟩
    exact .replaced hfront
  | added h => exact .added (List.forall_mem_cons.2 ⟨ha, h⟩)

theorem sets_setAttribute (name value : Text) (as : List Attribute) :
    Sets name value as (setAttribute name value as) := by
  have hnone : ∀ a ∈ ([] : List Attribute), a.name ≠ name := List.forall_mem_nil _
  induction as with
  | nil => exact .added hnone
  | cons a as ih =>
    obtain ⟨n, old⟩ := a
    unfold setAttribute
    by_cases hn : n = name
    · subst hn
      rw [if_pos rfl]
      exact .replaced hnone
    · rw [if_neg hn]
      exact ih.cons hn

theorem setAttribute_append {name : Text} {before : List Attribute}
    (h : ∀ a ∈ before, a.name ≠ name) (value : Text) (as : List Attribute) :
    setAttribute name value (before ++ as) = before ++ setAttribute name value as := by
  induction before with
  | nil => rfl
  | cons a before ih =>
    obtain ⟨ha, hbefore⟩ := List.forall_mem_cons.1 h
    rw [List.cons_append, setAttribute, if_neg ha, ih hbefore]
    rfl

/-- There is one such list only. -/
theorem Sets.eq_setAttribute {name value : Text} {as as' : List Attribute}
    (h : Sets name value as as') : as' = setAttribute name value as := by
  cases h with
  | @replaced before after old h =>
    rw [setAttribute_append h, setAttribute, if_pos rfl]
  | added h =>
    have happ := setAttribute_append h value []
    rw [List.append_nil] at happ
    exact happ.symm

/-! ### Elements, images and links -/

theorem value?_element {name : Text} (hname : '"' ∉ name) {as as' : List Attribute}
    (has : List.Forall₂ (WritesAttribute env) as as') :
    value? env (element name as) =
      some ("<".toList ++ name ++ [' '] ++ attributes as' ++ " />".toList) := by
  have hopen : Writes env "<".toList "<".toList := writes_of_not_mem (by decide)
  have hblank : Writes env [' '] [' '] := writes_of_not_mem (by decide)
  have hclose : Writes env " />".toList " />".toList := writes_of_not_mem (by decide)
  have hwrites := (((hopen.append (writes_of_not_mem hname)).append hblank).append
    (writes_attributes has)).append hclose
  have hfront : "\"<".toList = '"' :: "<".toList := by decide
  have hend : " />\"".toList = " />".toList ++ ['"'] := by decide
  rw [← hwrites.value?_eq]
  unfold element
  rw [hfront, hend]
  simp only [List.cons_append, List.nil_append, List.append_assoc]

theorem value?_anchorOf {content url : Text} (hcontent : '"' ∉ content) (hurl : '"' ∉ url)
    {as : List Attribute} (has : ∀ a ∈ as, a.Unquoted) :
    value? env (anchorOf content url as) =
      some ("<a href='".toList ++ reference env url ++ "' ".toList ++ attributes as ++
        " >".toList ++ env content ++ "</a>".toList) := by
  have hopen : Writes env "<a href='".toList "<a href='".toList := writes_of_not_mem (by decide)
  have hquote : Writes env "' ".toList "' ".toList := writes_of_not_mem (by decide)
  have hmark : Writes env " >".toList " >".toList := writes_of_not_mem (by decide)
  have hclose : Writes env "</a>".toList "</a>".toList := writes_of_not_mem (by decide)
  have hfront := ((hopen.append (writes_address hurl)).append hquote).append
    (writes_attributes (forall₂_writes has))
  have hwrites := ((hfront.append hmark).append (writes_spliced hcontent)).append hclose
  have hstart : "\"<a href='".toList = '"' :: "<a href='".toList := by decide
  have hend : "</a>\"".toList = "</a>".toList ++ ['"'] := by decide
  rw [← hwrites.value?_eq]
  unfold anchorOf
  rw [hstart, hend]
  simp only [List.cons_append, List.append_assoc]

/-- The content of a link, resolved if there is a resolver. -/
def resolvedContent (resolver : Option Resolver) (content : Text) : Text :=
  resolver.elim content fun r => r.settled content

theorem value_anchor (resolver : Option Resolver) (content url : Text) (as : List Attribute) :
    (anchor resolver content url as).value = anchorOf (resolvedContent resolver content) url as := by
  cases resolver with
  | none => rfl
  | some r =>
    show anchorOf (r.settle content).value url as = anchorOf (r.settled content) url as
    rw [r.value_settle content]

/-- **Markup in script is worth the markup that was meant.** In every environment, and as long as
no double quote stands in what is put together, the script for an element, an image and a link has
the value that its name says: the element with its attributes; the image whose address is the value
of the script for it, in the place of the first address there was, or else at the end; and the link
to an address of the page or to the value of the script for one, around the value of its content. -/
theorem value?_markup (env : Text → Text) (as : List Attribute) (has : ∀ a ∈ as, a.Unquoted) :
    (∀ name, '"' ∉ name → value? env (element name as) =
      some ("<".toList ++ name ++ [' '] ++ attributes as ++ " />".toList)) ∧
    (∀ source, '"' ∉ source → ∃ as', Sets "src".toList (env source) as as' ∧
      value? env (image source as) = some ("<img ".toList ++ attributes as' ++ " />".toList)) ∧
    ∀ resolver content url, '"' ∉ resolvedContent resolver content → '"' ∉ url →
      value? env (anchor resolver content url as).value =
        some ("<a href='".toList ++ (if url.head? = some '#' then url else env url) ++
          "' ".toList ++ attributes as ++ " >".toList ++ env (resolvedContent resolver content) ++
          "</a>".toList) := by
  refine ⟨?_, ?_, ?_⟩
  · intro name hname
    exact value?_element hname (forall₂_writes has)
  · intro source hsource
    refine ⟨_, sets_setAttribute "src".toList (env source) as, ?_⟩
    exact value?_element (by decide)
      (forall₂_setAttribute has (by decide) (writes_spliced hsource))
  · intro resolver content url hcontent hurl
    rw [value_anchor]
    exact value?_anchorOf hcontent hurl has

/-- Attributes with an address among them, in an environment that writes expressions in brackets: an
image takes the place of that address, and a link leads to a place of the page, with its content
resolved. -/
theorem value?_markup_sample :
    let env : Text → Text := fun script => '[' :: script ++ [']']
    let as : List Attribute := [⟨"alt".toList, "a=b".toList⟩, ⟨"src".toList, "old".toList⟩,
      ⟨"src".toList, []⟩]
    let resolver : Resolver := fun code =>
      if code = "home".toList then .ok "'Home'".toList else .error (.undefined code)
    (∀ a ∈ as, a.Unquoted) ∧
      value? env (element "br".toList as) =
        some "<br  alt='a=b' src='old' src='' />".toList ∧
      value? env (image "m.url()".toList as) =
        some "<img  alt='a=b' src='[m.url()]' src='' />".toList ∧
      value? env (anchor (some resolver) "home".toList "#top".toList as).value =
        some "<a href='#top'  alt='a=b' src='old' src='' >['Home']</a>".toList := by
  intro env as resolver
  have has : ∀ a ∈ as, a.Unquoted := by decide
  obtain ⟨helement, himage, hanchor⟩ := value?_markup env as has
  refine ⟨has, helement _ (by decide), ?_, hanchor (some resolver) _ _ (by decide) (by decide)⟩
  obtain ⟨as', hsets, hvalue⟩ := himage "m.url()".toList (by decide)
  obtain rfl := hsets.eq_setAttribute
  exact hvalue

end Markup

end Tagline
