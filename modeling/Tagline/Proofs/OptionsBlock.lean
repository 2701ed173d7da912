import Tagline.Proofs.Listing
import Tagline.Proofs.Spelling
import Tagline.Proofs.Yaml.Tokens

/-!
# Options of a loop in a host block

The block of the filter `each` may be given as an argument, and is then read as it stands, or as a
host block, and then its lines are put together again without indentation and blank rows. YAML tells
by the indentation what belongs to what, so the two need not mean the same: a key inside another
value becomes an option of the loop, once the lines are flush.

They do mean the same where no line is indented more than another. An `Outline` is such a block:
rows of spaces, then lines behind the same number of spaces, with either end to a line, and spaces
behind the last one. Its lines may hold flow collections, quotes, comments, anchors and tags, and
scalars over several lines, but neither directives nor document marks nor the signs that may begin a
block scalar.

* `Outline.splitBody_text` — the body of the host block are its lines;
* `Outline.indented` — so the text is the body with more spaces before its lines, and has the same
  tokens (`Yaml.tracks_tokens`);
* `LoopNames.ofText_of_mapping` — and the names of the loop depend only on the value of the text.
-/

namespace Tagline

/-! ### Outlines -/

namespace Outline

/-- A character that ends no line and may begin no block scalar. -/
def isPlain (c : Char) : Bool := !Yaml.isBreak c && c != '|' && c != '>'

/-- A line of an outline: it can begin a line of a bare document, and has no other end of a line and
no sign of a block scalar in it. -/
structure Line where
  text : Text
  flush : Text.Flush text
  start : Yaml.LineStart text
  plain : text.all isPlain = true

theorem Line.chars (line : Line) :
    ∀ c ∈ line.text, Yaml.isBreak c = false ∧ c ≠ '|' ∧ c ≠ '>' := by
  intro c hc
  have hplain := List.all_eq_true.1 line.plain c hc
  simpa [isPlain, and_assoc] using hplain

end Outline

/-- A block all of whose lines are indented alike. -/
structure Outline where
  indent : Nat
  /-- Rows of spaces before the first line. -/
  front : List (Nat × Listing.Break) := []
  /-- All lines but the last one, with their ends. -/
  body : List (Outline.Line × Listing.Break) := []
  last : Outline.Line
  /-- The end of the last line and the spaces behind it. -/
  trail : Option (Listing.Break × Nat) := none

namespace Outline

variable (o : Outline)

/-- What stands behind the last line. -/
def trailText : Text :=
  match o.trail with
  | none => []
  | some (e, k) => e.text ++ Yaml.spaces k

/-- Lines and the last one, from behind the indentation of the first of them. -/
def textFrom : List (Line × Listing.Break) → Text
  | [] => o.last.text ++ o.trailText
  | (line, e) :: rest => line.text ++ (e.text ++ (Yaml.spaces o.indent ++ textFrom rest))

/-- The rows of spaces in front. -/
def rows : List (Nat × Text) := o.front.map fun row => (row.1, row.2.text)

/-- An outline in writing. -/
def text : Text := Yaml.blankRows o.rows ++ (Yaml.spaces o.indent ++ o.textFrom o.body)

/-- Lines and the last one, without indentation. -/
def linesFrom (body : List (Line × Listing.Break)) : List Text :=
  body.map (fun row => row.1.text) ++ [o.last.text]

/-- The lines of an outline. -/
def lines : List Text := o.linesFrom o.body

end Outline

/-! ### The text and its lines -/

theorem Listing.Break.isLineEnd (e : Listing.Break) : Yaml.IsLineEnd e.text := by
  cases e with
  | feed => exact .inl rfl
  | returnFeed => exact .inr rfl

namespace Yaml

theorem atGap_append_feed (w t : Text) : atGap (w ++ '\n' :: t) = atGap w := by
  cases w with
  | nil => rfl
  | cons c w => rfl

/-- Whether a line is a mark does not depend on the lines behind it. -/
theorem isDocumentMark_of_append_feed {w t : Text} (h : isDocumentMark (w ++ '\n' :: t) = true) :
    isDocumentMark w = true := by
  obtain ⟨m, r, hm, heq, hgap⟩ := isDocumentMark_iff.1 h
  have hfeed : '\n' ∉ m := by
    rcases hm with rfl | rfl <;> decide
  rcases List.append_eq_append_iff.1 heq with ⟨a, rfl, hr⟩ | ⟨a, rfl, hr⟩
  · cases a with
    | nil => exact isDocumentMark_iff.2 ⟨_, [], hm, by simp, rfl⟩
    | cons c a =>
      -- the mark would go on behind the end of the line
      obtain ⟨rfl, -⟩ := List.cons.inj hr
      exact absurd (List.mem_append_right w List.mem_cons_self) hfeed
  · rw [hr, atGap_append_feed] at hgap
    exact isDocumentMark_iff.2 ⟨m, a, hm, rfl, hgap⟩

theorem LineStart.append_feed {w : Text} (h : LineStart w) (t : Text) :
    LineStart (w ++ '\n' :: t) := by
  cases w with
  | nil => exact h.elim
  | cons c w =>
    obtain ⟨hspace, hbreak, hpercent, hmark, hdocument⟩ := h
    refine ⟨hspace, hbreak, hpercent, hmark, Bool.eq_false_iff.2 fun hno => ?_⟩
    exact Bool.eq_false_iff.1 hdocument (isDocumentMark_of_append_feed hno)

/-- The same characters in front of both texts. -/
theorem Indented.append {n : Nat} {w s s' : Text}
    (hw : ∀ c ∈ w, isBreak c = false ∧ c ≠ '|' ∧ c ≠ '>') (h : Indented n s s') :
    Indented n (w ++ s) (w ++ s') := by
  induction w with
  | nil => exact h
  | cons c w ih =>
    obtain ⟨hc, hw⟩ := List.forall_mem_cons.1 hw
    exact .char hc.1 hc.2 (ih hw)

end Yaml

namespace Outline

variable (o : Outline)

theorem isTrail_trailText : Yaml.IsTrail o.trailText := by
  unfold trailText
  cases o.trail with
  | none => exact .inl rfl
  | some p => exact .inr ⟨p.1.text, p.2, p.1.isLineEnd, rfl⟩

theorem linesFrom_ne_nil (body : List (Line × Listing.Break)) : o.linesFrom body ≠ [] := by
  simp [linesFrom]

/-- **The text is the body with more spaces before its lines.** -/
theorem indented (body : List (Line × Listing.Break)) :
    Yaml.Indented o.indent (Text.joinLines (o.linesFrom body)) (o.textFrom body) ∧
      Yaml.LineStart (Text.joinLines (o.linesFrom body)) := by
  induction body with
  | nil =>
    have htrail : Yaml.Indented o.indent [] o.trailText := .trail o.isTrail_trailText
    have hlast := htrail.append o.last.chars
    rw [List.append_nil] at hlast
    exact ⟨hlast, o.last.start⟩
  | cons row body ih =>
    obtain ⟨line, e⟩ := row
    obtain ⟨ih, hstart⟩ := ih
    have hjoin : Text.joinLines (o.linesFrom ((line, e) :: body)) =
        line.text ++ '\n' :: Text.joinLines (o.linesFrom body) :=
      Text.joinLines_cons (o.linesFrom_ne_nil body) line.text
    rw [hjoin]
    constructor
    · exact .append line.chars (.line e.isLineEnd hstart ih)
    · exact line.start.append_feed _

theorem isLineEnd_of_mem_rows : ∀ row ∈ o.rows, Yaml.IsLineEnd row.2 := by
  intro row hrow
  obtain ⟨p, -, rfl⟩ := List.mem_map.1 hrow
  exact p.2.isLineEnd

/-! ### The body of the host block -/

theorem isBlank_of_mem_spaces {k : Nat} {c : Char} (h : c ∈ Yaml.spaces k) :
    Text.isBlank c = true := by
  obtain rfl := List.eq_of_mem_replicate h
  rfl

/-- Spaces before a line or in a row of their own. -/
def pad (k : Nat) : Listing.Pad where
  text := Yaml.spaces k
  blank := List.all_eq_true.2 fun _ hc => isBlank_of_mem_spaces hc
  no_feed := by
    intro hmem
    exact absurd (List.eq_of_mem_replicate hmem) (by decide)

/-- A line of an outline is one of code. -/
def Line.code (line : Line) : Listing.Code where
  text := line.text
  ne_nil := by
    intro hnil
    exact (hnil ▸ line.start : Yaml.LineStart [])
  flush := line.flush
  no_feed := fun hmem => absurd (line.chars _ hmem).1 (by decide)
  no_return := by
    intro hlast
    exact absurd (line.chars _ (List.mem_of_getLast? hlast)).1 (by decide)

section Body

variable {s : Settings} (hindent : s.stripIndent = true) (hblank : s.skipBlankLines = true)

include hindent hblank

/-- The last line and what stands behind it. -/
theorem splitBody_last :
    s.splitBody (Yaml.spaces o.indent ++ (o.last.text ++ o.trailText)) = [o.last.text] := by
  have hrow := Settings.splitBody_row hindent hblank (.code (pad o.indent) o.last.code)
  unfold trailText
  cases o.trail with
  | none =>
    rw [List.append_nil]
    exact hrow
  | some p =>
    obtain ⟨e, k⟩ := p
    have hend := Settings.splitBody_row hindent hblank (.blank (pad k))
    have hsplit := Settings.splitBody_row_append hindent hblank
      (.code (pad o.indent) o.last.code) e (Yaml.spaces k)
    rw [← List.append_assoc, ← List.append_assoc]
    exact hsplit.trans (congrArg (o.last.text :: ·) hend)

theorem splitBody_textFrom (body : List (Line × Listing.Break)) :
    s.splitBody (Yaml.spaces o.indent ++ o.textFrom body) = o.linesFrom body := by
  induction body with
  | nil => exact o.splitBody_last hindent hblank
  | cons row body ih =>
    obtain ⟨line, e⟩ := row
    have hsplit := Settings.splitBody_row_append hindent hblank
      (.code (pad o.indent) line.code) e (Yaml.spaces o.indent ++ o.textFrom body)
    show s.splitBody (Yaml.spaces o.indent ++ (line.text ++ (e.text ++ _))) = _
    rw [← List.append_assoc, ← List.append_assoc]
    exact hsplit.trans (congrArg (line.text :: ·) ih)

/-- **The body is the lines.** -/
theorem splitBody_text : s.splitBody o.text = o.lines := by
  have hbody := o.splitBody_textFrom hindent hblank o.body
  unfold text rows Yaml.blankRows
  induction o.front with
  | nil => exact hbody
  | cons row front ih =>
    obtain ⟨k, e⟩ := row
    have hsplit := Settings.splitBody_row_append hindent hblank (.blank (pad k)) e
    rw [List.map_cons, List.flatMap_cons, List.append_assoc]
    exact (hsplit _).trans ih

end Body

/-- A line begins with something else than a blank. -/
theorem Line.allBlank_append (line : Line) (t : Text) :
    Text.allBlank (line.text ++ t) = false := by
  cases htext : line.text with
  | nil => exact (htext ▸ line.start : Yaml.LineStart []).elim
  | cons c w =>
    have hc : Text.isBlank c = false := Text.flush_cons.1 (htext ▸ line.flush)
    unfold Text.allBlank
    rw [List.cons_append, List.all_cons, hc, Bool.false_and]

theorem allBlank_joinLines : Text.allBlank (Text.joinLines o.lines) = false := by
  unfold lines
  cases o.body with
  | nil =>
    have hlast := o.last.allBlank_append []
    rwa [List.append_nil] at hlast
  | cons row body =>
    show Text.allBlank (Text.joinLines (row.1.text :: o.linesFrom body)) = false
    rw [Text.joinLines_cons (o.linesFrom_ne_nil body)]
    exact row.1.allBlank_append _

theorem allBlank_text : Text.allBlank o.text = false := by
  have hfrom : Text.allBlank (o.textFrom o.body) = false := by
    cases o.body with
    | nil => exact o.last.allBlank_append _
    | cons row body => exact row.1.allBlank_append _
  unfold Text.allBlank at hfrom ⊢
  unfold text
  rw [List.all_append, List.all_append, hfrom, Bool.and_false, Bool.and_false]

end Outline

/-! ### The names of the loop -/

namespace Yaml

/-- The value of a text depends on its tokens only. -/
theorem Value.ofText_congr {s t : Text} (h : tokens s = tokens t) :
    Value.ofText s = Value.ofText t := by
  unfold Value.ofText document
  rw [h]

/-- A text that is read has tokens. -/
theorem exists_tokens_of_ofText {s : Text} {v : Value} (h : Value.ofText s = .ok v) :
    ∃ ts, tokens s = .ok ts := by
  unfold Value.ofText document at h
  cases htokens : tokens s with
  | error e =>
    rw [htokens] at h
    exact nomatch h
  | ok ts => exact ⟨ts, rfl⟩

end Yaml

namespace LoopNames

/-- The names of a loop that is described by a mapping. -/
theorem ofText_of_mapping {s : Text} {entries : List (Yaml.Value × Yaml.Value)}
    (hblank : Text.allBlank s = false) (h : Yaml.Value.ofText s = .ok (.mapping entries)) :
    ofText s =
      ⟨(nameAt entries "collection".toList).value, (nameAt entries "item".toList).value⟩ := by
  unfold ofText read
  rw [if_neg (Bool.eq_false_iff.1 hblank), h]
  rfl

/-- **Options that are indented alike.** A block of options that is a mapping, and all of whose
lines are indented alike, is the same mapping as a host block, and describes the same loop. -/
theorem ofText_piped_outline (o : Outline) (h : Yaml.isMapping o.text = true) :
    Yaml.Value.ofText (Text.joinLines (({} : Settings).splitBody o.text)) =
        Yaml.Value.ofText o.text ∧
      ofText (Text.joinLines (({} : Settings).splitBody o.text)) = ofText o.text := by
  obtain ⟨entries, hvalue⟩ : ∃ entries, Yaml.Value.ofText o.text = .ok (.mapping entries) := by
    unfold Yaml.isMapping at h
    split at h
    · exact ⟨_, ‹_›⟩
    · exact nomatch h
  obtain ⟨ts, htokens⟩ := Yaml.exists_tokens_of_ofText hvalue
  obtain ⟨hindented, hstart⟩ := o.indented o.body
  -- the lines have the tokens of the outline, and hence its value
  obtain ⟨ts', htokens', rfl⟩ :=
    Yaml.tracks_tokens hindented hstart o.isLineEnd_of_mem_rows ts htokens
  have hsame : Yaml.Value.ofText (Text.joinLines o.lines) = Yaml.Value.ofText o.text :=
    Yaml.Value.ofText_congr (htokens'.trans htokens.symm)
  rw [o.splitBody_text rfl rfl]
  refine ⟨hsame, ?_⟩
  rw [ofText_of_mapping o.allBlank_joinLines (hsame.trans hvalue),
    ofText_of_mapping o.allBlank_text hvalue]

/-- Options behind a blank row and two spaces each, one of them a flow sequence over two lines. -/
theorem ofText_piped_outline_sample :
    let line (s : Text) (hf : Text.Flush s) (hs : Yaml.LineStart s)
        (hc : s.all Outline.isPlain = true) : Outline.Line := ⟨s, hf, hs, hc⟩
    let o : Outline := {
      indent := 2
      front := [(3, .feed)]
      body := [(line "collection: [a, # names".toList (by decide) (by decide) (by decide),
          .returnFeed),
        (line "b]".toList (by decide) (by decide) (by decide), .feed)]
      last := line "item: \"tab\"".toList (by decide) (by decide) (by decide)
      trail := some (.feed, 1) }
    Yaml.isMapping o.text = true ∧
      ofText (Text.joinLines (({} : Settings).splitBody o.text)) = ofText o.text ∧
      ofText o.text = ⟨none, some "tab".toList⟩ := by
  intro line o
  have hmapping : Yaml.isMapping o.text = true := by decide +kernel
  exact ⟨hmapping, (ofText_piped_outline o hmapping).2, by decide +kernel⟩

/-- **Options that are not.** A key inside the value of another one is an option of the loop in a
host block, and none in an argument. -/
theorem ofText_piped_nested :
    let block := "collection:\n  item: z".toList
    Yaml.isMapping block = true ∧
      ofText block = {} ∧
      ofText (Text.joinLines (({} : Settings).splitBody block)) = ⟨none, some "z".toList⟩ := by
  decide +kernel

end LoopNames

end Tagline
