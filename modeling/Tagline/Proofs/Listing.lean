import Tagline.Host
import Tagline.Proofs.Text.Lines
import Tagline.Proofs.Text.Trimming

/-!
# Listings

A host block is a listing of code: rows, each of which is blank or holds one line of code behind
some indentation, and each of which ends in a line feed, alone or after a carriage return. The
last row may go without. The same code can be laid out in many ways, and where indentation and
blank lines are dropped, none of that is left in the body of a block.

The parts of a listing carry what makes them one: a `Listing.Pad` is blanks on one line, a
`Listing.Code` begins with something else and does not run into the end of its row. So every
listing has a text (`Listing.text`) and lines of code (`Listing.code`), and the statements below are
about all of them.

* `Settings.splitBody_eq_flatMap` — a body is put together line by line;
* `kept_row` — what a row contributes is its code, also if a carriage return was taken from the end
  of its blanks;
* `splitBody_row_append` — hence a row in front adds its code and changes nothing else;
* `splitBody_listing` — so the body is the code, and the expansion depends on nothing else.
-/

namespace Tagline

/-! ### Rows of code -/

namespace Listing

/-- Blanks on one line. -/
structure Pad where
  text : Text
  blank : Text.allBlank text = true
  no_feed : '\n' ∉ text

/-- A line of code: not empty, flush, on one line, and without a carriage return at its end. -/
structure Code where
  text : Text
  ne_nil : text ≠ []
  flush : Text.Flush text
  no_feed : '\n' ∉ text
  no_return : text.getLast? ≠ some '\r'

/-- A row of a listing. -/
inductive Row where
  | blank (pad : Pad)
  | code (pad : Pad) (line : Code)

/-- What ends a row. -/
inductive Break where
  | feed
  | returnFeed

theorem Pad.isBlank (pad : Pad) : ∀ c ∈ pad.text, Text.isBlank c = true :=
  List.all_eq_true.1 pad.blank

namespace Row

/-- A row in writing. -/
def text : Row → Text
  | .blank pad => pad.text
  | .code pad line => pad.text ++ line.text

/-- The code in a row, if there is any. -/
def lines : Row → List Text
  | .blank _ => []
  | .code _ line => [line.text]

end Row

/-- The end of a row in writing. -/
def Break.text : Break → Text
  | .feed => ['\n']
  | .returnFeed => ['\r', '\n']

end Listing

/-- Rows of code, the last of which may have no end. -/
structure Listing where
  rows : List (Listing.Row × Listing.Break)
  last : Option Listing.Row := none

namespace Listing

/-- The text of a listing. -/
def text (l : Listing) : Text :=
  l.rows.flatMap (fun r => r.1.text ++ r.2.text) ++ (l.last.map Row.text).getD []

/-- The lines of code in a listing, in order. -/
def code (l : Listing) : List Text :=
  l.rows.flatMap (fun r => r.1.lines) ++ (l.last.map Row.lines).getD []

theorem Row.no_feed (r : Row) : '\n' ∉ r.text := by
  cases r with
  | blank pad => exact pad.no_feed
  | code pad line =>
    intro hmem
    rcases List.mem_append.1 hmem with hmem | hmem
    · exact pad.no_feed hmem
    · exact line.no_feed hmem

end Listing

/-! ### What a line contributes -/

namespace Settings

/-- What is kept of one line of a host block: the line without its indentation, or nothing. -/
def kept (s : Settings) (line : Text) : List Text :=
  if s.keeps (s.dedent line) then [s.dedent line] else []

theorem splitBody_eq_flatMap (s : Settings) (text : Text) :
    s.splitBody text = (Text.lines text).flatMap s.kept := by
  unfold splitBody
  induction Text.lines text with
  | nil => rfl
  | cons line lines ih =>
    rw [List.map_cons, List.filter_cons, List.flatMap_cons, ih]
    unfold kept
    split <;> rfl

section Dropping

variable {s : Settings} (hindent : s.stripIndent = true) (hblank : s.skipBlankLines = true)

include hindent in
theorem dedent_of_stripIndent (line : Text) : s.dedent line = Text.trimStart line := by
  unfold dedent
  rw [if_pos hindent]

include hblank in
theorem keeps_of_skipBlankLines (line : Text) : s.keeps line = !Text.allBlank line := by
  unfold keeps
  rw [hblank, Bool.true_and]

include hindent hblank

/-- Of a line of blanks, nothing is kept. -/
theorem kept_of_blank {line : Text} (h : ∀ c ∈ line, Text.isBlank c = true) :
    s.kept line = [] := by
  have hdedent : s.dedent line = [] := by
    rw [dedent_of_stripIndent hindent, Text.trimStart_eq_nil h]
  unfold kept
  rw [hdedent, keeps_of_skipBlankLines hblank]
  rfl

/-- Of a line of code, all but the indentation is kept. -/
theorem kept_of_code (pad : Listing.Pad) (line : Listing.Code) :
    s.kept (pad.text ++ line.text) = [line.text] := by
  have hdedent : s.dedent (pad.text ++ line.text) = line.text := by
    rw [dedent_of_stripIndent hindent, Text.trimStart_append_of_blank pad.isBlank,
      Text.trimStart_of_flush line.flush]
  have hkeeps : s.keeps line.text = true := by
    rw [keeps_of_skipBlankLines hblank]
    -- the first character is no blank
    cases htext : line.text with
    | nil => exact absurd htext line.ne_nil
    | cons c r =>
      have hc : Text.isBlank c = false := Text.flush_cons.1 (htext ▸ line.flush)
      simp [Text.allBlank, hc]
  unfold kept
  rw [hdedent, if_pos hkeeps]

/-- What a row contributes is its code. A carriage return at its end, if it was taken for a part
of the line's end, was one of its blanks. -/
theorem kept_row (r : Listing.Row) :
    s.kept r.text = r.lines ∧ s.kept (Text.dropReturn r.text) = r.lines := by
  cases r with
  | blank pad =>
    constructor
    · exact kept_of_blank hindent hblank pad.isBlank
    · apply kept_of_blank hindent hblank
      intro c hc
      exact pad.isBlank c (Text.mem_of_mem_dropReturn hc)
  | code pad line =>
    -- the end of the row is that of its code, which is no carriage return
    have hlast : (pad.text ++ line.text).getLast? ≠ some '\r' := by
      have hreturn := line.no_return
      rw [List.getLast?_eq_some_getLast line.ne_nil] at hreturn
      rw [List.getLast?_append, List.getLast?_eq_some_getLast line.ne_nil, Option.some_or]
      exact hreturn
    have hkept := kept_of_code hindent hblank pad line
    refine ⟨hkept, ?_⟩
    show s.kept (Text.dropReturn (pad.text ++ line.text)) = _
    rw [Text.dropReturn_of_getLast? hlast]
    exact hkept

/-- **One row in front.** It adds its code to the body, whichever way it ends. -/
theorem splitBody_row_append (r : Listing.Row) (e : Listing.Break) (rest : Text) :
    s.splitBody (r.text ++ e.text ++ rest) = r.lines ++ s.splitBody rest := by
  obtain ⟨hrow, hreturn⟩ := kept_row hindent hblank r
  rw [splitBody_eq_flatMap, splitBody_eq_flatMap, List.append_assoc]
  cases e with
  | feed =>
    show (Text.lines (r.text ++ '\n' :: rest)).flatMap s.kept = _
    rw [Text.lines_append_feed r.no_feed, List.flatMap_cons, hreturn]
  | returnFeed =>
    show (Text.lines (r.text ++ '\r' :: '\n' :: rest)).flatMap s.kept = _
    rw [Text.lines_append_pair r.no_feed, List.flatMap_cons, hrow]

/-- The last row adds its code also without an end; if it is empty, it is no line at all. -/
theorem splitBody_row (r : Listing.Row) : s.splitBody r.text = r.lines := by
  obtain ⟨hrow, -⟩ := kept_row hindent hblank r
  rw [splitBody_eq_flatMap]
  by_cases hne : r.text = []
  · rw [hne] at hrow ⊢
    rw [← hrow]
    exact (kept_of_blank hindent hblank (by simp)).symm
  · rw [Text.lines_of_not_mem r.no_feed hne, List.flatMap_singleton, hrow]

/-- **The body is the code.** -/
theorem splitBody_text (l : Listing) : s.splitBody l.text = l.code := by
  obtain ⟨rows, last⟩ := l
  unfold Listing.text Listing.code
  induction rows with
  | nil =>
    cases last with
    | none => rfl
    | some r => exact splitBody_row hindent hblank r
  | cons row rows ih =>
    rw [List.flatMap_cons, List.flatMap_cons, List.append_assoc,
      splitBody_row_append hindent hblank, ih, List.append_assoc]

end Dropping

/-- **The layout of a host block does not matter.** Where indentation and blank lines are dropped,
the body of a listing is its code, so that two listings of the same code are expanded alike, log
records included, by every table, for every filter and with every argument. -/
theorem splitBody_listing (s : Settings) (hindent : s.stripIndent = true)
    (hblank : s.skipBlankLines = true) :
    (∀ l : Listing, s.splitBody l.text = l.code) ∧
    ∀ l l' : Listing, l.code = l'.code →
      ∀ (t : FilterTable) (f : Filter) (argument : Option Text) (safe safe' : Bool),
        t.expand (Host.blockOf s f (.string l.text safe) argument) =
          t.expand (Host.blockOf s f (.string l'.text safe') argument) := by
  have hbody := splitBody_text hindent hblank
  refine ⟨hbody, ?_⟩
  intro l l' hcode t f argument safe safe'
  have hblock : ∀ (l : Listing) (safe : Bool),
      Host.blockOf s f (.string l.text safe) argument =
        { filter := f, body := l.code, argument } := by
    intro l safe
    rw [← hbody l]
    rfl
  rw [hblock, hblock, hcode]

/-- Two lines of code among blank rows, behind an ideographic space and a carriage return, and the
same lines without any of that. -/
theorem splitBody_listing_sample :
    let pad : Listing.Pad := ⟨"\u3000\r".toList, by decide, by decide⟩
    let bare : Listing.Pad := ⟨[], by decide, by decide⟩
    let first : Listing.Code := ⟨"if a\rb".toList, by decide, by decide, by decide, by decide⟩
    let second : Listing.Code := ⟨"end ".toList, by decide, by decide, by decide, by decide⟩
    let loose : Listing := ⟨[(.blank bare, .feed), (.code pad first, .returnFeed),
      (.blank pad, .feed)], some (.code pad second)⟩
    let tight : Listing := ⟨[(.code bare first, .feed), (.code bare second, .feed)], none⟩
    ({} : Settings).splitBody loose.text = ["if a\rb".toList, "end ".toList] ∧
      FilterTable.standard.expand (Host.blockOf {} .script (.ofText loose.text) none) =
        FilterTable.standard.expand (Host.blockOf {} .script (.ofText tight.text) none) := by
  intro pad bare first second loose tight
  obtain ⟨hbody, hexpand⟩ := splitBody_listing {} rfl rfl
  exact ⟨hbody loose, hexpand loose tight rfl _ _ _ _ _⟩

end Settings

end Tagline
