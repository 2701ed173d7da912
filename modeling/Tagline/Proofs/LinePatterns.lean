import Mathlib.Logic.ExistsUnique
import Tagline.Proofs.LineGrammar
import Tagline.Proofs.Text.Parts

/-!
# The patterns of lines

The block language is a table of eight patterns. A pattern has a condition on the line
(`Pattern.Fits`) and says what the line means (`Pattern.Gives`). Neither mentions an order in which
patterns are tried: where the word of one pattern begins the word of another, the condition of the
shorter one excludes the longer one, and the last pattern is for lines that fit none of the others.

* `Means.fits` — every line fits the pattern of the clause that it means;
* `Fits.gives` — whichever pattern a line fits, the reading of the line is what that pattern says;
* `Gives.pattern_eq` and `Gives.unique` — a pattern gives clauses of its own kind, and only one for
  a line.

So no line fits two patterns: its one reading would have to be of two kinds. What a pattern says is
told by how the line is put together, so that it does not depend on how the parts are looked for.
-/

namespace Tagline

namespace Clause

/-! ### The table -/

/-- The patterns of lines. -/
inductive Pattern where
  | echo
  | elseIf
  | otherwise
  | loopEnd
  | blockEnd
  | loopStart
  | ifThen
  | verbatim
  deriving DecidableEq, Repr

/-- A line begins with a keyword: behind the word it ends, or a blank or `(` follows. -/
def BeginsKeyword (word line : Text) : Prop :=
  ∃ rest, line = word ++ rest ∧ ∀ c ∈ rest.head?, Text.isBlank c = true ∨ c = '('

/-- The text behind `end` asks for the end of a loop: blanks, `each`, and perhaps more blanks. -/
def IsLoopHint (rest : Text) : Prop :=
  ∃ pad pad', pad ≠ [] ∧ Text.allBlank pad = true ∧ Text.allBlank pad' = true ∧
    rest = pad ++ "each".toList ++ pad'

namespace Pattern

/-- The lines that are of a pattern. -/
def Fits (line : Text) : Pattern → Prop
  | .echo => "=".toList <+: line
  | .elseIf => BeginsKeyword "elseif".toList line
  | .otherwise => "else".toList <+: line ∧ ¬ BeginsKeyword "elseif".toList line
  | .loopEnd => "endeach".toList <+: line
  | .blockEnd => "end".toList <+: line ∧ ¬ "endeach".toList <+: line
  | .loopStart => "each".toList <+: line
  | .ifThen => BeginsKeyword "if".toList line
  | .verbatim =>
    ¬ "=".toList <+: line ∧ ¬ BeginsKeyword "elseif".toList line ∧ ¬ "else".toList <+: line ∧
      ¬ "endeach".toList <+: line ∧ ¬ "end".toList <+: line ∧ ¬ "each".toList <+: line ∧
      ¬ BeginsKeyword "if".toList line

/-- What a line of a pattern means. -/
def Gives (line : Text) : Pattern → Clause → Prop
  | .echo, c => ∃ rest code, line = "=".toList ++ rest ∧ Text.IsTrim rest code ∧ c = .echo code
  | .elseIf, c =>
    ∃ rest tail condition, line = "elseif".toList ++ rest ∧ Text.IsTrimStart rest tail ∧
      Text.IsDropTerminator tail condition ∧ c = .conditional .elseIf (some condition)
  | .otherwise, c => c = .conditional .otherwise none
  | .loopEnd, c => c = .loopEnd
  | .blockEnd, c =>
    ∃ rest closes, line = "end".toList ++ rest ∧ (closes = true ↔ IsLoopHint rest) ∧
      c = .blockEnd closes
  -- The first word begins with `each`, and words behind the third have no meaning.
  | .loopStart, c =>
    ∃ ws, Text.HasWords line ws ∧
      c = .loopStart (ws[1]?.getD "collection".toList) (ws[2]?.getD "item".toList)
  | .ifThen, c =>
    ∃ rest condition, line = "if".toList ++ rest ∧ Text.IsTrimStart rest condition ∧
      c = .conditional .ifThen (some condition)
  | .verbatim, c => c = .verbatim line

end Pattern

/-- The pattern whose lines mean clauses of this kind. -/
def pattern : Clause → Pattern
  | .echo _ => .echo
  | .conditional .ifThen _ => .ifThen
  | .conditional .elseIf _ => .elseIf
  | .conditional .otherwise _ => .otherwise
  | .loopStart _ _ => .loopStart
  | .loopEnd => .loopEnd
  | .blockEnd _ => .blockEnd
  | .verbatim _ => .verbatim

/-! ### Keywords and hints -/

theorem endsKeyword_iff {rest : Text} :
    endsKeyword rest = true ↔ ∀ c ∈ rest.head?, Text.isBlank c = true ∨ c = '(' := by
  cases rest with
  | nil => simp [endsKeyword]
  | cons c rest => simp [endsKeyword]

theorem beginsKeyword_iff {word line : Text} :
    BeginsKeyword word line ↔ ∃ rest, line = word ++ rest ∧ endsKeyword rest = true := by
  unfold BeginsKeyword
  simp only [endsKeyword_iff]

theorem keyword?_eq_none_iff_not {word line : Text} :
    keyword? word line = none ↔ ¬ BeginsKeyword word line := by
  rw [beginsKeyword_iff, keyword?_eq_none_iff]
  constructor
  · rintro h ⟨rest, hline, hend⟩
    rw [h rest hline] at hend
    exact Bool.false_ne_true hend
  · intro h rest hline
    exact eq_false_of_ne_true fun hend => h ⟨rest, hline, hend⟩

theorem endeach_isPrefix_iff {rest : Text} :
    "endeach".toList <+: "end".toList ++ rest ↔ "each".toList <+: rest :=
  List.prefix_append_right_inj "end".toList

/-- Behind an `end` that is no `endeach`, the blanks before the hint cannot be missing. -/
theorem closesLoop_iff {rest : Text} (hnot : ¬ "each".toList <+: rest) :
    closesLoop rest = true ↔ IsLoopHint rest := by
  have hword : Text.IsWord "each".toList := by decide
  unfold closesLoop
  rw [beq_iff_eq, Text.trim_eq_word_iff hword]
  constructor
  · rintro ⟨pad, pad', hpad, hpad', hrest⟩
    refine ⟨pad, pad', ?_, hpad, hpad', hrest⟩
    rintro rfl
    exact hnot ⟨pad', hrest.symm⟩
  · rintro ⟨pad, pad', -, hpad, hpad', hrest⟩
    exact ⟨pad, pad', hpad, hpad', hrest⟩

/-! ### Every line has a pattern -/

/-- A line fits the pattern of what it means. -/
theorem Means.fits {line : Text} {c : Clause} (h : Means line c) : c.pattern.Fits line := by
  cases h with
  | echo code => exact ⟨code, rfl⟩
  | @elseIf rest hend => exact beginsKeyword_iff.2 ⟨rest, rfl, hend⟩
  | @otherwise rest hnot => exact ⟨⟨rest, rfl⟩, keyword?_eq_none_iff_not.1 hnot⟩
  | loopEnd rest => exact ⟨rest, rfl⟩
  | @blockEnd rest hnot => exact ⟨⟨rest, rfl⟩, mt endeach_isPrefix_iff.1 hnot⟩
  | loopStart rest => exact ⟨rest, rfl⟩
  | @ifThen rest hend => exact beginsKeyword_iff.2 ⟨rest, rfl, hend⟩
  | verbatim hplain =>
    -- the longer words are excluded with the shorter ones that they begin with
    refine ⟨hplain.not_echo, ?_, hplain.not_else, ?_, hplain.not_end, hplain.not_each, ?_⟩
    · rintro ⟨rest, rfl, -⟩
      exact hplain.not_else ⟨"if".toList ++ rest, rfl⟩
    · rintro ⟨rest, rfl⟩
      exact hplain.not_end ⟨"each".toList ++ rest, rfl⟩
    · exact keyword?_eq_none_iff_not.1 (keyword?_eq_none_iff.2 hplain.not_if)

/-! ### A pattern decides the reading -/

namespace Pattern

/-- **Whichever pattern a line fits, it is read by that one.** Each case is a rule of the grammar,
which `ofLine` keeps. -/
theorem Fits.gives {line : Text} {p : Pattern} (h : p.Fits line) : p.Gives line (ofLine line) := by
  cases p with
  | echo =>
    obtain ⟨rest, rfl⟩ := h
    exact ⟨rest, Text.trim rest, rfl, Text.trim_eq_iff.1 rfl, (Means.echo rest).ofLine_eq⟩
  | elseIf =>
    obtain ⟨rest, rfl, hend⟩ := beginsKeyword_iff.1 h
    exact ⟨rest, Text.trimStart rest, Text.dropTerminator (Text.trimStart rest), rfl,
      Text.trimStart_eq_iff.1 rfl, Text.dropTerminator_eq_iff.1 rfl, (Means.elseIf hend).ofLine_eq⟩
  | otherwise =>
    obtain ⟨⟨rest, rfl⟩, hnot⟩ := h
    exact (Means.otherwise (keyword?_eq_none_iff_not.2 hnot)).ofLine_eq
  | loopEnd =>
    obtain ⟨rest, rfl⟩ := h
    exact (Means.loopEnd rest).ofLine_eq
  | blockEnd =>
    obtain ⟨⟨rest, rfl⟩, hnot⟩ := h
    have heach : ¬ "each".toList <+: rest := mt endeach_isPrefix_iff.2 hnot
    exact ⟨rest, closesLoop rest, rfl, closesLoop_iff heach, (Means.blockEnd heach).ofLine_eq⟩
  | loopStart =>
    obtain ⟨rest, rfl⟩ := h
    exact ⟨Text.words _, Text.words_eq_iff.1 rfl, (Means.loopStart rest).ofLine_eq⟩
  | ifThen =>
    obtain ⟨rest, rfl, hend⟩ := beginsKeyword_iff.1 h
    exact ⟨rest, Text.trimStart rest, rfl, Text.trimStart_eq_iff.1 rfl,
      (Means.ifThen hend).ofLine_eq⟩
  | verbatim =>
    obtain ⟨hecho, -, helse, -, hend, heach, hif⟩ := h
    have hnot_if := keyword?_eq_none_iff.1 (keyword?_eq_none_iff_not.2 hif)
    exact (Means.verbatim ⟨hecho, helse, hend, heach, hnot_if⟩).ofLine_eq

/-- A pattern gives clauses of its own kind. -/
theorem Gives.pattern_eq {line : Text} {p : Pattern} {c : Clause} (h : p.Gives line c) :
    c.pattern = p := by
  cases p with
  | echo =>
    obtain ⟨rest, code, -, -, rfl⟩ := h
    rfl
  | elseIf =>
    obtain ⟨rest, tail, condition, -, -, -, rfl⟩ := h
    rfl
  | otherwise => exact congrArg pattern h
  | loopEnd => exact congrArg pattern h
  | blockEnd =>
    obtain ⟨rest, closes, -, -, rfl⟩ := h
    rfl
  | loopStart =>
    obtain ⟨ws, -, rfl⟩ := h
    rfl
  | ifThen =>
    obtain ⟨rest, condition, -, -, rfl⟩ := h
    rfl
  | verbatim => exact congrArg pattern h

/-- A pattern leaves no choice: what stands behind its word is given by the line, and the parts of
that by how it is put together. -/
theorem Gives.unique {line : Text} {p : Pattern} {c c' : Clause} (h : p.Gives line c)
    (h' : p.Gives line c') : c = c' := by
  cases p with
  | echo =>
    obtain ⟨rest, code, rfl, hcode, rfl⟩ := h
    obtain ⟨rest', code', hline, hcode', rfl⟩ := h'
    obtain rfl : rest = rest' := List.append_cancel_left hline
    rw [← Text.trim_eq_iff.2 hcode, ← Text.trim_eq_iff.2 hcode']
  | elseIf =>
    obtain ⟨rest, tail, condition, rfl, htail, hcondition, rfl⟩ := h
    obtain ⟨rest', tail', condition', hline, htail', hcondition', rfl⟩ := h'
    obtain rfl : rest = rest' := List.append_cancel_left hline
    obtain rfl : tail = tail' :=
      (Text.trimStart_eq_iff.2 htail).symm.trans (Text.trimStart_eq_iff.2 htail')
    rw [hcondition.unique hcondition']
  | otherwise => exact h.trans h'.symm
  | loopEnd => exact h.trans h'.symm
  | blockEnd =>
    obtain ⟨rest, closes, rfl, hcloses, rfl⟩ := h
    obtain ⟨rest', closes', hline, hcloses', rfl⟩ := h'
    obtain rfl : rest = rest' := List.append_cancel_left hline
    rw [Bool.eq_iff_iff.2 (hcloses.trans hcloses'.symm)]
  | loopStart =>
    obtain ⟨ws, hws, rfl⟩ := h
    obtain ⟨ws', hws', rfl⟩ := h'
    rw [← Text.words_eq_iff.2 hws, ← Text.words_eq_iff.2 hws']
  | ifThen =>
    obtain ⟨rest, condition, rfl, hcondition, rfl⟩ := h
    obtain ⟨rest', condition', hline, hcondition', rfl⟩ := h'
    obtain rfl : rest = rest' := List.append_cancel_left hline
    rw [← Text.trimStart_eq_iff.2 hcondition, ← Text.trimStart_eq_iff.2 hcondition']
  | verbatim => exact h.trans h'.symm

theorem Gives.iff_ofLine_eq {line : Text} {p : Pattern} (h : p.Fits line) {c : Clause} :
    p.Gives line c ↔ ofLine line = c := by
  constructor
  · exact h.gives.unique
  · rintro rfl
    exact h.gives

end Pattern

/-- **The table has no order.** Every line fits exactly one of the eight patterns, and means what
that pattern gives, which is one clause. -/
theorem existsUnique_pattern (line : Text) :
    (∃! p : Pattern, p.Fits line) ∧
      ∀ p : Pattern, p.Fits line → ∀ c : Clause, p.Gives line c ↔ ofLine line = c := by
  constructor
  · obtain ⟨c, hc⟩ := exists_means line
    refine ⟨c.pattern, hc.fits, ?_⟩
    intro q hq
    -- two patterns would make two kinds of the one reading
    have hc' : c.pattern.Gives line (ofLine line) := hc.fits.gives
    exact hq.gives.pattern_eq.symm.trans hc'.pattern_eq
  · intro p hp c
    exact Pattern.Gives.iff_ofLine_eq hp

/-- A hint between blanks of two kinds and a carriage return, and an `else` that only looks like
`elseif`. -/
theorem existsUnique_pattern_sample :
    let hinted := "end\u3000 each\r".toList
    let run := "elseifx".toList
    Pattern.Fits hinted .blockEnd ∧ Pattern.Gives hinted .blockEnd (.blockEnd true) ∧
      ¬ Pattern.Fits run .elseIf ∧ Pattern.Gives run .otherwise (.conditional .otherwise none) := by
  intro hinted run
  have hhinted : Pattern.Fits hinted .blockEnd := by
    constructor <;> decide
  have hnot : ¬ BeginsKeyword "elseif".toList run :=
    keyword?_eq_none_iff_not.1 (by decide)
  have hrun : Pattern.Fits run .otherwise := ⟨by decide, hnot⟩
  refine ⟨hhinted, ?_, hnot, ?_⟩
  · exact ((existsUnique_pattern hinted).2 _ hhinted _).2 (by decide)
  · exact ((existsUnique_pattern run).2 _ hrun _).2 (by decide)

end Clause

end Tagline
