import Tagline.Proofs.Listing

/-!
# What the body of a host block keeps

A host block is cut into lines, and the lines lose their indentation or, if they are blank, are left
out, as the settings say. Whatever the settings, what is lost is blanks: the *ink* of a text, its
characters other than blanks, is found again in the lines, in order.

* `ink_flatten_lines` — line breaks are blanks, so cutting a text into lines keeps its ink;
* `ink_flatten_kept` — and so does what is then made of each line;
* `kept_of_mem_splitBody` — a line of a body is itself one that is kept as it is, so that a body
  written line by line has itself as its body, if no carriage return runs into the end of a line;
* `splitBody_skipping` and `splitBody_stripping` — the two settings are two passes over the lines,
  one that leaves lines out and one that changes lines, and it does not matter which comes first.
-/

namespace Tagline

namespace Text

/-! ### Ink -/

/-- The characters of a text that are no blanks, in order. -/
def ink (s : Text) : Text := s.filter fun c => !isBlank c

theorem ink_append (s t : Text) : ink (s ++ t) = ink s ++ ink t := List.filter_append s t

theorem ink_cons_of_blank {c : Char} (hc : isBlank c = true) (s : Text) : ink (c :: s) = ink s :=
  List.filter_cons_of_neg (by simp [hc])

theorem ink_eq_nil {s : Text} (h : ∀ c ∈ s, isBlank c = true) : ink s = [] := by
  refine List.filter_eq_nil_iff.2 fun c hc => ?_
  rw [h c hc]
  exact Bool.false_ne_true

theorem ink_trimStart (s : Text) : ink (trimStart s) = ink s := by
  obtain ⟨pad, hs, hpad⟩ := exists_blanks s
  calc ink (trimStart s) = ink pad ++ ink (trimStart s) := by rw [ink_eq_nil hpad, List.nil_append]
    _ = ink (pad ++ trimStart s) := (ink_append pad _).symm
    _ = ink s := by rw [← hs]

/-- **Cutting a text into lines keeps its ink.** -/
theorem ink_flatten_lines (s : Text) : ink (lines s).flatten = ink s := by
  fun_induction lines s with
  | case1 => rfl
  | case2 s ih =>
    rw [ink_cons_of_blank (by decide)]
    exact ih
  | case3 s ih =>
    rw [ink_cons_of_blank (by decide), ink_cons_of_blank (by decide)]
    exact ih
  | case4 c s hc hs hlines ih =>
    -- `c` is the only line, and what follows it has none
    rw [hlines] at ih
    show ink ([c] ++ []) = ink ([c] ++ s)
    rw [ink_append, ink_append, ← ih]
    rfl
  | case5 c s hc hs l ls hlines ih =>
    rw [hlines] at ih
    show ink ([c] ++ (l :: ls).flatten) = ink ([c] ++ s)
    rw [ink_append, ink_append, ih]

theorem exists_of_allBlank_eq_false {s : Text} (h : allBlank s = false) :
    ∃ c ∈ s, isBlank c = false := by
  obtain ⟨c, hc, hblank⟩ := List.all_eq_false.1 h
  exact ⟨c, hc, Bool.eq_false_iff.2 hblank⟩

/-- A line is blank with its indentation or without it. -/
theorem allBlank_trimStart (s : Text) : allBlank (trimStart s) = allBlank s := by
  obtain ⟨pad, hs, hpad⟩ := exists_blanks s
  have hall : pad.all isBlank = true := List.all_eq_true.2 hpad
  calc allBlank (trimStart s) = (pad.all isBlank && allBlank (trimStart s)) := by
        rw [hall, Bool.true_and]
    _ = allBlank (pad ++ trimStart s) := List.all_append.symm
    _ = allBlank s := by rw [← hs]

end Text

namespace Settings

/-! ### Line by line -/

section Passes

variable (s : Settings)

theorem ink_dedent (line : Text) : Text.ink (s.dedent line) = Text.ink line := by
  unfold dedent
  split
  · exact Text.ink_trimStart line
  · rfl

/-- What is kept of a line has its ink. A line that is left out has none. -/
theorem ink_flatten_kept (line : Text) : Text.ink (s.kept line).flatten = Text.ink line := by
  rw [← s.ink_dedent line]
  unfold kept
  split
  · rw [List.flatten_singleton]
  · next hkeeps =>
    have hblank : Text.allBlank (s.dedent line) = true := by
      unfold keeps at hkeeps
      simp only [Bool.not_eq_true', Bool.not_eq_false, Bool.and_eq_true] at hkeeps
      exact hkeeps.2
    exact (Text.ink_eq_nil (List.all_eq_true.1 hblank)).symm

theorem dedent_dedent (line : Text) : s.dedent (s.dedent line) = s.dedent line := by
  unfold dedent
  split
  · exact Text.trimStart_of_flush (Text.flush_trimStart line)
  · rfl

theorem dedent_suffix (line : Text) : s.dedent line <:+ line := by
  unfold dedent
  split
  · exact List.dropWhile_suffix _
  · exact List.suffix_refl line

/-- **No ink is lost.** -/
theorem ink_flatten_splitBody (text : Text) :
    Text.ink (s.splitBody text).flatten = Text.ink text := by
  rw [splitBody_eq_flatMap, ← Text.ink_flatten_lines text]
  induction Text.lines text with
  | nil => rfl
  | cons line lines ih =>
    rw [List.flatMap_cons, List.flatten_append, List.flatten_cons, Text.ink_append,
      Text.ink_append, ih, ink_flatten_kept]

/-! ### The settings as passes -/

variable (text : Text)

/-- Leaving out blank lines is a pass over the body. -/
theorem splitBody_skipping :
    ({ s with skipBlankLines := true } : Settings).splitBody text =
      (({ s with skipBlankLines := false } : Settings).splitBody text).filter
        fun line => !Text.allBlank line := by
  unfold splitBody
  rw [List.filter_filter]
  refine List.filter_congr fun line _ => ?_
  simp [keeps]

/-- Dropping the indentation is a pass over the body, whether or not blank lines are left out. -/
theorem splitBody_stripping :
    ({ s with stripIndent := true } : Settings).splitBody text =
      (({ s with stripIndent := false } : Settings).splitBody text).map Text.trimStart := by
  have hkeeps : ∀ line, s.keeps (Text.trimStart line) = s.keeps line := by
    intro line
    unfold keeps
    rw [Text.allBlank_trimStart]
  have hdedent : ({ s with stripIndent := false } : Settings).dedent = id := rfl
  unfold splitBody
  rw [hdedent, List.map_id, List.filter_map]
  refine congrArg _ (List.filter_congr fun line _ => ?_)
  exact hkeeps line

end Passes

/-! ### The lines of a body -/

variable {s : Settings}

/-- Where a line of a body comes from. -/
theorem exists_of_mem_splitBody {text line : Text} (h : line ∈ s.splitBody text) :
    ∃ l ∈ Text.lines text, s.dedent l = line ∧ s.keeps line = true := by
  obtain ⟨hmem, hkeeps⟩ := List.mem_filter.1 h
  obtain ⟨l, hl, hline⟩ := List.mem_map.1 hmem
  exact ⟨l, hl, hline, hkeeps⟩

theorem feed_not_mem_of_mem_splitBody {text line : Text} (h : line ∈ s.splitBody text) :
    '\n' ∉ line := by
  obtain ⟨l, hl, rfl, -⟩ := exists_of_mem_splitBody h
  intro hmem
  exact Text.feed_not_mem_of_mem_lines hl ((s.dedent_suffix l).subset hmem)

/-- A line of a body is kept as it is. -/
theorem kept_of_mem_splitBody {text line : Text} (h : line ∈ s.splitBody text) :
    s.kept line = [line] := by
  obtain ⟨l, -, rfl, hkeeps⟩ := exists_of_mem_splitBody h
  unfold kept
  rw [dedent_dedent, if_pos hkeeps]

/-- **A body is its own body,** with a feed behind each line. -/
theorem splitBody_splitBody {text : Text}
    (h : ∀ line ∈ s.splitBody text, line.getLast? ≠ some '\r') :
    s.splitBody ((s.splitBody text).flatMap (· ++ ['\n'])) = s.splitBody text := by
  have hlines : Text.lines ((s.splitBody text).flatMap (· ++ ['\n'])) = s.splitBody text :=
    Text.lines_flatMap_feed fun line hline => ⟨feed_not_mem_of_mem_splitBody hline, h line hline⟩
  have hkept : (s.splitBody text).map s.kept = (s.splitBody text).map fun line => [line] :=
    List.map_congr_left fun line hline => kept_of_mem_splitBody hline
  calc s.splitBody ((s.splitBody text).flatMap (· ++ ['\n']))
      = (s.splitBody text).flatMap s.kept := by rw [splitBody_eq_flatMap, hlines]
    _ = (s.splitBody text).flatMap fun line => [line] := by
        rw [List.flatMap_def, hkept, List.flatMap_def]
    _ = s.splitBody text := List.flatMap_singleton' _

/-- **The body of a host block loses no code.** Its lines have the ink of the text, in order, and no
feeds. Lines are flush where indentation is dropped, and none is blank where blank lines are left
out. The settings are two passes over the lines of the text, in either order. And the lines, written
with a feed behind each, are their own body, unless one of them ends in a carriage return. -/
theorem splitBody_keeps_code (s : Settings) (text : Text) :
    Text.ink (s.splitBody text).flatten = Text.ink text ∧
    (∀ line ∈ s.splitBody text, '\n' ∉ line) ∧
    (s.stripIndent = true → ∀ line ∈ s.splitBody text, Text.Flush line) ∧
    (s.skipBlankLines = true → ∀ line ∈ s.splitBody text, ∃ c ∈ line, Text.isBlank c = false) ∧
    ({ s with skipBlankLines := true } : Settings).splitBody text =
      (({ s with skipBlankLines := false } : Settings).splitBody text).filter
        (fun line => !Text.allBlank line) ∧
    ({ s with stripIndent := true } : Settings).splitBody text =
      (({ s with stripIndent := false } : Settings).splitBody text).map Text.trimStart ∧
    ((∀ line ∈ s.splitBody text, line.getLast? ≠ some '\r') →
      s.splitBody ((s.splitBody text).flatMap (· ++ ['\n'])) = s.splitBody text) := by
  refine ⟨s.ink_flatten_splitBody text, fun line hline => feed_not_mem_of_mem_splitBody hline,
    ?_, ?_, s.splitBody_skipping text, s.splitBody_stripping text, splitBody_splitBody⟩
  · intro hindent line hline
    obtain ⟨l, -, rfl, -⟩ := exists_of_mem_splitBody hline
    rw [dedent_of_stripIndent hindent]
    exact Text.flush_trimStart l
  · intro hskip line hline
    obtain ⟨l, -, -, hkeeps⟩ := exists_of_mem_splitBody hline
    rw [keeps_of_skipBlankLines hskip, Bool.not_eq_true'] at hkeeps
    exact Text.exists_of_allBlank_eq_false hkeeps

/-- Two lines behind an ideographic space and a tab, between blank lines and with either end. -/
theorem splitBody_keeps_code_sample :
    let text := "\u3000= a\r\n \r\n\tif b \n\n".toList
    ({} : Settings).splitBody text = ["= a".toList, "if b ".toList] ∧
      (∀ line ∈ ({} : Settings).splitBody text, Text.Flush line) ∧
      (∀ line ∈ ({} : Settings).splitBody text, ∃ c ∈ line, Text.isBlank c = false) ∧
      ({} : Settings).splitBody ((({} : Settings).splitBody text).flatMap (· ++ ['\n'])) =
        ({} : Settings).splitBody text := by
  intro text
  obtain ⟨-, -, hflush, hink, -, -, hagain⟩ := splitBody_keeps_code {} text
  exact ⟨by decide, hflush rfl, hink rfl, hagain (by decide)⟩

-- A carriage return at the end of a line is taken for a part of its end the second time.
example : ({} : Settings).splitBody "a\r\r\n".toList = ["a\r".toList] ∧
    ({} : Settings).splitBody "a\r\n".toList = ["a".toList] := by decide

end Settings

end Tagline
