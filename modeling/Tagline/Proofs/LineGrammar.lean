import Tagline.Clause
import Tagline.Proofs.Text.Trimming

/-!
# The grammar of lines

`Clause.ofLine` tries its patterns one after the other. Here the same reading is a grammar
without an order (`Clause.Means`): each rule says by itself, with what must not follow its
word, which lines it is for.

* `means_iff` — a line means a clause in the grammar exactly if `ofLine` reads it so;
  hence every line means one clause and one only.
* `exists_ofLine_eq_iff` — the clauses that some line means are the `Readable` ones: a
  trimmed expression, a condition that is flush, two words for a loop, or script that no
  pattern claims.

Going from a clause back to a line is a matter of finding a spelling that no other rule
takes. A condition of `elseif` that itself ends in a terminator is the delicate one: it is
written with a carriage return and a line feed behind it, since a line feed alone would be
taken together with a carriage return before it (`ofLine_elseif_pair`).
-/

namespace Tagline

/-! ### Beginnings and keywords -/

namespace Text

theorem begins_iff_isPrefix {word line : Text} : begins word line = true ↔ word <+: line := by
  rw [begins_iff]
  simp only [List.IsPrefix, eq_comm]

theorem begins_eq_false_iff {word line : Text} : begins word line = false ↔ ¬ word <+: line := by
  rw [← begins_iff_isPrefix, Bool.not_eq_true]

theorem after?_eq_none_iff {word line : Text} : after? word line = none ↔ ¬ word <+: line := by
  rw [← begins_eq_false_iff, begins, Option.isSome_eq_false_iff, Option.isNone_iff_eq_none]

end Text

namespace Clause

theorem keyword?_eq_some_iff {word line rest : Text} :
    keyword? word line = some rest ↔ line = word ++ rest ∧ endsKeyword rest = true := by
  unfold keyword?
  rw [Option.filter_eq_some_iff, Text.after?_eq_some_iff]

theorem keyword?_eq_none_iff {word line : Text} :
    keyword? word line = none ↔ ∀ rest, line = word ++ rest → endsKeyword rest = false := by
  constructor
  · intro h rest hline
    cases hend : endsKeyword rest with
    | false => rfl
    | true =>
      have hsome : keyword? word line = some rest := keyword?_eq_some_iff.2 ⟨hline, hend⟩
      rw [h] at hsome
      exact absurd hsome.symm (Option.some_ne_none rest)
  · intro h
    cases hk : keyword? word line with
    | none => rfl
    | some rest =>
      obtain ⟨hline, hend⟩ := keyword?_eq_some_iff.1 hk
      rw [h rest hline] at hend
      exact absurd hend Bool.false_ne_true

theorem endsKeyword_cons_of_blank {c : Char} (hc : Text.isBlank c = true) (s : Text) :
    endsKeyword (c :: s) = true := by
  show (Text.isBlank c || c == '(') = true
  rw [hc, Bool.true_or]

/-! ### The rules -/

/-- Script that no pattern claims. The keyword `elseif` needs no mention beside `else`, nor
`endeach` beside `end`. -/
structure Plain (line : Text) : Prop where
  not_echo : ¬ "=".toList <+: line
  not_else : ¬ "else".toList <+: line
  not_end : ¬ "end".toList <+: line
  not_each : ¬ "each".toList <+: line
  not_if : ∀ rest, line = "if".toList ++ rest → endsKeyword rest = false

/-- What a line means, rule by rule and in no order. -/
inductive Means : Text → Clause → Prop
  | echo (code : Text) : Means ("=".toList ++ code) (.echo (Text.trim code))
  | elseIf {rest : Text} (hend : endsKeyword rest = true) :
    Means ("elseif".toList ++ rest)
      (.conditional .elseIf (some (Text.dropTerminator (Text.trimStart rest))))
  | otherwise {rest : Text} (hnot : keyword? "elseif".toList ("else".toList ++ rest) = none) :
    Means ("else".toList ++ rest) (.conditional .otherwise none)
  | loopEnd (rest : Text) : Means ("endeach".toList ++ rest) .loopEnd
  | blockEnd {rest : Text} (hnot : ¬ "each".toList <+: rest) :
    Means ("end".toList ++ rest) (.blockEnd (closesLoop rest))
  | loopStart (rest : Text) :
    Means ("each".toList ++ rest)
      (loop (Text.words ("each".toList ++ rest))[1]? (Text.words ("each".toList ++ rest))[2]?)
  | ifThen {rest : Text} (hend : endsKeyword rest = true) :
    Means ("if".toList ++ rest) (.conditional .ifThen (some (Text.trimStart rest)))
  | verbatim {line : Text} (hplain : Plain line) : Means line (.verbatim line)

/-- Every rule is kept by `ofLine`: the word that a line begins with rules the patterns out
that come first. -/
theorem Means.ofLine_eq {line : Text} {c : Clause} (h : Means line c) : ofLine line = c := by
  cases h with
  | echo code => rfl
  | @elseIf rest hend =>
    have hkey : keyword? "elseif".toList ("elseif".toList ++ rest) = some rest :=
      keyword?_eq_some_iff.2 ⟨rfl, hend⟩
    unfold ofLine
    rw [hkey]
    rfl
  | otherwise hnot =>
    -- the keyword is tried before the plain beginning, and fails by hypothesis
    unfold ofLine
    rw [hnot]
    rfl
  | loopEnd rest => rfl
  | @blockEnd rest hnot =>
    -- `endeach` would need an `each` right behind the `end`
    have hbegins : Text.begins "endeach".toList ("end".toList ++ rest) = false := by
      show Text.begins "each".toList rest = false
      exact Text.begins_eq_false_iff.2 hnot
    unfold ofLine
    rw [hbegins]
    rfl
  | loopStart rest => simp [ofLine, Text.after?, keyword?, Text.begins]
  | @ifThen rest hend =>
    have hkey : keyword? "if".toList ("if".toList ++ rest) = some rest :=
      keyword?_eq_some_iff.2 ⟨rfl, hend⟩
    unfold ofLine
    rw [hkey]
    rfl
  | verbatim hplain =>
    -- the longer words are excluded with the shorter ones that they begin with
    have helseIf : keyword? "elseif".toList line = none := by
      rw [keyword?_eq_none_iff]
      rintro rest rfl
      exact absurd ⟨"if".toList ++ rest, rfl⟩ hplain.not_else
    have hendEach : ¬ "endeach".toList <+: line := by
      rintro ⟨rest, rfl⟩
      exact hplain.not_end ⟨"each".toList ++ rest, rfl⟩
    unfold ofLine
    rw [Text.after?_eq_none_iff.2 hplain.not_echo, helseIf,
      Text.begins_eq_false_iff.2 hplain.not_else, Text.begins_eq_false_iff.2 hendEach,
      Text.after?_eq_none_iff.2 hplain.not_end, Text.begins_eq_false_iff.2 hplain.not_each,
      keyword?_eq_none_iff.2 hplain.not_if]
    rfl

theorem exists_means (line : Text) : ∃ c, Means line c := by
  -- by the shorter words first; what is left at the end is plain
  by_cases hecho : "=".toList <+: line
  · obtain ⟨code, rfl⟩ := hecho
    exact ⟨_, .echo code⟩
  by_cases helse : "else".toList <+: line
  · -- `else` is what `elseif` leaves over
    obtain ⟨rest, rfl⟩ := helse
    cases hkey : keyword? "elseif".toList ("else".toList ++ rest) with
    | none => exact ⟨_, .otherwise hkey⟩
    | some r =>
      obtain ⟨hline, hend⟩ := keyword?_eq_some_iff.1 hkey
      rw [hline]
      exact ⟨_, .elseIf hend⟩
  by_cases hend : "end".toList <+: line
  · -- and `end` what `endeach` does
    obtain ⟨rest, rfl⟩ := hend
    by_cases heach : "each".toList <+: rest
    · obtain ⟨r, rfl⟩ := heach
      exact ⟨_, .loopEnd r⟩
    · exact ⟨_, .blockEnd heach⟩
  by_cases heach : "each".toList <+: line
  · obtain ⟨rest, rfl⟩ := heach
    exact ⟨_, .loopStart rest⟩
  cases hkey : keyword? "if".toList line with
  | some rest =>
    obtain ⟨rfl, hrest⟩ := keyword?_eq_some_iff.1 hkey
    exact ⟨_, .ifThen hrest⟩
  | none => exact ⟨_, .verbatim ⟨hecho, helse, hend, heach, keyword?_eq_none_iff.1 hkey⟩⟩

/-- **The grammar is the reading.** Since every line has a rule and every rule is kept,
there is one clause for each line, whichever rule is tried first. -/
theorem means_iff {line : Text} {c : Clause} : Means line c ↔ ofLine line = c := by
  constructor
  · exact Means.ofLine_eq
  · -- the line has some meaning, and that can only be the one that is read
    rintro rfl
    obtain ⟨c, hc⟩ := exists_means line
    rw [hc.ofLine_eq]
    exact hc

/-! ### Spellings of a clause -/

/-- A line of `each` names its loop by the words after `each`. -/
theorem ofLine_each {rest : Text} (hrest : Text.endsWord rest = true) :
    ofLine ("each".toList ++ rest) = loop (Text.words rest)[0]? (Text.words rest)[1]? := by
  have hwords : Text.words ("each".toList ++ rest) = "each".toList :: Text.words rest :=
    Text.words_append (by decide) hrest
  rw [(Means.loopStart rest).ofLine_eq, hwords]
  rfl

/-- A line of `if` with a blank behind the keyword. -/
theorem ofLine_if {condition : Text} (h : Text.Flush condition) :
    ofLine ("if ".toList ++ condition) = .conditional .ifThen (some condition) := by
  have hend : endsKeyword (' ' :: condition) = true := endsKeyword_cons_of_blank rfl condition
  have hread := (Means.ifThen hend).ofLine_eq
  rw [Text.trimStart_cons_of_blank rfl, Text.trimStart_of_flush h] at hread
  exact hread

/-- A line of `elseif` with a blank behind the keyword: of what follows, the blanks at the
start and one terminator are dropped. -/
theorem ofLine_elseif (rest : Text) :
    ofLine ("elseif ".toList ++ rest) =
      .conditional .elseIf (some (Text.trimStart (Text.dropTerminator rest))) := by
  have hend : endsKeyword (' ' :: rest) = true := endsKeyword_cons_of_blank rfl rest
  have hread := (Means.elseIf hend).ofLine_eq
  rw [Text.trimStart_cons_of_blank rfl, Text.dropTerminator_trimStart] at hread
  exact hread

/-- With a carriage return and a line feed behind it, any flush text is the condition of a
line of `elseif`, whatever it ends in. -/
theorem ofLine_elseif_pair {condition : Text} (h : Text.Flush condition) :
    ofLine ("elseif ".toList ++ (condition ++ ['\r', '\n'])) =
      .conditional .elseIf (some condition) := by
  rw [ofLine_elseif, Text.dropTerminator_append_pair, Text.trimStart_of_flush h]

/-! ### The clauses that lines can mean -/

/-- The clauses that some line means. -/
def Readable : Clause → Prop
  | .echo code => code = Text.trim code
  | .conditional .ifThen (some condition) => Text.Flush condition
  | .conditional .elseIf (some condition) => Text.Flush condition
  | .conditional .otherwise none => True
  | .conditional _ _ => False
  | .loopStart collection item => Text.IsWord collection ∧ Text.IsWord item
  | .loopEnd => True
  | .blockEnd _ => True
  | .verbatim text => Plain text

theorem readable_loop {collection item : Option Text}
    (hcollection : ∀ w, collection = some w → Text.IsWord w)
    (hitem : ∀ w, item = some w → Text.IsWord w) : Readable (loop collection item) := by
  -- the usual names, for those that are missing, are words themselves
  constructor
  · cases collection with
    | none => exact (by decide : Text.IsWord defaultCollection)
    | some w => exact hcollection w rfl
  · cases item with
    | none => exact (by decide : Text.IsWord defaultItem)
    | some w => exact hitem w rfl

/-- **Soundness.** What a line means is readable. -/
theorem Means.readable {line : Text} {c : Clause} (h : Means line c) : Readable c := by
  cases h with
  | echo code => exact (Text.trim_trim code).symm
  | elseIf hend => exact (Text.flush_trimStart _).dropTerminator
  | otherwise hnot => trivial
  | loopEnd rest => trivial
  | blockEnd hnot => trivial
  | loopStart rest =>
    apply readable_loop
    · intro w hw
      exact Text.isWord_of_mem_words (List.mem_of_getElem? hw)
    · intro w hw
      exact Text.isWord_of_mem_words (List.mem_of_getElem? hw)
  | ifThen hend => exact Text.flush_trimStart _
  | verbatim hplain => exact hplain

/-- **Completeness.** Every readable clause has a spelling that no other rule takes. -/
theorem Readable.exists_line {c : Clause} (h : Readable c) : ∃ line, ofLine line = c := by
  match c, h with
  | .echo code, h =>
    refine ⟨"=".toList ++ code, ?_⟩
    rw [(Means.echo code).ofLine_eq]
    exact congrArg Clause.echo h.symm
  | .conditional .ifThen (some condition), h => exact ⟨_, ofLine_if h⟩
  | .conditional .elseIf (some condition), h => exact ⟨_, ofLine_elseif_pair h⟩
  | .conditional .otherwise none, _ => exact ⟨"else".toList, rfl⟩
  | .loopStart collection item, ⟨hcollection, hitem⟩ =>
    -- both names are words, so that a blank between them is enough to find them again
    have hitems : Text.words item = [item] := by
      have happ := Text.words_append hitem (s := []) rfl
      rwa [List.append_nil] at happ
    have hwords : Text.words (' ' :: (collection ++ ' ' :: item)) = [collection, item] := by
      rw [Text.words_cons_of_blank rfl, Text.words_append hcollection rfl,
        Text.words_cons_of_blank rfl, hitems]
    refine ⟨"each".toList ++ ' ' :: (collection ++ ' ' :: item), ?_⟩
    rw [ofLine_each rfl, hwords]
    rfl
  | .loopEnd, _ => exact ⟨"endeach".toList, rfl⟩
  | .blockEnd true, _ => exact ⟨"end each".toList, by decide⟩
  | .blockEnd false, _ => exact ⟨"end".toList, by decide⟩
  | .verbatim text, h => exact ⟨text, (Means.verbatim h).ofLine_eq⟩

/-- **The range of reading.** The clauses that lines mean are exactly the readable ones, and
script is kept from one line only, which is the script itself. -/
theorem exists_ofLine_eq_iff :
    (∀ c : Clause, (∃ line, ofLine line = c) ↔ Readable c) ∧
      ∀ text line : Text, ofLine line = .verbatim text ↔ line = text ∧ Plain text := by
  constructor
  · intro c
    constructor
    · rintro ⟨line, hline⟩
      exact (means_iff.2 hline).readable
    · exact Readable.exists_line
  · intro text line
    constructor
    · -- no other rule gives script that is kept
      intro h
      cases means_iff.2 h with
      | verbatim hplain => exact ⟨rfl, hplain⟩
    · rintro ⟨rfl, hplain⟩
      exact (Means.verbatim hplain).ofLine_eq

end Clause

end Tagline
