import Tagline.Proofs.Expansion
import Tagline.Proofs.LineGrammar

/-!
# Two spellings of one tag

A clause can be written as a block of its own filter, or as a line of a `js` block that
begins with its keyword. The two are read by different rules: the block of `if` loses a
terminator and no blanks, the line of `if` blanks and no terminator; the block of `end`
loses a terminator before its hint is trimmed, the line does not; the block of `each` may
begin with the word `each`, which the line always does. They give the same tag all the same.

* `render_if`, `render_elseif`, `render_end`, `render_endEach`, `render_otherwise` — block
  against line, filter by filter;
* `ofText_eq_ofTokens` — the block of `each` is read word by word unless it is a YAML
  mapping, and then it agrees with a line of `each` (`clause_ofText`,
  `clause_ofText_of_each`).
-/

namespace Tagline

/-- Whether a text is read as a YAML mapping. -/
def Yaml.isMapping (s : Text) : Bool :=
  match Yaml.Value.ofText s with
  | .ok (.mapping _) => true
  | _ => false

/-! ### Blocks of one clause -/

namespace Block

/-- The condition of `if` may be followed by a terminator in a block, and in a line by
nothing. -/
theorem render_if (body : List Text) {c t : Text} (hflush : Text.Flush c)
    (hend : Text.Unterminated c) (ht : t ∈ Text.terminators) :
    (Block.mk .ifThen body (some (c ++ t))).render =
      (Clause.ofLine ("if ".toList ++ c)).render := by
  have hclause : (Block.mk .ifThen body (some (c ++ t))).clause?.value =
      some (.conditional .ifThen (some (Text.dropTerminator (c ++ t)))) := rfl
  rw [render_of_clause? hclause, Text.dropTerminator_append hend ht, Clause.ofLine_if hflush]

/-- Both spellings of `elseif` drop one terminator, so that any ending will do. -/
theorem render_elseif (body : List Text) {c : Text} (hflush : Text.Flush c) :
    (Block.mk .elseIf body (some c)).render =
      (Clause.ofLine ("elseif ".toList ++ c)).render := by
  have hclause : (Block.mk .elseIf body (some c)).clause?.value =
      some (.conditional .elseIf (some (Text.dropTerminator c))) := rfl
  rw [render_of_clause? hclause, Clause.ofLine_elseif,
    Text.trimStart_of_flush hflush.dropTerminator]

/-- A hint means the same with and without its terminator, and after a blank. -/
theorem closesLoop_dropTerminator (hint : Text) :
    Clause.closesLoop (Text.dropTerminator hint) = Clause.closesLoop (' ' :: hint) := by
  unfold Clause.closesLoop
  rw [Text.trim_dropTerminator, Text.trim_cons_of_blank rfl]

/-- The hint of `end` is read the same in a block and in a line. -/
theorem render_end (body : List Text) (hint : Text) :
    (Block.mk .close body (some hint)).render =
      (Clause.ofLine ("end ".toList ++ hint)).render := by
  have hclause : (Block.mk .close body (some hint)).clause?.value =
      some (.blockEnd (Clause.closesLoop (Text.dropTerminator hint))) := rfl
  -- the blank keeps `end` and a hint from being taken for `endeach`
  have hnot : ¬ "each".toList <+: ' ' :: hint := by
    rintro ⟨rest, hrest⟩
    exact absurd (List.cons.inj hrest).1 (by decide)
  have hline : Clause.ofLine ("end ".toList ++ hint) =
      .blockEnd (Clause.closesLoop (' ' :: hint)) := (Clause.Means.blockEnd hnot).ofLine_eq
  rw [render_of_clause? hclause, hline, closesLoop_dropTerminator]

theorem render_endEach (body : List Text) (argument : Option Text) (s : Text) :
    (Block.mk .endEach body argument).render =
      (Clause.ofLine ("endeach".toList ++ s)).render := by
  -- neither side looks at anything but the word
  rw [(Clause.Means.loopEnd s).ofLine_eq]
  exact render_of_clause? rfl

/-- Neither spelling of `else` looks at anything else, provided that the line is not one of
`elseif`. -/
theorem render_otherwise (body : List Text) (argument : Option Text) {s : Text}
    (hnot : Clause.keyword? "elseif".toList ("else".toList ++ s) = none) :
    (Block.mk .otherwise body argument).render = (Clause.ofLine ("else".toList ++ s)).render := by
  rw [(Clause.Means.otherwise hnot).ofLine_eq]
  exact render_of_clause? rfl

end Block

/-! ### The block of `each` -/

namespace LoopNames

/-- A block of `each` that is no mapping is read word by word. So is an empty one, since it
gives no names either way. -/
theorem ofText_eq_ofTokens {s : Text} (h : Text.allBlank s = true ∨ Yaml.isMapping s = false) :
    ofText s = ofTokens s := by
  unfold ofText read
  by_cases hblank : Text.allBlank s = true
  · rw [if_pos hblank, ofTokens, Text.words_of_allBlank hblank]
  · rw [if_neg hblank]
    have hmapping : Yaml.isMapping s = false := h.resolve_left hblank
    unfold Yaml.isMapping at hmapping
    split
    · -- a mapping, which is excluded
      next entries hread =>
      rw [hread] at hmapping
      exact absurd hmapping (by simp)
    · rfl

theorem ofTokens_of_ne {s : Text} (h : (Text.words s).head? ≠ some "each".toList) :
    ofTokens s = ofWords (Text.words s) := by
  unfold ofTokens
  cases hwords : Text.words s with
  | nil => rfl
  | cons w ws =>
    have hw : w ≠ "each".toList := by
      rintro rfl
      rw [hwords] at h
      exact h rfl
    exact if_neg hw

theorem ofTokens_of_each {s : Text} {ws : List Text}
    (h : Text.words s = "each".toList :: ws) : ofTokens s = ofWords ws := by
  unfold ofTokens
  rw [h]
  exact if_pos rfl

/-- Words without `each` in front are a line of `each` without it. -/
theorem clause_ofText {s : Text} (h : Text.allBlank s = true ∨ Yaml.isMapping s = false)
    (hhead : (Text.words s).head? ≠ some "each".toList) :
    (ofText s).clause = Clause.ofLine ("each ".toList ++ s) := by
  -- the line begins with `each`, and its names are the words of `s` from the first on
  have hline : Clause.ofLine ("each ".toList ++ s) =
      Clause.loop (Text.words (' ' :: s))[0]? (Text.words (' ' :: s))[1]? :=
    @Clause.ofLine_each (' ' :: s) rfl
  rw [hline, Text.words_cons_of_blank rfl, ofText_eq_ofTokens h, ofTokens_of_ne hhead]
  rfl

/-- Words with `each` in front are a line of `each`, once the blanks before them are gone. -/
theorem clause_ofText_of_each {s : Text}
    (h : Text.allBlank s = true ∨ Yaml.isMapping s = false)
    (hhead : (Text.words s).head? = some "each".toList) :
    (ofText s).clause = Clause.ofLine (Text.trimStart s) := by
  -- behind the blanks the text itself begins with `each`, and so is a line of it
  obtain ⟨ws, hwords⟩ := List.head?_eq_some_iff.1 hhead
  obtain ⟨rest, htrim, hend, hrest⟩ := Text.words_eq_cons hwords
  rw [htrim, Clause.ofLine_each hend, hrest, ofText_eq_ofTokens h, ofTokens_of_each hwords]
  rfl

end LoopNames

/-! ### The two spellings -/

/-- **Blocks and lines are two spellings of the same tags.** A text after `each` may itself
begin with `each` in a block; then the text is the line, once the blanks before it are
gone. -/
theorem standalone_blocks_spell_lines :
    (∀ (body : List Text) (c t : Text),
      Text.Flush c → Text.Unterminated c → t ∈ Text.terminators →
        (Block.mk .ifThen body (some (c ++ t))).render =
          (Clause.ofLine ("if ".toList ++ c)).render) ∧
    (∀ (body : List Text) (c : Text), Text.Flush c →
      (Block.mk .elseIf body (some c)).render =
        (Clause.ofLine ("elseif ".toList ++ c)).render) ∧
    (∀ (body : List Text) (hint : Text),
      (Block.mk .close body (some hint)).render =
        (Clause.ofLine ("end ".toList ++ hint)).render) ∧
    (∀ (body : List Text) (argument : Option Text) (s : Text),
      (Block.mk .endEach body argument).render =
        (Clause.ofLine ("endeach".toList ++ s)).render) ∧
    (∀ (body : List Text) (argument : Option Text) (s : Text),
      Clause.keyword? "elseif".toList ("else".toList ++ s) = none →
        (Block.mk .otherwise body argument).render =
          (Clause.ofLine ("else".toList ++ s)).render) ∧
    ∀ s : Text, Text.allBlank s = true ∨ Yaml.isMapping s = false →
      ((Text.words s).head? ≠ some "each".toList →
        (LoopNames.ofText s).clause = Clause.ofLine ("each ".toList ++ s)) ∧
      ((Text.words s).head? = some "each".toList →
        (LoopNames.ofText s).clause = Clause.ofLine (Text.trimStart s)) := by
  refine ⟨?_, ?_, Block.render_end, Block.render_endEach, ?_, ?_⟩
  · intro body c t hflush hend ht
    exact Block.render_if body hflush hend ht
  · intro body c hflush
    exact Block.render_elseif body hflush
  · intro body argument s hnot
    exact Block.render_otherwise body argument hnot
  · intro s h
    exact ⟨LoopNames.clause_ofText h, LoopNames.clause_ofText_of_each h⟩

/-- The hypotheses can be met: a condition before a terminator, one that ends in two, an
`else` that only looks like `elseif`, and words that are no mapping, without `each` and with
it. Behind the two spellings stands the tag that they share. -/
theorem standalone_blocks_spell_lines_sample :
    ((Block.mk .ifThen [] (some ("a > 1".toList ++ "\r\n".toList))).render =
        (Clause.ofLine ("if ".toList ++ "a > 1".toList)).render ∧
      (Clause.ofLine ("if ".toList ++ "a > 1".toList)).render = "<% if(a > 1) \x7b %>".toList) ∧
    ((Block.mk .elseIf [] (some "b\n\r".toList)).render =
        (Clause.ofLine ("elseif ".toList ++ "b\n\r".toList)).render ∧
      (Clause.ofLine ("elseif ".toList ++ "b\n\r".toList)).render =
        "<% \x7d else if(b\n) \x7b %>".toList) ∧
    ((Block.mk .otherwise [] (some "x".toList)).render =
        (Clause.ofLine ("else".toList ++ "ifx".toList)).render ∧
      (Clause.ofLine ("else".toList ++ "ifx".toList)).render = "<% \x7d else \x7b %>".toList) ∧
    ((LoopNames.ofText "tabs tab".toList).clause =
        Clause.ofLine ("each ".toList ++ "tabs tab".toList) ∧
      (LoopNames.ofText " each tabs tab".toList).clause =
        Clause.ofLine (Text.trimStart " each tabs tab".toList) ∧
      (LoopNames.ofText "tabs tab".toList).clause.render =
        "<% tabs.each(function(tab) \x7b %>".toList ∧
      (LoopNames.ofText " each tabs tab".toList).clause.render =
        "<% tabs.each(function(tab) \x7b %>".toList) := by
  obtain ⟨hif, helseif, -, -, helse, heach⟩ := standalone_blocks_spell_lines
  have hplain : (LoopNames.ofText "tabs tab".toList).clause =
      Clause.ofLine ("each ".toList ++ "tabs tab".toList) :=
    (heach _ (.inr (by decide +kernel))).1 (by decide)
  have hmarked : (LoopNames.ofText " each tabs tab".toList).clause =
      Clause.ofLine (Text.trimStart " each tabs tab".toList) :=
    (heach _ (.inr (by decide +kernel))).2 (by decide)
  refine ⟨⟨hif [] _ _ (by decide) (by decide) (by decide), by decide⟩,
    ⟨helseif [] _ (by decide), by decide⟩, ⟨helse [] _ _ (by decide), by decide⟩,
    hplain, hmarked, ?_, ?_⟩
  · rw [hplain]
    decide
  · rw [hmarked]
    decide

end Tagline
