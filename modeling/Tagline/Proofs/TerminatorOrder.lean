import Tagline.Proofs.LineGrammar
import Tagline.Proofs.Text.Parts
import Tagline.Block

/-!
# One terminator, in any order

A condition or a hint arrives with the blanks around it and with the terminator of the block that it
came from. Each reader removes both, in an order of its own: a line of `elseif` is trimmed at the
start before its terminator is dropped, the block of `elseif` is not trimmed at all, the block of
`end` loses its terminator before the hint is trimmed, and the line of `end` loses it with the
blanks. They read the same text all the same.

* `dropTerminator_append_iff` — a terminator that was put behind a text is dropped again, and
  nothing more, except that a line feed takes a carriage return before it along;
* `ofLine_elseIf_eq` — trimming at the start and dropping the terminator may be exchanged, so a line
  of `elseif` has the condition that the block of `elseif` has, once its blanks are removed;
* `value_clause?_close_eq_ofLine` — and the block of `end` means what the line means, with any blanks
  and any terminator around the hint;
* `one_terminator_in_any_order` — all this, with what is dropped from a text as it stands.
-/

namespace Tagline

namespace Text

/-! ### A terminator behind a text -/

theorem dropTerminator_append_return (s : Text) : dropTerminator (s ++ ['\r']) = s := by
  simp [dropTerminator, dropTerminatorRev]

/-- A line feed alone is dropped, unless it makes a pair with what stands before it. -/
theorem dropTerminator_append_feed {s : Text} (h : s.getLast? ≠ some '\r') :
    dropTerminator (s ++ ['\n']) = s := by
  rw [dropTerminator_eq_iff]
  refine ⟨['\n'], by decide, rfl, ?_⟩
  intro e he hsuffix
  rcases length_le_one_or_eq_pair he with hle | rfl
  · exact hle
  · -- the pair at the end would put the carriage return at the end of `s`
    obtain ⟨r, hr⟩ := hsuffix
    have happ : r ++ ['\r'] ++ ['\n'] = s ++ ['\n'] := by
      rw [List.append_assoc]
      exact hr
    rw [← List.append_cancel_right happ, List.getLast?_concat] at h
    exact absurd rfl h

/-- **What was put behind a text is dropped again**, with one exception. -/
theorem dropTerminator_append_iff {s t : Text} (ht : t ∈ terminators) (hne : t ≠ []) :
    dropTerminator (s ++ t) = s ↔ ¬ (t = ['\n'] ∧ s.getLast? = some '\r') := by
  constructor
  · rintro hdrop ⟨rfl, hlast⟩
    obtain ⟨r, rfl⟩ := List.getLast?_eq_some_iff.1 hlast
    -- the pair is dropped, so that `r` is left, which is shorter than `s`
    rw [List.append_assoc] at hdrop
    have hpair : r = r ++ ['\r'] := (dropTerminator_append_pair r).symm.trans hdrop
    exact absurd (List.self_eq_append_right.1 hpair) (List.cons_ne_nil _ _)
  · intro hnot
    simp only [terminators, List.mem_cons, List.not_mem_nil, or_false] at ht
    rcases ht with rfl | rfl | rfl | rfl
    · exact absurd rfl hne
    · exact dropTerminator_append_feed fun hlast => hnot ⟨rfl, hlast⟩
    · exact dropTerminator_append_pair s
    · exact dropTerminator_append_return s

end Text

/-! ### Conditions and hints -/

namespace Clause

/-- A line of `elseif` may as well lose its terminator first, and the blanks behind the keyword are
among those that it loses. -/
theorem ofLine_elseIf_eq {pad rest : Text} (hpad : Text.allBlank pad = true)
    (h : endsKeyword (pad ++ rest) = true) :
    ofLine ("elseif".toList ++ (pad ++ rest)) =
      .conditional .elseIf (some (Text.trimStart (Text.dropTerminator rest))) := by
  rw [(Means.elseIf h).ofLine_eq, Text.trimStart_append_of_allBlank hpad,
    Text.dropTerminator_trimStart]

end Clause

namespace Block

theorem value_clause?_elseIf {b : Block} (h : b.filter = .elseIf) :
    b.clause?.value = some (.conditional .elseIf (some (Text.dropTerminator b.argumentText))) := by
  unfold clause?
  rw [h]
  rfl

/-- **A hint means the same in a block and in a line**, however either was trimmed. -/
theorem value_clause?_close_eq_ofLine {b : Block} (h : b.filter = .close) {hint : Text}
    (htrim : Text.trim hint = Text.trim b.argumentText) (hnot : ¬ "each".toList <+: hint) :
    b.clause?.value = some (Clause.ofLine ("end".toList ++ hint)) := by
  have hcloses : Clause.closesLoop (Text.dropTerminator b.argumentText) =
      Clause.closesLoop hint := by
    unfold Clause.closesLoop
    rw [Text.trim_dropTerminator, ← htrim]
  unfold clause?
  rw [h, (Clause.Means.blockEnd hnot).ofLine_eq, ← hcloses]
  rfl

end Block

/-- **One terminator is dropped, and it does not matter when.** A text is what is left of it and a
terminator, in one way, and the terminator is the longest that the text ends in. One that was put
behind a text is dropped again, unless it is a line feed behind a carriage return. Dropping it and
trimming may be exchanged, so that a condition of `elseif` is the same in a line and in a block,
whether the blanks before it are removed first or last, and so is a hint of `end`, whatever blanks
and terminators stand around it. -/
theorem one_terminator_in_any_order :
    (∀ s : Text, ∃ t ∈ Text.terminators, s = Text.dropTerminator s ++ t ∧
      (∀ t' ∈ Text.terminators, s = Text.dropTerminator s ++ t' → t' = t) ∧
      ∀ t' ∈ Text.terminators, t' <:+ s → t'.length ≤ t.length) ∧
    (∀ s : Text, ∀ t ∈ Text.terminators, t ≠ [] →
      (Text.dropTerminator (s ++ t) = s ↔ ¬ (t = ['\n'] ∧ s.getLast? = some '\r'))) ∧
    (∀ s : Text, Text.dropTerminator (Text.trimStart s) = Text.trimStart (Text.dropTerminator s) ∧
      Text.trim (Text.dropTerminator s) = Text.trim s) ∧
    (∀ b : Block, b.filter = .elseIf →
      ∃ c, b.clause?.value = some (.conditional .elseIf (some c)) ∧
        (Block.mk .elseIf b.body (some (Text.trimStart b.argumentText))).clause?.value =
          some (.conditional .elseIf (some (Text.trimStart c))) ∧
        ∀ pad, Text.allBlank pad = true → Clause.endsKeyword (pad ++ b.argumentText) = true →
          Clause.ofLine ("elseif".toList ++ (pad ++ b.argumentText)) =
            .conditional .elseIf (some (Text.trimStart c))) ∧
    ∀ b : Block, b.filter = .close → ∀ hint, Text.trim hint = Text.trim b.argumentText →
      ¬ "each".toList <+: hint →
        b.clause?.value = some (Clause.ofLine ("end".toList ++ hint)) := by
  refine ⟨?_, ?_, ?_, ?_, ?_⟩
  · intro s
    obtain ⟨t, ht, hs, hlongest⟩ := Text.isDropTerminator_dropTerminator s
    refine ⟨t, ht, hs, ?_, hlongest⟩
    intro t' _ hs'
    exact List.append_cancel_left (hs'.symm.trans hs)
  · intro s t ht hne
    exact Text.dropTerminator_append_iff ht hne
  · intro s
    exact ⟨Text.dropTerminator_trimStart s, Text.trim_dropTerminator s⟩
  · intro b hb
    refine ⟨Text.dropTerminator b.argumentText, Block.value_clause?_elseIf hb, ?_, ?_⟩
    · rw [Block.value_clause?_elseIf rfl, ← Text.dropTerminator_trimStart]
      rfl
    · intro pad hpad hend
      exact Clause.ofLine_elseIf_eq hpad hend
  · intro b hb hint htrim hnot
    exact Block.value_clause?_close_eq_ofLine hb htrim hnot

/-- The longest terminator is dropped, and once; a line feed behind a carriage return takes it along,
and the other way round it does not; a condition with blanks and two terminators; and a hint that
stands between other blanks in the line than in the block. -/
theorem one_terminator_in_any_order_sample :
    (∃ t ∈ Text.terminators, "a\n\r\n".toList = "a\n".toList ++ t ∧ t = ['\r', '\n'] ∧
        ∀ t' ∈ Text.terminators, t' <:+ "a\n\r\n".toList → t'.length ≤ t.length) ∧
      Text.dropTerminator ("a\r".toList ++ ['\n']) ≠ "a\r".toList ∧
      Text.dropTerminator ("a\n".toList ++ ['\r']) = "a\n".toList ∧
      (∃ c, (Block.mk .elseIf [" ".toList, " b \r".toList, "\r".toList] none).clause?.value =
          some (.conditional .elseIf (some c)) ∧
        (Block.mk .elseIf [" ".toList, " b \r".toList, "\r".toList]
            (some "b \r\n\r".toList)).clause?.value =
          some (.conditional .elseIf (some (Text.trimStart c))) ∧
        Clause.ofLine "elseif\t \n b \r\n\r".toList =
          .conditional .elseIf (some (Text.trimStart c))) ∧
      (Block.mk .close [] (some "each\r\n".toList)).clause?.value =
        some (Clause.ofLine "end each ".toList) := by
  obtain ⟨hparts, happend, -, helseIf, hclose⟩ := one_terminator_in_any_order
  refine ⟨?_, ?_, ?_, ?_, ?_⟩
  · obtain ⟨t, ht, hs, hunique, hlongest⟩ := hparts "a\n\r\n".toList
    have hpair : ['\r', '\n'] = t := hunique ['\r', '\n'] (by decide) (by decide)
    exact ⟨t, ht, hs, hpair.symm, hlongest⟩
  · intro heq
    exact (happend "a\r".toList ['\n'] (by decide) (by decide)).1 heq ⟨rfl, by decide⟩
  · exact (happend "a\n".toList ['\r'] (by decide) (by decide)).2 (by decide)
  · obtain ⟨c, hblock, htrimmed, hline⟩ :=
      helseIf (Block.mk .elseIf [" ".toList, " b \r".toList, "\r".toList] none) rfl
    exact ⟨c, hblock, htrimmed, hline ['\t'] (by decide) (by decide)⟩
  · exact hclose (Block.mk .close [] (some "each\r\n".toList)) rfl " each ".toList (by decide)
      (by decide)

end Tagline
