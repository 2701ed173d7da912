import Mathlib.Data.List.Basic
import Tagline.Proofs.Listing
import Tagline.Proofs.TableRoutes

/-!
# The two channels of a block

A block is given its text by the lines under it or by the argument beside its name. A `js` block
looks at the lines first, and every other block at the argument; the first takes the argument apart
into lines, and the others put the lines together into one text. This module says when the channels
can be exchanged for one another.

* `value_expand_of_channels` — all that an expansion sees of the channels: for `js` the list of
  lines, for `each` the text, and for the rest the text without its terminator;
* `render_channels` — so lines and argument are interchangeable wherever lines that were put
  together are found again, and the channel that comes second is not seen behind the first;
* `dropTerminator_joinLines_lines` — a text that was cut into lines and put together again has lost
  a feed at its end at most, which would have been dropped anyway;
* `outcome_expand_piped` — so a host may pipe a text into a filter or pass it as an argument, under
  all settings, if no line begins with a blank.
-/

namespace Tagline

namespace Block

/-! ### What an expansion sees -/

/-- The one clause of a block is read from its text. Only `each` sees the terminator. -/
theorem clause?_congr {b b' : Block} (hf : b.filter = b'.filter)
    (heach : b.filter = .each → b.argumentText = b'.argumentText)
    (htext : b.filter ≠ .script →
      Text.dropTerminator b.argumentText = Text.dropTerminator b'.argumentText) :
    b.clause? = b'.clause? := by
  unfold clause?
  rw [← hf]
  cases hb : b.filter with
  | script | otherwise | endEach => rfl
  | each => simp only [heach hb]
  | ifThen | elseIf | close =>
    have hdrop := htext (by rw [hb]; decide)
    simp only [hdrop]

/-- **What an expansion sees of the channels.** -/
theorem value_expand_of_channels {b b' : Block} (hf : b.filter = b'.filter)
    (hlines : b.filter = .script → b.scriptLines = b'.scriptLines)
    (heach : b.filter = .each → b.argumentText = b'.argumentText)
    (htext : b.filter ≠ .script →
      Text.dropTerminator b.argumentText = Text.dropTerminator b'.argumentText)
    (resolver : Option Resolver) : (b.expand resolver).value = (b'.expand resolver).value := by
  rw [value_expand, value_expand]
  by_cases hb : b.filter = .script
  · rw [clauses_of_script hb, clauses_of_script (hf.symm.trans hb), hlines hb]
  · -- one clause each, and the same
    unfold clauses
    rw [clause?_congr hf heach htext]
    have hb' : b'.filter ≠ .script := hf ▸ hb
    obtain ⟨c, hc, -⟩ := exists_clauses_eq_singleton hb'
    rw [hc]

/-- Blocks of `js` with the same lines, whichever channel they came by. -/
theorem render_of_scriptLines {b b' : Block} (hb : b.filter = .script) (hb' : b'.filter = .script)
    (h : b.scriptLines = b'.scriptLines) : b.render = b'.render :=
  value_expand_of_channels (hb.trans hb'.symm) (fun _ => h)
    (fun heach => absurd (hb.symm.trans heach) (by decide)) (fun hnot => absurd hb hnot) none

/-- Blocks of another filter with the same text. -/
theorem render_of_argumentText {b b' : Block} (hf : b.filter = b'.filter)
    (hb : b.filter ≠ .script) (h : b.argumentText = b'.argumentText) : b.render = b'.render :=
  value_expand_of_channels hf (fun hscript => absurd hscript hb) (fun _ => h)
    (fun _ => congrArg Text.dropTerminator h) none

theorem scriptLines_of_no_body (argument : Text) :
    (Block.mk .script [] (some argument)).scriptLines = Text.lines argument := rfl

theorem scriptLines_of_body {body : List Text} (h : body ≠ []) (argument : Option Text) :
    (Block.mk .script body argument).scriptLines = body := by
  unfold scriptLines
  rw [if_neg (mt List.isEmpty_iff.1 h)]

/-! ### Lines or argument -/

/-- **The channels are interchangeable, with a fixed precedence.** Lines without an argument are
expanded like the argument in which feeds separate them, for every filter if the lines are
separable, and for all filters but `js` in any case; for `js` the feeds may also stand behind the
lines. With both channels given, a `js` block does not see the argument behind its lines, and no
other block sees its lines behind the argument, be it empty. -/
theorem render_channels :
    (∀ (f : Filter) (ls : List Text), f ≠ .script ∨ Text.Separable ls →
      (Block.mk f ls none).render = (Block.mk f [] (some (Text.joinLines ls))).render) ∧
    (∀ ls : List Text, (∀ l ∈ ls, '\n' ∉ l ∧ l.getLast? ≠ some '\r') →
      (Block.mk .script ls none).render =
        (Block.mk .script [] (some (ls.flatMap (· ++ ['\n'])))).render) ∧
    (∀ (body : List Text) (argument argument' : Option Text), body ≠ [] →
      (Block.mk .script body argument).render = (Block.mk .script body argument').render) ∧
    ∀ (f : Filter) (body body' : List Text) (argument : Text), f ≠ .script →
      (Block.mk f body (some argument)).render = (Block.mk f body' (some argument)).render := by
  refine ⟨?_, ?_, ?_, ?_⟩
  · intro f ls h
    by_cases hf : f = .script
    · subst hf
      apply render_of_scriptLines rfl rfl
      rw [scriptLines_of_no_argument, scriptLines_of_no_body,
        Text.lines_joinLines (h.resolve_left (not_not_intro rfl))]
    · exact render_of_argumentText rfl hf rfl
  · intro ls h
    apply render_of_scriptLines rfl rfl
    rw [scriptLines_of_no_argument, scriptLines_of_no_body, Text.lines_flatMap_feed h]
  · intro body argument argument' h
    apply render_of_scriptLines rfl rfl
    rw [scriptLines_of_body h, scriptLines_of_body h]
  · intro f body body' argument hf
    exact render_of_argumentText rfl hf rfl

/-- Lines of which one is empty and the last ends in a carriage return; lines of which the last is
empty; both channels at once, with an empty argument. What the blocks expand to stands behind
what they share it with. -/
theorem render_channels_sample :
    let ls := ["if a".toList, [], "end each\r".toList]
    ((Block.mk .script ls none).render =
        (Block.mk .script [] (some "if a\n\nend each\r".toList)).render ∧
      (Block.mk .script ls none).render = "<% if(a) \x7b %><%  %><% \x7d); %>".toList) ∧
    ((Block.mk .close ["each".toList, []] none).render =
        (Block.mk .close [] (some "each\n".toList)).render ∧
      (Block.mk .close ["each".toList, []] none).render = "<% \x7d); %>".toList) ∧
    ((Block.mk .script ["if a".toList, []] none).render =
        (Block.mk .script [] (some "if a\n\n".toList)).render ∧
      (Block.mk .script ["if a".toList, []] none).render = "<% if(a) \x7b %><%  %>".toList) ∧
    (Block.mk .script ls none).render = (Block.mk .script ls (some "x".toList)).render ∧
    ((Block.mk .ifThen ls (some [])).render = (Block.mk .ifThen [] (some [])).render ∧
      (Block.mk .ifThen ls (some [])).render = "<% if() \x7b %>".toList) := by
  intro ls
  obtain ⟨hjoin, hfeed, hscript, hother⟩ := render_channels
  have hls : Text.Separable ls := ⟨by decide, by decide, by decide⟩
  refine ⟨⟨hjoin .script ls (.inr hls), ?_⟩, ⟨hjoin .close _ (.inl (by decide)), ?_⟩,
    ⟨hfeed _ (by decide), ?_⟩, hscript ls none (some "x".toList) (by decide),
    ⟨hother .ifThen ls [] [] (by decide), ?_⟩⟩
  all_goals decide

end Block

/-! ### Piped or passed -/

namespace Settings

/-- A line that begins with something is kept as it is, whatever the settings are. -/
theorem kept_of_not_isBlank (s : Settings) {c : Char} (hc : Text.isBlank c = false)
    (rest : Text) : s.kept (c :: rest) = [c :: rest] := by
  have hdedent : s.dedent (c :: rest) = c :: rest := by
    unfold dedent
    split
    · exact Text.trimStart_of_flush (s := c :: rest) hc
    · rfl
  have hkeeps : s.keeps (c :: rest) = true := by
    unfold keeps
    simp [Text.allBlank, hc]
  unfold kept
  rw [hdedent, if_pos hkeeps]

theorem splitBody_eq_lines (s : Settings) {text : Text}
    (h : ∀ line ∈ Text.lines text, ∃ c rest, line = c :: rest ∧ Text.isBlank c = false) :
    s.splitBody text = Text.lines text := by
  have hkept : ∀ line ∈ Text.lines text, s.kept line = [line] := by
    intro line hline
    obtain ⟨c, rest, rfl, hc⟩ := h line hline
    exact s.kept_of_not_isBlank hc rest
  calc s.splitBody text = (Text.lines text).flatMap s.kept := s.splitBody_eq_flatMap text
    _ = (Text.lines text).flatMap fun line => [line] := List.flatMap_congr hkept
    _ = Text.lines text := List.flatMap_singleton' _

end Settings

/-- **Cutting and putting together loses a terminator at most.** The text is its lines with feeds
between them and perhaps one feed behind, and the last of its lines, not being empty, does not end
in a terminator itself. -/
theorem Text.dropTerminator_joinLines_lines {text : Text} (hreturn : '\r' ∉ text)
    (h : [] ∉ Text.lines text) :
    dropTerminator (joinLines (lines text)) = dropTerminator text := by
  obtain ⟨e, he, htext⟩ := exists_joinLines_lines hreturn
  have hend : Unterminated (joinLines (lines text)) := by
    constructor
    · -- a feed at the end would be one in the last line
      cases hlast : (lines text).getLast? with
      | none =>
        rw [List.getLast?_eq_none_iff.1 hlast]
        decide
      | some line =>
        have hmem : line ∈ lines text := List.mem_of_getLast? hlast
        have hne : line ≠ [] := fun heq => h (heq ▸ hmem)
        rw [getLast?_joinLines hlast hne]
        exact fun heq => feed_not_mem_of_mem_lines hmem (List.mem_of_getLast? heq)
    · intro heq
      apply hreturn
      rw [htext]
      exact List.mem_append_left e (List.mem_of_getLast? heq)
  have hterminators : ∀ e ∈ [[], ['\n']], e ∈ terminators := by decide
  have hdrop : dropTerminator (joinLines (lines text) ++ []) = joinLines (lines text) :=
    dropTerminator_append hend (by decide)
  calc dropTerminator (joinLines (lines text)) = joinLines (lines text) := by
        rwa [List.append_nil] at hdrop
    _ = dropTerminator (joinLines (lines text) ++ e) :=
        (dropTerminator_append hend (hterminators e he)).symm
    _ = dropTerminator text := by rw [← htext]

namespace Host

open Template

/-- A text that is piped and one that is passed as the argument of nothing are expanded alike. -/
theorem value_expand_piped (s : Settings) {f : Filter} (hf : f ≠ .each) {text : Text}
    (hreturn : '\r' ∉ text)
    (hlines : ∀ line ∈ Text.lines text, ∃ c rest, line = c :: rest ∧ Text.isBlank c = false)
    (safe : Bool) (resolver : Option Resolver) :
    ((blockOf s f (.string text safe) none).expand resolver).value =
      ((blockOf s f .none (some text)).expand resolver).value := by
  have hbody : blockOf s f (.string text safe) none = Block.mk f (Text.lines text) none := by
    rw [← s.splitBody_eq_lines hlines]
    rfl
  have hne : [] ∉ Text.lines text := by
    intro hmem
    obtain ⟨c, rest, heq, -⟩ := hlines [] hmem
    exact absurd heq (List.cons_ne_nil c rest).symm
  rw [hbody]
  apply Block.value_expand_of_channels
  · rfl
  · rintro rfl
    exact Block.scriptLines_of_no_argument .script (Text.lines text)
  · exact fun heach => absurd heach hf
  · exact fun _ => Text.dropTerminator_joinLines_lines hreturn hne

/-- **Piping a text and passing it come to the same.** For every filter but `each`, under all
settings and with or without a resolver, a text without carriage returns whose lines all begin with
something expands to the same tags whether it is piped into the filter or is the argument of a
filter that is applied to nothing. -/
theorem outcome_expand_piped (s : Settings) (f : Filter) (hf : f ≠ .each) (text : Text)
    (hreturn : '\r' ∉ text)
    (hlines : ∀ line ∈ Text.lines text, ∃ c rest, line = c :: rest ∧ Text.isBlank c = false)
    (safe : Bool) (t : FilterTable) (ht : t = .standard ∨ ∃ r, t = .withResolver r) :
    ∃ tags, (t.expand (blockOf s f (.string text safe) none)).outcome = .ok tags ∧
      (t.expand (blockOf s f .none (some text))).outcome = .ok tags := by
  have hvalue := value_expand_piped s hf hreturn hlines safe
  rcases ht with rfl | ⟨r, rfl⟩
  · refine ⟨_, FilterTable.outcome_expand_standard _, ?_⟩
    rw [FilterTable.outcome_expand_standard]
    exact congrArg Except.ok (hvalue none).symm
  · refine ⟨_, FilterTable.outcome_expand_withResolver r _, ?_⟩
    rw [FilterTable.outcome_expand_withResolver]
    exact congrArg Except.ok (hvalue (some r)).symm

/-- Two lines with a feed behind the second, under settings that keep indentation and blank lines;
the expression is resolved. -/
theorem outcome_expand_piped_sample :
    let s : Settings := { stripIndent := false, skipBlankLines := false }
    let text := "= a \nend each\n".toList
    let r : Resolver := fun code => .ok (code ++ code)
    let tags := "<%= aa %><% \x7d); %>".toList
    ((FilterTable.withResolver r).expand
        (blockOf s .script (.string text false) none)).outcome = .ok tags ∧
      ((FilterTable.withResolver r).expand (blockOf s .script .none (some text))).outcome =
        .ok tags := by
  intro s text r tags
  have hcut : Text.lines text = ["= a ".toList, "end each".toList] := by decide
  have hlines : ∀ line ∈ Text.lines text, ∃ c rest, line = c :: rest ∧ Text.isBlank c = false := by
    rw [hcut]
    intro line hline
    rcases List.mem_pair.1 hline with rfl | rfl
    · exact ⟨'=', " a ".toList, rfl, rfl⟩
    · exact ⟨'e', "nd each".toList, rfl, rfl⟩
  obtain ⟨out, hpiped, hpassed⟩ := outcome_expand_piped s .script (by decide) text (by decide)
    hlines false (.withResolver r) (.inr ⟨r, rfl⟩)
  have hout : ((FilterTable.withResolver r).expand (blockOf s .script .none (some text))).outcome =
      .ok tags := rfl
  obtain rfl : out = tags := Except.ok.inj (hpassed.symm.trans hout)
  exact ⟨hpiped, hpassed⟩

end Host

end Tagline
