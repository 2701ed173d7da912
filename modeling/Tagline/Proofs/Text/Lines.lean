import Tagline.Text.Blank
import Tagline.Text.Line

/-!
# Cutting a text into lines

Everything about `Text.lines` follows from where its first line ends: at the first line feed, and
one character earlier if a carriage return stands there (`lines_append_feed`). The return is taken
with the feed also where it was meant for something else, so that a text which ends in a carriage
return is not found again as it was; `lines_append_pair` says that a pair of return and feed
behind it leaves it alone. What no feed ends is a line of its own, unless it is empty
(`lines_of_not_mem`).

Putting lines together again is the way back, up to what a line break hides:

* `lines_joinLines` — lines with feeds between them are found again if they are `Separable`;
* `lines_flatMap_feed` — with a feed behind each of them, also the last one may be empty;
* `exists_joinLines_lines` — a text without carriage returns is its lines with feeds between them,
  and perhaps one more feed at the end.
-/

namespace Tagline

namespace Text

/-- Without a carriage return at the end. -/
def dropReturn (s : Text) : Text := (before? ['\r'] s).getD s

theorem dropReturn_append_return (s : Text) : dropReturn (s ++ ['\r']) = s := by
  unfold dropReturn
  rw [before?_eq_some_iff.2 rfl]
  rfl

theorem dropReturn_of_getLast? {s : Text} (h : s.getLast? ≠ some '\r') : dropReturn s = s := by
  unfold dropReturn
  cases hs : before? ['\r'] s with
  | none => rfl
  | some r =>
    rw [before?_eq_some_iff.1 hs] at h
    exact absurd (by simp) h

theorem mem_of_mem_dropReturn {c : Char} {s : Text} (h : c ∈ dropReturn s) : c ∈ s := by
  by_cases hs : s.getLast? = some '\r'
  · obtain ⟨r, rfl⟩ := List.getLast?_eq_some_iff.1 hs
    rw [dropReturn_append_return] at h
    exact List.mem_append_left _ h
  · rwa [dropReturn_of_getLast? hs] at h

/-- A character in front of a text is looked at only if it is all there is. -/
theorem dropReturn_cons {c : Char} {s : Text} (h : c = '\r' → s ≠ []) :
    dropReturn (c :: s) = c :: dropReturn s := by
  by_cases hs : s.getLast? = some '\r'
  · obtain ⟨r, rfl⟩ := List.getLast?_eq_some_iff.1 hs
    rw [← List.cons_append, dropReturn_append_return, dropReturn_append_return]
  · have hcons : (c :: s).getLast? ≠ some '\r' := by
      cases s with
      | nil => exact fun hc => h (by simpa using hc) rfl
      | cons d s => rwa [List.getLast?_cons_cons]
    rw [dropReturn_of_getLast? hs, dropReturn_of_getLast? hcons]

/-- A character that ends no line, by itself or with the one behind it, belongs to the first
line. -/
theorem lines_cons {c : Char} {s : Text} (hfeed : c ≠ '\n')
    (hreturn : c = '\r' → ∀ r, s ≠ '\n' :: r) : lines (c :: s) = consFirst c (lines s) := by
  rw [lines.eq_def]
  split
  · next h => exact absurd h (List.cons_ne_nil c s)
  · next r h => exact absurd (List.cons.inj h).1 hfeed
  · next r h =>
    obtain ⟨rfl, rfl⟩ := List.cons.inj h
    exact absurd rfl (hreturn rfl r)
  · next c' s' _ _ h =>
    obtain ⟨rfl, rfl⟩ := List.cons.inj h
    cases lines s <;> rfl

/-- **The first line.** It ends at the first line feed, or at a carriage return right before
it. -/
theorem lines_append_feed {s : Text} (hs : '\n' ∉ s) (rest : Text) :
    lines (s ++ '\n' :: rest) = dropReturn s :: lines rest := by
  induction s with
  | nil => rfl
  | cons c s ih =>
    obtain ⟨hc, hs⟩ := not_or.1 (mt List.mem_cons.2 hs)
    by_cases hpair : c = '\r' ∧ s = []
    · -- the pair of return and feed, with nothing before it
      obtain ⟨rfl, rfl⟩ := hpair
      rfl
    · -- otherwise `c` is on the line: a feed behind a return would be in `s`
      have hreturn : c = '\r' → s ≠ [] := fun hc hs => hpair ⟨hc, hs⟩
      have hnext : c = '\r' → ∀ r, s ++ '\n' :: rest ≠ '\n' :: r := by
        intro hc r heq
        cases s with
        | nil => exact hreturn hc rfl
        | cons d s =>
          obtain ⟨rfl, -⟩ := List.cons.inj heq
          exact hs List.mem_cons_self
      rw [List.cons_append, lines_cons (Ne.symm hc) hnext, ih hs, dropReturn_cons hreturn]
      rfl

/-- A pair of return and feed ends a line as it stands, whatever the line ends in. -/
theorem lines_append_pair {s : Text} (hs : '\n' ∉ s) (rest : Text) :
    lines (s ++ '\r' :: '\n' :: rest) = s :: lines rest := by
  have hs' : '\n' ∉ s ++ ['\r'] := by simpa using hs
  have hline := lines_append_feed hs' rest
  rwa [List.append_assoc, dropReturn_append_return] at hline

/-- What no line feed ends is one line. -/
theorem lines_of_not_mem {s : Text} (hs : '\n' ∉ s) (hne : s ≠ []) : lines s = [s] := by
  induction s with
  | nil => exact absurd rfl hne
  | cons c s ih =>
    obtain ⟨hc, hs⟩ := not_or.1 (mt List.mem_cons.2 hs)
    have hnext : c = '\r' → ∀ r, s ≠ '\n' :: r := by
      rintro - r rfl
      exact hs List.mem_cons_self
    rw [lines_cons (Ne.symm hc) hnext]
    cases s with
    | nil => rfl
    | cons d s =>
      rw [ih hs (List.cons_ne_nil d s)]
      rfl

/-! ### Putting lines together -/

theorem joinLines_cons {ls : List Text} (h : ls ≠ []) (l : Text) :
    joinLines (l :: ls) = l ++ '\n' :: joinLines ls := by
  cases ls with
  | nil => exact absurd rfl h
  | cons m ls =>
    show l ++ ['\n'] ++ joinLines (m :: ls) = _
    rw [List.append_assoc]
    rfl

/-- Lines that can be told apart once there are feeds between them. No feed makes two lines of
one, no return is taken for a part of the feed behind it, and the last line is not missed. -/
structure Separable (ls : List Text) : Prop where
  no_feed : ∀ l ∈ ls, '\n' ∉ l
  no_return : ∀ l ∈ ls.dropLast, l.getLast? ≠ some '\r'
  last_ne_nil : ls.getLast? ≠ some []

theorem Separable.tail {l m : Text} {ls : List Text} (h : Separable (l :: m :: ls)) :
    Separable (m :: ls) where
  no_feed := fun k hk => h.no_feed k (List.mem_cons_of_mem l hk)
  no_return := fun k hk => h.no_return k (List.mem_cons_of_mem l hk)
  last_ne_nil := by
    have hlast := h.last_ne_nil
    rwa [List.getLast?_cons_cons] at hlast

/-- **Lines with feeds between them are found again.** -/
theorem lines_joinLines {ls : List Text} (h : Separable ls) : lines (joinLines ls) = ls := by
  induction ls with
  | nil => rfl
  | cons l ls ih =>
    have hfeed : '\n' ∉ l := h.no_feed l List.mem_cons_self
    cases ls with
    | nil =>
      have hne : l ≠ [] := by
        rintro rfl
        exact h.last_ne_nil rfl
      exact lines_of_not_mem hfeed hne
    | cons m ls =>
      have hreturn : l.getLast? ≠ some '\r' := h.no_return l List.mem_cons_self
      rw [joinLines_cons (List.cons_ne_nil m ls), lines_append_feed hfeed,
        dropReturn_of_getLast? hreturn, ih h.tail]

/-- **Lines with a feed behind each are found again.** -/
theorem lines_flatMap_feed {ls : List Text}
    (h : ∀ l ∈ ls, '\n' ∉ l ∧ l.getLast? ≠ some '\r') :
    lines (ls.flatMap (· ++ ['\n'])) = ls := by
  induction ls with
  | nil => rfl
  | cons l ls ih =>
    obtain ⟨⟨hfeed, hreturn⟩, hls⟩ := List.forall_mem_cons.1 h
    rw [List.flatMap_cons, List.append_assoc, List.singleton_append, lines_append_feed hfeed,
      dropReturn_of_getLast? hreturn, ih hls]

theorem lines_ne_nil {s : Text} (h : s ≠ []) : lines s ≠ [] := by
  fun_cases lines s with
  | case1 => exact absurd rfl h
  | case2 s => exact List.cons_ne_nil _ _
  | case3 s => exact List.cons_ne_nil _ _
  | case4 c s => exact List.cons_ne_nil _ _
  | case5 c s => exact List.cons_ne_nil _ _

theorem joinLines_consFirst {ls : List Text} (h : ls ≠ []) (c : Char) :
    joinLines (consFirst c ls) = c :: joinLines ls := by
  match ls with
  | [] => exact absurd rfl h
  | [_] => rfl
  | _ :: _ :: _ => rfl

/-- No line holds what ends one. -/
theorem feed_not_mem_of_mem_lines {s l : Text} (h : l ∈ lines s) : '\n' ∉ l := by
  fun_induction lines s generalizing l with
  | case1 => exact absurd h List.not_mem_nil
  | case2 s ih | case3 s ih =>
    rcases List.mem_cons.1 h with rfl | h
    · exact List.not_mem_nil
    · exact ih h
  | case4 c s hc hs hlines ih =>
    obtain rfl : l = [c] := List.mem_singleton.1 h
    exact fun hmem => hc (List.mem_singleton.1 hmem).symm
  | case5 c s hc hs m ms hlines ih =>
    rw [hlines] at ih
    rcases List.mem_cons.1 h with rfl | h
    · intro hmem
      rcases List.mem_cons.1 hmem with heq | hmem
      · exact hc heq.symm
      · exact ih List.mem_cons_self hmem
    · exact ih (List.mem_cons_of_mem m h)

/-- What lines that were put together end in is the end of the last one, if it has one. -/
theorem getLast?_joinLines {ls : List Text} {l : Text} (hlast : ls.getLast? = some l)
    (hne : l ≠ []) : (joinLines ls).getLast? = l.getLast? := by
  induction ls with
  | nil => exact absurd hlast (Option.some_ne_none l).symm
  | cons m ls ih =>
    cases ls with
    | nil =>
      obtain rfl : m = l := Option.some.inj hlast
      rfl
    | cons k ls =>
      rw [List.getLast?_cons_cons] at hlast
      rw [joinLines_cons (List.cons_ne_nil k ls), List.getLast?_append, List.getLast?_cons,
        ih hlast, List.getLast?_eq_some_getLast hne]
      rfl

/-- **A text is its lines.** Between them there are feeds, and perhaps one more at the end, which
has no line behind it. -/
theorem exists_joinLines_lines {s : Text} (h : '\r' ∉ s) :
    ∃ e ∈ [[], ['\n']], s = joinLines (lines s) ++ e := by
  induction s with
  | nil => exact ⟨[], by decide, rfl⟩
  | cons c s ih =>
    obtain ⟨hc, hs⟩ := not_or.1 (mt List.mem_cons.2 h)
    obtain ⟨e, he, hjoin⟩ := ih hs
    cases s with
    | nil =>
      by_cases hfeed : c = '\n'
      · exact ⟨['\n'], by decide, by rw [hfeed]; rfl⟩
      · have hline : lines [c] = [[c]] :=
          lines_of_not_mem (by simpa using Ne.symm hfeed) (List.cons_ne_nil c [])
        exact ⟨[], by decide, by rw [hline]; rfl⟩
    | cons d s =>
      have hne : lines (d :: s) ≠ [] := lines_ne_nil (List.cons_ne_nil d s)
      refine ⟨e, he, ?_⟩
      by_cases hfeed : c = '\n'
      · -- the feed ends an empty line, in front of the others
        have hlines : lines (c :: d :: s) = [] :: lines (d :: s) := by
          rw [hfeed]
          rfl
        rw [hlines, joinLines_cons hne, hfeed]
        exact congrArg ('\n' :: ·) hjoin
      · -- the character belongs to the first line
        have hreturn : c = '\r' → ∀ r, d :: s ≠ '\n' :: r := fun heq => absurd heq.symm hc
        rw [lines_cons hfeed hreturn, joinLines_consFirst hne]
        exact congrArg (c :: ·) hjoin

end Text

end Tagline
