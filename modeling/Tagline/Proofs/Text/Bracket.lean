import Tagline.Text.Basic

/-!
# Brackets in a text

Parentheses and braces are balanced in a text if each closing one meets the opening one of
its own kind that was opened last, and none stays open; all other characters are passed over
(`Text.Balanced`). The brackets that are open at some point form a stack, and a text acts on
it (`Text.openAfter`):

* `turns_of_openAfter` — a text never looks below the part of the stack that it closes, so a
  run on that part holds on any stack above which it stands;
* `Turns.append` — runs of two texts follow one another;
* `count_of_openAfter` — a run keeps account of the parentheses.
-/

namespace Tagline

/-- The kinds of brackets. -/
inductive BracketKind where
  | round
  | curly
  deriving DecidableEq, Repr

namespace BracketKind

/-- The bracket that a character opens. -/
def opened? : Char → Option BracketKind
  | '(' => some .round
  | '\x7b' => some .curly
  | _ => none

/-- The bracket that a character closes. -/
def closed? : Char → Option BracketKind
  | ')' => some .round
  | '\x7d' => some .curly
  | _ => none

/-- The open brackets after one more character, innermost first; `none` if it closes a bracket
that is not the innermost. -/
def step (stack : List BracketKind) (c : Char) : Option (List BracketKind) :=
  match opened? c, closed? c, stack with
  | some b, _, stack => some (b :: stack)
  | none, none, stack => some stack
  | none, some b, top :: rest => if top = b then some rest else none
  | none, some _, [] => none

/-- A step does not look below the innermost bracket. -/
theorem step_append {stack stack' : List BracketKind} {c : Char} (h : step stack c = some stack')
    (below : List BracketKind) : step (stack ++ below) c = some (stack' ++ below) := by
  unfold step at h ⊢
  -- only a closing bracket looks at the stack, and it finds its partner on top
  cases hopened : opened? c with
  | some b =>
    rw [hopened] at h
    obtain rfl := Option.some.inj h
    rfl
  | none =>
    rw [hopened] at h
    cases hclosed : closed? c with
    | none =>
      rw [hclosed] at h
      obtain rfl := Option.some.inj h
      rfl
    | some b =>
      rw [hclosed] at h
      cases stack with
      | nil => exact absurd h.symm (Option.some_ne_none stack')
      | cons top rest =>
        by_cases htop : top = b
        · obtain rfl : rest = stack' := by simpa [htop] using h
          simp [htop]
        · simp [htop] at h

/-- A step opens a parenthesis at `(`, closes one at `)`, and touches none elsewhere. -/
theorem count_of_step {stack stack' : List BracketKind} {c : Char}
    (h : step stack c = some stack') :
    stack'.count .round + [c].count ')' = stack.count .round + [c].count '(' := by
  by_cases hopen : c = '('
  · subst hopen
    obtain rfl : BracketKind.round :: stack = stack' := Option.some.inj h
    simp
  by_cases hclose : c = ')'
  · subst hclose
    cases stack with
    | nil => exact absurd h.symm (Option.some_ne_none stack')
    | cons top rest =>
      cases top with
      -- a parenthesis does not close a brace
      | curly => exact absurd h.symm (Option.some_ne_none stack')
      | round =>
        obtain rfl : rest = stack' := Option.some.inj h
        simp
  -- a brace, or no bracket at all: the account stays as it is
  have hzero : [c].count ')' = 0 ∧ [c].count '(' = 0 := by simp [hopen, hclose]
  rw [hzero.1, hzero.2]
  by_cases hopen' : c = '\x7b'
  · subst hopen'
    obtain rfl : BracketKind.curly :: stack = stack' := Option.some.inj h
    simp
  by_cases hclose' : c = '\x7d'
  · subst hclose'
    cases stack with
    | nil => exact absurd h.symm (Option.some_ne_none stack')
    | cons top rest =>
      cases top with
      | round => exact absurd h.symm (Option.some_ne_none stack')
      | curly =>
        obtain rfl : rest = stack' := Option.some.inj h
        simp
  have hstep : step stack c = some stack := by
    simp [step, opened?, closed?]
  rw [hstep] at h
  rw [Option.some.inj h]

end BracketKind

namespace Text

open BracketKind (step step_append count_of_step)

/-- The brackets that are open after a text, given those that were open before it; `none` if
it closes one that is not the innermost. -/
def openAfter : List BracketKind → Text → Option (List BracketKind)
  | stack, [] => some stack
  | stack, c :: s => (step stack c).bind fun stack' => openAfter stack' s

/-- Parentheses and braces are balanced. -/
def Balanced (s : Text) : Prop := openAfter [] s = some []

instance : DecidablePred Balanced := fun s => inferInstanceAs (Decidable (openAfter [] s = some []))

theorem openAfter_append (stack : List BracketKind) (s t : Text) :
    openAfter stack (s ++ t) = (openAfter stack s).bind fun stack' => openAfter stack' t := by
  induction s generalizing stack with
  | nil => rfl
  | cons c s ih =>
    rw [List.cons_append, openAfter, openAfter, Option.bind_assoc]
    exact congrArg (Option.bind (step stack c)) (funext fun stack' => ih stack')

/-- A text takes the stack from `before` to `after`, whatever lies below. -/
def Turns (s : Text) (before after : List BracketKind) : Prop :=
  ∀ below, openAfter (before ++ below) s = some (after ++ below)

/-- **The frame of a run.** What a text does to a stack, it does to the upper part of any
larger one. -/
theorem turns_of_openAfter {s : Text} {before after : List BracketKind}
    (h : openAfter before s = some after) : Turns s before after := by
  intro below
  -- on the text, for every stack that the rest of it may start from
  induction s generalizing before with
  | nil =>
    obtain rfl := Option.some.inj h
    rfl
  | cons c s ih =>
    obtain ⟨stack, hstep, hrest⟩ := Option.bind_eq_some_iff.1 h
    rw [openAfter, step_append hstep below]
    exact ih hrest

theorem balanced_iff_turns {s : Text} : Balanced s ↔ Turns s [] [] :=
  ⟨turns_of_openAfter, fun h => h []⟩

theorem Turns.append {s t : Text} {a b c : List BracketKind} (hs : Turns s a b) (ht : Turns t b c) :
    Turns (s ++ t) a c := by
  intro below
  rw [openAfter_append, hs below]
  exact ht below

/-- A run stands on top of any other brackets. -/
theorem Turns.over {s : Text} {a b : List BracketKind} (h : Turns s a b)
    (stack : List BracketKind) :
    Turns s (a ++ stack) (b ++ stack) := by
  intro below
  rw [List.append_assoc, List.append_assoc]
  exact h (stack ++ below)

/-- **The account of parentheses.** Those that are opened are closed or stay open. -/
theorem count_of_openAfter {s : Text} {stack stack' : List BracketKind}
    (h : openAfter stack s = some stack') :
    stack'.count .round + s.count ')' = stack.count .round + s.count '(' := by
  induction s generalizing stack with
  | nil =>
    obtain rfl := Option.some.inj h
    rfl
  | cons c s ih =>
    obtain ⟨middle, hstep, hrest⟩ := Option.bind_eq_some_iff.1 h
    have hfirst := count_of_step hstep
    have hlater := ih hrest
    rw [← List.singleton_append, List.count_append, List.count_append]
    omega

theorem Balanced.count_eq {s : Text} (h : Balanced s) : s.count ')' = s.count '(' := by
  have hcount := count_of_openAfter h
  simpa using hcount

end Text

end Tagline
