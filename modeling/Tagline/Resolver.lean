import Tagline.Log

/-!
# Resolving fragments

A host may want some expressions resolved before a tag is written, such as a constant
title. A *resolver* gives the text that a fragment stands for, or says why it has
none; a fragment without a text is kept as it is (`Resolver.settle`), and the log says
why.
-/

namespace Tagline

/-- Why a fragment could not be evaluated. -/
inductive Cause where
  /-- The fragment is not an expression, or its evaluation failed. -/
  | invalid (reason : Text)
  /-- The resolver has a reason of its own. -/
  | refused (reason : Text)
  deriving DecidableEq, Repr

/-- The cause in words. -/
def Cause.text : Cause → Text
  | .invalid reason => reason
  | .refused reason => reason

/-- Why a fragment has no text. -/
inductive Unresolved where
  /-- Its evaluation failed. -/
  | failed (code : Text) (cause : Cause)
  /-- Its value is undefined. -/
  | undefined (code : Text)
  deriving DecidableEq, Repr

/-- The reason in words. -/
def Unresolved.message : Unresolved → Text
  | .failed code cause => "cannot evaluate '".toList ++ code ++ "': ".toList ++ cause.text
  | .undefined code => "'".toList ++ code ++ "' evaluated to an undefined value".toList

/-- Gives the text that a fragment stands for. -/
abbrev Resolver := Text → Except Unresolved Text

namespace Resolver

/-- The text that a fragment stands for, or else the fragment itself. -/
def settled (r : Resolver) (code : Text) : Text :=
  match r code with
  | .ok value => value
  | .error _ => code

/-- The record that a fragment is kept. -/
def keptRecord (e : Unresolved) : Log.Record :=
  ⟨.debug, .resolver, "keeping source text: ".toList ++ e.message⟩

/-- Settles a fragment and notes why it is kept, if it is. -/
def settle (r : Resolver) (code : Text) : Logged Text :=
  match r code with
  | .ok value => ⟨value, []⟩
  | .error e => ⟨code, [keptRecord e]⟩

@[simp] theorem value_settle (r : Resolver) (code : Text) :
    (r.settle code).value = r.settled code := by
  unfold settle settled
  cases r code <;> rfl

end Resolver

end Tagline
