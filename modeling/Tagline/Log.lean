import Tagline.Text.Basic

/-!
# Log records

A computation that writes log records gives them together with its value
(`Logged`). Records are kept in the order in which they are written:

* `Logged.value_bind` and `Logged.log_bind` say what a sequence of two computations
  gives and writes;
* `Logged.note` writes one record.

The records of three computations in a row do not depend on how they are grouped, so
`Logged` is a lawful monad.
-/

namespace Tagline

namespace Log

/-- How important a record is. -/
inductive Level where
  | trace
  | debug
  deriving DecidableEq, Repr

/-- The part of the program that writes a record. -/
inductive Origin where
  /-- Reading a line as a clause. -/
  | clause
  /-- Expanding a block. -/
  | block
  /-- Resolving a fragment. -/
  | resolver
  /-- Looking a filter up in a table. -/
  | table
  /-- Binding filters into a template environment. -/
  | host
  deriving DecidableEq, Repr

/-- A log record. -/
structure Record where
  level : Level
  origin : Origin
  message : Text
  deriving DecidableEq, Repr

end Log

/-- Log records in the order in which they were written. -/
abbrev Log := List Log.Record

/-- A value together with the records that were written on the way to it. -/
structure Logged (α : Type) where
  value : α
  log : Log
  deriving DecidableEq, Repr

namespace Logged

variable {α β : Type}

/-- Goes on with a value and adds the records of what follows. -/
def andThen (x : Logged α) (f : α → Logged β) : Logged β :=
  ⟨(f x.value).value, x.log ++ (f x.value).log⟩

instance : Monad Logged where
  pure a := ⟨a, []⟩
  bind := andThen

/-- Writes one record. -/
def note (level : Log.Level) (origin : Log.Origin) (message : Text) : Logged Unit :=
  ⟨⟨⟩, [⟨level, origin, message⟩]⟩

@[simp] theorem value_pure (a : α) : (pure a : Logged α).value = a := rfl

@[simp] theorem log_pure (a : α) : (pure a : Logged α).log = [] := rfl

@[simp] theorem value_bind (x : Logged α) (f : α → Logged β) :
    (x >>= f).value = (f x.value).value := rfl

@[simp] theorem log_bind (x : Logged α) (f : α → Logged β) :
    (x >>= f).log = x.log ++ (f x.value).log := rfl

@[simp] theorem value_map (f : α → β) (x : Logged α) : (f <$> x).value = f x.value := rfl

@[simp] theorem log_map (f : α → β) (x : Logged α) : (f <$> x).log = x.log :=
  List.append_nil _

@[ext] theorem ext {x y : Logged α} (hv : x.value = y.value) (hl : x.log = y.log) : x = y := by
  cases x
  cases y
  simp_all

instance : LawfulMonad Logged :=
  LawfulMonad.mk' Logged
    (fun x => Logged.ext rfl (log_map id x))
    (fun _ _ => rfl)
    (fun x f g => Logged.ext rfl (List.append_assoc x.log _ _))

end Logged

end Tagline
