import Tagline.Log
import Tagline.Text.Blank
import Tagline.Text.Line
import Tagline.Text.Quoted

/-!
# Clauses

A line of the block language means one *clause*: it echoes a value, opens or goes on
with a conditional, opens or closes a loop, closes a block, or is script text to be
kept as it is. The patterns are tried from the more special to the more general, so
that `elseif` is not taken for `else` nor `endeach` for `end`; every line is some
clause (`Clause.ofLine`).

`elseif` and `if` are keywords only where the word ends: before a blank, before `(`, or
at the end of the line. The other patterns are plain beginnings.
-/

namespace Tagline

/-- The branch that a conditional clause opens. -/
inductive Branch where
  | ifThen
  | elseIf
  | otherwise
  deriving DecidableEq, Repr

/-- The meaning of one line. -/
inductive Clause where
  /-- Echoes the value of a script expression. -/
  | echo (code : Text)
  /-- Opens a branch of a conditional. The last branch has no condition. -/
  | conditional (branch : Branch) (condition : Option Text)
  /-- Opens a loop over a collection, each element of which is called `item`. -/
  | loopStart (collection item : Text)
  /-- Closes a loop. -/
  | loopEnd
  /-- Closes the block that the writer has in mind: a loop, or else a conditional. -/
  | blockEnd (closesLoop : Bool)
  /-- Keeps script text. -/
  | verbatim (text : Text)
  deriving DecidableEq, Repr

namespace Clause

/-- The name of a collection that is not named. -/
def defaultCollection : Text := "collection".toList

/-- The name of an element that is not named. -/
def defaultItem : Text := "item".toList

/-- Opens a loop, with the usual names in place of those that are missing. -/
def loop (collection item : Option Text) : Clause :=
  .loopStart (collection.getD defaultCollection) (item.getD defaultItem)

/-- Whether the text after `end` says that a loop is closed. -/
def closesLoop (hint : Text) : Bool := Text.trim hint == "each".toList

/-- Whether a keyword may end before the given text. -/
def endsKeyword : Text → Bool
  | [] => true
  | c :: _ => Text.isBlank c || c == '('

/-- What follows a keyword at the start of a line. -/
def keyword? (word line : Text) : Option Text :=
  (Text.after? word line).filter endsKeyword

/-- The clause that a line means. -/
def ofLine (line : Text) : Clause :=
  if let some code := Text.after? "=".toList line then
    .echo (Text.trim code)
  -- `elseif` before `else`, and `endeach` before `end`.
  else if let some rest := keyword? "elseif".toList line then
    .conditional .elseIf (some (Text.dropTerminator (Text.trimStart rest)))
  else if Text.begins "else".toList line then
    .conditional .otherwise none
  else if Text.begins "endeach".toList line then
    .loopEnd
  else if let some rest := Text.after? "end".toList line then
    .blockEnd (closesLoop rest)
  else if Text.begins "each".toList line then
    let names := (Text.words line).drop 1
    loop names[0]? names[1]?
  else if let some rest := keyword? "if".toList line then
    .conditional .ifThen (some (Text.trimStart rest))
  else
    .verbatim line

/-! ### Clauses in log messages -/

/-- The name of a branch. -/
def branchName : Branch → Text
  | .ifThen => "If".toList
  | .elseIf => "ElseIf".toList
  | .otherwise => "Else".toList

/-- A condition as a log message shows it. -/
def describeCondition : Option Text → Text
  | none => "None".toList
  | some c => "Some(".toList ++ Text.quoted c ++ [')']

/-- A clause as a log message shows it. -/
def describe : Clause → Text
  | .echo code => "Expression \x7b code: ".toList ++ Text.quoted code ++ " \x7d".toList
  | .conditional branch condition =>
    "Conditional \x7b kind: ".toList ++ branchName branch ++ ", condition: ".toList ++
      describeCondition condition ++ " \x7d".toList
  | .loopStart collection item =>
    "LoopStart \x7b collection: ".toList ++ Text.quoted collection ++ ", item: ".toList ++
      Text.quoted item ++ " \x7d".toList
  | .loopEnd => "LoopEnd".toList
  | .blockEnd closesLoop =>
    "BlockEnd \x7b closes_loop: ".toList ++
      (if closesLoop then "true".toList else "false".toList) ++ " \x7d".toList
  | .verbatim text => "Raw \x7b text: ".toList ++ Text.quoted text ++ " \x7d".toList

/-- The message that a line was read as a clause. -/
def readMessage (line : Text) (c : Clause) : Text :=
  "recognized ".toList ++ Text.quoted line ++ " as ".toList ++ c.describe

/-- Reads a line and notes what it means. -/
def read (line : Text) : Logged Clause := do
  let c := ofLine line
  Logged.note .trace .clause (readMessage line c)
  return c

@[simp] theorem value_read (line : Text) : (read line).value = ofLine line := rfl

@[simp] theorem log_read (line : Text) :
    (read line).log = [⟨.trace, .clause, readMessage line (ofLine line)⟩] := rfl

end Clause

end Tagline
