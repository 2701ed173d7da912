import Tagline.Clause
import Tagline.Yaml.Value

/-!
# The names of a loop

The block of the filter `each` names the collection and the element of a loop. It is a
YAML mapping with the keys `collection` and `item`, both optional; a text that is no
mapping is read like a line of the block language, with or without `each` at the
front.
-/

namespace Tagline

/-- The names of a loop, as far as they are given. -/
structure LoopNames where
  collection : Option Text := none
  item : Option Text := none
  deriving DecidableEq, Repr

namespace LoopNames

/-- The name that a scalar gives, if it is one. Null gives none. -/
def scalarName? : Yaml.Value → Option Text
  | .string s => some s
  | .int n => some (Number.intText n)
  | .float x => some (Yaml.floatText x)
  | .bool b => some (Yaml.boolText b)
  | _ => none

/-- Whether a value is a collection or has a tag, so that it gives no name. -/
def isCompound : Yaml.Value → Bool
  | .sequence _ => true
  | .mapping _ => true
  | .tagged _ _ => true
  | _ => false

/-- The record that the value under a key is left aside. -/
def ignoredRecord (key : Text) (v : Yaml.Value) : Log.Record :=
  ⟨.debug, .block, "each option '".toList ++ key ++ "' is not a scalar (".toList ++ v.describe ++
    "), using default".toList⟩

/-- The name under a key of a mapping. -/
def nameAt (entries : List (Yaml.Value × Yaml.Value)) (key : Text) : Logged (Option Text) :=
  match Yaml.Value.find? (.string key) entries with
  | none => ⟨none, []⟩
  | some v => ⟨scalarName? v, if isCompound v then [ignoredRecord key v] else []⟩

/-- The names in the first two words. -/
def ofWords (ws : List Text) : LoopNames := ⟨ws[0]?, ws[1]?⟩

/-- The names in the words of a text, after the word `each` if it comes first. -/
def ofTokens (s : Text) : LoopNames :=
  match Text.words s with
  | w :: ws => if w = "each".toList then ofWords ws else ofWords (w :: ws)
  | [] => {}

/-- What was read in place of a mapping, in words. -/
def describeReading : Except Yaml.Error Yaml.Value → Text
  | .ok v => "Ok(".toList ++ v.describe ++ [')']
  | .error e => "Err(Error(".toList ++ Text.quoted e.message ++ "))".toList

/-- The record that a text is no mapping. -/
def noMappingRecord (r : Except Yaml.Error Yaml.Value) : Log.Record :=
  ⟨.debug, .block, "each options are not a mapping (".toList ++ describeReading r ++
    "), reading tokens".toList⟩

/-- Reads the names from the block of the filter `each`. -/
def read (s : Text) : Logged LoopNames :=
  if Text.allBlank s then ⟨{}, []⟩
  else match Yaml.Value.ofText s with
    | .ok (.mapping entries) => do
      let collection ← nameAt entries "collection".toList
      let item ← nameAt entries "item".toList
      return ⟨collection, item⟩
    -- Anything else, be it another value or no YAML at all, is read word by word.
    | r => ⟨ofTokens s, [noMappingRecord r]⟩

/-- The names in the block of the filter `each`. -/
def ofText (s : Text) : LoopNames := (read s).value

/-- The clause that opens the loop. -/
def clause (n : LoopNames) : Clause := .loop n.collection n.item

end LoopNames

end Tagline
