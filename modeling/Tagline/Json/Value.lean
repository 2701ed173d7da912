import Tagline.Text.Basic

/-!
# JSON values

The data that a host hands over. An object is kept in the order of its keys by code
point, and of several values under one key the last is kept (`Json.insert`).
-/

namespace Tagline

/-- A JSON value. A number is an integer where its text and its size allow it. -/
inductive Json where
  | null
  | bool (b : Bool)
  | int (n : Int)
  | float (x : Float)
  | string (s : Text)
  | array (items : List Json)
  | object (members : List (Text × Json))
  deriving Repr

namespace Json

/-- Puts a value under a key, in the order of keys. -/
def insert (key : Text) (v : Json) : List (Text × Json) → List (Text × Json)
  | [] => [(key, v)]
  | (k, w) :: ms =>
    match Text.compare key k with
    | .lt => (key, v) :: (k, w) :: ms
    | .eq => (key, v) :: ms
    | .gt => (k, w) :: insert key v ms

/-- The value under a key of an object. -/
def member? (key : Text) : Json → Option Json
  | .object ms => ms.lookup key
  | _ => none

end Json

end Tagline
