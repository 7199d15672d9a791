/-
The values of a JSON document. Integers and floating-point numbers are kept
apart, and an object remembers the order of its members. An object built by
the reader has no member twice: a repeated name keeps its first place and
takes its last value.
-/
import Fingerprint.Table

namespace Fingerprint.Json

/-- A JSON value. -/
inductive Value where
  | null
  | bool (b : Bool)
  | int (n : Int)
  | float (x : Float)
  | string (s : String)
  | array (items : List Value)
  | object (members : List (String × Value))
  deriving Inhabited

namespace Value

/-- The member of an object, or none if there is none or the value is no object. -/
def member? (v : Value) (name : String) : Option Value :=
  match v with
  | object members => Entries.get? name members
  | _ => none

/-- Whether a value counts as true: everything but null, false, zero and what is empty. -/
def isTruthy : Value → Bool
  | null => false
  | bool b => b
  | int n => n != 0
  | float x => x != 0.0
  | string s => !s.isEmpty
  | array items => !items.isEmpty
  | object members => !members.isEmpty

/-- An object whose members are all strings. -/
def ofStrings (entries : List (String × String)) : Value :=
  object (entries.map fun e => (e.1, string e.2))

end Value

end Fingerprint.Json
