/-
The languages that a project is classed under. A name given from outside is
looked up without the blanks around it and in small letters.
-/
import Fingerprint.Text.Blank
import Fingerprint.Text.Case

namespace Fingerprint

open Text

/-- A project language. -/
inductive Language where
  | js
  | ts
  | python
  | rust
  | ruby
  | go
  | php
  | swift
  | unknown
  deriving DecidableEq, Repr, Inhabited

namespace Language

/-- Every language. -/
def all : List Language := [js, ts, python, rust, ruby, go, php, swift, unknown]

/-- The name of a language. -/
def name : Language → String
  | js => "js"
  | ts => "ts"
  | python => "python"
  | rust => "rust"
  | ruby => "ruby"
  | go => "go"
  | php => "php"
  | swift => "swift"
  | unknown => "unknown"

theorem mem_all (l : Language) : l ∈ all := by cases l <;> decide

theorem name_injective {a b : Language} (h : a.name = b.name) : a = b := by
  cases a <;> cases b <;> first | rfl | simp [name] at h

/-- A name without the blanks around it, in small letters. -/
def normalName (s : String) : String := String.ofList (lower (trim s.toList))

/-- The language of exactly this name. -/
def withName? (s : String) : Option Language := all.find? fun l => l.name == s

/-- The language of a name, whatever its case and the blanks around it. -/
def ofName? (s : String) : Option Language := withName? (normalName s)

theorem withName?_name (l : Language) : withName? l.name = some l := by cases l <;> decide

/-- Whether projects in the language are run by Node. -/
def isNode : Language → Bool
  | js | ts => true
  | _ => false

end Language

end Fingerprint
