/-
The policy under which a project runs. A policy is valid by its type: its
isolation is one of two, and its limits are positive. It is built from values
of any kind or from the settings, and the first check that fails decides the
error.
-/
import Fingerprint.Decimal.Integer
import Fingerprint.Json.Display
import Fingerprint.Settings

namespace Fingerprint

open Decimal

/-- How a project is isolated when it runs. -/
inductive Isolation where
  | v8
  | wasm
  deriving DecidableEq, Repr, Inhabited

/-- The name of an isolation. -/
def Isolation.name : Isolation → String
  | .v8 => "v8"
  | .wasm => "wasm"

/-- The isolation of exactly this name. -/
def Isolation.withName? (s : String) : Option Isolation :=
  [Isolation.v8, .wasm].find? fun i => i.name == s

/-- The policy under which a project runs. -/
structure RuntimePolicy where
  isolation : Isolation := .v8
  timeoutMs : Nat := 30000
  memoryMb : Nat := 128
  timeout_pos : 0 < timeoutMs := by decide
  memory_pos : 0 < memoryMb := by decide

namespace RuntimePolicy

instance : Inhabited RuntimePolicy := ⟨{}⟩

/-- Why values make no policy. -/
inductive Invalid where
  | isolation (shown : String)
  | timeout (shown : String)
  | memory (shown : String)
  | literal (error : LiteralError)
  deriving DecidableEq, Repr

/-- The wording of an error. -/
def Invalid.message : Invalid → String
  | isolation shown => s!"isolation must be one of v8, wasm, got {shown}"
  | timeout shown => s!"timeout_ms must be a positive integer, got {shown}"
  | memory shown => s!"memory_mb must be a positive integer, got {shown}"
  | literal error => error.message

/-- The positive integer that a value is. -/
def positive? (v : Json.Value) : Option { n : Nat // 0 < n } :=
  match v with
  | .int n => if h : 0 < n.toNat then some ⟨n.toNat, h⟩ else none
  | _ => none

/-- The isolation that a value names. -/
def isolation? (v : Json.Value) : Option Isolation :=
  match v with
  | .string s => Isolation.withName? s
  | _ => none

/-- The policy of three values of any kind, checked in order. -/
def ofValues (isolation timeout memory : Json.Value) : Except Invalid RuntimePolicy := do
  let some i := isolation? isolation | throw (.isolation isolation.quoted)
  let some ⟨t, ht⟩ := positive? timeout | throw (.timeout timeout.quoted)
  let some ⟨m, hm⟩ := positive? memory | throw (.memory memory.quoted)
  return ⟨i, t, m, ht, hm⟩

/-- The integer of a variable, or else the given one. -/
def integerOr (env : Environment) (key : String) (fallback : Int) : Except Invalid Int :=
  match env.lookup key with
  | none => .ok fallback
  | some text => (readInteger text).mapError .literal

/-- The policy of the settings. Both integers are read before anything is checked. -/
def ofEnvironment (env : Environment) : Except Invalid RuntimePolicy := do
  let timeout ← integerOr env Settings.timeoutVariable 30000
  let memory ← integerOr env Settings.memoryVariable 128
  ofValues (.string (Settings.textOr env Settings.isolationVariable "v8")) (.int timeout)
    (.int memory)

end RuntimePolicy

end Fingerprint
