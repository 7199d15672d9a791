/-
The trace of a computation: the events that it reports, in order, kept beside
its result or failure. What was reported before a failure stays reported.
-/
import Fingerprint.Ecosystem
import Fingerprint.Json.Reader
import Fingerprint.Language
import Fingerprint.Log.Severity

namespace Fingerprint

/-- Why a manifest says nothing. -/
inductive Malformed where
  | syntaxError (error : Json.ReadError)
  | notAnObject
  deriving DecidableEq, Repr

/-- The wording of a malformed manifest. -/
def Malformed.message : Malformed → String
  | .syntaxError e => e.message
  | .notAnObject => "not an object"

/-- Something worth reporting. -/
inductive Event where
  | unknownForcedLanguage (language : String)
  | manifestFound (file : String) (ecosystem : Ecosystem)
  | manifestUnreadable (file error : String)
  | malformedManifest (file : String) (why : Malformed)
  | fileUnreadable (file error : String)
  | resolved (path : String) (language : Language) (entrypoint : String) (guessed : Bool)
      (ecosystems : List Ecosystem)
  | fileWritten (file : String)
  deriving DecidableEq, Repr

namespace Event

/-- The name of the logger that the events go to. -/
def logger : String := "phantomkit.engine"

/-- How serious an event is. -/
def severity : Event → Log.Severity
  | unknownForcedLanguage _ => .warning
  | manifestFound _ _ => .debug
  | manifestUnreadable _ _ => .warning
  | malformedManifest _ _ => .debug
  | fileUnreadable _ _ => .warning
  | resolved _ _ _ _ _ => .info
  | fileWritten _ => .debug

/-- The name of an event. -/
def name : Event → String
  | unknownForcedLanguage _ => "resolver.unknown_forced_language"
  | manifestFound _ _ => "resolver.manifest_found"
  | manifestUnreadable _ _ => "resolver.manifest_unreadable"
  | malformedManifest _ _ => "parser.malformed_manifest"
  | fileUnreadable _ _ => "resolver.file_unreadable"
  | resolved _ _ _ _ _ => "resolver.resolved"
  | fileWritten _ => "scaffold.file_written"

/-- What an event carries. -/
def fields : Event → List (String × Json.Value)
  | unknownForcedLanguage language => [("language", .string language)]
  | manifestFound file ecosystem => [("file", .string file), ("ecosystem", .string ecosystem.name)]
  | manifestUnreadable file error => [("file", .string file), ("error", .string error)]
  | malformedManifest file why => [("file", .string file), ("error", .string why.message)]
  | fileUnreadable file error => [("file", .string file), ("error", .string error)]
  | resolved path language entrypoint guessed ecosystems =>
    [("path", .string path), ("language", .string language.name), ("entrypoint", .string entrypoint),
      ("guessed", .bool guessed), ("ecosystems", .array (ecosystems.map fun e => .string e.name))]
  | fileWritten file => [("file", .string file)]

end Event

theorem bind_ok_iff {ε α β : Type} {x : Except ε α} {f : α → Except ε β} {b : β} :
    x.bind f = .ok b ↔ ∃ a, x = .ok a ∧ f a = .ok b := by
  cases x <;> simp [Except.bind]

theorem mapError_ok_iff {ε ε' α : Type} {x : Except ε α} {f : ε → ε'} {a : α} :
    x.mapError f = .ok a ↔ x = .ok a := by
  cases x with
  | error e => exact ⟨nofun, nofun⟩
  | ok b =>
    constructor
    · rintro ⟨⟩
      rfl
    · rintro ⟨⟩
      rfl

theorem toOption_eq_some_iff {ε α : Type} {x : Except ε α} {a : α} :
    x.toOption = some a ↔ x = .ok a := by
  cases x <;> simp [Except.toOption]

/-- A result or failure with the events reported on the way. -/
structure Traced (ε : Type u) (α : Type v) where
  events : List Event
  outcome : Except ε α

namespace Traced

variable {ε : Type u} {α β : Type v}

/-- Reports one event. -/
def report (e : Event) : Traced ε PUnit := ⟨[e], .ok ⟨⟩⟩

/-- Fails without a report. -/
def fail (e : ε) : Traced ε α := ⟨[], .error e⟩

/-- A result or failure without a report. -/
def ofExcept (x : Except ε α) : Traced ε α := ⟨[], x⟩

/-- Goes on from a result, the reports in order. -/
def bind (x : Traced ε α) (f : α → Traced ε β) : Traced ε β :=
  match x.outcome with
  | .ok a => let y := f a; ⟨x.events ++ y.events, y.outcome⟩
  | .error e => ⟨x.events, .error e⟩

instance : Monad (Traced ε) where
  pure a := ⟨[], .ok a⟩
  bind := bind

/-- The same computation under another kind of failure. -/
def mapError {ε' : Type u} (f : ε → ε') (x : Traced ε α) : Traced ε' α :=
  ⟨x.events, x.outcome.mapError f⟩

theorem events_bind_ok {x : Traced ε α} {a : α} (h : x.outcome = .ok a) (f : α → Traced ε β) :
    (x.bind f).events = x.events ++ (f a).events := by simp [bind, h]

/-! The outcome alone: a trace changes nothing in it. -/

@[simp] theorem outcome_pure (a : α) : (pure a : Traced ε α).outcome = .ok a := rfl

@[simp] theorem outcome_report (e : Event) : (report e : Traced ε PUnit).outcome = .ok ⟨⟩ := rfl

@[simp] theorem outcome_ofExcept (x : Except ε α) : (ofExcept x).outcome = x := rfl

@[simp] theorem outcome_fail (e : ε) : (fail e : Traced ε α).outcome = .error e := rfl

@[simp] theorem outcome_mapError {ε' : Type u} (f : ε → ε') (x : Traced ε α) :
    (x.mapError f).outcome = x.outcome.mapError f := rfl

@[simp] theorem outcome_bind (x : Traced ε α) (f : α → Traced ε β) :
    (x >>= f).outcome = x.outcome.bind fun a => (f a).outcome := by
  obtain ⟨events, _ | a⟩ := x <;> rfl

end Traced

end Fingerprint
