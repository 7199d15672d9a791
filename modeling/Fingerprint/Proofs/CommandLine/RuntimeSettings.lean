/-
The policy that the settings declare. A variable that is not set leaves its
default, any other must be written as the policy has it (`IsDeclared`). Where
settings declare no policy, the first of five checks that fails decides the
error: both integers are read before any value is checked (`FirstFailure`). One
of the two is always the case (`declared_or_failure`), and the reader tells
which (`ofEnvironment_verdict`). A project is not initialized under settings
that declare no policy, and nothing is made of it.
-/
import Fingerprint.Proofs.CommandLine.Session
import Fingerprint.Proofs.Decimal.IntegerText

namespace Fingerprint

namespace RuntimePolicy

open Decimal

/-- Whether a variable gives an integer: the one it is written as, or the given one if it is not
set. -/
inductive GivesInteger (env : Environment) (key : String) (fallback : Int) : Int → Prop where
  | unset (h : env.lookup key = none) : GivesInteger env key fallback fallback
  | set {text : String} {n : Int} (h : env.lookup key = some text)
      (hn : IsInteger text.toList n) : GivesInteger env key fallback n

/-- The milliseconds that the settings give. -/
def GivesTimeout (env : Environment) (n : Int) : Prop :=
  GivesInteger env Settings.timeoutVariable (default : RuntimePolicy).timeoutMs n

/-- The megabytes that the settings give. -/
def GivesMemory (env : Environment) (n : Int) : Prop :=
  GivesInteger env Settings.memoryVariable (default : RuntimePolicy).memoryMb n

/-- The isolation that the settings give by its exact name. -/
inductive GivesIsolation (env : Environment) : Isolation → Prop where
  | unset (h : env.lookup Settings.isolationVariable = none) :
    GivesIsolation env (default : RuntimePolicy).isolation
  | set {i : Isolation} (h : env.lookup Settings.isolationVariable = some i.name) :
    GivesIsolation env i

/-- Whether the settings declare a policy. Its limits are positive by its type. -/
structure IsDeclared (env : Environment) (p : RuntimePolicy) : Prop where
  isolation : GivesIsolation env p.isolation
  timeout : GivesTimeout env p.timeoutMs
  memory : GivesMemory env p.memoryMb

/-- The first check that settings fail, and the error that is given for it. -/
inductive FirstFailure (env : Environment) : Invalid → Prop where
  | timeoutText {text : String} {e : LiteralError}
      (h : env.lookup Settings.timeoutVariable = some text) (he : Refuses text e) :
      FirstFailure env (.literal e)
  | memoryText {t : Int} {text : String} {e : LiteralError} (ht : GivesTimeout env t)
      (h : env.lookup Settings.memoryVariable = some text) (he : Refuses text e) :
      FirstFailure env (.literal e)
  | isolation {t m : Int} {name : String} (ht : GivesTimeout env t) (hm : GivesMemory env m)
      (h : env.lookup Settings.isolationVariable = some name)
      (hname : ∀ i, name ≠ Isolation.name i) :
      FirstFailure env (.isolation (Json.Value.string name).quoted)
  | timeout {t m : Int} {i : Isolation} (ht : GivesTimeout env t) (hm : GivesMemory env m)
      (hi : GivesIsolation env i) (hpos : t ≤ 0) :
      FirstFailure env (.timeout (Json.Value.int t).quoted)
  | memory {t m : Int} {i : Isolation} (ht : GivesTimeout env t) (hm : GivesMemory env m)
      (hi : GivesIsolation env i) (htpos : 0 < t) (hpos : m ≤ 0) :
      FirstFailure env (.memory (Json.Value.int m).quoted)

variable {env : Environment} {key : String} {fallback n : Int} {p : RuntimePolicy}

theorem integerOr_of_gives (h : GivesInteger env key fallback n) :
    integerOr env key fallback = .ok n := by
  cases h with
  | unset h => rw [integerOr, h]
  | set h hn =>
    rw [integerOr, h]
    exact mapError_ok_iff.2 (readInteger_eq_ok.2 hn)

theorem integerOr_of_refuses {text : String} {e : LiteralError} (h : env.lookup key = some text)
    (he : Refuses text e) : integerOr env key fallback = .error (.literal e) := by
  rw [integerOr, h]
  simp only [readInteger_eq_error.2 he]
  rfl

theorem isolation?_of_gives {i : Isolation} (h : GivesIsolation env i) :
    isolation? (.string (Settings.textOr env Settings.isolationVariable "v8")) = some i := by
  cases h with
  | unset h =>
    rw [Settings.textOr, h]
    rfl
  | set h =>
    rw [Settings.textOr, h]
    cases i <;> rfl

theorem isolation?_of_not_name {name : String} (h : ∀ i, name ≠ Isolation.name i) :
    isolation? (.string name) = none := by
  rw [isolation?, Isolation.withName?, List.find?_eq_none]
  intro i _ hi
  exact h i (beq_iff_eq.1 hi).symm

theorem positive?_of_pos {k : Nat} (h : 0 < k) : positive? (.int k) = some ⟨k, h⟩ := dif_pos h

theorem positive?_of_nonpos (h : n ≤ 0) : positive? (.int n) = none :=
  dif_neg (by omega)

theorem ofEnvironment_of_integers {t m : Int} (ht : GivesTimeout env t) (hm : GivesMemory env m) :
    ofEnvironment env = ofValues
      (.string (Settings.textOr env Settings.isolationVariable "v8")) (.int t) (.int m) := by
  have htimeout : integerOr env Settings.timeoutVariable 30000 = .ok t := integerOr_of_gives ht
  have hmemory : integerOr env Settings.memoryVariable 128 = .ok m := integerOr_of_gives hm
  rw [ofEnvironment, htimeout, hmemory]
  rfl

theorem ofEnvironment_of_declared (h : IsDeclared env p) : ofEnvironment env = .ok p := by
  rw [ofEnvironment_of_integers h.timeout h.memory, ofValues, isolation?_of_gives h.isolation,
    positive?_of_pos p.timeout_pos, positive?_of_pos p.memory_pos]
  rfl

theorem ofEnvironment_of_failure {e : Invalid} (h : FirstFailure env e) :
    ofEnvironment env = .error e := by
  cases h with
  | timeoutText h he =>
    rw [ofEnvironment, integerOr_of_refuses h he]
    rfl
  | memoryText ht h he =>
    have htimeout : integerOr env Settings.timeoutVariable 30000 = .ok _ := integerOr_of_gives ht
    rw [ofEnvironment, htimeout, integerOr_of_refuses h he]
    rfl
  | isolation ht hm h hname =>
    rw [ofEnvironment_of_integers ht hm, Settings.textOr, h, Option.getD_some, ofValues,
      isolation?_of_not_name hname]
    rfl
  | timeout ht hm hi hpos =>
    rw [ofEnvironment_of_integers ht hm, ofValues, isolation?_of_gives hi,
      positive?_of_nonpos hpos]
    rfl
  | memory ht hm hi htpos hpos =>
    obtain ⟨k, rfl⟩ := Int.eq_ofNat_of_zero_le (Int.le_of_lt htpos)
    rw [ofEnvironment_of_integers ht hm, ofValues, isolation?_of_gives hi,
      positive?_of_pos (Int.natCast_pos.1 htpos), positive?_of_nonpos hpos]
    rfl

theorem gives_or_refuses (env : Environment) (key : String) (fallback : Int) :
    (∃ n, GivesInteger env key fallback n) ∨
      ∃ text e, env.lookup key = some text ∧ Refuses text e := by
  cases h : env.lookup key with
  | none => exact .inl ⟨fallback, .unset h⟩
  | some text =>
    cases hread : readInteger text with
    | ok n => exact .inl ⟨n, .set h (readInteger_eq_ok.1 hread)⟩
    | error e => exact .inr ⟨text, e, rfl, readInteger_eq_error.1 hread⟩

theorem givesIsolation_or_not (env : Environment) : (∃ i, GivesIsolation env i) ∨
    ∃ name, env.lookup Settings.isolationVariable = some name ∧ ∀ i, name ≠ Isolation.name i := by
  cases h : env.lookup Settings.isolationVariable with
  | none => exact .inl ⟨_, .unset h⟩
  | some name =>
    by_cases hname : ∃ i, name = Isolation.name i
    · obtain ⟨i, rfl⟩ := hname
      exact .inl ⟨i, .set h⟩
    · exact .inr ⟨name, rfl, not_exists.1 hname⟩

/-- **Settings declare a policy, or there is a first check that they fail.** -/
theorem declared_or_failure (env : Environment) :
    (∃ p, IsDeclared env p) ∨ ∃ e, FirstFailure env e := by
  rcases gives_or_refuses env Settings.timeoutVariable (default : RuntimePolicy).timeoutMs with
    ⟨t, ht⟩ | ⟨text, e, h, he⟩
  · rcases gives_or_refuses env Settings.memoryVariable (default : RuntimePolicy).memoryMb with
      ⟨m, hm⟩ | ⟨text, e, h, he⟩
    · rcases givesIsolation_or_not env with ⟨i, hi⟩ | ⟨name, h, hname⟩
      · by_cases htpos : 0 < t
        · by_cases hmpos : 0 < m
          · obtain ⟨t, rfl⟩ := Int.eq_ofNat_of_zero_le (Int.le_of_lt htpos)
            obtain ⟨m, rfl⟩ := Int.eq_ofNat_of_zero_le (Int.le_of_lt hmpos)
            exact .inl ⟨⟨i, t, m, Int.natCast_pos.1 htpos, Int.natCast_pos.1 hmpos⟩, hi, ht, hm⟩
          · exact .inr ⟨_, .memory ht hm hi htpos (Int.not_lt.1 hmpos)⟩
        · exact .inr ⟨_, .timeout ht hm hi (Int.not_lt.1 htpos)⟩
      · exact .inr ⟨_, .isolation ht hm h hname⟩
    · exact .inr ⟨_, .memoryText ht h he⟩
  · exact .inr ⟨_, .timeoutText h he⟩

theorem ofEnvironment_eq_ok : ofEnvironment env = .ok p ↔ IsDeclared env p := by
  refine ⟨fun h => ?_, ofEnvironment_of_declared⟩
  rcases declared_or_failure env with ⟨q, hq⟩ | ⟨e, he⟩
  · rw [ofEnvironment_of_declared hq] at h
    cases h
    exact hq
  · rw [ofEnvironment_of_failure he] at h
    cases h

theorem ofEnvironment_eq_error {e : Invalid} :
    ofEnvironment env = .error e ↔ FirstFailure env e := by
  refine ⟨fun h => ?_, ofEnvironment_of_failure⟩
  rcases declared_or_failure env with ⟨q, hq⟩ | ⟨e', he⟩
  · rw [ofEnvironment_of_declared hq] at h
    cases h
  · rw [ofEnvironment_of_failure he] at h
    cases h
    exact he

end RuntimePolicy

namespace CommandLine

open RuntimePolicy

variable {w : Surroundings} {r : InitRequest} {t : FileTree} {c : Call} {e : Invalid}

/-- The settings are looked at before anything is made. -/
theorem init_of_invalid (h : ofEnvironment w.environment = .error e) : init w r =
    (w.snapshot.tree, .fail (.complaint ("Invalid runtime setting: " ++ e.message))) := by
  rw [init, policy, h]
  rfl

theorem run_of_invalid (hr : c.request? t = some (.init r))
    (h : ofEnvironment c.environment = .error e) : (c.run t).exit = 1 ∧ (c.run t).tree = t := by
  rcases run_of_request hr with ⟨-, hexit, htree⟩ | ⟨l, -, hrun⟩
  · exact ⟨hexit, htree⟩
  · have hdone : perform (c.surroundings t) (.init r) =
        (t, .fail (.complaint ("Invalid runtime setting: " ++ e.message))) := init_of_invalid h
    rw [hrun, hdone]
    exact ⟨rfl, rfl⟩

/-- **The settings hold iff they declare a policy, and then it is that one.** Otherwise the error is
that of the first check that fails, and whatever else a call that initializes a project is told, it
ends with status 1 and leaves the files as they were. -/
theorem settings_verdict (env : Environment) :
    (∀ p, ofEnvironment env = .ok p ↔ IsDeclared env p) ∧
    (∀ e, ofEnvironment env = .error e ↔ FirstFailure env e) ∧
    ∀ (c : Call) (t : FileTree) (r : InitRequest), c.environment = env →
      c.request? t = some (.init r) → (∀ p, ¬ IsDeclared env p) →
      (c.run t).exit = 1 ∧ (c.run t).tree = t := by
  refine ⟨fun p => ofEnvironment_eq_ok, fun e => ofEnvironment_eq_error, ?_⟩
  rintro c t r rfl hr hnone
  rcases declared_or_failure c.environment with ⟨p, hp⟩ | ⟨e, he⟩
  · exact absurd hp (hnone p)
  · exact run_of_invalid hr (ofEnvironment_of_failure he)

/-- Settings that fail two checks, and whose timeout is written in another script. -/
def dockerSettings : Environment :=
  [(Settings.isolationVariable, "docker"), (Settings.timeoutVariable, " -\u0665_\u0660\u00a0")]

/-- The call that initializes a project under them. -/
def dockerCall : Call where
  args := ["init", "demo"]
  environment := dockerSettings

/-- The isolation is checked before the timeout is, and no project directory is made. -/
theorem settings_verdict_docker :
    FirstFailure dockerSettings (.isolation "'docker'") ∧
      dockerCall.request? (.empty "") = some (.init { project := "demo" }) ∧
      (dockerCall.run (.empty "")).exit = 1 ∧ (dockerCall.run (.empty "")).tree = .empty "" := by
  have htimeout : GivesTimeout dockerSettings (-50) :=
    .set rfl (Decimal.readInteger_eq_ok.1 (by decide +kernel))
  have hfailure : FirstFailure dockerSettings (.isolation "'docker'") := by
    have hquoted : (Json.Value.string "docker").quoted = "'docker'" := by decide +kernel
    rw [← hquoted]
    exact .isolation htimeout (.unset rfl) rfl fun i => by cases i <;> decide
  have hr : dockerCall.request? (.empty "") = some (.init { project := "demo" }) := by
    decide +kernel
  obtain ⟨hok, herror, hcall⟩ := settings_verdict dockerSettings
  have hnone : ∀ p, ¬ IsDeclared dockerSettings p := by
    intro p hp
    have hread := (hok p).2 hp
    rw [(herror _).2 hfailure] at hread
    cases hread
  exact ⟨hfailure, hr, hcall dockerCall _ _ rfl hr hnone⟩

end CommandLine

end Fingerprint
