/-
What the logger does over time. Set-ups and events follow each other; a set-up
that is refused leaves its format behind but not a level. Whatever has happened
since a first set-up went through, the logger has one handler, with the format
of the last set-up, and the level of the last one that went through
(`after_eq`), so an event of the program's loggers is written once or not at all
(`after_written`).

The loggers meant are that of the program and those whose name goes on with
one dot. With two dots a name may lie outside (`after_twoDots`).
-/
import Mathlib.Data.List.Induction
import Fingerprint.Log.Logger

namespace Fingerprint.Log

/-- What befalls the logger: a set-up, with a level or without, or an event. -/
inductive Step where
  | setUp (level : Option String) (env : Environment)
  | event (r : Record)

namespace Step

/-- The format that a set-up chooses, refused or not. -/
def format? : Step → Option Format
  | setUp _ env => some (Format.ofName (Settings.logFormat env))
  | event _ => none

/-- The level that a set-up gives, if it goes through. -/
def level? : Step → Option Nat
  | setUp level env => levels.lookup (Logger.requestedLevel level env)
  | event _ => none

end Step

/-- The format of the last set-up. -/
def lastFormat? (past : List Step) : Option Format := (past.filterMap Step.format?).getLast?

/-- The level of the last set-up that went through. -/
def lastLevel? (past : List Step) : Option Nat := (past.filterMap Step.level?).getLast?

namespace Logger

/-- What a step makes of the logger, and what it writes. -/
def step (l : Logger) : Step → Logger × String
  | .setUp level env => ((l.setUp level env).1, "")
  | .event r => (l, l.write r)

end Logger

/-- The logger after a history. -/
def after (past : List Step) : Logger := past.foldl (fun l s => (l.step s).1) {}

variable {l : Logger} {s : Step} {past : List Step} {n : Nat}

/-- **What a step does to the logger.** The format of a set-up replaces the handlers whatever comes
of it; its level counts only if the name is known, and with it events stop going on. -/
theorem step_eq (l : Logger) (s : Step) : (l.step s).1 =
    ⟨(s.format?.map fun f => [f]).getD l.handlers, s.level?.getD l.level,
      l.propagates && s.level?.isNone⟩ := by
  cases s with
  | setUp level env =>
    simp only [Logger.step, Logger.setUp, Step.format?, Step.level?, Option.map_some, Option.getD_some]
    cases levels.lookup (Logger.requestedLevel level env) <;> simp
  | event r => simp [Logger.step, Step.format?, Step.level?]

theorem after_snoc : after (past ++ [s]) = ((after past).step s).1 := by
  simp only [after, List.foldl_append, List.foldl_cons, List.foldl_nil]

theorem lastFormat?_snoc : lastFormat? (past ++ [s]) = s.format?.or (lastFormat? past) := by
  cases hs : s.format? <;> simp [lastFormat?, hs]

theorem lastLevel?_snoc : lastLevel? (past ++ [s]) = s.level?.or (lastLevel? past) := by
  cases hs : s.level? <;> simp [lastLevel?, hs]

/-- **The logger after a history**: what the last set-up chose, the level of the last that went
through, and whether one did. -/
theorem after_eq (past : List Step) :
    after past = ⟨(lastFormat? past).toList, (lastLevel? past).getD 0, (lastLevel? past).isNone⟩ := by
  induction past using List.reverseRecOn with
  | nil => rfl
  | append_singleton past s ih =>
    rw [after_snoc, step_eq, ih, lastFormat?_snoc, lastLevel?_snoc]
    cases s.format? <;> cases s.level? <;> simp

theorem exists_lastFormat? (h : lastLevel? past = some n) : ∃ f, lastFormat? past = some f := by
  induction past using List.reverseRecOn with
  | nil => cases h
  | append_singleton past s ih =>
    rw [lastLevel?_snoc] at h
    rw [lastFormat?_snoc]
    cases s with
    | setUp level env => exact ⟨_, rfl⟩
    | event r => exact ih h

/-- Whether a logger is that of the program or lies below it: its name goes on with one dot. -/
def InTree (logger : String) : Prop :=
  logger = Logger.name ∨
    ∃ rest : List Char, logger.toList = Logger.name.toList ++ '.' :: rest ∧ rest.head? ≠ some '.'

theorem receives_of_inTree {logger : String} (h : InTree logger) : Logger.receives logger = true := by
  rcases h with rfl | ⟨rest, hname, hdot⟩
  · decide
  · have hdots : rest.takeWhile (fun c => decide (c = '.')) = [] := by
      cases rest with
      | nil => rfl
      | cons c rest =>
        have hc : c ≠ '.' := fun hc => hdot (by rw [hc]; rfl)
        simp [hc]
    have hdrop : logger.toList.drop Logger.name.length = '.' :: rest := by
      rw [hname, ← String.length_toList, List.drop_left]
    have hstarts : Logger.name.toList.isPrefixOf logger.toList = true := by
      rw [hname, List.isPrefixOf_iff_prefix]
      exact List.prefix_append _ _
    simp [Logger.receives, hdrop, hstarts, hdots]

theorem line_ne_empty (r : Record) (f : Format) : r.line f ≠ "" := by
  intro h
  have hnil := congrArg String.toList h
  cases f <;> simp [Record.line] at hnil

/-- **No line is lost or written twice.** Once a set-up has gone through, the logger has one handler,
keeps its events to itself, and has the level of the last set-up that went through. What an event of
the program's loggers writes is its line, in the format of the last set-up, refused or not, if it is
at least as serious as that level, or as a warning where the level is zero; else it writes nothing. -/
theorem after_written (h : lastLevel? past = some n) :
    ∃ f, lastFormat? past = some f ∧ after past = ⟨[f], n, false⟩ ∧
      ∀ r : Record, InTree r.logger → ((after past).step (.event r)).2 =
        if (if n = 0 then Severity.warning.number else n) ≤ r.severity.number then r.line f
        else "" := by
  obtain ⟨f, hf⟩ := exists_lastFormat? h
  have hafter : after past = ⟨[f], n, false⟩ := by rw [after_eq, hf, h]; rfl
  refine ⟨f, hf, hafter, fun r hr => ?_⟩
  have hline : String.join [r.line f] = r.line f := by simp [String.join]
  rw [hafter, Logger.step, Logger.write, if_pos (receives_of_inTree hr)]
  simp only [Logger.threshold, List.map_cons, List.map_nil, hline]

/-- A set-up that goes through, and one that is refused. -/
def refusal : List Step :=
  [.setUp (some "notset") [], .setUp (some "loud") [("PHANTOMKIT_LOG_FORMAT", "json")]]

/-- A refused set-up leaves its format behind, and the level stays: at level zero, what is less than
a warning is not written. -/
theorem after_written_refusal :
    after refusal = ⟨[.json], 0, false⟩ ∧
      ∀ r : Record, r.logger = "phantomkit.engines" →
        ((after refusal).step (.event r)).2 = if 30 ≤ r.severity.number then r.line .json else "" := by
  have hlevel : lastLevel? refusal = some 0 := by decide +kernel
  have hbelow : InTree "phantomkit.engines" := .inr ⟨"engines".toList, by decide, by decide⟩
  obtain ⟨f, hf, hafter, hwritten⟩ := after_written hlevel
  have hjson : lastFormat? refusal = some .json := by decide +kernel
  cases hf.symm.trans hjson
  exact ⟨hafter, fun r hr => hwritten r (hr ▸ hbelow)⟩

/-- With a second dot a logger may lie outside, so its events are not written as those of the
program's loggers are. -/
theorem after_twoDots :
    ¬ ∀ (past : List Step) (n : Nat) (f : Format) (r : Record),
      lastLevel? past = some n → lastFormat? past = some f →
      (r.logger = "phantomkit" ∨ ∃ rest, r.logger = "phantomkit." ++ rest) →
      (if n = 0 then Severity.warning.number else n) ≤ r.severity.number →
      ((after past).step (.event r)).2 = r.line f := by
  intro h
  have hline := h [.setUp (some "INFO") []] 20 .console ⟨fun _ => "", "phantomkit..x", .info, "e", []⟩
    (by decide +kernel) (by decide +kernel) (.inr ⟨".x", rfl⟩) (by decide)
  have hnone : ((after [.setUp (some "INFO") []]).step
      (.event ⟨fun _ => "", "phantomkit..x", .info, "e", []⟩)).2 = "" := by decide +kernel
  exact line_ne_empty _ _ (hline.symm.trans hnone)

end Fingerprint.Log
