/-
What the fallbacks find. Each offers entrypoints (`fallbackOffers`), and the
first of these that is not empty is taken, unless one is known already. A path
too long to be asked for is the only thing that stops them: otherwise they come
to what they offer (`fallBack_comesTo`).
-/
import Fingerprint.Detection.Fallback

namespace Fingerprint

namespace Detection

/-- An entrypoint, and whether it is a guess. -/
abbrev Offer := String × Bool

/-- The text of a file that is there and can be read. -/
def readable? (s : Snapshot) (p : Path) : Option String :=
  if s.tree.isFile p then (s.readLossy p).toOption else none

/-- The entrypoint of the process file, if that can be read. -/
def processOffers (s : Snapshot) (root : Path) : List Offer :=
  (readable? s (root / processFile)).toList.map fun text => (processEntry text, false)

/-- The entrypoints of configuration files, of those that can be read. -/
def configOffers (s : Snapshot) (root : Path) (names : List String) : List Offer :=
  (names.filterMap fun name => readable? s (root / name)).map fun text => (configEntry text, true)

/-- The conventional places at which files stand. -/
def conventionOffers (tree : FileTree) (root : Path) : List Offer :=
  (conventionalEntries.filter fun c => tree.isFile (root / c)).map fun c => (c, true)

/-- The entrypoints that the fallbacks offer, in the order in which they are tried. -/
def fallbackOffers (s : Snapshot) (root : Path) : List Offer :=
  processOffers s root ++ configOffers s root configFiles ++ conventionOffers s.tree root

/-- Takes the first of several entrypoints that is not empty, if none is known. -/
def takeOffers (offers : List Offer) (r : Resolution) : Resolution :=
  offers.foldl (fun r o => r.withEntrypoint o.1 o.2) r

end Detection

namespace Resolution

theorem withEntrypoint_of_known {r : Resolution} (h : r.entrypoint.isEmpty = false) (e : String)
    (g : Bool) : r.withEntrypoint e g = r := by
  rw [withEntrypoint, h, Bool.false_and]
  rfl

theorem entrypoint_withEntrypoint (r : Resolution) {e : String} (h : e.isEmpty = false) (g : Bool) :
    (r.withEntrypoint e g).entrypoint.isEmpty = false := by
  unfold withEntrypoint
  cases hr : r.entrypoint.isEmpty <;> simp [h, hr]

end Resolution

namespace Detection

theorem takeOffers_cons (o : Offer) (offers : List Offer) (r : Resolution) :
    takeOffers (o :: offers) r = takeOffers offers (r.withEntrypoint o.1 o.2) := rfl

theorem takeOffers_of_known {r : Resolution} (h : r.entrypoint.isEmpty = false)
    (offers : List Offer) : takeOffers offers r = r := by
  induction offers with
  | nil => rfl
  | cons o offers ih => rw [takeOffers_cons, Resolution.withEntrypoint_of_known h, ih]

theorem takeOffers_append (os ps : List Offer) (r : Resolution) :
    takeOffers (os ++ ps) r = takeOffers ps (takeOffers os r) := List.foldl_append

/-- The questions about files below a directory, each with whether it can be asked. -/
def questions (t : FileTree) (root : Path) (names : List String) : List (Except FileError Unit) :=
  names.map fun name => t.requireShort (root / name)

/-- Whether a result is come to, unless one of several questions that cannot be asked is in the
way. -/
def ComesTo {α : Type} (asked : List (Except FileError Unit)) (x : Except FileError α) (a : α) :
    Prop :=
  x = .ok a ∨ ∃ e, x = .error e ∧ .error e ∈ asked

namespace ComesTo

variable {α β : Type} {asked asked' : List (Except FileError Unit)} {x : Except FileError α} {a : α}

theorem mono (h : ComesTo asked x a) (hsub : ∀ q ∈ asked, q ∈ asked') : ComesTo asked' x a :=
  h.imp id fun ⟨e, he, hmem⟩ => ⟨e, he, hsub _ hmem⟩

theorem bind {f : α → Except FileError β} {b : β} (h : ComesTo asked x a)
    (hf : ComesTo asked' (f a) b) : ComesTo (asked ++ asked') (x.bind f) b := by
  rcases h with rfl | ⟨e, rfl, hmem⟩
  · exact hf.mono fun q hq => List.mem_append_right _ hq
  · exact .inr ⟨e, rfl, List.mem_append_left _ hmem⟩

theorem map (h : ComesTo asked x a) (f : α → β) : ComesTo asked (x.map f) (f a) := by
  rcases h with rfl | ⟨e, rfl, hmem⟩
  · exact .inl rfl
  · exact .inr ⟨e, rfl, hmem⟩

theorem ask (q : Except FileError Unit) : ComesTo [q] q () := by
  cases q with
  | error e => exact .inr ⟨e, rfl, List.mem_singleton_self _⟩
  | ok u => exact .inl rfl

theorem eq_ok (h : ComesTo asked x a) (hasked : ∀ q ∈ asked, q = .ok ()) : x = .ok a := by
  rcases h with h | ⟨e, -, hmem⟩
  · exact h
  · cases hasked _ hmem

end ComesTo

variable {s : Snapshot} {root : Path}

theorem outcome_readIfFile (s : Snapshot) (p : Path) :
    (readIfFile s p).outcome = (s.tree.requireShort p).map fun _ => readable? s p := by
  rw [readIfFile, FileTree.checkFile, readable?, Traced.outcome_bind, Traced.outcome_ofExcept]
  cases s.tree.requireShort p with
  | error e => rfl
  | ok u =>
    simp only [bind, Except.bind, pure, Except.pure]
    split
    next => cases s.readLossy p <;> rfl
    next => rfl

theorem outcome_readIfFile_of_short {p : Path} (h : s.tree.requireShort p = .ok ()) :
    (readIfFile s p).outcome = .ok (readable? s p) := by
  rw [outcome_readIfFile, h]
  rfl

theorem tryProcessFile_comesTo (s : Snapshot) (root : Path) (r : Resolution) :
    ComesTo (questions s.tree root [processFile]) (tryProcessFile s root r).outcome
      (takeOffers (processOffers s root) r) := by
  have hread : (tryProcessFile s root r).outcome = (s.tree.requireShort (root / processFile)).map
      fun _ => takeOffers (processOffers s root) r := by
    rw [tryProcessFile, Traced.outcome_bind, outcome_readIfFile, processOffers]
    cases s.tree.requireShort (root / processFile) with
    | error e => rfl
    | ok u => cases readable? s (root / processFile) <;> rfl
  rw [hread]
  exact (ComesTo.ask _).map _

theorem configOffers_cons (s : Snapshot) (root : Path) (name : String) (names : List String) :
    configOffers s root (name :: names) = configOffers s root [name] ++ configOffers s root names := by
  simp only [configOffers, ← List.map_append, ← List.filterMap_append, List.singleton_append]

/-- While no entrypoint is known, the next configuration file is looked at. -/
theorem outcome_tryConfigFiles_cons (s : Snapshot) (root : Path) (name : String)
    (names : List String) (r : Resolution) :
    (tryConfigFiles s root (name :: names) r).outcome =
      if r.entrypoint.isEmpty then (s.tree.requireShort (root / name)).bind fun _ =>
        (tryConfigFiles s root names (takeOffers (configOffers s root [name]) r)).outcome
      else .ok r := by
  rw [tryConfigFiles]
  cases r.entrypoint.isEmpty with
  | false => rfl
  | true =>
    simp only [Bool.not_true, Bool.false_eq_true, if_false, if_true, Traced.outcome_bind,
      outcome_readIfFile]
    cases s.tree.requireShort (root / name) with
    | error e => rfl
    | ok u => cases hr : readable? s (root / name) <;> simp [configOffers, hr] <;> rfl

/-- The search for a configuration file stops early where nothing after it would be taken. -/
theorem tryConfigFiles_comesTo (s : Snapshot) (root : Path) (names : List String)
    (r : Resolution) : ComesTo (questions s.tree root names) (tryConfigFiles s root names r).outcome
      (takeOffers (configOffers s root names) r) := by
  induction names generalizing r with
  | nil => exact .inl rfl
  | cons name names ih =>
    rw [outcome_tryConfigFiles_cons, configOffers_cons s root name names, takeOffers_append]
    split
    next => exact (ComesTo.ask (s.tree.requireShort (root / name))).bind (ih _)
    next hknown =>
      have hstay : r.entrypoint.isEmpty = false := by simpa using hknown
      rw [takeOffers_of_known hstay, takeOffers_of_known hstay]
      exact .inl rfl

theorem firstFile?_comesTo (t : FileTree) (root : Path) (cs : List String) :
    ComesTo (questions t root cs) (firstFile? t root cs)
      (cs.filter fun c => t.isFile (root / c)).head? := by
  induction cs with
  | nil => exact .inl rfl
  | cons c cs ih =>
    have hstep : firstFile? t root (c :: cs) = (t.requireShort (root / c)).bind fun _ =>
        if t.isFile (root / c) then .ok (some c) else firstFile? t root cs := by
      rw [firstFile?, FileTree.checkFile]
      cases t.requireShort (root / c) with
      | error e => rfl
      | ok u => cases h : t.isFile (root / c) <;> rfl
    rw [hstep, List.filter_cons]
    refine (ComesTo.ask (t.requireShort (root / c))).bind ?_
    split
    next => exact .inl rfl
    next => exact ih

theorem tryConventions_comesTo (t : FileTree) (root : Path) (r : Resolution) :
    ComesTo (questions t root conventionalEntries) (tryConventions t root r)
      (takeOffers (conventionOffers t root) r) := by
  cases hknown : r.entrypoint.isEmpty with
  | false =>
    have hstop : tryConventions t root r = .ok r := by
      rw [tryConventions, hknown]
      rfl
    rw [hstop, takeOffers_of_known hknown]
    exact .inl rfl
  | true =>
    have hgo : tryConventions t root r = (firstFile? t root conventionalEntries).map fun c? =>
        takeOffers (c?.toList.map fun c => (c, true)) r := by
      rw [tryConventions, hknown]
      cases firstFile? t root conventionalEntries with
      | error e => rfl
      | ok c? => cases c? <;> rfl
    -- Once the first file is taken, no other is.
    have hfirst : takeOffers (conventionOffers t root) r = takeOffers
        ((conventionalEntries.filter fun c => t.isFile (root / c)).head?.toList.map
          fun c => (c, true)) r := by
      have hnamed : ∀ c ∈ conventionalEntries, c.isEmpty = false := by decide
      rw [conventionOffers]
      cases hfiles : conventionalEntries.filter fun c => t.isFile (root / c) with
      | nil => rfl
      | cons c cs =>
        have hc : c.isEmpty = false :=
          hnamed c (List.mem_filter.1 (hfiles ▸ List.mem_cons_self : c ∈ _)).1
        exact takeOffers_of_known (Resolution.entrypoint_withEntrypoint r hc true) _
    rw [hgo, hfirst]
    exact (firstFile?_comesTo t root conventionalEntries).map _

/-- The files that the fallbacks look at. -/
def fallbackFiles : List String := processFile :: (configFiles ++ conventionalEntries)

theorem forall_mem_fallbackFiles {P : String → Prop} : (∀ q ∈ fallbackFiles, P q) ↔
    P processFile ∧ (∀ name ∈ configFiles, P name) ∧ ∀ c ∈ conventionalEntries, P c := by
  rw [fallbackFiles, List.forall_mem_cons, List.forall_mem_append]

/-- **The fallbacks come to taking the first entrypoint that they offer.** -/
theorem fallBack_comesTo (s : Snapshot) (root : Path) (r : Resolution) :
    ComesTo (questions s.tree root fallbackFiles) (fallBack s root r).outcome
      (takeOffers (fallbackOffers s root) r) := by
  have hasked : questions s.tree root fallbackFiles = questions s.tree root [processFile] ++
      (questions s.tree root configFiles ++ questions s.tree root conventionalEntries) := rfl
  have hrun : (fallBack s root r).outcome = (tryProcessFile s root r).outcome.bind fun r =>
      (tryConfigFiles s root configFiles r).outcome.bind fun r => tryConventions s.tree root r := by
    simp only [fallBack, Traced.outcome_bind, Traced.outcome_ofExcept]
  rw [hasked, hrun, fallbackOffers, takeOffers_append, takeOffers_append]
  exact (tryProcessFile_comesTo s root r).bind
    ((tryConfigFiles_comesTo s root configFiles _).bind (tryConventions_comesTo s.tree root _))

/-- Where all their files can be asked for, the fallbacks come to an end. -/
theorem outcome_fallBack (h : ∀ q ∈ fallbackFiles, s.tree.requireShort (root / q) = .ok ())
    (r : Resolution) : (fallBack s root r).outcome = .ok (takeOffers (fallbackOffers s root) r) :=
  (fallBack_comesTo s root r).eq_ok (List.forall_mem_map.2 h)

end Detection

end Fingerprint
