/-
What a value that has been read is like: no object in it has a member twice
(`distinct_of_read`). A name that the text repeats is one member, and its
value is the last one of the text (`member?_objectOf`).
-/
import Fingerprint.Json.Reader
import Fingerprint.Proofs.Entries

namespace Fingerprint.Json

open Entries

/-- Whether no object within a value has a member twice. -/
inductive Distinct : Value → Prop where
  | null : Distinct .null
  | bool (b : Bool) : Distinct (.bool b)
  | int (n : Int) : Distinct (.int n)
  | float (x : Float) : Distinct (.float x)
  | string (s : String) : Distinct (.string s)
  | array {items : List Value} (h : ∀ v ∈ items, Distinct v) : Distinct (.array items)
  | object {ms : List (String × Value)} (hn : (keys ms).Nodup) (h : ∀ m ∈ ms, Distinct m.2) :
    Distinct (.object ms)

variable {α β : Type} {P : α → Prop} {Q : β → Prop} {element : List Char → Step Value}
  {ms : List (String × Value)} {s : List Char}

theorem Distinct.nodup (h : Distinct (.object ms)) : (keys ms).Nodup := by
  cases h with
  | object hn h => exact hn

theorem Distinct.of_mem (h : Distinct (.object ms)) {m : String × Value} (hm : m ∈ ms) :
    Distinct m.2 := by
  cases h with
  | object hn h => exact h m hm

theorem Distinct.get?_eq_some_iff (h : Distinct (.object ms)) {name : String} {v : Value} :
    get? name ms = some v ↔ (name, v) ∈ ms :=
  Entries.get?_eq_some_iff h.nodup

theorem objectOf_eq (ms : List (String × Value)) :
    objectOf ms = .object (Table.ofList ms).entries := by
  rw [objectOf, Table.ofList, Table.entries_putAll]
  rfl

theorem distinct_objectOf (h : ∀ m ∈ ms, Distinct m.2) : Distinct (objectOf ms) := by
  rw [objectOf_eq]
  exact .object (Table.ofList ms).nodup fun m hm => h m (Table.mem_of_mem_ofList hm)

/-- Whether all that a reader can give has a property. -/
def Gives (P : α → Prop) (x : Step α) : Prop := ∀ r, x = .ok r → P r.1

namespace Gives

theorem anything (x : Step α) : Gives (fun _ => True) x := fun _ _ => trivial

theorem map {x : Step α} {f : α → β} (h : Gives P x) (hf : ∀ a, P a → Q (f a)) :
    Gives Q (x.map fun r => (f r.1, r.2)) := by
  intro r hr
  cases x with
  | error fault => cases hr
  | ok a =>
    cases hr
    exact hf a.1 (h a rfl)

theorem bind {x : Except Fault (α × List Char)} {f : α × List Char → Except Fault (β × List Char)}
    (h : Gives P x) (hf : ∀ r, P r.1 → Gives Q (f r)) :
    Gives Q (x >>= f : Except Fault (β × List Char)) := by
  intro r hr
  cases x with
  | error fault => cases hr
  | ok a => exact hf a (h a rfl) r hr

end Gives

theorem distinct_of_literal? {r : Value × List Char} (h : literal? s = some r) : Distinct r.1 := by
  have hwords : ∀ l ∈ literals, Distinct l.2 := by
    simp only [literals, List.forall_mem_cons]
    exact ⟨.null, .bool _, .bool _, .float _, .float _, .float _, nofun⟩
  obtain ⟨l, hl, hr⟩ := List.exists_of_findSome?_eq_some h
  split at hr
  next =>
    cases hr
    exact hwords l hl
  next => cases hr

theorem distinct_of_value {n : Numeral} {v : Value} (h : n.value = .ok v) : Distinct v := by
  unfold Numeral.value at h
  split at h
  next =>
    split at h
    next => cases h
    next =>
      cases h
      exact .int _
  next =>
    cases h
    exact .float _

theorem gives_elements (helement : ∀ s, Gives Distinct (element s)) (fuel : Nat) (s : List Char) :
    Gives (fun vs => ∀ v ∈ vs, Distinct v) (elements element fuel s) := by
  induction fuel generalizing s with
  | zero => exact nofun
  | succ fuel ih =>
    refine (helement s).bind fun r hr => ?_
    simp only
    split
    next =>
      rintro _ ⟨⟩
      exact List.forall_mem_singleton.2 hr
    next =>
      refine (ih _).bind fun vs hvs => ?_
      rintro _ ⟨⟩
      exact List.forall_mem_cons.2 ⟨hr, hvs⟩
    next => exact nofun

theorem gives_members (helement : ∀ s, Gives Distinct (element s)) (fuel : Nat) (s : List Char) :
    Gives (fun ms => ∀ m ∈ ms, Distinct m.2) (members element fuel s) := by
  induction fuel generalizing s with
  | zero => exact nofun
  | succ fuel ih =>
    unfold members
    split
    next rest =>
      refine (Gives.anything (readString rest)).bind fun name _ => ?_
      simp only
      split
      next =>
        refine (helement _).bind fun r hr => ?_
        split
        next =>
          rintro _ ⟨⟩
          exact List.forall_mem_singleton.2 hr
        next =>
          refine (ih _).bind fun ms hms => ?_
          rintro _ ⟨⟩
          exact List.forall_mem_cons.2 ⟨hr, hms⟩
        next => exact nofun
      next => exact nofun
    next => exact nofun

/-- **No object that is read has a member twice**, however deep it is. -/
theorem gives_readValue (depth : Nat) (s : List Char) : Gives Distinct (readValue depth s) := by
  induction depth generalizing s with
  | zero => exact nofun
  | succ depth ih =>
    unfold readValue
    split
    next rest => exact (Gives.anything (readString rest)).map fun s _ => .string s
    next =>
      split
      next =>
        rintro _ ⟨⟩
        exact .array nofun
      next => exact (gives_elements ih _ _).map fun vs hvs => .array hvs
    next =>
      split
      next =>
        rintro _ ⟨⟩
        exact .object List.nodup_nil nofun
      next => exact (gives_members ih _ _).map fun ms hms => distinct_objectOf hms
    next =>
      split
      next r hr =>
        rintro _ ⟨⟩
        exact distinct_of_literal? hr
      next =>
        split
        next n rest hn =>
          intro r hr
          cases hv : n.value with
          | error fault =>
            rw [hv] at hr
            cases hr
          | ok v =>
            rw [hv] at hr
            cases hr
            exact distinct_of_value hv
        next => exact nofun

theorem distinct_of_readText {v : Value} (h : readText s = .ok v) : Distinct v := by
  unfold readText at h
  split at h
  next => cases h
  next =>
    cases hread : readValue (s.length + 1) (skipSpace s) with
    | error fault =>
      rw [hread] at h
      cases h
    | ok r =>
      rw [hread] at h
      simp only [bind, Except.bind] at h
      split at h
      next =>
        cases h
        exact gives_readValue _ _ r hread
      next => cases h

/-- **No object of a document has a member twice.** -/
theorem distinct_of_read {text : String} {v : Value} (h : read text = .ok v) : Distinct v := by
  unfold read at h
  cases hread : readText text.toList with
  | error fault =>
    rw [hread] at h
    cases h
  | ok w =>
    rw [hread] at h
    cases h
    exact distinct_of_readText hread

end Fingerprint.Json
