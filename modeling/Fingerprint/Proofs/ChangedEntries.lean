/-
Tables made from pairs some of which have changed. A pair that comes after the
change hides it under its own key, so the tables answer alike iff they do under
the other keys (`same_changed_iff`). A pair that has left, has taken another
value or another key are cases of this.
-/
import Fingerprint.Proofs.Detection.Listing

namespace Fingerprint

variable {κ : Type u} {ν : Type v} [DecidableEq κ]

namespace Entries

theorem last?_append (k : κ) (xs ys : List (κ × ν)) :
    last? k (xs ++ ys) = (last? k ys).or (last? k xs) := by
  rw [last?, List.reverse_append, get?_append, last?, last?]

theorem last?_eq_none_iff {k : κ} {es : List (κ × ν)} : last? k es = none ↔ k ∉ keys es := by
  rw [last?, get?_eq_none_iff, keys, List.map_reverse, List.mem_reverse, keys]

theorem last?_singleton_self (k : κ) (v : ν) : last? k [(k, v)] = some v := if_pos rfl

theorem last?_singleton_other {k k' : κ} (h : k' ≠ k) (v : ν) : last? k [(k', v)] = none := if_neg h

end Entries

namespace Table

variable {before old after : List (κ × ν)} {k k' : κ} {v w : ν}

theorem same_ofList_iff {xs ys : List (κ × ν)} :
    Same (ofList xs) (ofList ys) ↔ ∀ k, Entries.last? k xs = Entries.last? k ys := by
  simp only [Same, get?_ofList]

/-- **A change among pairs shows under a key unless a later pair has it.** -/
theorem same_changed_iff (before old new after : List (κ × ν)) :
    Same (ofList (before ++ (new ++ after))) (ofList (before ++ (old ++ after))) ↔
      ∀ k, k ∉ Entries.keys after → (Entries.last? k new).or (Entries.last? k before) =
        (Entries.last? k old).or (Entries.last? k before) := by
  rw [same_ofList_iff]
  refine forall_congr' fun k => ?_
  simp only [Entries.last?_append]
  cases h : Entries.last? k after with
  | none => simp [Entries.last?_eq_none_iff.1 h]
  | some v =>
    have hmem : k ∈ Entries.keys after := by
      by_contra hnot
      rw [Entries.last?_eq_none_iff.2 hnot] at h
      cases h
    simp [hmem]

theorem same_without_iff :
    Same (ofList (before ++ after)) (ofList (before ++ (old ++ after))) ↔
      ∀ k ∈ Entries.keys old, k ∈ Entries.keys after ∨
        Entries.last? k before = Entries.last? k old := by
  have hchanged := same_changed_iff before old [] after
  rw [List.nil_append] at hchanged
  rw [hchanged]
  refine forall_congr' fun k => ?_
  have hnone : Entries.last? k ([] : List (κ × ν)) = none := rfl
  rw [hnone, Option.none_or, ← or_iff_not_imp_left]
  cases h : Entries.last? k old with
  | none => simp [Entries.last?_eq_none_iff.1 h]
  | some v =>
    have hmem : k ∈ Entries.keys old := by
      by_contra hnot
      rw [Entries.last?_eq_none_iff.2 hnot] at h
      cases h
    simp [hmem]

/-- A new value shows unless a later pair has its key. -/
theorem same_value_iff :
    Same (ofList (before ++ (k, v) :: after)) (ofList (before ++ (k, w) :: after)) ↔
      k ∈ Entries.keys after ∨ v = w := by
  have hchanged := same_changed_iff before [(k, w)] [(k, v)] after
  rw [List.singleton_append, List.singleton_append] at hchanged
  rw [hchanged, or_iff_not_imp_left]
  constructor
  · intro h hk
    simpa [Entries.last?_singleton_self] using h k hk
  · intro h k' hk'
    by_cases hkk : k = k'
    · subst hkk
      rw [h hk']
    · rw [Entries.last?_singleton_other hkk, Entries.last?_singleton_other hkk]

/-- A new key shows unless both keys are settled elsewhere: by a later pair, or by an earlier one
with the same value. -/
theorem same_key_iff (hne : k ≠ k') :
    Same (ofList (before ++ (k, v) :: after)) (ofList (before ++ (k', w) :: after)) ↔
      (k ∈ Entries.keys after ∨ Entries.last? k before = some v) ∧
        (k' ∈ Entries.keys after ∨ Entries.last? k' before = some w) := by
  have hchanged := same_changed_iff before [(k', w)] [(k, v)] after
  rw [List.singleton_append, List.singleton_append] at hchanged
  rw [hchanged, or_iff_not_imp_left, or_iff_not_imp_left]
  constructor
  · intro h
    refine ⟨fun hk => ?_, fun hk' => ?_⟩
    · have hfound := h k hk
      rw [Entries.last?_singleton_self, Entries.last?_singleton_other hne.symm] at hfound
      exact hfound.symm
    · have hfound := h k' hk'
      rw [Entries.last?_singleton_self, Entries.last?_singleton_other hne] at hfound
      exact hfound
  · rintro ⟨hv, hw⟩ x hx
    by_cases hk : k = x
    · subst hk
      rw [Entries.last?_singleton_self, Entries.last?_singleton_other hne.symm, hv hx]
      rfl
    · by_cases hk' : k' = x
      · subst hk'
        rw [Entries.last?_singleton_self, Entries.last?_singleton_other hk, hw hx]
        rfl
      · rw [Entries.last?_singleton_other hk, Entries.last?_singleton_other hk']

end Table

end Fingerprint
