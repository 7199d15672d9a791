/-
The listing of the packages of a fingerprint. Whatever the order in which
ecosystems and packages came, the listing has the ecosystems in order of
precedence and the packages of each in strictly ascending order of their names
(`lists_listing`). There is one listing only for what is held under the keys
(`Lists.unique`), so the order of arrival cannot show in it
(`listing_of_same`).
-/
import Fingerprint.Detection.Result
import Fingerprint.Proofs.Entries

namespace Fingerprint

namespace Table

variable {κ : Type u} {ν : Type v}

/-- Whether two tables hold the same under every key, whatever the order in which it came. -/
def Same [DecidableEq κ] (t u : Table κ ν) : Prop := ∀ k, t.get? k = u.get? k

/-- Only the keys of either table have to be looked up. -/
theorem same_iff [DecidableEq κ] {t u : Table κ ν} :
    Same t u ↔ ∀ k ∈ t.keys ++ u.keys, t.get? k = u.get? k := by
  refine ⟨fun h k _ => h k, fun h k => ?_⟩
  by_cases hk : k ∈ t.keys ++ u.keys
  · exact h k hk
  · rw [List.mem_append, not_or] at hk
    rw [get?, get?, Entries.get?_eq_none_iff.2 hk.1, Entries.get?_eq_none_iff.2 hk.2]

instance [DecidableEq κ] [DecidableEq ν] (t u : Table κ ν) : Decidable (Same t u) :=
  decidable_of_iff _ same_iff.symm

/-- Whether pairs stand in strictly ascending order of their names, by code point. -/
def Ascending (es : List (String × ν)) : Prop := es.Pairwise fun a b => a.1 < b.1

theorem Ascending.nodup {es : List (String × ν)} (h : Ascending es) : es.Nodup := by
  refine List.Pairwise.imp (fun {a b} hab he => ?_) h
  rw [he] at hab
  exact String.lt_irrefl _ hab

/-- Pairs in ascending order are known by their members. -/
theorem Ascending.ext {es fs : List (String × ν)} (h : Ascending es) (h' : Ascending fs)
    (hmem : ∀ p, p ∈ es ↔ p ∈ fs) : es = fs := by
  have hperm : es.Perm fs := (List.perm_ext_iff_of_nodup h.nodup h'.nodup).2 hmem
  exact hperm.eq_of_pairwise
    (fun a b _ _ hab hba => absurd (String.lt_trans hab hba) (String.lt_irrefl _)) h h'

theorem ascending_sorted (t : Table String ν) : Ascending t.sorted := by
  have hweak : t.sorted.Pairwise fun a b => decide (a.1 ≤ b.1) = true :=
    List.pairwise_mergeSort (fun a b c hab hbc => by
      simp only [decide_eq_true_eq] at hab hbc ⊢
      exact String.le_trans hab hbc)
      (fun a b => by simpa using String.le_total a.1 b.1) t.entries
  have hdistinct : t.sorted.Pairwise fun a b => a.1 ≠ b.1 := List.pairwise_map.1 t.nodup_keys_sorted
  refine (hweak.and hdistinct).imp fun {a b} hab => String.not_le.1 fun hba => ?_
  exact hab.2 (String.le_antisymm (of_decide_eq_true hab.1) hba)

theorem mem_sorted {t : Table String ν} {name : String} {v : ν} :
    (name, v) ∈ t.sorted ↔ t.get? name = some v := by
  rw [t.sorted_perm.mem_iff, get?, Entries.get?_eq_some_iff t.nodup]

/-- **The order of arrival is sorted away.** -/
theorem sorted_of_same {t u : Table String ν} (h : Same t u) : t.sorted = u.sorted := by
  refine t.ascending_sorted.ext u.ascending_sorted fun p => ?_
  rw [mem_sorted, mem_sorted, h p.1]

theorem isEmpty_of_same {t u : Table String ν} (h : Same t u) : t.isEmpty = u.isEmpty := by
  rw [← isEmpty_sorted, ← isEmpty_sorted, sorted_of_same h]

end Table

open Table

/-- A part in the order of a list without repetitions is known by its members. -/
theorem eq_filter_of_sublist {α : Type u} [DecidableEq α] {xs ys : List α} (h : xs.Sublist ys)
    (hn : ys.Nodup) : xs = ys.filter (· ∈ xs) := by
  induction h with
  | slnil => rfl
  | @cons xs ys y h ih =>
    rw [List.nodup_cons] at hn
    have hy : y ∉ xs := fun hmem => hn.1 (h.subset hmem)
    rw [List.filter_cons_of_neg (by simpa using hy)]
    exact ih hn.2
  | @cons_cons xs ys y h ih =>
    rw [List.nodup_cons] at hn
    have hrest : ys.filter (· ∈ y :: xs) = ys.filter (· ∈ xs) := by
      refine List.filter_congr fun z hz => ?_
      have hne : z ≠ y := fun he => hn.1 (he ▸ hz)
      simp [hne]
    rw [List.filter_cons_of_pos (by simp), hrest, ← ih hn.2]

namespace Detection

/-- A listing of packages: ecosystems in order of precedence, each once, with packages in strictly
ascending order; and these are exactly the ecosystems that are present with exactly their
packages. -/
structure Lists (d : Detection) (l : List (Ecosystem × List (String × String))) : Prop where
  precedence : (l.map Prod.fst).Sublist Ecosystem.all
  ascending : ∀ x ∈ l, Ascending x.2
  present : ∀ e, e ∈ l.map Prod.fst ↔ d.dependencies.contains e = true
  packages : ∀ x ∈ l, ∀ name version,
    (name, version) ∈ x.2 ↔ (d.versionsFor x.1).get? name = some version

variable {d d' : Detection} {l l' : List (Ecosystem × List (String × String))}

namespace Lists

theorem of_same (h : Lists d l)
    (hpresent : ∀ e, d'.dependencies.contains e = d.dependencies.contains e)
    (hsame : ∀ e, Same (d'.versionsFor e) (d.versionsFor e)) : Lists d' l :=
  ⟨h.precedence, h.ascending, fun e => by rw [h.present, hpresent],
    fun x hx name version => by rw [h.packages x hx, hsame x.1 name]⟩

/-- **There is one listing.** -/
theorem unique (h : Lists d l) (h' : Lists d l') : l = l' := by
  have hkeys : l.map Prod.fst = l'.map Prod.fst := by
    rw [eq_filter_of_sublist h.precedence Ecosystem.nodup_all,
      eq_filter_of_sublist h'.precedence Ecosystem.nodup_all]
    refine List.filter_congr fun e _ => ?_
    rw [decide_eq_decide, h.present, h'.present]
  -- Listings with the same ecosystems have the same packages at each place.
  refine List.ext_getElem (by simpa using congrArg List.length hkeys) fun i hi hi' => ?_
  have hfst : (l[i]).1 = (l'[i]).1 := by
    have hget : (l.map Prod.fst)[i]? = (l'.map Prod.fst)[i]? := by rw [hkeys]
    simpa [hi, hi'] using hget
  have hm := List.getElem_mem hi
  have hm' := List.getElem_mem hi'
  refine Prod.ext hfst ((h.ascending _ hm).ext (h'.ascending _ hm') fun p => ?_)
  rw [h.packages _ hm p.1 p.2, h'.packages _ hm' p.1 p.2, hfst]

end Lists

theorem map_fst_listing (d : Detection) :
    d.listing.map Prod.fst = Ecosystem.all.filter fun e => d.dependencies.contains e := by
  rw [listing]
  induction Ecosystem.all with
  | nil => rfl
  | cons e es ih =>
    cases h : d.dependencies.get? e with
    | none =>
      rw [List.filterMap_cons_none (by rw [h]; rfl), ih,
        List.filter_cons_of_neg (by simp [contains, h])]
    | some vs =>
      rw [List.filterMap_cons_some (by rw [h]; rfl), List.map_cons, ih,
        List.filter_cons_of_pos (by simp [contains, h])]

/-- **A fingerprint is listed in order.** -/
theorem lists_listing (d : Detection) : Lists d d.listing := by
  have hentry : ∀ x ∈ d.listing, x.2 = (d.versionsFor x.1).sorted := by
    intro x hx
    obtain ⟨e, -, he⟩ := List.mem_filterMap.1 hx
    obtain ⟨vs, hvs, rfl⟩ := Option.map_eq_some_iff.1 he
    rw [versionsFor, hvs, Option.getD_some]
  refine ⟨?_, fun x hx => ?_, fun e => ?_, fun x hx name version => ?_⟩
  · rw [map_fst_listing]
    exact List.filter_sublist
  · rw [hentry x hx]
    exact ascending_sorted _
  · simp [map_fst_listing, Ecosystem.mem_all]
  · rw [hentry x hx, mem_sorted]

/-- **The order of arrival does not show in a listing.** -/
theorem listing_of_same (hpresent : ∀ e, d'.dependencies.contains e = d.dependencies.contains e)
    (hsame : ∀ e, Same (d'.versionsFor e) (d.versionsFor e)) : d'.listing = d.listing :=
  d'.lists_listing.unique (d.lists_listing.of_same hpresent hsame)

end Detection

end Fingerprint
