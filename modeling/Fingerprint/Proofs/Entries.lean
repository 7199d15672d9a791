/-
Look-ups in lists of pairs: a key is found iff it is among the keys, a new key
goes to the end, and a list without repeated keys answers by membership. So
sorting a table changes no answer, and a table made from pairs has no key that
the pairs do not have and under each key the value of the last pair with it
(`Table.get?_ofList`). A table made from two lists of pairs is made from the
one and updated with the other (`Table.ofList_append`).
-/
import Mathlib.Data.List.Induction
import Fingerprint.Ecosystem

namespace Fingerprint

namespace Entries

variable {κ : Type u} {ν : Type v} [DecidableEq κ]

theorem get?_eq_none_iff {k : κ} {es : List (κ × ν)} : get? k es = none ↔ k ∉ keys es := by
  induction es with
  | nil => simp [get?, keys]
  | cons e es ih =>
    obtain ⟨k', v⟩ := e
    by_cases h : k' = k
    · simp [get?, keys, h]
    · simp only [keys] at ih
      simp [get?, keys, h, ih, Ne.symm h]

theorem get?_append_of_not_mem {k : κ} {xs : List (κ × ν)} (h : k ∉ keys xs) (ys : List (κ × ν)) :
    get? k (xs ++ ys) = get? k ys := by
  induction xs with
  | nil => rfl
  | cons x xs ih =>
    obtain ⟨k', v⟩ := x
    simp only [keys, List.map_cons, List.mem_cons, not_or] at h
    rw [List.cons_append, get?, if_neg (Ne.symm h.1), ih h.2]

theorem put_of_not_mem {k : κ} {es : List (κ × ν)} (h : k ∉ keys es) (v : ν) :
    put k v es = es ++ [(k, v)] := by
  induction es with
  | nil => rfl
  | cons e es ih =>
    obtain ⟨k', w⟩ := e
    simp only [keys, List.map_cons, List.mem_cons, not_or] at h
    rw [put, if_neg (Ne.symm h.1), ih h.2, List.cons_append]

theorem put_append_of_not_mem {k : κ} {xs : List (κ × ν)} (h : k ∉ keys xs) (v : ν)
    (ys : List (κ × ν)) : put k v (xs ++ ys) = xs ++ put k v ys := by
  induction xs with
  | nil => rfl
  | cons x xs ih =>
    obtain ⟨k', w⟩ := x
    simp only [keys, List.map_cons, List.mem_cons, not_or] at h
    rw [List.cons_append, put, if_neg (Ne.symm h.1), ih h.2, List.cons_append]

@[simp] theorem put_put (k : κ) (v w : ν) (es : List (κ × ν)) :
    put k v (put k w es) = put k v es := by
  induction es with
  | nil => simp [put]
  | cons e es ih =>
    obtain ⟨k', u⟩ := e
    by_cases h : k' = k
    · simp [put, h]
    · simp [put, h, ih]

theorem eq_or_mem_of_mem_put {k : κ} {v : ν} {es : List (κ × ν)} {e : κ × ν}
    (h : e ∈ put k v es) : e = (k, v) ∨ e ∈ es := by
  induction es with
  | nil => exact .inl (List.mem_singleton.1 h)
  | cons e' es ih =>
    obtain ⟨k', w⟩ := e'
    unfold put at h
    split at h
    · exact (List.mem_cons.1 h).imp_right fun hmem => List.mem_cons_of_mem _ hmem
    · rcases List.mem_cons.1 h with rfl | hmem
      · exact .inr List.mem_cons_self
      · exact (ih hmem).imp_right fun hold => List.mem_cons_of_mem _ hold

/-- Writing the value that is there changes nothing. -/
theorem put_of_get?_eq {k : κ} {v : ν} {es : List (κ × ν)} (h : get? k es = some v) :
    put k v es = es := by
  induction es with
  | nil => cases h
  | cons e es ih =>
    obtain ⟨k', w⟩ := e
    by_cases hk : k' = k
    · subst hk
      rw [get?, if_pos rfl] at h
      cases h
      rw [put, if_pos rfl]
    · rw [get?, if_neg hk] at h
      rw [put, if_neg hk, ih h]

/-- A key that is there keeps its place, so another one can be written before or after it. -/
theorem put_comm_of_mem {k k' : κ} (hne : k ≠ k') {es : List (κ × ν)} (h : k ∈ keys es) (v w : ν) :
    put k v (put k' w es) = put k' w (put k v es) := by
  induction es with
  | nil => cases h
  | cons e es ih =>
    obtain ⟨a, u⟩ := e
    by_cases hk : a = k
    · subst hk
      rw [put, if_neg hne, put, if_pos rfl, put, if_pos rfl, put, if_neg hne]
    · have hes : k ∈ keys es := (List.mem_cons.1 h).resolve_left (Ne.symm hk)
      by_cases hk' : a = k'
      · subst hk'
        rw [put, if_pos rfl, put, if_neg hk, put, if_neg hk, put, if_pos rfl]
      · rw [put, if_neg hk', put, if_neg hk, put, if_neg hk, put, if_neg hk', ih hes]

/-- Without repeated keys, a look-up finds a value iff the pair is there. -/
theorem get?_eq_some_iff {k : κ} {v : ν} {es : List (κ × ν)} (hn : (keys es).Nodup) :
    get? k es = some v ↔ (k, v) ∈ es := by
  induction es with
  | nil => simp [get?]
  | cons e es ih =>
    obtain ⟨k', w⟩ := e
    simp only [keys, List.map_cons, List.nodup_cons] at hn
    by_cases h : k' = k
    · subst h
      have hnot : (k', v) ∉ es := fun hm => hn.1 (List.mem_map.2 ⟨_, hm, rfl⟩)
      simp [get?, hnot, eq_comm]
    · simp [get?, h, Ne.symm h, ih hn.2]

theorem get?_perm {xs ys : List (κ × ν)} (hp : xs.Perm ys) (hn : (keys xs).Nodup) (k : κ) :
    get? k xs = get? k ys := by
  have hn' : (keys ys).Nodup := (hp.map Prod.fst).nodup hn
  ext v
  rw [get?_eq_some_iff hn, get?_eq_some_iff hn', hp.mem_iff]

/-- The value of the last pair with a key. -/
def last? (k : κ) (es : List (κ × ν)) : Option ν := get? k es.reverse

theorem get?_append (k : κ) (xs ys : List (κ × ν)) :
    get? k (xs ++ ys) = (get? k xs).or (get? k ys) := by
  induction xs with
  | nil => rfl
  | cons x xs ih =>
    obtain ⟨k', v⟩ := x
    by_cases h : k' = k
    · simp [get?, h]
    · simp [get?, h, ih]

theorem last?_cons (k : κ) (e : κ × ν) (es : List (κ × ν)) :
    last? k (e :: es) = (last? k es).or (get? k [e]) := by
  rw [last?, List.reverse_cons, get?_append, last?]

theorem last?_eq_get? {es : List (κ × ν)} (hn : (keys es).Nodup) (k : κ) :
    last? k es = get? k es :=
  (get?_perm es.reverse_perm.symm hn k).symm

theorem get?_map {μ : Type w} (f : ν → μ) (k : κ) (es : List (κ × ν)) :
    get? k (es.map fun e => (e.1, f e.2)) = (get? k es).map f := by
  induction es with
  | nil => rfl
  | cons e es ih =>
    obtain ⟨k', v⟩ := e
    by_cases h : k' = k
    · simp [get?, h]
    · simp [get?, h, ih]

theorem get?_filter (p : κ → Bool) (k : κ) (es : List (κ × ν)) :
    get? k (es.filter fun e => p e.1) = if p k then get? k es else none := by
  induction es with
  | nil => simp [get?]
  | cons e es ih =>
    obtain ⟨k', v⟩ := e
    rw [List.filter_cons]
    by_cases hk : k' = k
    · subst hk
      cases hp : p k' with
      | true => simp [get?]
      | false => simp [ih, hp]
    · cases hp : p k' with
      | true => simp only [if_true, get?, if_neg hk, ih]
      | false => simp only [Bool.false_eq_true, if_false, get?, if_neg hk, ih]

end Entries

namespace Table

theorem eq_of_entries {κ : Type u} {ν : Type v} {t u : Table κ ν} (h : t.entries = u.entries) :
    t = u := by
  cases t
  cases u
  cases h
  rfl

theorem entries_filter {κ : Type u} {ν : Type v} (t : Table κ ν) (p : κ → ν → Bool) :
    (t.filter p).entries = t.entries.filter fun e => p e.1 e.2 := rfl

theorem not_mem_keys_empty {κ : Type u} {ν : Type v} {k : κ} : k ∉ (∅ : Table κ ν).keys := by
  intro h
  cases h

variable {κ : Type u} {ν : Type v} [DecidableEq κ]

theorem contains_iff {t : Table κ ν} {k : κ} : t.contains k = true ↔ k ∈ t.keys := by
  rw [contains, Option.isSome_iff_ne_none, Ne, get?, Entries.get?_eq_none_iff,
    Classical.not_not]
  rfl

theorem get?_filter (t : Table κ ν) (p : κ → Bool) (k : κ) :
    (t.filter fun k _ => p k).get? k = if p k then t.get? k else none :=
  Entries.get?_filter p k t.entries

theorem put_of_get?_eq {t : Table κ ν} {k : κ} {v : ν} (h : t.get? k = some v) : t.put k v = t := by
  have hes : Entries.put k v t.entries = t.entries := Entries.put_of_get?_eq h
  simp only [put, hes]

theorem mem_keys_putAll {t : Table κ ν} {es : List (κ × ν)} {k : κ} :
    k ∈ (t.putAll es).keys ↔ k ∈ t.keys ∨ k ∈ es.map Prod.fst := by
  induction es generalizing t with
  | nil => simp [putAll]
  | cons e es ih =>
    have hstep : (t.putAll (e :: es)) = (t.put e.1 e.2).putAll es := rfl
    rw [hstep, ih, mem_keys_put, List.map_cons, List.mem_cons]
    constructor
    · rintro ((h | h) | h)
      · exact .inr (.inl h)
      · exact .inl h
      · exact .inr (.inr h)
    · rintro (h | h | h)
      · exact .inl (.inr h)
      · exact .inl (.inl h)
      · exact .inr h

theorem entries_putAll (t : Table κ ν) (es : List (κ × ν)) :
    (t.putAll es).entries = es.foldl (fun fs e => Entries.put e.1 e.2 fs) t.entries := by
  induction es generalizing t with
  | nil => rfl
  | cons e es ih => exact ih (t.put e.1 e.2)

theorem mem_of_mem_putAll {t : Table κ ν} {es : List (κ × ν)} {e : κ × ν}
    (h : e ∈ (t.putAll es).entries) : e ∈ es ∨ e ∈ t.entries := by
  induction es generalizing t with
  | nil => exact .inr h
  | cons f es ih =>
    rcases ih h with hrest | hput
    · exact .inl (List.mem_cons_of_mem _ hrest)
    · exact (Entries.eq_or_mem_of_mem_put hput).imp_left fun he => by simp [he]

theorem get?_putAll (t : Table κ ν) (es : List (κ × ν)) (k : κ) :
    (t.putAll es).get? k = (Entries.last? k es).or (t.get? k) := by
  induction es generalizing t with
  | nil => rfl
  | cons e es ih =>
    obtain ⟨k', v⟩ := e
    have hstep : t.putAll ((k', v) :: es) = (t.put k' v).putAll es := rfl
    have hput : (t.put k' v).get? k = (Entries.get? k [(k', v)]).or (t.get? k) := by
      by_cases h : k' = k
      · subst h
        simp [Entries.get?]
      · simp [Entries.get?, h, get?_put_other t h]
    rw [hstep, ih, hput, Entries.last?_cons, Option.or_assoc]

/-- **The last pair of a key wins.** -/
theorem get?_ofList (es : List (κ × ν)) (k : κ) : (ofList es).get? k = Entries.last? k es := by
  rw [ofList, get?_putAll, get?_empty, Option.or_none]

theorem get?_update (t u : Table κ ν) (k : κ) : (t.update u).get? k = (u.get? k).or (t.get? k) := by
  rw [update, get?_putAll, Entries.last?_eq_get? u.nodup]
  rfl

theorem entries_putAll_of_new {t : Table κ ν} {es : List (κ × ν)} (hn : (Entries.keys es).Nodup)
    (hnew : ∀ k ∈ Entries.keys es, k ∉ t.keys) : (t.putAll es).entries = t.entries ++ es := by
  induction es generalizing t with
  | nil => exact (List.append_nil _).symm
  | cons e es ih =>
    rw [Entries.keys, List.map_cons, List.nodup_cons] at hn
    have hfirst : (t.put e.1 e.2).entries = t.entries ++ [e] :=
      Entries.put_of_not_mem (hnew e.1 (by simp [Entries.keys])) e.2
    have hrest : ∀ k ∈ Entries.keys es, k ∉ (t.put e.1 e.2).keys := by
      intro k hk hput
      rcases (mem_keys_put t).1 hput with rfl | hold
      · exact hn.1 hk
      · exact hnew k (List.mem_cons_of_mem _ hk) hold
    have hstep : t.putAll (e :: es) = (t.put e.1 e.2).putAll es := rfl
    rw [hstep, ih hn.2 hrest, hfirst, List.append_assoc, List.singleton_append]

/-- A value written last can as well be written where its key first comes, if that is once. -/
theorem putAll_put {k : κ} {es : List (κ × ν)} (hn : (Entries.keys es).Nodup) (t : Table κ ν)
    (v : ν) : t.putAll (Entries.put k v es) = (t.putAll es).put k v := by
  have hlater : ∀ (es : List (κ × ν)) (t : Table κ ν), k ∈ t.keys → k ∉ Entries.keys es →
      (t.put k v).putAll es = (t.putAll es).put k v := by
    intro es
    induction es with
    | nil => exact fun _ _ _ => rfl
    | cons e es ih =>
      intro t ht hk
      rw [Entries.keys, List.map_cons, List.mem_cons, not_or] at hk
      have hcomm : (t.put e.1 e.2).put k v = (t.put k v).put e.1 e.2 :=
        eq_of_entries (Entries.put_comm_of_mem hk.1 ht v e.2)
      have hrest := ih (t.put e.1 e.2) ((mem_keys_put t).2 (.inr ht)) hk.2
      rw [hcomm] at hrest
      exact hrest
  induction es generalizing t with
  | nil => rfl
  | cons e es ih =>
    obtain ⟨k', w⟩ := e
    rw [Entries.keys, List.map_cons, List.nodup_cons] at hn
    by_cases h : k' = k
    · subst h
      have hover : (t.put k' w).put k' v = t.put k' v := eq_of_entries (Entries.put_put k' v w _)
      have hfirst := hlater es (t.put k' w) ((mem_keys_put t).2 (.inl rfl)) hn.1
      rw [hover] at hfirst
      rw [Entries.put, if_pos rfl]
      exact hfirst
    · rw [Entries.put, if_neg h]
      exact ih hn.2 (t.put k' w)

theorem putAll_append (t : Table κ ν) (xs ys : List (κ × ν)) :
    t.putAll (xs ++ ys) = (t.putAll xs).putAll ys :=
  List.foldl_append

theorem update_ofList (t : Table κ ν) (es : List (κ × ν)) : t.update (ofList es) = t.putAll es := by
  induction es using List.reverseRecOn with
  | nil => rfl
  | append_singleton es e ih =>
    have hlast : ofList (es ++ [e]) = (ofList es).put e.1 e.2 := putAll_append empty es [e]
    have hput := putAll_put (k := e.1) (ofList es).nodup t e.2
    rw [update] at ih
    rw [hlast, putAll_append, ← ih]
    exact hput

/-- **The table of two lists is that of the one with that of the other written over it**, in the
same order. -/
theorem ofList_append (xs ys : List (κ × ν)) :
    ofList (xs ++ ys) = (ofList xs).update (ofList ys) := by
  rw [update_ofList]
  exact putAll_append empty xs ys

theorem empty_update (t : Table κ ν) : (∅ : Table κ ν).update t = t := by
  have hentries : ((∅ : Table κ ν).update t).entries = [] ++ t.entries :=
    entries_putAll_of_new t.nodup fun _ _ => not_mem_keys_empty
  exact eq_of_entries hentries

theorem mem_keys_ofList {es : List (κ × ν)} {k : κ} :
    k ∈ (ofList es).keys ↔ k ∈ es.map Prod.fst := by
  rw [ofList, mem_keys_putAll]
  simp [empty, keys, Entries.keys]

theorem mem_of_mem_ofList {es : List (κ × ν)} {e : κ × ν} (h : e ∈ (ofList es).entries) : e ∈ es :=
  (mem_of_mem_putAll h).resolve_right nofun

theorem sorted_perm (t : Table String ν) : t.sorted.Perm t.entries := List.mergeSort_perm _ _

theorem nodup_keys_sorted (t : Table String ν) : (Entries.keys t.sorted).Nodup :=
  (t.sorted_perm.symm.map Prod.fst).nodup t.nodup

theorem get?_sorted (t : Table String ν) (k : String) : Entries.get? k t.sorted = t.get? k :=
  Entries.get?_perm t.sorted_perm t.nodup_keys_sorted k

theorem isEmpty_sorted (t : Table String ν) : t.sorted.isEmpty = t.isEmpty := by
  rw [Bool.eq_iff_iff, List.isEmpty_iff, isEmpty, List.isEmpty_iff]
  constructor
  · intro h; exact (h ▸ t.sorted_perm).nil_eq.symm
  · intro h; exact (h ▸ t.sorted_perm).eq_nil

end Table

end Fingerprint
