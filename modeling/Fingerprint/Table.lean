/-
Tables that remember the order in which their keys arrived. A key that is
written again keeps its place and takes the new value, so the order of a
table is the order of first arrival. `Entries` holds the operations on bare
lists of pairs (the members of a document value are such lists), `Table` the
lists in which no key comes twice.

`get?_put_self` and `get?_put_other` say what a write does to every look-up.
-/
namespace Fingerprint

namespace Entries

variable {κ : Type u} {ν : Type v} [DecidableEq κ]

/-- The value held under `k`. -/
def get? (k : κ) : List (κ × ν) → Option ν
  | [] => none
  | (k', v) :: rest => if k' = k then some v else get? k rest

/-- Writes `v` under `k`: in the place that `k` already has, or else at the end. -/
def put (k : κ) (v : ν) : List (κ × ν) → List (κ × ν)
  | [] => [(k, v)]
  | (k', v') :: rest => if k' = k then (k, v) :: rest else (k', v') :: put k v rest

/-- The keys in order. -/
def keys (entries : List (κ × ν)) : List κ := entries.map Prod.fst

@[simp] theorem get?_put_self (k : κ) (v : ν) (es : List (κ × ν)) :
    get? k (put k v es) = some v := by
  induction es with
  | nil => simp [put, get?]
  | cons e es ih =>
    obtain ⟨k', v'⟩ := e
    by_cases h : k' = k
    · simp [put, get?, h]
    · simp [put, get?, h, ih]

theorem get?_put_other {k k' : κ} (h : k ≠ k') (v : ν) (es : List (κ × ν)) :
    get? k' (put k v es) = get? k' es := by
  induction es with
  | nil => simp [put, get?, h]
  | cons e es ih =>
    obtain ⟨a, b⟩ := e
    by_cases ha : a = k
    · subst ha; simp [put, get?, h]
    · simp [put, get?, ha, ih]

theorem mem_keys_put {k x : κ} {v : ν} {es : List (κ × ν)} :
    x ∈ keys (put k v es) ↔ x = k ∨ x ∈ keys es := by
  induction es with
  | nil => simp [put, keys]
  | cons e es ih =>
    obtain ⟨a, b⟩ := e
    by_cases ha : a = k
    · subst ha; simp [put, keys]
    · simp only [keys, List.map_cons, List.mem_cons, put, ha, if_false] at ih ⊢
      rw [ih]
      constructor
      · rintro (h | h | h)
        · exact .inr (.inl h)
        · exact .inl h
        · exact .inr (.inr h)
      · rintro (h | h | h)
        · exact .inr (.inl h)
        · exact .inl h
        · exact .inr (.inr h)

theorem nodup_keys_put {k : κ} {v : ν} {es : List (κ × ν)} (h : (keys es).Nodup) :
    (keys (put k v es)).Nodup := by
  induction es with
  | nil => simp [put, keys]
  | cons e es ih =>
    obtain ⟨a, b⟩ := e
    simp only [keys, List.map_cons, List.nodup_cons] at h
    by_cases ha : a = k
    · subst ha; simpa [put, keys] using h
    · have hm : a ∉ keys (put k v es) := by
        rw [mem_keys_put]; rintro (h' | h')
        · exact ha h'
        · exact h.1 h'
      simp only [put, ha, if_false, keys, List.map_cons, List.nodup_cons]
      exact ⟨hm, ih h.2⟩

end Entries

/-- A list of pairs in which no key comes twice. -/
structure Table (κ : Type u) (ν : Type v) where
  entries : List (κ × ν)
  nodup : (Entries.keys entries).Nodup

namespace Table

variable {κ : Type u} {ν : Type v}

/-- The table without entries. -/
def empty : Table κ ν := ⟨[], by simp [Entries.keys]⟩

instance : EmptyCollection (Table κ ν) := ⟨empty⟩
instance : Inhabited (Table κ ν) := ⟨empty⟩

/-- The keys in order of first arrival. -/
def keys (t : Table κ ν) : List κ := Entries.keys t.entries

/-- Whether the table has no entry. -/
def isEmpty (t : Table κ ν) : Bool := t.entries.isEmpty

/-- The number of entries. -/
def size (t : Table κ ν) : Nat := t.entries.length

/-- Keeps the entries that `p` accepts. -/
def filter (p : κ → ν → Bool) (t : Table κ ν) : Table κ ν where
  entries := t.entries.filter fun e => p e.1 e.2
  nodup := List.Nodup.sublist (List.Sublist.map _ (List.filter_sublist)) t.nodup

variable [DecidableEq κ]

/-- The value held under `k`. -/
def get? (t : Table κ ν) (k : κ) : Option ν := Entries.get? k t.entries

/-- Whether the table has the key. -/
def contains (t : Table κ ν) (k : κ) : Bool := (t.get? k).isSome

/-- Writes `v` under `k`, in the place that `k` already has or at the end. -/
def put (t : Table κ ν) (k : κ) (v : ν) : Table κ ν :=
  ⟨Entries.put k v t.entries, Entries.nodup_keys_put t.nodup⟩

/-- Writes the pairs from left to right. -/
def putAll (t : Table κ ν) (es : List (κ × ν)) : Table κ ν :=
  es.foldl (fun t e => t.put e.1 e.2) t

/-- The table of the pairs, a later pair of one key winning. -/
def ofList (es : List (κ × ν)) : Table κ ν := empty.putAll es

/-- Writes all of `u` over `t`. -/
def update (t u : Table κ ν) : Table κ ν := t.putAll u.entries

instance [DecidableEq ν] : DecidableEq (Table κ ν) := fun a b =>
  if h : a.entries = b.entries then
    .isTrue (by cases a; cases b; cases h; rfl)
  else .isFalse (fun e => h (by rw [e]))

@[simp] theorem get?_empty (k : κ) : (empty : Table κ ν).get? k = none := rfl

@[simp] theorem get?_put_self (t : Table κ ν) (k : κ) (v : ν) : (t.put k v).get? k = some v :=
  Entries.get?_put_self k v t.entries

theorem get?_put_other (t : Table κ ν) {k k' : κ} (h : k ≠ k') (v : ν) :
    (t.put k v).get? k' = t.get? k' :=
  Entries.get?_put_other h v t.entries

theorem mem_keys_put (t : Table κ ν) {k x : κ} {v : ν} :
    x ∈ (t.put k v).keys ↔ x = k ∨ x ∈ t.keys :=
  Entries.mem_keys_put

/-- The entries of a table of texts in ascending order of their keys, by code point. -/
def sorted (t : Table String ν) : List (String × ν) :=
  t.entries.mergeSort fun a b => decide (a.1 ≤ b.1)

end Table

end Fingerprint
