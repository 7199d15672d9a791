/-
Tables put together section by section. Two changes of the table at one key are
one change (`update?_update?`), so the pairs of a section may be put in one by
one or all at once. What a list of sections makes of a document is then plain:
a new section goes to the end (`addTo?_single`), and sections one level down go
into the table above them (`assemble?_below`).
-/
import Fingerprint.Proofs.Entries
import Fingerprint.Proofs.Toml.QuotedText
import Fingerprint.Toml.Values

namespace Fingerprint.Toml

open Entries

/-- **Two changes of one table are one change.** -/
theorem update?_update? (b : Bool) (f g : Members → Option Members) (key : Key) (ms : Members) :
    (update? b f key ms).bind (update? b g key) = update? b (fun t => (f t).bind g) key ms := by
  induction key generalizing ms with
  | nil => rfl
  | cons name key ih =>
    -- What the first change has put under the name is what the second one finds there.
    have again : ∀ (t : Option Members) (wrap : Members → Value),
        (∀ t, update? b g (name :: key) (put name (wrap t) ms) =
          (update? b g key t).map fun t => put name (wrap t) ms) →
        (t.map fun t => put name (wrap t) ms).bind (update? b g (name :: key)) =
          (t.bind (update? b g key)).map fun t => put name (wrap t) ms := by
      intro t wrap h
      cases t with
      | none => rfl
      | some t => exact h t
    have table : ∀ t, update? b g (name :: key) (put name (.table t) ms) =
        (update? b g key t).map fun t => put name (.table t) ms := by
      intro t
      simp only [update?, get?_put_self, put_put]
    cases h : get? name ms with
    | none =>
      simp only [update?, h, ← ih]
      exact again _ .table table
    | some v =>
      cases v with
      | table t =>
        simp only [update?, h, ← ih]
        exact again _ .table table
      | array items =>
        simp only [update?, h]
        cases b with
        | false => rfl
        | true =>
          cases hl : items.getLast? with
          | none => rfl
          | some last =>
            cases last with
            | table t =>
              simp only [← ih]
              refine again _ (fun t => .array (items.dropLast ++ [.table t])) fun t => ?_
              simp only [update?, get?_put_self, put_put, List.getLast?_concat,
                List.dropLast_concat]
            | _ => rfl
      | _ => simp only [update?, h, Option.bind_none]

/-- A change that a second one follows has come about by itself. -/
theorem update?_bind_some {b : Bool} {f g : Members → Option Members} {key : Key}
    {ms ms' : Members} (h : update? b (fun t => (f t).bind g) key ms = some ms') :
    ∃ mid, update? b f key ms = some mid ∧ update? b g key mid = some ms' := by
  rw [← update?_update?] at h
  exact Option.bind_eq_some_iff.1 h

theorem update?_some_of_update? {b : Bool} {f : Members → Option Members} {key : Key}
    {ms ms' : Members} (h : update? b f key ms = some ms') : update? b some key ms' = some ms' := by
  have hsame := update?_update? b f some key ms
  simp only [h, Option.bind_some, Option.bind_fun_some] at hsame
  exact hsame

/-- Puts a new member into a table; none if its name is taken. -/
def insertNew? (p : String × Value) (t : Members) : Option Members :=
  if (get? p.1 t).isSome then none else some (put p.1 p.2 t)

/-- Puts new members into a table, one after the other. -/
def insertAll? (ps : Members) (t : Members) : Option Members :=
  match ps with
  | [] => some t
  | p :: ps => (insertNew? p t).bind (insertAll? ps)

theorem insertNew?_of_not_mem {p : String × Value} {t : Members} (h : p.1 ∉ keys t) :
    insertNew? p t = some (t ++ [p]) := by
  rw [insertNew?, get?_eq_none_iff.2 h, put_of_not_mem h]
  rfl

/-- Members with different names all go in, in their order. -/
theorem insertAll?_of_nodup {ps t : Members} (h : (keys (t ++ ps)).Nodup) :
    insertAll? ps t = some (t ++ ps) := by
  induction ps generalizing t with
  | nil => simp [insertAll?]
  | cons p ps ih =>
    have hp : p.1 ∉ keys t := by
      simp only [keys, List.map_append, List.map_cons, List.nodup_append] at h
      exact fun hm => h.2.2 _ hm _ (by simp) rfl
    rw [insertAll?, insertNew?_of_not_mem hp, Option.bind_some,
      ih (by rwa [List.append_assoc]), List.append_assoc]
    rfl

/-- A header of bare names and the members below it, whose names are different. -/
structure Section where
  key : Key
  pairs : Members
  key_ne_nil : key ≠ []
  bare : ∀ n ∈ key, IsBareName n.toList
  nodup : (keys pairs).Nodup

namespace Section

/-- Puts the members of a section into a document. -/
def addTo? (root : Members) (s : Section) : Option Members :=
  update? true (insertAll? s.pairs) s.key root

theorem insertAll?_pairs (s : Section) : insertAll? s.pairs [] = some s.pairs :=
  insertAll?_of_nodup s.nodup

theorem addTo?_single {s : Section} {name : String} (hk : s.key = [name]) {root : Members}
    (h : name ∉ keys root) : s.addTo? root = some (root ++ [(name, .table s.pairs)]) := by
  simp only [addTo?, hk, update?, get?_eq_none_iff.2 h, s.insertAll?_pairs, Option.map_some,
    put_of_not_mem h]

/-- A section below a table that stands last goes to the end of that table. -/
theorem addTo?_below {s : Section} {above name : String} (hk : s.key = [above, name])
    {root tables : Members} (hr : above ∉ keys root) (ht : name ∉ keys tables) :
    s.addTo? (root ++ [(above, .table tables)]) =
      some (root ++ [(above, .table (tables ++ [(name, .table s.pairs)]))]) := by
  simp only [addTo?, hk, update?, get?_append_of_not_mem hr, get?, if_true,
    get?_eq_none_iff.2 ht, s.insertAll?_pairs, Option.map_some, put_of_not_mem ht,
    put_append_of_not_mem hr, put]

theorem addTo?_new {s : Section} {above name : String} (hk : s.key = [above, name])
    {root : Members} (hr : above ∉ keys root) :
    s.addTo? root = some (root ++ [(above, .table [(name, .table s.pairs)])]) := by
  simp only [addTo?, hk, update?, get?_eq_none_iff.2 hr, get?, s.insertAll?_pairs, Option.map_some,
    put_of_not_mem hr, put]

end Section

/-- What sections make of a document, from the first to the last. -/
def assemble? (ss : List Section) (root : Members) : Option Members :=
  match ss with
  | [] => some root
  | s :: ss => (s.addTo? root).bind (assemble? ss)

theorem assemble?_append (ss ts : List Section) (root : Members) :
    assemble? (ss ++ ts) root = (assemble? ss root).bind (assemble? ts) := by
  induction ss generalizing root with
  | nil => rfl
  | cons s ss ih =>
    rw [List.cons_append, assemble?, assemble?, Option.bind_assoc]
    exact congrArg _ (funext ih)

/-- The tables that sections below one name make: each under its own name. -/
def tablesOf (ss : List Section) : Members := ss.map fun s => (s.key.getLastD "", .table s.pairs)

/-- **Sections below a table that stands last** go to its end, one after the other. -/
theorem assemble?_below {above : String} {root : Members} (hr : above ∉ keys root)
    {ss : List Section} (hk : ∀ s ∈ ss, ∃ name, s.key = [above, name]) {tables : Members}
    (hn : (keys (tables ++ tablesOf ss)).Nodup) :
    assemble? ss (root ++ [(above, .table tables)]) =
      some (root ++ [(above, .table (tables ++ tablesOf ss))]) := by
  induction ss generalizing tables with
  | nil => simp [assemble?, tablesOf]
  | cons s ss ih =>
    obtain ⟨name, hs⟩ := hk s (by simp)
    have htable : tablesOf (s :: ss) = (name, .table s.pairs) :: tablesOf ss := by
      simp [tablesOf, hs]
    rw [htable] at hn ⊢
    have hname : name ∉ keys tables := by
      simp only [keys, List.map_append, List.map_cons, List.nodup_append] at hn
      exact fun hm => hn.2.2 _ hm _ (by simp) rfl
    rw [assemble?, Section.addTo?_below hs hr hname, Option.bind_some,
      ih (fun x hx => hk x (by simp [hx])) (by rwa [List.append_assoc]), List.append_assoc]
    rfl

theorem assemble?_new {above : String} {root : Members} (hr : above ∉ keys root)
    {ss : List Section} (hk : ∀ s ∈ ss, ∃ name, s.key = [above, name])
    (hn : (keys (tablesOf ss)).Nodup) :
    assemble? ss root =
      some (root ++ if ss.isEmpty then [] else [(above, .table (tablesOf ss))]) := by
  cases ss with
  | nil => simp [assemble?]
  | cons s ss =>
    obtain ⟨name, hs⟩ := hk s (by simp)
    have htable : tablesOf (s :: ss) = [(name, .table s.pairs)] ++ tablesOf ss := by
      simp [tablesOf, hs]
    rw [htable] at hn ⊢
    rw [assemble?, Section.addTo?_new hs hr, Option.bind_some,
      assemble?_below hr (fun x hx => hk x (by simp [hx])) hn]
    rfl

end Fingerprint.Toml
