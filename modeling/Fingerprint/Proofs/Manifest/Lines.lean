/-
Manifests that declare their packages one to a line. `LinesDeclare` relates
lines to the packages that they declare, in order, given what a line that
declares none looks like and what a line that declares one looks like; a
reader that looks at each line by itself gives these packages if it does so
for each kind of line (`LinesDeclare.filterMap_eq`).
-/
import Fingerprint.Ecosystem

namespace Fingerprint

/-- Lines each of which is idle or declares a package, with the names and versions in order. -/
inductive LinesDeclare (idle : List Char → Prop) (declares : List Char → String × String → Prop) :
    List (List Char) → List (String × String) → Prop where
  | nil : LinesDeclare idle declares [] []
  | idle {l : List Char} {ls : List (List Char)} {ps : List (String × String)} (h : idle l)
    (rest : LinesDeclare idle declares ls ps) : LinesDeclare idle declares (l :: ls) ps
  | declares {l : List Char} {p : String × String} {ls : List (List Char)}
    {ps : List (String × String)} (h : declares l p) (rest : LinesDeclare idle declares ls ps) :
    LinesDeclare idle declares (l :: ls) (p :: ps)

/-- **Lines that are read one by one declare what each of them declares.** -/
theorem LinesDeclare.filterMap_eq {idle : List Char → Prop}
    {declares : List Char → String × String → Prop} {f : List Char → Option (String × String)}
    (hidle : ∀ l, idle l → f l = none) (hdeclares : ∀ l p, declares l p → f l = some p)
    {ls : List (List Char)} {ps : List (String × String)} (h : LinesDeclare idle declares ls ps) :
    ls.filterMap f = ps := by
  induction h with
  | nil => rfl
  | idle h rest ih => rw [List.filterMap_cons_none (hidle _ h), ih]
  | declares h rest ih => rw [List.filterMap_cons_some (hdeclares _ _ h), ih]

end Fingerprint
