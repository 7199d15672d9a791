/-
Paths with more behind them. A relative path stands behind another as it is, so
the longer it is, the longer is the whole (`size_join`).
-/
import Fingerprint.Path

namespace Fingerprint

/-- Whether a text, taken as a path, leads to the entry of this name. -/
def IsName (name : String) : Prop :=
  Path.ofString name = ⟨"", [name]⟩ ∧ name ≠ ".." ∧ name.toList.contains '\x00' = false

instance (name : String) : Decidable (IsName name) := inferInstanceAs (Decidable (_ ∧ _ ∧ _))

namespace Path

/-- The path of the first components. -/
def upTo (p : Path) (n : Nat) : Path := ⟨p.anchor, p.parts.take n⟩

theorem upTo_length (p : Path) : p.upTo p.parts.length = p := by
  rw [upTo, List.take_length]

variable (p : Path) {name : String}

/-- Behind a path a relative one is taken on from there. -/
theorem join_of_anchor {q : String} (h : (ofString q).anchor = "") :
    p / q = ⟨p.anchor, p.parts ++ (ofString q).parts⟩ := by
  show p.join (ofString q) = _
  rw [join, h]
  rfl

theorem join_name (h : IsName name) : p / name = ⟨p.anchor, p.parts ++ [name]⟩ := by
  rw [join_of_anchor p (by rw [h.1]), h.1]

theorem parent_join_name (h : IsName name) : (p / name).parent = p := by
  rw [join_name p h, parent, List.dropLast_concat]

theorem hasNul_join_name (h : IsName name) : (p / name).hasNul = p.hasNul := by
  rw [join_name p h, hasNul, List.any_append]
  simp only [List.any_cons, List.any_nil, h.2.2, Bool.or_false]
  rfl

/-- The bytes of names with a separator behind each. -/
def extent : List String → Nat
  | [] => 0
  | s :: ss => s.utf8ByteSize + 1 + extent ss

theorem extent_append (ss ts : List String) : extent (ss ++ ts) = extent ss + extent ts := by
  induction ss with
  | nil => exact (Nat.zero_add _).symm
  | cons s ss ih => rw [List.cons_append, extent, ih, extent, Nat.add_assoc (s.utf8ByteSize + 1)]

theorem size_joinStrings (ss : List String) {ts : List String} (h : ts ≠ []) :
    (Text.joinStrings "/" (ss ++ ts)).utf8ByteSize =
      extent ss + (Text.joinStrings "/" ts).utf8ByteSize := by
  induction ss with
  | nil => exact (Nat.zero_add _).symm
  | cons s ss ih =>
    have hrest : ss ++ ts ≠ [] := List.append_ne_nil_of_right_ne_nil ss h
    obtain ⟨u, us, hu⟩ := List.exists_cons_of_ne_nil hrest
    have hstep : Text.joinStrings "/" (s :: (ss ++ ts)) =
        s ++ "/" ++ Text.joinStrings "/" (ss ++ ts) := by
      rw [hu]
      simp [Text.joinStrings, Text.join, String.ofList_append, String.append_assoc]
    have hslash : "/".utf8ByteSize = 1 := by decide
    rw [List.cons_append, hstep, String.utf8ByteSize_append, String.utf8ByteSize_append, ih, hslash,
      extent, Nat.add_assoc (s.utf8ByteSize + 1)]

/-- The bytes of the components of a text that is taken as a path. -/
def partsSize (q : String) : Nat := (Text.joinStrings "/" (ofString q).parts).utf8ByteSize

theorem partsSize_name (h : IsName name) : partsSize name = name.utf8ByteSize := by
  rw [partsSize, h.1]
  show (String.ofList name.toList).utf8ByteSize = _
  rw [String.ofList_toList]

/-- Whether a text, taken as a path, leads somewhere below a directory. -/
def IsBelow (q : String) : Prop := (ofString q).anchor = "" ∧ (ofString q).parts ≠ []

instance (q : String) : Decidable (IsBelow q) := inferInstanceAs (Decidable (_ ∧ _))

theorem isBelow_of_isName (h : IsName name) : IsBelow name := by
  rw [IsBelow, h.1]
  exact ⟨rfl, by simp⟩

/-- **What stands behind a path adds its own length** to it. -/
theorem size_join {q : String} (h : IsBelow q) :
    (p / q).toString.utf8ByteSize = p.anchor.utf8ByteSize + extent p.parts + partsSize q := by
  rw [join_of_anchor p h.1, toString, if_neg (by simp [h.2]), String.utf8ByteSize_append,
    size_joinStrings _ h.2, partsSize, Nat.add_assoc]

theorem size_join_name (h : IsName name) : (p / name).toString.utf8ByteSize =
    p.anchor.utf8ByteSize + extent p.parts + name.utf8ByteSize := by
  rw [size_join p (isBelow_of_isName h), partsSize_name h]

end Path

end Fingerprint
