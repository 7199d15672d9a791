/-
A value without numbers is read back from its text over several lines
(`read_pretty`), whatever the strings in it, and the text is printable ASCII
and line feeds (`isWritten_printIndented`). The reader counts the brackets it
is within; that count is no bound here, since the text of a part is shorter
than the text of the whole.
-/
import Fingerprint.Proofs.Entries
import Fingerprint.Proofs.Json.StringText

namespace Fingerprint.Json

open Text

/-- A value without numbers in which no object has a member twice. -/
inductive Value.IsPlain : Value → Prop where
  | null : IsPlain .null
  | bool (b : Bool) : IsPlain (.bool b)
  | string (s : String) : IsPlain (.string s)
  | array {items : List Value} (plain : ∀ v ∈ items, IsPlain v) : IsPlain (.array items)
  | object {ms : List (String × Value)} (distinct : (Entries.keys ms).Nodup)
    (plain : ∀ m ∈ ms, IsPlain m.2) : IsPlain (.object ms)

theorem isPlain_ofStrings {ps : List (String × String)} (h : (Entries.keys ps).Nodup) :
    (Value.ofStrings ps).IsPlain := by
  refine .object ?_ fun m hm => ?_
  · rwa [Entries.keys, List.map_map]
  · obtain ⟨p, -, rfl⟩ := List.mem_map.1 hm
    exact .string p.2

variable {c : Char} {rest : List Char} {v : Value} {vs : List Value} {ms : List (String × Value)}
  {level : Nat}
  {element : List Char → Step Value}

theorem skipSpace_cons (h : isSpace c = false) (s : List Char) : skipSpace (c :: s) = c :: s :=
  List.dropWhile_cons_of_neg (by simp [h])

theorem skipSpace_append {space : List Char} (h : ∀ c ∈ space, isSpace c = true) (s : List Char) :
    skipSpace (space ++ s) = skipSpace s :=
  List.dropWhile_append_of_pos h

theorem skipSpace_newLine (level : Nat) (s : List Char) :
    skipSpace (newLine level ++ s) = skipSpace s := by
  refine skipSpace_append (fun c hc => ?_) s
  rcases List.mem_cons.1 hc with rfl | hc
  · rfl
  · rw [(List.mem_replicate.1 hc).2]
    rfl

/-- The text of a value begins at once, and not as an array ends. -/
theorem exists_cons_printIndented (h : v.IsPlain) (level : Nat) :
    ∃ c s, printIndented level v = c :: s ∧ isSpace c = false ∧ c ≠ ']' := by
  cases h with
  | null => exact ⟨_, _, rfl, rfl, by decide⟩
  | bool b => cases b <;> exact ⟨_, _, rfl, rfl, by decide⟩
  | string s => exact ⟨_, _, rfl, rfl, by decide⟩
  | @array items _ => cases items <;> exact ⟨_, _, rfl, rfl, by decide⟩
  | @object ms _ _ => cases ms <;> exact ⟨_, _, rfl, rfl, by decide⟩

theorem skipSpace_printIndented (h : v.IsPlain) (level : Nat) (s : List Char) :
    skipSpace (printIndented level v ++ s) = printIndented level v ++ s := by
  obtain ⟨c, t, htext, hc, -⟩ := exists_cons_printIndented h level
  rw [htext, List.cons_append, skipSpace_cons hc]

section Steps

variable {s t u w : List Char} {fuel : Nat} {name : String}

theorem elements_last (hv : element s = .ok (v, t)) (hend : skipSpace t = ']' :: rest) :
    elements element (fuel + 1) s = .ok ([v], rest) := by
  simp [elements, hv, hend, bind, Except.bind, pure, Except.pure]

theorem elements_comma (hv : element s = .ok (v, t)) (hcomma : skipSpace t = ',' :: u)
    (hmore : elements element fuel (skipSpace u) = .ok (vs, rest)) :
    elements element (fuel + 1) s = .ok (v :: vs, rest) := by
  simp [elements, hv, hcomma, hmore, bind, Except.bind, pure, Except.pure]

theorem members_last (hname : readString s = .ok (name, t)) (hcolon : skipSpace t = ':' :: u)
    (hv : element (skipSpace u) = .ok (v, w)) (hend : skipSpace w = '\x7d' :: rest) :
    members element (fuel + 1) ('"' :: s) = .ok ([(name, v)], rest) := by
  simp [members, hname, hcolon, hv, hend, bind, Except.bind, pure, Except.pure]

theorem members_comma {x : List Char} (hname : readString s = .ok (name, t))
    (hcolon : skipSpace t = ':' :: u) (hv : element (skipSpace u) = .ok (v, w))
    (hcomma : skipSpace w = ',' :: x) (hmore : members element fuel (skipSpace x) = .ok (ms, rest)) :
    members element (fuel + 1) ('"' :: s) = .ok ((name, v) :: ms, rest) := by
  simp [members, hname, hcolon, hv, hcomma, hmore, bind, Except.bind, pure, Except.pure]

theorem readValue_bracket (h : ∀ t, skipSpace s ≠ ']' :: t) (depth : Nat) :
    readValue (depth + 1) ('[' :: s) =
      (elements (readValue depth) ((skipSpace s).length + 1) (skipSpace s)).map fun r =>
        (.array r.1, r.2) := by
  rw [readValue]
  split
  next t ht => exact absurd ht (h t)
  next => rfl

theorem readValue_brace (h : ∀ t, skipSpace s ≠ '\x7d' :: t) (depth : Nat) :
    readValue (depth + 1) ('\x7b' :: s) =
      (members (readValue depth) ((skipSpace s).length + 1) (skipSpace s)).map fun r =>
        (objectOf r.1, r.2) := by
  rw [readValue]
  split
  next t ht => exact absurd ht (h t)
  next => rfl

end Steps

theorem elements_printIndented {fuel : Nat} (hfuel : vs.length ≤ fuel)
    (hplain : ∀ x ∈ v :: vs, x.IsPlain)
    (helement : ∀ x ∈ v :: vs, ∀ rest,
      element (printIndented (level + 1) x ++ rest) = .ok (x, rest)) (rest : List Char) :
    elements element (fuel + 1)
      (printIndented (level + 1) v ++ (printIndentedItems level vs ++ rest)) =
        .ok (v :: vs, rest) := by
  induction vs generalizing v fuel with
  | nil =>
    refine elements_last (helement v (by simp) _) ?_
    rw [printIndentedItems, List.append_assoc, skipSpace_newLine]
    exact skipSpace_cons rfl rest
  | cons x vs ih =>
    obtain ⟨fuel, rfl⟩ := Nat.exists_eq_add_one_of_ne_zero (Nat.ne_zero_of_lt hfuel)
    have hmore := ih (Nat.le_of_succ_le_succ hfuel) (fun y hy => hplain y (.tail _ hy))
      (fun y hy => helement y (.tail _ hy))
    rw [printIndentedItems, List.cons_append, List.append_assoc, List.append_assoc]
    refine elements_comma (helement v (by simp) _) (skipSpace_cons rfl _) ?_
    rw [skipSpace_newLine, skipSpace_printIndented (hplain x (by simp)), hmore]

/-- What reads the value of each member back reads the members of an object back. -/
theorem members_printIndented {m : String × Value} {fuel : Nat} (hfuel : ms.length ≤ fuel)
    (hplain : ∀ x ∈ m :: ms, x.2.IsPlain)
    (helement : ∀ x ∈ m :: ms, ∀ rest,
      element (printIndented (level + 1) x.2 ++ rest) = .ok (x.2, rest)) (rest : List Char) :
    members element (fuel + 1) (stringText m.1 ++ ([':', ' '] ++
      (printIndented (level + 1) m.2 ++ (printIndentedMembers level ms ++ rest)))) =
        .ok (m :: ms, rest) := by
  have hvalue : ∀ x ∈ m :: ms, ∀ rest, element
      (skipSpace ([' '] ++ (printIndented (level + 1) x.2 ++ rest))) = .ok (x.2, rest) := by
    intro x hx rest
    rw [skipSpace_append (List.forall_mem_singleton.2 rfl), skipSpace_printIndented (hplain x hx),
      helement x hx]
  rw [stringText_append]
  induction ms generalizing m fuel with
  | nil =>
    refine members_last (readString_escaped m.1 _) (skipSpace_cons rfl _) (hvalue m (by simp) _) ?_
    rw [printIndentedMembers, List.append_assoc, skipSpace_newLine]
    exact skipSpace_cons rfl rest
  | cons x ms ih =>
    obtain ⟨fuel, rfl⟩ := Nat.exists_eq_add_one_of_ne_zero (Nat.ne_zero_of_lt hfuel)
    have hmore := ih (Nat.le_of_succ_le_succ hfuel) (fun y hy => hplain y (.tail _ hy))
      (fun y hy => helement y (.tail _ hy)) (fun y hy => hvalue y (.tail _ hy))
    simp only [printIndentedMembers, List.cons_append, List.append_assoc]
    refine members_comma (readString_escaped m.1 _) (skipSpace_cons rfl _) (hvalue m (by simp) _)
      (skipSpace_cons rfl _) ?_
    rw [skipSpace_newLine, stringText_append, skipSpace_cons rfl]
    exact hmore

theorem length_le_printIndentedItems (level : Nat) (vs : List Value) :
    vs.length ≤ (printIndentedItems level vs).length := by
  induction vs with
  | nil => exact Nat.zero_le _
  | cons v vs ih =>
    simp only [printIndentedItems, List.length_cons, List.length_append]
    omega

theorem length_le_printIndentedMembers (level : Nat) (ms : List (String × Value)) :
    ms.length ≤ (printIndentedMembers level ms).length := by
  induction ms with
  | nil => exact Nat.zero_le _
  | cons m ms ih =>
    simp only [printIndentedMembers, List.length_cons, List.length_append]
    omega

theorem readValue_array {depth : Nat} (hplain : ∀ x ∈ vs, x.IsPlain)
    (helement : ∀ x ∈ vs, ∀ rest,
      readValue depth (printIndented (level + 1) x ++ rest) = .ok (x, rest)) (rest : List Char) :
    readValue (depth + 1) (printIndented level (.array vs) ++ rest) = .ok (.array vs, rest) := by
  cases vs with
  | nil => simp [printIndented, readValue, skipSpace_cons (show isSpace ']' = false from rfl)]
  | cons v vs =>
    obtain ⟨c, text, htext, -, hc⟩ := exists_cons_printIndented (hplain v (by simp)) (level + 1)
    have hbody := skipSpace_printIndented (hplain v (by simp)) (level + 1)
      (printIndentedItems level vs ++ rest)
    have hfuel : vs.length ≤
        (printIndented (level + 1) v ++ (printIndentedItems level vs ++ rest)).length := by
      have hitems := length_le_printIndentedItems level vs
      simp only [List.length_append]
      omega
    have hread := elements_printIndented hfuel hplain helement rest
    rw [← skipSpace_newLine (level + 1)] at hbody
    simp only [htext, List.cons_append] at hbody hread
    simp only [printIndented, htext, List.cons_append, List.append_assoc]
    rw [readValue_bracket (by simp [hbody, hc]), hbody, hread]
    rfl

theorem objectOf_of_nodup (h : (Entries.keys ms).Nodup) : objectOf ms = .object ms := by
  have hfold : ∀ t : Table String Value, (t.putAll ms).entries =
      ms.foldl (fun es m => Entries.put m.1 m.2 es) t.entries := by
    clear h
    induction ms with
    | nil => exact fun _ => rfl
    | cons m ms ih => exact fun t => ih (t.put m.1 m.2)
  have hmembers : ((∅ : Table String Value).putAll ms).entries = ms :=
    Table.entries_putAll_of_new h fun _ _ => Table.not_mem_keys_empty
  rw [hfold] at hmembers
  exact congrArg Value.object hmembers

/-- What reads the value of each member back reads the object back, if it is within one more
brace. -/
theorem readValue_object {depth : Nat} (distinct : (Entries.keys ms).Nodup)
    (hplain : ∀ x ∈ ms, x.2.IsPlain)
    (helement : ∀ x ∈ ms, ∀ rest,
      readValue depth (printIndented (level + 1) x.2 ++ rest) = .ok (x.2, rest))
    (rest : List Char) :
    readValue (depth + 1) (printIndented level (.object ms) ++ rest) = .ok (.object ms, rest) := by
  cases ms with
  | nil => simp [printIndented, readValue, skipSpace_cons (show isSpace '\x7d' = false from rfl)]
  | cons m ms =>
    have hfuel : ms.length ≤ (stringText m.1 ++ ([':', ' '] ++
        (printIndented (level + 1) m.2 ++ (printIndentedMembers level ms ++ rest)))).length := by
      have hitems := length_le_printIndentedMembers level ms
      simp only [List.length_append]
      omega
    have hread := members_printIndented hfuel hplain helement rest
    have hbody : ∀ s, skipSpace (newLine (level + 1) ++ (stringText m.1 ++ s)) =
        '"' :: (m.1.toList.flatMap escapedChar ++ '"' :: s) := by
      intro s
      rw [skipSpace_newLine, stringText_append, skipSpace_cons rfl]
    rw [stringText_append] at hread
    simp only [printIndented, List.cons_append (a := '\x7b'), List.append_assoc]
    rw [readValue_brace (by simp [hbody]), hbody, hread]
    exact congrArg (fun o => Except.ok (o, rest)) (objectOf_of_nodup distinct)

theorem length_le_items (level : Nat) {w : Value} (hv : v ∈ w :: vs) :
    (printIndented (level + 1) v).length ≤
      (printIndented (level + 1) w).length + (printIndentedItems level vs).length := by
  induction vs generalizing w with
  | nil =>
    rw [List.mem_singleton.1 hv]
    exact Nat.le_add_right _ _
  | cons x vs ih =>
    simp only [printIndentedItems, List.length_cons, List.length_append]
    rcases List.mem_cons.1 hv with rfl | hv
    · omega
    · have hrest := ih hv
      omega

theorem length_le_members (level : Nat) {m x : String × Value} (hx : x ∈ m :: ms) :
    (printIndented (level + 1) x.2).length ≤
      (printIndented (level + 1) m.2).length + (printIndentedMembers level ms).length := by
  induction ms generalizing m with
  | nil =>
    rw [List.mem_singleton.1 hx]
    exact Nat.le_add_right _ _
  | cons y ms ih =>
    simp only [printIndentedMembers, List.length_cons, List.length_append]
    rcases List.mem_cons.1 hx with rfl | hx
    · omega
    · have hrest := ih hx
      omega

/-- **A value is read back** from its text at any level, by a reader with fuel for its length. -/
theorem readValue_printIndented (h : v.IsPlain) {level depth : Nat}
    (hdepth : (printIndented level v).length ≤ depth + 1) (rest : List Char) :
    readValue (depth + 1) (printIndented level v ++ rest) = .ok (v, rest) := by
  induction h generalizing level depth rest with
  | null => rfl
  | bool b => cases b <;> rfl
  | string s =>
    rw [printIndented, stringText_append, readValue, readString_escaped]
    rfl
  | @array items plain ih =>
    refine readValue_array plain (fun x hx rest => ?_) rest
    obtain ⟨w, ws, rfl⟩ := List.exists_cons_of_ne_nil (List.ne_nil_of_mem hx)
    have hle := length_le_items level hx
    simp only [printIndented, newLine, List.length_cons, List.length_append] at hdepth
    obtain ⟨depth, rfl⟩ := Nat.exists_eq_add_one_of_ne_zero (n := depth) (by omega)
    exact ih x hx (by omega) rest
  | @object ms distinct plain ih =>
    refine readValue_object distinct plain (fun x hx rest => ?_) rest
    obtain ⟨m, ms, rfl⟩ := List.exists_cons_of_ne_nil (List.ne_nil_of_mem hx)
    have hle := length_le_members level hx
    simp only [printIndented, newLine, List.length_cons, List.length_append] at hdepth
    obtain ⟨depth, rfl⟩ := Nat.exists_eq_add_one_of_ne_zero (n := depth) (by omega)
    exact ih x hx (by omega) rest

theorem isWritten_newLine (level : Nat) : IsWritten (newLine level) :=
  isWritten_cons.2 ⟨by decide, fun c hc => by rw [(List.mem_replicate.1 hc).2]; decide⟩

theorem isWritten_items (h : ∀ v ∈ vs, IsWritten (printIndented (level + 1) v)) :
    IsWritten (printIndentedItems level vs) := by
  induction vs with
  | nil => exact isWritten_append.2 ⟨isWritten_newLine level, by decide⟩
  | cons v vs ih =>
    have hvalue := h v (by simp)
    have hrest := ih fun w hw => h w (.tail _ hw)
    rw [printIndentedItems, isWritten_cons, isWritten_append, isWritten_append]
    exact ⟨by decide, ⟨isWritten_newLine _, hvalue⟩, hrest⟩

theorem isWritten_members (h : ∀ m ∈ ms, IsWritten (printIndented (level + 1) m.2)) :
    IsWritten (printIndentedMembers level ms) := by
  induction ms with
  | nil => exact isWritten_append.2 ⟨isWritten_newLine level, by decide⟩
  | cons m ms ih =>
    have hvalue := h m (by simp)
    have hrest := ih fun w hw => h w (.tail _ hw)
    rw [printIndentedMembers, isWritten_cons]
    simp only [isWritten_append]
    exact ⟨by decide, ⟨⟨⟨isWritten_newLine _, isWritten_stringText _⟩, by decide⟩, hvalue⟩, hrest⟩

/-- **A text is printable ASCII and line feeds**, whatever the strings in it. -/
theorem isWritten_printIndented (h : v.IsPlain) (level : Nat) :
    IsWritten (printIndented level v) := by
  induction h generalizing level with
  | null => rw [printIndented]; decide
  | bool b => cases b <;> rw [printIndented] <;> decide
  | string s => rw [printIndented]; exact isWritten_stringText s
  | @array items plain ih =>
    cases items with
    | nil => rw [printIndented]; decide
    | cons v vs =>
      have hvalue := ih v (by simp) (level + 1)
      have hrest := isWritten_items fun w hw => ih w (.tail _ hw) (level + 1)
      rw [printIndented, isWritten_cons, isWritten_append, isWritten_append]
      exact ⟨by decide, ⟨isWritten_newLine _, hvalue⟩, hrest⟩
  | @object ms distinct plain ih =>
    cases ms with
    | nil => rw [printIndented]; decide
    | cons m ms =>
      have hvalue := ih m (by simp) (level + 1)
      have hrest := isWritten_members fun w hw => ih w (.tail _ hw) (level + 1)
      rw [printIndented, isWritten_cons]
      simp only [isWritten_append]
      exact ⟨by decide, ⟨⟨⟨isWritten_newLine _, isWritten_stringText _⟩, by decide⟩, hvalue⟩, hrest⟩

/-- **The text of a value is read as the value**, be it followed by white space. -/
theorem readText_printIndented (h : v.IsPlain) (space : List Char)
    (hspace : ∀ c ∈ space, isSpace c = true) : readText (printIndented 0 v ++ space) = .ok v := by
  have hfuel : (printIndented 0 v).length ≤ (printIndented 0 v ++ space).length + 1 := by
    rw [List.length_append]
    omega
  have hread := readValue_printIndented h hfuel space
  have hend : skipSpace space = [] := by
    have hnil := skipSpace_append hspace []
    rwa [List.append_nil] at hnil
  obtain ⟨c, text, htext, hc, -⟩ := exists_cons_printIndented h 0
  have hmark : c ≠ '\uFEFF' := by
    rintro rfl
    exact absurd (isWritten_cons.1 (htext ▸ isWritten_printIndented h 0)).1 (by decide)
  unfold readText
  split
  next heq =>
    rw [htext] at heq
    exact absurd (List.cons.inj heq).1 hmark
  next =>
    rw [skipSpace_printIndented h, hread]
    simp only [bind, Except.bind, hend]
    rfl

/-- **What is written over several lines is read as it was.** -/
theorem read_pretty (h : v.IsPlain) : read v.pretty = .ok v := by
  have hread := readText_printIndented h [] (by simp)
  rw [List.append_nil] at hread
  rw [read, Value.pretty, String.toList_ofList, hread]
  rfl

theorem read_pretty_newline (h : v.IsPlain) : read (v.pretty ++ "\n") = .ok v := by
  have hread := readText_printIndented h ['\n'] (List.forall_mem_singleton.2 rfl)
  have htext : (v.pretty ++ "\n").toList = printIndented 0 v ++ ['\n'] := by
    rw [String.toList_append, Value.pretty, String.toList_ofList]
    rfl
  rw [read, htext, hread]
  rfl

theorem isWritten_pretty_newline (h : v.IsPlain) : IsWritten (v.pretty ++ "\n").toList := by
  rw [String.toList_append, Value.pretty, String.toList_ofList]
  exact isWritten_append.2 ⟨isWritten_printIndented h 0, by decide⟩

end Fingerprint.Json
