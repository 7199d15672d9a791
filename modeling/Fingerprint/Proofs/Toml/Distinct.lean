/-
What a document that has been read is like: no table in it has a member twice
(`distinct_of_read`), so a path of names leads to one value at most
(`Holds.unique`). Every change of a table keeps that (`distinct_update?`), and
with it every statement does. On the way each reader leaves an end of its text,
so a document refused for too many digits holds them (`holdsLongRun_of_read`).
-/
import Fingerprint.Proofs.Entries
import Fingerprint.Proofs.Toml.Scanning
import Fingerprint.Toml.Document

namespace Fingerprint.Toml

open Text Entries

/-- Whether no table within a value has a member twice. -/
inductive Distinct : Value → Prop where
  | scalar {v : Value} (h : v.isNest = false) : Distinct v
  | array {items : List Value} (h : ∀ v ∈ items, Distinct v) : Distinct (.array items)
  | table {ms : Members} (hn : (keys ms).Nodup) (h : ∀ m ∈ ms, Distinct m.2) : Distinct (.table ms)

variable {text s rest : List Char} {ms ms' : Members} {items : List Value} {v : Value}

namespace Distinct

theorem of_mem_array (h : Distinct (.array items)) (hv : v ∈ items) : Distinct v := by
  cases h with
  | scalar h => cases h
  | array h => exact h v hv

theorem nodup (h : Distinct (.table ms)) : (keys ms).Nodup := by
  cases h with
  | scalar h => cases h
  | table hn h => exact hn

theorem of_mem (h : Distinct (.table ms)) {m : String × Value} (hm : m ∈ ms) : Distinct m.2 := by
  cases h with
  | scalar h => cases h
  | table hn h => exact h m hm

theorem empty : Distinct (.table []) := .table List.nodup_nil nofun

theorem get? (h : Distinct (.table ms)) {name : String} (hv : Entries.get? name ms = some v) :
    Distinct v :=
  h.of_mem ((get?_eq_some_iff h.nodup).1 hv)

theorem put (h : Distinct (.table ms)) (hv : Distinct v) (name : String) :
    Distinct (.table (Entries.put name v ms)) := by
  refine .table (nodup_keys_put h.nodup) fun m hm => ?_
  rcases eq_or_mem_of_mem_put hm with rfl | hold
  · exact hv
  · exact h.of_mem hold

theorem of_insert {t t' : Members} {name : String} (h : Distinct (.table t)) (hv : Distinct v)
    (ht : (if (Entries.get? name t).isSome then none else some (Entries.put name v t)) = some t') :
    Distinct (.table t') := by
  split at ht
  · cases ht
  · cases ht
    exact h.put hv name

end Distinct

/-- **A change deep within a table keeps members distinct** if it does so where it is made. -/
theorem distinct_update? {intoArrays : Bool} {f : Members → Option Members}
    (hf : ∀ t t', Distinct (.table t) → f t = some t' → Distinct (.table t')) {key : Key}
    (h : Distinct (.table ms)) (hu : update? intoArrays f key ms = some ms') :
    Distinct (.table ms') := by
  induction key generalizing ms ms' with
  | nil => exact hf ms ms' h hu
  | cons name key ih =>
    unfold update? at hu
    split at hu
    next =>
      obtain ⟨t, ht, rfl⟩ := Option.map_eq_some_iff.1 hu
      exact h.put (ih .empty ht) name
    next t hget =>
      obtain ⟨t', ht, rfl⟩ := Option.map_eq_some_iff.1 hu
      exact h.put (ih (h.get? hget) ht) name
    next items hget =>
      split at hu
      next t hlast =>
        obtain ⟨t', ht, rfl⟩ := Option.map_eq_some_iff.1 hu
        have hitems := h.get? hget
        have htable := ih (hitems.of_mem_array (List.mem_of_getLast? hlast)) ht
        refine h.put (.array fun v hv => ?_) name
        rcases List.mem_append.1 hv with hfront | hback
        · exact hitems.of_mem_array (List.dropLast_subset _ hfront)
        · rw [List.mem_singleton.1 hback]
          exact htable
      next => cases hu
    next => cases hu

/-! ## Paths -/

/-- Whether a path of names leads from a table to a value. -/
inductive Holds : Members → Key → Value → Prop where
  | member {ms : Members} {name : String} {v : Value} (h : (name, v) ∈ ms) : Holds ms [name] v
  | deeper {ms t : Members} {name : String} {path : Key} {v : Value} (h : (name, .table t) ∈ ms)
      (hpath : Holds t path v) : Holds ms (name :: path) v

variable {name within : String} {path : Key} {w : Value}

theorem Holds.not_nil : ¬ Holds ms [] v := nofun

theorem Holds.mem (h : Holds ms [name] v) : (name, v) ∈ ms := by
  rcases h with h | ⟨-, hpath⟩
  · exact h
  · exact absurd hpath Holds.not_nil

theorem Holds.deeper_cases (h : Holds ms [within, name] v) :
    ∃ t, (within, .table t) ∈ ms ∧ (name, v) ∈ t := by
  rcases h with _ | ⟨h, hpath⟩
  exact ⟨_, h, hpath.mem⟩

theorem holds_member_iff (hd : Distinct (.table ms)) :
    Holds ms [name] v ↔ get? name ms = some v := by
  rw [get?_eq_some_iff hd.nodup]
  exact ⟨Holds.mem, .member⟩

theorem holds_deeper_iff (hd : Distinct (.table ms)) :
    Holds ms [within, name] v ↔
      ∃ t, get? within ms = some (.table t) ∧ get? name t = some v := by
  constructor
  · intro h
    obtain ⟨t, ht, hv⟩ := h.deeper_cases
    exact ⟨t, (get?_eq_some_iff hd.nodup).2 ht, (get?_eq_some_iff (hd.of_mem ht).nodup).2 hv⟩
  · rintro ⟨t, hget, hv⟩
    exact .deeper ((get?_eq_some_iff hd.nodup).1 hget) ((holds_member_iff (hd.get? hget)).2 hv)

theorem Holds.unique (h : Holds ms path v) (hd : Distinct (.table ms)) (h' : Holds ms path w) :
    v = w := by
  induction h with
  | member h =>
    exact Option.some.inj (((get?_eq_some_iff hd.nodup).2 h).symm.trans
      ((get?_eq_some_iff hd.nodup).2 h'.mem))
  | deeper h hpath ih =>
    rcases h' with h' | ⟨h', hpath'⟩
    · exact absurd hpath Holds.not_nil
    · have heq := ((get?_eq_some_iff hd.nodup).2 h).symm.trans ((get?_eq_some_iff hd.nodup).2 h')
      cases heq
      exact ih (hd.of_mem h) hpath'

/-! ## Values -/

/-- Whether what is read has distinct members, and an end of the text is left. -/
def LeavesValue (text : List Char) (r : Value × List Char) : Prop := r.2 <:+ text ∧ Distinct r.1

theorem meets_skipTrivia (inComment : Bool) (h : s <:+ text) :
    Meets text (· <:+ text) (skipTrivia inComment s) := by
  fun_induction skipTrivia inComment s with
  | case1 => exact h
  | case2 rest ih => exact ih (suffix_of_cons h)
  | case3 => trivial
  | case4 c rest _ _ ih => exact ih (suffix_of_cons h)
  | case5 c rest _ ih => exact ih (suffix_of_cons h)
  | case6 rest _ ih => exact ih (suffix_of_cons h)
  | case7 => exact h

section

variable {value : List Char → Except Fault (Value × List Char)}

theorem meets_readPair (hvalue : ∀ s, s <:+ text → Meets text (LeavesValue text) (value s))
    (h : s <:+ text) : Meets text (fun r => LeavesValue text r.2) (readPair value s) := by
  refine (meets_readKey h).bind fun r hr => ?_
  obtain ⟨key, left⟩ := r
  simp only
  split
  next rest =>
    exact (hvalue _ ((skipSpace_suffix rest).trans (suffix_of_cons hr))).bind fun r hr => hr
  next => trivial

theorem meets_arrayItems (hvalue : ∀ s, s <:+ text → Meets text (LeavesValue text) (value s))
    (fuel : Nat) (h : s <:+ text) :
    Meets text (fun r => r.2 <:+ text ∧ ∀ v ∈ r.1, Distinct v) (arrayItems value fuel s) := by
  induction fuel generalizing s with
  | zero => trivial
  | succ fuel ih =>
    refine (hvalue s h).bind fun r hr => ?_
    refine (meets_skipTrivia false hr.1).bind fun left hleft => ?_
    split
    next rest => exact ⟨suffix_of_cons hleft, List.forall_mem_singleton.2 hr.2⟩
    next rest =>
      refine (meets_skipTrivia false (suffix_of_cons hleft)).bind fun more hmore => ?_
      split
      next rest => exact ⟨suffix_of_cons hmore, List.forall_mem_singleton.2 hr.2⟩
      next => exact (ih hmore).bind fun q hq => ⟨hq.1, List.forall_mem_cons.2 ⟨hr.2, hq.2⟩⟩
    next => trivial

theorem meets_addInline {frozen : List Key} {key : Key} {here : List Char}
    (h : Distinct (.table ms)) (hv : Distinct v) :
    Meets text (fun ms => Distinct (.table ms)) (addInline frozen ms key v here) := by
  unfold addInline
  simp only
  split
  next => trivial
  next =>
    split
    next => trivial
    next =>
      split
      next => trivial
      next ms' hu => exact distinct_update? (fun t t' ht => ht.of_insert hv) h hu

theorem meets_inlinePairs (hvalue : ∀ s, s <:+ text → Meets text (LeavesValue text) (value s))
    (fuel : Nat) (frozen : List Key) (hms : Distinct (.table ms)) (h : s <:+ text) :
    Meets text (fun r => r.2 <:+ text ∧ Distinct (.table r.1))
      (inlinePairs value fuel frozen ms s) := by
  induction fuel generalizing frozen ms s with
  | zero => trivial
  | succ fuel ih =>
    refine (meets_readPair hvalue h).bind fun r hr => ?_
    obtain ⟨key, v, left⟩ := r
    refine (meets_addInline hms hr.2).bind fun ms' hms' => ?_
    have hskip := (skipSpace_suffix left).trans hr.1
    split
    next rest hclose =>
      rw [hclose] at hskip
      exact ⟨suffix_of_cons hskip, hms'⟩
    next rest hcomma =>
      rw [hcomma] at hskip
      exact ih _ hms' ((skipSpace_suffix rest).trans (suffix_of_cons hskip))
    next => trivial

end

theorem meets_readValue (depth : Nat) (h : s <:+ text) :
    Meets text (LeavesValue text) (readValue depth s) := by
  induction depth generalizing s with
  | zero => trivial
  | succ depth ih =>
    have hvalue : ∀ s, s <:+ text → Meets text (LeavesValue text) (readValue depth s) :=
      fun s hs => ih hs
    unfold readValue
    split
    next rest =>
      refine (meets_skipTrivia false (suffix_of_cons h)).bind fun body hbody => ?_
      split
      next rest => exact ⟨suffix_of_cons hbody, .array nofun⟩
      next => exact (meets_arrayItems hvalue _ hbody).map fun r hr => ⟨hr.1, .array hr.2⟩
    next rest =>
      have hskip := (skipSpace_suffix rest).trans (suffix_of_cons h)
      split
      next tail hclose =>
        rw [hclose] at hskip
        exact ⟨suffix_of_cons hskip, .empty⟩
      next => exact (meets_inlinePairs hvalue _ _ .empty hskip).map fun r hr => hr
    next => exact (meets_readScalar h).imp fun r hr => ⟨hr.1, .scalar hr.2⟩

/-! ## Statements -/

/-- Whether a document that is being read has distinct members, and an end of the text is left. -/
def LeavesBuilder (text : List Char) (r : Builder × List Char) : Prop :=
  r.2 <:+ text ∧ Distinct (.table r.1.root)

variable {b : Builder} {key : Key} {here : List Char}

theorem meets_addPair (hb : Distinct (.table b.root)) (hv : Distinct v) :
    Meets text (fun b => Distinct (.table b.root)) (b.addPair key v here) := by
  unfold Builder.addPair
  simp only
  split
  next => trivial
  next =>
    split
    next => trivial
    next =>
      split
      next => trivial
      next root hu => exact distinct_update? (fun t t' ht => ht.of_insert hv) hb hu

theorem meets_openTable (hb : Distinct (.table b.root)) :
    Meets text (fun b => Distinct (.table b.root)) (b.openTable key here) := by
  unfold Builder.openTable
  split
  next => trivial
  next =>
    split
    next => trivial
    next root hu =>
      refine distinct_update? (fun t t' ht he => ?_) hb hu
      cases he
      exact ht

theorem distinct_appendTable {name : String} {t t' : Members} (h : Distinct (.table t))
    (ht : Builder.appendTable name t = some t') : Distinct (.table t') := by
  unfold Builder.appendTable at ht
  split at ht
  next =>
    cases ht
    exact h.put (.array (List.forall_mem_singleton.2 .empty)) name
  next items hget =>
    cases ht
    refine h.put (.array fun v hv => ?_) name
    rcases List.mem_append.1 hv with hold | hnew
    · exact (h.get? hget).of_mem_array hold
    · rw [List.mem_singleton.1 hnew]
      exact .empty
  next => cases ht

theorem meets_openArrayTable (hb : Distinct (.table b.root)) :
    Meets text (fun b => Distinct (.table b.root)) (b.openArrayTable key here) := by
  unfold Builder.openArrayTable
  split
  next => trivial
  next =>
    split
    next => trivial
    next root hu => exact distinct_update? (fun t t' => distinct_appendTable) hb hu

theorem meets_skipComment (h : s <:+ text) : Meets text (· <:+ text) (skipComment s) := by
  unfold skipComment
  split
  next rest =>
    exact (meets_refuseWhere _ _ _).bind fun _ _ =>
      (List.dropWhile_suffix _).trans (suffix_of_cons h)
  next => exact h

theorem meets_readHeader (hb : Distinct (.table b.root)) (h : s <:+ text) :
    Meets text (LeavesBuilder text) (readHeader b s) := by
  unfold readHeader
  simp only
  split
  next rest =>
    refine (meets_readKey ((skipSpace_suffix rest).trans
      (suffix_of_append ['[', '['] h))).bind fun r hr => ?_
    refine (meets_openArrayTable (b := b.settle) hb).bind fun b' hb' => ?_
    obtain ⟨key, left⟩ := r
    simp only
    split
    next rest => exact ⟨suffix_of_append [']', ']'] hr, hb'⟩
    next => trivial
  next =>
    refine (meets_readKey ((skipSpace_suffix _).trans
      ((List.drop_suffix 1 s).trans h))).bind fun r hr => ?_
    refine (meets_openTable (b := b.settle) hb).bind fun b' hb' => ?_
    obtain ⟨key, left⟩ := r
    simp only
    split
    next rest => exact ⟨suffix_of_cons hr, hb'⟩
    next => trivial

/-- **A statement keeps members distinct.** -/
theorem meets_readStatement (c : Char) (hb : Distinct (.table b.root)) (h : s <:+ text) :
    Meets text (LeavesBuilder text) (readStatement b c s) := by
  unfold readStatement
  split
  next =>
    refine (meets_readPair (fun _ hs => meets_readValue _ hs) h).bind fun r hr => ?_
    obtain ⟨key, v, left⟩ := r
    exact (meets_addPair hb hr.2).bind fun b' hb' => ⟨(skipSpace_suffix left).trans hr.1, hb'⟩
  next =>
    split
    next => exact (meets_readHeader hb h).bind fun r hr => ⟨(skipSpace_suffix r.2).trans hr.1, hr.2⟩
    next =>
      split
      next => exact ⟨h, hb⟩
      next => trivial

theorem meets_readLines (fuel : Nat) (hb : Distinct (.table b.root)) (h : s <:+ text) :
    Meets text (fun b => Distinct (.table b.root)) (readLines fuel b s) := by
  induction fuel generalizing b s with
  | zero => exact hb
  | succ fuel ih =>
    have hskip := (skipSpace_suffix s).trans h
    unfold readLines
    split
    next => exact hb
    next rest hline =>
      rw [hline] at hskip
      exact ih hb (suffix_of_cons hskip)
    next c rest _ hline =>
      rw [hline] at hskip
      refine (meets_readStatement c hb hskip).bind fun r hr => ?_
      refine (meets_skipComment hr.1).bind fun left hleft => ?_
      split
      next => exact hr.2
      next rest => exact ih hr.2 (suffix_of_cons hleft)
      next => trivial

/-! ## Documents -/

theorem prefix_of_foldCrLf {run cs : List Char} (hrun : '\n' ∉ run) (h : run <+: foldCrLf cs) :
    run <+: cs := by
  fun_induction foldCrLf cs generalizing run with
  | case1 => exact h
  | case2 rest ih =>
    rcases List.prefix_cons_iff.1 h with rfl | ⟨run, rfl, -⟩
    · exact List.nil_prefix
    · exact absurd List.mem_cons_self hrun
  | case3 c rest _ ih =>
    rcases List.prefix_cons_iff.1 h with rfl | ⟨run, rfl, htail⟩
    · exact List.nil_prefix
    · exact List.cons_prefix_cons.2 ⟨rfl, ih (fun hm => hrun (List.mem_cons_of_mem c hm)) htail⟩

/-- What stands on one line stands there with every `\r\n` in place too. -/
theorem infix_of_foldCrLf {run cs : List Char} (hrun : '\n' ∉ run) (h : run <:+: foldCrLf cs) :
    run <:+: cs := by
  fun_induction foldCrLf cs with
  | case1 => exact h
  | case2 rest ih =>
    rcases List.infix_cons_iff.1 h with hstart | htail
    · rcases List.prefix_cons_iff.1 hstart with rfl | ⟨run, rfl, -⟩
      · exact List.nil_infix
      · exact absurd List.mem_cons_self hrun
    · exact (ih htail).trans (List.suffix_append ['\r', '\n'] rest).isInfix
  | case3 c rest hne ih =>
    rcases List.infix_cons_iff.1 h with hstart | htail
    · rw [← foldCrLf.eq_3 c rest hne] at hstart
      exact (prefix_of_foldCrLf hrun hstart).isInfix
    · exact (ih htail).trans (List.suffix_cons c rest).isInfix

theorem HoldsLongRun.of_foldCrLf {cs : List Char} {n : Nat} (h : HoldsLongRun (foldCrLf cs) n) :
    HoldsLongRun cs n := by
  obtain ⟨run, hrun, hlen, hlong, hdigits⟩ := h
  refine ⟨run, infix_of_foldCrLf (fun hm => ?_) hrun, hlen, hlong, hdigits⟩
  exact absurd (hdigits _ hm) (by decide)

/-- **No table of a document has a member twice.** -/
theorem distinct_of_read {text : String} {doc : Members} (h : read text = .ok doc) :
    Distinct (.table doc) := by
  have hlines := meets_readLines (b := {}) ((foldCrLf text.toList).length + 1) .empty
    (List.suffix_rfl (l := foldCrLf text.toList))
  unfold read at h
  simp only at h
  split at h
  next b hb =>
    rw [hb] at hlines
    cases h
    exact hlines
  next => cases h

/-- **A document is refused for too many digits only if they stand in it** in a row. -/
theorem holdsLongRun_of_read {text : String} {n : Nat}
    (h : read text = .error (.tooManyDigits n)) : HoldsLongRun text.toList n := by
  have hlines := meets_readLines (b := {}) ((foldCrLf text.toList).length + 1) .empty
    (List.suffix_rfl (l := foldCrLf text.toList))
  unfold read at h
  simp only at h
  split at h
  next => cases h
  next fault hfault =>
    rw [hfault] at hlines
    cases fault with
    | violated cause rest => cases h
    | tooManyDigits m =>
      cases h
      exact HoldsLongRun.of_foldCrLf hlines

end Fingerprint.Toml
