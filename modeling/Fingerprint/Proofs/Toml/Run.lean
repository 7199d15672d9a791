/-
A document read line by line. `Leads b line b'` says that reading goes over one
line and makes of one builder another, whatever follows; a `Run` is a sequence
of such lines. Each kind of line has its lemma: an empty line, a comment, a
pair and a header. A section is then read as its members put in at once
(`run_section`), and a text of sections as the document that they assemble
(`run_sections`, `read_of_run`). A line with an integer of too many digits is
none of these lines: reading stops at it (`read_digitLine`).
-/
import Mathlib.Data.List.Forall2
import Fingerprint.Proofs.Toml.Assembly
import Fingerprint.Proofs.Toml.Scalar
import Fingerprint.Toml.Document

namespace Fingerprint.Toml

open Text Entries

/-- Reading goes over one line, which holds no control character. -/
structure Leads (b : Builder) (line : List Char) (b' : Builder) : Prop where
  read : ∀ (fuel : Nat) (rest : List Char),
    readLines (fuel + 1) b (line ++ '\n' :: rest) = readLines fuel b' rest
  plain : IsPlain line

/-- Reading goes over lines, one after the other. -/
inductive Run : Builder → List (List Char) → Builder → Prop
  | nil {b} : Run b [] b
  | cons {b line b' ls b''} : Leads b line b' → Run b' ls b'' → Run b (line :: ls) b''

theorem Run.append {b b' b'' : Builder} {ls ls' : List (List Char)} (h : Run b ls b')
    (h' : Run b' ls' b'') : Run b (ls ++ ls') b'' := by
  induction h with
  | nil => exact h'
  | cons hl _ ih => exact .cons hl (ih h')

theorem Run.plain {b b' : Builder} {ls : List (List Char)} (h : Run b ls b') :
    ∀ l ∈ ls, IsPlain l := by
  induction h with
  | nil => simp
  | cons hl _ ih =>
    intro l hm
    rcases List.mem_cons.1 hm with rfl | hm
    · exact hl.plain
    · exact ih l hm

theorem readLines_run {b b' : Builder} {ls : List (List Char)} (h : Run b ls b') (fuel : Nat) :
    readLines (ls.length + fuel) b (ls.flatMap (· ++ ['\n'])) = .ok b' := by
  induction h with
  | nil => cases fuel <;> rfl
  | @cons b line b' ls b'' hl _ ih =>
    rw [List.length_cons, Nat.succ_add, List.flatMap_cons, List.append_assoc]
    exact (hl.read _ _).trans ih

theorem foldCrLf_eq_self {s : List Char} (h : '\r' ∉ s) : foldCrLf s = s := by
  fun_induction foldCrLf s with
  | case1 => rfl
  | case2 rest ih => exact absurd (List.mem_cons_self ..) h
  | case3 c rest _ ih => rw [ih fun hm => h (List.mem_cons_of_mem _ hm)]

theorem length_le_flatMap_lines (ls : List (List Char)) :
    ls.length ≤ (ls.flatMap (· ++ ['\n'])).length := by
  induction ls with
  | nil => exact Nat.le_refl 0
  | cons l ls ih =>
    simp only [List.flatMap_cons, List.length_append, List.length_cons, List.length_nil]
    omega

/-- **A text whose lines make a run is the document at the end of the run.** -/
theorem read_of_run {ls : List (List Char)} {b : Builder} (h : Run {} ls b) :
    read (String.ofList (ls.flatMap (· ++ ['\n']))) = .ok b.root := by
  have hcr : '\r' ∉ ls.flatMap (· ++ ['\n']) := by
    intro hm
    simp only [List.mem_flatMap, List.mem_append, List.mem_singleton] at hm
    obtain ⟨l, hl, hx | hx⟩ := hm
    · exact absurd (h.plain l hl _ hx) (by decide)
    · exact absurd hx (by decide)
  have hlen := length_le_flatMap_lines ls
  obtain ⟨k, hk⟩ : ∃ k, (ls.flatMap (· ++ ['\n'])).length + 1 = ls.length + k :=
    ⟨(ls.flatMap (· ++ ['\n'])).length + 1 - ls.length, by omega⟩
  rw [read]
  simp only [String.toList_ofList, foldCrLf_eq_self hcr, hk, readLines_run h k]

theorem ne_newline_of_plain {s : List Char} (h : IsPlain s) : ∀ x ∈ s, (x != '\n') = true := by
  intro x hx
  have hc := h x hx
  rw [bne_iff_ne]
  rintro rfl
  exact absurd hc (by decide)

theorem refuseWhere_plain {s : List Char} (h : IsPlain s) (after : Nat) :
    refuseWhere isIllegal s after = .ok () := by
  have hfirst : firstWhere? isIllegal s = none := by
    induction s with
    | nil => rfl
    | cons c s ih =>
      rw [firstWhere?, isIllegal, h c (by simp)]
      exact ih fun x hx => h x (by simp [hx])
  rw [refuseWhere, hfirst]

theorem skipComment_plain {s : List Char} (h : IsPlain s) (rest : List Char) :
    skipComment ('#' :: (s ++ '\n' :: rest)) = .ok ('\n' :: rest) := by
  have htake : (s ++ '\n' :: rest).takeWhile (· != '\n') = s := by
    rw [List.takeWhile_append_of_pos (ne_newline_of_plain h)]
    simp
  have hdrop : (s ++ '\n' :: rest).dropWhile (· != '\n') = '\n' :: rest := by
    rw [List.dropWhile_append_of_pos (ne_newline_of_plain h)]
    simp
  simp only [skipComment, htake, hdrop, refuseWhere_plain h]
  rfl

/-- What may stand after a value: nothing, or a blank and a comment. -/
inductive IsTail : List Char → Prop
  | nothing : IsTail []
  | comment {s} : IsPlain s → IsTail (' ' :: '#' :: s)

theorem IsTail.plain {tail : List Char} (h : IsTail tail) : IsPlain tail := by
  cases h with
  | nothing => exact .nil
  | comment hs => exact .cons rfl (.cons rfl hs)

/-- A value ends where its tail begins, and the tail is skipped up to the end of the line. -/
theorem IsTail.skip {tail : List Char} (h : IsTail tail) (rest : List Char) :
    ∃ c more, tail ++ '\n' :: rest = c :: more ∧ IsStop c ∧
      skipComment (skipSpace (c :: more)) = .ok ('\n' :: rest) := by
  cases h with
  | nothing => exact ⟨'\n', rest, rfl, .inr rfl, rfl⟩
  | comment hs => exact ⟨' ', _, rfl, .inl rfl, skipComment_plain hs rest⟩

theorem leads_empty (b : Builder) : Leads b [] b := ⟨fun _ _ => rfl, .nil⟩

/-- A statement and what ends its line are taken over as one line. -/
theorem readLines_statement {b b' : Builder} {c : Char} {s t rest : List Char}
    (hs : isSpace c = false) (hn : c ≠ '\n') (hr : readStatement b c (c :: s) = .ok (b', t))
    (ht : skipComment t = .ok ('\n' :: rest)) (fuel : Nat) :
    readLines (fuel + 1) b (c :: s) = readLines fuel b' rest := by
  rw [readLines, skipSpace_cons hs]
  split
  next he => cases he
  next he => exact absurd (List.cons.inj he).1 hn
  next he =>
    cases he
    simp only [hr, ht, bind, Except.bind]

theorem leads_comment {s : List Char} (h : IsPlain s) (b : Builder) :
    Leads b ('#' :: s) b where
  read fuel rest := by
    have hr : readStatement b '#' ('#' :: (s ++ '\n' :: rest)) =
        .ok (b, '#' :: (s ++ '\n' :: rest)) := rfl
    exact readLines_statement (by decide) (by decide) hr (skipComment_plain h rest) fuel
  plain := .cons rfl h

/-- A document while sections are read: nothing is closed, and no dotted key has made a table. -/
def between (root : Members) (header : Key) (declared : List Key) : Builder :=
  { root, header, declared }

/-- A line that gives a member of a table its value, perhaps with a comment behind it. -/
inductive PairLine : List Char → String × Value → Prop
  | mk {name : String} {text tail : List Char} {v : Value} : ¬ IsBareLine name.toList →
      Denotes text v → IsTail tail →
      PairLine (formatKey name.toList ++ " = ".toList ++ text ++ tail) (name, v)

theorem addPair_between {root root' : Members} {header : Key} {p : String × Value}
    (hv : p.2.isNest = false) (h : update? true (insertNew? p) header root = some root')
    (declared : List Key) (here : List Char) :
    (between root header declared).addPair [p.1] p.2 here = .ok (between root' header declared) := by
  have habove : header ++ [p.1].dropLast = header := List.append_nil _
  have hmade : (Builder.beginnings [p.1]).map (header ++ ·) = [] := rfl
  have hinsert : (fun t : Members => if (get? ([p.1].getLastD "") t).isSome then none
      else some (put ([p.1].getLastD "") p.2 t)) = insertNew? p := rfl
  simp only [Builder.addPair, between, hmade, List.find?_nil, habove, isFrozen, List.any_nil,
    hinsert, h, hv]
  rfl

theorem readPair_formatKey {name : String} (hn : ¬ IsBareLine name.toList)
    (value : List Char → Except Fault (Value × List Char)) (s : List Char) :
    readPair value (formatKey name.toList ++ ' ' :: '=' :: ' ' :: s) =
      (value (skipSpace s)).map fun r => ([name], r.1, r.2) := by
  have hspace : skipSpace (' ' :: s) = skipSpace s := rfl
  have hkey := readKey_formatKey hn (' ' :: s)
  rw [String.ofList_toList] at hkey
  simp only [readPair, hkey, bind, Except.bind, hspace]
  cases value (skipSpace s) <;> rfl

theorem readPair_pairLine {name : String} (hn : ¬ IsBareLine name.toList) {text : List Char}
    {v : Value} (ht : Denotes text v) {c : Char} (hc : IsStop c) (depth : Nat) (more : List Char) :
    readPair (readValue (depth + 1))
      (formatKey name.toList ++ ' ' :: '=' :: ' ' :: (text ++ c :: more)) =
        .ok ([name], v, c :: more) := by
  rw [readPair_formatKey hn, ht.start, ht.read hc]
  rfl

theorem leads_pairLine {line : List Char} {p : String × Value} (hp : PairLine line p)
    {root root' : Members} {header : Key}
    (h : update? true (insertNew? p) header root = some root') (declared : List Key) :
    Leads (between root header declared) line (between root' header declared) := by
  obtain ⟨hn, ht, htail⟩ := hp
  rename_i name text tail v
  constructor
  case read =>
    intro fuel rest
    obtain ⟨c, more, hmore, hc, hskip⟩ := htail.skip rest
    obtain ⟨d, key, hkey, hstart, hspace⟩ := formatKey_head hn
    have hd : d ≠ '\n' := by rintro rfl; exact absurd hstart (by decide)
    have hpair := readPair_pairLine hn ht hc
      (formatKey name.toList ++ ' ' :: '=' :: ' ' :: (text ++ c :: more)).length more
    have hadd := addPair_between (p := (name, v)) ht.scalar h declared (c :: more)
    have hline : formatKey name.toList ++ " = ".toList ++ text ++ tail ++ '\n' :: rest =
        formatKey name.toList ++ ' ' :: '=' :: ' ' :: (text ++ c :: more) := by
      rw [← hmore]
      simp
    rw [hline]
    rw [hkey] at hpair ⊢
    refine readLines_statement hspace hd ?_ hskip fuel
    simp only [List.cons_append] at hpair
    simp only [readStatement, hstart, if_true, bind, Except.bind, List.append_eq, hpair, hadd]
    rfl
  case plain =>
    have hassign : IsPlain " = ".toList := by decide
    exact (((isPlain_formatKey hn).append hassign).append ht.plain).append htail.plain

/-- A line that gives a member the integer of some digits. -/
def digitLine (name : String) (ds : List Char) : List Char :=
  formatKey name.toList ++ ' ' :: '=' :: ' ' :: (ds ++ ['\n'])

theorem not_mem_digitLine {name : String} (hn : ¬ IsBareLine name.toList) {ds : List Char}
    (hd : ∀ x ∈ ds, x.isDigit = true) : '\r' ∉ digitLine name ds := by
  have hdigits : IsPlain ds := fun x hx =>
    isControl_of_isBareChar (isBareChar_of_isDigit (hd x hx))
  have hplain : IsPlain (formatKey name.toList ++ " = ".toList ++ ds) :=
    ((isPlain_formatKey hn).append (by decide)).append hdigits
  have hline : digitLine name ds = formatKey name.toList ++ " = ".toList ++ ds ++ ['\n'] := by
    simp [digitLine]
  intro hm
  rw [hline] at hm
  rcases List.mem_append.1 hm with hx | hx
  · exact absurd (hplain _ hx) (by decide)
  · exact absurd hx (by decide)

/-- **A document that begins with an integer of too many digits is not read.** -/
theorem read_digitLine {name : String} (hn : ¬ IsBareLine name.toList) {d : Char} {ds : List Char}
    (hz : d ≠ '0') (hd : ∀ x ∈ d :: ds, x.isDigit = true)
    (hlong : Decimal.digitLimit < (d :: ds).length) :
    read (String.ofList (digitLine name (d :: ds))) = .error (.tooManyDigits (d :: ds).length) := by
  have hpair : ∀ depth, readPair (readValue (depth + 1)) (digitLine name (d :: ds)) =
      .error (.tooManyDigits (d :: ds).length) := by
    intro depth
    have hspace : skipSpace (d :: ds ++ ['\n']) = d :: ds ++ ['\n'] :=
      skipSpace_cons (isSpace_of_isBareChar (isBareChar_of_isDigit (hd d (by simp)))) _
    rw [digitLine, readPair_formatKey hn, hspace, readValue_longDigits hz hd hlong (.inr rfl)]
    rfl
  have hstatement : ∃ c s, digitLine name (d :: ds) = c :: s ∧ isKeyStart c = true ∧
      isSpace c = false := by
    obtain ⟨c, key, hkey, hstart, hspace⟩ := formatKey_head hn
    exact ⟨c, _, by rw [digitLine, hkey, List.cons_append], hstart, hspace⟩
  obtain ⟨c, s, hs, hstart, hspace⟩ := hstatement
  have hc : c ≠ '\n' := by
    rintro rfl
    exact absurd hstart (by decide)
  have hlines : readLines ((digitLine name (d :: ds)).length + 1) {} (digitLine name (d :: ds)) =
      .error (.tooManyDigits (d :: ds).length) := by
    have hread := hpair (digitLine name (d :: ds)).length
    rw [hs] at hread ⊢
    rw [readLines, skipSpace_cons hspace]
    split
    next he => cases he
    next he => exact absurd (List.cons.inj he).1 hc
    next he =>
      cases he
      simp only [readStatement, hstart, if_true, hread, bind, Except.bind]
  rw [read]
  simp only [String.toList_ofList, foldCrLf_eq_self (not_mem_digitLine hn hd), hlines, Fault.locate]

/-- Pairs below a header go into its table. The table is there from the start (`hs`), which each
pair keeps so. -/
theorem run_pairLines {ls : List (List Char)} {ps : Members} (hp : List.Forall₂ PairLine ls ps)
    {root root' : Members} {header : Key} (hs : update? true some header root = some root)
    (h : update? true (insertAll? ps) header root = some root') (declared : List Key) :
    Run (between root header declared) ls (between root' header declared) := by
  induction hp generalizing root with
  | nil =>
    have hsame : root = root' := Option.some.inj (hs.symm.trans h)
    rw [hsame]
    exact .nil
  | cons hl _ ih =>
    obtain ⟨mid, hfirst, hrest⟩ := update?_bind_some h
    exact .cons (leads_pairLine hl hfirst declared) (ih (update?_some_of_update? hfirst) hrest)

/-- The line of a header. -/
def headerLine (key : Key) : List Char := '[' :: (dottedNames key ++ [']'])

theorem openTable_between {root root' : Members} {key : Key} {declared : List Key}
    (hd : key ∉ declared) (h : update? true some key root = some root') (header : Key)
    (here : List Char) :
    (between root header declared).openTable key here =
      .ok (between root' key (key :: declared)) := by
  have hc : declared.contains key = false := by simpa using hd
  simp only [Builder.openTable, between, hc, isFrozen, List.any_nil, h]
  rfl

theorem readHeader_dottedNames {key : Key} (hne : key ≠ []) (hb : ∀ n ∈ key, IsBareName n.toList)
    {root root' : Members} {declared : List Key} (hd : key ∉ declared)
    (h : update? true some key root = some root') (header : Key) (rest : List Char) :
    readHeader (between root header declared) ('[' :: (dottedNames key ++ ']' :: rest)) =
      .ok (between root' key (key :: declared), rest) := by
  obtain ⟨n, key, rfl⟩ := List.exists_cons_of_ne_nil hne
  have hn : IsBareName n.toList := hb n (by simp)
  obtain ⟨c, t, hs, hc⟩ := dottedNames_head hn key
  have hc' : c ≠ '[' := by rintro rfl; exact absurd hc (by decide)
  have hkey := readKey_dottedNames hne hb rest
  have hskip := skipSpace_dottedNames hn key (']' :: rest)
  have hopen := openTable_between hd h header (']' :: rest)
  have hsettle : (between root header declared).settle = between root header declared := rfl
  rw [hs] at hkey hskip ⊢
  unfold readHeader
  split
  next he => exact absurd (List.cons.inj (List.cons.inj he).2).1 hc'
  next =>
    simp only [List.drop_succ_cons, List.drop_zero, hskip, hkey, hsettle, hopen, bind, Except.bind]
    rfl

theorem leads_headerLine {key : Key} (hne : key ≠ []) (hb : ∀ n ∈ key, IsBareName n.toList)
    {root root' : Members} {declared : List Key} (hd : key ∉ declared)
    (h : update? true some key root = some root') (header : Key) :
    Leads (between root header declared) (headerLine key)
      (between root' key (key :: declared)) where
  read fuel rest := by
    have hread := readHeader_dottedNames hne hb hd h header ('\n' :: rest)
    have hline : headerLine key ++ '\n' :: rest =
        '[' :: (dottedNames key ++ ']' :: '\n' :: rest) := by
      simp [headerLine]
    have hstart : isKeyStart '[' = false := by decide
    rw [hline]
    refine readLines_statement (by decide) (by decide) (t := '\n' :: rest) ?_ rfl fuel
    simp only [readStatement, hstart, Bool.false_eq_true, if_false, if_true, hread, bind,
      Except.bind]
    rfl
  plain := by
    have hclose : IsPlain [']'] := by decide
    exact .cons rfl ((isPlain_dottedNames hb).append hclose)

/-- The lines of a section: its header, a line for each member, and perhaps empty lines. -/
inductive SectionLines : List (List Char) → Section → Prop
  | mk {s : Section} {body : List (List Char)} : List.Forall₂ PairLine body s.pairs →
      ∀ gap, SectionLines (headerLine s.key :: body ++ List.replicate gap []) s

theorem run_replicate_empty (b : Builder) (n : Nat) : Run b (List.replicate n []) b := by
  induction n with
  | zero => exact .nil
  | succ n ih => exact .cons (leads_empty b) ih

/-- **A section is read as its members put in at once.** -/
theorem run_section {ls : List (List Char)} {s : Section} (hl : SectionLines ls s)
    {root root' : Members} {header : Key} {declared : List Key} (hd : s.key ∉ declared)
    (h : s.addTo? root = some root') :
    Run (between root header declared) ls (between root' s.key (s.key :: declared)) := by
  obtain ⟨hbody, gap⟩ := hl
  obtain ⟨mid, hopen, hpairs⟩ := update?_bind_some (f := some) h
  have hheader := leads_headerLine s.key_ne_nil s.bare hd hopen header
  have hrun := run_pairLines hbody (update?_some_of_update? hopen) hpairs (s.key :: declared)
  exact (Run.cons hheader hrun).append (run_replicate_empty _ gap)

/-- **Sections under different headers are read as the document that they assemble.** -/
theorem run_sections {lss : List (List (List Char))} {ss : List Section}
    (hl : List.Forall₂ SectionLines lss ss) {root root' : Members} {declared : List Key}
    (hd : ∀ s ∈ ss, s.key ∉ declared) (hn : (ss.map Section.key).Nodup)
    (h : assemble? ss root = some root') (header : Key) :
    ∃ header' declared',
      Run (between root header declared) lss.flatten (between root' header' declared') := by
  induction hl generalizing root header declared with
  | nil =>
    cases h
    exact ⟨header, declared, .nil⟩
  | @cons ls s lss ss hs _ ih =>
    obtain ⟨mid, hfirst, hrest⟩ := Option.bind_eq_some_iff.1 h
    rw [List.map_cons, List.nodup_cons] at hn
    have hd' : ∀ t ∈ ss, t.key ∉ s.key :: declared := by
      intro t ht hm
      rcases List.mem_cons.1 hm with he | hm
      · exact hn.1 (he ▸ List.mem_map_of_mem ht)
      · exact hd t (by simp [ht]) hm
    obtain ⟨header', declared', hrun⟩ := ih hd' hn.2 hrest s.key
    exact ⟨header', declared', (run_section hs (hd s (by simp)) hfirst).append hrun⟩

end Fingerprint.Toml
