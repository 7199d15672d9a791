/-
Where the names of packages come from. In the five manifests that are read
line by line a name is made of characters of one line, whatever the line
parser does with it, and a line holds no line feed. So neither does a name
(`newline_not_mem_of_mem_read`). The names in a JSON document may be any text.
-/
import Fingerprint.Manifest.Reading
import Fingerprint.Proofs.Entries
import Fingerprint.Proofs.Text.Pieces

namespace Fingerprint

namespace Text

theorem trimStart_subset (s : List Char) : trimStart s ⊆ s := List.dropWhile_subset _

theorem strip_subset (p : Char → Bool) (s : List Char) : strip p s ⊆ s := by
  intro c hc
  have hend := List.dropWhile_subset p (List.mem_reverse.1 hc)
  exact List.dropWhile_subset p (List.mem_reverse.1 hend)

theorem trim_subset (s : List Char) : trim s ⊆ s := strip_subset isBlank s

theorem subset_of_mem_consWord {c : Char} {ws : List (List Char)} {s : List Char}
    (hs : ∀ w ∈ ws, w ⊆ s) {w : List Char} (hw : w ∈ consWord c ws) : w ⊆ c :: s := by
  cases ws with
  | nil =>
    rw [consWord, List.mem_singleton] at hw
    subst hw
    simp
  | cons v ws =>
    rw [consWord, List.mem_cons] at hw
    rcases hw with rfl | hw
    · exact List.cons_subset_cons c (hs v (by simp))
    · exact List.subset_cons_of_subset c (hs w (by simp [hw]))

theorem subset_of_mem_words {s : List Char} : ∀ w ∈ words s, w ⊆ s := by
  fun_induction words s with
  | case1 => simp
  | case2 c h => simp
  | case3 c h => simp
  | case4 c d rest h ih => exact fun w hw => List.subset_cons_of_subset c (ih w hw)
  | case5 c d rest hc hd ih =>
    intro w hw
    rcases List.mem_cons.1 hw with rfl | hw
    · simp
    · exact List.subset_cons_of_subset c (ih w hw)
  | case6 c d rest hc hd ih => exact fun w hw => subset_of_mem_consWord ih hw

theorem newline_not_mem_of_mem_lines {s l : List Char} (h : l ∈ lines s) : '\n' ∉ l := by
  intro hn
  have := not_isLineBreak_of_mem_lines l h '\n' hn
  exact absurd this (by decide)

end Text

open Text

/-- A name all of whose characters stand on one of several lines. -/
def IsDrawnFrom (ls : List (List Char)) (name : String) : Prop := ∃ l ∈ ls, name.toList ⊆ l

theorem IsDrawnFrom.cons {ls : List (List Char)} {name : String} (h : IsDrawnFrom ls name)
    (l : List Char) : IsDrawnFrom (l :: ls) name := by
  obtain ⟨k, hk, hs⟩ := h
  exact ⟨k, by simp [hk], hs⟩

theorem IsDrawnFrom.head {l : List Char} {name : String} (h : name.toList ⊆ trim l)
    (ls : List (List Char)) : IsDrawnFrom (l :: ls) name :=
  ⟨l, by simp, List.Subset.trans h (trim_subset l)⟩

theorem IsDrawnFrom.newline_not_mem {text name : String}
    (h : IsDrawnFrom (lines text.toList) name) : '\n' ∉ name.toList := by
  obtain ⟨l, hl, hs⟩ := h
  exact fun hn => newline_not_mem_of_mem_lines hl (hs hn)

/-- The names of a line parser that looks at each trimmed line by itself. -/
theorem isDrawnFrom_filterMap {parse? : List Char → Option (String × String)}
    (hparse : ∀ {line p}, parse? line = some p → p.1.toList ⊆ line) {ls : List (List Char)}
    {p : String × String} (h : p ∈ ls.filterMap fun line => parse? (trim line)) :
    IsDrawnFrom ls p.1 := by
  obtain ⟨l, hl, hp⟩ := List.mem_filterMap.1 h
  exact ⟨l, hl, List.Subset.trans (hparse hp) (trim_subset l)⟩

namespace RequirementList

theorem subset_of_mem_partsOf {line part : List Char} (h : part ∈ partsOf line) : part ⊆ line := by
  obtain ⟨hm, -⟩ := List.mem_filter.1 h
  obtain ⟨q, hq, rfl⟩ := List.mem_map.1 hm
  have hpiece : q ⊆ line := fun c hc => (mem_of_mem_splitWhere q hq c hc).1
  exact List.Subset.trans (trim_subset q) hpiece

theorem subset_of_requirement? {line : List Char} {p : String × String}
    (h : requirement? line = some p) : p.1.toList ⊆ line := by
  unfold requirement? at h
  split at h
  next => cases h
  next c rest =>
    split at h
    next => cases h
    next =>
      have hparts : ∀ q ∈ partsOf (c :: rest), q ⊆ c :: rest := fun q => subset_of_mem_partsOf
      split at h
      next => cases h
      next name hp =>
        cases h
        rw [String.toList_ofList]
        exact hparts name (by simp [hp])
      next name version more hp =>
        cases h
        rw [String.toList_ofList]
        exact hparts name (by simp [hp])

end RequirementList

namespace CrateManifest

theorem subset_of_entryOf? {line : List Char} {p : String × String} (h : entryOf? line = some p) :
    p.1.toList ⊆ line := by
  unfold entryOf? at h
  split at h
  next => cases h
  next =>
    split at h
    next => cases h
    next =>
      simp only at h
      split at h
      next => cases h
      next =>
        cases h
        rw [String.toList_ofList]
        have hbefore : line.takeWhile (· != '=') ⊆ line := List.takeWhile_subset _
        have htrim := List.Subset.trans (trim_subset _) hbefore
        exact List.Subset.trans (strip_subset _ _) htrim

theorem isDrawnFrom_entriesFrom {inside : Bool} {ls : List (List Char)} :
    ∀ p ∈ entriesFrom inside ls, IsDrawnFrom ls p.1 := by
  induction ls generalizing inside with
  | nil => simp [entriesFrom]
  | cons raw rest ih =>
    intro p hp
    rw [entriesFrom] at hp
    split at hp
    next => exact (ih p hp).cons raw
    next =>
      split at hp
      next =>
        rcases List.mem_append.1 hp with hp | hp
        · exact .head (subset_of_entryOf? (Option.mem_toList.1 hp)) rest
        · exact (ih p hp).cons raw
      next => exact (ih p hp).cons raw

end CrateManifest

namespace ModuleList

theorem mem_of_pair? {ws : List (List Char)} {p : String × String} (h : pair? ws = some p) :
    p.1.toList ∈ ws := by
  unfold pair? at h
  split at h
  next path version more =>
    cases h
    simp
  next => cases h

theorem isDrawnFrom_requirementsFrom {inside : Bool} {ls : List (List Char)} :
    ∀ p ∈ requirementsFrom inside ls, IsDrawnFrom ls p.1 := by
  induction ls generalizing inside with
  | nil => simp [requirementsFrom]
  | cons raw rest ih =>
    intro p hp
    have hrest : ∀ {b}, p ∈ requirementsFrom b rest → IsDrawnFrom (raw :: rest) p.1 :=
      fun h => (ih p h).cons raw
    have hword : p.1.toList ∈ words (trim raw) → IsDrawnFrom (raw :: rest) p.1 :=
      fun h => .head (subset_of_mem_words _ h) rest
    rw [requirementsFrom] at hp
    split at hp
    next => exact hrest hp
    next =>
      split at hp
      next => exact hrest hp
      next =>
        split at hp
        next =>
          split at hp
          next => exact hrest hp
          next =>
            rcases List.mem_append.1 hp with hp | hp
            · exact hword (mem_of_pair? (Option.mem_toList.1 hp))
            · exact hrest hp
        next =>
          split at hp
          next =>
            rcases List.mem_append.1 hp with hp | hp
            · exact hword (List.mem_of_mem_drop (mem_of_pair? (Option.mem_toList.1 hp)))
            · exact hrest hp
          next => exact hrest hp

end ModuleList

namespace Declarations

theorem subset_of_literal? {s : List Char} {r : List Char × List Char} (h : literal? s = some r) :
    r.1 ⊆ s := by
  unfold literal? at h
  split at h
  next => cases h
  next c rest =>
    split at h
    next =>
      split at h
      next => cases h
      next => cases h
      next =>
        cases h
        exact List.subset_cons_of_subset c (List.takeWhile_subset _)
    next => cases h

theorem subset_of_declaration? {keyword : String} {line : List Char} {p : String × String}
    (h : declaration? keyword line = some p) : p.1.toList ⊆ line := by
  unfold declaration? at h
  split at h
  next =>
    obtain ⟨r, hr, rfl⟩ := Option.map_eq_some_iff.1 h
    rw [String.toList_ofList]
    have hafter : line.drop keyword.length ⊆ line := List.drop_subset _ _
    have htrim := List.Subset.trans (trimStart_subset _) hafter
    exact List.Subset.trans (subset_of_literal? hr) htrim
  next => cases h

end Declarations

namespace Manifest

theorem readObject_cases {e : Ecosystem} {hints : Json.Value → Except FileError Hints}
    {text : String} {h : Hints} (hread : (readObject e hints text).outcome = .ok h) :
    h = .silent e ∨ ∃ data, hints data = .ok h := by
  unfold readObject at hread
  split at hread
  next => cases hread
  next =>
    cases hread
    exact .inl rfl
  next members _ =>
    rw [Traced.outcome_ofExcept, mapError_ok_iff] at hread
    exact .inr ⟨.object members, hread⟩
  next =>
    cases hread
    exact .inl rfl

theorem ecosystem_of_packageHints {beside : String → Except FileError Bool} {data : Json.Value}
    {h : Hints} (hh : packageHints beside data = .ok h) : h.ecosystem = .node := by
  unfold packageHints at hh
  split at hh
  next =>
    cases hh
    rfl
  next =>
    cases hb : beside typeConfiguration with
    | error error => rw [hb] at hh; cases hh
    | ok typed => rw [hb] at hh; cases hh; rfl

theorem ecosystem_of_read {e : Ecosystem} {beside : String → Except FileError Bool} {text : String}
    {h : Hints} (hread : (read e beside text).outcome = .ok h) : h.ecosystem = e := by
  cases e with
  | node =>
    rcases readObject_cases hread with rfl | ⟨data, hdata⟩
    · rfl
    · exact ecosystem_of_packageHints hdata
  | php =>
    rcases readObject_cases hread with rfl | ⟨data, hdata⟩
    · rfl
    · cases hdata
      rfl
  | rust | python | go | ruby | swift =>
    cases hread
    rfl

/-- **No name of a manifest that is read line by line holds a line feed.** -/
theorem newline_not_mem_of_mem_read {e : Ecosystem} (hn : e ≠ .node) (hp : e ≠ .php)
    {beside : String → Except FileError Bool} {text : String} {h : Hints}
    (hread : (read e beside text).outcome = .ok h) {name : String}
    (hm : name ∈ h.dependencies.keys) : '\n' ∉ name.toList := by
  have hdrawn : ∀ {ps : List (String × String)},
      (∀ p ∈ ps, IsDrawnFrom (lines text.toList) p.1) → name ∈ (Table.ofList ps).keys →
      '\n' ∉ name.toList := by
    intro ps hps hname
    obtain ⟨p, hp, rfl⟩ := List.mem_map.1 (Table.mem_keys_ofList.1 hname)
    exact (hps p hp).newline_not_mem
  cases e with
  | node => exact absurd rfl hn
  | php => exact absurd rfl hp
  | rust =>
    cases hread
    exact hdrawn CrateManifest.isDrawnFrom_entriesFrom hm
  | python =>
    cases hread
    exact hdrawn (fun p => isDrawnFrom_filterMap RequirementList.subset_of_requirement?) hm
  | go =>
    cases hread
    exact hdrawn ModuleList.isDrawnFrom_requirementsFrom hm
  | ruby | swift =>
    cases hread
    exact hdrawn (fun p => isDrawnFrom_filterMap Declarations.subset_of_declaration?) hm

end Manifest

end Fingerprint
