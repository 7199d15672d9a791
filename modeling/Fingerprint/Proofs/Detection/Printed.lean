/-
The JSON text of a fingerprint says all of it (`printed_loses_nothing`). It is
read back as the document it was made from, and the document has the language,
the entrypoint, the mark, the need for secrets and the listing of the packages,
so fingerprints with the same text are alike in all of these. What is printed
is the text itself: it is ASCII, and holds no control sequence.
-/
import Fingerprint.CommandLine.Run
import Fingerprint.Proofs.Detection.Listing
import Fingerprint.Proofs.Json.RoundTrip

namespace Fingerprint

open Table Json

namespace Detection

/-- Fingerprints alike in all that a caller can ask of them: the same ecosystems are present, with
the same version under each name, whatever the order in which they came. -/
structure Alike (d d' : Detection) : Prop where
  language : d.language = d'.language
  entrypoint : d.entrypoint = d'.entrypoint
  guessed : d.guessed = d'.guessed
  secretsRequired : d.secretsRequired = d'.secretsRequired
  present : ∀ e, d.dependencies.contains e = d'.dependencies.contains e
  packages : ∀ e, Same (d.versionsFor e) (d'.versionsFor e)

variable {d d' : Detection}

theorem nodup_keys_of_ascending {ps : List (String × String)} (h : Ascending ps) :
    (Entries.keys ps).Nodup := by
  refine List.pairwise_map.2 (h.imp fun {p q} hlt he => ?_)
  rw [he] at hlt
  exact String.lt_irrefl _ hlt

theorem isPlain_toJson (d : Detection) : d.toJson.IsPlain := by
  have hlists := d.lists_listing
  have hpackages : (Value.object (d.listing.map fun l => (l.1.name, .ofStrings l.2))).IsPlain := by
    refine .object ?_ fun m hm => ?_
    · have hnodup : ((d.listing.map Prod.fst).map Ecosystem.name).Nodup :=
        List.Pairwise.map _ (fun _ _ hne he => hne (Ecosystem.name_injective he))
          (Ecosystem.nodup_all.sublist hlists.precedence)
      rw [Entries.keys, List.map_map]
      rwa [List.map_map] at hnodup
    · obtain ⟨l, hl, rfl⟩ := List.mem_map.1 hm
      exact isPlain_ofStrings (nodup_keys_of_ascending (hlists.ascending l hl))
  refine .object (by simp [Entries.keys]) ?_
  simp only [List.forall_mem_cons]
  exact ⟨.string _, .string _, .bool _, hpackages, .bool _, fun _ h => absurd h List.not_mem_nil⟩

theorem ofStrings_injective {ps qs : List (String × String)}
    (h : Value.ofStrings ps = Value.ofStrings qs) : ps = qs := by
  refine (List.map_inj_right fun p q hpq => ?_).1 (Value.object.inj h)
  have hname := congrArg Prod.fst hpq
  have hversion := Value.string.inj (congrArg Prod.snd hpq)
  exact Prod.ext hname hversion

/-- **The document is known by what it says**, and says the packages as they are listed. -/
theorem toJson_eq_iff : d.toJson = d'.toJson ↔ d.language = d'.language ∧
    d.entrypoint = d'.entrypoint ∧ d.guessed = d'.guessed ∧
    d.secretsRequired = d'.secretsRequired ∧ d.listing = d'.listing := by
  constructor
  · intro h
    simp only [toJson, Value.object.injEq, List.cons.injEq, Prod.mk.injEq, Value.string.injEq,
      Value.bool.injEq, true_and, and_true] at h
    obtain ⟨hlanguage, hentrypoint, hguessed, hpackages, hsecrets⟩ := h
    refine ⟨Language.name_injective hlanguage, hentrypoint, hguessed, hsecrets, ?_⟩
    refine (List.map_inj_right fun l m hlm => ?_).1 hpackages
    exact Prod.ext (Ecosystem.name_injective (congrArg Prod.fst hlm))
      (ofStrings_injective (congrArg Prod.snd hlm))
  · rintro ⟨hlanguage, hentrypoint, hguessed, hsecrets, hlisting⟩
    simp only [toJson, hlanguage, hentrypoint, hguessed, hsecrets, hlisting]

/-- **A listing is known by its packages.** -/
theorem listing_eq_iff : d.listing = d'.listing ↔
    (∀ e, d.dependencies.contains e = d'.dependencies.contains e) ∧
      ∀ e, Same (d.versionsFor e) (d'.versionsFor e) := by
  refine ⟨fun h => ?_, fun h => listing_of_same h.1 h.2⟩
  have hlists := d.lists_listing
  have hlists' := h ▸ d'.lists_listing
  have hpresent : ∀ e, d.dependencies.contains e = d'.dependencies.contains e := fun e => by
    rw [Bool.eq_iff_iff, ← hlists.present, ← hlists'.present]
  refine ⟨hpresent, fun e name => ?_⟩
  by_cases he : e ∈ d.listing.map Prod.fst
  · obtain ⟨x, hx, rfl⟩ := List.mem_map.1 he
    exact Option.ext fun version => by
      rw [← hlists.packages x hx, ← hlists'.packages x hx]
  · -- An ecosystem that is not listed is absent, and has no versions.
    have hnone : d.dependencies.get? e = none :=
      Option.not_isSome_iff_eq_none.1 fun h => he ((hlists.present e).2 h)
    have hnone' : d'.dependencies.get? e = none :=
      Option.not_isSome_iff_eq_none.1 fun h => he ((hlists'.present e).2 h)
    rw [versionsFor, versionsFor, hnone, hnone']

theorem alike_iff_toJson : Alike d d' ↔ d.toJson = d'.toJson := by
  rw [toJson_eq_iff, listing_eq_iff]
  exact ⟨fun h => ⟨h.language, h.entrypoint, h.guessed, h.secretsRequired, h.present, h.packages⟩,
    fun ⟨hl, he, hg, hs, hp, hv⟩ => ⟨hl, he, hg, hs, hp, hv⟩⟩

theorem stripSequences_pretty (d : Detection) :
    Text.stripSequences (CommandLine.line d.toJson.pretty) = CommandLine.line d.toJson.pretty := by
  have hescape : '\x1b' ∉ (CommandLine.line d.toJson.pretty).toList := fun h =>
    absurd (isWritten_pretty_newline d.isPlain_toJson _ h) (by decide)
  rw [Text.stripSequences, Text.stripAfter_zero_of_not_mem hescape, String.ofList_toList]

end Detection

open Detection

/-- **The JSON text of a fingerprint loses nothing.** For every fingerprint the text is ASCII and is
printed as it is; reading it, or the printed line, gives back the document; and two fingerprints
have the same text iff they have the same document, iff they have the same language, entrypoint,
mark and need for secrets, the same ecosystems are present, and each has the same version under
every name. -/
theorem printed_loses_nothing (d : Detection) :
    Json.read d.toJson.pretty = .ok d.toJson ∧
    (∀ c ∈ d.toJson.pretty.toList, c.toNat < 0x80) ∧
    Text.stripSequences (CommandLine.line d.toJson.pretty) = CommandLine.line d.toJson.pretty ∧
    Json.read (CommandLine.line d.toJson.pretty) = .ok d.toJson ∧
    ∀ d' : Detection, (d.toJson.pretty = d'.toJson.pretty ↔ d.toJson = d'.toJson) ∧
      (d.toJson = d'.toJson ↔ Alike d d') := by
  have hread : ∀ x : Detection, Json.read x.toJson.pretty = .ok x.toJson :=
    fun x => read_pretty x.isPlain_toJson
  refine ⟨hread d, fun c hc => ?_, d.stripSequences_pretty,
    read_pretty_newline d.isPlain_toJson, fun d' => ⟨?_, ?_⟩⟩
  · rw [Value.pretty, String.toList_ofList] at hc
    exact (isWritten_printIndented d.isPlain_toJson 0).toNat_lt hc
  · refine ⟨fun h => ?_, fun h => by rw [h]⟩
    -- The text is read as one document only.
    have hd := hread d
    rw [h, hread d'] at hd
    exact (Except.ok.inj hd).symm
  · exact alike_iff_toJson.symm

end Fingerprint
