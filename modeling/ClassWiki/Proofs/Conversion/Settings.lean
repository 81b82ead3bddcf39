import ClassWiki.Proofs.Config.Invariant
import ClassWiki.Proofs.Conversion.Failure

/-!
# Conversions under loaded settings

Settings that were loaded pass every test a conversion makes of them, but for the kinds
of declarations, which may end the program with a message, and the encoding.
-/

namespace ClassWiki.Conversion

open Settings (Formed)

/-! ## Tables -/

theorem flag_table {settings : Mapping} {key : Text} {table : Mapping}
    (h : Mapping.get? settings (.text key) = some (.map table)) (name : Text) :
    ∃ value, flag (Conversion.table settings key) name = .ok value := by
  rw [Conversion.table, h]
  by_cases htruthy : (Value.map table).truthy = true
  · simp only [htruthy, if_true]
    exact ⟨_, rfl⟩
  · simp only [htruthy]
    exact ⟨_, rfl⟩

theorem pageOptions_of_formed {entries : Mapping} {kinds : List Text}
    (h : Formed entries kinds) : ∃ options, pageOptions entries = .ok options := by
  obtain ⟨sections, hsections⟩ := h.sections
  obtain ⟨links, hlinks⟩ := h.links
  obtain ⟨exceptions, hexceptions⟩ := flag_table hsections "exceptions"
  obtain ⟨qualified, hqualified⟩ := flag_table hlinks "namespace_qualified_bases"
  exact ⟨⟨exceptions, qualified⟩, by simp only [pageOptions, hexceptions, hqualified]; rfl⟩

theorem chosen_of_formed {entries : Mapping} {kinds : List Text} (h : Formed entries kinds) :
    chosen (.map entries) = .map entries := by
  cases entries with
  | nil =>
      obtain ⟨sections, hsections⟩ := h.sections
      cases hsections
  | cons entry entries => rfl

theorem kinds_eq_of_formed {entries : Mapping} {kinds kinds' : List Text}
    (h : Formed entries kinds) (hkinds : Settings.declarationKinds (.map entries) = .ok kinds') :
    kinds = kinds' := by
  rcases h.declarationKinds with ⟨hok, -⟩ | ⟨fault, herror, -⟩
  · rw [hok] at hkinds
    exact Except.ok.inj hkinds
  · rw [herror] at hkinds
    cases hkinds

/-! ## Faults -/

/-- A fault that the files and the sources have by themselves: the settings do not come into
it. -/
inductive ForeignFault (input out : Path) (store final : Store) : Fault → Prop
  | making {cause : FileFault} {failed : Path} :
      store.ensureFolders out = (final, .error (cause, failed)) →
      ForeignFault input out store final (.ofFile cause failed)
  | searching {cause : FileFault} {failed : Path} :
      final.sources input = .error (cause, failed) →
      ForeignFault input out store final (.ofFile cause failed)
  | reading {path : Path} {cause : FileFault} : final.read path = .error cause →
      ForeignFault input out store final (.ofFile cause path)
  | projecting {source : Bytes} {site : Site} : Declaration.ofSite? source site = none →
      ForeignFault input out store final (.decoding .malformed)
  | writing {name : Text} {content : Bytes} {cause : FileFault} :
      final.write (out.child (name ++ ".md")) content = .error cause →
      ForeignFault input out store final (.ofFile cause (out.child (name ++ ".md")))

theorem ofFile_ne_unknownEncoding (cause : FileFault) (path : Path) (name : Text) :
    Fault.ofFile cause path ≠ .unknownEncoding name := by
  cases cause <;> exact Fault.noConfusion

theorem ForeignFault.ne_unknownEncoding {input out : Path} {store final : Store} {fault : Fault}
    (h : ForeignFault input out store final fault) (name : Text) :
    fault ≠ .unknownEncoding name := by
  cases h with
  | projecting => exact Fault.noConfusion
  | making | searching | reading | writing => exact ofFile_ne_unknownEncoding _ _ name

theorem EarlyFault.ending_or_unreachable {entries : Mapping} {kinds : List Text}
    (hformed : Formed entries kinds) {input : Path} {store : Store} {fault : Fault}
    (h : EarlyFault (.map entries) input store fault) :
    fault.ending?.isSome = true ∨
      ∃ cause, store.holdsFolder input = .error cause ∧ fault = .ofFile cause input := by
  cases h with
  | unreachable hinput => exact Or.inr ⟨_, hinput, rfl⟩
  | missing hinput => exact Or.inl rfl
  | kinds hkinds =>
      rw [chosen_of_formed hformed] at hkinds
      left
      rcases hformed.declarationKinds with ⟨hok, -⟩ | ⟨other, hother, hending⟩
      · rw [hok] at hkinds
        cases hkinds
      · rw [hother] at hkinds
        cases hkinds
        exact hending

theorem StopPoint.encoding_or_foreign {readers : Readers} {entries : Mapping}
    {kinds : List Text} (hoptions : ∃ options, pageOptions entries = .ok options)
    {input out : Path} {store final : Store} {begun : List Path}
    {declarations : List Declaration} {fault : Fault}
    (h : StopPoint readers entries kinds input out store final begun declarations fault) :
    (∃ path ∈ begun, EncodingFault readers entries final path fault) ∨
      ForeignFault input out store final fault := by
  obtain ⟨options, hoptions⟩ := hoptions
  cases h with
  | making hmade => exact Or.inr (.making hmade)
  | searching _ hsources => exact Or.inr (.searching hsources)
  | converting _ _ hstop =>
      cases hstop with
      | reading hfault =>
          cases hfault with
          | encoding hencoding => exact Or.inl ⟨_, by simp, hencoding⟩
          | file hread => exact Or.inr (.reading hread)
      | converting _ _ _ hfault =>
          cases hfault with
          | projecting hnone => exact Or.inr (.projecting hnone)
          | rendering hrendering =>
              rw [hoptions] at hrendering
              cases hrendering
          | writing _ _ hwrite => exact Or.inr (.writing hwrite)

/-- What a failing conversion shows of its settings.  Before it has changed anything it ends
with a message, or the input folder cannot be looked at.  Afterwards it is interrupted by the
encoding, or by something that is not up to the settings. -/
inductive FormedStop (readers : Readers) (entries : Mapping) (kinds : List Text)
    (input out : Path) (world final : World) (fault : Fault) : Prop
  | early : EarlyFault (.map entries) input world.store fault → final = world →
      (fault.ending?.isSome = true ∨
        ∃ cause, world.store.holdsFolder input = .error cause ∧ fault = .ofFile cause input) →
      FormedStop readers entries kinds input out world final fault
  | late {begun : List Path} {declarations : List Declaration} :
      Interrupted readers entries kinds input out world final begun declarations fault →
      ((∃ path ∈ begun, EncodingFault readers entries final.store path fault) ∨
        ForeignFault input out world.store final.store fault) →
      FormedStop readers entries kinds input out world final fault

theorem formedStop_of_run {readers : Readers} {entries : Mapping} {kinds : List Text}
    (hformed : Formed entries kinds) {input out : Path} {world final : World} {fault : Fault}
    (hrun : (convertFolder readers (.map entries) input out).run world =
      (.error fault, final)) :
    FormedStop readers entries kinds input out world final fault := by
  rcases ready_or_stops readers (.map entries) input out world with
    ⟨entries', kinds', hready⟩ | ⟨early, hearly, hstop⟩
  · cases (chosen_of_formed hformed).symm.trans hready.settings_eq
    obtain rfl : kinds = kinds' := kinds_eq_of_formed hformed hready.kinds_eq
    obtain ⟨begun, declarations, hinterrupted⟩ := interrupted_of_run hready hrun
    exact .late hinterrupted
      (hinterrupted.stop.encoding_or_foreign (pageOptions_of_formed hformed))
  · rw [hstop] at hrun
    cases hrun
    exact .early hearly rfl (hearly.ending_or_unreachable hformed)

/-- Documents laid over the defaults, up to a fault or not, keep the tables and the list of
kinds in form.  Under settings that were loaded the kinds are that list or the program
ends with a message, the tables can be looked up, and of all entries only the encoding
can stop a conversion in another way. -/
theorem loaded_settings_in_form :
    (∀ path documents,
      Settings.Sound (Settings.applyDocuments path Settings.defaults documents).1) ∧
    ∀ read working store path? settings,
      Settings.load read working store path? = .ok settings →
      ∃ entries kinds, settings = .map entries ∧ Formed entries kinds ∧
        (Settings.declarationKinds settings = .ok kinds ∧ kinds ≠ [] ∧
            (∀ kind ∈ kinds, kind ∈ classLikeKinds) ∨
          ∃ fault, Settings.declarationKinds settings = .error fault ∧
            fault.ending?.isSome = true) ∧
        (∃ options, pageOptions entries = .ok options) ∧
        ∀ readers input out world fault final,
          (convertFolder readers settings input out).run world = (.error fault, final) →
          FormedStop readers entries kinds input out world final fault := by
  refine ⟨fun path documents => Settings.sound_defaults.applyDocuments path documents, ?_⟩
  intro read working store path? settings hload
  obtain ⟨entries, kinds, rfl, hformed⟩ := Settings.sound_of_load hload
  exact ⟨entries, kinds, rfl, hformed, hformed.declarationKinds,
    pageOptions_of_formed hformed, fun _ _ _ _ _ _ hrun => formedStop_of_run hformed hrun⟩

namespace Sample

/-- Kinds that are named twice, an encoding that there is not, and entries of no use. -/
def document : Value :=
  .map [(.text "declaration_kinds",
      .list [.text "struct_declaration", .text "struct_declaration"]),
    (.text "source_encoding", .text "nope"), (.int 7, .set [.null])]

def configured : Store := ⟨[("w", .folder [("c.yml", .file [])])]⟩

def loaded : Mapping :=
  [(.text "declaration_kinds", .list [.text "struct_declaration"]),
    (.text "sections", .map [(.text "exceptions", .bool false)]),
    (.text "links", .map [(.text "namespace_qualified_bases", .bool false)]),
    (.text "source_encoding", .text "nope"), (.int 7, .set [.null])]

end Sample

open Sample

theorem loaded_settings_in_form_sample :
    Settings.load (fun _ => .ok document) working configured (some "c.yml") =
        .ok (.map loaded) ∧
      Settings.declarationKinds (.map loaded) = .ok [("struct_declaration" : Text)] ∧
      (∃ options, pageOptions loaded = .ok options) ∧
      ∃ final path,
        (convertFolder readers (.map loaded) folder folder).run (world ("old.md", .file [1])) =
          (.error (.unknownEncoding "nope"), final) ∧
        EncodingFault readers loaded final.store path (.unknownEncoding "nope") := by
  have hload : Settings.load (fun _ => .ok document) working configured (some "c.yml") =
      .ok (.map loaded) := by rfl
  have houtcome : ((convertFolder readers (.map loaded) folder folder).run
      (world ("old.md", .file [1]))).1 = .error (.unknownEncoding "nope") := by decide +kernel
  have hrun : (convertFolder readers (.map loaded) folder folder).run
      (world ("old.md", .file [1])) = (_, _) := Prod.ext houtcome rfl
  obtain ⟨entries, kinds, hentries, -, -, hoptions, hstops⟩ :=
    loaded_settings_in_form.2 _ _ _ _ _ hload
  cases hentries
  refine ⟨hload, by cbv, hoptions, ?_⟩
  cases hstops _ _ _ _ _ _ hrun with
  | early _ _ hearly =>
      rcases hearly with hending | ⟨cause, -, hcause⟩
      · cases hending
      · exact absurd hcause.symm (ofFile_ne_unknownEncoding cause folder "nope")
  | late _ hlate =>
      rcases hlate with ⟨path, -, hencoding⟩ | hforeign
      · exact ⟨_, path, hrun, hencoding⟩
      · exact absurd rfl (hforeign.ne_unknownEncoding "nope")

end ClassWiki.Conversion
