import Mathlib
import ClassWiki.Proofs.Conversion.Run

/-!
# Converting a folder

The steps in front of the loops: the input folder and the kinds of declarations are
looked at before anything is changed, then the output folder is made, then the sources
are found.
-/

namespace ClassWiki.Conversion

/-! ## What is asked for -/

/-- The settings of a run, which are the defaults for settings that count as false. -/
def chosen (settings : Value) : Value :=
  if settings.truthy then settings else Settings.defaults

/-- The declarations of all sources below a folder, as the store shows them. -/
def declared? (readers : Readers) (settings : Value) (input : Path) (store : Store) :
    Option (List Declaration) :=
  match chosen settings with
  | .map entries => do
      let kinds ← (Settings.declarationKinds (.map entries)).toOption
      let paths ← (store.sources input).toOption
      declarations? readers entries kinds store paths
  | _ => none

def declaredPage? (settings : Value) (declaration : Declaration) : Option Page :=
  match chosen settings with
  | .map entries => page? entries declaration
  | _ => none

/-! ## Before anything is changed -/

/-- Why a run stops before it changes anything. -/
inductive EarlyFault (settings : Value) (input : Path) (store : Store) : Fault → Prop
  | unreachable {cause : FileFault} : store.holdsFolder input = .error cause →
      EarlyFault settings input store (.ofFile cause input)
  | missing : store.holdsFolder input = .ok false →
      EarlyFault settings input store (.inputNotFound input)
  | kinds {fault : Fault} : Settings.declarationKinds (chosen settings) = .error fault →
      EarlyFault settings input store fault

/-- The settings and the input folder are good for a run. -/
structure Ready (settings : Value) (input : Path) (store : Store) (entries : Mapping)
    (kinds : List Text) : Prop where
  settings_eq : chosen settings = .map entries
  kinds_eq : Settings.declarationKinds (.map entries) = .ok kinds
  input_eq : store.holdsFolder input = .ok true

/-- A run that is not ready stops and changes nothing. -/
theorem ready_or_stops (readers : Readers) (settings : Value) (input out : Path)
    (world : World) :
    (∃ entries kinds, Ready settings input world.store entries kinds) ∨
      ∃ fault, EarlyFault settings input world.store fault ∧
        (convertFolder readers settings input out).run world = (.error fault, world) := by
  simp only [convertFolder, Job.run_bind, Job.run_store]
  cases hinput : world.store.holdsFolder input with
  | error cause => exact Or.inr ⟨_, .unreachable hinput, rfl⟩
  | ok found =>
      simp only [Job.run_file_ok]
      cases found with
      | false => exact Or.inr ⟨_, .missing hinput, rfl⟩
      | true =>
          cases hkinds : Settings.declarationKinds (chosen settings) with
          | error fault =>
              refine Or.inr ⟨fault, .kinds hkinds, ?_⟩
              rw [chosen] at hkinds
              simp only [Bool.not_true, Bool.false_eq_true, if_false, Job.run_bind, hkinds,
                Job.run_ofExcept_error]
          | ok kinds =>
              obtain ⟨entries, hsettings⟩ := Settings.eq_map_of_declarationKinds hkinds
              rw [hsettings] at hkinds
              exact Or.inl ⟨entries, kinds, hsettings, hkinds, hinput⟩

theorem run_of_ready (readers : Readers) {settings : Value} {input : Path} (out : Path)
    {world : World} {entries : Mapping} {kinds : List Text}
    (h : Ready settings input world.store entries kinds) :
    (convertFolder readers settings input out).run world =
      match world.store.ensureFolders out with
      | (made, .error (cause, failed)) =>
          (.error (.ofFile cause failed), { world with store := made })
      | (made, .ok ()) =>
          match made.sources input with
          | .error (cause, failed) =>
              (.error (.ofFile cause failed), { world with store := made })
          | .ok paths =>
              (convertFiles readers entries kinds out paths).run
                { world with store := made } := by
  have hsettings := h.settings_eq
  rw [chosen] at hsettings
  simp only [convertFolder, Job.run_bind, Job.run_store, h.input_eq, Job.run_file_ok,
    hsettings, Bool.not_true, Bool.false_eq_true, if_false, h.kinds_eq,
    Job.run_ofExcept_ok, ensureFolders]
  obtain ⟨made, outcome⟩ := world.store.ensureFolders out
  cases outcome with
  | error failure => rfl
  | ok _ =>
      simp only [Job.run_setStore]
      cases made.sources input with
      | error failure => rfl
      | ok paths => rfl

/-! ## Finished runs -/

/-- A finished run, with the settings and kinds it went by, the store after the output
folder was made, the sources it found and the declarations it wrote pages for. -/
structure Completed (readers : Readers) (settings : Value) (input out : Path)
    (world final : World) (entries : Mapping) (kinds : List Text) (made : Store)
    (paths : List Path) (declarations : List Declaration) : Prop
    extends Ready settings input world.store entries kinds where
  made_eq : world.store.ensureFolders out = (made, .ok ())
  paths_eq : made.sources input = .ok paths
  located : ∀ path ∈ paths, made.locate path = .ok path.location
  declarations_eq : declarations? readers entries kinds made paths = some declarations
  progress : Progress entries out { world with store := made } final declarations
    (paths.map progressLine)

theorem completed_of_run {readers : Readers} {settings : Value} {input out : Path}
    {world final : World} {count : Nat}
    (h : (convertFolder readers settings input out).run world = (.ok count, final)) :
    ∃ entries kinds made paths declarations,
      Completed readers settings input out world final entries kinds made paths
        declarations ∧ count = declarations.length := by
  rcases ready_or_stops readers settings input out world with
    ⟨entries, kinds, hready⟩ | ⟨fault, -, hrun⟩
  · rw [run_of_ready readers out hready] at h
    split at h
    · cases h
    · next made hmade =>
        split at h
        · cases h
        · next paths hpaths =>
            obtain ⟨finished, declarations, hdeclared, hlocated, hend⟩ :=
              run_convertFiles readers entries kinds out paths
                (fun path hmem => Store.isSource_of_mem_sources hpaths hmem)
                { world with store := made }
            rcases hend with ⟨rfl, last, hprogress, hrun⟩ | ⟨_, _, _, _, _, _, _, _, hrun⟩
            · rw [hrun] at h
              cases h
              exact ⟨entries, kinds, made, finished, declarations,
                ⟨hready, hmade, hpaths, hlocated, hdeclared, hprogress⟩, rfl⟩
            · rw [hrun] at h
              cases h
  · rw [hrun] at h
    cases h

/-- A run is completed if the sources are there and all their declarations have pages
that can be written. -/
theorem run_of_writable {readers : Readers} {settings : Value} {input out : Path}
    {world : World} {entries : Mapping} {kinds : List Text} {made : Store}
    {paths : List Path} {declarations : List Declaration} {pages : List Page}
    (hready : Ready settings input world.store entries kinds)
    (hmade : world.store.ensureFolders out = (made, .ok ()))
    (hpaths : made.sources input = .ok paths)
    (hlocated : ∀ path ∈ paths, made.locate path = .ok path.location)
    (hdeclared : declarations? readers entries kinds made paths = some declarations)
    (hpages : declarations.mapM (page? entries) = some pages)
    (hwritable : ∀ page ∈ pages, made.Writable (out.child page.fileName)) :
    ∃ final, (convertFolder readers settings input out).run world =
        (.ok declarations.length, final) ∧
      made.writeAll (pageWrites out pages) = .ok final.store := by
  have hsource : ∀ path ∈ paths, Store.isSource path.location = true :=
    fun path hmem => Store.isSource_of_mem_sources hpaths hmem
  rw [run_of_ready readers out hready, hmade]
  simp only [hpaths]
  obtain ⟨finished, earlier, hearlier, -, hend⟩ :=
    run_convertFiles readers entries kinds out paths hsource { world with store := made }
  rcases hend with ⟨rfl, final, hprogress, hrun⟩ |
    ⟨path, rest, own, fault, final, rfl, hstop, hprogress, -⟩
  · obtain rfl : declarations = earlier := by simpa [hdeclared] using hearlier
    refine ⟨final, hrun, ?_⟩
    obtain ⟨pages', hpages', hwritten⟩ := hprogress.written
    obtain rfl : pages = pages' := by simpa [hpages] using hpages'
    exact hwritten
  · -- the source where it would stop can be read, and its pages can be written
    exfalso
    obtain ⟨_, later, -, hlater, rfl⟩ := declarations?_append_eq_some_iff.1 hdeclared
    obtain ⟨declared, rest', hdeclaredIn, -, rfl⟩ := declarations?_cons_eq_some_iff.1 hlater
    have hpath : path ∈ finished ++ path :: rest := by simp
    have hsame := hprogress.sameFolders
    refine not_stopsIn (Store.locate_ok_mono hsame.within (hlocated path hpath))
      (hprogress.file?_of_isSource (hsource path hpath)) hdeclaredIn ?_ hstop
    intro declaration hmem
    obtain ⟨page, hpage, hof⟩ := exists_of_mem_of_mapM hpages
      (List.mem_append_right _ (List.mem_append_left _ hmem))
    exact ⟨page, hof, (hwritable page hpage).of_sameFolders hsame⟩

namespace Completed

variable {readers : Readers} {settings : Value} {input out : Path} {world final : World}
  {entries : Mapping} {kinds : List Text} {made : Store} {paths : List Path}
  {declarations : List Declaration}

theorem made_store (h : Completed readers settings input out world final entries kinds made
    paths declarations) : Store.Made out world.store made := by
  have hmade := Store.made_ensureFolders world.store out
  rw [h.made_eq] at hmade
  exact hmade

theorem sources_eq (h : Completed readers settings input out world final entries kinds made
    paths declarations) : world.store.sources input = .ok paths :=
  h.made_store.sources h.input_eq h.paths_eq

theorem declarations?_eq (h : Completed readers settings input out world final entries kinds
    made paths declarations) :
    declarations? readers entries kinds world.store paths = some declarations := by
  rw [← declarations?_congr readers entries kinds fun path _ =>
    h.made_store.file? path.location]
  exact h.declarations_eq

theorem declared?_eq (h : Completed readers settings input out world final entries kinds made
    paths declarations) :
    declared? readers settings input world.store = some declarations := by
  simp [declared?, h.settings_eq, h.kinds_eq, h.sources_eq, Except.toOption,
    h.declarations?_eq]

end Completed

/-! ## A sample folder -/

namespace Sample

def leaf (kind : Text) (named : Bool) (label? : Option Text) (start stop : Nat) : Node :=
  ⟨kind, named, label?, start, stop, []⟩

/-- The tree of a text like `class A:X{}`, with one letter for the name and one for the
base. -/
def classNode (start : Nat) : Node :=
  ⟨"class_declaration", true, none, start, start + 11,
    [leaf "class" false none start (start + 5),
      leaf "identifier" true (some "name") (start + 6) (start + 7),
      ⟨"base_list", true, none, start + 7, start + 9,
        [leaf ":" false none (start + 7) (start + 8),
          leaf "identifier" true none (start + 8) (start + 9)]⟩,
      ⟨"declaration_list", true, some "body", start + 9, start + 11,
        [leaf "\x7b" false none (start + 9) (start + 10),
          leaf "\x7d" false none (start + 10) (start + 11)]⟩]⟩

def source : Text := "class A:X\x7b\x7dclass B:Y\x7b\x7dclass A:Z\x7b\x7d"

def readers : Readers where
  parse := fun _ =>
    ⟨⟨"compilation_unit", true, none, 0, 33, [classNode 0, classNode 11, classNode 22]⟩,
      false⟩
  document := fun _ => .ok .null
  locale := Encoding.utf8.decode
  codec? := fun _ => none

/-- The entries of the default settings. -/
def entries : Mapping :=
  [(.text "declaration_kinds", .list [.text "class_declaration"]),
    (.text "sections", .map [(.text "exceptions", .bool false)]),
    (.text "links", .map [(.text "namespace_qualified_bases", .bool false)]),
    (.text "source_encoding", .text "utf-8")]

def kinds : List Text := ["class_declaration"]

def working : Location := ["w"]

def folder : Path := ⟨.here working, ["in"]⟩

def path : Path := ⟨.here working, ["in", "a.cs"]⟩

/-- The folder has the source, and another entry in front of it. -/
def store (other : Text × Entry) : Store :=
  ⟨[("w", .folder [("in", .folder [other, ("a.cs", .file (Utf8.encode source))])])]⟩

def world (other : Text × Entry) : World := ⟨store other, [], []⟩

def declaration (name base : Text) : Declaration := ⟨name, [base], [], [], [], []⟩

def declarations : List Declaration :=
  [declaration "A" "X", declaration "B" "Y", declaration "A" "Z"]

def pages : List Page := declarations.map (Page.ofDeclaration ⟨false, false⟩)

theorem ofSite?_classNode {bytes : Bytes} {start : Nat} {before : List Node}
    {name base : Text} (hname : (classNode start).name? bytes = some name)
    (hbases : Declaration.bases? bytes (classNode start) = some [base])
    (hblocks : Site.blocks? bytes ⟨classNode start, before⟩ = some []) :
    Declaration.ofSite? bytes ⟨classNode start, before⟩ = some (declaration name base) := by
  have hsummary : Doc.summary [] = [] := by cbv
  have hfields : Variable.fields? bytes ⟨classNode start, before⟩ = some [] := by cbv
  have hproperties : Variable.properties? bytes ⟨classNode start, before⟩ = some [] := by cbv
  have hmethods : Method.all? bytes ⟨classNode start, before⟩ = some [] := by cbv
  simp [Declaration.ofSite?, hname, hbases, hblocks, hfields, hproperties, hmethods,
    hsummary, declaration]

theorem sourceDecoder_eq : sourceDecoder readers entries = .ok Encoding.utf8.decode := by
  have hname : encodingName? entries = .ok (some "utf-8") := by rfl
  have hencoding : Encoding.ofName? "utf-8" = some .utf8 := by decide +kernel
  rw [sourceDecoder, hname]
  change decoder readers (some "utf-8") = _
  rw [decoder, hencoding]

theorem declarations?_eq {store : Store}
    (hstore : store.file? path.location = some (Utf8.encode source)) :
    declarations? readers entries kinds store [path] = some declarations := by
  have hdecode : Encoding.utf8.decode (Utf8.encode source) = .ok source := by cbv
  have htext : text? readers entries store path = some source :=
    text?_eq_some_iff.2 ⟨_, _, source, sourceDecoder_eq, hstore, hdecode, by decide +kernel⟩
  have hsites : sites readers kinds source = [⟨classNode 0, []⟩,
      ⟨classNode 11, [classNode 0]⟩, ⟨classNode 22, [classNode 11, classNode 0]⟩] := by cbv
  have hfirst : Declaration.ofSite? (Utf8.encode source) ⟨classNode 0, []⟩ =
      some (declaration "A" "X") := by
    apply ofSite?_classNode <;> decide +kernel
  have hsecond : Declaration.ofSite? (Utf8.encode source) ⟨classNode 11, [classNode 0]⟩ =
      some (declaration "B" "Y") := by
    apply ofSite?_classNode <;> decide +kernel
  have hthird : Declaration.ofSite? (Utf8.encode source)
      ⟨classNode 22, [classNode 11, classNode 0]⟩ = some (declaration "A" "Z") := by
    apply ofSite?_classNode <;> decide +kernel
  refine declarations?_cons_eq_some_iff.2 ⟨_, [], ?_, rfl, (List.append_nil _).symm⟩
  rw [declarationsIn?, htext, Option.bind_eq_bind, Option.bind_some, hsites, List.mapM_cons,
    List.mapM_cons, List.mapM_cons, hfirst, hsecond, hthird]
  rfl

theorem pages_eq : declarations.mapM (page? entries) = some pages := by
  have hoptions : pageOptions entries = .ok ⟨false, false⟩ := by cbv
  simp only [page?, hoptions, declarations, pages, List.mapM_cons]
  rfl

theorem ready (other : Text × Entry) :
    Ready (.map entries) folder (world other).store entries kinds :=
  ⟨rfl, by cbv, by cbv⟩

theorem declared?_eq {other : Text × Entry}
    (hsources : (world other).store.sources folder = .ok [path])
    (hfile : (world other).store.file? path.location = some (Utf8.encode source)) :
    declared? readers (.map entries) folder (world other).store = some declarations := by
  simp only [declared?, (ready other).settings_eq, (ready other).kinds_eq, hsources,
    Except.toOption, Option.bind_eq_bind, Option.bind_some, declarations?_eq hfile]

theorem run_eq {other : Text × Entry}
    (hsources : (world other).store.sources folder = .ok [path])
    (hread : (world other).store.read path = .ok (Utf8.encode source))
    (hfirst : (world other).store.Writable (folder.child "A.md"))
    (hsecond : (world other).store.Writable (folder.child "B.md")) :
    ∃ final, (convertFolder readers (.map entries) folder folder).run (world other) =
      (.ok 3, final) := by
  obtain ⟨location, hlocate, hfile⟩ := Store.read_eq_ok_iff.1 hread
  obtain ⟨rfl, -⟩ := Store.locate_eq_ok hlocate
  have hmade := Store.ensureFolders_of_holdsFolder (ready other).input_eq
  have hwritable : ∀ page ∈ pages,
      (world other).store.Writable (folder.child page.fileName) := by
    simp only [pages, declarations, List.map_cons, List.map_nil, List.forall_mem_cons]
    exact ⟨hfirst, hsecond, hfirst, by simp⟩
  obtain ⟨final, hrun, -⟩ := run_of_writable (ready other) hmade hsources
    (by simpa using hlocate) (declarations?_eq hfile) pages_eq hwritable
  exact ⟨final, hrun⟩

theorem sources_old : (world ("old.md", .file [1])).store.sources folder = .ok [path] := by cbv

theorem file?_old : (world ("old.md", .file [1])).store.file? path.location =
    some (Utf8.encode source) := by decide +kernel

theorem run_old : ∃ final, (convertFolder readers (.map entries) folder folder).run
    (world ("old.md", .file [1])) = (.ok 3, final) :=
  run_eq sources_old (by cbv) ⟨["w", "in", "A.md"], by cbv, by decide +kernel⟩
    ⟨["w", "in", "B.md"], by cbv, by decide +kernel⟩

end Sample

end ClassWiki.Conversion
