import ClassWiki.Proofs.Conversion.Job
import ClassWiki.Proofs.Conversion.Pages
import ClassWiki.Proofs.Traversal

/-!
# Runs of a conversion

What the sources of a store declare is read off the store alone.  A run of the two
nested loops writes the pages of these declarations in order, either of all of them or
up to the point where it stops, and every source is read as it was in the beginning,
although pages are written between one source and the next.
-/

namespace ClassWiki.Conversion

/-! ## What a store declares -/

/-- How the sources are decoded under the settings. -/
def sourceDecoder (readers : Readers) (settings : Mapping) : Except Fault Decoder := do
  decoder readers (← encodingName? settings)

/-- The text of the source that a path names, if it is one under the settings. -/
def text? (readers : Readers) (settings : Mapping) (store : Store) (path : Path) :
    Option Text := do
  let decode ← (sourceDecoder readers settings).toOption
  let bytes ← store.file? path.location
  let text ← (decode bytes).toOption
  return Text.unifyBreaks text

def sites (readers : Readers) (kinds : List Text) (text : Text) : List Site :=
  (Site.root (readers.parse text).root).descendants kinds

def declarationsIn? (readers : Readers) (settings : Mapping) (kinds : List Text)
    (store : Store) (path : Path) : Option (List Declaration) := do
  let text ← text? readers settings store path
  (sites readers kinds text).mapM (Declaration.ofSite? (Utf8.encode text))

/-- The declarations of all the sources, source by source and site by site. -/
def declarations? (readers : Readers) (settings : Mapping) (kinds : List Text)
    (store : Store) : List Path → Option (List Declaration)
  | [] => some []
  | path :: paths => do
      let first ← declarationsIn? readers settings kinds store path
      let rest ← declarations? readers settings kinds store paths
      return first ++ rest

theorem text?_eq_some_iff {readers : Readers} {settings : Mapping} {store : Store} {path : Path}
    {text : Text} :
    text? readers settings store path = some text ↔
      ∃ decode bytes decoded, sourceDecoder readers settings = .ok decode ∧
        store.file? path.location = some bytes ∧ decode bytes = .ok decoded ∧
        text = Text.unifyBreaks decoded := by
  rw [text?]
  cases hdecoder : sourceDecoder readers settings with
  | error fault => simp [Except.toOption]
  | ok decode =>
      cases hbytes : store.file? path.location with
      | none => simp [Except.toOption]
      | some bytes =>
          cases hdecode : decode bytes <;> simp [Except.toOption, hdecode, eq_comm]

section Sources

variable {readers : Readers} {settings : Mapping} {kinds : List Text} {store : Store}
  {path : Path} {paths first second : List Path} {declarations : List Declaration}

theorem declarations?_cons_eq_some_iff :
    declarations? readers settings kinds store (path :: paths) = some declarations ↔
      ∃ own rest, declarationsIn? readers settings kinds store path = some own ∧
        declarations? readers settings kinds store paths = some rest ∧
        declarations = own ++ rest := by
  simp [declarations?, Option.bind_eq_some_iff, @eq_comm _ declarations]

theorem declarations?_append_eq_some_iff :
    declarations? readers settings kinds store (first ++ second) = some declarations ↔
      ∃ earlier later, declarations? readers settings kinds store first = some earlier ∧
        declarations? readers settings kinds store second = some later ∧
        declarations = earlier ++ later := by
  induction first generalizing declarations with
  | nil => simp [declarations?]
  | cons path first ih =>
      simp only [List.cons_append, declarations?_cons_eq_some_iff, ih]
      constructor
      · rintro ⟨own, _, hown, ⟨earlier, later, hearlier, hlater, rfl⟩, rfl⟩
        exact ⟨own ++ earlier, later, ⟨own, earlier, hown, hearlier, rfl⟩, hlater, by simp⟩
      · rintro ⟨_, later, ⟨own, earlier, hown, hearlier, rfl⟩, hlater, rfl⟩
        exact ⟨own, earlier ++ later, hown, ⟨earlier, later, hearlier, hlater, rfl⟩, by simp⟩

end Sources

theorem declarationsIn?_congr (readers : Readers) (settings : Mapping) (kinds : List Text)
    {store other : Store} {path : Path}
    (h : store.file? path.location = other.file? path.location) :
    declarationsIn? readers settings kinds store path =
      declarationsIn? readers settings kinds other path := by
  rw [declarationsIn?, declarationsIn?, text?, text?, h]

theorem declarations?_congr (readers : Readers) (settings : Mapping) (kinds : List Text)
    {store other : Store} {paths : List Path}
    (h : ∀ path ∈ paths, store.file? path.location = other.file? path.location) :
    declarations? readers settings kinds store paths =
      declarations? readers settings kinds other paths := by
  induction paths with
  | nil => rfl
  | cons path paths ih =>
      rw [List.forall_mem_cons] at h
      rw [declarations?, declarations?, declarationsIn?_congr readers settings kinds h.1,
        ih h.2]

/-! ## Pages written in turn -/

def page? (settings : Mapping) (declaration : Declaration) : Option Page :=
  (pageOptions settings).toOption.map (Page.ofDeclaration · declaration)

theorem fileName_of_page? {settings : Mapping} {declaration : Declaration} {page : Page}
    (h : page? settings declaration = some page) :
    page.fileName = declaration.name ++ ".md" := by
  obtain ⟨options, -, rfl⟩ := Option.map_eq_some_iff.1 h
  rfl

def pageWrites (out : Path) (pages : List Page) : List (Path × Bytes) :=
  pages.map fun page => (out.child page.fileName, Utf8.encode page.text)

theorem mem_pageWrites (out : Path) {page : Page} {pages : List Page} (h : page ∈ pages) :
    (out.child page.fileName, Utf8.encode page.text) ∈ pageWrites out pages :=
  List.mem_map.2 ⟨page, h, rfl⟩

def progressLine (path : Path) : Text := "Processing " ++ path.text ++ "..."

/-- The second world is the first one after the pages of the declarations have been
written, in their order, and the lines printed. -/
structure Progress (settings : Mapping) (out : Path) (world final : World)
    (declarations : List Declaration) (lines : List Text) : Prop where
  written : ∃ pages, declarations.mapM (page? settings) = some pages ∧
    world.store.writeAll (pageWrites out pages) = .ok final.store
  printed : final.printed = world.printed ++ lines

namespace Progress

variable {settings : Mapping} {out : Path} {world middle final : World}
  {declarations more : List Declaration} {lines next : List Text}

theorem none (hstore : final.store = world.store)
    (hprinted : final.printed = world.printed ++ lines) :
    Progress settings out world final [] lines :=
  ⟨⟨[], rfl, by rw [hstore]; rfl⟩, hprinted⟩

theorem trans (first : Progress settings out world middle declarations lines)
    (second : Progress settings out middle final more next) :
    Progress settings out world final (declarations ++ more) (lines ++ next) := by
  obtain ⟨pages, hpages, hwritten⟩ := first.written
  obtain ⟨pages', hpages', hwritten'⟩ := second.written
  refine ⟨⟨pages ++ pages', ?_, ?_⟩, ?_⟩
  · rw [List.mapM_append, hpages, hpages']
    rfl
  · rw [pageWrites, List.map_append]
    exact Store.writeAll_append_eq_ok_iff.2 ⟨middle.store, hwritten, hwritten'⟩
  · rw [second.printed, first.printed, List.append_assoc]

theorem isSource_of_mem_pageWrites {pages : List Page} {write : Path × Bytes}
    (h : write ∈ pageWrites out pages) : Store.isSource write.1.location = false := by
  obtain ⟨page, -, rfl⟩ := List.mem_map.1 h
  exact Path.isSource_location_child out page.name

theorem file?_of_isSource (h : Progress settings out world final declarations lines)
    {location : Location} (hlocation : Store.isSource location = true) :
    final.store.file? location = world.store.file? location := by
  obtain ⟨pages, -, hwritten⟩ := h.written
  have hnone : Store.lastWritten? location (pageWrites out pages) = Option.none := by
    rw [Store.lastWritten?_eq_none_iff]
    intro write hwrite heq
    have hpage := isSource_of_mem_pageWrites hwrite
    rw [heq, hlocation] at hpage
    cases hpage
  rw [Store.file?_writeAll hwritten, hnone, Option.none_or]

theorem sameFolders (h : Progress settings out world final declarations lines) :
    world.store.SameFolders final.store := by
  obtain ⟨pages, -, hwritten⟩ := h.written
  exact Store.sameFolders_of_writeAll hwritten

end Progress

/-! ## Where a run stops -/

/-- The encoding that the settings ask for cannot be used, or the bytes of the source are no
text in it. -/
inductive EncodingFault (readers : Readers) (settings : Mapping) (store : Store) (path : Path) :
    Fault → Prop
  | unusable {fault : Fault} : sourceDecoder readers settings = .error fault →
      EncodingFault readers settings store path fault
  | undecodable {decode : Decoder} {bytes : Bytes} {cause : DecodeFault} :
      sourceDecoder readers settings = .ok decode → store.read path = .ok bytes →
      decode bytes = .error cause →
      EncodingFault readers settings store path (.decoding cause)

inductive ReadFault (readers : Readers) (settings : Mapping) (store : Store) (path : Path) :
    Fault → Prop
  | encoding {fault : Fault} : EncodingFault readers settings store path fault →
      ReadFault readers settings store path fault
  | file {cause : FileFault} : store.read path = .error cause →
      ReadFault readers settings store path (.ofFile cause path)

inductive SiteFault (settings : Mapping) (out : Path) (source : Bytes) (store : Store)
    (site : Site) : Fault → Prop
  | projecting : Declaration.ofSite? source site = none →
      SiteFault settings out source store site (.decoding .malformed)
  | rendering {fault : Fault} : pageOptions settings = .error fault →
      SiteFault settings out source store site fault
  | writing {declaration : Declaration} {page : Page} {cause : FileFault} :
      Declaration.ofSite? source site = some declaration →
      page? settings declaration = some page →
      store.write (out.child page.fileName) (Utf8.encode page.text) = .error cause →
      SiteFault settings out source store site (.ofFile cause (out.child page.fileName))

/-- A run stops in the source at a path, after the declarations of that source that are
listed.  The source is read from the first store; the second one is the store in which
the step at fault was tried. -/
inductive StopsIn (readers : Readers) (settings : Mapping) (kinds : List Text) (out : Path)
    (store final : Store) (path : Path) : List Declaration → Fault → Prop
  | reading {fault : Fault} : ReadFault readers settings final path fault →
      StopsIn readers settings kinds out store final path [] fault
  | converting {text : Text} {done rest : List Site} {site : Site}
      {declarations : List Declaration} {fault : Fault} :
      text? readers settings store path = some text →
      sites readers kinds text = done ++ site :: rest →
      done.mapM (Declaration.ofSite? (Utf8.encode text)) = some declarations →
      SiteFault settings out (Utf8.encode text) final site fault →
      StopsIn readers settings kinds out store final path declarations fault

/-- A run does not stop in a source that is there and whose declarations all have pages
that can be written. -/
theorem not_stopsIn {readers : Readers} {settings : Mapping} {kinds : List Text}
    {out path : Path} {store final : Store} {declarations own : List Declaration}
    {fault : Fault} (hlocate : final.locate path = .ok path.location)
    (hfile : final.file? path.location = store.file? path.location)
    (hdeclared : declarationsIn? readers settings kinds store path = some declarations)
    (hpages : ∀ declaration ∈ declarations, ∃ page, page? settings declaration = some page ∧
      final.Writable (out.child page.fileName)) :
    ¬ StopsIn readers settings kinds out store final path own fault := by
  intro hstop
  rw [declarationsIn?, Option.bind_eq_bind, Option.bind_eq_some_iff] at hdeclared
  obtain ⟨text, htext, hsites⟩ := hdeclared
  obtain ⟨decode, bytes, decoded, hdecoder, hbytes, hdecode, -⟩ :=
    text?_eq_some_iff.1 htext
  have hread : final.read path = .ok bytes :=
    Store.read_eq_ok_iff.2 ⟨_, hlocate, hfile.trans hbytes⟩
  cases hstop with
  | reading hfault =>
      cases hfault with
      | file hfault => simp [hread] at hfault
      | encoding hfault =>
          cases hfault with
          | unusable hfault => simp [hdecoder] at hfault
          | undecodable hdecoder' hread' hfault =>
              obtain rfl : decode = _ := by simpa [hdecoder] using hdecoder'
              obtain rfl : bytes = _ := by simpa [hread] using hread'
              simp [hdecode] at hfault
  | @converting text' done rest site own fault htext' hsplit hdone hfault =>
      obtain rfl : text = text' := by simpa [htext] using htext'
      have hlisted : site ∈ sites readers kinds text := by
        rw [hsplit]
        simp
      obtain ⟨declaration, hmem, hsite⟩ := exists_of_mem_of_mapM hsites hlisted
      obtain ⟨page, hpage, hwritable⟩ := hpages declaration hmem
      cases hfault with
      | projecting hnone => simp [hsite] at hnone
      | rendering hfault => simp [page?, hfault, Except.toOption] at hpage
      | writing hsite' hpage' hfault =>
          obtain rfl : declaration = _ := by simpa [hsite] using hsite'
          obtain rfl : page = _ := by simpa [hpage] using hpage'
          simp [Store.write_eq_ok_iff.2 ⟨hwritable, rfl⟩] at hfault

/-! ## One site -/

theorem run_writePage (out : Path) (page : Page) (world : World) :
    (writePage out page).run world =
      match world.store.write (out.child page.fileName) (Utf8.encode page.text) with
      | .ok written => (.ok (out.child page.fileName), { world with store := written })
      | .error cause => (.error (.ofFile cause (out.child page.fileName)), world) := by
  rw [writePage, Job.run_bind, Job.run_store]
  simp only [Job.run_bind]
  cases world.store.write (out.child page.fileName) (Utf8.encode page.text) with
  | ok written => rfl
  | error cause => rfl

/-- A site gets its page, or the run stops without a change of the store. -/
theorem run_convertSite (settings : Mapping) (out : Path) (source : Bytes) (site : Site)
    (world : World) :
    (∃ declaration final, Declaration.ofSite? source site = some declaration ∧
      Progress settings out world final [declaration] [] ∧
      (convertSite settings out source site).run world = (.ok (), final)) ∨
    ∃ fault final, SiteFault settings out source final.store site fault ∧
      Progress settings out world final [] [] ∧
      (convertSite settings out source site).run world = (.error fault, final) := by
  unfold convertSite
  cases hsite : Declaration.ofSite? source site with
  | none =>
      exact Or.inr ⟨_, world, .projecting hsite, .none rfl (by simp), rfl⟩
  | some declaration =>
      obtain ⟨logged, hlog, hstore, hprinted⟩ :=
        Job.run_log .info ("Class: " ++ declaration.name) world
      have hlogged : Progress settings out world logged [] [] :=
        .none hstore (by rw [hprinted, List.append_nil])
      simp only [Job.run_bind, hlog]
      cases hoptions : pageOptions settings with
      | error fault =>
          exact Or.inr ⟨fault, logged, .rendering hoptions, hlogged, rfl⟩
      | ok options =>
          have hpage : page? settings declaration =
              some (Page.ofDeclaration options declaration) := by
            rw [page?, hoptions]
            rfl
          simp only [Job.run_ofExcept_ok, run_writePage]
          cases hwrite : logged.store.write
              (out.child (Page.ofDeclaration options declaration).fileName)
              (Utf8.encode (Page.ofDeclaration options declaration).text) with
          | error cause =>
              exact Or.inr ⟨_, logged, .writing hsite hpage hwrite, hlogged, rfl⟩
          | ok written =>
              have hwritten : Progress settings out logged { logged with store := written }
                  [declaration] [] := by
                refine ⟨⟨[Page.ofDeclaration options declaration], ?_, ?_⟩, by simp⟩
                · simp [hpage]
                · simp [pageWrites, Store.writeAll, hwrite, bind, Except.bind]
              exact Or.inl ⟨declaration, _, rfl, hlogged.trans hwritten, rfl⟩

/-! ## All sites of a source -/

/-- The sites get their pages in order: all of them, or those before the one at which
the run stops. -/
theorem run_convertSites (settings : Mapping) (out : Path) (source : Bytes)
    (sites : List Site) (world : World) :
    ∃ done declarations final,
      done.mapM (Declaration.ofSite? source) = some declarations ∧
      Progress settings out world final declarations [] ∧
      (done = sites ∧
        (convertSites settings out source sites).run world = (.ok sites.length, final) ∨
      ∃ site rest fault, sites = done ++ site :: rest ∧
        SiteFault settings out source final.store site fault ∧
        (convertSites settings out source sites).run world = (.error fault, final)) := by
  induction sites generalizing world with
  | nil => exact ⟨[], [], world, rfl, .none rfl (by simp), Or.inl ⟨rfl, rfl⟩⟩
  | cons site sites ih =>
      simp only [convertSites, Job.run_bind]
      rcases run_convertSite settings out source site world with
        ⟨declaration, middle, hsite, hfirst, hrun⟩ | ⟨fault, final, hfault, hfirst, hrun⟩
      · obtain ⟨done, declarations, final, hdone, hrest, hend⟩ := ih middle
        refine ⟨site :: done, declaration :: declarations, final, ?_,
          hfirst.trans hrest, ?_⟩
        · simp [List.mapM_cons, hsite, hdone]
        · simp only [hrun]
          rcases hend with ⟨rfl, hend⟩ | ⟨next, rest, fault, rfl, hfault, hend⟩
          · exact Or.inl ⟨rfl, by rw [hend]; rfl⟩
          · exact Or.inr ⟨next, rest, fault, rfl, hfault, by rw [hend]⟩
      · exact ⟨[], [], final, rfl, hfirst,
          Or.inr ⟨site, sites, fault, rfl, hfault, by rw [hrun]⟩⟩

/-! ## One source -/

theorem run_sourceText (readers : Readers) (settings : Mapping) (path : Path) (world : World) :
    (∃ text, world.store.locate path = .ok path.location ∧
      text? readers settings world.store path = some text ∧
      (sourceText readers settings path).run world = (.ok text, world)) ∨
    ∃ fault, ReadFault readers settings world.store path fault ∧
      (sourceText readers settings path).run world = (.error fault, world) := by
  simp only [sourceText, Job.run_bind, Job.run_store]
  cases hname : encodingName? settings with
  | error fault =>
      have hdecoder : sourceDecoder readers settings = .error fault := by
        rw [sourceDecoder, hname]
        rfl
      exact Or.inr ⟨fault, .encoding (.unusable hdecoder), rfl⟩
  | ok name? =>
      have hdecoder : sourceDecoder readers settings = decoder readers name? := by
        rw [sourceDecoder, hname]
        rfl
      simp only [Job.run_ofExcept_ok]
      cases hread : world.store.read path with
      | error cause => exact Or.inr ⟨_, .file hread, rfl⟩
      | ok bytes =>
          simp only [Job.run_file_ok]
          cases hdecode : decoder readers name? with
          | error fault => exact Or.inr ⟨fault, .encoding (.unusable (hdecoder.trans hdecode)), rfl⟩
          | ok decode =>
              rw [hdecode] at hdecoder
              simp only [Job.run_ofExcept_ok]
              cases htext : decode bytes with
              | error cause =>
                  exact Or.inr ⟨_, .encoding (.undecodable hdecoder hread htext), rfl⟩
              | ok text =>
                  obtain ⟨location, hlocate, hfile⟩ := Store.read_eq_ok_iff.1 hread
                  obtain ⟨rfl, -⟩ := Store.locate_eq_ok hlocate
                  exact Or.inl ⟨Text.unifyBreaks text, hlocate,
                    text?_eq_some_iff.2 ⟨decode, bytes, text, hdecoder, hfile, htext, rfl⟩, rfl⟩

theorem run_convertFile (readers : Readers) (settings : Mapping) (kinds : List Text)
    (out path : Path) (world : World) :
    ∃ declarations final,
      Progress settings out world final declarations [progressLine path] ∧
      (world.store.locate path = .ok path.location ∧
        declarationsIn? readers settings kinds world.store path = some declarations ∧
        (convertFile readers settings kinds out path).run world =
          (.ok declarations.length, final) ∨
      ∃ fault,
        StopsIn readers settings kinds out world.store final.store path declarations fault ∧
        (convertFile readers settings kinds out path).run world = (.error fault, final)) := by
  obtain ⟨shown, hprint, hstore, hshown⟩ :=
    Job.run_print ("Processing " ++ path.text ++ "...") world
  have hline : Progress settings out world shown [] [progressLine path] := .none hstore hshown
  rw [← hstore]
  unfold convertFile
  rw [Job.run_bind, hprint]
  simp only [Job.run_bind]
  rcases run_sourceText readers settings path shown with
    ⟨text, hlocate, htext, hrun⟩ | ⟨fault, hfault, hrun⟩
  · -- a warning about a recovered tree is only logged
    obtain ⟨logged, hlogged, hlog⟩ : ∃ logged : World,
        Progress settings out shown logged [] [] ∧ ∀ rest : Job Nat,
          (if (readers.parse text).recovered then do
            Job.log .warning
              ("Syntax errors in " ++ path.text ++ "; rendering the recovered tree")
            rest
          else rest).run shown = rest.run logged := by
      split
      · obtain ⟨logged, hlog, hstore, hprinted⟩ := Job.run_log .warning
          ("Syntax errors in " ++ path.text ++ "; rendering the recovered tree") shown
        refine ⟨logged, .none hstore (by rw [hprinted, List.append_nil]), ?_⟩
        intro rest
        rw [Job.run_bind, hlog]
      · exact ⟨shown, .none rfl (by rw [List.append_nil]), fun _ => rfl⟩
    simp only [hrun]
    rw [hlog]
    obtain ⟨done, declarations, final, hdone, hwritten, hend⟩ := run_convertSites settings out
      (Utf8.encode text) (sites readers kinds text) logged
    refine ⟨declarations, final, hline.trans (hlogged.trans hwritten), ?_⟩
    rcases hend with ⟨rfl, hend⟩ | ⟨site, rest, fault, hsites, hfault, hend⟩
    · refine Or.inl ⟨hlocate, ?_, ?_⟩
      · rw [declarationsIn?, htext]
        exact hdone
      · rw [← length_of_mapM hdone]
        exact hend
    · exact Or.inr ⟨fault, .converting htext hsites hdone hfault, hend⟩
  · exact ⟨[], shown, hline, Or.inr ⟨fault, .reading hfault, by rw [hrun]⟩⟩

/-! ## All sources -/

theorem StopsIn.of_file? {readers : Readers} {settings : Mapping} {kinds : List Text}
    {out path : Path} {store other final : Store} {declarations : List Declaration}
    {fault : Fault} (hfile : store.file? path.location = other.file? path.location)
    (h : StopsIn readers settings kinds out store final path declarations fault) :
    StopsIn readers settings kinds out other final path declarations fault := by
  cases h with
  | reading hread => exact .reading hread
  | converting htext hsites hdone hfault =>
      rw [text?, hfile] at htext
      exact .converting htext hsites hdone hfault

/-- The sources are converted in order: all of them, or those before the one in which
the run stops, and of that one the declarations in front of the fault.  All sources
are read as they were at the start. -/
theorem run_convertFiles (readers : Readers) (settings : Mapping) (kinds : List Text)
    (out : Path) (paths : List Path)
    (hpaths : ∀ path ∈ paths, Store.isSource path.location = true) (world : World) :
    ∃ finished declarations,
      declarations? readers settings kinds world.store finished = some declarations ∧
      (∀ path ∈ finished, world.store.locate path = .ok path.location) ∧
      ((finished = paths ∧ ∃ final,
        Progress settings out world final declarations (paths.map progressLine) ∧
        (convertFiles readers settings kinds out paths).run world =
          (.ok declarations.length, final)) ∨
      ∃ path rest own fault final, paths = finished ++ path :: rest ∧
        StopsIn readers settings kinds out world.store final.store path own fault ∧
        Progress settings out world final (declarations ++ own)
          ((finished ++ [path]).map progressLine) ∧
        (convertFiles readers settings kinds out paths).run world = (.error fault, final)) := by
  induction paths generalizing world with
  | nil => exact ⟨[], [], rfl, by simp, Or.inl ⟨rfl, world, .none rfl (by simp), rfl⟩⟩
  | cons path paths ih =>
      have hpath := hpaths path List.mem_cons_self
      simp only [convertFiles, Job.run_bind]
      obtain ⟨first, middle, hfirst, hend⟩ :=
        run_convertFile readers settings kinds out path world
      rcases hend with ⟨hlocate, hdeclared, hrun⟩ | ⟨fault, hstop, hrun⟩
      · obtain ⟨finished, declarations, hdeclarations, hlocated, hrest⟩ :=
          ih (fun path hmem => hpaths path (List.mem_cons_of_mem _ hmem)) middle
        have hfinished : ∀ path ∈ finished, Store.isSource path.location = true := by
          intro other hmem
          apply hpaths other
          rcases hrest with ⟨rfl, -⟩ | ⟨_, _, _, _, _, rfl, -⟩ <;> simp [hmem]
        refine ⟨path :: finished, first ++ declarations, ?_, ?_, ?_⟩
        · rw [declarations?_congr readers settings kinds fun path hmem =>
            hfirst.file?_of_isSource (hfinished path hmem)] at hdeclarations
          simp [declarations?, hdeclared, hdeclarations]
        · rw [List.forall_mem_cons]
          exact ⟨hlocate, fun path hmem =>
            Store.locate_ok_mono hfirst.sameFolders.symm.within (hlocated path hmem)⟩
        · simp only [hrun]
          rcases hrest with ⟨rfl, final, hwritten, hrest⟩ |
            ⟨next, rest, own, fault, final, rfl, hstop, hwritten, hrest⟩
          · refine Or.inl ⟨rfl, final, hfirst.trans hwritten, ?_⟩
            rw [hrest, List.length_append]
            rfl
          · refine Or.inr ⟨next, rest, own, fault, final, rfl, ?_, ?_, by rw [hrest]⟩
            · have hnext := hpaths next (by simp)
              exact hstop.of_file? (hfirst.file?_of_isSource hnext)
            · rw [List.append_assoc]
              exact hfirst.trans hwritten
      · exact ⟨[], [], rfl, by simp, Or.inr ⟨path, paths, first, fault, middle, rfl, hstop,
          hfirst, by rw [hrun]⟩⟩

end ClassWiki.Conversion
