import ClassWiki.Proofs.Conversion.Folder
import ClassWiki.Proofs.Store.Listing
import ClassWiki.Proofs.Store.Repeat

/-!
# Two runs over the same sources

Two finished runs with the same settings agree on their pages if the input folders hold
the same sources.  Pages are not sources, so a finished run can be done again, and the
second time changes nothing.
-/

namespace ClassWiki.Conversion

/-! ## The same sources in two stores -/

section

variable {readers : Readers} {settings : Value} {input out : Path}
  {world world' final final' : World} {entries entries' : Mapping} {kinds kinds' : List Text}
  {made made' : Store} {paths paths' : List Path}
  {declarations declarations' : List Declaration}

theorem Completed.entries_unique
    (h : Completed readers settings input out world final entries kinds made paths
      declarations)
    (h' : Completed readers settings input out world' final' entries' kinds' made' paths'
      declarations') : entries = entries' ∧ kinds = kinds' := by
  obtain rfl : entries = entries' := by
    cases h.settings_eq.symm.trans h'.settings_eq
    rfl
  cases h.kinds_eq.symm.trans h'.kinds_eq
  exact ⟨rfl, rfl⟩

theorem Completed.declarations_unique
    (h : Completed readers settings input out world final entries kinds made paths
      declarations)
    (h' : Completed readers settings input out world' final' entries kinds made' paths'
      declarations')
    (hworld : world.store.wellFormed = true) (hworld' : world'.store.wellFormed = true)
    (hsame : Store.SameSources input world.store world'.store) :
    declarations = declarations' := by
  obtain ⟨rfl, hfiles⟩ := hsame.sources_eq hworld hworld' h.sources_eq h'.sources_eq
  have hdeclared := h.declarations?_eq
  rw [declarations?_congr readers entries kinds hfiles, h'.declarations?_eq] at hdeclared
  cases hdeclared
  rfl

theorem Progress.read_page_eq {lines lines' : List Text}
    (h : Progress entries out world final declarations lines)
    (h' : Progress entries out world' final' declarations lines')
    {declaration : Declaration} (hmem : declaration ∈ declarations) :
    ∃ content, final.store.read (out.child (declaration.name ++ ".md")) = .ok content ∧
      final'.store.read (out.child (declaration.name ++ ".md")) = .ok content := by
  obtain ⟨pages, hpages, hwritten⟩ := h.written
  obtain ⟨pages', hpages', hwritten'⟩ := h'.written
  cases hpages.symm.trans hpages'
  obtain ⟨page, hpage, hof⟩ := exists_of_mem_of_mapM hpages hmem
  have hwrite := mem_pageWrites out hpage
  rw [fileName_of_page? hof] at hwrite
  obtain ⟨content, hlast, hread⟩ := Store.read_writeAll hwritten hwrite
  obtain ⟨content', hlast', hread'⟩ := Store.read_writeAll hwritten' hwrite
  cases hlast.symm.trans hlast'
  exact ⟨content, hread, hread'⟩

end

/-! ## The same run again -/

theorem run_again {readers : Readers} {settings : Value} {input out : Path}
    {world final again : World} {count : Nat}
    (hrun : (convertFolder readers settings input out).run world = (.ok count, final))
    (hagain : again.store = final.store) :
    ∃ last, (convertFolder readers settings input out).run again = (.ok count, last) ∧
      last.store = final.store := by
  obtain ⟨entries, kinds, made, paths, declarations, hcompleted, rfl⟩ := completed_of_run hrun
  have hprogress := hcompleted.progress
  have hsame : made.SameFolders final.store := hprogress.sameFolders
  obtain ⟨pages, hpages, hwritten⟩ := hprogress.written
  have hinput : made.holdsFolder input = .ok true :=
    Store.holdsFolder_mono hcompleted.made_store.foldersWithin hcompleted.input_eq
  have hout : final.store.holdsFolder out = .ok true :=
    Store.holdsFolder_mono hsame.within
      (Store.holdsFolder_of_ensureFolders hcompleted.made_eq)
  have hready : Ready settings input again.store entries kinds := by
    refine ⟨hcompleted.settings_eq, hcompleted.kinds_eq, ?_⟩
    rw [hagain]
    exact Store.holdsFolder_mono hsame.within hinput
  have hmade : again.store.ensureFolders out = (final.store, .ok ()) := by
    rw [hagain]
    exact Store.ensureFolders_of_holdsFolder hout
  have hsources : final.store.sources input = .ok paths :=
    Store.sources_writeAll hwritten
      (fun _ hwrite => Progress.isSource_of_mem_pageWrites hwrite) hinput
      hcompleted.paths_eq
  have hdeclared : declarations? readers entries kinds final.store paths =
      some declarations := by
    rw [declarations?_congr readers entries kinds fun path hpath =>
      hprogress.file?_of_isSource (Store.isSource_of_mem_sources hsources hpath)]
    exact hcompleted.declarations_eq
  have hwritable : ∀ page ∈ pages, final.store.Writable (out.child page.fileName) := by
    intro page hpage
    have hbefore := Store.writable_of_writeAll hwritten (mem_pageWrites out hpage)
    exact hbefore.of_sameFolders hsame
  obtain ⟨last, hlast, hstore⟩ := run_of_writable hready hmade hsources
    (fun path hpath => Store.locate_ok_mono hsame.within (hcompleted.located path hpath))
    hdeclared hpages hwritable
  rw [Store.writeAll_again hwritten] at hstore
  exact ⟨last, hlast, (Except.ok.inj hstore).symm⟩

/-- The sources alone decide how many pages a finished run has written and what stands in
each of them.  A finished run that is done again finishes again and leaves the store as
it is. -/
theorem convertFolder_determined_by_sources (readers : Readers) (settings : Value)
    (input out : Path) :
    (∀ first second final final' count count',
      first.store.wellFormed = true → second.store.wellFormed = true →
      Store.SameSources input first.store second.store →
      (convertFolder readers settings input out).run first = (.ok count, final) →
      (convertFolder readers settings input out).run second = (.ok count', final') →
      count = count' ∧ ∃ declarations,
        declared? readers settings input first.store = some declarations ∧
        declared? readers settings input second.store = some declarations ∧
        ∀ declaration ∈ declarations, ∃ content,
          final.store.read (out.child (declaration.name ++ ".md")) = .ok content ∧
          final'.store.read (out.child (declaration.name ++ ".md")) = .ok content) ∧
    ∀ world final count again,
      (convertFolder readers settings input out).run world = (.ok count, final) →
      again.store = final.store →
      ∃ last, (convertFolder readers settings input out).run again = (.ok count, last) ∧
        last.store = final.store := by
  refine ⟨?_, fun _ _ _ _ hrun hagain => run_again hrun hagain⟩
  intro first second final final' count count' hfirst hsecond hsame hrun hrun'
  obtain ⟨entries, kinds, made, paths, declarations, hcompleted, rfl⟩ := completed_of_run hrun
  obtain ⟨_, _, made', paths', _, hcompleted', rfl⟩ := completed_of_run hrun'
  obtain ⟨rfl, rfl⟩ := hcompleted.entries_unique hcompleted'
  obtain rfl := hcompleted.declarations_unique hcompleted' hfirst hsecond hsame
  exact ⟨rfl, declarations, hcompleted.declared?_eq, hcompleted'.declared?_eq,
    fun declaration hmem => hcompleted.progress.read_page_eq hcompleted'.progress hmem⟩

theorem Sample.fileBelow?_eq {name : Text} (hname : Store.isSourceName name = false)
    (content : Bytes) {location : Location} (hsource : Store.isSource location = true) :
    (world (name, .file content)).store.fileBelow? folder location =
      if location = [("a.cs" : Text)] then some (Utf8.encode source) else none := by
  have hentry : (world (name, .file content)).store.entry folder =
      .ok (.folder [(name, .file content), ("a.cs", .file (Utf8.encode source))]) := by cbv
  simp only [Store.fileBelow?, hentry]
  cases location with
  | nil => cases hsource
  | cons first rest =>
      simp only [Entry.see?_cons_folder, List.lookup_cons, List.cons.injEq]
      cases rest with
      | nil =>
          have hne : (first == name) = false := by
            rw [beq_eq_false_iff_ne]
            rintro rfl
            simp [Store.isSource, hname] at hsource
          simp only [hne, and_true]
          cases hfirst : first == ("a.cs" : Text) with
          | true =>
              rw [if_pos (beq_iff_eq.1 hfirst)]
              rfl
          | false =>
              rw [if_neg (beq_eq_false_iff_ne.1 hfirst)]
              rfl
      | cons next rest =>
          rw [if_neg (by simp)]
          cases first == name <;> cases first == ("a.cs" : Text) <;> rfl

theorem convertFolder_determined_by_sources_sample :
    ∃ final final',
      (convertFolder Sample.readers (.map Sample.entries) Sample.folder
        Sample.folder).run (Sample.world ("old.md", .file [1])) = (.ok 3, final) ∧
      (convertFolder Sample.readers (.map Sample.entries) Sample.folder
        Sample.folder).run (Sample.world ("A.md", .file [2])) = (.ok 3, final') ∧
      (∃ content, final.store.read (Sample.folder.child "A.md") = .ok content ∧
        final'.store.read (Sample.folder.child "A.md") = .ok content) ∧
      ∃ last, (convertFolder Sample.readers (.map Sample.entries) Sample.folder
        Sample.folder).run final = (.ok 3, last) ∧ last.store = final.store := by
  have hsources : (Sample.world ("A.md", .file [2])).store.sources Sample.folder =
      .ok [Sample.path] := by cbv
  have hread : (Sample.world ("A.md", .file [2])).store.read Sample.path =
      .ok (Utf8.encode Sample.source) := by cbv
  obtain ⟨final, hrun⟩ := Sample.run_old
  obtain ⟨final', hrun'⟩ := Sample.run_eq hsources hread
    ⟨["w", "in", "A.md"], by cbv, by decide +kernel⟩
    ⟨["w", "in", "B.md"], by cbv, by decide +kernel⟩
  have hsame : Store.SameSources Sample.folder (Sample.world ("old.md", .file [1])).store
      (Sample.world ("A.md", .file [2])).store := by
    intro location hsource
    rw [Sample.fileBelow?_eq (by decide +kernel) _ hsource,
      Sample.fileBelow?_eq (by decide +kernel) _ hsource]
  obtain ⟨hpages, hagain⟩ := convertFolder_determined_by_sources Sample.readers
    (.map Sample.entries) Sample.folder Sample.folder
  obtain ⟨-, declarations, hdeclared, -, hcontent⟩ := hpages _ _ _ _ _ _ (by decide +kernel)
    (by decide +kernel) hsame hrun hrun'
  rw [Sample.declared?_eq Sample.sources_old Sample.file?_old] at hdeclared
  cases hdeclared
  exact ⟨final, final', hrun, hrun', hcontent _ List.mem_cons_self,
    hagain _ _ _ final hrun rfl⟩

end ClassWiki.Conversion
