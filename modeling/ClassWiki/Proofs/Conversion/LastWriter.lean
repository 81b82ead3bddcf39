import ClassWiki.Proofs.Conversion.Folder

/-!
# The last declaration of a name has its page

A finished run leaves, for every declared name, the page of the last declaration of
that name, and every other file as it was.  The declarations are those of the store
before the run, also if the pages are put among the sources.
-/

namespace ClassWiki.Conversion

theorem exists_of_mem_pageWrites {settings : Mapping} {out : Path}
    {declarations : List Declaration} {pages : List Page}
    (h : declarations.mapM (page? settings) = some pages) {write : Path × Bytes}
    (hwrite : write ∈ pageWrites out pages) :
    ∃ declaration ∈ declarations, write.1 = out.child (declaration.name ++ ".md") := by
  induction declarations generalizing pages with
  | nil =>
      cases h
      cases hwrite
  | cons declaration declarations ih =>
      obtain ⟨page, rest, hpage, hrest, rfl⟩ := mapM_cons_eq_some_iff.1 h
      rw [pageWrites, List.map_cons, List.mem_cons] at hwrite
      rcases hwrite with rfl | hwrite
      · exact ⟨declaration, List.mem_cons_self, by rw [fileName_of_page? hpage]⟩
      · obtain ⟨other, hmem, hpath⟩ := ih hrest hwrite
        exact ⟨other, List.mem_cons_of_mem _ hmem, hpath⟩

namespace Progress

variable {settings : Mapping} {out : Path} {world final : World}
  {declarations : List Declaration} {lines : List Text}

theorem file?_of_ne_pages (h : Progress settings out world final declarations lines)
    {location : Location}
    (hlocation : ∀ declaration ∈ declarations,
      (out.child (declaration.name ++ ".md")).location ≠ location) :
    final.store.file? location = world.store.file? location := by
  obtain ⟨pages, hpages, hwritten⟩ := h.written
  have hnone : Store.lastWritten? location (pageWrites out pages) = Option.none := by
    rw [Store.lastWritten?_eq_none_iff]
    intro write hwrite
    obtain ⟨declaration, hmem, hpath⟩ := exists_of_mem_pageWrites hpages hwrite
    rw [hpath]
    exact hlocation declaration hmem
  rw [Store.file?_writeAll hwritten, hnone, Option.none_or]

theorem read_page {earlier later : List Declaration} {last : Declaration}
    (h : Progress settings out world final (earlier ++ last :: later) lines)
    (hlater : ∀ declaration ∈ later,
      (out.child (declaration.name ++ ".md")).location ≠
        (out.child (last.name ++ ".md")).location) :
    ∃ page, page? settings last = some page ∧
      final.store.read (out.child (last.name ++ ".md")) = .ok (Utf8.encode page.text) := by
  obtain ⟨pages, hpages, hwritten⟩ := h.written
  obtain ⟨before, rest, -, hrest, rfl⟩ := mapM_append_eq_some_iff.1 hpages
  obtain ⟨page, after, hpage, hafter, rfl⟩ := mapM_cons_eq_some_iff.1 hrest
  have hsplit : pageWrites out (before ++ page :: after) =
      pageWrites out before ++
        (out.child (last.name ++ ".md"), Utf8.encode page.text) :: pageWrites out after := by
    rw [pageWrites, List.map_append, List.map_cons, fileName_of_page? hpage]
    rfl
  rw [hsplit] at hwritten
  obtain ⟨content, hlast, hread⟩ := Store.read_writeAll hwritten
    (List.mem_append_right _ List.mem_cons_self)
  rw [Store.lastWritten?_of_last] at hlast
  · cases hlast
    exact ⟨page, hpage, hread⟩
  · intro write hwrite
    obtain ⟨declaration, hmem, hpath⟩ := exists_of_mem_pageWrites hafter hwrite
    rw [hpath]
    exact hlater declaration hmem

end Progress

/-- A finished run has written one page for each declaration of the sources as they were
before it.  Under every declared name stands the page of the last declaration with that
name, and no other file has changed. -/
theorem convertFolder_last_writer_wins {readers : Readers} {settings : Value}
    {input out : Path} {world final : World} {count : Nat}
    (hrun : (convertFolder readers settings input out).run world = (.ok count, final)) :
    ∃ declarations, declared? readers settings input world.store = some declarations ∧
      count = declarations.length ∧
      ((∀ declaration ∈ declarations, '/' ∉ declaration.name) →
        (∀ earlier last later, declarations = earlier ++ last :: later →
          (∀ declaration ∈ later, declaration.name ≠ last.name) →
          ∃ page, declaredPage? settings last = some page ∧
            final.store.read (out.child (last.name ++ ".md")) =
              .ok (Utf8.encode page.text)) ∧
        ∀ location,
          (∀ declaration ∈ declarations,
            location ≠ out.location ++ [declaration.name ++ (".md" : Text)]) →
          final.store.file? location = world.store.file? location) := by
  obtain ⟨entries, kinds, made, paths, declarations, hcompleted, rfl⟩ := completed_of_run hrun
  refine ⟨declarations, hcompleted.declared?_eq, rfl, ?_⟩
  intro hnames
  constructor
  · rintro earlier last later rfl hlater
    have hlast : '/' ∉ last.name := hnames last (by simp)
    obtain ⟨page, hpage, hread⟩ := hcompleted.progress.read_page (by
      intro declaration hmem heq
      have hdeclaration : '/' ∉ declaration.name := hnames declaration (by simp [hmem])
      exact hlater declaration hmem (Path.location_child_inj hdeclaration hlast heq))
    exact ⟨page, by rw [declaredPage?, hcompleted.settings_eq]; exact hpage, hread⟩
  · intro location hlocation
    rw [hcompleted.progress.file?_of_ne_pages, hcompleted.made_store.file?]
    intro declaration hmem heq
    rw [Path.location_child out (hnames declaration hmem)] at heq
    exact hlocation declaration hmem heq.symm

theorem convertFolder_last_writer_wins_sample :
    ∃ final, (convertFolder Sample.readers (.map Sample.entries) Sample.folder
        Sample.folder).run (Sample.world ("old.md", .file [1])) = (.ok 3, final) ∧
      final.store.read (Sample.folder.child "A.md") =
        .ok (Utf8.encode (Page.ofDeclaration ⟨false, false⟩
          (Sample.declaration "A" "Z")).text) ∧
      final.store.file? ["w", "in", "old.md"] = some [1] ∧
      final.store.file? ["w", "in", "a.cs"] = some (Utf8.encode Sample.source) := by
  have hold : (Sample.world ("old.md", .file [1])).store.file? ["w", "in", "old.md"] =
      some [1] := by decide +kernel
  obtain ⟨final, hrun⟩ := Sample.run_old
  obtain ⟨declarations, hdeclared, -, hresult⟩ := convertFolder_last_writer_wins hrun
  rw [Sample.declared?_eq Sample.sources_old Sample.file?_old] at hdeclared
  cases hdeclared
  obtain ⟨hpages, hothers⟩ := hresult (by decide +kernel)
  obtain ⟨page, hpage, hcontent⟩ := hpages
    [Sample.declaration "A" "X", Sample.declaration "B" "Y"] (Sample.declaration "A" "Z") []
    rfl (by simp)
  refine ⟨final, hrun, ?_, (hothers _ (by decide +kernel)).trans hold,
    (hothers _ (by decide +kernel)).trans Sample.file?_old⟩
  have hoptions : declaredPage? (.map Sample.entries) (Sample.declaration "A" "Z") =
      some (Page.ofDeclaration ⟨false, false⟩ (Sample.declaration "A" "Z")) := by
    decide +kernel
  rw [hoptions] at hpage
  cases hpage
  exact hcontent

end ClassWiki.Conversion
