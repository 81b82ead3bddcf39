import ClassWiki.Proofs.Store.Search

/-!
# Listings of folders

A folder lists each name once.  The search then finds the same sources in any two
stores that hold the same files with such names below a folder, whatever else they
hold and in whatever order they list it, because the sources are put in order.
-/

namespace ClassWiki

/-! ## Orders for sorting -/

section Orders

variable {α : Type}

/-- An order in which lists can be sorted in one way only. -/
structure Sorts (le : α → α → Bool) : Prop where
  trans : ∀ a b c, le a b = true → le b c = true → le a c = true
  total : ∀ a b, (le a b || le b a) = true
  antisymm : ∀ a b, le a b = true → le b a = true → a = b

theorem Sorts.mergeSort_eq {le : α → α → Bool} (h : Sorts le) {first second : List α}
    (hfirst : first.Nodup) (hsecond : second.Nodup) (hmem : ∀ a, a ∈ first ↔ a ∈ second) :
    first.mergeSort le = second.mergeSort le := by
  have hperm : (first.mergeSort le).Perm (second.mergeSort le) :=
    (List.mergeSort_perm first le).trans
      (((List.perm_ext_iff_of_nodup hfirst hsecond).2 hmem).trans
        (List.mergeSort_perm second le).symm)
  exact hperm.eq_of_pairwise (fun a b _ _ => h.antisymm a b)
    (List.pairwise_mergeSort h.trans h.total first)
    (List.pairwise_mergeSort h.trans h.total second)

def lexicographic [DecidableEq α] (le : α → α → Bool) : List α → List α → Bool
  | [], _ => true
  | _ :: _, [] => false
  | a :: as, b :: bs => if a = b then lexicographic le as bs else le a b

theorem sorts_lexicographic [DecidableEq α] {le : α → α → Bool} (h : Sorts le) :
    Sorts (lexicographic le) where
  trans := by
    intro as bs cs
    induction as generalizing bs cs with
    | nil => simp [lexicographic]
    | cons a as ih =>
        cases bs with
        | nil => simp [lexicographic]
        | cons b bs =>
            cases cs with
            | nil => simp [lexicographic]
            | cons c cs =>
                simp only [lexicographic]
                by_cases hab : a = b
                · subst hab
                  by_cases hac : a = c
                  · simpa [hac] using ih bs cs
                  · simp [hac]
                · by_cases hbc : b = c
                  · subst hbc
                    simp only [hab, if_false]
                    exact fun hfirst _ => hfirst
                  · by_cases hac : a = c
                    · subst hac
                      intro hfirst hsecond
                      simp only [hab, hbc, if_false] at hfirst hsecond
                      exact absurd (h.antisymm a b hfirst hsecond) hab
                    · simpa [hab, hbc, hac] using h.trans a b c
  total := by
    intro as bs
    induction as generalizing bs with
    | nil => simp [lexicographic]
    | cons a as ih =>
        cases bs with
        | nil => simp [lexicographic]
        | cons b bs =>
            by_cases hab : a = b
            · simpa [lexicographic, hab] using ih bs
            · simpa [lexicographic, hab, Ne.symm hab] using h.total a b
  antisymm := by
    intro as bs
    induction as generalizing bs with
    | nil => cases bs <;> simp [lexicographic]
    | cons a as ih =>
        cases bs with
        | nil => simp [lexicographic]
        | cons b bs =>
            by_cases hab : a = b
            · simpa [lexicographic, hab] using ih bs
            · intro hfirst hsecond
              simp only [lexicographic, hab, Ne.symm hab, if_false]
                at hfirst hsecond
              exact absurd (h.antisymm a b hfirst hsecond) hab

end Orders

theorem Text.le_eq : Text.le = lexicographic fun c d => decide (c.toNat ≤ d.toNat) := by
  funext first second
  induction first generalizing second with
  | nil => rfl
  | cons c first ih =>
      cases second with
      | nil => rfl
      | cons d second =>
          rw [Text.le, lexicographic]
          split
          · exact ih second
          · next hne =>
              have hnat : c.toNat ≠ d.toNat := fun heq => hne (Char.toNat_inj.1 heq)
              simp only [decide_eq_decide]
              omega

theorem Text.sorts_le : Sorts Text.le := by
  have hchars : Sorts fun c d : Char => decide (c.toNat ≤ d.toNat) := by
    refine ⟨?_, ?_, ?_⟩
    · intro a b c
      simp only [decide_eq_true_eq]
      omega
    · intro a b
      simp only [Bool.or_eq_true, decide_eq_true_eq]
      omega
    · intro a b hab hba
      simp only [decide_eq_true_eq] at hab hba
      exact Char.toNat_inj.1 (by omega)
  rw [Text.le_eq]
  exact sorts_lexicographic hchars

theorem Location.le_eq : Location.le = lexicographic Text.le := by
  funext first second
  induction first generalizing second with
  | nil => rfl
  | cons name first ih =>
      cases second with
      | nil => rfl
      | cons other second => rw [Location.le, lexicographic, ih]

theorem Location.sorts_le : Sorts Location.le := by
  rw [Location.le_eq]
  exact sorts_lexicographic Text.sorts_le

/-! ## Folders as they are listed -/

namespace Entry

mutual

/-- Every folder lists a name at most once, and none of them is two dots. -/
def wellFormed : Entry → Bool
  | .file _ => true
  | .folder entries => wellFormedOf entries

def wellFormedOf : List (Text × Entry) → Bool
  | [] => true
  | (name, entry) :: entries =>
      name != ".." && (entries.lookup name).isNone && entry.wellFormed && wellFormedOf entries

end

theorem wellFormedOf_cons_iff {name : Text} {entry : Entry} {entries : List (Text × Entry)} :
    wellFormedOf ((name, entry) :: entries) = true ↔
      name ≠ ".." ∧ entries.lookup name = none ∧ entry.wellFormed = true ∧
        wellFormedOf entries = true := by
  rw [wellFormedOf]
  simp only [Bool.and_eq_true, bne_iff_ne, Option.isNone_iff_eq_none, and_assoc]

theorem of_lookup_of_wellFormedOf {name : Text} {entry : Entry} {entries : List (Text × Entry)}
    (h : wellFormedOf entries = true) (hlookup : entries.lookup name = some entry) :
    name ≠ ".." ∧ entry.wellFormed = true := by
  induction entries with
  | nil => simp at hlookup
  | cons first entries ih =>
      obtain ⟨other, old⟩ := first
      obtain ⟨hdots, -, hold, hentries⟩ := wellFormedOf_cons_iff.1 h
      rw [List.lookup_cons] at hlookup
      split at hlookup
      · next hname =>
          cases hlookup
          exact ⟨by simpa [beq_iff_eq.1 hname] using hdots, hold⟩
      · exact ih hentries hlookup

theorem of_get?_of_wellFormed {entry inner : Entry} {location : Location}
    (h : entry.wellFormed = true) (hget : entry.get? location = some inner) :
    (".." : Text) ∉ location ∧ inner.wellFormed = true := by
  induction location generalizing entry with
  | nil =>
      cases hget
      exact ⟨by simp, h⟩
  | cons name location ih =>
      obtain ⟨entries, rfl⟩ := eq_folder_of_get?_cons hget
      obtain ⟨below, hbelow, hfound⟩ := lookup_of_get?_cons hget
      rw [wellFormed] at h
      obtain ⟨hdots, hwell⟩ := of_lookup_of_wellFormedOf h hbelow
      obtain ⟨hrest, hinner⟩ := ih hwell hfound
      exact ⟨List.not_mem_cons_of_ne_of_not_mem hdots.symm hrest, hinner⟩

mutual

theorem mem_files_iff (entry : Entry) (h : entry.wellFormed = true) (location : Location)
    (content : Bytes) :
    (location, content) ∈ entry.files ↔ entry.see? location = some (.file content) := by
  cases entry with
  | file bytes => cases location <;> simp [files, sight, eq_comm]
  | folder entries => exact mem_filesOf_iff entries h location content

theorem mem_filesOf_iff (entries : List (Text × Entry)) (h : wellFormedOf entries = true)
    (location : Location) (content : Bytes) :
    (location, content) ∈ filesOf entries ↔
      (Entry.folder entries).see? location = some (.file content) := by
  cases entries with
  | nil => cases location <;> simp [filesOf, sight, see?_cons_folder]
  | cons first entries =>
      obtain ⟨name, entry⟩ := first
      obtain ⟨-, hfresh, hentry, hentries⟩ := wellFormedOf_cons_iff.1 h
      rw [filesOf, List.mem_append, mem_filesOf_iff entries hentries location content]
      cases location with
      | nil => simp [sight]
      | cons other location =>
          rw [see?_cons_folder, see?_cons_folder, List.lookup_cons]
          by_cases hother : other = name
          · subst hother
            simp [hfresh, mem_files_iff entry hentry location content]
          · have hne : (other == name) = false := by simpa using hother
            simp [hne, Ne.symm hother]

end

mutual

theorem nodup_files (entry : Entry) (h : entry.wellFormed = true) :
    (entry.files.map Prod.fst).Nodup := by
  cases entry with
  | file bytes => simp [files]
  | folder entries => exact nodup_filesOf entries h

theorem nodup_filesOf (entries : List (Text × Entry)) (h : wellFormedOf entries = true) :
    ((filesOf entries).map Prod.fst).Nodup := by
  cases entries with
  | nil => simp [filesOf]
  | cons first entries =>
      obtain ⟨name, entry⟩ := first
      obtain ⟨-, hfresh, hentry, hentries⟩ := wellFormedOf_cons_iff.1 h
      rw [filesOf, List.map_append, List.map_map, List.nodup_append]
      refine ⟨?_, nodup_filesOf entries hentries, ?_⟩
      · have hnodup := nodup_files entry hentry
        rw [List.Nodup, List.pairwise_map] at hnodup ⊢
        exact hnodup.imp fun hne heq => hne (List.cons.inj heq).2
      · -- a file further on is not below this name, which is not listed again
        rintro location hfirst _ hsecond rfl
        obtain ⟨inner, -, rfl⟩ := List.mem_map.1 hfirst
        obtain ⟨⟨_, content⟩, hfile, rfl⟩ := List.mem_map.1 hsecond
        rw [mem_filesOf_iff entries hentries] at hfile
        change (Entry.folder entries).see? (name :: inner.1) = some (.file content) at hfile
        rw [see?_cons_folder, hfresh] at hfile
        cases hfile

end

end Entry

/-! ## Sources below a folder -/

theorem Path.location_below (path : Path) {rest : Location} (h : (".." : Text) ∉ rest) :
    (path.below rest).location = path.location ++ rest := by
  induction rest generalizing path with
  | nil => simp [Path.below]
  | cons name rest ih =>
      rw [List.mem_cons, not_or] at h
      have hstep : path.below (name :: rest) = (path.below [name]).below rest := by
        simp [Path.below]
      have hname : (path.below [name]).location = path.location ++ [name] :=
        Path.location_concat path.anchor path.parts (Ne.symm h.1)
      rw [hstep, ih _ h.2, hname, List.append_assoc, List.singleton_append]

namespace Store

def wellFormed (store : Store) : Bool := store.root.wellFormed

/-- The bytes of the file that lies at a location below the folder at a path. -/
def fileBelow? (store : Store) (path : Path) (location : Location) : Option Bytes :=
  match store.entry path with
  | .ok entry =>
      match entry.see? location with
      | some (.file content) => some content
      | _ => none
  | .error _ => none

theorem fileBelow?_eq_some_iff {store : Store} {path : Path} {location : Location}
    {content : Bytes} :
    store.fileBelow? path location = some content ↔
      ∃ entry, store.entry path = .ok entry ∧
        entry.see? location = some (.file content) := by
  rw [fileBelow?]
  cases store.entry path with
  | error fault => simp
  | ok entry =>
      cases hsee : entry.see? location with
      | none => simp [hsee]
      | some sight => cases sight <;> simp [hsee]

theorem entry_eq_ok_iff {store : Store} {path : Path} {entry : Entry} :
    store.entry path = .ok entry ↔
      store.locate path = .ok path.location ∧ store.get? path.location = some entry := by
  unfold Store.entry
  cases hlocate : store.locate path with
  | error fault => simp [bind, Except.bind]
  | ok location =>
      obtain ⟨rfl, -⟩ := locate_eq_ok hlocate
      cases hget : store.get? path.location <;> simp [bind, Except.bind, hget]

theorem file?_of_fileBelow? {store : Store} (hwell : store.wellFormed = true) {path : Path}
    {location : Location} {content : Bytes}
    (h : store.fileBelow? path location = some content) :
    store.file? (path.below location).location = some content := by
  obtain ⟨entry, hentry, hsee⟩ := fileBelow?_eq_some_iff.1 h
  obtain ⟨-, hget⟩ := entry_eq_ok_iff.1 hentry
  have hwell' := (Entry.of_get?_of_wellFormed hwell hget).2
  obtain ⟨inner, hinner, -⟩ := Option.map_eq_some_iff.1 hsee
  have hdots := (Entry.of_get?_of_wellFormed hwell' hinner).1
  rw [get?] at hget
  rw [file?_eq_some_iff, Path.location_below path hdots, see?, Entry.see?_append, hget]
  exact hsee

theorem exists_of_sources {store : Store} (hwell : store.wellFormed = true) {input : Path}
    {paths : List Path} (h : store.sources input = .ok paths) :
    ∃ locations : List Location, locations.Nodup ∧
      (∀ location, location ∈ locations ↔
        isSource location = true ∧ ∃ content, store.fileBelow? input location = some content) ∧
      paths = (locations.mergeSort Location.le).map input.below := by
  unfold sources at h
  simp only [fileBelow?_eq_some_iff]
  split at h
  · next entries hentry =>
      split at h
      · cases h
      · cases h
        have hwell' := (Entry.of_get?_of_wellFormed hwell (entry_eq_ok_iff.1 hentry).2).2
        refine ⟨Entry.sourcesOf entries, (Entry.nodup_filesOf entries hwell').filter _, ?_, rfl⟩
        intro location
        simp [Entry.sourcesOf, Entry.mem_filesOf_iff entries hwell', hentry, and_comm]
  · next content hentry =>
      cases h
      refine ⟨[], List.nodup_nil, ?_, by simp⟩
      intro location
      cases location <;> simp [isSource, hentry]
  · cases h
  · next fault _ hentry =>
      cases h
      exact ⟨[], List.nodup_nil, by simp [hentry], by simp⟩

/-- Below a folder both stores have the same files that are named like a source, with the
same bytes. -/
def SameSources (input : Path) (store other : Store) : Prop :=
  ∀ location, isSource location = true →
    store.fileBelow? input location = other.fileBelow? input location

theorem SameSources.sources_eq {input : Path} {store other : Store}
    (h : SameSources input store other) (hstore : store.wellFormed = true)
    (hother : other.wellFormed = true) {paths others : List Path}
    (hpaths : store.sources input = .ok paths) (hothers : other.sources input = .ok others) :
    paths = others ∧ ∀ path ∈ paths, store.file? path.location = other.file? path.location := by
  obtain ⟨first, hfirst, hmem, rfl⟩ := exists_of_sources hstore hpaths
  obtain ⟨second, hsecond, hmem', rfl⟩ := exists_of_sources hother hothers
  constructor
  · rw [Location.sorts_le.mergeSort_eq hfirst hsecond]
    intro location
    rw [hmem, hmem']
    refine and_congr_right fun hsource => ?_
    rw [h location hsource]
  · intro path hpath
    obtain ⟨location, hlocation, rfl⟩ := List.mem_map.1 hpath
    rw [List.mem_mergeSort, hmem] at hlocation
    obtain ⟨hsource, content, hcontent⟩ := hlocation
    rw [file?_of_fileBelow? hstore hcontent,
      file?_of_fileBelow? hother ((h location hsource).symm.trans hcontent)]

end Store

end ClassWiki
