import ClassWiki.Proofs.Store.Write
import ClassWiki.Store.Sources

/-!
# The search for sources

Folders that are made, and files that are not named like a source, do not change which
sources are found.  A folder can only get in the way of the search, and a file that is
no source cannot even do that.
-/

namespace ClassWiki

namespace Entry

open Store (isSource isSourceName)

/-! ## Sources of a folder, entry by entry -/

def sourcesOf (entries : List (Text × Entry)) : List Location :=
  ((filesOf entries).map Prod.fst).filter isSource

/-- The sources at or below one entry, seen from the folder that lists it. -/
def sourcesAt (name : Text) : Entry → List Location
  | .file _ => if isSourceName name then [[name]] else []
  | .folder below => (sourcesOf below).map (name :: ·)

private theorem ne_nil_of_mem_filesOf {entries : List (Text × Entry)}
    {file : Location × Bytes} (h : file ∈ filesOf entries) : file.1 ≠ [] := by
  induction entries with
  | nil => simp [filesOf] at h
  | cons entry entries ih =>
      rw [filesOf, List.mem_append, List.mem_map] at h
      rcases h with ⟨inner, -, rfl⟩ | h
      · simp
      · exact ih h

theorem isSource_cons (name next : Text) (location : Location) :
    isSource (name :: next :: location) = isSource (next :: location) := by
  simp [isSource]

private theorem filter_map_cons (name : Text) (locations : List Location)
    (h : ∀ location ∈ locations, location ≠ []) :
    (locations.map (name :: ·)).filter isSource =
      (locations.filter isSource).map (name :: ·) := by
  rw [List.filter_map]
  congr 1
  apply List.filter_congr
  intro location hmem
  cases location with
  | nil => exact absurd rfl (h [] hmem)
  | cons next location => exact isSource_cons name next location

theorem sourcesOf_cons (name : Text) (entry : Entry) (entries : List (Text × Entry)) :
    sourcesOf ((name, entry) :: entries) = sourcesAt name entry ++ sourcesOf entries := by
  rw [sourcesOf, filesOf, List.map_append, List.filter_append]
  congr 1
  cases entry with
  | file content =>
      simp only [files, sourcesAt, isSource, List.map_cons, List.map_nil, List.filter_cons,
        List.filter_nil, List.getLast?_singleton]
      rfl
  | folder below =>
      rw [files, List.map_map, sourcesAt, sourcesOf, ← filter_map_cons, List.map_map]
      · rfl
      · intro location hmem
        obtain ⟨file, hfile, rfl⟩ := List.mem_map.1 hmem
        exact ne_nil_of_mem_filesOf hfile

private theorem sourcesOf_insert {name : Text} {new : Entry} {entries : List (Text × Entry)}
    (h : sourcesAt name new = ((entries.lookup name).map (sourcesAt name)).getD []) :
    sourcesOf (insert name new entries) = sourcesOf entries := by
  induction entries with
  | nil =>
      rw [insert, sourcesOf_cons, h]
      rfl
  | cons entry entries ih =>
      obtain ⟨other, old⟩ := entry
      by_cases hother : other = name
      · subst hother
        have hsame : sourcesAt other new = sourcesAt other old := by simpa using h
        rw [insert, if_pos rfl, sourcesOf_cons, sourcesOf_cons, hsame]
      · have hne : (name == other) = false := by simpa using Ne.symm hother
        rw [List.lookup_cons, hne] at h
        rw [insert, if_neg hother, sourcesOf_cons, sourcesOf_cons, ih h]

/-! ## Entries that are no sources -/

/-- The entry to be put at the place makes no difference to a search: it is an empty
folder at a free place, or a file without the name of a source. -/
def Silent (new : Entry) (place : Location) (entries : List (Text × Entry)) : Prop :=
  (new = .folder [] ∧ (Entry.folder entries).see? place = none) ∨
    (∃ content, new = .file content) ∧ isSource place = false

private theorem Silent.below {new : Entry} {name next : Text} {place : Location}
    {entries below : List (Text × Entry)} (h : Silent new (name :: next :: place) entries)
    (hlookup : entries.lookup name = some (.folder below)) :
    Silent new (next :: place) below := by
  rcases h with ⟨hnew, hfree⟩ | ⟨hnew, hplace⟩
  · rw [see?_cons_folder, hlookup] at hfree
    exact Or.inl ⟨hnew, hfree⟩
  · exact Or.inr ⟨hnew, by rw [← hplace, isSource_cons]⟩

private theorem sourcesAt_eq_of_silent {new : Entry} {name : Text}
    {entries : List (Text × Entry)} (h : Silent new [name] entries)
    (hfree : (Entry.folder entries).see? [name] ≠ some .folder) :
    sourcesAt name new = ((entries.lookup name).map (sourcesAt name)).getD [] := by
  rcases h with ⟨rfl, hnone⟩ | ⟨⟨content, rfl⟩, hname⟩
  · rw [see?_cons_folder] at hnone
    cases hlookup : entries.lookup name with
    | none => rfl
    | some old => simp [hlookup] at hnone
  · have hsource : isSourceName name = false := by simpa [isSource] using hname
    rw [see?_cons_folder] at hfree
    cases hlookup : entries.lookup name with
    | none => simp [sourcesAt, hsource]
    | some old =>
        cases old with
        | file old => simp [sourcesAt, hsource]
        | folder below => simp [hlookup, sight] at hfree

theorem lookup_of_parent {name next : Text} {place : Location}
    {entries : List (Text × Entry)}
    (hparent : (Entry.folder entries).see? (name :: next :: place).dropLast = some .folder) :
    ∃ below, entries.lookup name = some (.folder below) ∧
      (Entry.folder below).see? (next :: place).dropLast = some .folder := by
  rw [List.dropLast_cons_cons, see?_cons_folder, Option.bind_eq_some_iff] at hparent
  obtain ⟨inner, hlookup, hinner⟩ := hparent
  obtain ⟨below, rfl⟩ := eq_folder_of_see? hinner
  exact ⟨below, hlookup, hinner⟩

theorem sourcesOf_insertAt {new : Entry} {place : Location} {entries : List (Text × Entry)}
    (hparent : (Entry.folder entries).see? place.dropLast = some .folder)
    (hfree : (Entry.folder entries).see? place ≠ some .folder)
    (hsilent : Silent new place entries) :
    sourcesOf (insertAt new place entries) = sourcesOf entries := by
  induction place generalizing entries with
  | nil => rfl
  | cons name rest ih =>
      cases rest with
      | nil => exact sourcesOf_insert (sourcesAt_eq_of_silent hsilent hfree)
      | cons next rest =>
          obtain ⟨below, hlookup, hbelow⟩ := lookup_of_parent hparent
          rw [see?_cons_folder, hlookup, Option.bind_some] at hfree
          rw [insertAt, hlookup]
          apply sourcesOf_insert
          rw [hlookup, Option.map_some, Option.getD_some, sourcesAt, sourcesAt,
            ih hbelow hfree (hsilent.below hlookup)]

/-! ## Entries after an insertion -/

theorem mem_of_lookup {name : Text} {entry : Entry} {entries : List (Text × Entry)}
    (h : entries.lookup name = some entry) : (name, entry) ∈ entries := by
  induction entries with
  | nil => simp at h
  | cons first entries ih =>
      obtain ⟨other, old⟩ := first
      rw [List.lookup_cons] at h
      split at h
      · next hname =>
          have hother : name = other := by simpa using hname
          cases h
          simp [hother]
      · exact List.mem_cons_of_mem _ (ih h)

private theorem mem_insert {name : Text} {new : Entry} {entries : List (Text × Entry)}
    {item : Text × Entry} (h : item ∈ insert name new entries) :
    item ∈ entries ∨ item = (name, new) := by
  induction entries with
  | nil => exact Or.inr (by simpa [insert] using h)
  | cons first entries ih =>
      obtain ⟨other, old⟩ := first
      rw [insert] at h
      split at h
      · next hother =>
          rcases List.mem_cons.1 h with rfl | h
          · exact Or.inr (by rw [hother])
          · exact Or.inl (List.mem_cons_of_mem _ h)
      · rcases List.mem_cons.1 h with rfl | h
        · exact Or.inl List.mem_cons_self
        · exact (ih h).imp_left (List.mem_cons_of_mem _)

private theorem mem_insert_of_mem {name : Text} (new : Entry) {entries : List (Text × Entry)}
    {item : Text × Entry} (h : item ∈ entries) :
    item ∈ insert name new entries ∨ item.1 = name ∧ entries.lookup name = some item.2 := by
  induction entries with
  | nil => cases h
  | cons first entries ih =>
      obtain ⟨other, old⟩ := first
      rw [insert]
      split
      · next hother =>
          rcases List.mem_cons.1 h with rfl | h
          · exact Or.inr ⟨hother, by simp [hother]⟩
          · exact Or.inl (List.mem_cons_of_mem _ h)
      · next hother =>
          have hne : (name == other) = false := by simpa using Ne.symm hother
          rcases List.mem_cons.1 h with rfl | h
          · exact Or.inl List.mem_cons_self
          · rw [List.lookup_cons, hne]
            exact (ih h).imp_left (List.mem_cons_of_mem _)

end Entry

namespace Store

/-! ## Obstacles -/

private theorem obstacleBelow?_eq_none_iff {path : Path} {entries : List (Text × Entry)} :
    obstacleBelow? path entries = none ↔
      ∀ item ∈ entries, obstacle? (path.below [item.1]) item.2 = none := by
  induction entries with
  | nil => simp [obstacleBelow?]
  | cons item entries ih =>
      obtain ⟨name, entry⟩ := item
      rw [obstacleBelow?, Option.or_eq_none_iff, ih, List.forall_mem_cons]

theorem obstacle?_eq_none_iff {path : Path} {entries : List (Text × Entry)} :
    obstacle? path (.folder entries) = none ↔
      path.isLong = false ∧ ∀ item ∈ entries,
        (isSourceName item.1 = true → (path.below [item.1]).isLong = false) ∧
          obstacle? (path.below [item.1]) item.2 = none := by
  have hnames : (((entries.map Prod.fst).filter isSourceName).map
      fun name => path.below [name]).find? Path.isLong = none ↔
      ∀ item ∈ entries,
        isSourceName item.1 = true → (path.below [item.1]).isLong = false := by
    simp [List.find?_eq_none]
  by_cases hlong : path.isLong = true
  · simp [obstacle?, hlong]
  · simp only [imp_and, forall_and]
    rw [← hnames, obstacle?, if_neg hlong]
    cases hfound : (((entries.map Prod.fst).filter isSourceName).map
        fun name => path.below [name]).find? Path.isLong with
    | some long => simp [hfound]
    | none => simp [hfound, hlong, obstacleBelow?_eq_none_iff]

theorem obstacle?_of_insertAt_folder {place : Location} {entries : List (Text × Entry)}
    (hplace : place ≠ [])
    (hparent : (Entry.folder entries).see? place.dropLast = some .folder)
    (hfree : (Entry.folder entries).see? place = none) {path : Path}
    (h : obstacle? path (.folder (Entry.insertAt (.folder []) place entries)) = none) :
    obstacle? path (.folder entries) = none := by
  induction place generalizing entries path with
  | nil => exact absurd rfl hplace
  | cons name rest ih =>
      cases rest with
      | nil =>
          rw [Entry.insertAt] at h
          rw [obstacle?_eq_none_iff] at h ⊢
          refine ⟨h.1, ?_⟩
          intro item hitem
          rcases Entry.mem_insert_of_mem (.folder []) hitem with hkept | ⟨-, hlookup⟩
          · exact h.2 item hkept
          · simp [Entry.see?_cons_folder, hlookup] at hfree
      | cons next rest =>
          obtain ⟨below, hlookup, hbelow⟩ := Entry.lookup_of_parent hparent
          rw [Entry.see?_cons_folder, hlookup, Option.bind_some] at hfree
          simp only [Entry.insertAt, hlookup] at h
          rw [obstacle?_eq_none_iff] at h ⊢
          refine ⟨h.1, ?_⟩
          intro item hitem
          rcases Entry.mem_insert_of_mem
            (.folder (Entry.insertAt (.folder []) (next :: rest) below)) hitem with
            hkept | ⟨hname, hfound⟩
          · exact h.2 item hkept
          · -- the entry on the way to the place: the search below it is the one step less
            obtain ⟨other, old⟩ := item
            obtain rfl : other = name := hname
            obtain rfl : Entry.folder below = old := by simpa [hlookup] using hfound
            have hnew := h.2 _ (Entry.mem_of_lookup (Entry.lookup_insert_self other
              (.folder (Entry.insertAt (.folder []) (next :: rest) below)) entries))
            exact ⟨hnew.1, ih (by simp) hbelow hfree hnew.2⟩

theorem obstacle?_insertAt_file {place : Location} {entries : List (Text × Entry)}
    {content : Bytes} (hplace : place ≠ [])
    (hparent : (Entry.folder entries).see? place.dropLast = some .folder)
    (hsource : isSource place = false) {path : Path}
    (h : obstacle? path (.folder entries) = none) :
    obstacle? path (.folder (Entry.insertAt (.file content) place entries)) = none := by
  induction place generalizing entries path with
  | nil => exact absurd rfl hplace
  | cons name rest ih =>
      cases rest with
      | nil =>
          have hname : isSourceName name = false := by simpa [isSource] using hsource
          rw [Entry.insertAt]
          rw [obstacle?_eq_none_iff] at h ⊢
          refine ⟨h.1, ?_⟩
          intro item hitem
          rcases Entry.mem_insert hitem with hold | rfl
          · exact h.2 item hold
          · exact ⟨by simp [hname], rfl⟩
      | cons next rest =>
          obtain ⟨below, hlookup, hbelow⟩ := Entry.lookup_of_parent hparent
          simp only [Entry.insertAt, hlookup]
          rw [obstacle?_eq_none_iff] at h ⊢
          refine ⟨h.1, ?_⟩
          intro item hitem
          rcases Entry.mem_insert hitem with hold | rfl
          · exact h.2 item hold
          · obtain ⟨hlong, hclear⟩ := h.2 _ (Entry.mem_of_lookup hlookup)
            exact ⟨hlong, ih (by simp) hbelow
              ((Entry.isSource_cons name next rest).symm.trans hsource) hclear⟩

/-! ## Searching a changed store -/

/-- After an insertion a folder is as it was, or it is the one that the place lies in. -/
private theorem get?_insertAt_folder {new : Entry} {place location : Location}
    {entries below : List (Text × Entry)}
    (hparent : (Entry.folder entries).see? place.dropLast = some .folder)
    (hfree : (Entry.folder entries).see? place ≠ some .folder)
    (h : (Entry.folder entries).get? location = some (.folder below)) :
    (∃ rest, place = location ++ rest ∧
      (Entry.folder (Entry.insertAt new place entries)).get? location =
        some (.folder (Entry.insertAt new rest below))) ∨
      (Entry.folder (Entry.insertAt new place entries)).get? location =
        some (.folder below) := by
  induction location generalizing place entries with
  | nil =>
      cases h
      exact Or.inl ⟨place, rfl, rfl⟩
  | cons first location ih =>
      obtain ⟨inner, hfirst, hinner⟩ := Entry.lookup_of_get?_cons h
      obtain ⟨inside, rfl⟩ := Entry.eq_folder_of_see?
        (Entry.see?_eq_folder_iff.2 ⟨below, hinner⟩)
      match place with
      | [] => simp [Entry.sight] at hfree
      | [name] =>
          have hne : first ≠ name := by
            rintro rfl
            simp [Entry.see?_cons_folder, hfirst, Entry.sight] at hfree
          right
          rw [Entry.insertAt, Entry.get?, Entry.lookup_insert_of_ne hne, hfirst]
          exact hinner
      | name :: next :: rest =>
          obtain ⟨middle, hlookup, hmiddle⟩ := Entry.lookup_of_parent hparent
          rw [Entry.see?_cons_folder, hlookup, Option.bind_some] at hfree
          simp only [Entry.insertAt, hlookup, Entry.get?]
          by_cases hname : first = name
          · subst hname
            obtain rfl : middle = inside := by simpa [hlookup] using hfirst
            rw [Entry.lookup_insert_self]
            refine (ih hmiddle hfree hinner).imp ?_ id
            rintro ⟨suffix, hsuffix, hget⟩
            exact ⟨suffix, by rw [hsuffix, List.cons_append], hget⟩
          · right
            rw [Entry.lookup_insert_of_ne hname, hfirst]
            exact hinner

theorem sources_eq_ok_iff {store : Store} {input : Path} {location : Location}
    {entries : List (Text × Entry)} (hlocate : store.locate input = .ok location)
    (hget : store.get? location = some (.folder entries)) {paths : List Path} :
    store.sources input = .ok paths ↔
      obstacle? input (.folder entries) = none ∧
        paths = (sourceLocations (.folder entries)).map input.below := by
  have hentry : store.entry input = .ok (.folder entries) := by
    simp [entry, hlocate, hget, bind, Except.bind]
  simp only [sources, hentry]
  cases hobstacle : obstacle? input (.folder entries) with
  | none => simp [eq_comm]
  | some obstacle => simp

private theorem sourceLocations_eq (entries : List (Text × Entry)) :
    sourceLocations (.folder entries) = (Entry.sourcesOf entries).mergeSort Location.le := rfl

theorem see?_append_folder {store : Store} {location : Location}
    {entries : List (Text × Entry)} (h : store.get? location = some (.folder entries))
    (rest : Location) :
    store.see? (location ++ rest) = (Entry.folder entries).see? rest := by
  rw [get?] at h
  rw [see?, Entry.see?_append, h, Option.bind_some]

private theorem sources_of_makeFolder {store made : Store} {path input : Path}
    (hmake : store.makeFolder path = .ok made) (hinput : store.holdsFolder input = .ok true)
    {paths : List Path} (h : made.sources input = .ok paths) :
    store.sources input = .ok paths := by
  have hfolders : store.FoldersWithin made := by
    intro location hfolder
    rw [see?_makeFolder hmake]
    split
    · rfl
    · exact hfolder
  obtain ⟨location, hlocate, hsee⟩ := holdsFolder_eq_true_iff.1 hinput
  obtain ⟨entries, hget⟩ := see?_eq_folder_iff.1 hsee
  obtain ⟨⟨place, hplace, hfree⟩, rfl⟩ := makeFolder_eq_ok_iff.1 hmake
  obtain ⟨rfl, hparent⟩ := locate_eq_ok hplace
  have hlocate' := locate_ok_mono hfolders hlocate
  have hnone : store.see? path.location ≠ some .folder := by simp [hfree]
  rcases get?_insertAt_folder hparent hnone hget with ⟨rest, hrest, hget'⟩ | hget'
  · rw [sources_eq_ok_iff hlocate' hget'] at h
    have hne : rest ≠ [] := by
      rintro rfl
      rw [hrest, List.append_nil, hsee] at hfree
      cases hfree
    rw [hrest, List.dropLast_append_of_ne_nil hne, see?_append_folder hget] at hparent
    rw [hrest, see?_append_folder hget] at hfree
    rw [sources_eq_ok_iff hlocate hget]
    refine ⟨obstacle?_of_insertAt_folder hne hparent hfree h.1, ?_⟩
    rw [h.2, sourceLocations_eq, sourceLocations_eq,
      Entry.sourcesOf_insertAt hparent (by simp [hfree]) (Or.inl ⟨rfl, hfree⟩)]
  · rw [sources_eq_ok_iff hlocate' hget'] at h
    exact (sources_eq_ok_iff hlocate hget).2 h

/-- Sources that are found after folders were made are found without them. -/
theorem Made.sources {path input : Path} {store made : Store} (hmade : Made path store made)
    (hinput : store.holdsFolder input = .ok true) {paths : List Path}
    (h : made.sources input = .ok paths) : store.sources input = .ok paths := by
  induction hmade with
  | refl => exact h
  | step count hmiddle hmake ih =>
      exact ih (sources_of_makeFolder hmake (holdsFolder_mono hmiddle.foldersWithin hinput) h)

private theorem sources_set_file {store : Store} {path input : Path} {content : Bytes}
    (hwritable : store.Writable path) (hsource : isSource path.location = false)
    (hinput : store.holdsFolder input = .ok true) {paths : List Path}
    (h : store.sources input = .ok paths) :
    (store.set path.location (.file content)).sources input = .ok paths := by
  have hfolders := (sameFolders_set_file hwritable content).within
  obtain ⟨location, hlocate, hsee⟩ := holdsFolder_eq_true_iff.1 hinput
  obtain ⟨entries, hget⟩ := see?_eq_folder_iff.1 hsee
  obtain ⟨place, hplace, hfree⟩ := hwritable
  obtain ⟨rfl, hparent⟩ := locate_eq_ok hplace
  have hlocate' := locate_ok_mono hfolders hlocate
  rw [sources_eq_ok_iff hlocate hget] at h
  rcases get?_insertAt_folder hparent hfree hget with ⟨rest, hrest, hget'⟩ | hget'
  · have hne : rest ≠ [] := by
      rintro rfl
      rw [hrest, List.append_nil] at hfree
      exact hfree hsee
    have hlast : isSource rest = false := by
      obtain ⟨front, name, rfl⟩ := (List.eq_nil_or_concat rest).resolve_left hne
      simpa [hrest, isSource] using hsource
    rw [hrest, List.dropLast_append_of_ne_nil hne, see?_append_folder hget] at hparent
    rw [hrest, see?_append_folder hget] at hfree
    rw [sources_eq_ok_iff hlocate' hget']
    refine ⟨obstacle?_insertAt_file hne hparent hlast h.1, ?_⟩
    rw [h.2, sourceLocations_eq, sourceLocations_eq,
      Entry.sourcesOf_insertAt hparent hfree (Or.inr ⟨⟨content, rfl⟩, hlast⟩)]
  · exact (sources_eq_ok_iff hlocate' hget').2 h

/-- Writing files that are no sources leaves the sources as they are. -/
theorem sources_writeAll {store final : Store} {writes : List (Path × Bytes)}
    (hwrites : store.writeAll writes = .ok final)
    (hsource : ∀ write ∈ writes, isSource write.1.location = false) {input : Path}
    (hinput : store.holdsFolder input = .ok true) {paths : List Path}
    (h : store.sources input = .ok paths) : final.sources input = .ok paths := by
  induction writes generalizing store with
  | nil =>
      cases hwrites
      exact h
  | cons write writes ih =>
      obtain ⟨path, content⟩ := write
      obtain ⟨hwritable, hrest⟩ := writeAll_cons_eq_ok_iff.1 hwrites
      have hnext : (store.set path.location (.file content)).sources input = .ok paths :=
        sources_set_file hwritable (hsource _ List.mem_cons_self) hinput h
      have hinput' := holdsFolder_mono (sameFolders_set_file hwritable content).within hinput
      exact ih hrest (fun write hmem => hsource write (List.mem_cons_of_mem _ hmem))
        hinput' hnext

theorem isSource_of_mem_sources {store : Store} {input : Path} {paths : List Path}
    (h : store.sources input = .ok paths) {path : Path} (hmem : path ∈ paths) :
    isSource path.location = true := by
  obtain ⟨entry, hpaths⟩ : ∃ entry : Entry, path ∈ (sourceLocations entry).map input.below := by
    unfold sources at h
    split at h
    · next entries _ =>
        split at h
        · cases h
        · cases h
          exact ⟨.folder entries, hmem⟩
    · cases h
      cases hmem
    · cases h
    · cases h
      cases hmem
  obtain ⟨location, hlocation, rfl⟩ := List.mem_map.1 hpaths
  have hsource : isSource location = true := by
    rw [sourceLocations, List.mem_mergeSort, List.mem_filter] at hlocation
    exact hlocation.2
  rcases List.eq_nil_or_concat location with rfl | ⟨front, name, rfl⟩
  · simp [isSource] at hsource
  · rw [List.concat_eq_append] at hsource ⊢
    have hname : isSourceName name = true := by simpa [isSource] using hsource
    have hdots : name ≠ ".." := by
      rintro rfl
      revert hname
      decide
    rw [Path.below, ← List.append_assoc, Path.location_concat _ _ hdots]
    simpa [isSource] using hname

end Store

end ClassWiki
