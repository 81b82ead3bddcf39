import Mathlib
import ClassWiki.Proofs.Store.Listing

/-!
# Exact discovery

The search of a folder gives a list unless it comes to a path that is too long to be looked at.
The list has every file below the folder that is named like a source, once and in the order of
paths, and nothing that is not such a file.  So only such files can change it.
-/

namespace ClassWiki

/-! ## The order of paths -/

theorem Path.below_below (path : Path) (first second : Location) :
    (path.below first).below second = path.below (first ++ second) := by
  simp [Path.below]

theorem Path.below_nil (path : Path) : path.below [] = path := by
  simp [Path.below]

@[elab_as_elim]
theorem Entry.inductionOnListed {motive : Entry → Prop}
    (file : ∀ content, motive (.file content))
    (folder : ∀ entries, (∀ name entry, (name, entry) ∈ entries → motive entry) →
      motive (.folder entries)) : (entry : Entry) → motive entry
  | .file content => file content
  | .folder entries => folder entries fun _ entry _ => inductionOnListed file folder entry
termination_by entry => sizeOf entry
decreasing_by
  next h =>
    have hsize := List.sizeOf_lt_of_mem h
    simp only [Prod.mk.sizeOf_spec, Entry.folder.sizeOf_spec] at hsize ⊢
    omega

namespace Store

/-- The search of what is at a path meets neither a folder nor a name of a source whose path is
too long. -/
structure Clear (path : Path) (entry : Entry) : Prop where
  folder_short : ∀ location, entry.see? location = some .folder →
    (path.below location).isLong = false
  source_short : ∀ location sight, entry.see? location = some sight →
    isSource location = true → (path.below location).isLong = false

theorem lookup_of_mem {name : Text} {entry : Entry} {entries : List (Text × Entry)}
    (hwell : Entry.wellFormedOf entries = true) (h : (name, entry) ∈ entries) :
    entries.lookup name = some entry := by
  induction entries with
  | nil => cases h
  | cons first entries ih =>
      obtain ⟨other, old⟩ := first
      obtain ⟨-, hfresh, -, hentries⟩ := Entry.wellFormedOf_cons_iff.1 hwell
      rw [List.lookup_cons]
      cases h with
      | head => rw [beq_self_eq_true]
      | tail _ h =>
          have hlookup := ih hentries h
          have hne : (name == other) = false := by
            rw [beq_eq_false_iff_ne]
            rintro rfl
            rw [hfresh] at hlookup
            cases hlookup
          rw [hne]
          exact hlookup

theorem clear_file (path : Path) (content : Bytes) : Clear path (.file content) := by
  constructor
  · intro location h
    cases location <;> simp [Entry.sight] at h
  · intro location sight h hsource
    cases location with
    | nil => cases hsource
    | cons name location => cases h

theorem isSource_cons_iff {name : Text} {location : Location} :
    isSource (name :: location) = true ↔
      location = [] ∧ isSourceName name = true ∨ isSource location = true := by
  cases location with
  | nil => simp [isSource]
  | cons next location => simp [Entry.isSource_cons]

theorem see?_cons_of_lookup {name : Text} {entry : Entry} {entries : List (Text × Entry)}
    (h : entries.lookup name = some entry) (location : Location) :
    (Entry.folder entries).see? (name :: location) = entry.see? location := by
  rw [Entry.see?_cons_folder, h, Option.bind_some]

theorem lookup_of_see?_cons {name : Text} {location : Location} {entries : List (Text × Entry)}
    {sight : Sight} (h : (Entry.folder entries).see? (name :: location) = some sight) :
    ∃ entry, entries.lookup name = some entry ∧ entry.see? location = some sight := by
  rwa [Entry.see?_cons_folder, Option.bind_eq_some_iff] at h

section Folders

variable {path : Path} {entries : List (Text × Entry)}

theorem Clear.listed (h : Clear path (.folder entries)) {name : Text} {entry : Entry}
    (hlookup : entries.lookup name = some entry) :
    (isSourceName name = true → (path.below [name]).isLong = false) ∧
      Clear (path.below [name]) entry := by
  have hsee := see?_cons_of_lookup hlookup
  refine ⟨fun hname => ?_, ?_, ?_⟩
  · exact h.source_short [name] entry.sight (hsee []) (isSource_cons_iff.2 (Or.inl ⟨rfl, hname⟩))
  · intro location hfolder
    rw [Path.below_below]
    exact h.folder_short (name :: location) ((hsee location).trans hfolder)
  · intro location sight hfound hsource
    rw [Path.below_below]
    exact h.source_short (name :: location) sight ((hsee location).trans hfound)
      (isSource_cons_iff.2 (Or.inr hsource))

theorem clear_of_listed (hpath : path.isLong = false)
    (h : ∀ name entry, entries.lookup name = some entry →
      (isSourceName name = true → (path.below [name]).isLong = false) ∧
        Clear (path.below [name]) entry) : Clear path (.folder entries) := by
  constructor
  · intro location hfolder
    cases location with
    | nil => rwa [Path.below_nil]
    | cons name location =>
        obtain ⟨entry, hlookup, hfolder⟩ := lookup_of_see?_cons hfolder
        have hshort := (h name entry hlookup).2.folder_short location hfolder
        rwa [Path.below_below] at hshort
  · intro location sight hfound hsource
    cases location with
    | nil => cases hsource
    | cons name location =>
        obtain ⟨entry, hlookup, hfound⟩ := lookup_of_see?_cons hfound
        rcases isSource_cons_iff.1 hsource with ⟨rfl, hname⟩ | hsource
        · exact (h name entry hlookup).1 hname
        · have hshort := (h name entry hlookup).2.source_short location sight hfound hsource
          rwa [Path.below_below] at hshort

end Folders

theorem obstacle?_eq_none_iff_clear {path : Path} {entry : Entry}
    (hwell : entry.wellFormed = true) : obstacle? path entry = none ↔ Clear path entry := by
  induction entry using Entry.inductionOnListed generalizing path with
  | file content => exact iff_of_true rfl (clear_file path content)
  | folder entries ih =>
      rw [Entry.wellFormed] at hwell
      rw [obstacle?_eq_none_iff]
      constructor
      · rintro ⟨hpath, hitems⟩
        refine clear_of_listed hpath fun name entry hlookup => ?_
        have hitem := Entry.mem_of_lookup hlookup
        obtain ⟨hname, hentry⟩ := hitems (name, entry) hitem
        have hwell' := (Entry.of_lookup_of_wellFormedOf hwell hlookup).2
        exact ⟨hname, (ih name entry hitem hwell').1 hentry⟩
      · intro hclear
        refine ⟨?_, ?_⟩
        · simpa [Path.below_nil] using hclear.folder_short [] rfl
        · rintro ⟨name, entry⟩ hitem
          have hlookup := lookup_of_mem hwell hitem
          obtain ⟨hname, hentry⟩ := hclear.listed hlookup
          have hwell' := (Entry.of_lookup_of_wellFormedOf hwell hlookup).2
          exact ⟨hname, (ih name entry hitem hwell').2 hentry⟩

end Store

/-! ## Stores that stay well formed -/

namespace Entry

end Entry

namespace Store

/-- The search from a path meets no path that is too long. -/
def Searchable (store : Store) (path : Path) : Prop :=
  ∀ entry, store.entry path = .ok entry → Clear path entry

section Search

variable {store : Store} {path : Path} {entries : List (Text × Entry)}

theorem searchable_iff (hfolder : store.entry path = .ok (.folder entries)) :
    store.Searchable path ↔ Clear path (.folder entries) := by
  constructor
  · exact fun h => h _ hfolder
  · intro hclear entry hentry
    cases hfolder.symm.trans hentry
    exact hclear

theorem sources_eq_ok_iff_searchable (hwell : store.wellFormed = true)
    (hfolder : store.entry path = .ok (.folder entries)) {paths : List Path} :
    store.sources path = .ok paths ↔
      store.Searchable path ∧ paths = (sourceLocations (.folder entries)).map path.below := by
  obtain ⟨hlocate, hget⟩ := entry_eq_ok_iff.1 hfolder
  have hwell' := (Entry.of_get?_of_wellFormed hwell hget).2
  rw [sources_eq_ok_iff hlocate hget, obstacle?_eq_none_iff_clear hwell', searchable_iff hfolder]

theorem exists_sources_iff (hwell : store.wellFormed = true)
    (hfolder : store.entry path = .ok (.folder entries)) :
    (∃ paths, store.sources path = .ok paths) ↔ store.Searchable path := by
  simp only [sources_eq_ok_iff_searchable hwell hfolder, exists_and_left, exists_eq, and_true]

theorem entry_of_foldersWithin {other : Store} (h : store.FoldersWithin other)
    (hfolder : store.entry path = .ok (.folder entries)) :
    ∃ others, other.entry path = .ok (.folder others) := by
  obtain ⟨hlocate, hget⟩ := entry_eq_ok_iff.1 hfolder
  obtain ⟨others, hothers⟩ := see?_eq_folder_iff.1 (h _ (see?_eq_folder_iff.2 ⟨entries, hget⟩))
  exact ⟨others, entry_eq_ok_iff.2 ⟨locate_ok_mono h hlocate, hothers⟩⟩

/-- Both stores show the same at every location.  They may list the entries of their folders in
different orders. -/
def SameSights (store other : Store) : Prop :=
  ∀ location, other.see? location = store.see? location

theorem SameSights.entry {other : Store} (h : SameSights store other)
    (hfolder : store.entry path = .ok (.folder entries)) :
    ∃ others, other.entry path = .ok (.folder others) ∧
      ∀ location, (Entry.folder others).see? location = (Entry.folder entries).see? location := by
  have hwithin : store.FoldersWithin other := fun location hsee => (h location).trans hsee
  obtain ⟨others, hothers⟩ := entry_of_foldersWithin hwithin hfolder
  refine ⟨others, hothers, fun location => ?_⟩
  rw [← see?_append_folder (entry_eq_ok_iff.1 hothers).2,
    ← see?_append_folder (entry_eq_ok_iff.1 hfolder).2, h]

theorem SameSights.sources {other : Store} (h : SameSights store other)
    (hwell : store.wellFormed = true) (hwell' : other.wellFormed = true)
    (hfolder : store.entry path = .ok (.folder entries)) {paths : List Path}
    (hpaths : store.sources path = .ok paths) : other.sources path = .ok paths := by
  obtain ⟨others, hothers, hsee⟩ := h.entry hfolder
  obtain ⟨hfolders, hsources⟩ := (searchable_iff hfolder).1
    ((exists_sources_iff hwell hfolder).1 ⟨paths, hpaths⟩)
  have hclear : Clear path (.folder others) :=
    ⟨fun location => hsee location ▸ hfolders location,
      fun location => hsee location ▸ hsources location⟩
  obtain ⟨found, hfound⟩ := (exists_sources_iff hwell' hothers).2
    ((searchable_iff hothers).2 hclear)
  have hsame : SameSources path store other := by
    intro location _
    simp only [fileBelow?, hfolder, hothers, hsee]
  rw [hfound, (hsame.sources_eq hwell hwell' hpaths hfound).1]

end Search

namespace Sample

def made : Text × Entry := ("y.cs", .folder [])

end Sample

open Sample

namespace Sample

end Sample

end Store

end ClassWiki
