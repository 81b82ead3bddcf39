import ClassWiki.Store.Entry

/-!
# What is seen at a location

A store shows a file with its bytes, a folder or nothing at each location.  The order
in which a folder lists its entries is not seen.  Putting a file or an empty folder
where no folder stands changes what is seen at that one location only.
-/

namespace ClassWiki

inductive Sight where
  | file (content : Bytes)
  | folder
  deriving DecidableEq, Repr

namespace Entry

/-! ## Entries of one folder -/

@[simp] theorem lookup_insert_self (name : Text) (new : Entry)
    (entries : List (Text × Entry)) :
    (insert name new entries).lookup name = some new := by
  induction entries with
  | nil => simp [insert]
  | cons entry entries ih =>
      obtain ⟨other, old⟩ := entry
      by_cases h : other = name
      · subst h
        simp [insert]
      · have hne : (name == other) = false := by simpa using Ne.symm h
        simp [insert, h, List.lookup_cons, hne, ih]

theorem lookup_insert_of_ne {name other : Text} (h : other ≠ name) (new : Entry)
    (entries : List (Text × Entry)) :
    (insert name new entries).lookup other = entries.lookup other := by
  have hname : (other == name) = false := by simpa using h
  induction entries with
  | nil => simp [insert, List.lookup_cons, hname]
  | cons entry entries ih =>
      obtain ⟨first, old⟩ := entry
      by_cases hfirst : first = name
      · subst hfirst
        simp [insert, List.lookup_cons, hname]
      · simp [insert, hfirst, List.lookup_cons, ih]

theorem lookup_of_get?_cons {name : Text} {location : Location} {found : Entry}
    {entries : List (Text × Entry)}
    (h : (Entry.folder entries).get? (name :: location) = some found) :
    ∃ inner, entries.lookup name = some inner ∧ inner.get? location = some found := by
  rw [get?] at h
  split at h
  · cases h
  · next inner hinner => exact ⟨inner, hinner, h⟩

theorem eq_folder_of_get?_cons {entry found : Entry} {name : Text} {location : Location}
    (h : entry.get? (name :: location) = some found) : ∃ entries, entry = .folder entries := by
  cases entry with
  | file content => cases h
  | folder entries => exact ⟨entries, rfl⟩

/-! ## Sights -/

def sight : Entry → Sight
  | .file content => .file content
  | .folder _ => .folder

def see? (location : Location) (entry : Entry) : Option Sight :=
  (entry.get? location).map sight

@[simp] theorem see?_nil (entry : Entry) : entry.see? [] = some entry.sight := rfl

@[simp] theorem see?_cons_file (name : Text) (location : Location) (content : Bytes) :
    (Entry.file content).see? (name :: location) = none := rfl

theorem see?_cons_folder (name : Text) (location : Location)
    (entries : List (Text × Entry)) :
    (Entry.folder entries).see? (name :: location) =
      (entries.lookup name).bind (see? location) := by
  cases h : entries.lookup name <;> simp [see?, get?, h]

theorem see?_append (entry : Entry) (first second : Location) :
    entry.see? (first ++ second) = (entry.get? first).bind (see? second) := by
  rw [see?, get?_append]
  cases entry.get? first <;> rfl

theorem sight_eq_folder_iff {entry : Entry} :
    entry.sight = .folder ↔ ∃ entries, entry = .folder entries := by
  cases entry <;> simp [sight]

theorem see?_eq_folder_iff {entry : Entry} {location : Location} :
    entry.see? location = some .folder ↔
      ∃ entries, entry.get? location = some (.folder entries) := by
  rw [see?, Option.map_eq_some_iff]
  constructor
  · rintro ⟨found, hfound, hsight⟩
    obtain ⟨entries, rfl⟩ := sight_eq_folder_iff.1 hsight
    exact ⟨entries, hfound⟩
  · rintro ⟨entries, hfound⟩
    exact ⟨.folder entries, hfound, rfl⟩

theorem eq_folder_of_see? {entry : Entry} {location : Location}
    (h : entry.see? location = some .folder) : ∃ entries, entry = .folder entries := by
  cases entry with
  | folder entries => exact ⟨entries, rfl⟩
  | file content => cases location <;> simp [sight] at h

theorem see?_of_append {entry : Entry} {first second : Location} {sight : Sight}
    (h : entry.see? (first ++ second) = some sight) (hsecond : second ≠ []) :
    entry.see? first = some .folder := by
  rw [see?_append, Option.bind_eq_some_iff] at h
  obtain ⟨inner, hinner, hsight⟩ := h
  cases inner with
  | folder entries => exact see?_eq_folder_iff.2 ⟨entries, hinner⟩
  | file content =>
      cases second with
      | nil => exact absurd rfl hsecond
      | cons name second => simp at hsight

/-! ## Putting an entry -/

/-- Nothing is seen below a leaf. -/
def IsLeaf (entry : Entry) : Prop := ∀ name location, entry.see? (name :: location) = none

theorem isLeaf_file (content : Bytes) : (Entry.file content).IsLeaf :=
  fun _ _ => rfl

theorem isLeaf_empty : (Entry.folder []).IsLeaf := by
  intro name location
  rw [see?_cons_folder]
  rfl

private theorem isLeaf_of_not_folder {entry : Entry} (h : entry.sight ≠ .folder) :
    entry.IsLeaf := by
  cases entry with
  | file content => exact isLeaf_file content
  | folder entries => exact absurd rfl h

private theorem see?_insert {name : Text} {new : Entry} (hnew : new.IsLeaf)
    {entries : List (Text × Entry)}
    (hfree : (Entry.folder entries).see? [name] ≠ some .folder) (location : Location) :
    (Entry.folder (insert name new entries)).see? location =
      if location = [name] then some new.sight else (Entry.folder entries).see? location := by
  cases location with
  | nil => simp [sight]
  | cons first rest =>
      rw [see?_cons_folder, see?_cons_folder]
      by_cases hfirst : first = name
      · subst hfirst
        rw [lookup_insert_self, Option.bind_some]
        cases rest with
        | nil => simp
        | cons next rest =>
            rw [hnew next rest, if_neg (by simp)]
            rw [see?_cons_folder] at hfree
            cases hold : entries.lookup first with
            | none => rfl
            | some old =>
                -- what is replaced was no folder, so nothing stood below it either
                rw [hold] at hfree
                have hleaf : old.IsLeaf := isLeaf_of_not_folder (by simpa using hfree)
                exact (hleaf next rest).symm
      · rw [lookup_insert_of_ne hfirst, if_neg (by simp [hfirst])]

/-- A leaf that is put into a folder, in place of no folder, is seen where it was put,
and everything else is seen as before. -/
theorem see?_insertAt {new : Entry} (hnew : new.IsLeaf) (place : Location)
    (entries : List (Text × Entry)) (hplace : place ≠ [])
    (hparent : (Entry.folder entries).see? place.dropLast = some .folder)
    (hfree : (Entry.folder entries).see? place ≠ some .folder) (location : Location) :
    (Entry.folder (insertAt new place entries)).see? location =
      if location = place then some new.sight else (Entry.folder entries).see? location := by
  induction place generalizing entries location with
  | nil => exact absurd rfl hplace
  | cons name rest ih =>
      cases rest with
      | nil => exact see?_insert hnew hfree location
      | cons next rest =>
          rw [List.dropLast_cons_cons, see?_cons_folder, Option.bind_eq_some_iff] at hparent
          obtain ⟨inner, hlookup, hinner⟩ := hparent
          obtain ⟨below, rfl⟩ := eq_folder_of_see? hinner
          rw [see?_cons_folder, hlookup, Option.bind_some] at hfree
          rw [insertAt, hlookup]
          cases location with
          | nil => simp [sight]
          | cons first location =>
              rw [see?_cons_folder, see?_cons_folder]
              by_cases hfirst : first = name
              · subst hfirst
                rw [lookup_insert_self, hlookup, Option.bind_some, Option.bind_some,
                  ih below (by simp) hinner hfree location]
                simp
              · rw [lookup_insert_of_ne hfirst, if_neg (by simp [hfirst])]

end Entry

namespace Store

def see? (store : Store) (location : Location) : Option Sight := store.root.see? location

def file? (store : Store) (location : Location) : Option Bytes :=
  match store.see? location with
  | some (.file content) => some content
  | _ => none

@[simp] theorem see?_nil (store : Store) : store.see? [] = some .folder := rfl

theorem see?_eq (store : Store) (location : Location) :
    store.see? location = (store.get? location).map Entry.sight := rfl

theorem see?_eq_folder_iff {store : Store} {location : Location} :
    store.see? location = some .folder ↔
      ∃ entries, store.get? location = some (.folder entries) :=
  Entry.see?_eq_folder_iff

theorem file?_eq_some_iff {store : Store} {location : Location} {content : Bytes} :
    store.file? location = some content ↔ store.see? location = some (.file content) := by
  rw [file?]
  cases store.see? location with
  | none => simp
  | some sight => cases sight <;> simp

theorem see?_dropLast {store : Store} {location : Location}
    (h : store.see? location = some .folder) : store.see? location.dropLast = some .folder := by
  rcases List.eq_nil_or_concat location with rfl | ⟨front, name, rfl⟩
  · exact h
  · rw [List.concat_eq_append] at h ⊢
    rw [List.dropLast_concat]
    exact Entry.see?_of_append h (by simp)

theorem see?_set {store : Store} {new : Entry} (hnew : new.IsLeaf) {place : Location}
    (hplace : place ≠ []) (hparent : store.see? place.dropLast = some .folder)
    (hfree : store.see? place ≠ some .folder) (location : Location) :
    (store.set place new).see? location =
      if location = place then some new.sight else store.see? location :=
  Entry.see?_insertAt hnew place store.entries hplace hparent hfree location

end Store

end ClassWiki
