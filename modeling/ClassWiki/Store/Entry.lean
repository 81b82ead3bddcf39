import ClassWiki.Text.Utf8

/-!
# Stores

A store is a file system: files with their bytes, and folders with their entries in
the order in which they are listed.  There are no links, and every entry can be read
and changed.  A location names an entry by the names on the way down from the root.
-/

namespace ClassWiki

abbrev Location := List Text

def Location.le : Location → Location → Bool
  | [], _ => true
  | _ :: _, [] => false
  | name :: location, other :: rest =>
      if name = other then le location rest else Text.le name other

@[simp] theorem Location.le_self (location : Location) : Location.le location location = true := by
  induction location with
  | nil => rfl
  | cons name location ih => simp [Location.le, ih]

inductive Entry where
  | file (content : Bytes)
  | folder (entries : List (Text × Entry))
  deriving Repr

structure Store where
  entries : List (Text × Entry)
  deriving Repr

namespace Entry

def get? : Location → Entry → Option Entry
  | [], entry => some entry
  | _ :: _, .file _ => none
  | name :: location, .folder entries =>
      match entries.lookup name with
      | none => none
      | some entry => get? location entry

theorem get?_append (entry : Entry) (first second : Location) :
    entry.get? (first ++ second) = (entry.get? first).bind (get? second) := by
  induction first generalizing entry with
  | nil => simp [get?]
  | cons name first ih =>
      cases entry with
      | file content => simp [get?]
      | folder entries =>
          simp only [List.cons_append, get?]
          split
          · rfl
          · exact ih _

mutual

def files : Entry → List (Location × Bytes)
  | .file content => [([], content)]
  | .folder entries => filesOf entries

def filesOf : List (Text × Entry) → List (Location × Bytes)
  | [] => []
  | (name, entry) :: entries =>
      entry.files.map (fun (location, content) => (name :: location, content)) ++
        filesOf entries

end

def insert (name : Text) (new : Entry) : List (Text × Entry) → List (Text × Entry)
  | [] => [(name, new)]
  | (other, entry) :: entries =>
      if other = name then (other, new) :: entries
      else (other, entry) :: insert name new entries

/-- Put an entry at a location; missing folders on the way are made. -/
def insertAt (new : Entry) : Location → List (Text × Entry) → List (Text × Entry)
  | [], entries => entries
  | [name], entries => insert name new entries
  | name :: next :: location, entries =>
      match entries.lookup name with
      | some (.file _) => entries
      | some (.folder below) =>
          insert name (.folder (insertAt new (next :: location) below)) entries
      | none => insert name (.folder (insertAt new (next :: location) [])) entries

def eraseAt : Location → List (Text × Entry) → List (Text × Entry)
  | [], entries => entries
  | [name], entries => entries.filter (·.1 != name)
  | name :: next :: location, entries =>
      match entries.lookup name with
      | some (.folder below) => insert name (.folder (eraseAt (next :: location) below)) entries
      | _ => entries

end Entry

namespace Store

def empty : Store := ⟨[]⟩

def root (store : Store) : Entry := .folder store.entries

def get? (store : Store) (location : Location) : Option Entry := store.root.get? location

def entriesAt (store : Store) (location : Location) : List (Text × Entry) :=
  match store.get? location with
  | some (.folder entries) => entries
  | _ => []

def set (store : Store) (location : Location) (entry : Entry) : Store :=
  ⟨Entry.insertAt entry location store.entries⟩

def erase (store : Store) (location : Location) : Store :=
  ⟨Entry.eraseAt location store.entries⟩

end Store

end ClassWiki
