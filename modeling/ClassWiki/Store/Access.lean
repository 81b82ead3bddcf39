import ClassWiki.Store.Entry
import ClassWiki.Store.Path

/-!
# Access by path

A path is followed part by part from where it starts.  Every part but the last has to be
a folder, two dots lead back to the folder above, and a part longer than a name may be is
refused where it is met.  A path that is too long as a whole is not followed at all.
-/

namespace ClassWiki

inductive FileFault where
  | notFound
  | alreadyThere
  | notFolder
  | isFolder
  | nameTooLong
  | nulCharacter
  deriving DecidableEq, Repr

namespace Store

/-! ## Locations -/

def nameLimit : Nat := 255

/-- Follow the parts from the folder at `here`, which has the given entries.  What the
last one names need not be there. -/
def locateFrom (store : Store) (here : Location) (entries : List (Text × Entry)) :
    List Text → Except FileFault Location
  | [] => .ok here
  | part :: parts =>
      if part = ".." then
        locateFrom store here.dropLast (store.entriesAt here.dropLast) parts
      else if nameLimit < Utf8.size part then .error .nameTooLong
      else if parts.isEmpty then .ok (here ++ [part])
      else
        match entries.lookup part with
        | none => .error .notFound
        | some (.file _) => .error .notFolder
        | some (.folder below) => locateFrom store (here ++ [part]) below parts

def locate (store : Store) (path : Path) : Except FileFault Location :=
  if path.hasNul then .error .nulCharacter
  else if path.isLong then .error .nameTooLong
  else
    match store.get? path.anchor.start with
    | some (.folder entries) => store.locateFrom path.anchor.start entries path.parts
    | _ => .error .notFound

/-! ## Looking -/

def entry (store : Store) (path : Path) : Except FileFault Entry := do
  let location ← store.locate path
  match store.get? location with
  | none => .error .notFound
  | some entry => .ok entry

/-- A test of what is at a path; a path that leads nowhere fails the test, and only a
name that is too long is an error. -/
def test (store : Store) (path : Path) (accept : Entry → Bool) : Except FileFault Bool :=
  match store.entry path with
  | .ok entry => .ok (accept entry)
  | .error .nameTooLong => .error .nameTooLong
  | .error _ => .ok false

def holds (store : Store) (path : Path) : Except FileFault Bool :=
  store.test path fun _ => true

def holdsFolder (store : Store) (path : Path) : Except FileFault Bool :=
  store.test path fun
    | .folder _ => true
    | .file _ => false

def read (store : Store) (path : Path) : Except FileFault Bytes := do
  match ← store.entry path with
  | .file content => .ok content
  | .folder _ => .error .isFolder

/-! ## Changing -/

def write (store : Store) (path : Path) (content : Bytes) : Except FileFault Store := do
  let location ← store.locate path
  match store.get? location with
  | some (.folder _) => .error .isFolder
  | _ => .ok (store.set location (.file content))

def remove (store : Store) (path : Path) : Except FileFault Store := do
  let location ← store.locate path
  match store.get? location with
  | some (.folder _) => .error .isFolder
  | some (.file _) => .ok (store.erase location)
  | none => .error .notFound

def makeFolder (store : Store) (path : Path) : Except FileFault Store := do
  let location ← store.locate path
  match store.get? location with
  | some _ => .error .alreadyThere
  | none => .ok (store.set location (.folder []))

def ensureFolder (store : Store) (path : Path) : Store × Except (FileFault × Path) Unit :=
  match store.makeFolder path with
  | .ok made => (made, .ok ())
  | .error .notFound => (store, .error (.notFound, path))
  | .error fault =>
      match store.holdsFolder path with
      | .ok true => (store, .ok ())
      | _ => (store, .error (fault, path))

/-- Make the folder at the first parts of a path, and those above it that are missing.  The
folders made stay when a later one cannot be made. -/
def ensureUpTo (store : Store) (path : Path) :
    (count : Nat) → Store × Except (FileFault × Path) Unit
  | 0 => store.ensureFolder (path.upTo 0)
  | count + 1 =>
      match store.ensureFolder (path.upTo (count + 1)) with
      | (_, .error (.notFound, _)) =>
          match store.ensureUpTo path count with
          | (made, .ok ()) => made.ensureFolder (path.upTo (count + 1))
          | failed => failed
      | done => done

def ensureFolders (store : Store) (path : Path) : Store × Except (FileFault × Path) Unit :=
  store.ensureUpTo path path.parts.length

end Store

end ClassWiki
