import ClassWiki.Store.Access

/-!
# Source files

The sources of a folder are the files below it, at any depth, whose name ends in
`.cs`.  They are taken in the order that compares their locations name by name and
names by code points.  The search stops where a path gets too long to be looked at.
-/

namespace ClassWiki.Store

def isSourceName (name : Text) : Bool := (".cs" : Text).isSuffixOf name

def isSource (location : Location) : Bool :=
  match location.getLast? with
  | some name => isSourceName name
  | none => false

def sourceLocations (folder : Entry) : List Location :=
  ((folder.files.map Prod.fst).filter isSource).mergeSort Location.le

mutual

/-- The first path that stops the search, when a folder is listed, then what has the name
of a source in it is looked at, and then the folders in it are searched. -/
def obstacle? (path : Path) : Entry → Option Path
  | .file _ => none
  | .folder entries =>
      if path.isLong then some path
      else
        let names := (entries.map Prod.fst).filter isSourceName
        match (names.map fun name => path.below [name]).find? Path.isLong with
        | some long => some long
        | none => obstacleBelow? path entries

def obstacleBelow? (path : Path) : List (Text × Entry) → Option Path
  | [] => none
  | (name, entry) :: entries =>
      (obstacle? (path.below [name]) entry).or (obstacleBelow? path entries)

end

def sources (store : Store) (path : Path) : Except (FileFault × Path) (List Path) :=
  match store.entry path with
  | .ok (.folder entries) =>
      match obstacle? path (.folder entries) with
      | some long => .error (.nameTooLong, long)
      | none => .ok ((sourceLocations (.folder entries)).map path.below)
  | .ok (.file _) => .ok []
  | .error .nameTooLong => .error (.nameTooLong, path)
  | .error _ => .ok []

end ClassWiki.Store
