import ClassWiki.Store.Entry

/-!
# Changes

What one store has and an earlier one had not: new folders, and files that are new
or have another content.  Both are listed by their paths in code point order.
-/

namespace ClassWiki

namespace Entry

mutual

def newFolders (old? : Option Entry) : Entry → List Location
  | .file _ => []
  | .folder entries =>
      match old? with
      | some (.folder old) => newFoldersOf old entries
      | _ => [] :: newFoldersOf [] entries

def newFoldersOf (old : List (Text × Entry)) : List (Text × Entry) → List Location
  | [] => []
  | (name, entry) :: entries =>
      (newFolders (old.lookup name) entry).map (name :: ·) ++ newFoldersOf old entries

end

mutual

def changedFiles (old? : Option Entry) : Entry → List (Location × Bytes)
  | .file content =>
      match old? with
      | some (.file old) => if old = content then [] else [([], content)]
      | _ => [([], content)]
  | .folder entries =>
      match old? with
      | some (.folder old) => changedFilesOf old entries
      | _ => changedFilesOf [] entries

def changedFilesOf (old : List (Text × Entry)) :
    List (Text × Entry) → List (Location × Bytes)
  | [] => []
  | (name, entry) :: entries =>
      (changedFiles (old.lookup name) entry).map
          (fun (location, content) => (name :: location, content)) ++
        changedFilesOf old entries

end

end Entry

namespace Store

def pathText (location : Location) : Text := Text.join "/" location

def newFolders (before after : Store) : List Text :=
  ((Entry.newFoldersOf before.entries after.entries).map pathText).mergeSort Text.le

def changedFiles (before after : Store) : List (Text × Bytes) :=
  ((Entry.changedFilesOf before.entries after.entries).map
    fun (location, content) => (pathText location, content)).mergeSort
      fun first second => Text.le first.1 second.1

end Store

end ClassWiki
