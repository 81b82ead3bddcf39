import ClassWiki.CommandLine.Run
import ClassWiki.Companion
import ClassWiki.Store.Changes

/-!
# The program

The working directory and what the arguments name are read as a whole, the run is
computed, and what it changed is written back.
-/

namespace ClassWiki

def fullName (location : Location) : String := "/" ++ String.ofList (Store.pathText location)

partial def snapshot (whole : Bool) (name : String) : IO Entry := do
  let place ← IO.FS.realPath name
  if ← place.isDir then
    let mut entries := []
    if whole then
      for item in ← place.readDir do
        entries := entries ++
          [(item.fileName.toList, ← snapshot true (name ++ "/" ++ item.fileName))]
    return .folder entries
  else return .file (← IO.FS.readBinFile place).toList

def put (store : Store) (location : Location) : Entry → Store
  | .folder entries =>
      if location.isEmpty then ⟨entries⟩ else store.set location (.folder entries)
  | .file content => store.set location (.file content)

def readPlace (store : Store) (location : Location) : IO Store := do
  let mut store := store
  for count in List.range (location.length + 1) do
    let place := location.take count
    let whole := count == location.length
    if whole || (store.get? place).isNone then
      try store := put store place (← snapshot whole (fullName place))
      catch _ => pure ()
  return store

def writeBack (before after : Store) : IO Unit := do
  for path in before.newFolders after do
    IO.FS.createDirAll ("/" ++ String.ofList path)
  for (path, content) in before.changedFiles after do
    IO.FS.writeBinFile ("/" ++ String.ofList path) ⟨content.toArray⟩

def named (arguments : List Text) : List Text :=
  match CommandLine.parse arguments with
  | .ok read => [read.input, read.output, read.config].filterMap id
  | .error _ => []

def program (arguments : List String) : IO UInt32 := do
  let arguments := arguments.map String.toList
  let working := Path.partsOf (← IO.currentDir).toString.toList
  let mut store ← readPlace Store.empty working
  for text in named arguments do
    store ← readPlace store (Path.ofText working text).location
  let report := CommandLine.run (Companion.readers store) working store arguments
  writeBack store report.store
  for line in report.output do
    IO.println (String.ofList line)
  for line in report.errors do
    IO.eprintln (String.ofList line)
  match report.ending with
  | .code value => return value.toUInt32
  | .fault fault =>
      IO.eprintln (String.ofList (fault.message?.getD "the run was stopped"))
      return 1

end ClassWiki

def main (arguments : List String) : IO UInt32 := ClassWiki.program arguments
