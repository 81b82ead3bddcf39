import ClassWiki.Config.Kinds
import ClassWiki.Config.Settings
import ClassWiki.Page
import ClassWiki.Store.Sources
import ClassWiki.Tree.Listing

/-!
# Conversion

A conversion reads every source of a folder and writes one page for each declaration
in it.  It changes a store, prints a line for each source and keeps a log; what was
done before a fault stays done.
-/

namespace ClassWiki

inductive Level where
  | info
  | warning
  deriving DecidableEq, Repr

structure LogEntry where
  level : Level
  message : Text
  deriving DecidableEq, Repr

structure World where
  store : Store
  printed : List Text
  logged : List LogEntry
  deriving Repr

/-- What reads the foreign formats: sources, configuration documents, which have either a
value or a kind of error, and bytes in the encoding of the locale or of a name. -/
structure Readers where
  parse : Text → Parsed
  document : Text → Except Text Value
  locale : Decoder
  codec? : Text → Option Codec

abbrev Job := ExceptT Fault (StateM World)

namespace Job

def print (line : Text) : Job Unit :=
  modify fun world => { world with printed := world.printed ++ [line] }

def log (level : Level) (message : Text) : Job Unit :=
  modify fun world => { world with logged := world.logged ++ [⟨level, message⟩] }

def store : Job Store := return (← get).store

def setStore (store : Store) : Job Unit := modify fun world => { world with store := store }

def ofExcept : Except Fault α → Job α
  | .ok a => pure a
  | .error fault => throw fault

def file (path : Path) : Except FileFault α → Job α
  | .ok a => pure a
  | .error cause => throw (.ofFile cause path)

end Job

namespace Conversion

/-! ## What the settings say -/

def table (settings : Mapping) (key : Text) : Value :=
  match Mapping.get? settings (.text key) with
  | some value => if value.truthy then value else .map []
  | none => .map []

def flag (table : Value) (key : Text) : Except Fault Bool :=
  match table with
  | .map entries => .ok ((Mapping.get? entries (.text key)).getD .null).truthy
  | _ => .error .notMap

def pageOptions (settings : Mapping) : Except Fault PageOptions := do
  let exceptions ← flag (table settings "sections") "exceptions"
  let namespaceLinks ← flag (table settings "links") "namespace_qualified_bases"
  return ⟨exceptions, namespaceLinks⟩

/-- The name of the encoding of the sources, or nothing for the one of the locale. -/
def encodingName? (settings : Mapping) : Except Fault (Option Text) :=
  match Mapping.get? settings (.text "source_encoding") with
  | none => .ok (some "utf-8")
  | some (.scalar .null) => .ok none
  | some (.scalar (.text name)) =>
      if name.contains '\x00' then .error .invalidText else .ok (some name)
  | some _ => .error .wrongType

def decoder (readers : Readers) : Option Text → Except Fault Decoder
  | none => .ok readers.locale
  | some name =>
      match Encoding.ofName? name with
      | some encoding => .ok encoding.decode
      | none =>
          match readers.codec? name with
          | some (.text decode) => .ok decode
          | some .binary => .error (.notTextEncoding name)
          | none => .error (.unknownEncoding name)

/-! ## Pages -/

def writePage (out : Path) (page : Page) : Job Path := do
  let path := out.child page.fileName
  let written ← Job.file path ((← Job.store).write path (Utf8.encode page.text))
  Job.setStore written
  return path

def convertSite (settings : Mapping) (out : Path) (source : Bytes) (site : Site) :
    Job Unit := do
  match Declaration.ofSite? source site with
  | none => throw (.decoding .malformed)
  | some declaration =>
      Job.log .info ("Class: " ++ declaration.name)
      let options ← Job.ofExcept (pageOptions settings)
      let _ ← writePage out (Page.ofDeclaration options declaration)

def convertSites (settings : Mapping) (out : Path) (source : Bytes) : List Site → Job Nat
  | [] => return 0
  | site :: sites => do
      convertSite settings out source site
      return (← convertSites settings out source sites) + 1

/-! ## Sources -/

def sourceText (readers : Readers) (settings : Mapping) (path : Path) : Job Text := do
  let name? ← Job.ofExcept (encodingName? settings)
  let bytes ← Job.file path ((← Job.store).read path)
  let decode ← Job.ofExcept (decoder readers name?)
  match decode bytes with
  | .ok text => return Text.unifyBreaks text
  | .error cause => throw (.decoding cause)

def convertFile (readers : Readers) (settings : Mapping) (kinds : List Text) (out : Path)
    (path : Path) : Job Nat := do
  Job.print ("Processing " ++ path.text ++ "...")
  let text ← sourceText readers settings path
  let parsed := readers.parse text
  if parsed.recovered then
    Job.log .warning ("Syntax errors in " ++ path.text ++ "; rendering the recovered tree")
  convertSites settings out (Utf8.encode text) ((Site.root parsed.root).descendants kinds)

def convertFiles (readers : Readers) (settings : Mapping) (kinds : List Text) (out : Path) :
    List Path → Job Nat
  | [] => return 0
  | path :: paths => do
      let count ← convertFile readers settings kinds out path
      return count + (← convertFiles readers settings kinds out paths)

def ensureFolders (path : Path) : Job Unit := do
  match (← Job.store).ensureFolders path with
  | (store, .ok ()) => Job.setStore store
  | (store, .error (cause, failed)) =>
      Job.setStore store
      throw (.ofFile cause failed)

/-- Convert all sources of a folder.  Settings that count as false are the defaults. -/
def convertFolder (readers : Readers) (settings : Value) (input out : Path) : Job Nat := do
  let settings := if settings.truthy then settings else Settings.defaults
  if !(← Job.file input ((← Job.store).holdsFolder input)) then
    throw (.inputNotFound input)
  let kinds ← Job.ofExcept (Settings.declarationKinds settings)
  match settings with
  | .map entries =>
      ensureFolders out
      match (← Job.store).sources input with
      | .ok paths => convertFiles readers entries kinds out paths
      | .error (cause, failed) => throw (.ofFile cause failed)
  | _ => throw .notMap

end Conversion

end ClassWiki
