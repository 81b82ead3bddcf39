import ClassWiki.Fault
import ClassWiki.Text.Lines

/-!
# Settings

The default settings, and how a document is laid over settings.  The tables are
merged key by key, the list of kinds is replaced without its repetitions, and every
other entry replaces the one of its key.  A document that is refused has been applied
up to the entry at fault.
-/

namespace ClassWiki.Settings

def defaults : Value :=
  .map [(.text "declaration_kinds", .list [.text "class_declaration"]),
    (.text "sections", .map [(.text "exceptions", .bool false)]),
    (.text "links", .map [(.text "namespace_qualified_bases", .bool false)]),
    (.text "source_encoding", .text "utf-8")]

/-! ## One entry -/

def setAt (items : List Value) (index : Int) (value : Value) : Except Fault Value :=
  -- Negative positions count from the end.
  let position := if index < 0 then index + items.length else index
  if 0 ≤ position ∧ position < items.length then
    .ok (.list (items.set position.toNat value))
  else .error .outOfRange

def isPosition (index : Int) : Bool := -0x8000000000000000 ≤ index && index < 0x8000000000000000

/-- Set an entry of settings that should be a map.  In a list, whole numbers name
positions.  The characters of a text and the bytes of bytes have positions too, but
cannot be set. -/
def assign (settings : Value) (key : Scalar) (value : Value) : Except Fault Value :=
  match settings, key with
  | .map entries, _ => .ok (.map (Mapping.set key value entries))
  | .list items, .int index => setAt items index value
  | .list items, .bool flag => setAt items (if flag then 1 else 0) value
  | .scalar (.text _), .int index | .scalar (.bytes _), .int index =>
      .error (if isPosition index then .wrongType else .outOfRange)
  | _, _ => .error .wrongType

def merge (settings : Value) (key : Text) (more : Mapping) : Except Fault Value :=
  match settings with
  | .map entries =>
      match Mapping.get? entries (.text key) with
      | none => .error .missingKey
      | some (.map table) =>
          .ok (.map (Mapping.set (.text key) (.map (Mapping.update table more)) entries))
      | some _ => .error .notMap
  | _ => .error .wrongType

def isTable (key : Text) : Bool := key == "sections" || key == "links"

def texts? : Value → Option (List Text)
  | .list items => items.mapM Value.text?
  | _ => none

def applyEntry (path : Path) (settings : Value) (key : Scalar) (value : Value) :
    Except Fault Value :=
  match key with
  | .text name =>
      if isTable name then
        match value with
        | .map more => merge settings name more
        | _ => .error (.tableNotMap path name)
      else if name = "declaration_kinds" then
        match texts? value with
        | some kinds => assign settings key (.list (kinds.eraseDups.map .text))
        | none => .error (.kindsNotTexts path)
      else assign settings key value
  | _ => assign settings key value

/-! ## Whole documents -/

/-- The settings reached, and the fault that stopped the entries if there was one. -/
def applyEntries (path : Path) (settings : Value) : Mapping → Value × Option Fault
  | [] => (settings, none)
  | (key, value) :: entries =>
      match applyEntry path settings key value with
      | .ok next => applyEntries path next entries
      | .error fault => (settings, some fault)

def applyDocument (path : Path) (settings document : Value) : Value × Option Fault :=
  match document with
  | .map entries => applyEntries path settings entries
  | _ => (settings, some (.documentNotMap path))

theorem applyDocument_of_not_map {document : Value} (h : ∀ entries, document ≠ .map entries)
    (path : Path) (settings : Value) :
    applyDocument path settings document = (settings, some (.documentNotMap path)) := by
  cases document with
  | map entries => exact absurd rfl (h entries)
  | scalar value => rfl
  | list items => rfl
  | set items => rfl
  | pair first second => rfl

def applyDocuments (path : Path) (settings : Value) : List Value → Value × Option Fault
  | [] => (settings, none)
  | document :: documents =>
      match applyDocument path settings document with
      | (next, none) => applyDocuments path next documents
      | stopped => stopped

/-! ## Loading -/

/-- The settings that a file asks for.  There need not be a path nor a file, and an
empty document changes nothing.  `read` gives the value of a document or the kind of
its error. -/
def load (read : Text → Except Text Value) (working : Location) (store : Store)
    (path? : Option Text) : Except Fault Value :=
  match path? with
  | none | some [] => .ok defaults
  | some text => do
      let path := Path.ofText working text
      if ← (store.holds path).mapError (Fault.ofFile · path) then
        let bytes ← (store.read path).mapError (Fault.ofFile · path)
        let source ← (Encoding.utf8.decode bytes).mapError Fault.decoding
        match ← (read (Text.unifyBreaks source)).mapError Fault.document with
        | .scalar .null => .ok defaults
        | document =>
            match applyDocument path defaults document with
            | (settings, none) => .ok settings
            | (_, some fault) => .error fault
      else .ok defaults

end ClassWiki.Settings
