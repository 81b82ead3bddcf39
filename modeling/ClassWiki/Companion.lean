import ClassWiki.Config.Value
import ClassWiki.Conversion
import ClassWiki.Tree.Listing

/-!
# Companion files

Sources and configuration documents are parsed by other programs, which leave what they
found in a companion file: `A.cs.tree` beside the source `A.cs`, and `c.yml.value` beside
the document `c.yml`.  Both are listings with one node or value in a line, in front of
the nodes or values that belong to it.
-/

namespace ClassWiki.Companion

/-! ## Lines -/

def number (digits : Text) : Nat := Number.digitsValue (digits.filter Char.isDigit)

def splitWord (line : Text) : Text × Text :=
  (line.takeWhile (· != ' '), (line.dropWhile (· != ' ')).drop 1)

/-! ## Trees -/

/-- A node is written as its kind, `1` or `0` for named or not, its label or nothing,
where it starts and stops, and how many children it has, with tabs between them. -/
def listed? (line : Text) : Option Listed :=
  match Text.splitOn '\t' line with
  | [kind, named, label, start, stop, arity] =>
      some ⟨kind, named = "1", if label.isEmpty then none else some label,
        number start, number stop, number arity⟩
  | _ => none

def parsed? (text : Text) : Option Parsed :=
  let (recovered, lines) : Bool × List Text :=
    match Text.lines text with
    | first :: rest => if first = "recovered" then (true, rest) else (false, first :: rest)
    | [] => (false, [])
  (Node.ofListing? (lines.filterMap listed?)).map fun root => ⟨root, recovered⟩

/-! ## Values -/

def pairs : List Value → List (Scalar × Value)
  | .scalar key :: value :: rest => (key, value) :: pairs rest
  | _ => []

def scalar (word rest : Text) : Scalar :=
  if word = "true" then .bool true
  else if word = "false" then .bool false
  else if word = "int" then
    .int (if rest.head? = some '-' then -(number rest : Int) else number rest)
  else if word = "float" then .ofLiteral rest
  else if word = "text" then .text rest
  else .null

/-- A list or a set takes as many of the values behind it as its line says, a map takes
twice as many, and a pair takes two. -/
def values : List Text → List Value
  | [] => []
  | line :: lines =>
      let behind := values lines
      let (word, rest) := splitWord line
      if word = "list" then
        .list (behind.take (number rest)) :: behind.drop (number rest)
      else if word = "map" then
        .map (Mapping.ofList (pairs (behind.take (2 * number rest)))) ::
          behind.drop (2 * number rest)
      else if word = "set" then
        .set ((behind.take (number rest)).filterMap Value.scalar?) :: behind.drop (number rest)
      else if word = "pair" then
        match behind with
        | first :: second :: others => .pair first second :: others
        | _ => []
      else .scalar (scalar word rest) :: behind

def value? (text : Text) : Option Value := (values (Text.lines text)).head?

/-! ## Readers -/

def texts (content : Bytes) : List Text :=
  Encoding.all.filterMap fun encoding =>
    match encoding.decode content with
    | .ok text => some (Text.unifyBreaks text)
    | .error _ => none

def companion? (store : Store) (ending : Text) (location : Location) : Option Text :=
  match location.reverse with
  | name :: above =>
      match store.get? ((name ++ ending) :: above).reverse with
      | some (.file content) => Utf8.decode? content
      | _ => none
  | [] => none

def answers (store : Store) (ending : Text) (read : Text → Option α) : List (Text × α) :=
  store.root.files.flatMap fun (location, content) =>
    match (companion? store ending location).bind read with
    | some answer => (texts content).map fun text => (text, answer)
    | none => []

/-- A source without a companion has no declarations, a document without one is refused, and
there are no other codecs than the known encodings. -/
def readers (store : Store) : Readers where
  parse :=
    let trees := answers store ".tree" parsed?
    fun text => (trees.lookup text).getD ⟨⟨"source", true, none, 0, 0, []⟩, true⟩
  document :=
    let found := answers store ".value" value?
    fun text =>
      match found.lookup text with
      | some value => .ok value
      | none => .error "unread document"
  locale := Encoding.utf8.decode
  codec? := fun _ => none

end ClassWiki.Companion
