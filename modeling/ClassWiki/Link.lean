import ClassWiki.Text.Blank
import ClassWiki.Text.Word

/-!
# Links to types

A type is shown as a wiki link.  A generic type links each of its arguments
instead of itself; an argument is opaque, whatever brackets it holds.  With
namespace links the whole type is one link, whose dots are path separators and
whose angle brackets are escaped.
-/

namespace ClassWiki.Link

open Text

def wrap (target : Text) : Text := "[[" ++ target ++ "]]"

/-! ## Argument lists -/

def isOpener (c : Char) : Bool := c == '<' || c == '(' || c == '['

def isCloser (c : Char) : Bool := c == '>' || c == ')' || c == ']'

def step (c : Char) : Int :=
  if isOpener c then 1 else if isCloser c then -1 else 0

/-- Split at the commas that stand at depth zero.  The depth may become negative
where more brackets are closed than were opened. -/
def splitFrom (depth : Int) : Text → List Text
  | [] => [[]]
  | c :: rest =>
      if c = ',' ∧ depth = 0 then [] :: splitFrom depth rest
      else extend c (splitFrom (depth + step c) rest)

def splitArguments (arguments : Text) : List Text := splitFrom 0 arguments

@[simp] theorem splitFrom_ne_nil (depth : Int) (text : Text) :
    splitFrom depth text ≠ [] := by
  cases text with
  | nil => simp [splitFrom]
  | cons c rest =>
      rw [splitFrom]
      split <;> simp

theorem join_splitFrom (depth : Int) (text : Text) :
    join "," (splitFrom depth text) = text := by
  induction text generalizing depth with
  | nil => rfl
  | cons c rest ih =>
      rw [splitFrom]
      split
      · next h => rw [join_cons_of_ne_nil _ _ (by simp), ih, h.1]; rfl
      · rw [join_extend, ih]

/-! ## Generic names -/

def isNameChar (c : Char) : Bool := isWord c || c == '.'

/-- A generic type: what stands before its first angle bracket, and what stands
between that one and the closing bracket at the very end. -/
structure Generic where
  name : Text
  arguments : Text
  deriving DecidableEq, Repr

def Generic.text (generic : Generic) : Text :=
  generic.name ++ "<" ++ generic.arguments ++ ">"

def generic? (type : Text) : Option Generic :=
  match type.takeWhile isNameChar, type.dropWhile isNameChar with
  | c :: name, '<' :: rest =>
      if rest.getLast? = some '>' ∧ rest.dropLast ≠ [] then
        some ⟨c :: name, rest.dropLast⟩
      else none
  | _, _ => none

/-! ## Links -/

def ofType (type : Text) : Text :=
  match generic? type.strip with
  | some generic =>
      generic.name ++ "<" ++
        join ", " ((splitArguments generic.arguments).map fun argument =>
          wrap (strip argument)) ++ ">"
  | none => wrap type.strip

def replace (c : Char) (image : Text) (text : Text) : Text :=
  text.flatMap fun d => if d = c then image else [d]

def ofQualified (type : Text) : Text :=
  wrap (replace '.' "/" (replace '>' "&gt;" (replace '<' "&lt;" type.strip)))

end ClassWiki.Link
