import ClassWiki.Store.Entry

/-!
# Paths

A path starts at the root or at the working directory in which it was given, and goes
down through its parts.  Empty parts and single dots are dropped when a path is read;
two dots stay a part, because where they lead depends on the directory they stand in.
-/

namespace ClassWiki

inductive Anchor where
  | here (working : Location)
  | root
  | doubleRoot
  deriving DecidableEq, Repr

def Anchor.start : Anchor → Location
  | .here working => working
  | .root | .doubleRoot => []

structure Path where
  anchor : Anchor
  parts : List Text
  deriving DecidableEq, Repr

namespace Path

def partsOf (text : Text) : List Text :=
  (Text.splitOn '/' text).filter fun part => !part.isEmpty && part != "."

def anchorOf (working : Location) (text : Text) : Anchor :=
  -- Exactly two slashes in front are kept apart from one; three or more count as one.
  match (text.takeWhile (· == '/')).length with
  | 0 => .here working
  | 2 => .doubleRoot
  | _ => .root

def ofText (working : Location) (text : Text) : Path := ⟨anchorOf working text, partsOf text⟩

def text (path : Path) : Text :=
  match path.anchor, path.parts with
  | .here _, [] => "."
  | .here _, parts => Text.join "/" parts
  | .root, parts => "/" ++ Text.join "/" parts
  | .doubleRoot, parts => "//" ++ Text.join "/" parts

/-- Go on from a path to what a text says, unless that starts at a root itself. -/
def child (path : Path) (text : Text) : Path :=
  match anchorOf path.anchor.start text with
  | .here _ => ⟨path.anchor, path.parts ++ partsOf text⟩
  | anchor => ⟨anchor, partsOf text⟩

def below (path : Path) (parts : List Text) : Path := ⟨path.anchor, path.parts ++ parts⟩

def upTo (path : Path) (count : Nat) : Path := ⟨path.anchor, path.parts.take count⟩

def collapseStep (done : List Text) (part : Text) : List Text :=
  -- Two dots at the root stay there.
  if part = ".." then done.dropLast else done ++ [part]

/-- Where a path leads, if it leads anywhere: there are no links. -/
def location (path : Path) : Location := path.parts.foldl collapseStep path.anchor.start

def resolve (path : Path) : Path := ⟨.root, path.location⟩

def parent (path : Path) : Path := path.upTo (path.parts.length - 1)

def hasNul (path : Path) : Bool := path.parts.any (·.contains '\x00')

def limit : Nat := 4095

def isLong (path : Path) : Bool := limit < Utf8.size path.text

end Path

end ClassWiki
