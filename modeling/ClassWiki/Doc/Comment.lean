import ClassWiki.Text.Blank
import ClassWiki.Text.Lines

/-!
# Documentation comments

Three slashes, and not four, start a documentation line; consecutive lines form
one block.  A comment that opens with a slash and two stars is a block of its own.
All other comments document nothing, but they end a run of lines.
-/

namespace ClassWiki.Doc

open Text

/-! ## Block comments -/

/-- Drop the blanks and the star that start a line.  A star that belongs to a
closing mark stays. -/
def dropStar (line : Text) : Text :=
  match line.dropWhile isBlank with
  | '*' :: '/' :: _ => line
  | '*' :: rest => rest
  | _ => line

def blockBody (comment : Text) : Text :=
  unlines ((lines (dropTail "*/" (comment.drop 3))).map dropStar)

/-! ## Grouping -/

inductive Comment where
  | line (rest : Text)
  | block (body : Text)
  | plain
  deriving DecidableEq, Repr

def Comment.ofText (comment : Text) : Comment :=
  match comment with
  | '/' :: '/' :: '/' :: '/' :: _ => .plain
  | '/' :: '/' :: '/' :: rest => .line rest
  | ['/', '*', '*', '/'] => .plain
  | '/' :: '*' :: '*' :: _ => .block (blockBody comment)
  | _ => .plain

def runBlock (run : List Text) : List Text :=
  if run.isEmpty then [] else [unlines run]

/-- Group the comments that follow a run of documentation lines. -/
def groupFrom (run : List Text) : List Comment → List Text
  | [] => runBlock run
  | .line rest :: comments => groupFrom (run ++ [rest]) comments
  | .block body :: comments => runBlock run ++ body :: groupFrom [] comments
  | .plain :: comments => runBlock run ++ groupFrom [] comments

def blocks (comments : List Text) : List Text :=
  groupFrom [] (comments.map fun comment => Comment.ofText (strip comment))

end ClassWiki.Doc
