import ClassWiki.Text.Blank
import ClassWiki.Text.Lines

/-!
# Content of a documentation element

The content of an element is kept line by line: every line is stripped, and so
is the whole.
-/

namespace ClassWiki.Doc

open Text

def clean (content : Text) : Text := strip (unlines ((lines content).map strip))

end ClassWiki.Doc
