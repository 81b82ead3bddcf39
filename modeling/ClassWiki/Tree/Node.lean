import ClassWiki.Text.Utf8

/-!
# Concrete trees

A node of a concrete tree has a kind, a label under which it may hang in its
parent, and the range of bytes that it covers in the source.  Its text is read
from the source: `none` stands for a range that is not the encoding of a text.
-/

namespace ClassWiki

structure Node where
  kind : Text
  named : Bool
  label? : Option Text
  start : Nat
  stop : Nat
  children : List Node
  deriving Repr

namespace Node

/-! ## Size -/

mutual

def size : Node → Nat
  | ⟨_, _, _, _, _, children⟩ => 1 + forestSize children

def forestSize : List Node → Nat
  | [] => 0
  | node :: nodes => node.size + forestSize nodes

end

theorem size_eq (node : Node) : node.size = 1 + forestSize node.children := by
  cases node
  rfl

/-! ## Children -/

def isComment (node : Node) : Bool := node.kind == "comment"

def namedChildren (node : Node) : List Node := node.children.filter (·.named)

def childAmong? (node : Node) (kinds : List Text) : Option Node :=
  node.children.find? (kinds.contains ·.kind)

def child? (node : Node) (kind : Text) : Option Node := node.childAmong? [kind]

def hasLabel (node : Node) (label : Text) : Bool := node.label? == some label

def labelled? (node : Node) (label : Text) : Option Node :=
  node.children.find? (·.hasLabel label)

/-! ## Text -/

def slice (source : Bytes) (start stop : Nat) : Bytes :=
  (source.drop start).take (stop - start)

def text? (source : Bytes) (node : Node) : Option Text :=
  Utf8.decode? (slice source node.start node.stop)

def textOf? (source : Bytes) : Option Node → Option Text
  | none => some []
  | some node => node.text? source

/-- The node that names a declaration: the child under the label, or else the first
identifier. -/
def nameNode? (node : Node) : Option Node :=
  (node.labelled? "name").or (node.child? "identifier")

def name? (source : Bytes) (node : Node) : Option Text := textOf? source node.nameNode?

def labelledText? (source : Bytes) (node : Node) (label : Text) : Option Text :=
  textOf? source (node.labelled? label)

end Node

end ClassWiki
