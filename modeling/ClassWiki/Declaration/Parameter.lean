import ClassWiki.Tree.Node

/-!
# Parameters

A parameter list holds parameters with a node of their own and loose ones: a type
and, later on, a name that hang directly in the list.
-/

namespace ClassWiki

structure Parameter where
  name : Text
  type : Text
  default? : Option Text
  deriving DecidableEq, Repr

namespace Parameter

/-! ## Written form -/

def text (parameter : Parameter) : Text :=
  let head : Text := "[[" ++ parameter.type ++ "]] `" ++ parameter.name ++ "`"
  match parameter.default? with
  | none => head
  | some value => head ++ " = " ++ value

def listText (parameters : List Parameter) : Text :=
  "(" ++ Text.join ", " (parameters.map text) ++ ")"

/-! ## Reading from a tree -/

def afterEquals? : List Node → Option Node
  | node :: next :: nodes =>
      if node.kind = "=" then some next else afterEquals? (next :: nodes)
  | _ => none

/-- The node of the default value: the last named one of an equals clause, or what
follows an equals sign. -/
def defaultNode? (node : Node) : Option Node :=
  match node.child? "equals_value_clause" with
  | some clause => clause.namedChildren.getLast?
  | none => afterEquals? node.children

def ofNode? (source : Bytes) (node : Node) : Option Parameter := do
  let name ← node.name? source
  let type ← node.labelledText? source "type"
  let value ← (defaultNode? node).mapM (Node.text? source)
  return ⟨name, type, value⟩

/-- Read the items of a list, `loose` being the type that waits for its name. -/
def items? (source : Bytes) (loose : Text) : List Node → Option (List Parameter)
  | [] => some []
  | node :: nodes =>
      if node.kind = "parameter" then do
        let parameter ← ofNode? source node
        return parameter :: (← items? source loose nodes)
      else if node.hasLabel "type" then do
        let type ← node.text? source
        items? source type nodes
      else if node.hasLabel "name" then do
        let name ← node.text? source
        return ⟨name, loose, none⟩ :: (← items? source [] nodes)
      else items? source loose nodes

def listNode? (method : Node) : Option Node :=
  (method.labelled? "parameters").or (method.child? "parameter_list")

def ofMethod? (source : Bytes) (method : Node) : Option (List Parameter) :=
  match listNode? method with
  | none => some []
  | some list => items? source [] list.children

end Parameter

end ClassWiki
