import ClassWiki.Tree.Walk

/-!
# Call graphs

What a method calls and what it creates, each name once and in the order of its
first occurrence.  Every identifier inside a call counts, its arguments included.
-/

namespace ClassWiki

structure CallGraph where
  invoked : List Text
  created : List Text
  deriving DecidableEq, Repr

namespace CallGraph

def invokedNodes (method : Site) : List Node :=
  ((method.descendants ["invocation_expression"]).flatMap
    (Site.descendants ["identifier"])).map Site.node

def invoked? (source : Bytes) (method : Site) : Option (List Text) := do
  let names ← (invokedNodes method).mapM (Node.text? source)
  return names.eraseDups

def typeNode? (creation : Node) : Option Node :=
  (creation.labelled? "type").or creation.namedChildren.head?

def createdNodes (method : Site) : List Node :=
  (method.descendants ["object_creation_expression"]).filterMap (typeNode? ·.node)

def created? (source : Bytes) (method : Site) : Option (List Text) := do
  let types ← (createdNodes method).mapM (Node.text? source)
  return types.eraseDups

def ofMethod? (source : Bytes) (method : Site) : Option CallGraph := do
  return ⟨← invoked? source method, ← created? source method⟩

end CallGraph

end ClassWiki
