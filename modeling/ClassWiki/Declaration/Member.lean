import ClassWiki.Declaration.CallGraph
import ClassWiki.Declaration.Parameter
import ClassWiki.Doc.Comment
import ClassWiki.Doc.Element

/-!
# Members

The fields, properties and methods below a declaration, in source order.  Members
of nested declarations are among them.
-/

namespace ClassWiki

structure Variable where
  name : Text
  type : Text
  summary : Text
  deriving DecidableEq, Repr

structure Method where
  name : Text
  type : Text
  summary : Text
  parameters : List Parameter
  exceptions : Text
  calls? : Option CallGraph
  deriving DecidableEq, Repr

def Site.blocks? (source : Bytes) (site : Site) : Option (List Text) := do
  return Doc.blocks (← site.comments? source)

namespace Variable

/-- The first variable of a field declaration; a field without a list of variables
is left out. -/
def ofField? (source : Bytes) (site : Site) : Option (Option Variable) :=
  match site.node.child? "variable_declaration" with
  | none => some none
  | some list => do
      let name ←
        match list.child? "variable_declarator" with
        | none => some []
        | some declarator => declarator.name? source
      let type ← list.labelledText? source "type"
      return some ⟨name, type, Doc.summary (← site.blocks? source)⟩

def ofProperty? (source : Bytes) (site : Site) : Option Variable := do
  let name ← site.node.name? source
  let type ← site.node.labelledText? source "type"
  return ⟨name, type, Doc.summary (← site.blocks? source)⟩

def fields? (source : Bytes) (site : Site) : Option (List Variable) := do
  let fields ← (site.descendants ["field_declaration"]).mapM (ofField? source)
  return fields.filterMap id

def properties? (source : Bytes) (site : Site) : Option (List Variable) :=
  (site.descendants ["property_declaration"]).mapM (ofProperty? source)

end Variable

namespace Method

def typeNode? (method : Node) : Option Node :=
  (method.labelled? "returns").or (method.labelled? "type")

def ofSite? (source : Bytes) (site : Site) : Option Method := do
  let blocks ← site.blocks? source
  let name ← site.node.name? source
  let type ← Node.textOf? source (typeNode? site.node)
  let parameters ← Parameter.ofMethod? source site.node
  let calls ← CallGraph.ofMethod? source site
  return ⟨name, type, Doc.summary blocks, parameters, Doc.exceptions blocks, some calls⟩

def all? (source : Bytes) (site : Site) : Option (List Method) :=
  (site.descendants ["method_declaration"]).mapM (ofSite? source)

end Method

end ClassWiki
