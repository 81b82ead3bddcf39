import ClassWiki.Declaration.Member

/-!
# Declarations

A class-like declaration as a page shows it: its name, its bases, its summary and
its members.
-/

namespace ClassWiki

structure Declaration where
  name : Text
  bases : List Text
  summary : Text
  fields : List Variable
  properties : List Variable
  methods : List Method
  deriving DecidableEq, Repr

namespace Declaration

/-! ## Base types -/

def appendLast (tail : Text) : List Text → List Text
  | [] => [tail]
  | [part] => [part ++ tail]
  | part :: next :: parts => part :: appendLast tail (next :: parts)

def baseNodes (list : Node) : List Node :=
  list.namedChildren.filter (!·.isComment)

def basesFrom? (source : Bytes) (bases : List Text) : List Node → Option (List Text)
  | [] => some bases
  | node :: nodes => do
      let text ← node.text? source
      if node.kind = "argument_list" then
        basesFrom? source (appendLast text bases) nodes
      else basesFrom? source (bases ++ [text]) nodes

def bases? (source : Bytes) (node : Node) : Option (List Text) :=
  match node.child? "base_list" with
  | none => some []
  | some list => basesFrom? source [] (baseNodes list)

/-! ## Whole declarations -/

def ofSite? (source : Bytes) (site : Site) : Option Declaration := do
  let name ← site.node.name? source
  let bases ← bases? source site.node
  let blocks ← site.blocks? source
  let fields ← Variable.fields? source site
  let properties ← Variable.properties? source site
  let methods ← Method.all? source site
  return ⟨name, bases, Doc.summary blocks, fields, properties, methods⟩

end Declaration

end ClassWiki
