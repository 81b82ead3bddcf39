import ClassWiki.Tree.Node

/-!
# Walking a tree

A site is a node together with the siblings in front of it, so that the comments
of a declaration can be found without a way back to its parent.  The walk keeps
the sites still to be visited on a stack and meets every proper descendant of a
node, each in front of its own descendants.
-/

namespace ClassWiki

/-- The siblings in front of the node come nearest first. -/
structure Site where
  node : Node
  before : List Node
  deriving Repr

namespace Site

def root (node : Node) : Site := ⟨node, []⟩

def siblings (before : List Node) : List Node → List Site
  | [] => []
  | node :: nodes => ⟨node, before⟩ :: siblings (node :: before) nodes

def children (site : Site) : List Site := siblings [] site.node.children

def stackSize : List Site → Nat
  | [] => 0
  | site :: stack => site.node.size + stackSize stack

private theorem stackSize_append (first second : List Site) :
    stackSize (first ++ second) = stackSize first + stackSize second := by
  induction first with
  | nil => simp [stackSize]
  | cons site first ih => simp [stackSize, ih, Nat.add_assoc]

private theorem stackSize_siblings (before nodes : List Node) :
    stackSize (siblings before nodes) = Node.forestSize nodes := by
  induction nodes generalizing before with
  | nil => rfl
  | cons node nodes ih => simp [siblings, stackSize, Node.forestSize, ih]

theorem stackSize_children (site : Site) :
    stackSize site.children = Node.forestSize site.node.children :=
  stackSize_siblings [] site.node.children

theorem stackSize_cons (site : Site) (stack : List Site) :
    stackSize (site :: stack) = stackSize (site.children ++ stack) + 1 := by
  rw [stackSize_append, stackSize_children, stackSize, Node.size_eq]
  omega

theorem stackSize_children_append_lt (site : Site) (stack : List Site) :
    stackSize (site.children ++ stack) < stackSize (site :: stack) := by
  rw [stackSize_cons]
  omega

/-- Visit the sites of a stack and all that lies below them. -/
def walk (keep : Node → Bool) : List Site → List Site
  | [] => []
  | site :: stack =>
      if keep site.node then site :: walk keep (site.children ++ stack)
      else walk keep (site.children ++ stack)
termination_by stack => stackSize stack
decreasing_by all_goals exact stackSize_children_append_lt site stack

def descendants (kinds : List Text) (site : Site) : List Site :=
  walk (fun node => kinds.contains node.kind) site.children

def all (site : Site) : List Site := site :: walk (fun _ => true) site.children

/-! ## Comments in front of a site -/

def commentNodes (site : Site) : List Node :=
  (site.before.takeWhile Node.isComment).reverse

def comments? (source : Bytes) (site : Site) : Option (List Text) :=
  site.commentNodes.mapM (Node.text? source)

end Site

end ClassWiki
