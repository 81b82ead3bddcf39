import ClassWiki.Tree.Walk

/-!
# Trees in order

The order of a tree is a node in front of its subtrees, these from left to right.  Walking
with a stack of sites meets the nodes of the stack in this order.  The lineage of a node is
the list of the nodes around it; with the lineages at hand, one pass can tell what stands
inside of what.
-/

namespace ClassWiki

namespace Node

/-- What holds of the nodes below a node and of those behind it holds of all nodes. -/
@[elab_as_elim]
theorem forest_induction {motive : List Node → Prop} (nil : motive [])
    (cons : ∀ node nodes, motive node.children → motive nodes → motive (node :: nodes)) :
    ∀ nodes, motive nodes
  | [] => nil
  | ⟨_, _, _, _, _, children⟩ :: nodes =>
      cons _ nodes (forest_induction nil cons children) (forest_induction nil cons nodes)

mutual

def preorder : Node → List Node
  | ⟨kind, named, label?, start, stop, children⟩ =>
      ⟨kind, named, label?, start, stop, children⟩ :: forestPreorder children

def forestPreorder : List Node → List Node
  | [] => []
  | node :: nodes => node.preorder ++ forestPreorder nodes

end

theorem preorder_eq (node : Node) : node.preorder = node :: forestPreorder node.children := by
  cases node
  rfl

theorem forestPreorder_cons (node : Node) (nodes : List Node) :
    forestPreorder (node :: nodes) =
      node :: (forestPreorder node.children ++ forestPreorder nodes) := by
  cases node
  rfl

theorem forestPreorder_append (first second : List Node) :
    forestPreorder (first ++ second) = forestPreorder first ++ forestPreorder second := by
  induction first with
  | nil => rfl
  | cons node first ih => simp [forestPreorder_cons, ih]

/-- With a node, all that lies below it is among the nodes. -/
theorem forestPreorder_children_subset {node : Node} {nodes : List Node}
    (h : node ∈ forestPreorder nodes) : forestPreorder node.children ⊆ forestPreorder nodes := by
  induction nodes using forest_induction with
  | nil => cases h
  | cons first rest ihbelow ihrest =>
      rw [forestPreorder_cons, List.mem_cons, List.mem_append] at h
      rw [forestPreorder_cons]
      rcases h with rfl | h | h
      · exact fun _ hbelow => List.mem_cons_of_mem _ (List.mem_append_left _ hbelow)
      · exact fun _ hbelow => List.mem_cons_of_mem _ (List.mem_append_left _ (ihbelow h hbelow))
      · exact fun _ hbelow => List.mem_cons_of_mem _ (List.mem_append_right _ (ihrest h hbelow))

/-! ## Lineages -/

mutual

/-- The nodes of a tree in order, each with the nodes around it, the nearest first. -/
def lineages (around : List Node) : Node → List (Node × List Node)
  | ⟨kind, named, label?, start, stop, children⟩ =>
      (⟨kind, named, label?, start, stop, children⟩, around) ::
        forestLineages (⟨kind, named, label?, start, stop, children⟩ :: around) children

def forestLineages (around : List Node) : List Node → List (Node × List Node)
  | [] => []
  | node :: nodes => node.lineages around ++ forestLineages around nodes

end

theorem forestLineages_cons (around : List Node) (node : Node) (nodes : List Node) :
    forestLineages around (node :: nodes) = (node, around) ::
      (forestLineages (node :: around) node.children ++ forestLineages around nodes) := by
  cases node
  rfl

theorem map_fst_forestLineages (around nodes : List Node) :
    (forestLineages around nodes).map Prod.fst = forestPreorder nodes := by
  induction nodes using forest_induction generalizing around with
  | nil => rfl
  | cons node nodes ihbelow ihrest =>
      simp [forestLineages_cons, forestPreorder_cons, ihbelow, ihrest]

theorem suffix_of_mem_forestLineages {around nodes : List Node} {lineage : Node × List Node}
    (h : lineage ∈ forestLineages around nodes) : around <:+ lineage.2 := by
  induction nodes using forest_induction generalizing around with
  | nil => cases h
  | cons node nodes ihbelow ihrest =>
      rw [forestLineages_cons, List.mem_cons, List.mem_append] at h
      rcases h with rfl | h | h
      · exact List.suffix_rfl
      · exact (List.suffix_cons node around).trans (ihbelow h)
      · exact ihrest h

end Node

/-! ## Walks -/

namespace Site

theorem map_node_siblings (before nodes : List Node) :
    (siblings before nodes).map Site.node = nodes := by
  induction nodes generalizing before with
  | nil => rfl
  | cons node nodes ih => simp [siblings, ih]

theorem map_node_children (site : Site) : site.children.map Site.node = site.node.children :=
  map_node_siblings [] site.node.children

/-- A walk meets the nodes of the stack in order. -/
theorem map_node_walk (keep : Node → Bool) (stack : List Site) :
    (walk keep stack).map Site.node =
      (Node.forestPreorder (stack.map Site.node)).filter keep := by
  fun_induction walk keep stack with
  | case1 => rfl
  | case2 site stack hkeep ih =>
      rw [List.map_append, map_node_children, Node.forestPreorder_append] at ih
      simp [Node.forestPreorder_cons, hkeep, ih]
  | case3 site stack hkeep ih =>
      rw [List.map_append, map_node_children, Node.forestPreorder_append] at ih
      simp [Node.forestPreorder_cons, hkeep, ih]

theorem map_node_descendants (kinds : List Text) (site : Site) :
    (site.descendants kinds).map Site.node =
      (Node.forestPreorder site.node.children).filter (kinds.contains ·.kind) := by
  rw [descendants, map_node_walk, map_node_children]

end Site

end ClassWiki
