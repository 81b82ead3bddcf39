import ClassWiki.Proofs.Declaration.Readable
import ClassWiki.Proofs.Doc.Comment
import ClassWiki.Proofs.Tree.Preorder

/-!
# Calls in one pass

The names that a method invokes are collected call by call, and an identifier inside of
several calls is met once for each of them.  One pass over the method meets it once: it
takes the identifiers in order and keeps those that stand inside of a call.  Both give the
same names in the same order, because all that an inner call holds was met before, when the
outermost call around it was searched.
-/

namespace ClassWiki.CallGraph

/-! ## Distinct names -/

/-- The texts of the nodes, each once and in the order of its first occurrence. -/
def distinct? (source : Bytes) (nodes : List Node) : Option (List Text) :=
  (nodes.mapM (Node.text? source)).map List.eraseDups

theorem eraseDups_append_of_subset {texts more : List Text} (h : more ⊆ texts) :
    (texts ++ more).eraseDups = texts.eraseDups := by
  have hnone : more.removeAll texts = [] := by
    rw [List.removeAll, List.filter_eq_nil_iff]
    intro text htext
    simpa using h htext
  rw [List.eraseDups_append, hnone]
  simp

theorem eraseDups_append_congr {texts texts' : List Text} (h : texts.eraseDups = texts'.eraseDups)
    (more : List Text) : (texts ++ more).eraseDups = (texts' ++ more).eraseDups := by
  have hsame : more.removeAll texts = more.removeAll texts' := by
    apply List.filter_congr
    intro text _
    have hmem : text ∈ texts ↔ text ∈ texts' := by
      rw [← List.mem_eraseDups, h, List.mem_eraseDups]
    simp [hmem]
  rw [List.eraseDups_append, List.eraseDups_append, h, hsame]

section

variable {source : Bytes} {nodes nodes' more : List Node}

theorem distinct?_append (source : Bytes) (nodes more : List Node) :
    distinct? source (nodes ++ more) = (nodes.mapM (Node.text? source)).bind fun texts =>
      (more.mapM (Node.text? source)).map fun texts' => (texts ++ texts').eraseDups := by
  rw [distinct?, List.mapM_append]
  cases nodes.mapM (Node.text? source) <;> cases more.mapM (Node.text? source) <;> rfl

theorem distinct?_append_of_subset (h : more ⊆ nodes) :
    distinct? source (nodes ++ more) = distinct? source nodes := by
  rw [distinct?_append, distinct?]
  cases hnodes : nodes.mapM (Node.text? source) with
  | none => rfl
  | some texts =>
      have hmem : ∀ node ∈ more, ∃ text, Node.text? source node = some text ∧ text ∈ texts := by
        intro node hnode
        have htext : node.text? source ∈ texts.map some := by
          rw [← mapM_eq_some_iff.1 hnodes]
          exact List.mem_map_of_mem (h hnode)
        obtain ⟨text, hin, heq⟩ := List.mem_map.1 htext
        exact ⟨text, heq.symm, hin⟩
      obtain ⟨texts', hmore⟩ := exists_mapM fun node hnode =>
        (hmem node hnode).imp fun _ htext => htext.1
      have hsubset : texts' ⊆ texts := by
        intro text htext
        have hsome : some text ∈ more.map (Node.text? source) := by
          rw [mapM_eq_some_iff.1 hmore]
          exact List.mem_map_of_mem htext
        obtain ⟨node, hnode, heq⟩ := List.mem_map.1 hsome
        obtain ⟨text', htext', hin⟩ := hmem node hnode
        cases heq.symm.trans htext'
        exact hin
      rw [hmore]
      exact congrArg some (eraseDups_append_of_subset hsubset)

theorem distinct?_append_congr (h : distinct? source nodes = distinct? source nodes')
    (more : List Node) :
    distinct? source (nodes ++ more) = distinct? source (nodes' ++ more) := by
  rw [distinct?, distinct?] at h
  rw [distinct?_append, distinct?_append]
  cases hnodes : nodes.mapM (Node.text? source) with
  | none =>
      rw [hnodes, Option.map_none, eq_comm, Option.map_eq_none_iff] at h
      rw [h]
  | some texts =>
      rw [hnodes, Option.map_some, eq_comm, Option.map_eq_some_iff] at h
      obtain ⟨texts', hnodes', hsame⟩ := h
      simp only [hnodes', Option.bind_some, eraseDups_append_congr hsame]

/-- Whatever was met before, both lists add the same names in the same order. -/
def AddSame (source : Bytes) (nodes nodes' : List Node) : Prop :=
  ∀ seen, distinct? source (seen ++ nodes) = distinct? source (seen ++ nodes')

theorem AddSame.append {rest rest' : List Node} (h : AddSame source nodes nodes')
    (hrest : AddSame source rest rest') :
    AddSame source (nodes ++ rest) (nodes' ++ rest') := by
  intro seen
  calc distinct? source (seen ++ (nodes ++ rest))
    _ = distinct? source (seen ++ nodes ++ rest) := by rw [List.append_assoc]
    _ = distinct? source (seen ++ nodes ++ rest') := hrest (seen ++ nodes)
    _ = distinct? source (seen ++ nodes' ++ rest') := distinct?_append_congr (h seen) rest'
    _ = distinct? source (seen ++ (nodes' ++ rest')) := by rw [List.append_assoc]

theorem addSame_of_subset (h : more ⊆ nodes) : AddSame source (nodes ++ more) nodes := by
  intro seen
  rw [← List.append_assoc]
  exact distinct?_append_of_subset fun node hnode => List.mem_append_right _ (h hnode)

end

/-! ## Nested scan and single pass -/

def isCall (node : Node) : Bool := node.kind == "invocation_expression"

def isName (node : Node) : Bool := node.kind == "identifier"

/-- The identifiers below every call, call by call. -/
def nested (order : List Node) : List Node :=
  (order.filter isCall).flatMap fun call => (Node.forestPreorder call.children).filter isName

/-- The identifiers with a call around them. -/
def kept (lineages : List (Node × List Node)) : List Node :=
  (lineages.filter fun lineage => isName lineage.1 && lineage.2.any isCall).map Prod.fst

/-- One pass over all that lies below the method.  Only calls below the method count. -/
def namesInCalls (method : Node) : List Node := kept (Node.forestLineages [] method.children)

theorem kept_append (first second : List (Node × List Node)) :
    kept (first ++ second) = kept first ++ kept second := by
  simp [kept]

theorem invokedNodes_eq_nested (method : Site) :
    invokedNodes method = nested (Node.forestPreorder method.node.children) := by
  have hkind : ∀ (kind : Text) (node : Node), [kind].contains node.kind = (node.kind == kind) := by
    intro kind node
    rw [Bool.eq_iff_iff]
    simp
  have hnames : ∀ call : Site, (call.descendants ["identifier"]).map Site.node =
      (Node.forestPreorder call.node.children).filter isName := by
    intro call
    rw [Site.map_node_descendants]
    exact List.filter_congr fun node _ => hkind _ node
  have hcalls : (method.descendants ["invocation_expression"]).map Site.node =
      (Node.forestPreorder method.node.children).filter isCall := by
    rw [Site.map_node_descendants]
    exact List.filter_congr fun node _ => hkind _ node
  rw [invokedNodes, List.map_flatMap, nested, ← hcalls, List.flatMap_map]
  simp only [hnames]

/-- Inside of a call every identifier is kept. -/
theorem kept_of_call_around {around : List Node} (h : around.any isCall = true)
    (nodes : List Node) :
    kept (Node.forestLineages around nodes) = (Node.forestPreorder nodes).filter isName := by
  have hkept : ∀ lineage ∈ Node.forestLineages around nodes,
      (isName lineage.1 && lineage.2.any isCall) = isName lineage.1 := by
    intro lineage hlineage
    obtain ⟨inner, hinner⟩ := Node.suffix_of_mem_forestLineages hlineage
    simp [← hinner, h]
  rw [kept, List.filter_congr hkept, ← Node.map_fst_forestLineages around nodes, List.filter_map]
  rfl

theorem nested_subset (nodes : List Node) :
    nested (Node.forestPreorder nodes) ⊆ (Node.forestPreorder nodes).filter isName := by
  intro name hname
  obtain ⟨call, hcall, hbelow⟩ := List.mem_flatMap.1 hname
  obtain ⟨hmem, hisName⟩ := List.mem_filter.1 hbelow
  have hin := Node.forestPreorder_children_subset (List.mem_filter.1 hcall).1 hmem
  exact List.mem_filter.2 ⟨hin, hisName⟩

/-- Outside of all calls, the nested scan and the single pass go on alike. -/
theorem addSame_nested_kept (source : Bytes) {around : List Node}
    (h : around.any isCall = false) (nodes : List Node) :
    AddSame source (nested (Node.forestPreorder nodes))
      (kept (Node.forestLineages around nodes)) := by
  induction nodes using Node.forest_induction generalizing around with
  | nil => exact fun _ => rfl
  | cons node nodes ihbelow ihrest =>
      have hkept : kept (Node.forestLineages around (node :: nodes)) =
          kept (Node.forestLineages (node :: around) node.children) ++
            kept (Node.forestLineages around nodes) := by
        rw [Node.forestLineages_cons, ← kept_append]
        simp [kept, h]
      rw [hkept, Node.forestPreorder_cons]
      cases hcall : isCall node with
      | true =>
          have haround : (node :: around).any isCall = true := by simp [hcall]
          have hinside := kept_of_call_around haround node.children
          have hnested : nested (node :: (Node.forestPreorder node.children ++
              Node.forestPreorder nodes)) =
                (Node.forestPreorder node.children).filter isName ++
                  nested (Node.forestPreorder node.children) ++
                    nested (Node.forestPreorder nodes) := by
            simp [nested, hcall]
          rw [hnested, hinside]
          exact (addSame_of_subset (nested_subset node.children)).append (ihrest h)
      | false =>
          have hnested : nested (node :: (Node.forestPreorder node.children ++
              Node.forestPreorder nodes)) =
                nested (Node.forestPreorder node.children) ++
                  nested (Node.forestPreorder nodes) := by
            simp [nested, hcall]
          rw [hnested]
          exact (ihbelow (by simp [hcall, h])).append (ihrest h)

/-- The invoked names are those met in one pass over the method in order, which keeps the
identifiers with a call around them. -/
theorem invoked?_eq_single_pass (source : Bytes) (method : Site) :
    invoked? source method = distinct? source (namesInCalls method.node) := by
  have hnone : ([] : List Node).any isCall = false := rfl
  have hsame := addSame_nested_kept source hnone method.node.children []
  rw [← invokedNodes_eq_nested] at hsame
  rw [namesInCalls, ← List.nil_append (kept _), ← hsame, List.nil_append, invoked?, distinct?]
  cases (invokedNodes method).mapM (Node.text? source) <;> rfl

end ClassWiki.CallGraph
