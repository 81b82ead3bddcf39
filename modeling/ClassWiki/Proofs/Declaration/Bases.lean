import ClassWiki.Proofs.Declaration.Locality
import ClassWiki.Proofs.Doc.Comment
import Mathlib.Data.List.Basic

/-!
# Bases with their arguments

A base list is read from left to right, and what is an argument list is put behind the text that
was read last.  The same can be done with the nodes before any text is read: they fall into
groups, each of one node and the argument lists behind it.  The texts of the bases are the texts
of the groups, so that nothing of the list is lost but its comments.
-/

namespace ClassWiki

def Node.isArguments (node : Node) : Bool := node.kind == "argument_list"

theorem Node.isArguments_iff {node : Node} :
    node.isArguments = true ↔ node.kind = "argument_list" := beq_iff_eq

/-- The node without the comments among its children. -/
def Node.withoutComments (node : Node) : Node :=
  { node with children := node.children.filter (!·.isComment) }

namespace Declaration

/-! ## Groups -/

/-- A node of a base list and the argument lists that belong to it. -/
structure Group where
  base : Node
  arguments : List Node

namespace Group

def nodes (group : Group) : List Node := group.base :: group.arguments

def text? (source : Bytes) (group : Group) : Option Text :=
  (group.nodes.mapM (Node.text? source)).map List.flatten

/-- Put one more node behind the groups.  An argument list belongs to the last of them. -/
def attach (node : Node) : List Group → List Group
  | [] => [⟨node, []⟩]
  | [last] =>
      if node.isArguments then [⟨last.base, last.arguments ++ [node]⟩] else [last, ⟨node, []⟩]
  | first :: next :: groups => first :: attach node (next :: groups)

def ofNodes (nodes : List Node) : List Group :=
  nodes.foldl (fun groups node => attach node groups) []

end Group

/-- The groups hold the nodes in their order, and no group ends in front of an argument list.
Only the first group may start with one. -/
structure IsGrouping (nodes : List Node) (groups : List Group) : Prop where
  nodes_eq : nodes = groups.flatMap Group.nodes
  arguments : ∀ group ∈ groups, ∀ node ∈ group.arguments, node.isArguments = true
  bases : ∀ base ∈ (groups.map Group.base).tail, base.isArguments = false

namespace Group

theorem flatMap_nodes_attach (node : Node) (groups : List Group) :
    (attach node groups).flatMap nodes = groups.flatMap nodes ++ [node] := by
  fun_induction attach node groups with
  | case1 => rfl
  | case2 last _ => simp [nodes]
  | case3 last _ => simp [nodes]
  | case4 first next groups ih =>
      rw [List.flatMap_cons, ih, ← List.append_assoc, ← List.flatMap_cons]

theorem map_base_attach (node : Node) (groups : List Group) :
    (attach node groups).map base =
      groups.map base ++ if node.isArguments ∧ groups ≠ [] then [] else [node] := by
  fun_induction attach node groups with
  | case1 => simp
  | case2 last h => simp [h]
  | case3 last h => simp [h]
  | case4 first next groups ih => simp [ih]

theorem mem_arguments_attach {node argument : Node} {groups : List Group} {group : Group}
    (hgroup : group ∈ attach node groups) (h : argument ∈ group.arguments) :
    (∃ old ∈ groups, argument ∈ old.arguments) ∨ argument = node ∧ node.isArguments = true := by
  fun_induction attach node groups with
  | case1 =>
      rw [List.mem_singleton] at hgroup
      subst hgroup
      cases h
  | case2 last hnode =>
      rw [List.mem_singleton] at hgroup
      subst hgroup
      rw [List.mem_append, List.mem_singleton] at h
      exact h.imp (fun hold => ⟨last, by simp, hold⟩) fun hnew => ⟨hnew, hnode⟩
  | case3 last hnode =>
      rw [List.mem_pair] at hgroup
      rcases hgroup with rfl | rfl
      · exact .inl ⟨group, by simp, h⟩
      · cases h
  | case4 first next groups ih =>
      rw [List.mem_cons] at hgroup
      rcases hgroup with rfl | hgroup
      · exact .inl ⟨group, by simp, h⟩
      · refine (ih hgroup).imp_left ?_
        rintro ⟨old, hold, hargument⟩
        exact ⟨old, List.mem_cons_of_mem _ hold, hargument⟩

end Group

/-- One more node keeps a grouping a grouping. -/
theorem IsGrouping.attach {nodes : List Node} {groups : List Group} (h : IsGrouping nodes groups)
    (node : Node) : IsGrouping (nodes ++ [node]) (Group.attach node groups) := by
  refine ⟨by rw [Group.flatMap_nodes_attach, h.nodes_eq], ?_, ?_⟩
  · intro group hgroup argument hargument
    rcases Group.mem_arguments_attach hgroup hargument with ⟨old, hold, hmem⟩ | ⟨rfl, hnode⟩
    · exact h.arguments old hold argument hmem
    · exact hnode
  · cases groups with
    | nil => simp [Group.attach]
    | cons first groups =>
        rw [Group.map_base_attach, List.map_cons, List.cons_append, List.tail_cons]
        rw [List.forall_mem_append]
        refine ⟨h.bases, ?_⟩
        cases hnode : node.isArguments <;> simp [hnode]

theorem isGrouping_foldl {front : List Node} {groups : List Group} (h : IsGrouping front groups)
    (nodes : List Node) :
    IsGrouping (front ++ nodes)
      (nodes.foldl (fun groups node => Group.attach node groups) groups) := by
  induction nodes generalizing front groups with
  | nil => rwa [List.append_nil]
  | cons node nodes ih =>
      have hnext := ih (h.attach node)
      rwa [List.append_assoc] at hnext

theorem isGrouping_ofNodes (nodes : List Node) : IsGrouping nodes (Group.ofNodes nodes) := by
  have hnone : IsGrouping [] [] := ⟨rfl, by simp, by simp⟩
  exact isGrouping_foldl hnone nodes

/-! ## Texts of groups -/

theorem Group.text?_singleton (source : Bytes) (node : Node) :
    Group.text? source ⟨node, []⟩ = node.text? source := by
  cases h : node.text? source <;> simp [Group.text?, Group.nodes, h]

theorem Group.text?_concat (source : Bytes) (group : Group) (node : Node) :
    Group.text? source ⟨group.base, group.arguments ++ [node]⟩ =
      (group.text? source).bind fun text => (node.text? source).map (text ++ ·) := by
  have hnodes : Group.nodes ⟨group.base, group.arguments ++ [node]⟩ = group.nodes ++ [node] := rfl
  rw [Group.text?, hnodes, List.mapM_append, Group.text?]
  cases group.nodes.mapM (Node.text? source) with
  | none => rfl
  | some texts => cases h : node.text? source <;> simp [h]

theorem appendLast_cons (tail part : Text) {parts : List Text} (h : parts ≠ []) :
    appendLast tail (part :: parts) = part :: appendLast tail parts := by
  cases parts with
  | nil => exact absurd rfl h
  | cons next parts => rfl

/-- Put the text of a node behind those that were read before it. -/
def extendTexts (node : Node) (texts : List Text) (text : Text) : List Text :=
  if node.isArguments then appendLast text texts else texts ++ [text]

theorem extendTexts_cons (node : Node) (text first : Text) {texts : List Text} (h : texts ≠ []) :
    extendTexts node (first :: texts) text = first :: extendTexts node texts text := by
  unfold extendTexts
  split
  · exact appendLast_cons text first h
  · rfl

theorem mapM_text?_attach (source : Bytes) (node : Node) (groups : List Group) :
    (Group.attach node groups).mapM (Group.text? source) =
      (groups.mapM (Group.text? source)).bind fun texts =>
        (node.text? source).map (extendTexts node texts) := by
  fun_induction Group.attach node groups with
  | case1 =>
      simp only [List.mapM_cons, List.mapM_nil, Group.text?_singleton]
      cases node.text? source <;> simp [extendTexts, appendLast]
  | case2 last hnode =>
      simp only [List.mapM_cons, List.mapM_nil, Group.text?_concat]
      cases last.text? source with
      | none => rfl
      | some text => cases node.text? source <;> simp [extendTexts, appendLast, hnode]
  | case3 last hnode =>
      simp only [List.mapM_cons, List.mapM_nil, Group.text?_singleton]
      cases last.text? source with
      | none => rfl
      | some text => cases node.text? source <;> simp [extendTexts, hnode]
  | case4 first next groups ih =>
      have hall : (first :: next :: groups).mapM (Group.text? source) =
          (first.text? source).bind fun text =>
            ((next :: groups).mapM (Group.text? source)).bind fun texts => some (text :: texts) :=
        List.mapM_cons
      rw [List.mapM_cons, ih, hall]
      cases first.text? source with
      | none => rfl
      | some text =>
          cases hrest : (next :: groups).mapM (Group.text? source) with
          | none => rfl
          | some texts =>
              have hne : texts ≠ [] := by
                rintro rfl
                simpa using mapM_eq_some_iff.1 hrest
              cases node.text? source <;> simp [extendTexts_cons node _ text hne]

theorem basesFrom?_cons (source : Bytes) (texts : List Text) (node : Node) (nodes : List Node) :
    basesFrom? source texts (node :: nodes) = (node.text? source).bind fun text =>
      basesFrom? source (extendTexts node texts text) nodes := by
  rw [basesFrom?, Option.bind_eq_bind]
  congr 1
  funext text
  unfold extendTexts
  split
  · next hnode => rw [if_pos (Node.isArguments_iff.2 hnode)]
  · next hnode => rw [if_neg fun harguments => hnode (Node.isArguments_iff.1 harguments)]

/-- Reading nodes behind groups whose texts have been read gives the texts of all groups. -/
theorem basesFrom?_eq (source : Bytes) (groups : List Group) (nodes : List Node) :
    (groups.mapM (Group.text? source)).bind (fun texts => basesFrom? source texts nodes) =
      (nodes.foldl (fun groups node => Group.attach node groups) groups).mapM
        (Group.text? source) := by
  induction nodes generalizing groups with
  | nil => simp [basesFrom?]
  | cons node nodes ih =>
      rw [List.foldl_cons, ← ih, mapM_text?_attach, Option.bind_assoc]
      congr 1
      funext texts
      rw [basesFrom?_cons]
      cases node.text? source <;> rfl

theorem bases?_eq {node list : Node} (hlist : node.child? "base_list" = some list)
    (source : Bytes) :
    bases? source node = (Group.ofNodes (baseNodes list)).mapM (Group.text? source) := by
  rw [bases?, hlist]
  exact basesFrom?_eq source [] (baseNodes list)

/-! ## What a grouping tells -/

theorem map_flatten_mapM_text? (source : Bytes) (groups : List Group) :
    (groups.mapM (Group.text? source)).map List.flatten =
      ((groups.flatMap Group.nodes).mapM (Node.text? source)).map List.flatten := by
  induction groups with
  | nil => rfl
  | cons group groups ih =>
      rw [List.flatMap_cons, List.mapM_append, List.mapM_cons, Group.text?]
      cases group.nodes.mapM (Node.text? source) with
      | none => rfl
      | some texts =>
          cases hgroups : groups.mapM (Group.text? source) with
          | none =>
              rw [hgroups, Option.map_none, eq_comm, Option.map_eq_none_iff] at ih
              simp [ih]
          | some rest =>
              rw [hgroups, Option.map_some, eq_comm, Option.map_eq_some_iff] at ih
              obtain ⟨others, hothers, hflatten⟩ := ih
              simp [hothers, hflatten]

/-- A group counts once among the nodes that are no arguments, unless it starts with some. -/
theorem countP_nodes {group : Group} (h : ∀ node ∈ group.arguments, node.isArguments = true) :
    group.nodes.countP (!·.isArguments) = if group.base.isArguments then 0 else 1 := by
  have harguments : group.arguments.countP (!·.isArguments) = 0 := by
    rw [List.countP_eq_zero]
    intro node hnode
    simp [h node hnode]
  rw [Group.nodes, List.countP_cons, harguments]
  cases group.base.isArguments <;> rfl

theorem countP_flatMap_nodes {groups : List Group}
    (harguments : ∀ group ∈ groups, ∀ node ∈ group.arguments, node.isArguments = true)
    (hbases : ∀ base ∈ groups.map Group.base, base.isArguments = false) :
    (groups.flatMap Group.nodes).countP (!·.isArguments) = groups.length := by
  induction groups with
  | nil => rfl
  | cons group groups ih =>
      rw [List.map_cons, List.forall_mem_cons] at hbases
      rw [List.forall_mem_cons] at harguments
      rw [List.flatMap_cons, List.countP_append, countP_nodes harguments.1, hbases.1,
        ih harguments.2 hbases.2, List.length_cons]
      simp
      omega

theorem IsGrouping.length_eq {nodes : List Node} {groups : List Group}
    (h : IsGrouping nodes groups) :
    groups.length =
      nodes.countP (!·.isArguments) + if nodes.head?.any Node.isArguments then 1 else 0 := by
  obtain ⟨rfl, harguments, hbases⟩ := h
  cases groups with
  | nil => rfl
  | cons first others =>
      rw [List.forall_mem_cons] at harguments
      rw [List.flatMap_cons, List.countP_append, countP_nodes harguments.1,
        countP_flatMap_nodes harguments.2 hbases, Group.nodes]
      cases hfirst : first.base.isArguments with
      | true => simp [hfirst]
      | false =>
          simp [hfirst]
          omega

/-! ## Comments -/

theorem baseNodes_eq (list : Node) : baseNodes list = list.withoutComments.namedChildren := by
  rw [baseNodes, Node.namedChildren, Node.namedChildren, Node.withoutComments,
    List.filter_filter, List.filter_filter]
  simp only [Bool.and_comm]

theorem bases?_congr_comments {source source' : Bytes} {node node' list list' : Node}
    (hlist : node.child? "base_list" = some list)
    (hlist' : node'.child? "base_list" = some list')
    (h : list.withoutComments.AlikeBelow source source' list'.withoutComments) :
    bases? source node = bases? source' node' := by
  rw [bases?, bases?, hlist, hlist']
  simp only [baseNodes_eq]
  exact basesFrom?_congr h.namedChildren []

/-- The bases of a base list are the texts of its groups, each a node with all the argument
lists that follow it.  If the nodes can be read, the bases have all of their texts in order, and
there is one base for each node that is no argument list, and one more if the list starts with
arguments.  Another base list has the same bases if it is alike once both are without their
comments. -/
theorem bases?_grouped {node list : Node} (hlist : node.child? "base_list" = some list)
    (source : Bytes) :
    (∀ texts, (baseNodes list).mapM (Node.text? source) = some texts →
      ∃ bases, bases? source node = some bases ∧ bases.flatten = texts.flatten ∧
        bases.length = (baseNodes list).countP (!·.isArguments) +
          if (baseNodes list).head?.any Node.isArguments then 1 else 0) ∧
    (∃ groups, IsGrouping (baseNodes list) groups ∧
      bases? source node = groups.mapM (Group.text? source)) ∧
    ∀ source' node' list', node'.child? "base_list" = some list' →
      list.withoutComments.AlikeBelow source source' list'.withoutComments →
      bases? source node = bases? source' node' := by
  have hgrouping := isGrouping_ofNodes (baseNodes list)
  refine ⟨?_, ⟨_, hgrouping, bases?_eq hlist source⟩,
    fun source' node' list' hlist' halike => bases?_congr_comments hlist hlist' halike⟩
  · intro texts htexts
    have hflatten := map_flatten_mapM_text? source (Group.ofNodes (baseNodes list))
    rw [← hgrouping.nodes_eq, htexts, Option.map_some, Option.map_eq_some_iff,
      ← bases?_eq hlist source] at hflatten
    obtain ⟨bases, hbases, hsame⟩ := hflatten
    refine ⟨bases, hbases, hsame, ?_⟩
    rw [bases?_eq hlist source, mapM_eq_some_iff] at hbases
    have hlength := congrArg List.length hbases
    rw [List.length_map, List.length_map] at hlength
    rw [← hlength, hgrouping.length_eq]

namespace Sample

/-- A base list that starts with arguments and has more of them behind a comment and behind
a comma. -/
def baseSource : Bytes := Utf8.encode ":/*1*/(a)B/*2*/(x),(y)C"

def baseParts : List Node :=
  [leaf ":" false none 0 1, leaf "comment" true none 1 6, leaf "argument_list" true none 6 9,
    leaf "identifier" true none 9 10, leaf "comment" true none 10 15,
    leaf "argument_list" true none 15 18, leaf "," false none 18 19,
    leaf "argument_list" true none 19 22, leaf "identifier" true none 22 23]

/-- The same base list with its comments in another place. -/
def movedSource : Bytes := Utf8.encode ":(a)B(x),//3\n(y)C"

def movedParts : List Node :=
  [leaf ":" false none 0 1, leaf "argument_list" true none 1 4, leaf "identifier" true none 4 5,
    leaf "argument_list" true none 5 8, leaf "," false none 8 9, leaf "comment" true none 9 12,
    leaf "argument_list" true none 13 16, leaf "identifier" true none 16 17]

def baseTexts : List Text := ["(a)", "B(x)(y)", "C"]

def baseList (children : List Node) : Node := ⟨"base_list", true, none, 0, 23, children⟩

def withBases (children : List Node) : Node :=
  ⟨"class_declaration", true, none, 0, 23, [baseList children]⟩

end Sample

open Sample

theorem bases?_grouped_sample :
    (withBases baseParts).child? "base_list" = some (baseList baseParts) ∧
      bases? baseSource (withBases baseParts) = some baseTexts ∧
      bases? movedSource (withBases movedParts) = some baseTexts ∧
      ∃ bases, bases? baseSource (withBases baseParts) = some bases ∧
        bases.flatten = "(a)B(x)(y)C" ∧ bases.length = 3 := by
  have hlist : ∀ children, (withBases children).child? "base_list" = some (baseList children) :=
    fun _ => rfl
  have hbases : bases? baseSource (withBases baseParts) = some baseTexts := by decide +kernel
  have htexts : (baseNodes (baseList baseParts)).mapM (Node.text? baseSource) =
      some (["(a)", "B", "(x)", "(y)", "C"] : List Text) := by decide +kernel
  have halike : (baseList baseParts).withoutComments.AlikeBelow baseSource movedSource
      (baseList movedParts).withoutComments := by rfl
  obtain ⟨hread, -, hcomments⟩ := bases?_grouped (hlist baseParts) baseSource
  refine ⟨hlist _, hbases, ?_, hread _ htexts⟩
  rw [← hcomments _ _ _ (hlist movedParts) halike, hbases]

end Declaration

end ClassWiki
