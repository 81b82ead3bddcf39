import ClassWiki.Page
import ClassWiki.Proofs.Declaration.Readable
import ClassWiki.Proofs.Tree.Excerpt

/-!
# Locality of a page

What a page shows of a declaration is read below its node, and from the comments directly
in front of it.  Nothing else of the source has any influence: not where the declaration
stands, not its parent, not the siblings behind it or in front of its comments.
-/

namespace ClassWiki

variable {source source' : Bytes}

/-! ## Parameters -/

namespace Parameter

variable {node node' : Node}

theorem rel_afterEquals? {nodes nodes' : List Node}
    (h : List.Forall₂ (Node.Alike source source') nodes nodes') :
    Option.Rel (Node.Alike source source') (afterEquals? nodes) (afterEquals? nodes') := by
  induction h with
  | nil => exact .none
  | cons hnode hnodes ih =>
      cases hnodes with
      | nil => exact .none
      | cons hnext _ =>
          rw [afterEquals?, afterEquals?, hnode.kind]
          split
          · exact .some hnext
          · exact ih

theorem rel_defaultNode? (h : node.AlikeBelow source source' node') :
    Option.Rel (Node.Alike source source') (defaultNode? node) (defaultNode? node') := by
  have hclause := h.child? "equals_value_clause"
  unfold defaultNode?
  generalize node.child? "equals_value_clause" = clause?,
    node'.child? "equals_value_clause" = clause?' at hclause ⊢
  cases hclause with
  | none => exact rel_afterEquals? (Node.alikeBelow_iff.1 h)
  | some hchild => exact rel_getLast? hchild.below.namedChildren

theorem ofNode?_congr (h : node.AlikeBelow source source' node') :
    ofNode? source node = ofNode? source' node' := by
  have hvalue : (defaultNode? node).mapM (Node.text? source) =
      (defaultNode? node').mapM (Node.text? source') := by
    have hdefault := rel_defaultNode? h
    generalize defaultNode? node = default?, defaultNode? node' = default?' at hdefault ⊢
    cases hdefault with
    | none => rfl
    | some hnode => rw [Option.mapM_some, Option.mapM_some, hnode.text?]
  rw [ofNode?, ofNode?, h.name?, h.labelledText?, hvalue]

theorem items?_congr {nodes nodes' : List Node}
    (h : List.Forall₂ (Node.Alike source source') nodes nodes') (loose : Text) :
    items? source loose nodes = items? source' loose nodes' := by
  induction h generalizing loose with
  | nil => rfl
  | cons hnode _ ih =>
      simp only [items?, hnode.kind, hnode.hasLabel, hnode.text?, ofNode?_congr hnode.below, ih]

theorem ofMethod?_congr (h : node.AlikeBelow source source' node') :
    ofMethod? source node = ofMethod? source' node' := by
  have hlist : Option.Rel (Node.Alike source source') (listNode? node) (listNode? node') :=
    rel_or (h.labelled? "parameters") (h.child? "parameter_list")
  unfold ofMethod?
  generalize listNode? node = list?, listNode? node' = list?' at hlist ⊢
  cases hlist with
  | none => rfl
  | some hnode => exact items?_congr (Node.alikeBelow_iff.1 hnode.below) []

end Parameter

/-! ## Call graphs -/

namespace CallGraph

variable {site site' : Site}

theorem invoked?_congr (h : site.node.AlikeBelow source source' site'.node) :
    invoked? source site = invoked? source' site' := by
  have hnodes : List.Forall₂ (Node.Alike source source') (invokedNodes site)
      (invokedNodes site') := by
    have hcalls := Site.descendants_matches h ["invocation_expression"]
    have hnames := List.rel_flatMap hcalls
      fun _ _ hcall => Site.descendants_matches hcall.1.below ["identifier"]
    exact List.rel_map (fun _ _ hname => hname.1) hnames
  rw [invoked?, invoked?, mapM_congr (fun _ _ hnode => hnode.text?) hnodes]

theorem created?_congr (h : site.node.AlikeBelow source source' site'.node) :
    created? source site = created? source' site' := by
  have hnodes : List.Forall₂ (Node.Alike source source') (createdNodes site)
      (createdNodes site') := by
    have hcreations := Site.descendants_matches h ["object_creation_expression"]
    refine List.rel_filterMap ?_ hcreations
    intro creation creation' hcreation
    exact rel_or (hcreation.1.below.labelled? "type")
      (rel_head? hcreation.1.below.namedChildren)
  rw [created?, created?, mapM_congr (fun _ _ hnode => hnode.text?) hnodes]

theorem ofMethod?_congr (h : site.node.AlikeBelow source source' site'.node) :
    ofMethod? source site = ofMethod? source' site' := by
  rw [ofMethod?, ofMethod?, invoked?_congr h, created?_congr h]

end CallGraph

/-! ## Members -/

section Members

variable {site site' : Site}

theorem Site.Alike.blocks? (h : site.Alike source source' site') :
    site.blocks? source = site'.blocks? source' := by
  rw [Site.blocks?, Site.blocks?, h.comments]

theorem Variable.ofField?_congr (h : site.Alike source source' site') :
    ofField? source site = ofField? source' site' := by
  have hlist := h.below.child? "variable_declaration"
  unfold ofField?
  generalize site.node.child? "variable_declaration" = list?,
    site'.node.child? "variable_declaration" = list?' at hlist ⊢
  cases hlist with
  | none => rfl
  | @some list list' hvariables =>
      -- The name is looked up one level further down, the type beside it.
      have hdeclarator := hvariables.below.child? "variable_declarator"
      simp only [hvariables.below.labelledText?, h.blocks?]
      generalize list.child? "variable_declarator" = declarator?,
        list'.child? "variable_declarator" = declarator?' at hdeclarator ⊢
      cases hdeclarator with
      | none => rfl
      | some hname => simp only [hname.below.name?]

theorem Variable.ofProperty?_congr (h : site.Alike source source' site') :
    ofProperty? source site = ofProperty? source' site' := by
  rw [ofProperty?, ofProperty?, h.below.name?, h.below.labelledText?, h.blocks?]

theorem Method.ofSite?_congr (h : site.Alike source source' site') :
    ofSite? source site = ofSite? source' site' := by
  have htype : Node.textOf? source (typeNode? site.node) =
      Node.textOf? source' (typeNode? site'.node) :=
    Node.AlikeBelow.textOf?_congr (rel_or (h.below.labelled? "returns")
      (h.below.labelled? "type"))
  rw [ofSite?, ofSite?, h.blocks?, h.below.name?, htype, Parameter.ofMethod?_congr h.below,
    CallGraph.ofMethod?_congr h.below]

theorem Variable.fields?_congr (h : site.node.AlikeBelow source source' site'.node) :
    fields? source site = fields? source' site' := by
  rw [fields?, fields?, mapM_congr (fun _ _ hfield => ofField?_congr hfield.2)
    (Site.descendants_matches h ["field_declaration"])]

theorem Variable.properties?_congr (h : site.node.AlikeBelow source source' site'.node) :
    properties? source site = properties? source' site' :=
  mapM_congr (fun _ _ hproperty => ofProperty?_congr hproperty.2)
    (Site.descendants_matches h ["property_declaration"])

theorem Method.all?_congr (h : site.node.AlikeBelow source source' site'.node) :
    all? source site = all? source' site' :=
  mapM_congr (fun _ _ hmethod => ofSite?_congr hmethod.2)
    (Site.descendants_matches h ["method_declaration"])

end Members

/-! ## Declarations -/

namespace Declaration

theorem basesFrom?_congr {nodes nodes' : List Node}
    (h : List.Forall₂ (Node.Alike source source') nodes nodes') (bases : List Text) :
    basesFrom? source bases nodes = basesFrom? source' bases nodes' := by
  induction h generalizing bases with
  | nil => rfl
  | cons hnode _ ih => simp only [basesFrom?, hnode.kind, hnode.text?, ih]

theorem bases?_congr {node node' : Node} (h : node.AlikeBelow source source' node') :
    bases? source node = bases? source' node' := by
  have hlist := h.child? "base_list"
  unfold bases?
  generalize node.child? "base_list" = list?, node'.child? "base_list" = list?' at hlist ⊢
  cases hlist with
  | none => rfl
  | some hnode =>
      apply basesFrom?_congr
      exact rel_filter (fun _ _ hbase => by rw [hbase.isComment]) hnode.below.namedChildren

theorem ofSite?_congr {site site' : Site} (h : site.Alike source source' site') :
    ofSite? source site = ofSite? source' site' := by
  rw [ofSite?, ofSite?, h.below.name?, bases?_congr h.below, h.blocks?,
    Variable.fields?_congr h.below, Variable.properties?_congr h.below,
    Method.all?_congr h.below]

/-- The declarations of two sources that agree below their nodes and in the comments directly
in front are the same, and so are their pages.  There is one as soon as these texts can be
read.  Alike nodes have alike children, and more than that is not asked of the two nodes. -/
theorem page_local {site site' : Site}
    (hbelow : site.node.AlikeBelow source source' site'.node)
    (hcomments : site.comments? source = site'.comments? source') :
    ofSite? source site = ofSite? source' site' ∧
      (∀ options, (ofSite? source site).map (Page.ofDeclaration options) =
        (ofSite? source' site').map (Page.ofDeclaration options)) ∧
      (site.Readable source → ∃ declaration, ofSite? source site = some declaration) := by
  have hsame := ofSite?_congr ⟨hbelow, hcomments⟩
  refine ⟨hsame, fun options => ?_, exists_ofSite?⟩
  rw [hsame]

namespace Sample

def leaf (kind : Text) (named : Bool) (label? : Option Text) (start stop : Nat) : Node :=
  ⟨kind, named, label?, start, stop, []⟩

/-- The tree of `class A:B{int f;}`. -/
def classNode (start : Nat) : Node :=
  ⟨"class_declaration", true, none, start, start + 17,
    [leaf "class" false none start (start + 5),
      leaf "identifier" true (some "name") (start + 6) (start + 7),
      ⟨"base_list", true, none, start + 7, start + 9,
        [leaf ":" false none (start + 7) (start + 8),
          leaf "identifier" true none (start + 8) (start + 9)]⟩,
      ⟨"declaration_list", true, some "body", start + 9, start + 17,
        [leaf "\x7b" false none (start + 9) (start + 10),
          ⟨"field_declaration", true, none, start + 10, start + 16,
            [⟨"variable_declaration", true, none, start + 10, start + 15,
                [leaf "predefined_type" true (some "type") (start + 10) (start + 13),
                  ⟨"variable_declarator", true, none, start + 14, start + 15,
                    [leaf "identifier" true (some "name") (start + 14) (start + 15)]⟩]⟩,
              leaf ";" false none (start + 15) (start + 16)]⟩,
          leaf "\x7d" false none (start + 16) (start + 17)]⟩]⟩

def text : Text := "///<summary>s</summary>\nclass A:B\x7bint f;\x7d"

/-- The class behind its comment, from the place where the comment starts. -/
def site (start : Nat) (before : List Node) : Site :=
  ⟨classNode (start + 24), leaf "comment" true none start (start + 23) :: before⟩

/-- The same text behind a comment and a statement. -/
def longer : Bytes := Utf8.encode ("//x\ny;" ++ text)

def others : List Node :=
  [⟨"global_statement", true, none, 4, 6, []⟩, leaf "comment" true none 0 3]

end Sample

theorem page_local_sample :
    ofSite? (Utf8.encode Sample.text) (Sample.site 0 []) =
        ofSite? Sample.longer (Sample.site 6 Sample.others) ∧
      (∀ options,
        (ofSite? (Utf8.encode Sample.text) (Sample.site 0 [])).map (Page.ofDeclaration options) =
          (ofSite? Sample.longer (Sample.site 6 Sample.others)).map
            (Page.ofDeclaration options)) ∧
      ∃ declaration, ofSite? (Utf8.encode Sample.text) (Sample.site 0 []) = some declaration := by
  have hbelow : (Sample.site 0 []).node.AlikeBelow (Utf8.encode Sample.text) Sample.longer
      (Sample.site 6 Sample.others).node := by rfl
  have hcomments : (Sample.site 0 []).comments? (Utf8.encode Sample.text) =
      (Sample.site 6 Sample.others).comments? Sample.longer := by decide +kernel
  have hreadable : (Sample.site 0 []).Readable (Utf8.encode Sample.text) := by
    refine ⟨?_, [Sample.text.take 23], by decide +kernel⟩
    show ∀ child ∈ (Sample.classNode 24).children, child.Readable (Utf8.encode Sample.text)
    decide +kernel
  obtain ⟨hsame, hpages, hread⟩ := page_local hbelow hcomments
  exact ⟨hsame, hpages, hread hreadable⟩

end Declaration

end ClassWiki
