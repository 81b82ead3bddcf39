import ClassWiki.Declaration.Basic
import ClassWiki.Proofs.Traversal

/-!
# Readable declarations

A node is readable if every node of its tree has a text.  A declaration can be shown when
the nodes below it are readable and the comments in front of it have texts: what is shown
is read from nothing else.
-/

namespace ClassWiki

variable {source : Bytes}

namespace Node

mutual

/-- Every node of the tree has a text. -/
def isReadable (source : Bytes) : Node → Bool
  | ⟨_, _, _, start, stop, children⟩ =>
      (Utf8.decode? (slice source start stop)).isSome && areReadable source children

def areReadable (source : Bytes) : List Node → Bool
  | [] => true
  | node :: nodes => node.isReadable source && areReadable source nodes

end

def Readable (source : Bytes) (node : Node) : Prop := node.isReadable source = true

instance : DecidablePred (Readable source) := fun node =>
  inferInstanceAs (Decidable (node.isReadable source = true))

/-- The children are readable; the node itself need not be. -/
def ReadableBelow (source : Bytes) (node : Node) : Prop :=
  ∀ child ∈ node.children, child.Readable source

variable {node : Node}

theorem areReadable_iff {nodes : List Node} :
    areReadable source nodes = true ↔ ∀ node ∈ nodes, node.Readable source := by
  induction nodes with
  | nil => simp [areReadable]
  | cons node nodes ih => simp [areReadable, ih, Readable]

theorem readable_iff :
    node.Readable source ↔
      (∃ text, node.text? source = some text) ∧ node.ReadableBelow source := by
  cases node
  rw [Readable, isReadable, Bool.and_eq_true, areReadable_iff, Option.isSome_iff_exists]
  rfl

theorem Readable.exists_text? (h : node.Readable source) :
    ∃ text, node.text? source = some text :=
  (readable_iff.1 h).1

theorem Readable.readableBelow (h : node.Readable source) : node.ReadableBelow source :=
  (readable_iff.1 h).2

/-! ## Queries -/

theorem exists_textOf? {node? : Option Node} (h : ∀ node ∈ node?, node.Readable source) :
    ∃ text, textOf? source node? = some text := by
  cases node? with
  | none => exact ⟨[], rfl⟩
  | some node => exact (h node rfl).exists_text?

theorem readable_or {first second : Option Node}
    (hfirst : ∀ node ∈ first, node.Readable source)
    (hsecond : ∀ node ∈ second, node.Readable source) :
    ∀ node ∈ first.or second, node.Readable source := by
  cases first with
  | none => exact hsecond
  | some _ => exact hfirst

namespace ReadableBelow

theorem child? (h : node.ReadableBelow source) (kind : Text) :
    ∀ child ∈ node.child? kind, child.Readable source :=
  fun child hchild => h child (List.mem_of_find?_eq_some hchild)

theorem labelled? (h : node.ReadableBelow source) (label : Text) :
    ∀ child ∈ node.labelled? label, child.Readable source :=
  fun child hchild => h child (List.mem_of_find?_eq_some hchild)

theorem namedChildren (h : node.ReadableBelow source) :
    ∀ child ∈ node.namedChildren, child.Readable source :=
  fun child hchild => h child (List.filter_sublist.subset hchild)

theorem exists_name? (h : node.ReadableBelow source) : ∃ text, node.name? source = some text :=
  exists_textOf? (readable_or (h.labelled? "name") (h.child? "identifier"))

theorem exists_labelledText? (h : node.ReadableBelow source) (label : Text) :
    ∃ text, node.labelledText? source label = some text :=
  exists_textOf? (h.labelled? label)

end ReadableBelow

end Node

/-! ## Walks -/

namespace Site

/-- The nodes below the site are readable, and the comments in front of it have texts. -/
structure Readable (source : Bytes) (site : Site) : Prop where
  below : site.node.ReadableBelow source
  comments : ∃ texts, site.comments? source = some texts

/-- What a walk passes on from each site to its children holds of every site that it meets. -/
theorem forall_walk {P : Site → Prop} {keep : Node → Bool} {stack : List Site}
    (hchildren : ∀ site, P site → ∀ child ∈ site.children, P child)
    (hstack : ∀ site ∈ stack, P site) : ∀ site ∈ walk keep stack, P site := by
  fun_induction walk keep stack with
  | case1 => exact hstack
  | case2 top rest _ ih =>
      obtain ⟨htop, hrest⟩ := List.forall_mem_cons.1 hstack
      have hbelow := ih (List.forall_mem_append.2 ⟨hchildren top htop, hrest⟩)
      exact List.forall_mem_cons.2 ⟨htop, hbelow⟩
  | case3 top rest _ ih =>
      obtain ⟨htop, hrest⟩ := List.forall_mem_cons.1 hstack
      exact ih (List.forall_mem_append.2 ⟨hchildren top htop, hrest⟩)

theorem exists_comments? {site : Site} (h : ∀ node ∈ site.before, node.Readable source) :
    ∃ texts, site.comments? source = some texts := by
  apply exists_mapM
  intro comment hcomment
  exact (h comment ((List.takeWhile_sublist _).subset (List.mem_reverse.1 hcomment))).exists_text?

theorem siblings_readable {before nodes : List Node}
    (hbefore : ∀ node ∈ before, node.Readable source)
    (hnodes : ∀ node ∈ nodes, node.Readable source) :
    ∀ site ∈ siblings before nodes,
      site.node.Readable source ∧ ∀ node ∈ site.before, node.Readable source := by
  induction nodes generalizing before with
  | nil => simp [siblings]
  | cons first rest ih =>
      obtain ⟨hfirst, hrest⟩ := List.forall_mem_cons.1 hnodes
      have hnext := ih (List.forall_mem_cons.2 ⟨hfirst, hbefore⟩) hrest
      exact List.forall_mem_cons.2 ⟨⟨hfirst, hbefore⟩, hnext⟩

theorem descendants_readable {site : Site}
    (h : site.node.ReadableBelow source) (kinds : List Text) :
    ∀ found ∈ site.descendants kinds,
      found.node.Readable source ∧ ∀ node ∈ found.before, node.Readable source := by
  -- The siblings in front of an inner node lie below the same parent.
  apply forall_walk
  · intro parent hparent
    exact siblings_readable (by simp) hparent.1.readableBelow
  · exact siblings_readable (by simp) h

end Site

/-! ## Parameters -/

namespace Parameter

variable {node : Node}

theorem mem_of_afterEquals? {nodes : List Node} {node : Node}
    (h : afterEquals? nodes = some node) : node ∈ nodes := by
  fun_induction afterEquals? nodes with
  | case1 first next nodes hkind => simp_all
  | case2 first next nodes hkind ih => exact List.mem_cons_of_mem first (ih h)
  | case3 => simp at h

theorem readable_defaultNode? (h : node.ReadableBelow source) :
    ∀ found ∈ defaultNode? node, found.Readable source := by
  intro found hfound
  unfold defaultNode? at hfound
  split at hfound
  · rename_i clause hclause
    have hbelow := (h.child? _ clause hclause).readableBelow
    exact hbelow.namedChildren found (List.mem_of_getLast? hfound)
  · exact h found (mem_of_afterEquals? hfound)

theorem exists_ofNode? (h : node.ReadableBelow source) :
    ∃ parameter, ofNode? source node = some parameter := by
  obtain ⟨name, hname⟩ := h.exists_name?
  obtain ⟨type, htype⟩ := h.exists_labelledText? "type"
  have hvalue : ∃ value, (defaultNode? node).mapM (Node.text? source) = some value := by
    have hdefault := readable_defaultNode? h
    cases hnode : defaultNode? node with
    | none => exact ⟨none, rfl⟩
    | some default =>
        obtain ⟨text, htext⟩ := (hdefault default hnode).exists_text?
        exact ⟨some text, by rw [Option.mapM_some, htext]; rfl⟩
  obtain ⟨value, hvalue⟩ := hvalue
  exact ⟨⟨name, type, value⟩, by rw [ofNode?, hname, htype, hvalue]; rfl⟩

theorem exists_items? {nodes : List Node} (h : ∀ node ∈ nodes, node.Readable source)
    (loose : Text) : ∃ parameters, items? source loose nodes = some parameters := by
  induction nodes generalizing loose with
  | nil => exact ⟨[], rfl⟩
  | cons node nodes ih =>
      obtain ⟨hnode, hnodes⟩ := List.forall_mem_cons.1 h
      obtain ⟨text, htext⟩ := hnode.exists_text?
      rw [items?, htext]
      -- A parameter, a loose type, a loose name, or a node that is passed over.
      split
      · obtain ⟨parameter, hparameter⟩ := exists_ofNode? hnode.readableBelow
        obtain ⟨parameters, hparameters⟩ := ih hnodes loose
        exact ⟨parameter :: parameters, by rw [hparameter, hparameters]; rfl⟩
      · split
        · exact ih hnodes text
        · split
          · obtain ⟨parameters, hparameters⟩ := ih hnodes []
            exact ⟨⟨text, loose, none⟩ :: parameters, by rw [hparameters]; rfl⟩
          · exact ih hnodes loose

theorem exists_ofMethod? (h : node.ReadableBelow source) :
    ∃ parameters, ofMethod? source node = some parameters := by
  have hlist : ∀ list ∈ listNode? node, list.Readable source :=
    Node.readable_or (h.labelled? "parameters") (h.child? "parameter_list")
  unfold ofMethod?
  split
  · exact ⟨[], rfl⟩
  · rename_i list hfound
    exact exists_items? (hlist list hfound).readableBelow []

end Parameter

/-! ## Members -/

section Members

variable {site : Site}

theorem CallGraph.exists_ofMethod? (h : site.node.ReadableBelow source) :
    ∃ calls, ofMethod? source site = some calls := by
  have hinvoked : ∃ names, (invokedNodes site).mapM (Node.text? source) = some names := by
    apply exists_mapM
    intro node hnode
    simp only [invokedNodes, List.mem_map, List.mem_flatMap] at hnode
    obtain ⟨name, ⟨call, hcall, hname⟩, rfl⟩ := hnode
    have hbelow := (Site.descendants_readable h _ call hcall).1.readableBelow
    exact (Site.descendants_readable hbelow _ name hname).1.exists_text?
  have hcreated : ∃ types, (createdNodes site).mapM (Node.text? source) = some types := by
    apply exists_mapM
    intro node hnode
    obtain ⟨creation, hcreation, htype⟩ := List.mem_filterMap.1 hnode
    have hbelow := (Site.descendants_readable h _ creation hcreation).1.readableBelow
    have hfirst : ∀ child ∈ creation.node.namedChildren.head?, child.Readable source :=
      fun child hchild => hbelow.namedChildren child (List.mem_of_mem_head? hchild)
    exact (Node.readable_or (hbelow.labelled? "type") hfirst node htype).exists_text?
  obtain ⟨names, hnames⟩ := hinvoked
  obtain ⟨types, htypes⟩ := hcreated
  exact ⟨⟨names.eraseDups, types.eraseDups⟩, by
    rw [ofMethod?, invoked?, created?, hnames, htypes]; rfl⟩

theorem Site.Readable.exists_blocks? (h : site.Readable source) :
    ∃ blocks, site.blocks? source = some blocks := by
  obtain ⟨texts, htexts⟩ := h.comments
  exact ⟨Doc.blocks texts, by rw [blocks?, htexts]; rfl⟩

theorem Variable.exists_ofField? (h : site.Readable source) :
    ∃ entry, ofField? source site = some entry := by
  obtain ⟨blocks, hblocks⟩ := h.exists_blocks?
  have hlist := h.below.child? "variable_declaration"
  unfold ofField?
  split
  · exact ⟨none, rfl⟩
  · rename_i list hfound
    have hbelow := (hlist list hfound).readableBelow
    obtain ⟨type, htype⟩ := hbelow.exists_labelledText? "type"
    rw [htype, hblocks]
    split
    · exact ⟨_, rfl⟩
    · rename_i declarator hdeclarator
      obtain ⟨name, hname⟩ :=
        (hbelow.child? _ declarator hdeclarator).readableBelow.exists_name?
      exact ⟨_, by rw [hname]; rfl⟩

theorem Variable.exists_ofProperty? (h : site.Readable source) :
    ∃ entry, ofProperty? source site = some entry := by
  obtain ⟨name, hname⟩ := h.below.exists_name?
  obtain ⟨type, htype⟩ := h.below.exists_labelledText? "type"
  obtain ⟨blocks, hblocks⟩ := h.exists_blocks?
  exact ⟨_, by rw [ofProperty?, hname, htype, hblocks]; rfl⟩

theorem Method.exists_ofSite? (h : site.Readable source) :
    ∃ method, ofSite? source site = some method := by
  obtain ⟨blocks, hblocks⟩ := h.exists_blocks?
  obtain ⟨name, hname⟩ := h.below.exists_name?
  obtain ⟨type, htype⟩ : ∃ type, Node.textOf? source (typeNode? site.node) = some type :=
    Node.exists_textOf? (Node.readable_or (h.below.labelled? "returns") (h.below.labelled? "type"))
  obtain ⟨parameters, hparameters⟩ := Parameter.exists_ofMethod? h.below
  obtain ⟨calls, hcalls⟩ := CallGraph.exists_ofMethod? h.below
  exact ⟨_, by rw [ofSite?, hblocks, hname, htype, hparameters, hcalls]; rfl⟩

theorem Site.exists_mapM_descendants {β : Type} {f : Site → Option β}
    (hf : ∀ found : Site, found.Readable source → ∃ b, f found = some b)
    (h : site.node.ReadableBelow source) (kinds : List Text) :
    ∃ bs, (site.descendants kinds).mapM f = some bs := by
  apply exists_mapM
  intro found hfound
  obtain ⟨hnode, hbefore⟩ := descendants_readable h kinds found hfound
  exact hf found ⟨hnode.readableBelow, exists_comments? hbefore⟩

theorem Variable.exists_fields? (h : site.node.ReadableBelow source) :
    ∃ fields, fields? source site = some fields := by
  obtain ⟨entries, hentries⟩ :=
    Site.exists_mapM_descendants (fun _ => exists_ofField?) h ["field_declaration"]
  exact ⟨_, by rw [fields?, hentries]; rfl⟩

theorem Variable.exists_properties? (h : site.node.ReadableBelow source) :
    ∃ properties, properties? source site = some properties :=
  Site.exists_mapM_descendants (fun _ => exists_ofProperty?) h _

theorem Method.exists_all? (h : site.node.ReadableBelow source) :
    ∃ methods, all? source site = some methods :=
  Site.exists_mapM_descendants (fun _ => exists_ofSite?) h _

end Members

/-! ## Declarations -/

namespace Declaration

theorem exists_basesFrom? {nodes : List Node} (h : ∀ node ∈ nodes, node.Readable source)
    (bases : List Text) : ∃ all, basesFrom? source bases nodes = some all := by
  induction nodes generalizing bases with
  | nil => exact ⟨bases, rfl⟩
  | cons node nodes ih =>
      obtain ⟨hnode, hnodes⟩ := List.forall_mem_cons.1 h
      obtain ⟨text, htext⟩ := hnode.exists_text?
      rw [basesFrom?, htext, Option.bind_eq_bind, Option.bind_some]
      split
      · exact ih hnodes (appendLast text bases)
      · exact ih hnodes (bases ++ [text])

theorem exists_bases? {node : Node} (h : node.ReadableBelow source) :
    ∃ bases, bases? source node = some bases := by
  unfold bases?
  split
  · exact ⟨[], rfl⟩
  · rename_i list hlist
    have hbelow := (h.child? _ list hlist).readableBelow
    apply exists_basesFrom?
    intro base hbase
    exact hbelow.namedChildren base (List.filter_sublist.subset hbase)

theorem exists_ofSite? {site : Site} (h : site.Readable source) :
    ∃ declaration, ofSite? source site = some declaration := by
  obtain ⟨name, hname⟩ := h.below.exists_name?
  obtain ⟨bases, hbases⟩ := exists_bases? h.below
  obtain ⟨blocks, hblocks⟩ := h.exists_blocks?
  obtain ⟨fields, hfields⟩ := Variable.exists_fields? h.below
  obtain ⟨properties, hproperties⟩ := Variable.exists_properties? h.below
  obtain ⟨methods, hmethods⟩ := Method.exists_all? h.below
  exact ⟨_, by rw [ofSite?, hname, hbases, hblocks, hfields, hproperties, hmethods]; rfl⟩

end Declaration

end ClassWiki
