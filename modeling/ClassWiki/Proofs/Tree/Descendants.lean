import ClassWiki.Proofs.Tree.Position
import ClassWiki.Proofs.Tree.Preorder

/-!
# Descendants in order

Looking for descendants is a loop over a stack that grows and shrinks.  Every turn takes one
site off the stack, so the loop ends after as many turns as there are proper descendants, and
what it has kept by then is the order of the tree, filtered.  Equal nodes may stand at several
places of a tree, so that a node is met once is said of positions.  Where the ranges of the
children lie within that of their parent, one behind the other, the order of the tree is that
of the source.
-/

namespace ClassWiki

/-! ## Turns of a walk -/

/-- A walk under way: the sites still to be visited, the next one last, and the sites kept so
far. -/
structure Walk where
  stack : List Site
  kept : List Site

namespace Walk

/-- Take the last site off the stack, keep it or not, and put its children in its place, the
first of them last.  With an empty stack the walk is over. -/
def turn? (keep : Node → Bool) (walk : Walk) : Option Walk :=
  walk.stack.getLast?.map fun site =>
    ⟨walk.stack.dropLast ++ site.children.reverse, walk.kept ++ Site.own keep site⟩

/-- The first walk comes to the last one in so many turns. -/
inductive Turns (keep : Node → Bool) : Walk → Nat → Walk → Prop where
  | refl (walk : Walk) : Turns keep walk 0 walk
  | next {first second last : Walk} {count : Nat} (hturn : first.turn? keep = some second)
      (hturns : Turns keep second count last) : Turns keep first (count + 1) last

section

variable (keep : Node → Bool)

theorem turn?_reverse (site : Site) (stack kept : List Site) :
    turn? keep ⟨(site :: stack).reverse, kept⟩ =
      some ⟨(site.children ++ stack).reverse, kept ++ Site.own keep site⟩ := by
  simp [turn?]

theorem turns_stack (stack kept : List Site) :
    Turns keep ⟨stack.reverse, kept⟩ (Site.stackSize stack)
      ⟨[], kept ++ Site.walk keep stack⟩ := by
  -- The induction is that of the walk: on the stack as it is after the next turn.
  induction stack using Site.walk.induct keep generalizing kept with
  | case1 =>
      rw [Site.walk, List.append_nil]
      exact .refl _
  | case2 site stack _ ih | case3 site stack _ ih =>
      have hwalk : kept ++ Site.walk keep (site :: stack) =
          kept ++ Site.own keep site ++ Site.walk keep (site.children ++ stack) := by
        rw [Site.walk_cons, Site.walk_append]
        simp only [List.append_assoc]
      rw [Site.stackSize_cons, hwalk]
      exact .next (turn?_reverse keep site stack kept) (ih _)

theorem turns_children (site : Site) :
    Turns keep ⟨site.children.reverse, []⟩ (Node.forestSize site.node.children)
      ⟨[], Site.walk keep site.children⟩ := by
  rw [← Site.stackSize_children]
  exact turns_stack keep site.children []

end

end Walk

/-! ## Places -/

namespace Node

mutual

/-- The sites below a node in order, each with its position. -/
def places : Node → List (List Nat × Site)
  | ⟨_, _, _, _, _, children⟩ => forestPlaces [] children

def forestPlaces (before : List Node) : List Node → List (List Nat × Site)
  | [] => []
  | node :: nodes =>
      ([before.length], ⟨node, before⟩) ::
        (node.places.map (fun place => (before.length :: place.1, place.2)) ++
          forestPlaces (node :: before) nodes)

end

theorem places_eq (node : Node) : node.places = forestPlaces [] node.children := by
  cases node
  rfl

/-- A place among siblings is that of one of them or lies below it. -/
theorem mem_forestPlaces_iff {before nodes : List Node} {position : List Nat} {inner : Site} :
    (position, inner) ∈ forestPlaces before nodes ↔
      ∃ i rest child, position = (before.length + i) :: rest ∧
        (Site.siblings before nodes)[i]? = some child ∧ child.at? rest = some inner := by
  induction nodes using forest_induction generalizing before position with
  | nil => simp [forestPlaces, Site.siblings]
  | cons node nodes ihbelow ihrest =>
      rw [forestPlaces, places_eq, List.mem_cons, List.mem_append, List.mem_map, ihrest]
      constructor
      · rintro (heq | ⟨⟨below, site⟩, hbelow, heq⟩ | ⟨i, rest, child, rfl, hchild, hinner⟩)
        · cases heq
          exact ⟨0, [], ⟨node, before⟩, rfl, rfl, rfl⟩
        · cases heq
          obtain ⟨i, rest, child, rfl, hchild, hinner⟩ := ihbelow.1 hbelow
          rw [List.length_nil, Nat.zero_add]
          exact ⟨0, i :: rest, ⟨node, before⟩, rfl, rfl,
            Site.at?_cons_eq_some_iff.2 ⟨child, hchild, hinner⟩⟩
        · refine ⟨i + 1, rest, child, ?_, hchild, hinner⟩
          rw [List.length_cons, Nat.add_assoc, Nat.add_comm 1]
      · rintro ⟨_ | i, rest, child, rfl, hchild, hinner⟩
        · cases hchild
          cases rest with
          | nil =>
              cases hinner
              exact .inl rfl
          | cons i rest =>
              obtain ⟨child, hchild, hinner⟩ := Site.at?_cons_eq_some_iff.1 hinner
              have hbelow : (i :: rest, inner) ∈ forestPlaces [] node.children :=
                ihbelow.2 ⟨i, rest, child, by rw [List.length_nil, Nat.zero_add], hchild, hinner⟩
              exact .inr (.inl ⟨(i :: rest, inner), hbelow, rfl⟩)
        · refine .inr (.inr ⟨i, rest, child, ?_, hchild, hinner⟩)
          rw [List.length_cons, Nat.add_assoc, Nat.add_comm 1]

theorem pairwise_lt_forestPlaces (before nodes : List Node) :
    (forestPlaces before nodes).Pairwise fun first second => first.1 < second.1 := by
  induction nodes using forest_induction generalizing before with
  | nil => exact .nil
  | cons node nodes ihbelow ihrest =>
      -- All positions of the node start with its number, those behind it with a larger one.
      have hbelow : ∀ place ∈ forestPlaces [] node.children, [] < place.1 := by
        intro place hplace
        obtain ⟨i, rest, child, heq, -, -⟩ := mem_forestPlaces_iff.1 hplace
        rw [heq]
        exact List.nil_lt_cons _ _
      have hbehind : ∀ place ∈ forestPlaces (node :: before) nodes, ∀ rest,
          before.length :: rest < place.1 := by
        intro place hplace rest
        obtain ⟨i, rest', child, heq, -, -⟩ := mem_forestPlaces_iff.1 hplace
        rw [heq, List.cons_lt_cons_iff, List.length_cons]
        exact .inl (by omega)
      rw [forestPlaces, places_eq, List.pairwise_cons, List.pairwise_append, List.pairwise_map]
      refine ⟨?_, ?_, ihrest _, ?_⟩
      · intro place hplace
        rcases List.mem_append.1 hplace with hplace | hplace
        · obtain ⟨inner, hinner, rfl⟩ := List.mem_map.1 hplace
          exact List.cons_lt_cons_self.2 (hbelow inner hinner)
        · exact hbehind place hplace []
      · exact (ihbelow []).imp List.cons_lt_cons_self.2
      · intro place hplace place' hplace'
        obtain ⟨inner, -, rfl⟩ := List.mem_map.1 hplace
        exact hbehind place' hplace' inner.1

end Node

namespace Site

theorem mem_places_iff {site inner : Site} {position : List Nat} :
    (position, inner) ∈ site.node.places ↔ position ≠ [] ∧ site.at? position = some inner := by
  rw [Node.places_eq, Node.mem_forestPlaces_iff]
  constructor
  · rintro ⟨i, rest, child, rfl, hchild, hinner⟩
    rw [List.length_nil, Nat.zero_add]
    exact ⟨List.cons_ne_nil _ _, at?_cons_eq_some_iff.2 ⟨child, hchild, hinner⟩⟩
  · rintro ⟨hne, hat⟩
    obtain ⟨i, rest, rfl⟩ := List.exists_cons_of_ne_nil hne
    obtain ⟨child, hchild, hinner⟩ := at?_cons_eq_some_iff.1 hat
    exact ⟨i, rest, child, by rw [List.length_nil, Nat.zero_add], hchild, hinner⟩

/-- A walk among siblings meets their places in order. -/
theorem walk_siblings (keep : Node → Bool) (before nodes : List Node) :
    walk keep (siblings before nodes) =
      ((Node.forestPlaces before nodes).filter (keep ·.2.node)).map Prod.snd := by
  induction nodes using Node.forest_induction generalizing before with
  | nil =>
      rw [siblings, walk]
      rfl
  | cons node nodes ihbelow ihrest =>
      rw [siblings, walk_cons, children, ihbelow, ihrest, Node.forestPlaces, Node.places_eq, own]
      cases hkeep : keep node <;> simp [hkeep, List.filter_map, Function.comp_def]

theorem walk_children (keep : Node → Bool) (site : Site) :
    walk keep site.children = (site.node.places.filter (keep ·.2.node)).map Prod.snd := by
  rw [children, walk_siblings, Node.places_eq]

/-- The sites that a walk meets, by their positions in lexicographic order. -/
theorem exists_positions (keep : Node → Bool) (site : Site) :
    ∃ positions : List (List Nat), positions.Pairwise (· < ·) ∧
      (∀ position, position ∈ positions ↔
        position ≠ [] ∧ ∃ inner, site.at? position = some inner ∧ keep inner.node = true) ∧
      positions.map site.at? = (walk keep site.children).map some := by
  have hplaces := Node.pairwise_lt_forestPlaces [] site.node.children
  rw [← Node.places_eq] at hplaces
  refine ⟨(site.node.places.filter (keep ·.2.node)).map Prod.fst, ?_, ?_, ?_⟩
  · exact List.pairwise_map.2 (hplaces.filter _)
  · intro position
    constructor
    · intro hposition
      obtain ⟨place, hplace, rfl⟩ := List.mem_map.1 hposition
      obtain ⟨hmem, hkeep⟩ := List.mem_filter.1 hplace
      obtain ⟨hne, hat⟩ := mem_places_iff.1 hmem
      exact ⟨hne, place.2, hat, hkeep⟩
    · rintro ⟨hne, inner, hat, hkeep⟩
      exact List.mem_map.2 ⟨(position, inner),
        List.mem_filter.2 ⟨mem_places_iff.2 ⟨hne, hat⟩, hkeep⟩, rfl⟩
  · rw [walk_children, List.map_map, List.map_map]
    refine List.map_congr_left fun place hplace => ?_
    exact (mem_places_iff.1 (List.mem_filter.1 hplace).1).2

end Site

/-! ## Ranges -/

namespace Node

/-- The ranges of the children lie within that of the node, one behind the other. -/
def Orderly (node : Node) : Prop :=
  (∀ child ∈ node.children,
    node.start ≤ child.start ∧ child.start ≤ child.stop ∧ child.stop ≤ node.stop) ∧
    node.children.Pairwise fun first second => first.stop ≤ second.start

instance (node : Node) : Decidable node.Orderly := inferInstanceAs (Decidable (_ ∧ _))

/-- The trees of a row are orderly, and so is all that lies below them. -/
structure OrderlyRow (nodes : List Node) : Prop where
  ranges : ∀ node ∈ nodes, node.start ≤ node.stop
  apart : nodes.Pairwise fun first second => first.stop ≤ second.start
  below : ∀ inner ∈ forestPreorder nodes, inner.Orderly

theorem orderlyRow_children {node : Node} (h : ∀ inner ∈ node.preorder, inner.Orderly) :
    OrderlyRow node.children := by
  rw [preorder_eq, List.forall_mem_cons] at h
  exact ⟨fun child hchild => (h.1.1 child hchild).2.1, h.1.2, h.2⟩

namespace OrderlyRow

variable {node : Node} {nodes : List Node}

theorem head (h : OrderlyRow (node :: nodes)) : ∀ inner ∈ node.preorder, inner.Orderly :=
  fun inner hinner => h.below inner (List.mem_append_left _ hinner)

theorem tail (h : OrderlyRow (node :: nodes)) : OrderlyRow nodes where
  ranges later hlater := h.ranges later (List.mem_cons_of_mem _ hlater)
  apart := (List.pairwise_cons.1 h.apart).2
  below inner hinner := h.below inner (List.mem_append_right _ hinner)

theorem children (h : OrderlyRow (node :: nodes)) : OrderlyRow node.children :=
  orderlyRow_children h.head

theorem orderly (h : OrderlyRow (node :: nodes)) : node.Orderly :=
  h.head node (by rw [preorder_eq]; exact List.mem_cons_self)

/-- What lies in a row of trees starts within one of them. -/
theorem exists_around (h : OrderlyRow nodes) {inner : Node}
    (hinner : inner ∈ forestPreorder nodes) :
    ∃ node ∈ nodes, node.start ≤ inner.start ∧ inner.start ≤ node.stop := by
  induction nodes using forest_induction with
  | nil => cases hinner
  | cons node nodes ihbelow ihrest =>
      rw [forestPreorder_cons, List.mem_cons, List.mem_append] at hinner
      rcases hinner with rfl | hinner | hinner
      · have hrange := h.ranges inner List.mem_cons_self
        exact ⟨inner, List.mem_cons_self, Nat.le_refl _, hrange⟩
      · obtain ⟨child, hchild, hstart, hstop⟩ := ihbelow h.children hinner
        have hwithin := h.orderly.1 child hchild
        exact ⟨node, List.mem_cons_self, by omega, by omega⟩
      · obtain ⟨later, hlater, haround⟩ := ihrest h.tail hinner
        exact ⟨later, List.mem_cons_of_mem _ hlater, haround⟩

theorem pairwise_start_le (h : OrderlyRow nodes) :
    (forestPreorder nodes).Pairwise fun first second => first.start ≤ second.start := by
  induction nodes using forest_induction with
  | nil => exact .nil
  | cons node nodes ihbelow ihrest =>
      have hrange := h.ranges node List.mem_cons_self
      have hbelow : ∀ inner ∈ forestPreorder node.children,
          node.start ≤ inner.start ∧ inner.start ≤ node.stop := by
        intro inner hinner
        obtain ⟨child, hchild, haround⟩ := h.children.exists_around hinner
        have hwithin := h.orderly.1 child hchild
        omega
      have hbehind : ∀ inner ∈ forestPreorder nodes, node.stop ≤ inner.start := by
        intro inner hinner
        obtain ⟨later, hlater, haround⟩ := h.tail.exists_around hinner
        have hapart := (List.pairwise_cons.1 h.apart).1 later hlater
        omega
      rw [forestPreorder_cons, List.pairwise_cons, List.pairwise_append]
      refine ⟨?_, ihbelow h.children, ihrest h.tail, ?_⟩
      · intro inner hinner
        rcases List.mem_append.1 hinner with hinner | hinner
        · exact (hbelow inner hinner).1
        · exact Nat.le_trans hrange (hbehind inner hinner)
      · intro inner hinner later hlater
        exact Nat.le_trans (hbelow inner hinner).2 (hbehind later hlater)

end OrderlyRow

end Node

/-! ## Descendants of some kinds -/

namespace Site

/-- What a walk keeps, another one that keeps more meets too, in the same order. -/
theorem walk_children_eq_filter {keep keep' : Node → Bool}
    (h : ∀ node, keep node = true → keep' node = true) (site : Site) :
    walk keep site.children = (walk keep' site.children).filter (keep ·.node) := by
  have hboth : ∀ place : List Nat × Site,
      (keep place.2.node && keep' place.2.node) = keep place.2.node := by
    intro place
    cases hkeep : keep place.2.node with
    | false => rfl
    | true => exact h _ hkeep
  rw [walk_children, walk_children, List.filter_map, List.filter_filter]
  simp only [Function.comp_apply, hboth]

theorem descendants_sublist {kinds kinds' : List Text} (h : kinds ⊆ kinds') (site : Site) :
    (site.descendants kinds).Sublist (site.descendants kinds') := by
  have hkeep : ∀ node : Node, kinds.contains node.kind = true →
      kinds'.contains node.kind = true := by
    intro node hkind
    exact List.contains_iff_mem.2 (h (List.contains_iff_mem.1 hkind))
  rw [descendants, walk_children_eq_filter hkeep]
  exact List.filter_sublist

theorem descendants_congr {kinds kinds' : List Text} (h : ∀ kind, kind ∈ kinds' ↔ kind ∈ kinds)
    (site : Site) : site.descendants kinds' = site.descendants kinds := by
  have hless := descendants_sublist (fun kind => (h kind).1) site
  have hmore := descendants_sublist (fun kind => (h kind).2) site
  exact hless.eq_of_length_le hmore.length_le

theorem pairwise_start_le_descendants (kinds : List Text) {site : Site}
    (h : ∀ inner ∈ site.node.preorder, inner.Orderly) :
    ((site.descendants kinds).map (·.node.start)).Pairwise (· ≤ ·) := by
  have hstarts := (Node.orderlyRow_children h).pairwise_start_le
  have hnodes : ((site.descendants kinds).map Site.node).Pairwise
      fun first second => first.start ≤ second.start := by
    rw [map_node_descendants]
    exact hstarts.filter _
  rw [List.pairwise_map] at hnodes ⊢
  exact hnodes

/-- The loop over the stack ends, after one turn for every proper descendant, with the
descendants of the kinds: those that the recursive order of the tree has, each at a position of
its own and these in lexicographic order.  So only the set of the kinds matters, more kinds
only add sites in between, and in an orderly tree the sites are met as they start. -/
theorem descendants_in_order (kinds : List Text) (site : Site) :
    Walk.Turns (fun node => kinds.contains node.kind) ⟨site.children.reverse, []⟩
        (Node.forestSize site.node.children) ⟨[], site.descendants kinds⟩ ∧
      (site.descendants kinds).map Site.node =
        (Node.forestPreorder site.node.children).filter (kinds.contains ·.kind) ∧
      (∃ positions : List (List Nat), positions.Pairwise (· < ·) ∧
        (∀ position, position ∈ positions ↔ position ≠ [] ∧
          ∃ inner, site.at? position = some inner ∧ inner.node.kind ∈ kinds) ∧
        positions.map site.at? = (site.descendants kinds).map some) ∧
      (∀ kinds', (∀ kind, kind ∈ kinds' ↔ kind ∈ kinds) →
        site.descendants kinds' = site.descendants kinds) ∧
      (∀ kinds', kinds ⊆ kinds' →
        (site.descendants kinds).Sublist (site.descendants kinds')) ∧
      ((∀ inner ∈ site.node.preorder, inner.Orderly) →
        ((site.descendants kinds).map (·.node.start)).Pairwise (· ≤ ·)) := by
  refine ⟨Walk.turns_children _ site, map_node_descendants kinds site, ?_,
    fun kinds' h => descendants_congr h site, fun kinds' h => descendants_sublist h site,
    pairwise_start_le_descendants kinds⟩
  obtain ⟨positions, hordered, hmem, hsites⟩ :=
    exists_positions (fun node => kinds.contains node.kind) site
  refine ⟨positions, hordered, fun position => ?_, hsites⟩
  simp only [hmem, List.contains_iff_mem]

namespace Sample

def classNode (start stop : Nat) (members : List Node) : Node :=
  ⟨"class_declaration", true, none, start, stop,
    [⟨"identifier", true, some "name", start + 6, start + 7, []⟩,
      ⟨"declaration_list", true, some "body", start + 7, stop, members⟩]⟩

/-- A class in a class, with two equal nodes that cover nothing behind it, and another class. -/
def classes : Site :=
  let missing : Node := ⟨";", false, none, 17, 17, []⟩
  .root ⟨"compilation_unit", true, none, 0, 27,
    [classNode 0 18 [classNode 8 17 [], missing, missing], classNode 18 27 []]⟩

end Sample

theorem descendants_in_order_sample :
    (∀ inner ∈ Sample.classes.node.preorder, inner.Orderly) ∧
      (Sample.classes.descendants ["class_declaration"]).map (·.node.start) = [0, 8, 18] ∧
      ((Sample.classes.descendants ["class_declaration"]).map (·.node.start)).Pairwise
        (· ≤ ·) ∧
      Sample.classes.descendants ["class_declaration", "class_declaration"] =
        Sample.classes.descendants ["class_declaration"] ∧
      (Sample.classes.descendants ["class_declaration"]).Sublist
        (Sample.classes.descendants [";", "class_declaration"]) := by
  have horderly : ∀ inner ∈ Sample.classes.node.preorder, inner.Orderly := by decide +kernel
  obtain ⟨-, -, -, hset, hmore, hstarts⟩ :=
    descendants_in_order ["class_declaration"] Sample.classes
  refine ⟨horderly, by decide +kernel, hstarts horderly, hset _ ?_, hmore _ ?_⟩
  · simp
  · simp

end Site

end ClassWiki
