import ClassWiki.Proofs.Traversal
import ClassWiki.Tree.Walk
import Mathlib.Data.List.Forall2

/-!
# Excerpts

The excerpt of a node is its subtree with the texts of the nodes in place of the ranges
that they cover.  Two nodes of different sources are alike if they have the same excerpt.
Every query about the children of two nodes has alike answers when the children are alike,
and walking below them meets alike nodes with the same comments in front of them: a walk
never leaves the subtree, and the siblings in front of an inner node belong to it.
-/

namespace ClassWiki

structure Excerpt where
  kind : Text
  named : Bool
  label? : Option Text
  text? : Option Text
  children : List Excerpt

namespace Node

mutual

def excerpt (source : Bytes) : Node → Excerpt
  | ⟨kind, named, label?, start, stop, children⟩ =>
      ⟨kind, named, label?, Utf8.decode? (slice source start stop), excerpts source children⟩

def excerpts (source : Bytes) : List Node → List Excerpt
  | [] => []
  | node :: nodes => node.excerpt source :: excerpts source nodes

end

theorem excerpts_eq_map (source : Bytes) (nodes : List Node) :
    excerpts source nodes = nodes.map (excerpt source) := by
  induction nodes with
  | nil => rfl
  | cons node nodes ih => rw [excerpts, ih, List.map_cons]

theorem excerpt_eq (source : Bytes) (node : Node) :
    node.excerpt source = ⟨node.kind, node.named, node.label?, node.text? source,
      node.children.map (excerpt source)⟩ := by
  cases node
  rw [excerpt, excerpts_eq_map]
  rfl

def Alike (source source' : Bytes) (node node' : Node) : Prop :=
  node.excerpt source = node'.excerpt source'

/-- The children are alike; nothing is said of the nodes themselves. -/
def AlikeBelow (source source' : Bytes) (node node' : Node) : Prop :=
  node.children.map (excerpt source) = node'.children.map (excerpt source')

section

variable {source source' : Bytes} {node node' : Node}

theorem alikeBelow_iff :
    AlikeBelow source source' node node' ↔
      List.Forall₂ (Alike source source') node.children node'.children := by
  rw [AlikeBelow, ← List.forall₂_eq_eq_eq, List.forall₂_map_left_iff,
    List.forall₂_map_right_iff]
  rfl

theorem alike_iff :
    Alike source source' node node' ↔
      node.kind = node'.kind ∧ node.named = node'.named ∧ node.label? = node'.label? ∧
        node.text? source = node'.text? source' ∧ AlikeBelow source source' node node' := by
  rw [Alike, excerpt_eq, excerpt_eq, Excerpt.mk.injEq]
  rfl

namespace Alike

theorem kind (h : Alike source source' node node') : node.kind = node'.kind :=
  (alike_iff.1 h).1

theorem named (h : Alike source source' node node') : node.named = node'.named :=
  (alike_iff.1 h).2.1

theorem label? (h : Alike source source' node node') : node.label? = node'.label? :=
  (alike_iff.1 h).2.2.1

theorem text? (h : Alike source source' node node') :
    node.text? source = node'.text? source' :=
  (alike_iff.1 h).2.2.2.1

theorem below (h : Alike source source' node node') : AlikeBelow source source' node node' :=
  (alike_iff.1 h).2.2.2.2

theorem isComment (h : Alike source source' node node') : node.isComment = node'.isComment := by
  rw [Node.isComment, Node.isComment, h.kind]

theorem hasLabel (h : Alike source source' node node') (label : Text) :
    node.hasLabel label = node'.hasLabel label := by
  rw [Node.hasLabel, Node.hasLabel, h.label?]

end Alike

end

end Node

/-! ## Related lists -/

section Lists

variable {α β : Type} {R : α → β → Prop} {as : List α} {bs : List β}

theorem rel_head? (h : List.Forall₂ R as bs) : Option.Rel R as.head? bs.head? := by
  cases h with
  | nil => exact .none
  | cons hab _ => exact .some hab

theorem rel_filter {p : α → Bool} {q : β → Bool} (hpq : ∀ a b, R a b → p a = q b)
    (h : List.Forall₂ R as bs) : List.Forall₂ R (as.filter p) (bs.filter q) := by
  refine List.rel_filter ?_ h
  intro a b hab
  show p a = true ↔ q b = true
  rw [hpq a b hab]

theorem rel_find? {p : α → Bool} {q : β → Bool} (hpq : ∀ a b, R a b → p a = q b)
    (h : List.Forall₂ R as bs) : Option.Rel R (as.find? p) (bs.find? q) := by
  rw [← List.head?_filter, ← List.head?_filter]
  exact rel_head? (rel_filter hpq h)

theorem rel_getLast? (h : List.Forall₂ R as bs) : Option.Rel R as.getLast? bs.getLast? := by
  rw [← List.head?_reverse, ← List.head?_reverse]
  exact rel_head? (List.rel_reverse h)

theorem rel_or {first second : Option α} {first' second' : Option β}
    (hfirst : Option.Rel R first first') (hsecond : Option.Rel R second second') :
    Option.Rel R (first.or second) (first'.or second') := by
  cases hfirst with
  | none => exact hsecond
  | some hab => exact .some hab

theorem rel_takeWhile {p : α → Bool} {q : β → Bool} (hpq : ∀ a b, R a b → p a = q b)
    (h : List.Forall₂ R as bs) : List.Forall₂ R (as.takeWhile p) (bs.takeWhile q) := by
  induction h with
  | nil => exact .nil
  | @cons a b as bs hab _ ih =>
      rw [List.takeWhile_cons, List.takeWhile_cons, hpq a b hab]
      split
      · exact .cons hab ih
      · exact .nil

end Lists

/-! ## Queries -/

namespace Node.AlikeBelow

variable {source source' : Bytes} {node node' : Node}

theorem child? (h : AlikeBelow source source' node node') (kind : Text) :
    Option.Rel (Alike source source') (node.child? kind) (node'.child? kind) :=
  rel_find? (fun _ _ hchild => by rw [hchild.kind]) (alikeBelow_iff.1 h)

theorem labelled? (h : AlikeBelow source source' node node') (label : Text) :
    Option.Rel (Alike source source') (node.labelled? label) (node'.labelled? label) :=
  rel_find? (fun _ _ hchild => hchild.hasLabel label) (alikeBelow_iff.1 h)

theorem namedChildren (h : AlikeBelow source source' node node') :
    List.Forall₂ (Alike source source') node.namedChildren node'.namedChildren :=
  rel_filter (fun _ _ hchild => hchild.named) (alikeBelow_iff.1 h)

theorem textOf?_congr {node? node'? : Option Node}
    (h : Option.Rel (Alike source source') node? node'?) :
    textOf? source node? = textOf? source' node'? := by
  cases h with
  | none => rfl
  | some hnode => exact hnode.text?

theorem name? (h : AlikeBelow source source' node node') :
    node.name? source = node'.name? source' :=
  textOf?_congr (rel_or (h.labelled? "name") (h.child? "identifier"))

theorem labelledText? (h : AlikeBelow source source' node node') (label : Text) :
    node.labelledText? source label = node'.labelledText? source' label :=
  textOf?_congr (h.labelled? label)

end Node.AlikeBelow

/-! ## Walks -/

namespace Site

/-- What lies below the nodes is alike, and so are the texts of the comments in front. -/
structure Alike (source source' : Bytes) (site site' : Site) : Prop where
  below : site.node.AlikeBelow source source' site'.node
  comments : site.comments? source = site'.comments? source'

/-- The sites are alike, their own nodes included. -/
def Matches (source source' : Bytes) (site site' : Site) : Prop :=
  site.node.Alike source source' site'.node ∧ site.Alike source source' site'

variable {source source' : Bytes}

theorem comments?_congr {node node' : Node} {before before' : List Node}
    (h : List.Forall₂ (Node.Alike source source') before before') :
    (Site.mk node before).comments? source = (Site.mk node' before').comments? source' :=
  mapM_congr (fun _ _ hcomment => hcomment.text?)
    (List.rel_reverse (rel_takeWhile (fun _ _ hnode => hnode.isComment) h))

theorem siblings_matches {before before' nodes nodes' : List Node}
    (hbefore : List.Forall₂ (Node.Alike source source') before before')
    (hnodes : List.Forall₂ (Node.Alike source source') nodes nodes') :
    List.Forall₂ (Matches source source') (siblings before nodes)
      (siblings before' nodes') := by
  induction hnodes generalizing before before' with
  | nil => exact .nil
  | cons hnode _ ih =>
      exact .cons ⟨hnode, hnode.below, comments?_congr hbefore⟩ (ih (.cons hnode hbefore))

theorem children_matches {site site' : Site}
    (h : site.node.AlikeBelow source source' site'.node) :
    List.Forall₂ (Matches source source') site.children site'.children :=
  siblings_matches .nil (Node.alikeBelow_iff.1 h)

theorem walk_matches {keep : Node → Bool} {stack stack' : List Site}
    (hkeep : ∀ node node', node.Alike source source' node' → keep node = keep node')
    (h : List.Forall₂ (Matches source source') stack stack') :
    List.Forall₂ (Matches source source') (walk keep stack) (walk keep stack') := by
  -- The second stack follows the first one step by step.
  fun_induction walk keep stack generalizing stack' with
  | case1 =>
      cases h
      rw [walk]
      exact .nil
  | case2 site stack hkept ih =>
      cases h with
      | cons hsite hstack =>
          have hnext := ih (List.rel_append (children_matches hsite.1.below) hstack)
          rw [walk, if_pos (hkeep _ _ hsite.1 ▸ hkept)]
          exact .cons hsite hnext
  | case3 site stack hkept ih =>
      cases h with
      | cons hsite hstack =>
          have hnext := ih (List.rel_append (children_matches hsite.1.below) hstack)
          rw [walk, if_neg (hkeep _ _ hsite.1 ▸ hkept)]
          exact hnext

theorem descendants_matches {site site' : Site}
    (h : site.node.AlikeBelow source source' site'.node) (kinds : List Text) :
    List.Forall₂ (Matches source source') (site.descendants kinds)
      (site'.descendants kinds) :=
  walk_matches (fun _ _ hnode => by rw [hnode.kind]) (children_matches h)

end Site

end ClassWiki
