import ClassWiki.Proofs.Declaration.Readable
import Mathlib.Data.List.Forall2

/-!
# Items of a parameter list

The items of a parameter list are the parameters with a node of their own and the loose ones,
whose type and name hang in the list itself.  All that stands in front of the items, between
them, behind them or between a loose type and its name is passed over.  Reading the list gives
one parameter for each item, in their order and with nothing of another item: a type waits only
until its own name has come.
-/

namespace ClassWiki.Parameter

/-! ## Lists of items -/

/-- A child of a list that is no parameter and has no label of a loose one. -/
structure IsFiller (node : Node) : Prop where
  kind_ne : node.kind ≠ "parameter"
  no_type : node.hasLabel "type" = false
  no_name : node.hasLabel "name" = false

abbrev Filler := { node : Node // IsFiller node }

/-- A parameter without a node of its own. -/
structure Loose where
  type : Node
  gap : List Filler
  name : Node
  type_kind : type.kind ≠ "parameter"
  type_label : type.hasLabel "type" = true
  name_kind : name.kind ≠ "parameter"
  name_label : name.hasLabel "name" = true

inductive Item where
  | own (node : { node : Node // node.kind = "parameter" })
  | loose (pair : Loose)

def fillerNodes (gap : List Filler) : List Node := gap.map Subtype.val

def Item.nodes : Item → List Node
  | .own node => [node.1]
  | .loose pair => pair.type :: (fillerNodes pair.gap ++ [pair.name])

/-- The children of a list: items, each with what stands behind it. -/
structure Layout where
  lead : List Filler
  items : List (Item × List Filler)

def itemNodes (items : List (Item × List Filler)) : List Node :=
  items.flatMap fun item => item.1.nodes ++ fillerNodes item.2

def Layout.nodes (layout : Layout) : List Node :=
  fillerNodes layout.lead ++ itemNodes layout.items

/-- What an item says of its parameter.  A loose one has no default. -/
def Item.Shows (source : Bytes) : Item → Parameter → Prop
  | .own node, parameter =>
      node.1.name? source = some parameter.name ∧
        node.1.labelledText? source "type" = some parameter.type ∧
        (defaultNode? node.1).mapM (Node.text? source) = some parameter.default?
  | .loose pair, parameter =>
      pair.name.text? source = some parameter.name ∧
        pair.type.text? source = some parameter.type ∧ parameter.default? = none

/-! ## Reading one node -/

section

variable (source : Bytes) (waiting : Text)

theorem items?_fillers (gap : List Filler) (nodes : List Node) :
    items? source waiting (fillerNodes gap ++ nodes) = items? source waiting nodes := by
  induction gap with
  | nil => rfl
  | cons filler gap ih =>
      obtain ⟨node, hkind, htype, hname⟩ := filler
      rw [fillerNodes, List.map_cons, List.cons_append, items?, if_neg hkind, htype, hname]
      exact ih

theorem items?_own {node : Node} (hkind : node.kind = "parameter") (nodes : List Node) :
    items? source waiting (node :: nodes) = (ofNode? source node).bind fun parameter =>
      (items? source waiting nodes).bind fun others => some (parameter :: others) := by
  rw [items?, if_pos hkind]
  rfl

theorem items?_type {node : Node} (hkind : node.kind ≠ "parameter")
    (hlabel : node.hasLabel "type" = true) (nodes : List Node) :
    items? source waiting (node :: nodes) =
      (node.text? source).bind fun type => items? source type nodes := by
  rw [items?, if_neg hkind, if_pos hlabel]
  rfl

theorem items?_name {node : Node} (hkind : node.kind ≠ "parameter")
    (hlabel : node.hasLabel "name" = true) (nodes : List Node) :
    items? source waiting (node :: nodes) = (node.text? source).bind fun name =>
      (items? source [] nodes).bind fun others => some (⟨name, waiting, none⟩ :: others) := by
  have htype : ¬node.hasLabel "type" = true := by
    rw [Node.hasLabel, beq_iff_eq] at hlabel
    rw [Node.hasLabel, hlabel]
    decide
  rw [items?, if_neg hkind, if_neg htype, if_pos hlabel]
  rfl

theorem ofNode?_eq_some_iff {node : Node} {parameter : Parameter} :
    ofNode? source node = some parameter ↔
      node.name? source = some parameter.name ∧
        node.labelledText? source "type" = some parameter.type ∧
        (defaultNode? node).mapM (Node.text? source) = some parameter.default? := by
  obtain ⟨name, type, default?⟩ := parameter
  simp only [ofNode?, Option.bind_eq_bind, Option.bind_eq_some_iff, Option.pure_def,
    Option.some.injEq, Parameter.mk.injEq]
  constructor
  · rintro ⟨_, hname, _, htype, _, hdefault, rfl, rfl, rfl⟩
    exact ⟨hname, htype, hdefault⟩
  · rintro ⟨hname, htype, hdefault⟩
    exact ⟨name, hname, type, htype, default?, hdefault, rfl, rfl, rfl⟩

/-! ## Reading items -/

/-- The first parameter is that of the first item, whatever type was waiting in front of it.
Behind a parameter of its own that type goes on waiting, and behind a loose one none does. -/
theorem items?_item (item : Item) :
    ∃ behind, ∀ nodes parameters,
      items? source waiting (item.nodes ++ nodes) = some parameters ↔
        ∃ parameter others, item.Shows source parameter ∧
          items? source behind nodes = some others ∧ parameters = parameter :: others := by
  cases item with
  | own node =>
      refine ⟨waiting, fun nodes parameters => ?_⟩
      rw [Item.nodes, List.singleton_append, items?_own source waiting node.2]
      simp only [Option.bind_eq_some_iff, Option.some.injEq, ofNode?_eq_some_iff, Item.Shows]
      constructor
      · rintro ⟨parameter, hshows, others, hothers, rfl⟩
        exact ⟨parameter, others, hshows, hothers, rfl⟩
      · rintro ⟨parameter, others, hshows, hothers, rfl⟩
        exact ⟨parameter, hshows, others, hothers, rfl⟩
  | loose pair =>
      refine ⟨[], fun nodes parameters => ?_⟩
      rw [Item.nodes, List.cons_append, List.append_assoc,
        items?_type source waiting pair.type_kind pair.type_label]
      simp only [items?_fillers, List.singleton_append,
        items?_name source _ pair.name_kind pair.name_label, Option.bind_eq_some_iff,
        Option.some.injEq, Item.Shows]
      constructor
      · rintro ⟨type, htype, name, hname, others, hothers, rfl⟩
        exact ⟨⟨name, type, none⟩, others, ⟨hname, htype, rfl⟩, hothers, rfl⟩
      · rintro ⟨⟨name, type, _⟩, others, ⟨hname, htype, rfl⟩, hothers, rfl⟩
        exact ⟨type, htype, name, hname, others, hothers, rfl⟩

theorem itemNodes_cons (item : Item × List Filler) (items : List (Item × List Filler)) :
    itemNodes (item :: items) = item.1.nodes ++ (fillerNodes item.2 ++ itemNodes items) := by
  rw [itemNodes, List.flatMap_cons, List.append_assoc]
  rfl

theorem items?_itemNodes (items : List (Item × List Filler)) (parameters : List Parameter) :
    items? source waiting (itemNodes items) = some parameters ↔
      List.Forall₂ (fun item parameter => item.1.Shows source parameter) items parameters := by
  -- What waits in front of the remaining items is different after each step.
  induction items generalizing waiting parameters with
  | nil =>
      rw [List.forall₂_nil_left_iff]
      simp [itemNodes, items?, eq_comm]
  | cons item items ih =>
      obtain ⟨behind, hitem⟩ := items?_item source waiting item.1
      rw [itemNodes_cons, hitem, List.forall₂_cons_left_iff]
      simp only [items?_fillers, ih]

end

/-- A parameter list of items gives the parameters that the items show, one for each and in
their order.  It gives them as soon as the texts can be read. -/
theorem ofMethod?_layout {source : Bytes} {method list : Node} {layout : Layout}
    (hlist : listNode? method = some list) (hchildren : list.children = layout.nodes) :
    (∀ parameters, ofMethod? source method = some parameters ↔
      List.Forall₂ (fun item parameter => item.1.Shows source parameter) layout.items
        parameters) ∧
      (list.ReadableBelow source → ∃ parameters, ofMethod? source method = some parameters) := by
  have hread : ofMethod? source method = items? source [] list.children := by
    rw [ofMethod?, hlist]
  rw [hread]
  refine ⟨fun parameters => ?_, fun hreadable => exists_items? hreadable []⟩
  rw [hchildren, Layout.nodes, items?_fillers, items?_itemNodes]

namespace Sample

def source : Bytes := Utf8.encode "(int x=1,params/*c*/T[]/*d*/y,int z)"

def filler (kind : Text) (named : Bool) (start stop : Nat) (h : kind ≠ "parameter") : Filler :=
  ⟨⟨kind, named, none, start, stop, []⟩, h, rfl, rfl⟩

def first : Node :=
  ⟨"parameter", true, none, 1, 8,
    [⟨"predefined_type", true, some "type", 1, 4, []⟩,
      ⟨"identifier", true, some "name", 5, 6, []⟩, ⟨"=", false, none, 6, 7, []⟩,
      ⟨"integer_literal", true, none, 7, 8, []⟩]⟩

def second : Loose where
  type := ⟨"array_type", true, some "type", 20, 23, []⟩
  gap := [filler "comment" true 23 28 (by decide)]
  name := ⟨"identifier", true, some "name", 28, 29, []⟩
  type_kind := by decide
  type_label := rfl
  name_kind := by decide
  name_label := rfl

def third : Node :=
  ⟨"parameter", true, none, 30, 35,
    [⟨"predefined_type", true, some "type", 30, 33, []⟩,
      ⟨"identifier", true, some "name", 34, 35, []⟩]⟩

def layout : Layout where
  lead := [filler "(" false 0 1 (by decide)]
  items :=
    [(.own ⟨first, rfl⟩, [filler "," false 8 9 (by decide), filler "params" false 9 15 (by decide),
        filler "comment" true 15 20 (by decide)]),
      (.loose second, [filler "," false 29 30 (by decide)]),
      (.own ⟨third, rfl⟩, [filler ")" false 35 36 (by decide)])]

def list : Node := ⟨"parameter_list", true, some "parameters", 0, 36, layout.nodes⟩

def method : Node := ⟨"method_declaration", true, none, 0, 36, [list]⟩

end Sample

theorem ofMethod?_layout_sample :
    listNode? Sample.method = some Sample.list ∧ Sample.list.children = Sample.layout.nodes ∧
      ofMethod? Sample.source Sample.method =
        some [⟨"x", "int", some "1"⟩, ⟨"y", "T[]", none⟩, ⟨"z", "int", none⟩] := by
  have hlist : listNode? Sample.method = some Sample.list := rfl
  refine ⟨hlist, rfl, ((ofMethod?_layout hlist rfl).1 _).2 ?_⟩
  have hfirst : ofNode? Sample.source Sample.first = some ⟨"x", "int", some "1"⟩ := by
    decide +kernel
  have hthird : ofNode? Sample.source Sample.third = some ⟨"z", "int", none⟩ := by
    decide +kernel
  exact .cons ((ofNode?_eq_some_iff _).1 hfirst)
    (.cons ⟨by decide +kernel, by decide +kernel, rfl⟩
      (.cons ((ofNode?_eq_some_iff _).1 hthird) .nil))

end ClassWiki.Parameter
