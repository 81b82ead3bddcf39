import ClassWiki.Proofs.Declaration.ParameterList
import ClassWiki.Proofs.Tree.Excerpt

/-!
# Comments inside of a parameter

A comment may stand between any two nodes of a parameter.  The name and the type are looked up
by labels and kinds that no comment has, so that comments never change them.  The default value
is looked up by its place: it is the last named node of an equals clause, or the node behind
the equals sign.  A comment that stands in this place is taken for the value, and every other
comment is harmless.
-/

namespace ClassWiki

/-! ## Remarks -/

/-- A comment as a parser puts it between any two nodes. -/
structure Node.IsRemark (node : Node) : Prop where
  kind_eq : node.kind = "comment"
  named_eq : node.named = true
  label_eq : node.label? = none

/-- The second list has the nodes of the first one, up to `R`, and remarks anywhere among
them. -/
inductive Remarked (R : Node → Node → Prop) : List Node → List Node → Prop
  | nil : Remarked R [] []
  | keep {node node' : Node} {nodes nodes' : List Node} :
      R node node' → Remarked R nodes nodes' → Remarked R (node :: nodes) (node' :: nodes')
  | remark {comment : Node} {nodes nodes' : List Node} :
      comment.IsRemark → Remarked R nodes nodes' → Remarked R nodes (comment :: nodes')

/-- A lookup behind remarks finds a remark, or what it found without them. -/
def Found (R : Node → Node → Prop) (value? value'? : Option Node) : Prop :=
  (∃ comment : Node, comment.IsRemark ∧ value'? = some comment) ∨ Option.Rel R value? value'?

theorem Found.mono {R S : Node → Node → Prop} {value? value'? : Option Node}
    (hRS : ∀ node node', R node node' → S node node') (h : Found R value? value'?) :
    Found S value? value'? := by
  refine h.imp id fun hsame => ?_
  cases hsame with
  | none => exact .none
  | some hnode => exact .some (hRS _ _ hnode)

namespace Remarked

variable {R : Node → Node → Prop} {nodes nodes' more more' : List Node}

theorem find? {p : Node → Bool} (hkeep : ∀ node node', R node node' → p node = p node')
    (hremark : ∀ comment : Node, comment.IsRemark → p comment = false)
    (h : Remarked R nodes nodes') : Option.Rel R (nodes.find? p) (nodes'.find? p) := by
  induction h with
  | nil => exact .none
  | @keep node node' nodes nodes' hnode _ ih =>
      rw [List.find?_cons, List.find?_cons, hkeep node node' hnode]
      split
      · exact .some hnode
      · exact ih
  | remark hcomment _ ih => rwa [List.find?_cons, hremark _ hcomment]

theorem filter {p : Node → Bool} (hkeep : ∀ node node', R node node' → p node = p node')
    (hremark : ∀ comment : Node, comment.IsRemark → p comment = true)
    (h : Remarked R nodes nodes') : Remarked R (nodes.filter p) (nodes'.filter p) := by
  induction h with
  | nil => exact .nil
  | @keep node node' nodes nodes' hnode _ ih =>
      rw [List.filter_cons, List.filter_cons, hkeep node node' hnode]
      split
      · exact .keep hnode ih
      · exact ih
  | remark hcomment _ ih =>
      rw [List.filter_cons, if_pos (hremark _ hcomment)]
      exact .remark hcomment ih

theorem append (h : Remarked R nodes nodes') (hmore : Remarked R more more') :
    Remarked R (nodes ++ more) (nodes' ++ more') := by
  induction h with
  | nil => exact hmore
  | keep hnode _ ih => exact .keep hnode ih
  | remark hcomment _ ih => exact .remark hcomment ih

theorem reverse (h : Remarked R nodes nodes') : Remarked R nodes.reverse nodes'.reverse := by
  induction h with
  | nil => exact .nil
  | keep hnode _ ih =>
      rw [List.reverse_cons, List.reverse_cons]
      exact ih.append (.keep hnode .nil)
  | @remark comment nodes nodes' hcomment _ ih =>
      have hlast := ih.append (.remark hcomment .nil)
      rwa [List.append_nil, ← List.reverse_cons] at hlast

theorem head? (h : Remarked R nodes nodes') : Found R nodes.head? nodes'.head? := by
  cases h with
  | nil => exact .inr .none
  | keep hnode _ => exact .inr (.some hnode)
  | remark hcomment _ => exact .inl ⟨_, hcomment, rfl⟩

theorem getLast? (h : Remarked R nodes nodes') : Found R nodes.getLast? nodes'.getLast? := by
  rw [← List.head?_reverse, ← List.head?_reverse]
  exact h.reverse.head?

end Remarked

/-! ## Parameters with remarks -/

/-- The node itself, or with remarks among its children if it is an equals clause. -/
inductive Node.Spread : Node → Node → Prop
  | same (node : Node) : Spread node node
  | clause {node : Node} {children : List Node} :
      node.kind = "equals_value_clause" → Remarked Eq node.children children →
        Spread node { node with children := children }

/-- The node with remarks among its children, or among those of its equals clauses. -/
def Node.WithRemarks (node node' : Node) : Prop :=
  ∃ children, Remarked Spread node.children children ∧
    node' = { node with children := children }

theorem remarked_eq_refl (nodes : List Node) : Remarked Eq nodes nodes := by
  induction nodes with
  | nil => exact .nil
  | cons node nodes ih => exact .keep rfl ih

namespace Node.Spread

variable {node node' : Node}

theorem kind (h : Spread node node') : node.kind = node'.kind := by cases h <;> rfl

theorem hasLabel (h : Spread node node') (label : Text) :
    node.hasLabel label = node'.hasLabel label := by cases h <;> rfl

theorem text? (h : Spread node node') (source : Bytes) :
    node.text? source = node'.text? source := by cases h <;> rfl

theorem children (h : Spread node node') : Remarked Eq node.children node'.children := by
  cases h with
  | same => exact remarked_eq_refl _
  | clause _ hchildren => exact hchildren

theorem textOf? {node? node'? : Option Node} (h : Option.Rel Spread node? node'?)
    (source : Bytes) : textOf? source node? = textOf? source node'? := by
  cases h with
  | none => rfl
  | some hnode => exact hnode.text? source

end Node.Spread

namespace Node.WithRemarks

variable {node node' : Node}

theorem child? (h : node.WithRemarks node') {kind : Text} (hkind : kind ≠ "comment") :
    Option.Rel Spread (node.child? kind) (node'.child? kind) := by
  obtain ⟨children, hchildren, rfl⟩ := h
  refine hchildren.find? ?_ ?_
  · intro node node' hnode
    rw [hnode.kind]
  · intro comment hcomment
    simpa [hcomment.kind_eq] using hkind.symm

theorem labelled? (h : node.WithRemarks node') (label : Text) :
    Option.Rel Spread (node.labelled? label) (node'.labelled? label) := by
  obtain ⟨children, hchildren, rfl⟩ := h
  refine hchildren.find? (fun _ _ hnode => hnode.hasLabel label) ?_
  intro comment hcomment
  rw [hasLabel, hcomment.label_eq]
  rfl

theorem name? (h : node.WithRemarks node') (source : Bytes) :
    node.name? source = node'.name? source :=
  Spread.textOf? (rel_or (h.labelled? "name") (h.child? (by decide))) source

theorem labelledText? (h : node.WithRemarks node') (source : Bytes) (label : Text) :
    node.labelledText? source label = node'.labelledText? source label :=
  Spread.textOf? (h.labelled? label) source

end Node.WithRemarks

namespace Parameter

/-! ## The place of the default value -/

/-- The value stands where a default is looked for: no named node follows it in the equals
clause, or it follows the first equals sign if there is no such clause. -/
def IsValue (node value : Node) : Prop :=
  (∃ clause before after, node.child? "equals_value_clause" = some clause ∧
    clause.children = before ++ value :: after ∧ value.named = true ∧
    ∀ other ∈ after, other.named = false) ∨
  node.child? "equals_value_clause" = none ∧ ∃ before sign after,
    node.children = before ++ sign :: value :: after ∧ sign.kind = "=" ∧
    ∀ other ∈ before, other.kind ≠ "="

theorem afterEquals?_cons (node : Node) (nodes : List Node) :
    afterEquals? (node :: nodes) = if node.kind = "=" then nodes.head? else afterEquals? nodes := by
  cases nodes with
  | nil => simp [afterEquals?]
  | cons next nodes => rfl

theorem afterEquals?_eq_some_iff {nodes : List Node} {value : Node} :
    afterEquals? nodes = some value ↔ ∃ before sign after,
      nodes = before ++ sign :: value :: after ∧ sign.kind = "=" ∧
        ∀ other ∈ before, other.kind ≠ "=" := by
  induction nodes with
  | nil => simp [afterEquals?]
  | cons node nodes ih =>
      rw [afterEquals?_cons]
      split
      · next hsign =>
          constructor
          · intro h
            obtain ⟨after, rfl⟩ := List.head?_eq_some_iff.1 h
            exact ⟨[], node, after, rfl, hsign, by simp⟩
          · rintro ⟨before, sign, after, heq, -, hbefore⟩
            cases before with
            | nil =>
                obtain ⟨-, rfl⟩ := List.cons.inj heq
                rfl
            | cons other before =>
                obtain ⟨rfl, -⟩ := List.cons.inj heq
                exact absurd hsign (hbefore node List.mem_cons_self)
      · next hsign =>
          rw [ih]
          constructor
          · rintro ⟨before, sign, after, rfl, hkind, hbefore⟩
            exact ⟨node :: before, sign, after, rfl, hkind,
              List.forall_mem_cons.2 ⟨hsign, hbefore⟩⟩
          · rintro ⟨before, sign, after, heq, hkind, hbefore⟩
            cases before with
            | nil =>
                obtain ⟨rfl, -⟩ := List.cons.inj heq
                exact absurd hkind hsign
            | cons other before =>
                obtain ⟨rfl, hnodes⟩ := List.cons.inj heq
                exact ⟨before, sign, after, hnodes, hkind, (List.forall_mem_cons.1 hbefore).2⟩

theorem getLast?_filter_eq_some_iff {p : Node → Bool} {nodes : List Node} {value : Node} :
    (nodes.filter p).getLast? = some value ↔ ∃ before after,
      nodes = before ++ value :: after ∧ p value = true ∧ ∀ other ∈ after, p other = false := by
  constructor
  · intro h
    obtain ⟨others, hothers⟩ := List.getLast?_eq_some_iff.1 h
    obtain ⟨first, second, rfl, -, hsecond⟩ := List.filter_eq_append_iff.1 hothers
    obtain ⟨before, after, rfl, -, hvalue, hafter⟩ := List.filter_eq_cons_iff.1 hsecond
    refine ⟨first ++ before, after, by simp, hvalue, fun other hother => ?_⟩
    exact Bool.eq_false_iff.2 (List.filter_eq_nil_iff.1 hafter other hother)
  · rintro ⟨before, after, rfl, hvalue, hafter⟩
    have hnone : after.filter p = [] :=
      List.filter_eq_nil_iff.2 fun other hother => Bool.eq_false_iff.1 (hafter other hother)
    simp [hvalue, hnone]

theorem defaultNode?_eq_some_iff {node value : Node} :
    defaultNode? node = some value ↔ IsValue node value := by
  rw [defaultNode?, IsValue]
  cases node.child? "equals_value_clause" with
  | none => simp [afterEquals?_eq_some_iff]
  | some clause =>
      simp only [Node.namedChildren, getLast?_filter_eq_some_iff]
      simp

/-! ## Looking up behind remarks -/

theorem found_afterEquals? {R : Node → Node → Prop} {nodes nodes' : List Node}
    (hkind : ∀ node node', R node node' → node.kind = node'.kind)
    (h : Remarked R nodes nodes') : Found R (afterEquals? nodes) (afterEquals? nodes') := by
  induction h with
  | nil => exact .inr .none
  | @keep node node' nodes nodes' hnode hnodes ih =>
      rw [afterEquals?_cons, afterEquals?_cons, hkind node node' hnode]
      split
      · exact hnodes.head?
      · exact ih
  | @remark comment nodes nodes' hcomment _ ih =>
      have hsign : comment.kind ≠ "=" := by
        rw [hcomment.kind_eq]
        decide
      rwa [afterEquals?_cons, if_neg hsign]

theorem found_defaultNode? {node node' : Node} (h : node.WithRemarks node') :
    Found Node.Spread (defaultNode? node) (defaultNode? node') := by
  have hclause : Option.Rel Node.Spread (node.child? "equals_value_clause")
      (node'.child? "equals_value_clause") := h.child? (by decide)
  unfold defaultNode?
  generalize node.child? "equals_value_clause" = clause?,
    node'.child? "equals_value_clause" = clause?' at hclause ⊢
  cases hclause with
  | none =>
      obtain ⟨children, hchildren, rfl⟩ := h
      exact found_afterEquals? (fun _ _ hnode => hnode.kind) hchildren
  | @some clause clause' hnode =>
      have hnamed : Remarked Eq clause.namedChildren clause'.namedChildren :=
        hnode.children.filter (fun _ _ hsame => by rw [hsame])
          fun _ hcomment => hcomment.named_eq
      refine hnamed.getLast?.mono ?_
      rintro value _ rfl
      exact .same value

/-- The same parameter is read if no remark stands in the place of the value. -/
theorem ofNode?_of_no_remark {node node' : Node} (h : node.WithRemarks node') (source : Bytes)
    (hvalue : ∀ value, IsValue node' value → ¬value.IsRemark) :
    ofNode? source node' = ofNode? source node := by
  have hdefault : (defaultNode? node').mapM (Node.text? source) =
      (defaultNode? node).mapM (Node.text? source) := by
    rcases found_defaultNode? h with ⟨comment, hcomment, hfound⟩ | hsame
    · exact absurd hcomment (hvalue comment (defaultNode?_eq_some_iff.1 hfound))
    · generalize defaultNode? node = default?, defaultNode? node' = default?' at hsame ⊢
      cases hsame with
      | none => rfl
      | some hnode => rw [Option.mapM_some, Option.mapM_some, hnode.text? source]
  rw [ofNode?, ofNode?, h.name?, h.labelledText?, hdefault]

theorem default?_of_isValue {node value : Node} {source : Bytes} {parameter : Parameter}
    (hvalue : IsValue node value) (h : ofNode? source node = some parameter) :
    parameter.default? = value.text? source := by
  have hdefault := ((ofNode?_eq_some_iff source).1 h).2.2
  rw [defaultNode?_eq_some_iff.2 hvalue, Option.mapM_some] at hdefault
  cases htext : value.text? source with
  | none => simp [htext] at hdefault
  | some text =>
      rw [htext] at hdefault
      exact (Option.some.inj hdefault).symm

theorem items?_congr_parameter {node node' : Node} {source : Bytes}
    (hkind : node.kind = "parameter") (hkind' : node'.kind = "parameter")
    (hsame : ofNode? source node' = ofNode? source node) (before after : List Node)
    (waiting : Text) :
    items? source waiting (before ++ node' :: after) =
      items? source waiting (before ++ node :: after) := by
  induction before generalizing waiting with
  | nil =>
      rw [List.nil_append, List.nil_append, items?_own source waiting hkind,
        items?_own source waiting hkind', hsame]
  | cons first before ih => simp only [List.cons_append, items?, ih]

/-- The parameter list of the method has the node between the others. -/
def ListedIn (method : Node) (before : List Node) (node : Node) (after : List Node) : Prop :=
  ∃ list, listNode? method = some list ∧ list.children = before ++ node :: after

theorem ListedIn.ofMethod? {method node : Node} {before after : List Node}
    (h : ListedIn method before node after) (source : Bytes) :
    ofMethod? source method = items? source [] (before ++ node :: after) := by
  obtain ⟨list, hlist, hchildren⟩ := h
  rw [Parameter.ofMethod?, hlist]
  exact congrArg (items? source []) hchildren

/-- Comments inside of a parameter never change its name and its type.  They change nothing
at all in the parameters of a method unless one of them stands in the place of the default
value, and then the default is the text of that comment. -/
theorem default_unless_remark {node node' : Node} (hkind : node.kind = "parameter")
    (h : node.WithRemarks node') (source : Bytes) :
    node'.name? source = node.name? source ∧
      node'.labelledText? source "type" = node.labelledText? source "type" ∧
      ((∀ value, IsValue node' value → ¬value.IsRemark) →
        ∀ method method' before after, ListedIn method before node after →
          ListedIn method' before node' after →
          ofMethod? source method' = ofMethod? source method) ∧
      ∀ comment, comment.IsRemark → IsValue node' comment →
        ∀ parameter, ofNode? source node' = some parameter →
          parameter.default? = comment.text? source := by
  refine ⟨(h.name? source).symm, (h.labelledText? source "type").symm, ?_, ?_⟩
  · intro hvalue method method' before after hmethod hmethod'
    have hkind' : node'.kind = "parameter" := by
      obtain ⟨children, -, rfl⟩ := h
      exact hkind
    rw [hmethod.ofMethod?, hmethod'.ofMethod?]
    exact items?_congr_parameter hkind hkind' (ofNode?_of_no_remark h source hvalue) before after []
  · exact fun comment _ hvalue parameter hparameter => default?_of_isValue hvalue hparameter

namespace Sample

def remarked : Bytes := Utf8.encode "int/*a*/x/*b*/=/*c*/5/*d*/"

def remark (start stop : Nat) : Node := ⟨"comment", true, none, start, stop, []⟩

def typeNode : Node := ⟨"predefined_type", true, some "type", 0, 3, []⟩

def nameNode : Node := ⟨"identifier", true, some "name", 8, 9, []⟩

def sign : Node := ⟨"=", false, none, 14, 15, []⟩

def literal : Node := ⟨"integer_literal", true, none, 20, 21, []⟩

def clause (children : List Node) : Node :=
  ⟨"equals_value_clause", true, none, 14, 26, children⟩

def parameter (children : List Node) : Node := ⟨"parameter", true, none, 0, 26, children⟩

def methodOf (node : Node) : Node :=
  ⟨"method_declaration", true, none, 0, 26,
    [⟨"parameter_list", true, some "parameters", 0, 26, [node]⟩]⟩

def plain : Node := parameter [typeNode, nameNode, sign, literal]

def harmless : Node :=
  parameter [typeNode, remark 3 8, nameNode, remark 9 14, sign, literal, remark 21 26]

/-- With a comment behind the equals sign. -/
def taken : Node := parameter [typeNode, nameNode, sign, remark 15 20, literal]

def plainClause : Node := parameter [typeNode, nameNode, clause [sign, literal]]

/-- With a comment behind the value. -/
def takenClause : Node :=
  parameter [typeNode, nameNode, clause [sign, literal, remark 21 26]]

end Sample

theorem default_unless_remark_sample :
    Sample.plain.WithRemarks Sample.harmless ∧
      (∀ value, IsValue Sample.harmless value → ¬value.IsRemark) ∧
      ofMethod? Sample.remarked (Sample.methodOf Sample.harmless) =
        some [⟨"x", "int", some "5"⟩] := by
  have hremarks : Sample.plain.WithRemarks Sample.harmless :=
    ⟨_, .keep (.same _) (.remark ⟨rfl, rfl, rfl⟩ (.keep (.same _) (.remark ⟨rfl, rfl, rfl⟩
      (.keep (.same _) (.keep (.same _) (.remark ⟨rfl, rfl, rfl⟩ .nil)))))), rfl⟩
  have hvalue : ∀ value, IsValue Sample.harmless value → ¬value.IsRemark := by
    intro value h hremark
    have hdefault : defaultNode? Sample.harmless = some Sample.literal := rfl
    cases hdefault.symm.trans (defaultNode?_eq_some_iff.2 h)
    cases hremark.kind_eq
  refine ⟨hremarks, hvalue, ?_⟩
  have hlisted : ∀ node, ListedIn (Sample.methodOf node) [] node [] := fun _ => ⟨_, rfl, rfl⟩
  have hsame := (default_unless_remark rfl hremarks Sample.remarked).2.2.1 hvalue
  rw [hsame _ _ [] [] (hlisted Sample.plain) (hlisted Sample.harmless)]
  decide +kernel

/-- A comment behind the equals sign, or behind the value in an equals clause, is taken for
the default value. -/
theorem comment_taken_for_default :
    Sample.plain.WithRemarks Sample.taken ∧
      ofMethod? Sample.remarked (Sample.methodOf Sample.plain) =
        some [⟨"x", "int", some "5"⟩] ∧
      ofMethod? Sample.remarked (Sample.methodOf Sample.taken) =
        some [⟨"x", "int", some "/*c*/"⟩] ∧
      Sample.plainClause.WithRemarks Sample.takenClause ∧
      ofMethod? Sample.remarked (Sample.methodOf Sample.plainClause) =
        some [⟨"x", "int", some "5"⟩] ∧
      ofMethod? Sample.remarked (Sample.methodOf Sample.takenClause) =
        some [⟨"x", "int", some "/*d*/"⟩] := by
  refine ⟨?_, by decide +kernel, by decide +kernel, ?_, by decide +kernel, by decide +kernel⟩
  · exact ⟨_, .keep (.same _) (.keep (.same _) (.keep (.same _) (.remark ⟨rfl, rfl, rfl⟩
      (.keep (.same _) .nil)))), rfl⟩
  · have hclause : (Sample.clause [Sample.sign, Sample.literal]).Spread
        (Sample.clause [Sample.sign, Sample.literal, Sample.remark 21 26]) :=
      .clause rfl (.keep rfl (.keep rfl (.remark ⟨rfl, rfl, rfl⟩ .nil)))
    exact ⟨_, .keep (.same _) (.keep (.same _) (.keep hclause .nil)), rfl⟩

end Parameter

end ClassWiki
