import ClassWiki.Page

/-!
# Reading a page back

The outline of a page is what it shows of a declaration: the lines of the members and
their texts, with the types already formatted.  The parts of a page have no end marks,
and its texts may look like headings or entries.  The lines still determine the outline,
because what stands at the place of an optional part is either its heading or the start
of a later part, and no two of these are equal.
-/

namespace ClassWiki.Page

open Text

/-! ## Outlines -/

structure VariableOutline where
  entry : Text
  summary : Text
  deriving DecidableEq, Repr

structure MethodOutline where
  entry : Text
  parameters : Text
  summary : Text
  exceptions : Text
  invoked : List Text
  created : List Text
  deriving DecidableEq, Repr

structure Outline where
  name : Text
  inheritance : Text
  summary : Text
  fields : List VariableOutline
  properties : List VariableOutline
  methods : List MethodOutline
  deriving DecidableEq, Repr

def variableOutline (entry : Variable) : VariableOutline :=
  ⟨Link.ofType entry.type ++ " " ++ entry.name, entry.summary⟩

/-- Exceptions that are not shown count as empty, and so do the lists of a method without a
call graph. -/
def methodOutline (options : PageOptions) (method : Method) : MethodOutline where
  entry := Link.ofType method.type ++ " " ++ method.name
  parameters := Parameter.listText method.parameters
  summary := method.summary
  exceptions := if options.exceptions then method.exceptions else []
  invoked := (method.calls?.map CallGraph.invoked).getD []
  created := ((method.calls?.map CallGraph.created).getD []).map Link.ofType

def outline (options : PageOptions) (declaration : Declaration) : Outline where
  name := declaration.name
  inheritance := inheritance options declaration.bases
  summary := declaration.summary
  fields := declaration.fields.map variableOutline
  properties := declaration.properties.map variableOutline
  methods := declaration.methods.map (methodOutline options)

/-! ## Readers

Each reader takes what it understands off the front of the lines and leaves the rest. -/

def readOptional (heading : Text) : List Text → Text × List Text
  | line :: text :: rest =>
      if line = heading then (text, rest) else ([], line :: text :: rest)
  | lines => ([], lines)

def readItems : List Text → List Text × List Text
  | [] => ([], [])
  | line :: lines =>
      match dropLead? "\t\t\t- " line with
      | some item => (item :: (readItems lines).1, (readItems lines).2)
      | none => ([], line :: lines)

def readListing (heading : Text) : List Text → List Text × List Text
  | line :: lines => if line = heading then readItems lines else ([], line :: lines)
  | [] => ([], [])

def readSummary : List Text → Text × List Text
  | [] :: summary :: _ :: rest => (summary, rest)
  | lines => ([], lines)

def readVariable? : List Text → Option (VariableOutline × List Text)
  | [] => none
  | line :: lines =>
      match dropLead? "\t- " line with
      | none => none
      | some entry =>
          let (summary, lines) := readOptional "\t\t- Summary:" lines
          some (⟨entry, summary⟩, lines)

def readMethod? : List Text → Option (MethodOutline × List Text)
  | line :: next :: lines =>
      match dropLead? "\t- ### " line, dropLead? "\t\t- #### Parameters: " next with
      | some entry, some parameters =>
          let (summary, lines) := readOptional "\t\t\t- Summary:" lines
          let (exceptions, lines) := readOptional "\t\t\t- Exceptions:" lines
          let (invoked, lines) := readListing "\t\t- **Invoked methods/properties:**" lines
          let (created, lines) := readListing "\t\t- **Objects created:**" lines
          some (⟨entry, parameters, summary, exceptions, invoked, created⟩, lines)
      | _, _ => none
  | _ => none

/-- Read as often as it goes.  A reader that takes nothing off is not asked again. -/
def readMany (read? : List Text → Option (α × List Text)) (lines : List Text) :
    List α × List Text :=
  match read? lines with
  | none => ([], lines)
  | some (item, rest) =>
      if _h : rest.length < lines.length then
        let (items, rest) := readMany read? rest
        (item :: items, rest)
      else ([], lines)
termination_by lines.length

def readOutline? : List Text → Option Outline
  | title :: _ :: inheritance :: lines =>
      match dropLead? "# " title with
      | none => none
      | some name =>
          let (summary, lines) := readSummary lines
          let (fields, lines) := readMany readVariable? (lines.drop 2)
          let (properties, lines) := readMany readVariable? (lines.drop 3)
          let (methods, _) := readMany readMethod? (lines.drop 3)
          some ⟨name, inheritance, summary, fields, properties, methods⟩
  | _ => none

/-! ## Starts of lines -/

/-- The first line, if there is one, does not pass the test. -/
def Averse (test : Text → Bool) (lines : List Text) : Prop :=
  ∀ line, lines.head? = some line → test line = false

def isItem (line : Text) : Bool := (dropLead? "\t\t\t- " line).isSome

/-- The lines are over, or start with one of the headings or with another method. -/
def Opens (headings : List Text) (lines : List Text) : Prop :=
  ∀ line, lines.head? = some line →
    line ∈ headings ∨ ∃ entry : Text, line = "\t- ### " ++ entry

namespace Opens

variable {headings lines : List Text}

theorem averse {test : Text → Bool} (h : Opens headings lines)
    (hheadings : ∀ heading ∈ headings, test heading = false)
    (hmethod : ∀ entry : Text, test ("\t- ### " ++ entry) = false) : Averse test lines := by
  intro line hline
  rcases h line hline with hmem | ⟨entry, rfl⟩
  · exact hheadings line hmem
  · exact hmethod entry

theorem optional (heading : Text) (h : Opens headings lines) (text : Text) :
    Opens (heading :: headings) (optional heading text ++ lines) := by
  unfold Page.optional
  split
  · intro line hline
    exact (h line hline).imp_left (List.mem_cons_of_mem _)
  · rintro line ⟨⟩
    exact .inl List.mem_cons_self

theorem listing (heading : Text) (h : Opens headings lines) (items : List Text) :
    Opens (heading :: headings) (listing heading items ++ lines) := by
  unfold Page.listing
  split
  · intro line hline
    exact (h line hline).imp_left (List.mem_cons_of_mem _)
  · rintro line ⟨⟩
    exact .inl List.mem_cons_self

end Opens

/-! ## Reading what was written -/

theorem readOptional_append (heading : Text) {rest : List Text}
    (h : Averse (· == heading) rest) (text : Text) :
    readOptional heading (optional heading text ++ rest) = (text, rest) := by
  cases text with
  | cons c text => simp [optional, readOptional]
  | nil =>
      show readOptional heading rest = ([], rest)
      unfold readOptional
      split
      · next line text rest =>
          have hline : line ≠ heading := by simpa using h line rfl
          rw [if_neg hline]
      · rfl

theorem readItems_append {rest : List Text} (h : Averse isItem rest) (items : List Text) :
    readItems (items.map (fun item => ("\t\t\t- " : Text) ++ item) ++ rest) =
      (items, rest) := by
  induction items with
  | nil =>
      cases rest with
      | nil => rfl
      | cons line rest =>
          have hline : dropLead? "\t\t\t- " line = none := by
            simpa [isItem] using h line rfl
          simp only [List.map_nil, List.nil_append, readItems, hline]
  | cons item items ih =>
      simp only [List.map_cons, List.cons_append, readItems, dropLead?_append, ih]

theorem readListing_append (heading : Text) {rest : List Text}
    (hheading : Averse (· == heading) rest)
    (hitem : Averse isItem rest) (items : List Text) :
    readListing heading (listing heading items ++ rest) = (items, rest) := by
  cases items with
  | cons item items =>
      have hlisting : listing heading (item :: items) ++ rest = heading ::
          ((item :: items).map (fun item => ("\t\t\t- " : Text) ++ item) ++ rest) := rfl
      rw [hlisting, readListing, if_pos rfl, readItems_append hitem]
  | nil =>
      cases rest with
      | nil => rfl
      | cons line rest =>
          have hline : line ≠ heading := by simpa using hheading line rfl
          show readListing heading (line :: rest) = _
          rw [readListing, if_neg hline]

theorem readMany_flatMap {read? : List Text → Option (α × List Text)}
    {write : β → List Text} {view : β → α} {rest : List Text} (Follows : List Text → Prop)
    (hread : ∀ item rest, Follows rest → read? (write item ++ rest) = some (view item, rest))
    (hwrite : ∀ item, 0 < (write item).length)
    (hfollows : ∀ item rest, Follows (write item ++ rest))
    (hrest : Follows rest) (hstop : read? rest = none) (items : List β) :
    readMany read? (items.flatMap write ++ rest) = (items.map view, rest) := by
  induction items with
  | nil =>
      show readMany read? rest = ([], rest)
      rw [readMany, hstop]
  | cons item items ih =>
      have hnext : Follows (items.flatMap write ++ rest) := by
        cases items with
        | nil => exact hrest
        | cons next items =>
            rw [List.flatMap_cons, List.append_assoc]
            exact hfollows next _
      have hshorter : (items.flatMap write ++ rest).length <
          (write item ++ (items.flatMap write ++ rest)).length := by
        have := hwrite item
        simp only [List.length_append]
        omega
      rw [List.flatMap_cons, List.append_assoc, readMany, hread item _ hnext]
      simp only [hshorter, dif_pos, ih, List.map_cons]

/-! ## Members -/

theorem readVariable?_append {rest : List Text} (h : Averse (· == "\t\t- Summary:") rest)
    (entry : Variable) :
    readVariable? (variableParts entry ++ rest) = some (variableOutline entry, rest) := by
  have hlead : dropLead? "\t- " ("\t- " ++ Link.ofType entry.type ++ " " ++ entry.name) =
      some (Link.ofType entry.type ++ " " ++ entry.name) := by
    rw [List.append_assoc, List.append_assoc, dropLead?_append, List.append_assoc]
  simp only [variableParts, List.cons_append, readVariable?, hlead, readOptional_append _ h]
  rfl

theorem readMany_variables (entries : List Variable) (rest : List Text) :
    readMany readVariable? (entries.flatMap variableParts ++ [] :: rest) =
      (entries.map variableOutline, [] :: rest) := by
  apply readMany_flatMap (Averse (· == "\t\t- Summary:"))
  · intro entry rest h
    exact readVariable?_append h entry
  · intro entry
    exact Nat.succ_pos _
  · rintro entry rest line ⟨⟩
    simp
  · rintro line ⟨⟩
    rfl
  · rfl

theorem callParts_eq (calls? : Option CallGraph) :
    callParts calls? =
      listing "\t\t- **Invoked methods/properties:**" ((calls?.map CallGraph.invoked).getD []) ++
        listing "\t\t- **Objects created:**"
          (((calls?.map CallGraph.created).getD []).map Link.ofType) := by
  cases calls? with
  | none => rfl
  | some calls => rfl

theorem methodParts_eq (options : PageOptions) (method : Method) :
    methodParts options method =
      ("\t- ### " ++ (methodOutline options method).entry) ::
        ("\t\t- #### Parameters: " ++ (methodOutline options method).parameters) ::
        (optional "\t\t\t- Summary:" (methodOutline options method).summary ++
          (optional "\t\t\t- Exceptions:" (methodOutline options method).exceptions ++
            (listing "\t\t- **Invoked methods/properties:**"
                (methodOutline options method).invoked ++
              listing "\t\t- **Objects created:**" (methodOutline options method).created))) := by
  unfold methodParts methodOutline
  cases options.exceptions with
  | false =>
      simp only [List.append_assoc, Bool.false_eq_true, if_false, callParts_eq]
      rfl
  | true => simp only [List.append_assoc, if_true, callParts_eq]

theorem readMethod?_append {rest : List Text} (h : Opens [] rest) (options : PageOptions)
    (method : Method) :
    readMethod? (methodParts options method ++ rest) =
      some (methodOutline options method, rest) := by
  rw [methodParts_eq]
  generalize methodOutline options method = view
  -- Every optional part is followed by the later ones and the next method.
  have hcreated := h.listing "\t\t- **Objects created:**" view.created
  have hinvoked := hcreated.listing "\t\t- **Invoked methods/properties:**" view.invoked
  have hexceptions := hinvoked.optional "\t\t\t- Exceptions:" view.exceptions
  have hreadSummary := readOptional_append "\t\t\t- Summary:"
    (hexceptions.averse (by decide) (by simp)) view.summary
  have hreadExceptions := readOptional_append "\t\t\t- Exceptions:"
    (hinvoked.averse (by decide) (by simp)) view.exceptions
  have hreadInvoked := readListing_append "\t\t- **Invoked methods/properties:**"
    (hcreated.averse (by decide) (by simp)) (hcreated.averse (by decide) fun _ => rfl)
    view.invoked
  have hreadCreated := readListing_append "\t\t- **Objects created:**"
    (h.averse (by decide) (by simp)) (h.averse (by decide) fun _ => rfl) view.created
  simp only [List.cons_append, List.append_assoc, readMethod?, dropLead?_append,
    hreadSummary, hreadExceptions, hreadInvoked, hreadCreated]

theorem readMany_methods (options : PageOptions) (methods : List Method) :
    readMany readMethod? (methods.flatMap (methodParts options)) =
      (methods.map (methodOutline options), []) := by
  rw [← List.append_nil (methods.flatMap _)]
  apply readMany_flatMap (Opens [])
  · intro method rest h
    exact readMethod?_append h options method
  · intro method
    exact Nat.succ_pos _
  · intro method rest line hline
    rw [methodParts_eq] at hline
    cases hline
    exact .inr ⟨_, rfl⟩
  · intro line hline
    cases hline
  · rfl

/-! ## Whole pages -/

theorem readSummary_append (summary heading : Text) (rest : List Text) (h : heading ≠ []) :
    readSummary (summaryParts summary ++ heading :: rest) = (summary, heading :: rest) := by
  cases summary with
  | cons c summary => rfl
  | nil =>
      cases heading with
      | nil => exact absurd rfl h
      | cons c heading => rfl

theorem readOutline?_lines (options : PageOptions) (declaration : Declaration) :
    readOutline? (ofDeclaration options declaration).lines =
      some (outline options declaration) := by
  have hsummary := readSummary_append declaration.summary "## Fields"
    ([] :: (declaration.fields.flatMap variableParts ++ ([] :: "## Properties" :: [] ::
      (declaration.properties.flatMap variableParts ++ ([] :: "## Methods" :: [] ::
        declaration.methods.flatMap (methodParts options)))))) (by decide)
  simp only [ofDeclaration, heading, List.cons_append, List.nil_append, List.append_assoc,
    readOutline?, dropLead?_append, hsummary, List.drop_succ_cons, List.drop_zero,
    readMany_variables, readMany_methods, outline]

/-- One reader recovers the outline from the lines of every declaration, whatever its texts
look like.  So declarations with the same lines have the same name, summary, inheritance
line and, one by one, the same members as far as a page shows them. -/
theorem lines_determine_outline :
    (∀ options declaration, readOutline? (ofDeclaration options declaration).lines =
      some (outline options declaration)) ∧
    ∀ options first second,
      (ofDeclaration options first).lines = (ofDeclaration options second).lines →
      first.name = second.name ∧ first.summary = second.summary ∧
      inheritance options first.bases = inheritance options second.bases ∧
      first.fields.map variableOutline = second.fields.map variableOutline ∧
      first.properties.map variableOutline = second.properties.map variableOutline ∧
      first.methods.map (methodOutline options) =
        second.methods.map (methodOutline options) := by
  refine ⟨readOutline?_lines, ?_⟩
  intro options first second hlines
  have houtline : outline options first = outline options second := by
    apply Option.some.inj
    rw [← readOutline?_lines, ← readOutline?_lines, hlines]
  simp only [outline, Outline.mk.injEq] at houtline
  obtain ⟨hname, hinheritance, hsummary, hfields, hproperties, hmethods⟩ := houtline
  exact ⟨hname, hsummary, hinheritance, hfields, hproperties, hmethods⟩

/-- A declaration whose texts look like headings and entries.  The calls are those of its
second method. -/
def Sample.declaration (type : Text) (calls? : Option CallGraph) : Declaration where
  name := "C"
  bases := ["B<X>"]
  summary := "## Fields"
  fields := [⟨"x", type, "\t- [[int]] y"⟩]
  properties := [⟨"", type, []⟩]
  methods := [⟨"M", type, "\t\t\t- Exceptions:", [], "\t- ### [[void]] N",
    some ⟨["Summary:"], [type]⟩⟩, ⟨"N", type, [], [], [], calls?⟩]

theorem lines_determine_outline_sample :
    Sample.declaration "A" none ≠ Sample.declaration " A" (some ⟨[], []⟩) ∧
      (ofDeclaration ⟨true, false⟩ (Sample.declaration "A" none)).lines =
        (ofDeclaration ⟨true, false⟩ (Sample.declaration " A" (some ⟨[], []⟩))).lines ∧
      (Sample.declaration "A" none).methods.map (methodOutline ⟨true, false⟩) =
        (Sample.declaration " A" (some ⟨[], []⟩)).methods.map (methodOutline ⟨true, false⟩) := by
  have hlines : (ofDeclaration ⟨true, false⟩ (Sample.declaration "A" none)).lines =
      (ofDeclaration ⟨true, false⟩ (Sample.declaration " A" (some ⟨[], []⟩))).lines := by
    decide +kernel
  obtain ⟨-, -, -, -, -, hmethods⟩ := lines_determine_outline.2 _ _ _ hlines
  exact ⟨by decide +kernel, hlines, hmethods⟩

end ClassWiki.Page
