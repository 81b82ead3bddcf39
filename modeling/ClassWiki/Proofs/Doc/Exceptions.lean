import ClassWiki.Proofs.Doc.Attributes

/-!
# Blocks of exceptions

A block of exceptions is a sequence of elements with other text around them.  An element
is paired, with a content between a start tag and an end tag, or it is empty and consists
of one tag.  The scan knows no empty elements: it takes such a tag for a start tag and
everything up to the next end tag for its content, or passes over the tag if it has
neither attributes nor a blank.  So every paired element ends one entry, and there is one
entry for each element exactly if all elements are paired.
-/

namespace ClassWiki.Doc

open Text

/-! ## Blocks -/

/-- A text in which no start tag and no end tag of an exception begins. -/
abbrev Plain := { text : Text // untagged "exception" text = true }

inductive Item where
  | paired (attributes : AttributeList) (content : Plain)
  | empty (attributes : AttributeList)

namespace Item

def isPaired : Item → Bool
  | paired _ _ => true
  | empty _ => false

def text : Item → Text
  | paired attributes content =>
      "<exception" ++ attributes.text ++ ">" ++ content.1 ++ "</exception>"
  | empty attributes => "<exception" ++ attributes.text ++ "/>"

/-- The entry of an element of its own: its first attribute and its cleaned content. -/
def entry : Item → Text
  | paired attributes content => attributes.first ++ " - " ++ clean content.1
  | empty attributes => attributes.first ++ " - "

theorem text_paired (attributes : AttributeList) (content : Plain) :
    (paired attributes content).text =
      "<exception" ++ attributes.text ++ ">" ++ content.1 ++ "</exception>" := rfl

theorem text_empty (attributes : AttributeList) :
    (empty attributes).text = "<exception" ++ attributes.text ++ "/>" := rfl

/-! ### Scanning one element -/

theorem untilEnd?_open (attributes : AttributeList) (rest : Text) :
    untilEnd? "exception" ("<exception" ++ (attributes.text ++ rest)) =
      prepend ("<exception" ++ attributes.text) (untilEnd? "exception" rest) := by
  have hhere : ∀ more, endTag? "exception" ('<' :: ("exception" ++ more)) = none := fun _ => rfl
  have hword : '<' ∉ ("exception" : Text) := by decide
  have htag : '\x22' ∉ ("exception" : Text) ∧ '\x27' ∉ ("exception" : Text) := by decide
  show untilEnd? "exception" ('<' :: ("exception" ++ (attributes.text ++ rest))) = _
  rw [untilEnd?, hhere, untilEnd?_lead hword, attributes.untilEnd?_text htag, ← prepend_append]
  cases untilEnd? "exception" rest <;> rfl

theorem untilEnd?_empty (attributes : AttributeList) (rest : Text) :
    untilEnd? "exception" ((empty attributes).text ++ rest) =
      prepend (empty attributes).text (untilEnd? "exception" rest) := by
  have hclose : '<' ∉ ("/>" : Text) := by decide
  rw [text_empty, List.append_assoc, List.append_assoc, untilEnd?_open, untilEnd?_lead hclose,
    ← prepend_append]

theorem untilEnd?_content (content : Plain) (rest : Text) :
    untilEnd? "exception" (content.1 ++ ("</exception>" ++ rest)) = some (content.1, rest) := by
  have hname : '<' ∉ ("exception" : Text) := by decide
  have hbounded : Bounded ("</exception>" ++ rest) := by
    rintro c ⟨⟩
    rfl
  have hend : untilEnd? "exception" ("</exception>" ++ rest) = some ([], rest) :=
    untilEnd?_endTag
  rw [untilEnd?_untagged hname content.2 hbounded, hend]
  simp [prepend]

theorem untilEnd?_paired (attributes : AttributeList) (content : Plain) (rest : Text) :
    untilEnd? "exception" ((paired attributes content).text ++ rest) =
      some ("<exception" ++ attributes.text ++ ">" ++ content.1, rest) := by
  have hclose : '<' ∉ (">" : Text) := by decide
  have htext : (paired attributes content).text ++ rest =
      "<exception" ++ (attributes.text ++ (">" ++ (content.1 ++ ("</exception>" ++ rest)))) := by
    simp only [text_paired, List.append_assoc]
  rw [htext, untilEnd?_open, untilEnd?_lead hclose, untilEnd?_content]
  simp only [prepend, Option.map_some, List.append_assoc]

theorem startTag?_paired (attributes : AttributeList) (content : Plain) (rest : Text) :
    startTag? "exception" ((paired attributes content).text ++ rest) =
      some (attributes.text, content.1 ++ ("</exception>" ++ rest)) := by
  refine startTag?_eq_some_iff.2
    ⟨?_, attributes.close_not_mem, fun _ => attributes.isBlank_of_head⟩
  simp only [text_paired, List.append_assoc]
  rfl

theorem startTag?_empty {attributes : AttributeList} (h : attributes.text ≠ []) (rest : Text) :
    startTag? "exception" ((empty attributes).text ++ rest) =
      some (attributes.text ++ "/", rest) := by
  refine startTag?_eq_some_iff.2 ⟨?_, ?_, fun c hc => ?_⟩
  · simp only [text_empty, List.append_assoc]
    rfl
  · rw [List.mem_append, not_or]
    exact ⟨attributes.close_not_mem, by decide⟩
  · cases htext : attributes.text with
    | nil => exact absurd htext h
    | cons d more =>
        rw [htext] at hc
        cases hc
        exact attributes.isBlank_of_head (by rw [htext]; rfl)

/-- A tag without attributes and blanks is no start tag. -/
theorem element?_empty {attributes : AttributeList} (h : attributes.text = []) (rest : Text) :
    element? "exception" ((empty attributes).text ++ rest) = element? "exception" rest := by
  have hhere : ∀ more, startTag? "exception" ('<' :: ("exception/>" ++ more)) = none :=
    fun _ => rfl
  have hword : '<' ∉ ("exception/>" : Text) := by decide
  rw [text_empty, h]
  show element? "exception" ('<' :: ("exception/>" ++ rest)) = _
  rw [element?, hhere]
  exact element?_lead hword "exception" rest

end Item

/-- Every element comes with the text between it and the next one. -/
structure ExceptionBlock where
  lead : Plain
  items : List (Item × Plain)

namespace ExceptionBlock

def itemsText (items : List (Item × Plain)) : Text :=
  items.flatMap fun item => item.1.text ++ item.2.1

def text (block : ExceptionBlock) : Text := block.lead.1 ++ itemsText block.items

/-- The entries that the scan makes of the elements.  Once it has met the tag of an empty
element it waits for an end tag, with the first attribute of that element and the text
behind it. -/
def entriesFrom : Option (Text × Text) → List (Item × Plain) → List Text
  | _, [] => []
  | none, (.paired attributes content, _) :: items =>
      (attributes.first ++ " - " ++ clean content.1) :: entriesFrom none items
  | none, (.empty attributes, gap) :: items =>
      if attributes.text = [] then entriesFrom none items
      else entriesFrom (some (attributes.first, gap.1)) items
  | some (first, swallowed), (.paired attributes content, _) :: items =>
      (first ++ " - " ++
        clean (swallowed ++ "<exception" ++ attributes.text ++ ">" ++ content.1)) ::
          entriesFrom none items
  | some (first, swallowed), (.empty attributes, gap) :: items =>
      entriesFrom (some (first, swallowed ++ (Item.empty attributes).text ++ gap.1)) items

/-- Every paired element ends one entry, its own or that of an empty one in front. -/
theorem length_entriesFrom (waiting? : Option (Text × Text)) (items : List (Item × Plain)) :
    (entriesFrom waiting? items).length = items.countP (·.1.isPaired) := by
  fun_induction entriesFrom waiting? items <;> simp_all [Item.isPaired]

theorem entriesFrom_of_paired {items : List (Item × Plain)}
    (h : ∀ item ∈ items, item.1.isPaired = true) :
    entriesFrom none items = items.map fun item => item.1.entry := by
  induction items with
  | nil => rfl
  | cons item items ih =>
      obtain ⟨kind, gap⟩ := item
      have hrest := ih fun other hmem => h other (List.mem_cons_of_mem _ hmem)
      cases kind with
      | empty attributes => cases h _ List.mem_cons_self
      | paired attributes content => rw [entriesFrom, hrest, List.map_cons, Item.entry]

/-! ### Scanning a block -/

theorem elements_congr {name first second : Text}
    (h : element? name first = element? name second) :
    elements name first = elements name second := by
  cases hfound : element? name second with
  | none => rw [elements_of_none hfound, elements_of_none (h.trans hfound)]
  | some found => rw [elements_of_some hfound, elements_of_some (h.trans hfound)]

/-- The elements from a start tag on, given what is found up to an end tag. -/
def elementsBehind (attributes : Text) : Option (Text × Text) → List Element
  | none => []
  | some (content, after) => ⟨attributes, content⟩ :: elements "exception" after

theorem elements_of_startTag? {text attributes behind : Text}
    (h : startTag? "exception" text = some (attributes, behind)) :
    elements "exception" text = elementsBehind attributes (untilEnd? "exception" behind) := by
  have hfound : element? "exception" text = (untilEnd? "exception" behind).map
      fun found => (⟨attributes, found.1⟩, found.2) := by
    cases text with
    | nil => cases h
    | cons c rest => rw [element?, h]
  cases hend : untilEnd? "exception" behind with
  | none =>
      rw [hend] at hfound
      exact elements_of_none hfound
  | some found =>
      rw [hend] at hfound
      exact elements_of_some hfound

theorem itemsText_cons (item : Item) (gap : Plain) (items : List (Item × Plain)) :
    itemsText ((item, gap) :: items) = item.text ++ (gap.1 ++ itemsText items) := by
  rw [itemsText, List.flatMap_cons, List.append_assoc]
  rfl

theorem bounded_itemsText (items : List (Item × Plain)) : Bounded (itemsText items) := by
  intro c hc
  cases items with
  | nil => cases hc
  | cons item items =>
      obtain ⟨kind, gap⟩ := item
      rw [itemsText_cons] at hc
      cases kind <;> cases hc <;> rfl

/-- From one element to the next, the scan stands behind text without tags, or it waits for
the end tag of an element that has none. -/
theorem entries_itemsText (items : List (Item × Plain)) :
    (∀ gap : Plain, (elements "exception" (gap.1 ++ itemsText items)).map Element.entry =
      entriesFrom none items) ∧
    ∀ attributes swallowed,
      (elementsBehind attributes (prepend swallowed (untilEnd? "exception" (itemsText items)))).map
          Element.entry =
        entriesFrom (some ((attribute? attributes).getD [], swallowed)) items := by
  have hname : '<' ∉ ("exception" : Text) := by decide
  have hnone : attribute? [] = none := rfl
  have hslash : attribute? "/" = none := by decide +kernel
  have hgap : ∀ (gap : Plain) items, elements "exception" (gap.1 ++ itemsText items) =
      elements "exception" (itemsText items) := fun gap items =>
    elements_congr (element?_untagged hname gap.2 (bounded_itemsText items))
  induction items with
  | nil =>
      refine ⟨fun gap => ?_, fun attributes swallowed => rfl⟩
      rw [hgap, elements_of_none rfl]
      rfl
  | cons item items ih =>
      obtain ⟨ihplain, ihwaiting⟩ := ih
      obtain ⟨kind, gap⟩ := item
      have hbehind : untilEnd? "exception" (gap.1 ++ itemsText items) =
          prepend gap.1 (untilEnd? "exception" (itemsText items)) :=
        untilEnd?_untagged hname gap.2 (bounded_itemsText items)
      cases kind with
      | paired attributes content =>
          constructor
          · intro lead
            have hfirst := attributes.attribute?_text hnone
            rw [List.append_nil] at hfirst
            rw [hgap, itemsText_cons, elements_of_startTag? (Item.startTag?_paired ..),
              Item.untilEnd?_content, entriesFrom, ← ihplain gap, ← hfirst]
            rfl
          · intro attributes' swallowed
            rw [itemsText_cons, Item.untilEnd?_paired, entriesFrom, ← ihplain gap]
            simp only [prepend, Option.map_some, elementsBehind, List.map_cons, Element.entry,
              List.append_assoc]
      | empty attributes =>
          constructor
          · intro lead
            rw [hgap, itemsText_cons, entriesFrom]
            split
            · next hbare =>
                rw [elements_congr (Item.element?_empty hbare _), ihplain gap]
            · next hbare =>
                rw [elements_of_startTag? (Item.startTag?_empty hbare _), hbehind, ihwaiting,
                  attributes.attribute?_text hslash]
          · intro attributes' swallowed
            rw [itemsText_cons, Item.untilEnd?_empty, hbehind, ← prepend_append,
              ← prepend_append, ihwaiting, entriesFrom]

theorem exceptionEntries_eq (block : ExceptionBlock) :
    exceptionEntries [block.text] = entriesFrom none block.items := by
  rw [exceptionEntries, List.flatMap_singleton]
  exact (entries_itemsText block.items).1 block.lead

/-- Of every block the scan makes the entries that wait for the next end tag, one for each
paired element.  They are the entries of the elements themselves exactly if no element is
empty. -/
theorem exceptionEntries_block (block : ExceptionBlock) :
    exceptionEntries [block.text] = entriesFrom none block.items ∧
      (exceptionEntries [block.text]).length = block.items.countP (·.1.isPaired) ∧
      (exceptionEntries [block.text] = block.items.map (fun item => item.1.entry) ↔
        ∀ item ∈ block.items, item.1.isPaired = true) := by
  refine ⟨exceptionEntries_eq block, ?_, ?_⟩
  · rw [exceptionEntries_eq, length_entriesFrom]
  · rw [exceptionEntries_eq]
    constructor
    · intro h
      have hlength := length_entriesFrom none block.items
      rw [h, List.length_map] at hlength
      exact List.countP_eq_length.1 hlength.symm
    · exact entriesFrom_of_paired

namespace Sample

/-- The attribute `cref`, with a value of one letter. -/
def reference (c : Char) (hquote : '\x27' ≠ c) (hclose : '>' ≠ c) : AttributeList where
  entries := [(" ", {
    name := "cref"
    left := []
    right := []
    mark := '\x27'
    value := [c]
    name_ne_nil := by decide
    name_char := List.all_eq_true.1 (by decide +kernel)
    left_blank := by simp
    right_blank := by simp
    mark_quote := .inr rfl
    mark_not_mem := by simpa using hquote
    close_not_mem := by simpa using hclose })]
  tail := []
  lead_blank := List.forall_mem_singleton.2
    ⟨List.cons_ne_nil _ _, List.forall_mem_singleton.2 rfl⟩
  tail_blank := by simp

def block : ExceptionBlock where
  lead := ⟨[], rfl⟩
  items :=
    [(.empty (reference 'A' (by decide) (by decide)), ⟨[], rfl⟩),
      (.paired (reference 'B' (by decide) (by decide)) ⟨"b", by decide⟩, ⟨[], rfl⟩)]

end Sample

/-- An empty element takes the element behind it for its content and hides it. -/
theorem empty_element_hides_next :
    Sample.block.text = "<exception cref='A'/><exception cref='B'>b</exception>" ∧
      exceptionEntries [Sample.block.text] = [("cref='A' - <exception cref='B'>b" : Text)] ∧
      Sample.block.items.map (fun item => item.1.entry) =
        [("cref='A' - " : Text), "cref='B' - b"] ∧
      exceptionEntries [Sample.block.text] ≠
        Sample.block.items.map (fun item => item.1.entry) := by
  have hentries : exceptionEntries [Sample.block.text] =
      [("cref='A' - <exception cref='B'>b" : Text)] := by
    rw [exceptionEntries_eq]
    decide +kernel
  have helements : Sample.block.items.map (fun item => item.1.entry) =
      [("cref='A' - " : Text), "cref='B' - b"] := by decide +kernel
  refine ⟨by decide +kernel, hentries, helements, ?_⟩
  rw [hentries, helements]
  decide

end ExceptionBlock

end ClassWiki.Doc
