import ClassWiki.Proofs.Doc.Exceptions
import ClassWiki.Proofs.Doc.Summary

/-!
# Blocks of paired elements

In a block of paired elements every element has a start tag and an end tag.  Its content
holds no end tag but may hold everything else, further start tags included, and between the
elements stands text in which no start tag begins.  The scan finds these elements and
nothing else.  No tag can begin in one part of such a block and end in the next one, because
the parts that follow begin with a `<`, which stands nowhere else in a tag's lead.
-/

namespace ClassWiki.Doc

open Text

/-! ## Parts of a block -/

abbrev Gap := { text : Text // ¬("<exception" : Text) <:+: text }

structure Paired where
  attributes : Text
  content : Text
  blanks : Text
  attributes_blank : ∀ c, attributes.head? = some c → isBlank c = true
  close_not_mem : '>' ∉ attributes
  content_open : ∀ before rest, ¬Occurs (IsEndTag "exception") content before rest
  blanks_blank : ∀ c ∈ blanks, isBlank c = true

/-- The text of the first attribute, empty if there is none. -/
def firstAttribute (attributes : Text) : Text := (attribute? attributes).getD []

namespace Paired

def text (element : Paired) : Text :=
  "<exception" ++ element.attributes ++ ">" ++ element.content ++
    ("</exception" ++ element.blanks ++ ">")

theorem text_eq (element : Paired) :
    element.text = "<exception" ++ element.attributes ++ ">" ++ element.content ++
      ("</exception" ++ element.blanks ++ ">") := rfl

/-- The first attribute and the cleaned content. -/
def entry (element : Paired) : Text :=
  firstAttribute element.attributes ++ " - " ++ clean element.content

end Paired

structure PairedBlock where
  lead : Gap
  elements : List (Paired × Gap)

namespace PairedBlock

def elementsText (elements : List (Paired × Gap)) : Text :=
  elements.flatMap fun element => element.1.text ++ element.2.1

def text (block : PairedBlock) : Text := block.lead.1 ++ elementsText block.elements

def entries (block : PairedBlock) : List Text := block.elements.map fun element => element.1.entry

end PairedBlock

/-! ## Scanning the parts -/

theorem element?_gap {gap text : Text} (hgap : ¬("<exception" : Text) <:+: gap)
    (htext : Bounded text) : element? "exception" (gap ++ text) = element? "exception" text := by
  refine element?_skip fun rest hne hsuffix => ?_
  rw [Option.eq_none_iff_forall_ne_some]
  rintro ⟨attributes, behind⟩ hstart
  obtain ⟨hrest, -⟩ := startTag?_eq_some_iff.1 hstart
  cases rest with
  | nil => exact absurd rfl hne
  | cons c rest =>
      obtain ⟨rfl, hword⟩ : '<' = c ∧ "exception" ++ (attributes ++ '>' :: behind) = rest ++ text :=
        List.cons.inj hrest.symm
      have hdrop : dropLead? "exception" (rest ++ text) = some (attributes ++ '>' :: behind) :=
        dropLead?_eq_some_iff.2 hword.symm
      rw [dropLead?_append_bounded (by decide) htext] at hdrop
      obtain ⟨more, hmore, -⟩ := Option.map_eq_some_iff.1 hdrop
      apply hgap
      have hlead : ("<exception" : Text) <+: '<' :: rest :=
        ⟨more, by rw [dropLead?_eq_some_iff.1 hmore]; rfl⟩
      exact hlead.isInfix.trans hsuffix.isInfix

/-- An end tag has no `<` but its first character. -/
theorem IsEndTag.eq_cons {name tag : Text} (h : IsEndTag name tag) (hname : '<' ∉ name) :
    ∃ more, tag = '<' :: more ∧ '<' ∉ more := by
  obtain ⟨blanks, rfl, hblanks⟩ := h
  refine ⟨'/' :: name ++ blanks ++ ">", rfl, ?_⟩
  have hout : '<' ∉ blanks := fun hmem => absurd (hblanks _ hmem) (by decide)
  simp [hname, hout]

/-- The first end tag behind a content without end tags is the one that follows it. -/
theorem untilEnd?_ended {name content tag rest : Text} (hname : '<' ∉ name)
    (hcontent : ∀ before rest, ¬Occurs (IsEndTag name) content before rest)
    (htag : IsEndTag name tag) :
    untilEnd? name (content ++ tag ++ rest) = some (content, rest) := by
  rw [untilEnd?_eq_some_iff]
  refine ⟨⟨tag, htag, rfl⟩, ?_⟩
  rintro before rest' ⟨tag', htag', htext⟩
  refine Nat.le_of_not_lt fun hearly => ?_
  rw [List.append_assoc, List.append_assoc] at htext
  rcases List.append_eq_append_iff.1 htext with ⟨more, rfl, -⟩ | ⟨inside, rfl, hinside⟩
  · rw [List.length_append] at hearly
    omega
  · rcases List.append_eq_append_iff.1 hinside with ⟨more, rfl, -⟩ | ⟨beyond, rfl, hbeyond⟩
    · exact hcontent before more ⟨tag', htag', by simp⟩
    · -- The tag goes over the end of the content, where the other one starts.
      obtain ⟨own, rfl, -⟩ := htag.eq_cons hname
      obtain ⟨own', hown', hout⟩ := htag'.eq_cons hname
      cases beyond with
      | nil => exact hcontent before [] ⟨inside, by simpa using htag', by simp⟩
      | cons c beyond =>
          obtain ⟨rfl, -⟩ := List.cons.inj hbeyond
          cases inside with
          | nil => simp at hearly
          | cons d inside =>
              obtain ⟨-, rfl⟩ := List.cons.inj hown'
              exact hout (List.mem_append_right _ List.mem_cons_self)

/-! ## Scanning a block -/

namespace Paired

variable (element : Paired)

theorem startTag?_text (rest : Text) :
    startTag? "exception" (element.text ++ rest) = some (element.attributes,
      element.content ++ ("</exception" ++ element.blanks ++ ">") ++ rest) := by
  refine startTag?_eq_some_iff.2 ⟨?_, element.close_not_mem, element.attributes_blank⟩
  simp only [text_eq, List.append_assoc]
  rfl

theorem elements_text (rest : Text) :
    elements "exception" (element.text ++ rest) =
      ⟨element.attributes, element.content⟩ :: elements "exception" rest := by
  have hend : IsEndTag "exception" ("</exception" ++ element.blanks ++ ">") :=
    ⟨element.blanks, rfl, element.blanks_blank⟩
  rw [ExceptionBlock.elements_of_startTag? (element.startTag?_text rest),
    untilEnd?_ended (by decide) element.content_open hend]
  rfl

end Paired

namespace PairedBlock

theorem bounded_elementsText (elements : List (Paired × Gap)) :
    Bounded (elementsText elements) := by
  intro c hc
  cases elements with
  | nil => cases hc
  | cons element elements =>
      cases hc
      rfl

theorem elements_gap (gap : Gap) (elements : List (Paired × Gap)) :
    Doc.elements "exception" (gap.1 ++ elementsText elements) =
      elements.map fun element => ⟨element.1.attributes, element.1.content⟩ := by
  induction elements generalizing gap with
  | nil =>
      rw [ExceptionBlock.elements_congr (element?_gap gap.2 (bounded_elementsText []))]
      exact elements_of_none rfl
  | cons element elements ih =>
      have hcons : elementsText (element :: elements) =
          element.1.text ++ (element.2.1 ++ elementsText elements) := by
        rw [elementsText, List.flatMap_cons, List.append_assoc]
        rfl
      rw [ExceptionBlock.elements_congr
        (element?_gap gap.2 (bounded_elementsText (element :: elements))), hcons,
        element.1.elements_text, ih, List.map_cons]

theorem exceptionEntries_text (block : PairedBlock) :
    (Doc.elements "exception" block.text).map Element.entry = block.entries := by
  rw [text, elements_gap, entries, List.map_map]
  rfl

end PairedBlock

theorem firstAttribute_of_not_holdsAttribute {attributes : Text} (hclose : '>' ∉ attributes)
    (h : ¬HoldsAttribute attributes) : firstAttribute attributes = [] := by
  rcases attribute?_cases hclose with ⟨hnone, -⟩ | ⟨attr, -, before, after, htext, -⟩
  · rw [firstAttribute, hnone]
    rfl
  · exact absurd ⟨attr, before, after, htext⟩ h

theorem firstAttribute_of_isLeftmost {attributes : Text} (hclose : '>' ∉ attributes)
    {attr : Attribute} (h : IsLeftmost attributes attr) :
    firstAttribute attributes = attr.text := by
  rcases attribute?_cases hclose with ⟨-, hnone⟩ | ⟨attr', hsome, hleftmost⟩
  · obtain ⟨before, after, htext, -⟩ := h
    exact absurd ⟨attr, before, after, htext⟩ hnone
  · rw [firstAttribute, hsome]
    exact hleftmost.text_unique h

/-- The exceptions of blocks of paired elements are the entries of the elements in order.  An
entry shows the leftmost attribute of the start tag, which is the first one of a list of
attributes, and nothing for a tag that holds none. -/
theorem exceptions_paired (blocks : List PairedBlock) :
    exceptions (blocks.map PairedBlock.text) = unlines (blocks.flatMap PairedBlock.entries) ∧
      ∀ element : Paired,
        (¬HoldsAttribute element.attributes → firstAttribute element.attributes = []) ∧
        (∀ attr, IsLeftmost element.attributes attr →
          firstAttribute element.attributes = attr.text) ∧
        ∀ list : AttributeList, element.attributes = list.text →
          firstAttribute element.attributes = list.first := by
  refine ⟨?_, fun element => ⟨firstAttribute_of_not_holdsAttribute element.close_not_mem,
    fun attr => firstAttribute_of_isLeftmost element.close_not_mem, ?_⟩⟩
  · rw [exceptions, exceptionEntries, List.flatMap_map]
    simp only [PairedBlock.exceptionEntries_text]
  · intro list hlist
    have hnone : attribute? [] = none := rfl
    have hfirst := list.attribute?_text hnone
    rw [List.append_nil] at hfirst
    rw [firstAttribute, hlist, hfirst]

theorem not_occurs_of_untilEnd? {name text : Text} (h : untilEnd? name text = none)
    (before rest : Text) : ¬Occurs (IsEndTag name) text before rest := by
  intro hoccurs
  obtain ⟨before', rest', hfirst⟩ := exists_occursFirst hoccurs
  cases h.symm.trans (untilEnd?_eq_some_iff.2 hfirst)

namespace Sample

def reference : AttributeList := ExceptionBlock.Sample.reference 'A' nofun nofun

def attributed : Paired where
  attributes := reference.text
  content := "u<exception>v"
  blanks := " "
  attributes_blank := fun _ => reference.isBlank_of_head
  close_not_mem := reference.close_not_mem
  content_open := not_occurs_of_untilEnd? (by decide +kernel)
  blanks_blank := List.forall_mem_singleton.2 rfl

def bare : Paired where
  attributes := []
  content := "w"
  blanks := []
  attributes_blank := nofun
  close_not_mem := nofun
  content_open := not_occurs_of_untilEnd? (by decide +kernel)
  blanks_blank := nofun

def paired : PairedBlock where
  lead := ⟨"x</exception>", by decide +kernel⟩
  elements := [(attributed, ⟨"<except", by decide +kernel⟩), (bare, ⟨[], by decide +kernel⟩)]

end Sample

theorem exceptions_paired_sample :
    exceptions [("x</exception><exception cref='A'>u<exception>v</exception ><except" ++
        "<exception>w</exception>" : Text)] = ("cref='A' - u<exception>v\n - w" : Text) ∧
      firstAttribute Sample.attributed.attributes = Sample.reference.first ∧
      firstAttribute Sample.bare.attributes = [] := by
  have htext : Sample.paired.text =
      ("x</exception><exception cref='A'>u<exception>v</exception ><except" ++
        "<exception>w</exception>" : Text) := by decide +kernel
  have hentries : unlines ([Sample.paired].flatMap PairedBlock.entries) =
      ("cref='A' - u<exception>v\n - w" : Text) := by decide +kernel
  have hbare : ¬HoldsAttribute Sample.bare.attributes := by
    rintro ⟨attr, before, after, hempty⟩
    simp [Sample.bare, attr.text_ne_nil] at hempty
  obtain ⟨hpaired, hfirst⟩ := exceptions_paired [Sample.paired]
  rw [List.map_singleton, htext, hentries] at hpaired
  exact ⟨hpaired, (hfirst Sample.attributed).2.2 Sample.reference rfl, (hfirst Sample.bare).1 hbare⟩

end ClassWiki.Doc
