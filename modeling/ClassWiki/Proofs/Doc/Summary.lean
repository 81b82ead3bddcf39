import ClassWiki.Proofs.Doc.Element

/-!
# The summary by its first tags

A tag occurs in a text where the text falls into a part before it, the tag, and a rest.
An element can be read wherever a start tag occurs and an end tag occurs in the rest; a
text may allow many such readings.  The scan takes the first start tag and the first end
tag behind it, and never goes back.  It misses no reading: a start tag ends at the first
`>` behind its place, so no later one ends before the first one does.
-/

namespace ClassWiki.Doc

open Text

/-! ## Tags and where they occur -/

def IsStartTag (name tag : Text) : Prop :=
  ∃ attributes, tag = "<" ++ name ++ attributes ++ ">" ∧ '>' ∉ attributes ∧
    ∀ c, attributes.head? = some c → isBlank c = true

def IsEndTag (name tag : Text) : Prop :=
  ∃ blanks, tag = "</" ++ name ++ blanks ++ ">" ∧ ∀ c ∈ blanks, isBlank c = true

def Occurs (isTag : Text → Prop) (text before rest : Text) : Prop :=
  ∃ tag, isTag tag ∧ text = before ++ tag ++ rest

structure OccursFirst (isTag : Text → Prop) (text before rest : Text) : Prop where
  occurs : Occurs isTag text before rest
  leftmost : ∀ before' rest', Occurs isTag text before' rest' → before.length ≤ before'.length

theorem occurs_startTag_nil_iff {name text rest : Text} :
    Occurs (IsStartTag name) text [] rest ↔
      ∃ attributes, startTag? name text = some (attributes, rest) := by
  simp only [startTag?_eq_some_iff]
  constructor
  · rintro ⟨tag, ⟨attributes, rfl, hmark, hblank⟩, rfl⟩
    exact ⟨attributes, by simp, hmark, hblank⟩
  · rintro ⟨attributes, rfl, hmark, hblank⟩
    exact ⟨_, ⟨attributes, rfl, hmark, hblank⟩, by simp⟩

theorem occurs_endTag_nil_iff {name text rest : Text} :
    Occurs (IsEndTag name) text [] rest ↔ endTag? name text = some rest := by
  rw [endTag?_eq_some_iff]
  constructor
  · rintro ⟨tag, ⟨blanks, rfl, hblanks⟩, rfl⟩
    exact ⟨blanks, by simp, hblanks⟩
  · rintro ⟨blanks, rfl, hblanks⟩
    exact ⟨_, ⟨blanks, rfl, hblanks⟩, by simp⟩

theorem not_occurs_startTag_of_nil {name before rest : Text} :
    ¬Occurs (IsStartTag name) [] before rest := by
  rintro ⟨tag, ⟨attributes, rfl, -⟩, h⟩
  simp at h

theorem not_occurs_endTag_of_nil {name before rest : Text} :
    ¬Occurs (IsEndTag name) [] before rest := by
  rintro ⟨tag, ⟨blanks, rfl, -⟩, h⟩
  simp at h

/-! ## The first occurrence -/

section

variable {isTag : Text → Prop} {c : Char} {text before rest : Text}

theorem occurs_cons_iff :
    Occurs isTag (c :: text) before rest ↔
      (before = [] ∧ Occurs isTag (c :: text) [] rest) ∨
        ∃ more, before = c :: more ∧ Occurs isTag text more rest := by
  constructor
  · rintro ⟨tag, htag, htext⟩
    cases before with
    | nil => exact .inl ⟨rfl, tag, htag, htext⟩
    | cons d more =>
        obtain ⟨rfl, hrest⟩ := List.cons.inj htext
        exact .inr ⟨more, rfl, tag, htag, hrest⟩
  · rintro (⟨rfl, h⟩ | ⟨more, rfl, tag, htag, rfl⟩)
    · exact h
    · exact ⟨tag, htag, rfl⟩

theorem occursFirst_nil_iff :
    OccursFirst isTag text [] rest ↔ Occurs isTag text [] rest :=
  ⟨fun h => h.occurs, fun h => ⟨h, fun _ _ _ => Nat.zero_le _⟩⟩

/-- A tag at the very start is the first one. -/
theorem OccursFirst.eq_nil {rest' : Text} (h : OccursFirst isTag text before rest)
    (hhere : Occurs isTag text [] rest') : before = [] :=
  List.eq_nil_of_length_eq_zero (Nat.le_zero.1 (h.leftmost _ _ hhere))

theorem occursFirst_cons_iff (h : ∀ rest', ¬Occurs isTag (c :: text) [] rest') :
    OccursFirst isTag (c :: text) before rest ↔
      ∃ more, before = c :: more ∧ OccursFirst isTag text more rest := by
  constructor
  · rintro ⟨hoccurs, hleftmost⟩
    rcases occurs_cons_iff.1 hoccurs with ⟨-, hhere⟩ | ⟨more, rfl, hmore⟩
    · exact absurd hhere (h rest)
    · refine ⟨more, rfl, hmore, fun more' rest' hoccurs' => ?_⟩
      have hlength := hleftmost (c :: more') rest' (occurs_cons_iff.2 (.inr ⟨more', rfl, hoccurs'⟩))
      simpa using hlength
  · rintro ⟨more, rfl, hoccurs, hleftmost⟩
    refine ⟨occurs_cons_iff.2 (.inr ⟨more, rfl, hoccurs⟩), fun before' rest' hoccurs' => ?_⟩
    rcases occurs_cons_iff.1 hoccurs' with ⟨-, hhere⟩ | ⟨more', rfl, hmore'⟩
    · exact absurd hhere (h rest')
    · simpa using hleftmost more' rest' hmore'

end

/-! ## What the scans find -/

theorem untilEnd?_eq_some_iff {name text content after : Text} :
    untilEnd? name text = some (content, after) ↔
      OccursFirst (IsEndTag name) text content after := by
  induction text generalizing content after with
  | nil =>
      constructor
      · intro h
        cases h
      · intro h
        exact absurd h.occurs not_occurs_endTag_of_nil
  | cons c text ih =>
      rw [untilEnd?]
      cases hend : endTag? name (c :: text) with
      | some after' =>
          have hhere := occurs_endTag_nil_iff.2 hend
          constructor
          · intro h
            cases h
            exact occursFirst_nil_iff.2 hhere
          · intro h
            obtain rfl := h.eq_nil hhere
            cases (occurs_endTag_nil_iff.1 h.occurs).symm.trans hend
            rfl
      | none =>
          have hno : ∀ rest, ¬Occurs (IsEndTag name) (c :: text) [] rest := by
            intro rest hhere
            cases (occurs_endTag_nil_iff.1 hhere).symm.trans hend
          rw [occursFirst_cons_iff hno]
          simp only [Option.map_eq_some_iff, Prod.exists, ih, Prod.mk.injEq]
          constructor
          · rintro ⟨more, after', hmore, rfl, rfl⟩
            exact ⟨more, rfl, hmore⟩
          · rintro ⟨more, rfl, hmore⟩
            exact ⟨more, after, hmore, rfl, rfl⟩

/-- The first start tag is followed by an end tag. -/
def HasElement (name text : Text) : Prop :=
  ∃ before rest content after, OccursFirst (IsStartTag name) text before rest ∧
    Occurs (IsEndTag name) rest content after

/-- The text from the end of the first start tag up to the first end tag behind it. -/
def IsContent (name text content : Text) : Prop :=
  ∃ before rest after, OccursFirst (IsStartTag name) text before rest ∧
    OccursFirst (IsEndTag name) rest content after

theorem exists_occursFirst {isTag : Text → Prop} {text before rest : Text}
    (h : Occurs isTag text before rest) :
    ∃ before' rest', OccursFirst isTag text before' rest' := by
  induction text generalizing before with
  | nil =>
      obtain ⟨tag, htag, htext⟩ := h
      obtain ⟨hbefore, -⟩ := List.append_eq_nil_iff.1 htext.symm
      obtain ⟨rfl, -⟩ := List.append_eq_nil_iff.1 hbefore
      exact ⟨[], rest, occursFirst_nil_iff.2 ⟨tag, htag, htext⟩⟩
  | cons c text ih =>
      by_cases hhere : ∃ rest', Occurs isTag (c :: text) [] rest'
      · obtain ⟨rest', hhere⟩ := hhere
        exact ⟨[], rest', occursFirst_nil_iff.2 hhere⟩
      · rw [not_exists] at hhere
        rcases occurs_cons_iff.1 h with ⟨-, hnil⟩ | ⟨more, -, hmore⟩
        · exact absurd hnil (hhere rest)
        · obtain ⟨before', rest', hfirst⟩ := ih hmore
          exact ⟨c :: before', rest', (occursFirst_cons_iff hhere).2 ⟨before', rfl, hfirst⟩⟩

theorem hasElement_iff {name text : Text} :
    HasElement name text ↔ ∃ content, IsContent name text content := by
  constructor
  · rintro ⟨before, rest, content, after, hstart, hend⟩
    obtain ⟨content', after', hend'⟩ := exists_occursFirst hend
    exact ⟨content', before, rest, after', hstart, hend'⟩
  · rintro ⟨content, before, rest, after, hstart, hend⟩
    exact ⟨before, rest, content, after, hstart, hend.occurs⟩

theorem element?_content_iff {name text content : Text} :
    (element? name text).map (·.1.content) = some content ↔ IsContent name text content := by
  induction text with
  | nil =>
      constructor
      · intro h
        cases h
      · rintro ⟨before, rest, after, hstart, -⟩
        exact absurd hstart.occurs not_occurs_startTag_of_nil
  | cons c text ih =>
      rw [element?]
      cases hstart : startTag? name (c :: text) with
      | none =>
          have hno : ∀ rest, ¬Occurs (IsStartTag name) (c :: text) [] rest := by
            intro rest hhere
            obtain ⟨attributes, hsome⟩ := occurs_startTag_nil_iff.1 hhere
            cases hsome.symm.trans hstart
          simp only [ih, IsContent, occursFirst_cons_iff hno]
          constructor
          · rintro ⟨before, rest, after, hfirst, hend⟩
            exact ⟨c :: before, rest, after, ⟨before, rfl, hfirst⟩, hend⟩
          · rintro ⟨-, rest, after, ⟨before, -, hfirst⟩, hend⟩
            exact ⟨before, rest, after, hfirst, hend⟩
      | some found =>
          obtain ⟨attributes, behind⟩ := found
          have hhere := occurs_startTag_nil_iff.2 ⟨attributes, hstart⟩
          simp only [Option.map_map, Option.map_eq_some_iff, Prod.exists, Function.comp_apply,
            untilEnd?_eq_some_iff]
          constructor
          · rintro ⟨content', after, hend, rfl⟩
            exact ⟨[], behind, after, occursFirst_nil_iff.2 hhere, hend⟩
          · rintro ⟨before, rest, after, hfirst, hend⟩
            obtain rfl := hfirst.eq_nil hhere
            obtain ⟨attributes', hsome⟩ := occurs_startTag_nil_iff.1 hfirst.occurs
            cases hsome.symm.trans hstart
            exact ⟨content, after, hend, rfl⟩

/-! ## Readings -/

/-- An element can be read behind `before`: a start tag, the content, and an end tag. -/
def Reads (name text before content : Text) : Prop :=
  ∃ rest after, Occurs (IsStartTag name) text before rest ∧
    Occurs (IsEndTag name) rest content after

/-- No reading starts further left, and none from the same place has a shorter content. -/
structure ReadsFirst (name text before content : Text) : Prop where
  reads : Reads name text before content
  leftmost : ∀ before' content', Reads name text before' content' →
    before.length ≤ before'.length
  shortest : ∀ content', Reads name text before content' → content.length ≤ content'.length

/-- What follows the first of some characters reaches at least as far back as what follows
any of them. -/
theorem suffix_of_append_cons_eq {first second rest rest' : Text} {c : Char}
    (h : first ++ c :: rest = second ++ c :: rest') (hc : c ∉ first) : rest' <:+ rest := by
  rcases List.append_eq_append_iff.1 h with ⟨more, -, hmore⟩ | ⟨more, rfl, hmore⟩
  · cases more with
    | nil =>
        cases hmore
        exact List.suffix_rfl
    | cons d more =>
        cases hmore
        exact ⟨more ++ [c], by simp⟩
  · cases more with
    | nil =>
        cases hmore
        exact List.suffix_rfl
    | cons d more =>
        cases hmore
        exact absurd (List.mem_append_right _ List.mem_cons_self) hc

section

variable {name text before rest before' rest' : Text} (hname : '>' ∉ name)

include hname

/-- The first start tag ends no later than any other one. -/
theorem OccursFirst.suffix (hfirst : OccursFirst (IsStartTag name) text before rest)
    (h : Occurs (IsStartTag name) text before' rest') : rest' <:+ rest := by
  have hlength := hfirst.leftmost _ _ h
  obtain ⟨tag, ⟨attributes, rfl, hmark, -⟩, rfl⟩ := hfirst.occurs
  obtain ⟨tag', ⟨attributes', rfl, -, -⟩, htext⟩ := h
  have hopen : '>' ∉ "<" ++ name ++ attributes := by
    simp [hname, hmark]
  -- The places are the same, or the first one is further left by some text.
  obtain ⟨between, hbetween⟩ : ∃ between,
      "<" ++ name ++ attributes ++ '>' :: rest =
        between ++ "<" ++ name ++ attributes' ++ '>' :: rest' := by
    simp only [List.append_assoc] at htext
    rcases List.append_eq_append_iff.1 htext with ⟨between, -, hrest⟩ | ⟨between, rfl, hrest⟩
    · exact ⟨between, by simpa using hrest⟩
    · obtain rfl : between = [] := by
        rw [List.length_append] at hlength
        exact List.eq_nil_of_length_eq_zero (by omega)
      exact ⟨[], by simpa using hrest.symm⟩
  exact suffix_of_append_cons_eq hbetween hopen

theorem Reads.hasElement {content : Text} (h : Reads name text before content) :
    HasElement name text := by
  obtain ⟨rest, after, hstart, tag, htag, rfl⟩ := h
  obtain ⟨before', rest', hfirst⟩ := exists_occursFirst hstart
  obtain ⟨skipped, rfl⟩ := hfirst.suffix hname hstart
  exact ⟨before', _, skipped ++ content, after, hfirst, tag, htag, by simp⟩

theorem hasElement_iff_reads :
    HasElement name text ↔ ∃ before content, Reads name text before content := by
  constructor
  · rintro ⟨before, rest, content, after, hstart, hend⟩
    exact ⟨before, content, rest, after, hstart.occurs, hend⟩
  · rintro ⟨before, content, h⟩
    exact h.hasElement hname

end

/-- There is one start tag at most from one place on. -/
theorem Occurs.startTag_unique {name text before rest rest' : Text}
    (h : Occurs (IsStartTag name) text before rest)
    (h' : Occurs (IsStartTag name) text before rest') : rest = rest' := by
  obtain ⟨tag, htag, rfl⟩ := h
  obtain ⟨tag', htag', htext⟩ := h'
  have hsame : tag ++ rest = tag' ++ rest' := by
    simpa only [List.append_assoc, List.append_cancel_left_eq] using htext
  obtain ⟨attributes, hstart⟩ := occurs_startTag_nil_iff.1 ⟨tag, htag, rfl⟩
  obtain ⟨attributes', hstart'⟩ := occurs_startTag_nil_iff.1 ⟨tag', htag', rfl⟩
  rw [List.nil_append] at hstart hstart'
  rw [hsame] at hstart
  cases hstart.symm.trans hstart'
  rfl

theorem readsFirst_of_first {name text before rest content after : Text}
    (hstart : OccursFirst (IsStartTag name) text before rest)
    (hend : OccursFirst (IsEndTag name) rest content after) :
    ReadsFirst name text before content := by
  refine ⟨⟨rest, after, hstart.occurs, hend.occurs⟩, ?_, ?_⟩
  · rintro before' content' ⟨rest', after', hstart', -⟩
    exact hstart.leftmost _ _ hstart'
  · rintro content' ⟨rest', after', hstart', hend'⟩
    rw [← hstart.occurs.startTag_unique hstart'] at hend'
    exact hend.leftmost _ _ hend'

theorem ReadsFirst.unique {name text before before' content content' : Text}
    (h : ReadsFirst name text before content) (h' : ReadsFirst name text before' content') :
    content = content' := by
  have hplace : before.length = before'.length :=
    Nat.le_antisymm (h.leftmost _ _ h'.reads) (h'.leftmost _ _ h.reads)
  obtain rfl : before = before' := by
    obtain ⟨rest, after, ⟨tag, -, htext⟩, -⟩ := h.reads
    obtain ⟨rest', after', ⟨tag', -, htext'⟩, -⟩ := h'.reads
    rw [List.append_assoc] at htext htext'
    exact (List.append_inj (htext.symm.trans htext') hplace).1
  have hlength : content.length = content'.length :=
    Nat.le_antisymm (h.shortest _ h'.reads) (h'.shortest _ h.reads)
  obtain ⟨rest, after, hstart, tag, -, hrest⟩ := h.reads
  obtain ⟨rest', after', hstart', tag', -, hrest'⟩ := h'.reads
  rw [← hstart.startTag_unique hstart', hrest, List.append_assoc, List.append_assoc] at hrest'
  exact (List.append_inj hrest' hlength).1

theorem isContent_iff_readsFirst {name text content : Text} (hname : '>' ∉ name) :
    IsContent name text content ↔ ∃ before, ReadsFirst name text before content := by
  constructor
  · rintro ⟨before, rest, after, hstart, hend⟩
    exact ⟨before, readsFirst_of_first hstart hend⟩
  · rintro ⟨before, hfirst⟩
    obtain ⟨content', hcontent⟩ := hasElement_iff.1 (hfirst.reads.hasElement hname)
    obtain ⟨before', rest, after, hstart, hend⟩ := hcontent
    rw [hfirst.unique (readsFirst_of_first hstart hend)]
    exact ⟨before', rest, after, hstart, hend⟩

/-! ## The summary -/

theorem summary_cons_of_isContent {block content : Text} (blocks : List Text)
    (h : IsContent "summary" block content) : summary (block :: blocks) = clean content := by
  obtain ⟨⟨element, after⟩, hfound, rfl⟩ := Option.map_eq_some_iff.1 (element?_content_iff.2 h)
  rw [summary, hfound]

theorem summary_cons_of_not_hasElement {block : Text} (blocks : List Text)
    (h : ¬HasElement "summary" block) : summary (block :: blocks) = summary blocks := by
  cases hfound : element? "summary" block with
  | none => rw [summary, hfound]
  | some found =>
      have hcontent : IsContent "summary" block found.1.content :=
        element?_content_iff.1 (by rw [hfound]; rfl)
      exact absurd (hasElement_iff.2 ⟨_, hcontent⟩) h

/-- The summary is the cleaned content between the first tags of the first block in which an
end tag follows the first start tag, and empty if there is no such block.  These are the
blocks in which any element can be read at all, and the content is that of the leftmost
reading, of several from that place the shortest one. -/
theorem summary_by_first_tags (blocks : List Text) :
    ((∃ passed block later content, blocks = passed ++ block :: later ∧
        (∀ other ∈ passed, ¬HasElement "summary" other) ∧
        HasElement "summary" block ∧ IsContent "summary" block content ∧
        summary blocks = clean content) ∨
      (∀ block ∈ blocks, ¬HasElement "summary" block) ∧ summary blocks = []) ∧
    ∀ block,
      (HasElement "summary" block ↔ ∃ before content, Reads "summary" block before content) ∧
      ∀ content, IsContent "summary" block content ↔
        ∃ before, ReadsFirst "summary" block before content := by
  have hname : '>' ∉ ("summary" : Text) := by decide
  refine ⟨?_, fun block => ⟨hasElement_iff_reads hname,
    fun content => isContent_iff_readsFirst hname⟩⟩
  induction blocks with
  | nil => exact .inr ⟨by simp, rfl⟩
  | cons block blocks ih =>
      by_cases hblock : HasElement "summary" block
      · obtain ⟨content, hcontent⟩ := hasElement_iff.1 hblock
        exact .inl ⟨[], block, blocks, content, rfl, by simp, hblock, hcontent,
          summary_cons_of_isContent blocks hcontent⟩
      · rw [summary_cons_of_not_hasElement blocks hblock]
        rcases ih with ⟨passed, found, later, content, rfl, hpassed, hfound⟩ | ⟨hnone, hempty⟩
        · exact .inl ⟨block :: passed, found, later, content, rfl,
            List.forall_mem_cons.2 ⟨hblock, hpassed⟩, hfound⟩
        · exact .inr ⟨List.forall_mem_cons.2 ⟨hblock, hnone⟩, hempty⟩

end ClassWiki.Doc
