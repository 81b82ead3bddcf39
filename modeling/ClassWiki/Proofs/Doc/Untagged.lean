import ClassWiki.Proofs.Doc.Element

/-!
# Text between tags

A search for a tag passes over text in which none starts, and what it finds behind that text
is what it finds without it.  Whether a tag starts in a text is a question of the text
alone, as long as it is over or a tag follows: no tag has a `<` inside of its name or
directly behind it.
-/

namespace ClassWiki.Doc

open Text

/-! ## Passing over text -/

/-- What is found up to an end tag when the search starts in front of some more text. -/
def prepend (skipped : Text) (found? : Option (Text × Text)) : Option (Text × Text) :=
  found?.map fun found => (skipped ++ found.1, found.2)

theorem prepend_append (first second : Text) (found? : Option (Text × Text)) :
    prepend (first ++ second) found? = prepend first (prepend second found?) := by
  cases found? <;> simp [prepend]

section

variable {name skipped text : Text}

theorem untilEnd?_skip
    (h : ∀ rest, rest ≠ [] → rest <:+ skipped → endTag? name (rest ++ text) = none) :
    untilEnd? name (skipped ++ text) = prepend skipped (untilEnd? name text) := by
  induction skipped with
  | nil => cases h : untilEnd? name text <;> simp [prepend, h]
  | cons c skipped ih =>
      have hhere : endTag? name (c :: (skipped ++ text)) = none :=
        h (c :: skipped) (by simp) List.suffix_rfl
      have hrest := ih fun rest hne hsuffix => h rest hne (hsuffix.trans (List.suffix_cons c _))
      rw [List.cons_append, untilEnd?, hhere, hrest]
      cases untilEnd? name text <;> rfl

theorem element?_skip
    (h : ∀ rest, rest ≠ [] → rest <:+ skipped → startTag? name (rest ++ text) = none) :
    element? name (skipped ++ text) = element? name text := by
  induction skipped with
  | nil => rfl
  | cons c skipped ih =>
      have hhere : startTag? name (c :: (skipped ++ text)) = none :=
        h (c :: skipped) (by simp) List.suffix_rfl
      rw [List.cons_append, element?, hhere]
      exact ih fun rest hne hsuffix => h rest hne (hsuffix.trans (List.suffix_cons c _))

theorem endTag?_of_head {c : Char} (h : c ≠ '<') : endTag? name (c :: text) = none := by
  rw [Option.eq_none_iff_forall_ne_some]
  intro rest htag
  obtain ⟨blanks, htext, -⟩ := endTag?_eq_some_iff.1 htag
  exact h (List.cons.inj htext).1

theorem untilEnd?_lead (h : '<' ∉ skipped) :
    untilEnd? name (skipped ++ text) = prepend skipped (untilEnd? name text) := by
  refine untilEnd?_skip fun rest hne hsuffix => ?_
  cases rest with
  | nil => exact absurd rfl hne
  | cons c rest =>
      refine endTag?_of_head ?_
      rintro rfl
      exact h (hsuffix.subset List.mem_cons_self)

/-- No end tag starts in front of a character that can neither stand in it nor behind it
without a `>` in between. -/
theorem endTag?_of_mem {c : Char} (hmem : c ∈ skipped) (hclose : '>' ∉ skipped)
    (hblank : isBlank c = false) (hword : c ∉ "</" ++ name) :
    endTag? name (skipped ++ text) = none := by
  rw [Option.eq_none_iff_forall_ne_some]
  intro rest htag
  obtain ⟨blanks, htext, hblanks⟩ := endTag?_eq_some_iff.1 htag
  have hout : c ∉ "</" ++ name ++ blanks := by
    rw [List.mem_append, not_or]
    exact ⟨hword, fun hc => Bool.false_ne_true (hblank.symm.trans (hblanks c hc))⟩
  rw [← List.append_assoc] at htext
  rcases List.append_eq_append_iff.1 htext with ⟨more, htag, -⟩ | ⟨more, hskipped, hmore⟩
  · rw [htag] at hout
    exact hout (List.mem_append_left _ hmem)
  · cases more with
    | nil =>
        rw [List.append_nil] at hskipped
        exact hout (hskipped ▸ hmem)
    | cons d more =>
        cases hmore
        rw [hskipped] at hclose
        exact hclose (List.mem_append_right _ List.mem_cons_self)

theorem untilEnd?_endTag : untilEnd? name ("</" ++ name ++ '>' :: text) = some ([], text) := by
  have hend : endTag? name ("</" ++ name ++ '>' :: text) = some text :=
    endTag?_eq_some_iff.2 ⟨[], by simp, by simp⟩
  cases htext : "</" ++ name ++ '>' :: text with
  | nil => simp at htext
  | cons c rest =>
      rw [htext] at hend
      rw [untilEnd?, hend]

end

/-! ## Text without tags -/

/-- Whether a tag may start here with these characters, no matter if it is closed later. -/
def tagAhead (lead text : Text) : Bool :=
  match dropLead? lead text with
  | some (c :: _) => isBlank c || c == '>'
  | _ => false

/-- No start tag and no end tag of the name begins anywhere in the text. -/
def untagged (name : Text) : Text → Bool
  | [] => true
  | c :: rest =>
      !tagAhead ("<" ++ name) (c :: rest) && !tagAhead ("</" ++ name) (c :: rest) &&
        untagged name rest

theorem tagAhead_of_startTag? {name text : Text} {found : Text × Text}
    (h : startTag? name text = some found) : tagAhead ("<" ++ name) text = true := by
  obtain ⟨rfl, -, hblank⟩ := startTag?_eq_some_iff.1 h
  rw [tagAhead, dropLead?_append]
  cases hattributes : found.1 with
  | nil => rfl
  | cons c more => simp [hblank c (by rw [hattributes]; rfl)]

theorem tagAhead_of_endTag? {name text rest : Text} (h : endTag? name text = some rest) :
    tagAhead ("</" ++ name) text = true := by
  obtain ⟨blanks, rfl, hblanks⟩ := endTag?_eq_some_iff.1 h
  rw [tagAhead, dropLead?_append]
  cases blanks with
  | nil => rfl
  | cons c more => simp [hblanks c List.mem_cons_self]

/-- The text is over, or a tag follows. -/
def Bounded (text : Text) : Prop := ∀ c, text.head? = some c → c = '<'

theorem dropLead?_append_bounded {word text : Text} (hword : '<' ∉ word) (htext : Bounded text)
    (rest : Text) : dropLead? word (rest ++ text) = (dropLead? word rest).map (· ++ text) := by
  induction word generalizing rest with
  | nil => rfl
  | cons c word ih =>
      rw [List.mem_cons, not_or] at hword
      cases rest with
      | cons d rest =>
          by_cases h : c = d
          · simp [dropLead?, h, ih hword.2]
          · simp [dropLead?, h]
      | nil =>
          cases text with
          | nil => rfl
          | cons d text =>
              obtain rfl := htext d rfl
              simp [dropLead?, Ne.symm hword.1]

theorem tagAhead_append {word rest text : Text} (hword : '<' ∉ word) (htext : Bounded text)
    (hrest : rest ≠ []) : tagAhead ('<' :: word) (rest ++ text) = tagAhead ('<' :: word) rest := by
  cases rest with
  | nil => exact absurd rfl hrest
  | cons c rest =>
      by_cases hc : '<' = c
      · have hdrop := dropLead?_append_bounded hword htext rest
        simp only [tagAhead, List.cons_append, dropLead?, hc, if_true, hdrop]
        rcases dropLead? word rest with _ | _ | ⟨d, more⟩
        · rfl
        · -- Only the text that follows is left, and no tag has a `<` behind its name.
          cases text with
          | nil => rfl
          | cons d text =>
              obtain rfl := htext d rfl
              rfl
        · rfl
      · simp [tagAhead, dropLead?, hc]

section

variable {name gap text : Text} (hname : '<' ∉ name)

theorem untagged_of_suffix {rest : Text} (hgap : untagged name gap = true) (h : rest <:+ gap) :
    untagged name rest = true := by
  induction gap with
  | nil =>
      obtain rfl := List.suffix_nil.1 h
      rfl
  | cons c gap ih =>
      rcases List.suffix_cons_iff.1 h with rfl | h
      · exact hgap
      · simp only [untagged, Bool.and_eq_true] at hgap
        exact ih hgap.2 h

include hname

/-- Text without tags has none either where it meets the next tag. -/
theorem tagAhead_of_untagged {rest : Text} (hgap : untagged name gap = true)
    (htext : Bounded text) (hne : rest ≠ []) (hsuffix : rest <:+ gap) :
    tagAhead ("<" ++ name) (rest ++ text) = false ∧
      tagAhead ("</" ++ name) (rest ++ text) = false := by
  have hend : '<' ∉ '/' :: name := by simp [hname]
  have hrest := untagged_of_suffix hgap hsuffix
  cases rest with
  | nil => exact absurd rfl hne
  | cons c rest =>
      simp only [untagged, Bool.and_eq_true, Bool.not_eq_true'] at hrest
      exact ⟨(tagAhead_append hname htext hne).trans hrest.1.1,
        (tagAhead_append hend htext hne).trans hrest.1.2⟩

theorem element?_untagged (hgap : untagged name gap = true) (htext : Bounded text) :
    element? name (gap ++ text) = element? name text := by
  refine element?_skip fun rest hne hsuffix => ?_
  rw [Option.eq_none_iff_forall_ne_some]
  intro found hfound
  have hahead := (tagAhead_of_untagged hname hgap htext hne hsuffix).1
  exact Bool.false_ne_true (hahead.symm.trans (tagAhead_of_startTag? hfound))

theorem untilEnd?_untagged (hgap : untagged name gap = true) (htext : Bounded text) :
    untilEnd? name (gap ++ text) = prepend gap (untilEnd? name text) := by
  refine untilEnd?_skip fun rest hne hsuffix => ?_
  rw [Option.eq_none_iff_forall_ne_some]
  intro after hafter
  have hahead := (tagAhead_of_untagged hname hgap htext hne hsuffix).2
  exact Bool.false_ne_true (hahead.symm.trans (tagAhead_of_endTag? hafter))

end

end ClassWiki.Doc
