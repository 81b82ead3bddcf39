import ClassWiki.Doc.Element

/-!
# Where elements end

A tag ends with the first `>` behind its name.  So an element is found, or missed, no
matter which text without `<` stands in front of it and which text without `>` follows.
-/

namespace ClassWiki.Doc

open Text

/-! ## Tags -/

theorem startTag?_eq_some_iff {name text attributes rest : Text} :
    startTag? name text = some (attributes, rest) ↔
      text = "<" ++ name ++ (attributes ++ '>' :: rest) ∧ '>' ∉ attributes ∧
        ∀ c, attributes.head? = some c → isBlank c = true := by
  have hclass : ∀ attributes : Text,
      (∀ c ∈ attributes, (c != '>') = true) ↔ '>' ∉ attributes := by
    intro attributes
    simp only [bne_iff_ne]
    exact ⟨fun h hmem => h _ hmem rfl, fun h c hc heq => h (heq ▸ hc)⟩
  constructor
  · intro h
    unfold startTag? at h
    split at h
    · cases h
    · next tail hlead =>
        rw [dropLead?_eq_some_iff.1 hlead]
        split at h
        · next after htake hdrop =>
            cases h
            obtain ⟨rfl, -⟩ := (span_eq_iff rfl).1 ⟨htake, hdrop⟩
            exact ⟨rfl, by simp, by simp⟩
        · next c more after htake hdrop =>
            obtain ⟨rfl, hmore⟩ := (span_eq_iff rfl).1 ⟨htake, hdrop⟩
            split at h
            · next hblank =>
                cases h
                exact ⟨rfl, (hclass _).1 hmore, by simpa using hblank⟩
            · cases h
        · cases h
  · rintro ⟨rfl, hmark, hblank⟩
    have hspan : (attributes ++ '>' :: rest).takeWhile (· != '>') = attributes ∧
        (attributes ++ '>' :: rest).dropWhile (· != '>') = '>' :: rest :=
      (span_eq_iff rfl).2 ⟨rfl, (hclass attributes).2 hmark⟩
    unfold startTag?
    rw [dropLead?_append]
    simp only [hspan]
    cases attributes with
    | nil => rfl
    | cons c more => simp [hblank c rfl]

theorem endTag?_eq_some_iff {name text rest : Text} :
    endTag? name text = some rest ↔
      ∃ blanks, text = "</" ++ name ++ (blanks ++ '>' :: rest) ∧
        ∀ c ∈ blanks, isBlank c = true := by
  constructor
  · intro h
    unfold endTag? at h
    split at h
    · cases h
    · next tail hlead =>
        rw [dropLead?_eq_some_iff.1 hlead]
        split at h
        · next after hdrop =>
            cases h
            obtain ⟨htail, hblanks⟩ := (span_eq_iff (by decide)).1 ⟨rfl, hdrop⟩
            exact ⟨_, by rw [← htail], hblanks⟩
        · cases h
  · rintro ⟨blanks, rfl, hblanks⟩
    have hspan : (blanks ++ '>' :: rest).takeWhile isBlank = blanks ∧
        (blanks ++ '>' :: rest).dropWhile isBlank = '>' :: rest :=
      (span_eq_iff (by decide)).2 ⟨rfl, hblanks⟩
    unfold endTag?
    rw [dropLead?_append]
    simp only [hspan]

theorem elements_of_none {name text : Text} (h : element? name text = none) :
    elements name text = [] := by
  rw [elements]
  split
  · rfl
  · next hsome => cases hsome.symm.trans h

theorem elements_of_some {name text rest : Text} {element : Element}
    (h : element? name text = some (element, rest)) :
    elements name text = element :: elements name rest := by
  rw [elements]
  split
  · next hnone => cases hnone.symm.trans h
  · next hsome =>
      cases hsome.symm.trans h
      rfl

/-! ## Text behind an element -/

section

variable {tail : Text} (htail : '>' ∉ tail)

include htail

theorem startTag?_append (name text : Text) :
    startTag? name (text ++ tail) =
      (startTag? name text).map fun found => (found.1, found.2 ++ tail) := by
  cases hfound : startTag? name text with
  | some found =>
      obtain ⟨rfl, hmark, hblank⟩ := startTag?_eq_some_iff.1 hfound
      exact startTag?_eq_some_iff.2 ⟨by simp, hmark, hblank⟩
  | none =>
      rw [Option.map_none, Option.eq_none_iff_forall_ne_some]
      rintro ⟨attributes, rest⟩ htag
      obtain ⟨htext, hmark, hblank⟩ := startTag?_eq_some_iff.1 htag
      rw [← List.append_assoc] at htext
      obtain ⟨more, rfl, -⟩ := exists_of_append_eq htext htail
      have hstart : startTag? name ("<" ++ name ++ attributes ++ '>' :: more) =
          some (attributes, more) :=
        startTag?_eq_some_iff.2 ⟨List.append_assoc .., hmark, hblank⟩
      cases hstart.symm.trans hfound

theorem endTag?_append (name text : Text) :
    endTag? name (text ++ tail) = (endTag? name text).map (· ++ tail) := by
  cases hfound : endTag? name text with
  | some rest =>
      obtain ⟨blanks, rfl, hblanks⟩ := endTag?_eq_some_iff.1 hfound
      exact endTag?_eq_some_iff.2 ⟨blanks, by simp, hblanks⟩
  | none =>
      rw [Option.map_none, Option.eq_none_iff_forall_ne_some]
      intro rest htag
      obtain ⟨blanks, htext, hblanks⟩ := endTag?_eq_some_iff.1 htag
      rw [← List.append_assoc] at htext
      obtain ⟨more, rfl, -⟩ := exists_of_append_eq htext htail
      have hend : endTag? name ("</" ++ name ++ blanks ++ '>' :: more) = some more :=
        endTag?_eq_some_iff.2 ⟨blanks, List.append_assoc .., hblanks⟩
      cases hend.symm.trans hfound

theorem untilEnd?_append (name text : Text) :
    untilEnd? name (text ++ tail) =
      (untilEnd? name text).map fun found => (found.1, found.2 ++ tail) := by
  induction text with
  | nil =>
      -- No tag starts in the tail: it has no mark to end with.
      induction tail with
      | nil => rfl
      | cons c tail ih =>
          have hend := endTag?_append htail name []
          have hnone : untilEnd? name tail = none :=
            ih fun hmem => htail (List.mem_cons_of_mem c hmem)
          simp only [List.nil_append] at hend ⊢
          simp only [untilEnd?, hend, hnone]
          rfl
  | cons c text ih =>
      have hend := endTag?_append htail name (c :: text)
      rw [List.cons_append] at hend ⊢
      rw [untilEnd?, untilEnd?, hend, ih]
      cases endTag? name (c :: text) with
      | some after => rfl
      | none => cases untilEnd? name text <;> rfl

theorem element?_append (name text : Text) :
    element? name (text ++ tail) =
      (element? name text).map fun found => (found.1, found.2 ++ tail) := by
  induction text with
  | nil =>
      induction tail with
      | nil => rfl
      | cons c tail ih =>
          have hstart := startTag?_append htail name []
          simp only [List.nil_append] at hstart ⊢
          simp only [element?, hstart]
          exact ih fun hmem => htail (List.mem_cons_of_mem c hmem)
  | cons c text ih =>
      have hstart := startTag?_append htail name (c :: text)
      rw [List.cons_append] at hstart ⊢
      rw [element?, element?, hstart]
      cases startTag? name (c :: text) with
      | none => exact ih
      | some found =>
          simp only [Option.map_some, untilEnd?_append htail]
          cases untilEnd? name found.2 <;> rfl

theorem elements_append (name text : Text) :
    elements name (text ++ tail) = elements name text := by
  fun_induction elements name text with
  | case1 text hnone =>
      have happend := element?_append htail name text
      rw [hnone] at happend
      exact elements_of_none happend
  | case2 text element rest hsome ih =>
      have happend := element?_append htail name text
      rw [hsome] at happend
      rw [elements_of_some happend, ih]

end

/-! ## Text in front of an element -/

theorem element?_lead {lead : Text} (h : '<' ∉ lead) (name text : Text) :
    element? name (lead ++ text) = element? name text := by
  induction lead with
  | nil => rfl
  | cons c lead ih =>
      rw [List.mem_cons, not_or] at h
      have hstart : startTag? name (c :: (lead ++ text)) = none := by
        rw [Option.eq_none_iff_forall_ne_some]
        rintro ⟨attributes, rest⟩ htag
        obtain ⟨htext, -⟩ := startTag?_eq_some_iff.1 htag
        exact h.1 (List.cons.inj htext).1.symm
      rw [List.cons_append, element?, hstart]
      exact ih h.2

theorem elements_lead {lead : Text} (h : '<' ∉ lead) (name text : Text) :
    elements name (lead ++ text) = elements name text := by
  have hlead := element?_lead h name text
  cases hfound : element? name text with
  | none =>
      rw [hfound] at hlead
      rw [elements_of_none hlead, elements_of_none hfound]
  | some found =>
      rw [hfound] at hlead
      rw [elements_of_some hlead, elements_of_some hfound]

end ClassWiki.Doc
