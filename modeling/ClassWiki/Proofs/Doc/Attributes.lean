import ClassWiki.Proofs.Doc.Untagged

/-!
# Attributes as they are written

A tag holds attributes, each behind blanks, and blanks at its end.  The first attribute is
found in whole.  No end tag starts inside of the attributes, because every attribute ends
with a quote.  In any other text without a `>` the search finds the leftmost attribute, if
there is one.
-/

namespace ClassWiki.Doc

open Text

/-! ## Blanks and words -/

def blankRanges : List (Nat × Nat) :=
  [(0x09, 0x0D), (0x1C, 0x20), (0x85, 0x85), (0xA0, 0xA0), (0x1680, 0x1680), (0x2000, 0x200A),
   (0x2028, 0x2029), (0x202F, 0x202F), (0x205F, 0x205F), (0x3000, 0x3000)]

theorem exists_blankRange {c : Char} (h : isBlank c = true) :
    ∃ range ∈ blankRanges, range.1 ≤ c.toNat ∧ c.toNat ≤ range.2 := by
  simp only [isBlank, Bool.or_eq_true, Bool.and_eq_true, decide_eq_true_eq, beq_iff_eq] at h
  simp only [blankRanges, List.mem_cons, List.not_mem_nil, or_false, exists_eq_or_imp,
    exists_eq_left]
  omega

theorem exists_range_of_inRanges {n : Nat} {ranges : List (Nat × Nat)}
    (h : inRanges n ranges = true) : ∃ range ∈ ranges, range.1 ≤ n ∧ n ≤ range.2 := by
  induction ranges with
  | nil => cases h
  | cons range ranges ih =>
      simp only [inRanges, Bool.and_eq_true, Bool.or_eq_true, decide_eq_true_eq] at h
      rcases h with ⟨hfirst, hlast | hrest⟩
      · exact ⟨range, List.mem_cons_self, hfirst, hlast⟩
      · obtain ⟨other, hother, hbounds⟩ := ih hrest
        exact ⟨other, List.mem_cons_of_mem range hother, hbounds⟩

theorem isWord_of_isBlank {c : Char} (h : isBlank c = true) : isWord c = false := by
  have hapart : ∀ blank ∈ blankRanges, wordRanges.all (fun word =>
      blank.2 < word.1 || word.2 < blank.1) = true := by decide +kernel
  rw [Bool.eq_false_iff]
  intro hword
  obtain ⟨blank, hblank, hlow, hhigh⟩ := exists_blankRange h
  obtain ⟨word, hmem, hlow', hhigh'⟩ := exists_range_of_inRanges hword
  have hranges := List.all_eq_true.1 (hapart blank hblank) word hmem
  simp only [Bool.or_eq_true, decide_eq_true_eq] at hranges
  omega

/-! ## Attributes -/

/-- An attribute as it is written: blanks may stand on both sides of the equals sign. -/
structure Attribute where
  name : Text
  left : Text
  right : Text
  mark : Char
  value : Text
  name_ne_nil : name ≠ []
  name_char : ∀ c ∈ name, isAttributeChar c = true
  left_blank : ∀ c ∈ left, isBlank c = true
  right_blank : ∀ c ∈ right, isBlank c = true
  mark_quote : mark = '\x22' ∨ mark = '\x27'
  mark_not_mem : mark ∉ value
  close_not_mem : '>' ∉ value

def Attribute.text (attr : Attribute) : Text :=
  attr.name ++ attr.left ++ "=" ++ attr.right ++ attr.mark :: attr.value ++ [attr.mark]

/-- What stands in a tag behind its name: attributes, each behind blanks, and blanks. -/
structure AttributeList where
  entries : List (Text × Attribute)
  tail : Text
  lead_blank : ∀ entry ∈ entries, entry.1 ≠ [] ∧ ∀ c ∈ entry.1, isBlank c = true
  tail_blank : ∀ c ∈ tail, isBlank c = true

namespace AttributeList

def text (attributes : AttributeList) : Text :=
  attributes.entries.flatMap (fun entry => entry.1 ++ entry.2.text) ++ attributes.tail

/-- The first attribute as it is written, and nothing when there is none. -/
def first (attributes : AttributeList) : Text :=
  (attributes.entries.head?.map fun entry => entry.2.text).getD []

end AttributeList

theorem isAttributeChar_of_isBlank {c : Char} (h : isBlank c = true) :
    isAttributeChar c = false := by
  have hother : c ≠ ':' ∧ c ≠ '.' ∧ c ≠ '-' := by
    refine ⟨?_, ?_, ?_⟩ <;> rintro rfl <;> cases h
  simp [isAttributeChar, isWord_of_isBlank h, hother]

theorem attribute?_blanks {blanks : Text} (h : ∀ c ∈ blanks, isBlank c = true) (text : Text) :
    attribute? (blanks ++ text) = attribute? text := by
  induction blanks with
  | nil => rfl
  | cons c blanks ih =>
      have hc := isAttributeChar_of_isBlank (h c List.mem_cons_self)
      have hhere : attributeHere? (c :: (blanks ++ text)) = none := by
        simp [attributeHere?, hc]
      rw [List.cons_append, attribute?, hhere]
      exact ih fun d hd => h d (List.mem_cons_of_mem c hd)

theorem quotedValue?_quoted {mark : Char} {value : Text}
    (hquote : mark = '\x22' ∨ mark = '\x27') (hvalue : mark ∉ value) (rest : Text) :
    quotedValue? (mark :: value ++ mark :: rest) = some (mark :: value ++ [mark]) := by
  have hspan : (value ++ mark :: rest).takeWhile (· != mark) = value := by
    refine ((span_eq_iff (by simp)).2 ⟨rfl, fun d hd => ?_⟩).1
    simp only [bne_iff_ne]
    rintro rfl
    exact hvalue hd
  rw [List.cons_append, quotedValue?, hspan]
  simp [hquote]

/-- A run of a class of characters ends where the next character is outside of the class. -/
theorem span_append {inClass : Char → Bool} {run rest : Text}
    (hrun : ∀ c ∈ run, inClass c = true) (hrest : ∀ c, rest.head? = some c → inClass c = false) :
    (run ++ rest).takeWhile inClass = run ∧ (run ++ rest).dropWhile inClass = rest := by
  rw [List.takeWhile_append_of_pos hrun, List.dropWhile_append_of_pos hrun]
  cases rest with
  | nil => simp
  | cons c rest => simp [hrest c rfl]

theorem Attribute.attributeHere?_text (attr : Attribute) (rest : Text) :
    attributeHere? (attr.text ++ rest) = some attr.text := by
  have htext : attr.text ++ rest = attr.name ++ (attr.left ++ '=' ::
      (attr.right ++ (attr.mark :: attr.value ++ attr.mark :: rest))) := by
    simp [Attribute.text]
  generalize hvalue : attr.mark :: attr.value ++ attr.mark :: rest = value at htext
  have hquoted : quotedValue? value = some (attr.mark :: attr.value ++ [attr.mark]) := by
    rw [← hvalue]
    exact quotedValue?_quoted attr.mark_quote attr.mark_not_mem rest
  have hequals : ∀ c, (attr.left ++ '=' :: (attr.right ++ value)).head? = some c →
      isAttributeChar c = false := by
    intro c hc
    cases hleft : attr.left with
    | nil =>
        rw [hleft] at hc
        cases hc
        decide +kernel
    | cons d left =>
        rw [hleft] at hc
        cases hc
        exact isAttributeChar_of_isBlank (attr.left_blank c (by rw [hleft]; simp))
  have hmark : ∀ c, value.head? = some c → isBlank c = false := by
    intro c hc
    rw [← hvalue] at hc
    cases hc
    rcases attr.mark_quote with h | h <;> rw [h] <;> decide
  obtain ⟨hname, hbehind⟩ := span_append attr.name_char hequals
  obtain ⟨hleft, hafter⟩ := (span_eq_iff (by decide)).2
    ⟨(rfl : attr.left ++ '=' :: (attr.right ++ value) = _), attr.left_blank⟩
  obtain ⟨hright, hend⟩ := span_append attr.right_blank hmark
  rw [htext, attributeHere?, hname, hbehind, hleft, hafter]
  cases hne : attr.name with
  | nil => exact absurd hne attr.name_ne_nil
  | cons c more =>
      simp only [hright, hend, hquoted, Option.map_some]
      rw [Attribute.text, hne]
      simp

theorem Attribute.attribute?_text (attr : Attribute) (rest : Text) :
    attribute? (attr.text ++ rest) = some attr.text := by
  have hhere := attr.attributeHere?_text rest
  cases htext : attr.text ++ rest with
  | nil => simp [Attribute.text] at htext
  | cons c more => rw [attribute?, ← htext, hhere]

theorem Attribute.close_not_mem_text (attr : Attribute) : '>' ∉ attr.text := by
  have hname : '>' ∉ attr.name := fun h => by
    have hchar := attr.name_char _ h
    revert hchar
    decide +kernel
  have hleft : '>' ∉ attr.left := fun h => absurd (attr.left_blank _ h) (by decide)
  have hright : '>' ∉ attr.right := fun h => absurd (attr.right_blank _ h) (by decide)
  have hmark : '>' ≠ attr.mark := by
    rcases attr.mark_quote with h | h <;> rw [h] <;> decide
  simp [Attribute.text, hname, hleft, hright, hmark, attr.close_not_mem]

/-- A quote ends the attribute, so no end tag starts in it. -/
theorem Attribute.untilEnd?_text (attr : Attribute) {tag : Text}
    (htag : '\x22' ∉ tag ∧ '\x27' ∉ tag) (rest : Text) :
    untilEnd? tag (attr.text ++ rest) = prepend attr.text (untilEnd? tag rest) := by
  have hmark : isBlank attr.mark = false ∧ attr.mark ∉ "</" ++ tag := by
    rcases attr.mark_quote with h | h <;> rw [h]
    · exact ⟨rfl, by simp [htag.1]⟩
    · exact ⟨rfl, by simp [htag.2]⟩
  refine untilEnd?_skip fun skipped hne hsuffix => ?_
  have hclose : '>' ∉ skipped := fun h => attr.close_not_mem_text (hsuffix.subset h)
  obtain rfl | ⟨lead, rfl, -⟩ := List.suffix_concat_iff.1 hsuffix
  · exact absurd rfl hne
  · exact endTag?_of_mem (by simp) hclose hmark.1 hmark.2

namespace AttributeList

variable (attributes : AttributeList)

theorem close_not_mem : '>' ∉ attributes.text := by
  rw [text, List.mem_append, not_or, List.mem_flatMap]
  refine ⟨?_, fun h => absurd (attributes.tail_blank _ h) (by decide)⟩
  rintro ⟨entry, hentry, hmem⟩
  rcases List.mem_append.1 hmem with h | h
  · exact absurd ((attributes.lead_blank entry hentry).2 _ h) (by decide)
  · exact entry.2.close_not_mem_text h

theorem isBlank_of_head {c : Char} (h : attributes.text.head? = some c) : isBlank c = true := by
  have hlead := attributes.lead_blank
  rw [text] at h
  cases hentries : attributes.entries with
  | nil =>
      rw [hentries] at h
      exact attributes.tail_blank c (List.mem_of_mem_head? h)
  | cons entry entries =>
      rw [hentries] at h hlead
      obtain ⟨hne, hblank⟩ := hlead entry List.mem_cons_self
      cases hblanks : entry.1 with
      | nil => exact absurd hblanks hne
      | cons d blanks =>
          simp only [List.flatMap_cons, hblanks, List.cons_append, List.head?_cons,
            Option.some.injEq] at h
          exact hblank c (by rw [hblanks, h]; exact List.mem_cons_self)

/-- The first attribute is found, also if a slash follows. -/
theorem attribute?_text {rest : Text} (hrest : attribute? rest = none) :
    (attribute? (attributes.text ++ rest)).getD [] = attributes.first := by
  have hlead := attributes.lead_blank
  rw [text, first]
  cases hentries : attributes.entries with
  | nil => simp [attribute?_blanks attributes.tail_blank, hrest]
  | cons entry entries =>
      rw [hentries] at hlead
      have hblank := (hlead entry List.mem_cons_self).2
      simp [attribute?_blanks hblank, Attribute.attribute?_text]

theorem untilEnd?_text {tag : Text} (htag : '\x22' ∉ tag ∧ '\x27' ∉ tag) (rest : Text) :
    untilEnd? tag (attributes.text ++ rest) = prepend attributes.text (untilEnd? tag rest) := by
  have hblanks : ∀ blanks : Text, (∀ c ∈ blanks, isBlank c = true) → '<' ∉ blanks :=
    fun blanks h hmem => absurd (h _ hmem) (by decide)
  have hlead := attributes.lead_blank
  rw [text]
  generalize attributes.entries = entries at hlead ⊢
  induction entries with
  | nil => exact untilEnd?_lead (hblanks _ attributes.tail_blank)
  | cons entry entries ih =>
      have hentry := hblanks _ (hlead entry List.mem_cons_self).2
      have hrest := ih fun other hmem => hlead other (List.mem_cons_of_mem entry hmem)
      simp only [List.flatMap_cons, List.append_assoc] at hrest ⊢
      rw [untilEnd?_lead hentry, entry.2.untilEnd?_text htag, hrest]
      simp only [prepend_append]

end AttributeList

/-! ## The leftmost attribute -/

def HoldsAttribute (text : Text) : Prop :=
  ∃ (attr : Attribute) (before after : Text), text = before ++ attr.text ++ after

/-- The attribute stands in the text, and no attribute starts further to the left. -/
def IsLeftmost (text : Text) (attr : Attribute) : Prop :=
  ∃ before after, text = before ++ attr.text ++ after ∧
    ∀ (other : Attribute) (before' after' : Text), text = before' ++ other.text ++ after' →
      before.length ≤ before'.length

theorem exists_of_quotedValue? {text found : Text} (h : quotedValue? text = some found) :
    ∃ mark value rest, text = mark :: value ++ mark :: rest ∧ found = mark :: value ++ [mark] ∧
      (mark = '\x22' ∨ mark = '\x27') ∧ mark ∉ value := by
  cases text with
  | nil => cases h
  | cons mark more =>
      have hquoted : (mark = '\x22' ∨ mark = '\x27') ∧ mark ∈ more := by
        rw [quotedValue?] at h
        split at h
        · next hmark => simpa using hmark
        · cases h
      obtain ⟨value, rest, rfl, hvalue⟩ := List.eq_append_cons_of_mem hquoted.2
      rw [← List.cons_append, quotedValue?_quoted hquoted.1 hvalue] at h
      cases h
      exact ⟨mark, value, rest, rfl, rfl, hquoted.1, hvalue⟩

theorem exists_of_attributeHere? {text found : Text} (hclose : '>' ∉ text)
    (h : attributeHere? text = some found) :
    ∃ (attr : Attribute) (rest : Text), text = attr.text ++ rest ∧ found = attr.text := by
  simp only [attributeHere?] at h
  split at h
  · next c more after hname hequals =>
      obtain ⟨quoted, hquoted, rfl⟩ := Option.map_eq_some_iff.1 h
      obtain ⟨mark, value, rest, hvalue, rfl, hmark, hout⟩ := exists_of_quotedValue? hquoted
      have hrun : ∀ (inClass : Char → Bool) (part : Text), ∀ d ∈ part.takeWhile inClass,
          inClass d = true := fun inClass part => List.all_eq_true.1 List.all_takeWhile
      -- The text is put together again from the runs that were taken off it.
      have htext : text = text.takeWhile isAttributeChar ++
          ((text.dropWhile isAttributeChar).takeWhile isBlank ++ '=' ::
            (after.takeWhile isBlank ++ (mark :: value ++ mark :: rest))) := by
        rw [← hvalue, List.takeWhile_append_dropWhile, ← hequals,
          List.takeWhile_append_dropWhile, List.takeWhile_append_dropWhile]
      have hvalueClose : '>' ∉ value := by
        intro hmem
        apply hclose
        rw [htext]
        simp [hmem]
      refine ⟨{ name := text.takeWhile isAttributeChar
                left := (text.dropWhile isAttributeChar).takeWhile isBlank
                right := after.takeWhile isBlank
                mark, value
                name_ne_nil := by rw [hname]; simp
                name_char := hrun isAttributeChar text
                left_blank := hrun isBlank _
                right_blank := hrun isBlank _
                mark_quote := hmark
                mark_not_mem := hout
                close_not_mem := hvalueClose }, rest, htext.trans ?_, ?_⟩
      · simp [Attribute.text]
      · simp [Attribute.text]
  · cases h

theorem Attribute.text_ne_nil (attr : Attribute) : attr.text ≠ [] := by
  simp [Attribute.text]

/-- The search ends at the leftmost attribute, or there is none. -/
theorem attribute?_cases {text : Text} (hclose : '>' ∉ text) :
    attribute? text = none ∧ ¬HoldsAttribute text ∨
      ∃ attr, attribute? text = some attr.text ∧ IsLeftmost text attr := by
  induction text with
  | nil =>
      refine .inl ⟨rfl, ?_⟩
      rintro ⟨attr, before, after, htext⟩
      simp [attr.text_ne_nil] at htext
  | cons c text ih =>
      rw [attribute?]
      cases hhere : attributeHere? (c :: text) with
      | some found =>
          obtain ⟨attr, rest, htext, rfl⟩ := exists_of_attributeHere? hclose hhere
          exact .inr ⟨attr, rfl, [], rest, htext, fun _ _ _ _ => Nat.zero_le _⟩
      | none =>
          -- No attribute starts at the first character, so all of them stand behind it.
          have hbehind : ∀ (other : Attribute) (before after : Text),
              c :: text = before ++ other.text ++ after →
                ∃ more, before = c :: more ∧ text = more ++ other.text ++ after := by
            intro other before after htext
            cases before with
            | nil =>
                rw [htext, List.nil_append, other.attributeHere?_text] at hhere
                cases hhere
            | cons d more =>
                obtain ⟨rfl, hrest⟩ := List.cons.inj htext
                exact ⟨more, rfl, hrest⟩
          rcases ih fun hmem => hclose (List.mem_cons_of_mem c hmem) with
            ⟨hnone, hholds⟩ | ⟨attr, hsome, before, after, htext, hleftmost⟩
          · refine .inl ⟨hnone, ?_⟩
            rintro ⟨attr, before, after, htext⟩
            obtain ⟨more, -, hrest⟩ := hbehind attr before after htext
            exact hholds ⟨attr, more, after, hrest⟩
          · refine .inr ⟨attr, hsome, c :: before, after, by rw [htext]; simp, ?_⟩
            intro other before' after' htext'
            obtain ⟨more, rfl, hrest⟩ := hbehind other before' after' htext'
            exact Nat.succ_le_succ (hleftmost other more after' hrest)

theorem IsLeftmost.text_unique {text : Text} {attr attr' : Attribute} (h : IsLeftmost text attr)
    (h' : IsLeftmost text attr') : attr.text = attr'.text := by
  obtain ⟨before, after, htext, hleftmost⟩ := h
  obtain ⟨before', after', htext', hleftmost'⟩ := h'
  have hlength : before.length = before'.length :=
    Nat.le_antisymm (hleftmost attr' before' after' htext') (hleftmost' attr before after htext)
  have hsame : before ++ (attr.text ++ after) = before' ++ (attr'.text ++ after') := by
    rw [← List.append_assoc, ← List.append_assoc, ← htext, ← htext']
  have hbehind := (List.append_inj hsame hlength).2
  have hfound := attr.attributeHere?_text after
  rw [hbehind, attr'.attributeHere?_text] at hfound
  exact (Option.some.inj hfound).symm

end ClassWiki.Doc
