import ClassWiki.Proofs.Doc.Content
import ClassWiki.Proofs.Link.Recovery

/-!
# Types recovered from namespace links

The link of a qualified type is made by three replacements, one after the other.  None of them
meets a character that an earlier one has put in, so that together they are one substitution,
character by character.  The images are told apart by how they start, and a text that has no
character of this kind itself is read back from its link.
-/

namespace ClassWiki.Link

open Text

/-! ## One substitution in place of three -/

/-- What a character of a type becomes in a namespace link. -/
def escape : Char → Text
  | '<' => "&lt;"
  | '>' => "&gt;"
  | '.' => "/"
  | c => [c]

/-- Every character is one of the three that have an image, or stays as it is. -/
theorem escape_cases (c : Char) :
    c = '<' ∨ c = '>' ∨ c = '.' ∨ (c ≠ '<' ∧ c ≠ '>' ∧ c ≠ '.') ∧ escape c = [c] := by
  unfold escape
  split
  · exact .inl rfl
  · exact .inr (.inl rfl)
  · exact .inr (.inr (.inl rfl))
  · next hopen hclose hdot => exact .inr (.inr (.inr ⟨⟨hopen, hclose, hdot⟩, rfl⟩))

theorem replace_flatMap (c : Char) (image : Text) (f : Char → Text) (text : Text) :
    replace c image (text.flatMap f) = text.flatMap fun d => replace c image (f d) := by
  simp only [replace, List.flatMap_assoc]

theorem replace_singleton_of_ne {c d : Char} (h : d ≠ c) (image : Text) :
    replace c image [d] = [d] := by
  simp [replace, h]

/-- Of one character the three replacements make what the substitution makes of it. -/
theorem replace_singleton_eq_escape (c : Char) :
    replace '.' "/" (replace '>' "&gt;" (replace '<' "&lt;" [c])) = escape c := by
  rcases escape_cases c with rfl | rfl | rfl | ⟨⟨hopen, hclose, hdot⟩, hkept⟩
  · rfl
  · rfl
  · rfl
  · rw [replace_singleton_of_ne hopen, replace_singleton_of_ne hclose,
      replace_singleton_of_ne hdot, hkept]

theorem replace_eq_flatMap_escape (text : Text) :
    replace '.' "/" (replace '>' "&gt;" (replace '<' "&lt;" text)) = text.flatMap escape := by
  have hchars : text = text.flatMap fun c => [c] := by simp
  calc replace '.' "/" (replace '>' "&gt;" (replace '<' "&lt;" text))
    _ = replace '.' "/" (replace '>' "&gt;" (replace '<' "&lt;" (text.flatMap fun c => [c]))) := by
      rw [← hchars]
    _ = text.flatMap fun c =>
        replace '.' "/" (replace '>' "&gt;" (replace '<' "&lt;" [c])) := by
      simp only [replace_flatMap]
    _ = text.flatMap escape := by simp only [replace_singleton_eq_escape]

/-- The three characters that a namespace link has in no target. -/
theorem not_mem_escape (c : Char) : '<' ∉ escape c ∧ '>' ∉ escape c ∧ '.' ∉ escape c := by
  rcases escape_cases c with rfl | rfl | rfl | ⟨⟨hopen, hclose, hdot⟩, hkept⟩
  · decide
  · decide
  · decide
  · rw [hkept]
    simp [Ne.symm hopen, Ne.symm hclose, Ne.symm hdot]

/-! ## The substitution undone -/

def unescape : Text → Text
  | [] => []
  | '&' :: 'l' :: 't' :: ';' :: rest => '<' :: unescape rest
  | '&' :: 'g' :: 't' :: ';' :: rest => '>' :: unescape rest
  | '/' :: rest => '.' :: unescape rest
  | c :: rest => c :: unescape rest

theorem unescape_cons_of_ne {c : Char} (hand : c ≠ '&') (hslash : c ≠ '/') (rest : Text) :
    unescape (c :: rest) = c :: unescape rest := by
  rw [unescape]
  · rintro more rfl
    exact absurd rfl hand
  · rintro more rfl
    exact absurd rfl hand
  · rintro rfl
    exact absurd rfl hslash

/-- The text has no character with which the image of another one starts. -/
def Unreserved (text : Text) : Prop := '&' ∉ text ∧ '/' ∉ text

instance (text : Text) : Decidable (Unreserved text) :=
  inferInstanceAs (Decidable ('&' ∉ text ∧ '/' ∉ text))

theorem Unreserved.strip {text : Text} (h : Unreserved text) : Unreserved (strip text) :=
  ⟨fun hand => h.1 (mem_of_mem_strip hand), fun hslash => h.2 (mem_of_mem_strip hslash)⟩

theorem unescape_escape_append {c : Char} (hand : c ≠ '&') (hslash : c ≠ '/') (rest : Text) :
    unescape (escape c ++ rest) = c :: unescape rest := by
  rcases escape_cases c with rfl | rfl | rfl | ⟨-, hkept⟩
  · rfl
  · rfl
  · rfl
  · rw [hkept, List.singleton_append, unescape_cons_of_ne hand hslash]

theorem unescape_flatMap_escape {text : Text} (h : Unreserved text) :
    unescape (text.flatMap escape) = text := by
  induction text with
  | nil => rfl
  | cons c text ih =>
      obtain ⟨hand, hslash⟩ := h
      rw [List.mem_cons, not_or] at hand hslash
      rw [List.flatMap_cons, unescape_escape_append (Ne.symm hand.1) (Ne.symm hslash.1),
        ih ⟨hand.2, hslash.2⟩]

/-! ## Namespace links -/

theorem ofQualified_eq (type : Text) :
    ofQualified type = wrap (type.strip.flatMap escape) := by
  rw [ofQualified, replace_eq_flatMap_escape]

theorem unescape_unwrap_ofQualified {type : Text} (h : Unreserved type) :
    unescape (unwrap (ofQualified type)) = type.strip := by
  rw [ofQualified_eq, unwrap_wrap, unescape_flatMap_escape h.strip]

/-- The target of a namespace link has no angle bracket and no dot, and it is made by one
substitution.  A type without the characters that start an image is recovered from its link
up to the blanks around it, so that two such types with the same link are the same. -/
theorem ofQualified_undone (type : Text) :
    (∃ target, ofQualified type = wrap target ∧ target = type.strip.flatMap escape ∧
      '<' ∉ target ∧ '>' ∉ target ∧ '.' ∉ target) ∧
    (∀ text, replace '.' "/" (replace '>' "&gt;" (replace '<' "&lt;" text)) =
      text.flatMap escape) ∧
    (Unreserved type →
      unescape (unwrap (ofQualified type)) = type.strip ∧
      ∀ type', Unreserved type' → ofQualified type = ofQualified type' →
        type.strip = type'.strip) := by
  refine ⟨⟨_, ofQualified_eq type, rfl, ?_⟩, replace_eq_flatMap_escape, ?_⟩
  · simp only [List.mem_flatMap, not_exists, not_and]
    exact ⟨fun c _ => (not_mem_escape c).1, fun c _ => (not_mem_escape c).2.1,
      fun c _ => (not_mem_escape c).2.2⟩
  · intro h
    refine ⟨unescape_unwrap_ofQualified h, fun type' h' heq => ?_⟩
    calc type.strip
      _ = unescape (unwrap (ofQualified type)) := (unescape_unwrap_ofQualified h).symm
      _ = unescape (unwrap (ofQualified type')) := by rw [heq]
      _ = type'.strip := unescape_unwrap_ofQualified h'

/-- Letters and a semicolon of an image may stand in the type itself. -/
theorem ofQualified_undone_sample :
    Unreserved " N.lt;<A.gt;>\t" ∧ Unreserved "N.lt;<A.gt;>" ∧
      ofQualified " N.lt;<A.gt;>\t" = "[[N/lt;&lt;A/gt;&gt;]]" ∧
      unescape (unwrap "[[N/lt;&lt;A/gt;&gt;]]") = "N.lt;<A.gt;>" ∧
      strip " N.lt;<A.gt;>\t" = strip "N.lt;<A.gt;>" := by
  have hspaced : Unreserved " N.lt;<A.gt;>\t" := by decide +kernel
  have hplain : Unreserved "N.lt;<A.gt;>" := by decide +kernel
  have hlink : ofQualified " N.lt;<A.gt;>\t" = "[[N/lt;&lt;A/gt;&gt;]]" := by decide +kernel
  have hlink' : ofQualified "N.lt;<A.gt;>" = "[[N/lt;&lt;A/gt;&gt;]]" := by decide +kernel
  obtain ⟨hundone, hsame⟩ := (ofQualified_undone " N.lt;<A.gt;>\t").2.2 hspaced
  refine ⟨hspaced, hplain, hlink, ?_, hsame _ hplain (hlink.trans hlink'.symm)⟩
  rw [← hlink, hundone]
  decide +kernel

end ClassWiki.Link
