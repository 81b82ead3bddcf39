import ClassWiki.Conversion
import ClassWiki.Proofs.Store.Search

/-!
# Where pages go

A page is written at the path of its name below the output folder.  Whatever the name
holds, the last part of that path ends in `.md`, so a page never takes the place of a
source.  A name without slashes is the whole of that part, and then different names
have different pages.
-/

namespace ClassWiki

/-! ## Parts of a name -/

namespace Text

theorem splitOn_append {separator : Char} {tail : Text} (h : separator ∉ tail) (text : Text) :
    ∃ front last, splitOn separator (text ++ tail) = front ++ [last ++ tail] := by
  induction text with
  | nil => exact ⟨[], [], splitOn_of_not_mem h⟩
  | cons c text ih =>
      obtain ⟨front, last, hsplit⟩ := ih
      rw [List.cons_append, splitOn, hsplit]
      split
      · exact ⟨[] :: front, last, rfl⟩
      · cases front with
        | nil => exact ⟨[], c :: last, rfl⟩
        | cons part front => exact ⟨(c :: part) :: front, last, rfl⟩

end Text

namespace Path

private theorem isPart_ending (last : Text) :
    (!(last ++ (".md" : Text)).isEmpty && (last ++ (".md" : Text)) != ".") = true := by
  have hdot : last ++ (".md" : Text) ≠ "." := by
    intro heq
    have hlength := congrArg List.length heq
    simp at hlength
  simpa using hdot

private theorem ending_ne_dots (last : Text) : last ++ (".md" : Text) ≠ ".." := by
  intro heq
  have hlength := congrArg List.length heq
  simp at hlength

private theorem partsOf_ending (name : Text) :
    ∃ front last, partsOf (name ++ ".md") = front ++ [last ++ (".md" : Text)] := by
  have hslash : '/' ∉ (".md" : Text) := by decide
  obtain ⟨front, last, hsplit⟩ := Text.splitOn_append hslash name
  refine ⟨front.filter fun part => !part.isEmpty && part != ".", last, ?_⟩
  rw [partsOf, hsplit, List.filter_append]
  congr 1
  simp only [List.filter_cons, isPart_ending, if_true, List.filter_nil]

/-- No page is a source, whatever its name. -/
theorem isSource_location_child (out : Path) (name : Text) :
    Store.isSource (out.child (name ++ ".md")).location = false := by
  obtain ⟨front, last, hparts⟩ := partsOf_ending name
  obtain ⟨anchor, lead, hchild⟩ : ∃ anchor lead, out.child (name ++ ".md") =
      ⟨anchor, (lead ++ front) ++ [last ++ (".md" : Text)]⟩ := by
    unfold child
    split
    · exact ⟨out.anchor, out.parts, by rw [hparts, List.append_assoc]⟩
    · exact ⟨_, [], by rw [hparts, List.nil_append]⟩
  rw [hchild, location_concat _ _ (ending_ne_dots last)]
  have hending : (".cs" : Text).isSuffixOf (last ++ (".md" : Text)) = false := by
    rw [Bool.eq_false_iff]
    intro hsuffix
    obtain ⟨rest, hrest⟩ := List.isSuffixOf_iff_suffix.1 hsuffix
    have htails := List.append_inj_right' hrest (by simp)
    simp at htails
  simpa [Store.isSource, Store.isSourceName] using hending

/-- The page of a name without slashes stands in the output folder under that name. -/
theorem location_child (out : Path) {name : Text} (h : '/' ∉ name) :
    (out.child (name ++ ".md")).location = out.location ++ [name ++ (".md" : Text)] := by
  have hslash : '/' ∉ name ++ (".md" : Text) := by
    rw [List.mem_append, not_or]
    exact ⟨h, by decide⟩
  have hparts : partsOf (name ++ ".md") = [name ++ (".md" : Text)] := by
    rw [partsOf, Text.splitOn_of_not_mem hslash]
    simp only [List.filter_cons, isPart_ending, if_true, List.filter_nil]
  have hanchor : anchorOf out.anchor.start (name ++ ".md") = .here out.anchor.start := by
    have hnone : (name ++ (".md" : Text)).takeWhile (· == '/') = [] := by
      cases htext : name ++ (".md" : Text) with
      | nil => rfl
      | cons c rest =>
          rw [htext, List.mem_cons, not_or] at hslash
          rw [List.takeWhile_cons_of_neg]
          simpa using Ne.symm hslash.1
    rw [anchorOf, hnone]
    rfl
  rw [child, hanchor, hparts]
  exact location_concat out.anchor out.parts (ending_ne_dots name)

theorem location_child_inj {out : Path} {first second : Text} (hfirst : '/' ∉ first)
    (hsecond : '/' ∉ second)
    (h : (out.child (first ++ ".md")).location = (out.child (second ++ ".md")).location) :
    first = second := by
  rw [location_child out hfirst, location_child out hsecond] at h
  have hnames : first ++ (".md" : Text) = second ++ (".md" : Text) := by simpa using h
  exact List.append_cancel_right hnames

end Path

end ClassWiki
