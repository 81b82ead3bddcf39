import ClassWiki.Declaration.Parameter
import Mathlib.Data.List.Infix

/-!
# Parameters read back from their line

The line of a parameter list has two ticks for each parameter, around its name.  Between two
names stand the default of the one parameter and the type of the next, with nothing but a comma
and link brackets to part them, and the default may hold these as well.  The type may not, so
that the last of them is the right one.
-/

namespace ClassWiki

/-! ## The last occurrence of a mark -/

namespace Text

/-- What stands in front of the last occurrence of a mark, and what stands behind it. -/
def cutLast? (mark : Text) : Text → Option (Text × Text)
  | [] => none
  | c :: text =>
      match cutLast? mark text with
      | some (before, after) => some (c :: before, after)
      | none => (dropLead? mark (c :: text)).map fun after => ([], after)

theorem cutLast?_eq_none {mark text : Text} (h : ¬mark <:+: text) : cutLast? mark text = none := by
  induction text with
  | nil => rfl
  | cons c text ih =>
      have htext : ¬mark <:+: text := fun hmark => h (List.infix_cons hmark)
      have hhere : dropLead? mark (c :: text) = none := by
        rw [Option.eq_none_iff_forall_ne_some]
        intro after hafter
        rw [dropLead?_eq_some_iff] at hafter
        exact h ⟨[], after, hafter.symm⟩
      rw [cutLast?, ih htext, hhere]
      rfl

theorem cutLast?_append {c : Char} {mark after : Text} (h : ¬(c :: mark) <:+: mark ++ after)
    (before : Text) :
    cutLast? (c :: mark) (before ++ (c :: mark ++ after)) = some (before, after) := by
  induction before with
  | nil =>
      rw [List.nil_append, List.cons_append, cutLast?, cutLast?_eq_none h, ← List.cons_append,
        dropLead?_append]
      rfl
  | cons d before ih => rw [List.cons_append, cutLast?, ih]

end Text

namespace Parameter

open Text

/-! ## The line in pieces -/

def tick : Char := '\x60'

def typeText (parameter : Parameter) : Text := "[[" ++ (parameter.type ++ "]] ")

def valueText (parameter : Parameter) : Text :=
  match parameter.default? with
  | none => []
  | some value => " = " ++ value

theorem text_eq (parameter : Parameter) :
    parameter.text =
      typeText parameter ++ tick :: (parameter.name ++ tick :: valueText parameter) := by
  obtain ⟨name, type, default?⟩ := parameter
  cases default? <;> simp [text, typeText, valueText, tick]

/-- The parts of a line between its ticks, without the first one, which is the type of the
first parameter.  Behind each name follow the default of its parameter and the next type. -/
def pieces : Parameter → List Parameter → List Text
  | first, [] => [first.name, valueText first ++ ")"]
  | first, next :: others =>
      first.name :: (valueText first ++ (", " ++ typeText next)) :: pieces next others

theorem pieces_ne_nil (first : Parameter) (others : List Parameter) :
    pieces first others ≠ [] := by
  cases others <;> simp [pieces]

theorem join_text_eq_join_pieces (first : Parameter) (others : List Parameter) :
    join ", " ((first :: others).map text) ++ ")" =
      join [tick] (typeText first :: pieces first others) := by
  induction others generalizing first with
  | nil => simp [pieces, join, text_eq]
  | cons next others ih =>
      calc join ", " ((first :: next :: others).map text) ++ ")"
        _ = text first ++ (", " ++ (join ", " ((next :: others).map text) ++ ")")) := by
          simp [join]
        _ = typeText first ++ tick :: (first.name ++ tick ::
            (valueText first ++ (", " ++ join [tick] (typeText next :: pieces next others)))) := by
          rw [ih, text_eq]
          simp
        _ = typeText first ++ tick :: (first.name ++ tick ::
            join [tick] ((valueText first ++ (", " ++ typeText next)) ::
              pieces next others)) := by
          rw [join_append_head, join_append_head]
        _ = join [tick] (typeText first :: pieces first (next :: others)) := by
          simp [pieces, join]

theorem listText_cons (first : Parameter) (others : List Parameter) :
    listText (first :: others) = join [tick] (("(" ++ typeText first) :: pieces first others) := by
  rw [join_append_head, ← join_text_eq_join_pieces, listText, List.append_assoc]

/-! ## Reading -/

/-- Read the pieces behind the type of the first parameter. -/
def readPieces (type : Text) : List Text → List Parameter
  | name :: gap :: next :: others =>
      match cutLast? ", [[" gap with
      | some (value, nextType) =>
          ⟨name, type, dropLead? " = " value⟩ ::
            readPieces (dropTail "]] " nextType) (next :: others)
      | none => []
  | [name, last] => [⟨name, type, dropLead? " = " (dropTail ")" last)⟩]
  | _ => []

/-- Read a parameter list from its line. -/
def readList (line : Text) : List Parameter :=
  match splitOn tick line with
  | [] => []
  | lead :: others => readPieces (dropTail "]] " (lead.drop 3)) others

/-- The parameter has no tick, and its type no opening brackets of a link. -/
structure Plain (parameter : Parameter) : Prop where
  name : tick ∉ parameter.name
  type : tick ∉ parameter.type
  value : ∀ value ∈ parameter.default?, tick ∉ value
  unlinked : ¬("[[" : Text) <:+: parameter.type

instance (parameter : Parameter) : Decidable parameter.Plain :=
  decidable_of_iff
    (tick ∉ parameter.name ∧ tick ∉ parameter.type ∧
      (∀ value ∈ parameter.default?, tick ∉ value) ∧ ¬("[[" : Text) <:+: parameter.type)
    ⟨fun ⟨hname, htype, hvalue, hunlinked⟩ => ⟨hname, htype, hvalue, hunlinked⟩,
      fun h => ⟨h.name, h.type, h.value, h.unlinked⟩⟩

theorem dropLead?_valueText (parameter : Parameter) :
    dropLead? " = " (valueText parameter) = parameter.default? := by
  unfold valueText
  cases parameter.default? with
  | none => rfl
  | some value => exact dropLead?_append " = " value

/-- The mark in front of a type is the last one of its gap. -/
theorem Plain.cutLast?_gap {parameter : Parameter} (h : parameter.Plain) (value : Text) :
    cutLast? ", [[" (value ++ (", " ++ typeText parameter)) =
      some (value, parameter.type ++ "]] ") := by
  have honly : ¬(',' :: (" [[" : Text)) <:+: " [[" ++ (parameter.type ++ "]] ") := by
    rintro ⟨lead, rest, hgap⟩
    have hmark : (" [[" ++ parameter.type) ++ "]] " = (lead ++ ", [") ++ '[' :: rest := by
      simpa using hgap.symm
    obtain ⟨more, htype, -⟩ := exists_of_append_eq hmark (by decide)
    -- the first comma is the one of the mark itself, so another mark starts in the type
    match lead with
    | [] => simp at htype
    | [_] => simp at htype
    | [_, _] => simp at htype
    | _ :: _ :: _ :: lead =>
        have hlinked : lead ++ ", " ++ "[[" ++ more = parameter.type := by simp_all
        exact h.unlinked ⟨lead ++ ", ", more, hlinked⟩
  exact cutLast?_append honly value

theorem readPieces_pieces (first : Parameter) {others : List Parameter}
    (h : ∀ parameter ∈ others, parameter.Plain) :
    readPieces first.type (pieces first others) = first :: others := by
  induction others generalizing first with
  | nil => rw [pieces, readPieces, dropTail_append, dropLead?_valueText]
  | cons next others ih =>
      rw [List.forall_mem_cons] at h
      obtain ⟨piece, more, hmore⟩ := List.exists_cons_of_ne_nil (pieces_ne_nil next others)
      rw [pieces, hmore, readPieces, h.1.cutLast?_gap]
      simp only [dropTail_append, dropLead?_valueText]
      rw [← hmore, ih next h.2]

theorem Plain.tick_not_mem_typeText {parameter : Parameter} (h : parameter.Plain) :
    tick ∉ typeText parameter := by
  simpa [typeText, tick] using h.type

theorem Plain.tick_not_mem_valueText {parameter : Parameter} (h : parameter.Plain) :
    tick ∉ valueText parameter := by
  unfold valueText
  cases hdefault : parameter.default? with
  | none => simp
  | some value => simpa [tick] using h.value value hdefault

theorem tick_not_mem_pieces {first : Parameter} {others : List Parameter} (hfirst : first.Plain)
    (h : ∀ parameter ∈ others, parameter.Plain) : ∀ piece ∈ pieces first others, tick ∉ piece := by
  have hclose : tick ∉ (")" : Text) := by decide
  have hcomma : tick ∉ (", " : Text) := by decide
  induction others generalizing first with
  | nil =>
      intro piece hpiece
      rw [pieces, List.mem_pair] at hpiece
      rcases hpiece with rfl | rfl
      · exact hfirst.name
      · exact List.not_mem_append hfirst.tick_not_mem_valueText hclose
  | cons next others ih =>
      rw [List.forall_mem_cons] at h
      rw [pieces, List.forall_mem_cons, List.forall_mem_cons]
      refine ⟨hfirst.name, ?_, ih h.1 h.2⟩
      exact List.not_mem_append hfirst.tick_not_mem_valueText
        (List.not_mem_append hcomma h.1.tick_not_mem_typeText)

theorem readList_listText {parameters : List Parameter}
    (h : ∀ parameter ∈ parameters, parameter.Plain) :
    readList (listText parameters) = parameters := by
  cases parameters with
  | nil => decide
  | cons first others =>
      rw [List.forall_mem_cons] at h
      have hopen : tick ∉ ("(" : Text) := by decide
      have hsplit : splitOn tick (listText (first :: others)) =
          ("(" ++ typeText first) :: pieces first others := by
        rw [listText_cons]
        refine splitOn_join (by simp) (List.forall_mem_cons.2 ⟨?_, tick_not_mem_pieces h.1 h.2⟩)
        exact List.not_mem_append hopen h.1.tick_not_mem_typeText
      have htype : dropTail "]] " (("(" ++ typeText first).drop 3) = first.type :=
        dropTail_append "]] " first.type
      rw [readList, hsplit]
      simp only [htype]
      exact readPieces_pieces first h.2

/-- A list of plain parameters is read back from its line, with every name, type and default,
so that no other such list has the same line. -/
theorem listText_undone {parameters : List Parameter}
    (h : ∀ parameter ∈ parameters, parameter.Plain) :
    readList (listText parameters) = parameters ∧
      ∀ others, (∀ parameter ∈ others, Plain parameter) →
        listText parameters = listText others → parameters = others := by
  refine ⟨readList_listText h, fun others hothers heq => ?_⟩
  calc parameters
    _ = readList (listText parameters) := (readList_listText h).symm
    _ = readList (listText others) := by rw [heq]
    _ = others := readList_listText hothers

namespace Sample

/-- The defaults hold whatever parts one parameter from the next, and one of them is empty. -/
def crowded : List Parameter :=
  [⟨"x", "Map<A, B[]>", some "F(1, [[2]] = 3), [["⟩, ⟨"y", "[a", some ""⟩, ⟨"z", "int", none⟩]

end Sample

theorem listText_undone_sample :
    (∀ parameter ∈ Sample.crowded, parameter.Plain) ∧
      readList "([[Map<A, B[]>]] `x` = F(1, [[2]] = 3), [[, [[[a]] `y` = , [[int]] `z`)" =
        Sample.crowded := by
  have hplain : ∀ parameter ∈ Sample.crowded, parameter.Plain := by decide +kernel
  have hline : listText Sample.crowded =
      "([[Map<A, B[]>]] `x` = F(1, [[2]] = 3), [[, [[[a]] `y` = , [[int]] `z`)" := by
    decide +kernel
  refine ⟨hplain, ?_⟩
  rw [← hline]
  exact (listText_undone hplain).1

/-- Brackets of a link in a type can be taken for those in front of it. -/
example : listText [⟨"x", "A", some "1"⟩, ⟨"y", "B, [[C", none⟩] =
    listText [⟨"x", "A", some "1, [[B"⟩, ⟨"y", "C", none⟩] := by decide +kernel

end Parameter

end ClassWiki
