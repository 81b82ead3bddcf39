/-!
# Text

A text is a list of characters, and a string literal stands for its characters
wherever a text is expected.  The operations here are the ones that every other
module needs: joining parts, and taking a known piece off either end.
-/

namespace ClassWiki

abbrev Text := List Char

instance : Coe String Text := ⟨String.toList⟩

namespace Text

/-! ## Parts -/

def join (separator : Text) : List Text → Text
  | [] => []
  | [part] => part
  | part :: next :: parts => part ++ separator ++ join separator (next :: parts)

@[simp] theorem join_nil (separator : Text) : join separator [] = [] := rfl

@[simp] theorem join_singleton (separator part : Text) :
    join separator [part] = part := rfl

theorem join_cons_of_ne_nil (separator part : Text) {parts : List Text}
    (h : parts ≠ []) :
    join separator (part :: parts) = part ++ separator ++ join separator parts := by
  cases parts with
  | nil => exact absurd rfl h
  | cons next parts => rfl

theorem join_append_head (separator lead part : Text) (parts : List Text) :
    join separator ((lead ++ part) :: parts) = lead ++ join separator (part :: parts) := by
  cases parts <;> simp [join]

theorem join_append (separator : Text) {first second : List Text} (hfirst : first ≠ [])
    (hsecond : second ≠ []) :
    join separator (first ++ second) =
      join separator first ++ separator ++ join separator second := by
  induction first with
  | nil => exact absurd rfl hfirst
  | cons part first ih =>
      cases first with
      | nil => exact join_cons_of_ne_nil separator part hsecond
      | cons next first =>
          calc join separator (part :: next :: first ++ second)
            _ = part ++ separator ++ join separator (next :: first ++ second) := rfl
            _ = part ++ separator ++
                (join separator (next :: first) ++ separator ++ join separator second) := by
              rw [ih (by simp)]
            _ = join separator (part :: next :: first) ++ separator ++
                join separator second := by simp only [join, List.append_assoc]

def extend (c : Char) : List Text → List Text
  | [] => [[c]]
  | part :: parts => (c :: part) :: parts

@[simp] theorem extend_ne_nil (c : Char) (parts : List Text) :
    extend c parts ≠ [] := by
  cases parts <;> simp [extend]

theorem join_extend (separator : Text) (c : Char) (parts : List Text) :
    join separator (extend c parts) = c :: join separator parts := by
  cases parts with
  | nil => rfl
  | cons part parts => cases parts <;> rfl

def splitOn (separator : Char) : Text → List Text
  | [] => [[]]
  | c :: text =>
      if c = separator then [] :: splitOn separator text
      else extend c (splitOn separator text)

@[simp] theorem splitOn_ne_nil (separator : Char) (text : Text) :
    splitOn separator text ≠ [] := by
  cases text with
  | nil => simp [splitOn]
  | cons c text =>
      rw [splitOn]
      split <;> simp

theorem join_splitOn (separator : Char) (text : Text) :
    join [separator] (splitOn separator text) = text := by
  induction text with
  | nil => rfl
  | cons c text ih =>
      rw [splitOn]
      split
      · next h => rw [join_cons_of_ne_nil _ _ (by simp), ih, h]; rfl
      · rw [join_extend, ih]

theorem splitOn_of_not_mem {separator : Char} {text : Text} (h : separator ∉ text) :
    splitOn separator text = [text] := by
  induction text with
  | nil => rfl
  | cons c text ih =>
      rw [List.mem_cons, not_or] at h
      rw [splitOn, if_neg (Ne.symm h.1), ih h.2]
      rfl

theorem splitOn_append_separator {separator : Char} {text : Text} (h : separator ∉ text)
    (rest : Text) :
    splitOn separator (text ++ separator :: rest) = text :: splitOn separator rest := by
  induction text with
  | nil => simp [splitOn]
  | cons c text ih =>
      rw [List.mem_cons, not_or] at h
      rw [List.cons_append, splitOn, if_neg (Ne.symm h.1), ih h.2]
      rfl

theorem splitOn_join {separator : Char} {parts : List Text} (hparts : parts ≠ [])
    (h : ∀ part ∈ parts, separator ∉ part) :
    splitOn separator (join [separator] parts) = parts := by
  induction parts with
  | nil => exact absurd rfl hparts
  | cons part parts ih =>
      have hpart : separator ∉ part := h part List.mem_cons_self
      by_cases hmore : parts = []
      · subst hmore
        exact splitOn_of_not_mem hpart
      · rw [join_cons_of_ne_nil _ _ hmore, List.append_assoc, List.singleton_append,
          splitOn_append_separator hpart,
          ih hmore fun other hother => h other (List.mem_cons_of_mem _ hother)]

def unlines (lines : List Text) : Text := join "\n" lines

/-! ## Known ends -/

/-- What follows `lead`, when the text starts with it. -/
def dropLead? : Text → Text → Option Text
  | [], text => some text
  | _ :: _, [] => none
  | c :: lead, d :: text => if c = d then dropLead? lead text else none

theorem dropLead?_eq_some_iff {lead text rest : Text} :
    dropLead? lead text = some rest ↔ text = lead ++ rest := by
  induction lead generalizing text with
  | nil => simp [dropLead?]
  | cons c lead ih =>
      cases text with
      | nil => simp [dropLead?]
      | cons d text =>
          by_cases h : c = d
          · simp [dropLead?, h, ih]
          · simp [dropLead?, h, Ne.symm h]

@[simp] theorem dropLead?_append (lead rest : Text) :
    dropLead? lead (lead ++ rest) = some rest :=
  dropLead?_eq_some_iff.2 rfl

def dropTail (tail text : Text) : Text :=
  if tail.isSuffixOf text then text.take (text.length - tail.length) else text

@[simp] theorem dropTail_append (tail text : Text) :
    dropTail tail (text ++ tail) = text := by
  simp [dropTail]

/-! ## Spans -/

theorem span_eq_iff {inClass : Char → Bool} {text before rest : Text} {c : Char}
    (hc : inClass c = false) :
    text.takeWhile inClass = before ∧ text.dropWhile inClass = c :: rest ↔
      text = before ++ c :: rest ∧ ∀ d ∈ before, inClass d = true := by
  constructor
  · rintro ⟨rfl, hrest⟩
    constructor
    · rw [← hrest, List.takeWhile_append_dropWhile]
    · intro d hd
      exact List.all_eq_true.1 List.all_takeWhile d hd
  · rintro ⟨rfl, hbefore⟩
    rw [List.takeWhile_append_of_pos hbefore, List.dropWhile_append_of_pos hbefore]
    simp [hc]

theorem exists_of_append_eq {text tail before rest : Text} {c : Char}
    (h : text ++ tail = before ++ c :: rest) (hc : c ∉ tail) :
    ∃ more, text = before ++ c :: more ∧ rest = more ++ tail := by
  rcases List.append_eq_append_iff.1 h with ⟨more, -, htail⟩ | ⟨more, htext, hrest⟩
  · refine absurd ?_ hc
    rw [htail]
    exact List.mem_append_right _ List.mem_cons_self
  · cases more with
    | nil =>
        refine absurd ?_ hc
        rw [← List.nil_append tail, ← hrest]
        exact List.mem_cons_self
    | cons d more =>
        cases hrest
        exact ⟨more, htext, rfl⟩

/-! ## Order -/

def le : Text → Text → Bool
  | [], _ => true
  | _ :: _, [] => false
  | c :: text, d :: other => if c = d then le text other else c.toNat < d.toNat

@[simp] theorem le_self (text : Text) : le text text = true := by
  induction text with
  | nil => rfl
  | cons c text ih => simp [le, ih]

end Text

end ClassWiki
