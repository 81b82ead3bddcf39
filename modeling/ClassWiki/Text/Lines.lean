import ClassWiki.Text.Basic

/-!
# Lines

A line ends at a line feed, a carriage return, the two together, or one of the
other line boundaries of Unicode and ASCII.  The end of the text closes the last
line, and a text that ends in a break has no empty line after it.
-/

namespace ClassWiki.Text

def isBreak (c : Char) : Bool :=
  let n := c.toNat
  (0x0A ≤ n && n ≤ 0x0D) || (0x1C ≤ n && n ≤ 0x1E) || n == 0x85 ||
    n == 0x2028 || n == 0x2029

def lines : Text → List Text
  | [] => []
  | '\r' :: '\n' :: rest => [] :: lines rest
  | c :: rest => if isBreak c then [] :: lines rest else extend c (lines rest)

theorem lines_cons_of_not_isBreak {c : Char} (rest : Text) (h : isBreak c = false) :
    lines (c :: rest) = extend c (lines rest) := by
  have hr : c ≠ '\r' := by
    rintro rfl
    revert h
    decide
  rw [lines]
  · simp [h]
  · intro rest' hc
    exact absurd hc hr

@[simp] theorem lines_nil : lines [] = [] := by rw [lines]

theorem lines_eq_nil_iff {text : Text} : lines text = [] ↔ text = [] := by
  fun_cases lines text <;> simp [*]

theorem lines_cons_of_isBreak {c : Char} {rest : Text} (h : isBreak c = true)
    (hpair : c = '\r' → rest.head? ≠ some '\n') : lines (c :: rest) = [] :: lines rest := by
  rw [lines]
  · simp [h]
  · rintro rest' rfl rfl
    exact hpair rfl rfl

theorem lines_line_feed (rest : Text) : lines ('\n' :: rest) = [] :: lines rest := by
  apply lines_cons_of_isBreak rfl
  rintro ⟨⟩

theorem lines_append_line_feed {line : Text} (h : ∀ c ∈ line, isBreak c = false)
    (rest : Text) : lines (line ++ '\n' :: rest) = line :: lines rest := by
  induction line with
  | nil => exact lines_line_feed rest
  | cons c line ih =>
      have hline := ih fun d hd => h d (List.mem_cons_of_mem c hd)
      rw [List.cons_append, lines_cons_of_not_isBreak _ (h c List.mem_cons_self), hline]
      rfl

theorem lines_of_not_isBreak {line : Text} (h : ∀ c ∈ line, isBreak c = false)
    (hline : line ≠ []) : lines line = [line] := by
  induction line with
  | nil => exact absurd rfl hline
  | cons c line ih =>
      rw [lines_cons_of_not_isBreak _ (h c List.mem_cons_self)]
      cases line with
      | nil => rfl
      | cons d line =>
          rw [ih (fun e he => h e (List.mem_cons_of_mem c he)) (by simp)]
          rfl

/-- Every carriage return becomes a line feed, and one followed by a line feed
becomes a single line feed. -/
def unifyBreaks : Text → Text
  | [] => []
  | '\r' :: '\n' :: rest => '\n' :: unifyBreaks rest
  | c :: rest => (if c = '\r' then '\n' else c) :: unifyBreaks rest

end ClassWiki.Text
