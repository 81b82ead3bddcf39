import ClassWiki.Text.Basic

/-!
# Blank characters

The white space of Unicode, the four information separators included.  A text
is stripped by dropping the blanks at both of its ends.
-/

namespace ClassWiki.Text

def isBlank (c : Char) : Bool :=
  let n := c.toNat
  (0x09 ≤ n && n ≤ 0x0D) || (0x1C ≤ n && n ≤ 0x20) || n == 0x85 || n == 0xA0 ||
    n == 0x1680 || (0x2000 ≤ n && n ≤ 0x200A) || n == 0x2028 || n == 0x2029 ||
    n == 0x202F || n == 0x205F || n == 0x3000

def stripLeft (text : Text) : Text := text.dropWhile isBlank

def stripRight (text : Text) : Text := (text.reverse.dropWhile isBlank).reverse

def strip (text : Text) : Text := (text.stripLeft).stripRight

@[simp] theorem stripLeft_nil : stripLeft [] = [] := rfl

@[simp] theorem stripRight_nil : stripRight [] = [] := rfl

@[simp] theorem strip_nil : strip [] = [] := rfl

theorem stripLeft_cons_of_isBlank {c : Char} (text : Text) (h : isBlank c = true) :
    stripLeft (c :: text) = stripLeft text := by
  simp [stripLeft, h]

theorem stripLeft_cons_of_not_isBlank {c : Char} (text : Text)
    (h : isBlank c = false) : stripLeft (c :: text) = c :: text := by
  simp [stripLeft, h]

theorem exists_eq_append_strip (text : Text) :
    ∃ lead tail, text = lead ++ strip text ++ tail ∧
      (∀ c ∈ lead, isBlank c = true) ∧ ∀ c ∈ tail, isBlank c = true := by
  have hright : stripLeft text =
      strip text ++ ((stripLeft text).reverse.takeWhile isBlank).reverse := by
    rw [strip, stripRight, ← List.reverse_append, List.takeWhile_append_dropWhile,
      List.reverse_reverse]
  refine ⟨text.takeWhile isBlank, ((stripLeft text).reverse.takeWhile isBlank).reverse,
    ?_, ?_, ?_⟩
  · rw [List.append_assoc, ← hright, stripLeft, List.takeWhile_append_dropWhile]
  · intro c hc
    exact List.all_eq_true.1 List.all_takeWhile c hc
  · intro c hc
    exact List.all_eq_true.1 List.all_takeWhile c (List.mem_reverse.1 hc)

theorem stripLeft_eq_self {text : Text}
    (h : ∀ c, text.head? = some c → isBlank c = false) : stripLeft text = text := by
  cases text with
  | nil => rfl
  | cons c text => exact stripLeft_cons_of_not_isBlank text (h c rfl)

theorem strip_eq_self {text : Text} (hhead : ∀ c, text.head? = some c → isBlank c = false)
    (hlast : ∀ c, text.getLast? = some c → isBlank c = false) : strip text = text := by
  have hreverse : stripLeft text.reverse = text.reverse := by
    apply stripLeft_eq_self
    intro c hc
    exact hlast c (by rwa [List.head?_reverse] at hc)
  rw [strip, stripLeft_eq_self hhead]
  show (stripLeft text.reverse).reverse = text
  rw [hreverse, List.reverse_reverse]

end ClassWiki.Text
