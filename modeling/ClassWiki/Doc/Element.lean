import ClassWiki.Doc.Content
import ClassWiki.Text.Word

/-!
# Documentation elements

An element starts with a tag of its name, which may carry attributes, and ends at
the first closing tag of the same name.  Elements are looked for from left to
right, and the search goes on behind each element found.  It is over when no closing
tag follows a start tag, because none can follow a later start tag then.
-/

namespace ClassWiki.Doc

open Text

structure Element where
  attributes : Text
  content : Text
  deriving DecidableEq, Repr

/-! ## Tags -/

/-- What follows a start tag: its attributes, and the text behind it.  A blank has
to stand between the name and the attributes. -/
def startTag? (name text : Text) : Option (Text × Text) :=
  match dropLead? ("<" ++ name) text with
  | none => none
  | some rest =>
      match rest.takeWhile (· != '>'), rest.dropWhile (· != '>') with
      | [], '>' :: after => some ([], after)
      | c :: more, '>' :: after => if isBlank c then some (c :: more, after) else none
      | _, _ => none

def endTag? (name text : Text) : Option Text :=
  match dropLead? ("</" ++ name) text with
  | none => none
  | some rest =>
      match rest.dropWhile isBlank with
      | '>' :: after => some after
      | _ => none

def untilEnd? (name : Text) : Text → Option (Text × Text)
  | [] => none
  | c :: rest =>
      match endTag? name (c :: rest) with
      | some after => some ([], after)
      | none => (untilEnd? name rest).map fun (content, after) => (c :: content, after)

/-! ## Elements -/

def element? (name : Text) : Text → Option (Element × Text)
  | [] => none
  | c :: rest =>
      match startTag? name (c :: rest) with
      | none => element? name rest
      | some (attributes, behind) =>
          (untilEnd? name behind).map fun (content, after) => (⟨attributes, content⟩, after)

private theorem length_lt_of_startTag? {name text attributes rest : Text}
    (h : startTag? name text = some (attributes, rest)) :
    rest.length < text.length := by
  unfold startTag? at h
  split at h
  · exact absurd h (by simp)
  · next tail hlead =>
      have htext := dropLead?_eq_some_iff.1 hlead
      have hdrop : (tail.dropWhile (· != '>')).length ≤ tail.length :=
        (List.dropWhile_suffix _).length_le
      split at h
      · next after _ hd =>
          cases h
          simp only [hd, List.length_cons] at hdrop
          simp [htext]
          omega
      · next c more after _ hd =>
          split at h
          · cases h
            simp only [hd, List.length_cons] at hdrop
            simp [htext]
            omega
          · exact absurd h (by simp)
      · exact absurd h (by simp)

private theorem length_lt_of_endTag? {name text after : Text}
    (h : endTag? name text = some after) : after.length < text.length := by
  unfold endTag? at h
  split at h
  · exact absurd h (by simp)
  · next tail hlead =>
      have htext := dropLead?_eq_some_iff.1 hlead
      have hdrop : (tail.dropWhile isBlank).length ≤ tail.length :=
        (List.dropWhile_suffix _).length_le
      split at h
      · next after' hd =>
          cases h
          simp only [hd, List.length_cons] at hdrop
          simp [htext]
          omega
      · exact absurd h (by simp)

private theorem length_lt_of_untilEnd? {name text content after : Text}
    (h : untilEnd? name text = some (content, after)) : after.length < text.length := by
  induction text generalizing content with
  | nil => simp [untilEnd?] at h
  | cons c rest ih =>
      rw [untilEnd?] at h
      split at h
      · next hend =>
          cases h
          exact length_lt_of_endTag? hend
      · obtain ⟨⟨content', after'⟩, hrest, heq⟩ := Option.map_eq_some_iff.1 h
        cases heq
        exact Nat.lt_trans (ih hrest) (Nat.lt_succ_self _)

theorem length_lt_of_element? {name text : Text} {found : Element × Text}
    (h : element? name text = some found) : found.2.length < text.length := by
  induction text with
  | nil => simp [element?] at h
  | cons c rest ih =>
      rw [element?] at h
      split at h
      · exact Nat.lt_trans (ih h) (Nat.lt_succ_self _)
      · next hstart =>
          obtain ⟨⟨content, after⟩, hend, rfl⟩ := Option.map_eq_some_iff.1 h
          exact Nat.lt_trans (length_lt_of_untilEnd? hend) (length_lt_of_startTag? hstart)

def elements (name text : Text) : List Element :=
  match _h : element? name text with
  | none => []
  | some (element, rest) => element :: elements name rest
termination_by text.length
decreasing_by exact length_lt_of_element? _h

/-! ## Attributes -/

def isAttributeChar (c : Char) : Bool := isWord c || c == ':' || c == '.' || c == '-'

def quotedValue? : Text → Option Text
  | [] => none
  | mark :: rest =>
      if (mark = '\x22' || mark = '\x27') && rest.contains mark then
        some (mark :: rest.takeWhile (· != mark) ++ [mark])
      else none

def attributeHere? (text : Text) : Option Text :=
  let name := text.takeWhile isAttributeChar
  let rest := text.dropWhile isAttributeChar
  match name, rest.dropWhile isBlank with
  | _ :: _, '=' :: after =>
      (quotedValue? (after.dropWhile isBlank)).map fun value =>
        name ++ rest.takeWhile isBlank ++ ['='] ++ after.takeWhile isBlank ++ value
  | _, _ => none

def attribute? : Text → Option Text
  | [] => none
  | c :: rest =>
      match attributeHere? (c :: rest) with
      | some found => some found
      | none => attribute? rest

/-! ## Summary and exceptions -/

def summary : List Text → Text
  | [] => []
  | block :: blocks =>
      match element? "summary" block with
      | some (element, _) => clean element.content
      | none => summary blocks

def Element.entry (element : Element) : Text :=
  (attribute? element.attributes).getD [] ++ " - " ++ clean element.content

def exceptionEntries (blocks : List Text) : List Text :=
  blocks.flatMap fun block => (elements "exception" block).map Element.entry

def exceptions (blocks : List Text) : Text := unlines (exceptionEntries blocks)

end ClassWiki.Doc
