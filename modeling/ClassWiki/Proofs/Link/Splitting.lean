import ClassWiki.Link

/-!
# Splitting argument lists

The depth of a text is the number of brackets that it opens less the number of those that
it closes.  Splitting cuts a text at the commas of depth zero, and at no others: every part
but the last brings the depth back to zero, and no part has a comma at depth zero.  Parts of
this form are found again when they are joined by commas and split, so that a text has no
other parts of this form.
-/

namespace ClassWiki.Link

open Text

/-! ## Depth -/

def depth : Text → Int
  | [] => 0
  | c :: text => step c + depth text

@[simp] theorem depth_nil : depth [] = 0 := rfl

@[simp] theorem depth_cons (c : Char) (text : Text) :
    depth (c :: text) = step c + depth text := rfl

@[simp] theorem depth_append (first second : Text) :
    depth (first ++ second) = depth first + depth second := by
  induction first with
  | nil => simp
  | cons c first ih =>
      rw [List.cons_append, depth_cons, depth_cons, ih]
      omega

theorem depth_eq_countP (text : Text) :
    depth text = text.countP isOpener - text.countP isCloser := by
  induction text with
  | nil => rfl
  | cons c text ih =>
      have hboth : isOpener c = true → isCloser c = false := by
        intro h
        simp only [isOpener, Bool.or_eq_true, beq_iff_eq] at h
        rcases h with (rfl | rfl) | rfl <;> rfl
      rw [depth_cons, ih, List.countP_cons, List.countP_cons, step]
      cases hopener : isOpener c with
      | true =>
          simp only [hboth hopener, if_true]
          simp
          omega
      | false =>
          cases isCloser c <;> simp
          omega

theorem step_of_isBlank {c : Char} (h : isBlank c = true) : step c = 0 := by
  have hopener : isOpener c = false := by
    rw [Bool.eq_false_iff]
    intro hc
    simp only [isOpener, Bool.or_eq_true, beq_iff_eq] at hc
    rcases hc with (rfl | rfl) | rfl <;> cases h
  have hcloser : isCloser c = false := by
    rw [Bool.eq_false_iff]
    intro hc
    simp only [isCloser, Bool.or_eq_true, beq_iff_eq] at hc
    rcases hc with (rfl | rfl) | rfl <;> cases h
  simp [step, hopener, hcloser]

theorem depth_of_blank {blanks : Text} (h : ∀ c ∈ blanks, isBlank c = true) :
    depth blanks = 0 := by
  induction blanks with
  | nil => rfl
  | cons c blanks ih =>
      rw [depth_cons, step_of_isBlank (h c List.mem_cons_self),
        ih fun d hd => h d (List.mem_cons_of_mem c hd)]
      rfl

theorem depth_strip (text : Text) : depth (strip text) = depth text := by
  obtain ⟨lead, tail, htext, hlead, htail⟩ := exists_eq_append_strip text
  have hdepth := congrArg depth htext
  rw [depth_append, depth_append, depth_of_blank hlead, depth_of_blank htail] at hdepth
  omega

/-! ## Parts -/

/-- No comma of the part stands at depth zero, if the part itself starts at `start`. -/
def Solid (start : Int) (part : Text) : Prop :=
  ∀ lead rest, part = lead ++ ',' :: rest → start + depth lead ≠ 0

theorem solid_nil (start : Int) : Solid start [] := by
  intro lead rest h
  simp at h

theorem solid_cons_iff {start : Int} {c : Char} {part : Text} :
    Solid start (c :: part) ↔ ¬(c = ',' ∧ start = 0) ∧ Solid (start + step c) part := by
  constructor
  · intro h
    constructor
    · rintro ⟨rfl, rfl⟩
      exact h [] part rfl rfl
    · rintro lead rest rfl
      have hdepth := h (c :: lead) rest rfl
      rwa [depth_cons, ← Int.add_assoc] at hdepth
  · rintro ⟨hcomma, hpart⟩ lead rest heq
    cases lead with
    | nil =>
        obtain ⟨rfl, -⟩ := List.cons.inj heq
        intro hstart
        exact hcomma ⟨rfl, by simpa using hstart⟩
    | cons d lead =>
        obtain ⟨rfl, hrest⟩ := List.cons.inj heq
        rw [depth_cons, ← Int.add_assoc]
        exact hpart lead rest hrest

/-- Every part but the last brings the depth back to zero, and none has a comma there. -/
inductive Parts : Int → List Text → Prop
  | last {start : Int} {part : Text} : Solid start part → Parts start [part]
  | more {start : Int} {part : Text} {parts : List Text} :
      Solid start part → start + depth part = 0 → Parts 0 parts → Parts start (part :: parts)

theorem Parts.ne_nil {start : Int} {parts : List Text} (h : Parts start parts) : parts ≠ [] := by
  cases h <;> simp

theorem parts_splitFrom (start : Int) (text : Text) : Parts start (splitFrom start text) := by
  induction text generalizing start with
  | nil => exact .last (solid_nil start)
  | cons c rest ih =>
      rw [splitFrom]
      split
      · next hcomma =>
          obtain ⟨rfl, rfl⟩ := hcomma
          exact .more (solid_nil 0) rfl (ih 0)
      · next hcomma =>
          cases hsplit : splitFrom (start + step c) rest with
          | nil => exact absurd hsplit (splitFrom_ne_nil _ _)
          | cons part parts =>
              have hparts := ih (start + step c)
              rw [hsplit] at hparts
              cases hparts with
              | last hsolid => exact .last (solid_cons_iff.2 ⟨hcomma, hsolid⟩)
              | more hsolid hdepth hrest =>
                  refine .more (solid_cons_iff.2 ⟨hcomma, hsolid⟩) ?_ hrest
                  rwa [depth_cons, ← Int.add_assoc]

theorem splitFrom_solid {start : Int} {part : Text} (h : Solid start part) :
    splitFrom start part = [part] := by
  induction part generalizing start with
  | nil => rfl
  | cons c part ih =>
      obtain ⟨hcomma, hpart⟩ := solid_cons_iff.1 h
      rw [splitFrom, if_neg hcomma, ih hpart]
      rfl

theorem splitFrom_append_comma {start : Int} {part : Text} (h : Solid start part)
    (hdepth : start + depth part = 0) (rest : Text) :
    splitFrom start (part ++ ',' :: rest) = part :: splitFrom 0 rest := by
  induction part generalizing start with
  | nil =>
      obtain rfl : start = 0 := by simpa using hdepth
      rw [List.nil_append, splitFrom, if_pos ⟨rfl, rfl⟩]
  | cons c part ih =>
      obtain ⟨hcomma, hpart⟩ := solid_cons_iff.1 h
      rw [depth_cons, ← Int.add_assoc] at hdepth
      rw [List.cons_append, splitFrom, if_neg hcomma, ih hpart hdepth]
      rfl

theorem Parts.splitFrom_join {start : Int} {parts : List Text} (h : Parts start parts) :
    splitFrom start (join "," parts) = parts := by
  induction h with
  | last hsolid => exact splitFrom_solid hsolid
  | @more start part parts hsolid hdepth hrest ih =>
      have hcomma := splitFrom_append_comma hsolid hdepth (join "," parts)
      rw [ih] at hcomma
      rw [join_cons_of_ne_nil _ _ hrest.ne_nil, List.append_assoc]
      exact hcomma

/-- A change that keeps the depth of each part, and puts no comma at depth zero, gives parts
again. -/
theorem Parts.map {parts : List Text} {change : Text → Text} (h : Parts 0 parts)
    (hchange : ∀ part ∈ parts, Solid 0 (change part) ∧ depth (change part) = depth part) :
    Parts 0 (parts.map change) := by
  induction parts with
  | nil => exact absurd rfl h.ne_nil
  | cons part parts ih =>
      obtain ⟨hpart, hsame⟩ := hchange part List.mem_cons_self
      cases h with
      | last _ => exact .last hpart
      | more _ hdepth hrest =>
          refine .more hpart (by rwa [hsame]) (ih hrest ?_)
          exact fun other hmem => hchange other (List.mem_cons_of_mem part hmem)

/-! ## The only splitting -/

/-- Every part but the last opens as many brackets as it closes, and no comma of a part
stands behind as many opening brackets as closing ones. -/
structure Uncut (parts : List Text) : Prop where
  ne_nil : parts ≠ []
  even : ∀ part ∈ parts.dropLast, part.countP isOpener = part.countP isCloser
  no_cut : ∀ part ∈ parts, ∀ lead rest, part = lead ++ ',' :: rest →
    lead.countP isOpener ≠ lead.countP isCloser

theorem depth_eq_zero_iff {text : Text} :
    depth text = 0 ↔ text.countP isOpener = text.countP isCloser := by
  rw [depth_eq_countP]
  omega

theorem solid_zero_iff {part : Text} :
    Solid 0 part ↔ ∀ lead rest, part = lead ++ ',' :: rest →
      lead.countP isOpener ≠ lead.countP isCloser := by
  simp only [Solid, Int.zero_add, ne_eq, depth_eq_zero_iff]

theorem uncut_cons_iff {part : Text} {parts : List Text} (h : parts ≠ []) :
    Uncut (part :: parts) ↔ Solid 0 part ∧ depth part = 0 ∧ Uncut parts := by
  rw [solid_zero_iff, depth_eq_zero_iff]
  constructor
  · intro huncut
    have heven := huncut.even
    rw [List.dropLast_cons_of_ne_nil h, List.forall_mem_cons] at heven
    have hcuts := List.forall_mem_cons.1 huncut.no_cut
    exact ⟨hcuts.1, heven.1, h, heven.2, hcuts.2⟩
  · rintro ⟨hcut, heven, huncut⟩
    refine ⟨by simp, ?_, List.forall_mem_cons.2 ⟨hcut, huncut.no_cut⟩⟩
    rw [List.dropLast_cons_of_ne_nil h, List.forall_mem_cons]
    exact ⟨heven, huncut.even⟩

theorem uncut_iff_parts {parts : List Text} : Uncut parts ↔ Parts 0 parts := by
  induction parts with
  | nil => exact ⟨fun h => absurd rfl h.ne_nil, fun h => absurd rfl h.ne_nil⟩
  | cons part parts ih =>
      cases parts with
      | nil =>
          constructor
          · exact fun h => .last (solid_zero_iff.2 (h.no_cut part List.mem_cons_self))
          · rintro (hsolid | ⟨_, _, hrest⟩)
            · exact ⟨by simp, by simp, List.forall_mem_singleton.2 (solid_zero_iff.1 hsolid)⟩
            · exact absurd rfl hrest.ne_nil
      | cons next parts =>
          rw [uncut_cons_iff (by simp), ih]
          constructor
          · rintro ⟨hsolid, hdepth, hrest⟩
            exact .more hsolid (by rwa [Int.zero_add]) hrest
          · rintro (_ | ⟨hsolid, hdepth, hrest⟩)
            exact ⟨hsolid, by rwa [Int.zero_add] at hdepth, hrest⟩

/-- Splitting a text gives the only parts without a cut whose join is the text.  So all parts
without a cut are found again when they are joined and split. -/
theorem splitArguments_unique (text : Text) :
    (∀ parts, splitArguments text = parts ↔ Uncut parts ∧ join "," parts = text) ∧
      ∀ parts, Uncut parts → splitArguments (join "," parts) = parts := by
  have hjoin : ∀ parts, Uncut parts → splitArguments (join "," parts) = parts :=
    fun parts h => (uncut_iff_parts.1 h).splitFrom_join
  refine ⟨fun parts => ⟨?_, ?_⟩, hjoin⟩
  · rintro rfl
    exact ⟨uncut_iff_parts.2 (parts_splitFrom 0 text), join_splitFrom 0 text⟩
  · rintro ⟨huncut, rfl⟩
    exact hjoin parts huncut

/-- The depth of the first part becomes negative and comes back, and that of the last one
does not. -/
theorem splitArguments_unique_sample :
    Uncut ["),(", " <a, b>", "c]"] ∧
      splitArguments "),(, <a, b>,c]" = [("),(" : Text), " <a, b>", "c]"] := by
  have hsolid : ∀ part ∈ [("),(" : Text), " <a, b>", "c]"], Solid 0 part := by
    simp [solid_cons_iff, solid_nil, step, isOpener, isCloser]
  have huncut : Uncut ["),(", " <a, b>", "c]"] :=
    ⟨by simp, by decide, fun part hpart => solid_zero_iff.1 (hsolid part hpart)⟩
  exact ⟨huncut, (splitArguments_unique []).2 _ huncut⟩

end ClassWiki.Link
