import ClassWiki.Doc.Content
import Mathlib.Data.List.Basic

/-!
# The normal form of content

Cleaning leaves a tidy text: line feeds are its only breaks, no line starts or ends with a
blank, and the first and the last line hold something.  The lines of the content are kept
but for the empty ones at both ends.

Cleaning works on both levels in the same way.  A line loses the blanks at its ends, and the
list of lines loses the empty lines at its ends.  Both rest on the same fact about lists: what
fulfils a test can be taken off at both ends.
-/

namespace ClassWiki

/-- Every list is a core with two ends, where the ends fulfil the test and the first and the
last element of the core do not. -/
theorem exists_core {α : Type} (test : α → Bool) (items : List α) :
    ∃ lead core tail, items = lead ++ core ++ tail ∧
      (∀ item ∈ lead, test item = true) ∧ (∀ item ∈ tail, test item = true) ∧
      (∀ item, core.head? = some item → test item = false) ∧
      ∀ item, core.getLast? = some item → test item = false := by
  induction items with
  | nil => exact ⟨[], [], [], by simp⟩
  | cons item items ih =>
      obtain ⟨lead, core, tail, hitems, hlead, htail, hhead, hlast⟩ := ih
      cases hitem : test item with
      | true =>
          refine ⟨item :: lead, core, tail, by rw [hitems]; rfl, ?_, htail, hhead, hlast⟩
          exact List.forall_mem_cons.2 ⟨hitem, hlead⟩
      | false =>
          have hfirst : ∀ other, some item = some other → test other = false := by
            rintro other ⟨⟩
            exact hitem
          cases core with
          | nil =>
              refine ⟨[], [item], lead ++ tail, by simp [hitems], by simp, ?_, hfirst, hfirst⟩
              exact List.forall_mem_append.2 ⟨hlead, htail⟩
          | cons next core =>
              refine ⟨[], item :: (lead ++ next :: core), tail, by simp [hitems], by simp, htail,
                hfirst, ?_⟩
              intro other hother
              rw [← List.cons_append, List.getLast?_append_cons] at hother
              exact hlast other hother

namespace Text

/-! ## Blanks at the ends -/

structure Trimmed (text : Text) : Prop where
  head : ∀ c, text.head? = some c → isBlank c = false
  last : ∀ c, text.getLast? = some c → isBlank c = false

theorem Trimmed.strip_eq {text : Text} (h : Trimmed text) : strip text = text :=
  strip_eq_self h.head h.last

theorem stripLeft_blanks {lead : Text} (h : ∀ c ∈ lead, isBlank c = true) (text : Text) :
    stripLeft (lead ++ text) = stripLeft text := List.dropWhile_append_of_pos h

theorem stripRight_blanks {tail : Text} (h : ∀ c ∈ tail, isBlank c = true) (text : Text) :
    stripRight (text ++ tail) = stripRight text := by
  have hreverse : ∀ c ∈ tail.reverse, isBlank c = true := fun c hc => h c (List.mem_reverse.1 hc)
  rw [stripRight, List.reverse_append, List.dropWhile_append_of_pos hreverse, stripRight]

theorem strip_surrounded {lead text tail : Text} (hlead : ∀ c ∈ lead, isBlank c = true)
    (htext : Trimmed text) (htail : ∀ c ∈ tail, isBlank c = true) :
    strip (lead ++ text ++ tail) = text := by
  rw [List.append_assoc, strip, stripLeft_blanks hlead]
  cases text with
  | nil =>
      rw [List.nil_append, ← List.append_nil tail, stripLeft_blanks htail]
      rfl
  | cons c text =>
      have hhead : isBlank c = false := htext.head c rfl
      rw [List.cons_append, stripLeft_cons_of_not_isBlank _ hhead, ← List.cons_append,
        stripRight_blanks htail]
      calc stripRight (c :: text)
        _ = stripRight (stripLeft (c :: text)) := by rw [stripLeft_cons_of_not_isBlank _ hhead]
        _ = c :: text := htext.strip_eq

theorem trimmed_strip (text : Text) : Trimmed (strip text) := by
  obtain ⟨lead, core, tail, htext, hlead, htail, hhead, hlast⟩ := exists_core isBlank text
  have hcore : Trimmed core := ⟨hhead, hlast⟩
  rw [htext, strip_surrounded hlead hcore htail]
  exact hcore

theorem strip_eq_nil_iff {text : Text} : strip text = [] ↔ ∀ c ∈ text, isBlank c = true := by
  constructor
  · intro h
    obtain ⟨lead, tail, htext, hlead, htail⟩ := exists_eq_append_strip text
    rw [h, List.append_nil] at htext
    rw [htext]
    exact List.forall_mem_append.2 ⟨hlead, htail⟩
  · intro h
    have hnil : Trimmed [] := ⟨by simp, by simp⟩
    have hnone : ∀ c ∈ ([] : Text), isBlank c = true := by simp
    simpa using strip_surrounded h hnil hnone

theorem mem_of_mem_strip {text : Text} {c : Char} (h : c ∈ strip text) : c ∈ text := by
  obtain ⟨lead, tail, htext, -, -⟩ := exists_eq_append_strip text
  rw [htext]
  simp [h]

/-! ## Characters of lines -/

theorem isBlank_of_isBreak {c : Char} (h : isBreak c = true) : isBlank c = true := by
  simp only [isBreak, isBlank, Bool.or_eq_true, Bool.and_eq_true, decide_eq_true_eq,
    beq_iff_eq] at h ⊢
  omega

theorem exists_mem_extend_iff {c d : Char} {parts : List Text} :
    (∃ part ∈ extend c parts, d ∈ part) ↔ d = c ∨ ∃ part ∈ parts, d ∈ part := by
  cases parts with
  | nil => simp [extend]
  | cons part parts => simp [extend, or_assoc]

/-- The characters of the lines are those of the text but for the breaks. -/
theorem exists_mem_lines_iff {text : Text} {c : Char} :
    (∃ line ∈ lines text, c ∈ line) ↔ c ∈ text ∧ isBreak c = false := by
  fun_induction lines text with
  | case1 => simp
  | case2 rest ih =>
      have hr : c = '\r' → isBreak c = true := by rintro rfl; rfl
      have hn : c = '\n' → isBreak c = true := by rintro rfl; rfl
      simp only [List.mem_cons, exists_eq_or_imp, List.not_mem_nil, false_or, ih]
      grind
  | case3 d rest hd hbreak ih =>
      simp only [List.mem_cons, exists_eq_or_imp, List.not_mem_nil, false_or, ih]
      grind
  | case4 d rest hd hbreak ih =>
      rw [exists_mem_extend_iff, ih]
      simp only [List.mem_cons]
      grind

/-! ## Joined lines -/

theorem unlines_cons {line : Text} {lines : List Text} (h : lines ≠ []) :
    unlines (line :: lines) = line ++ '\n' :: unlines lines := by
  rw [unlines, join_cons_of_ne_nil _ _ h, List.append_assoc]
  rfl

theorem lines_unlines {body : List Text}
    (hbreak : ∀ line ∈ body, ∀ c ∈ line, isBreak c = false) (hlast : body.getLast? ≠ some []) :
    lines (unlines body) = body := by
  induction body with
  | nil => exact lines_nil
  | cons line body ih =>
      rw [List.forall_mem_cons] at hbreak
      by_cases hbody : body = []
      · subst hbody
        apply lines_of_not_isBreak hbreak.1
        rintro rfl
        exact hlast rfl
      · rw [← List.singleton_append, List.getLast?_append_of_ne_nil _ hbody] at hlast
        rw [unlines_cons hbody, lines_append_line_feed hbreak.1, ih hbreak.2 hlast]

theorem splitOn_unlines {body : List Text} (hbody : body ≠ [])
    (hbreak : ∀ line ∈ body, '\n' ∉ line) : splitOn '\n' (unlines body) = body :=
  splitOn_join hbody hbreak

theorem forall_isBlank_unlines_iff {lines : List Text} :
    (∀ c ∈ unlines lines, isBlank c = true) ↔ ∀ line ∈ lines, ∀ c ∈ line, isBlank c = true := by
  induction lines with
  | nil => simp [unlines]
  | cons line lines ih =>
      by_cases hlines : lines = []
      · subst hlines
        simp [unlines]
      · have hfeed : isBlank '\n' = true := rfl
        rw [unlines_cons hlines, List.forall_mem_append, List.forall_mem_cons,
          List.forall_mem_cons, ih]
        simp [hfeed]

theorem exists_unlines_cons (line : Text) (lines : List Text) :
    ∃ after, unlines (line :: lines) = line ++ after := by
  by_cases hlines : lines = []
  · exact ⟨[], by simp [hlines, unlines]⟩
  · exact ⟨_, unlines_cons hlines⟩

theorem exists_unlines_concat (lines : List Text) (line : Text) :
    ∃ before, unlines (lines ++ [line]) = before ++ line := by
  by_cases hlines : lines = []
  · exact ⟨[], by simp [hlines, unlines]⟩
  · exact ⟨_, join_append "\n" hlines (List.cons_ne_nil line [])⟩

theorem isBlank_unlines_of_nil {lines : List Text} (h : ∀ line ∈ lines, line = []) :
    ∀ c ∈ unlines lines, isBlank c = true := by
  apply forall_isBlank_unlines_iff.2
  intro line hline
  rw [h line hline]
  exact List.forall_mem_nil _

theorem exists_unlines_lead {lead lines : List Text} (hlead : ∀ line ∈ lead, line = [])
    (hlines : lines ≠ []) :
    ∃ before, unlines (lead ++ lines) = before ++ unlines lines ∧
      ∀ c ∈ before, isBlank c = true := by
  by_cases hnil : lead = []
  · exact ⟨[], by rw [hnil]; rfl, List.forall_mem_nil _⟩
  · refine ⟨unlines lead ++ "\n", join_append "\n" hnil hlines, ?_⟩
    exact List.forall_mem_append.2
      ⟨isBlank_unlines_of_nil hlead, List.forall_mem_singleton.2 rfl⟩

theorem exists_unlines_tail {lines tail : List Text} (htail : ∀ line ∈ tail, line = [])
    (hlines : lines ≠ []) :
    ∃ after, unlines (lines ++ tail) = unlines lines ++ after ∧
      ∀ c ∈ after, isBlank c = true := by
  by_cases hnil : tail = []
  · exact ⟨[], by rw [hnil, List.append_nil, List.append_nil], List.forall_mem_nil _⟩
  · refine ⟨"\n" ++ unlines tail, ?_, ?_⟩
    · rw [← List.append_assoc]
      exact join_append "\n" hlines hnil
    · exact List.forall_mem_append.2
        ⟨List.forall_mem_singleton.2 rfl, isBlank_unlines_of_nil htail⟩

/-- Empty lines around the text of other lines are blanks around it. -/
theorem strip_unlines_surrounded {lead body tail : List Text}
    (hlead : ∀ line ∈ lead, line = []) (hbody : Trimmed (unlines body))
    (htail : ∀ line ∈ tail, line = []) : strip (unlines (lead ++ body ++ tail)) = unlines body := by
  by_cases hnil : body = []
  · subst hnil
    rw [List.append_nil]
    exact strip_eq_nil_iff.2
      (isBlank_unlines_of_nil (List.forall_mem_append.2 ⟨hlead, htail⟩))
  · obtain ⟨after, hafter, hblank⟩ := exists_unlines_tail htail hnil
    obtain ⟨before, hbefore, hblank'⟩ :=
      exists_unlines_lead hlead (List.append_ne_nil_of_left_ne_nil hnil tail)
    rw [List.append_assoc, hbefore, hafter, ← List.append_assoc,
      strip_surrounded hblank' hbody hblank]

theorem exists_mem_splitOn_iff {separator c : Char} {text : Text} :
    (∃ part ∈ splitOn separator text, c ∈ part) ↔ c ∈ text ∧ c ≠ separator := by
  induction text with
  | nil => simp [splitOn]
  | cons d text ih =>
      rw [splitOn]
      split
      · next heq =>
          simp only [List.mem_cons, exists_eq_or_imp, List.not_mem_nil, false_or, ih]
          grind
      · rw [exists_mem_extend_iff, ih, List.mem_cons]
        grind

end Text

namespace Doc

open Text

/-! ## Tidy texts -/

/-- Line feeds are the only breaks, no line starts or ends with a blank, and the first and the
last line hold something, unless there is no text at all. -/
structure Tidy (text : Text) : Prop where
  lineFeed : ∀ c ∈ text, isBreak c = true → c = '\n'
  trimmed : ∀ line ∈ splitOn '\n' text, Trimmed line
  ends : text = [] ∨
    (splitOn '\n' text).head? ≠ some [] ∧ (splitOn '\n' text).getLast? ≠ some []

/-- The lines of a tidy text, of which the empty text has none. -/
structure IsBody (body : List Text) : Prop where
  noBreak : ∀ line ∈ body, ∀ c ∈ line, isBreak c = false
  trimmed : ∀ line ∈ body, Trimmed line
  head : body.head? ≠ some []
  last : body.getLast? ≠ some []

namespace IsBody

variable {body : List Text}

theorem lines_unlines (h : IsBody body) : lines (unlines body) = body :=
  Text.lines_unlines h.noBreak h.last

theorem splitOn_unlines (h : IsBody body) (hbody : body ≠ []) :
    splitOn '\n' (unlines body) = body := by
  apply Text.splitOn_unlines hbody
  intro line hline hmem
  cases h.noBreak line hline '\n' hmem

theorem trimmed_unlines (h : IsBody body) : Trimmed (unlines body) := by
  constructor
  · intro c hc
    cases body with
    | nil => cases hc
    | cons line body =>
        obtain ⟨after, hafter⟩ := exists_unlines_cons line body
        have hline : line ≠ [] := fun hnil => h.head (by rw [hnil]; rfl)
        rw [hafter, List.head?_append_of_ne_nil _ hline] at hc
        exact (h.trimmed line List.mem_cons_self).head c hc
  · intro c hc
    cases hlast : body.getLast? with
    | none =>
        rw [List.getLast?_eq_none_iff.1 hlast] at hc
        cases hc
    | some line =>
        obtain ⟨front, rfl⟩ := List.getLast?_eq_some_iff.1 hlast
        obtain ⟨before, hbefore⟩ := exists_unlines_concat front line
        have hline : line ≠ [] := fun hnil => h.last (by rw [hlast, hnil])
        rw [hbefore, List.getLast?_append_of_ne_nil _ hline] at hc
        exact (h.trimmed line (by simp)).last c hc

theorem clean_unlines (h : IsBody body) : clean (unlines body) = unlines body := by
  have hstrip : body.map strip = body :=
    (List.map_congr_left fun line hline => (h.trimmed line hline).strip_eq).trans (List.map_id body)
  rw [clean, h.lines_unlines, hstrip, h.trimmed_unlines.strip_eq]

theorem tidy (h : IsBody body) : Tidy (unlines body) := by
  by_cases hbody : body = []
  · subst hbody
    exact ⟨List.forall_mem_nil _, List.forall_mem_singleton.2 ⟨by simp, by simp⟩, .inl rfl⟩
  · have hsplit := h.splitOn_unlines hbody
    refine ⟨?_, by rw [hsplit]; exact h.trimmed, .inr (by rw [hsplit]; exact ⟨h.head, h.last⟩)⟩
    intro c hc hbreak
    by_contra hfeed
    obtain ⟨line, hline, hmem⟩ := exists_mem_splitOn_iff.2 ⟨hc, hfeed⟩
    rw [hsplit] at hline
    cases hbreak.symm.trans (h.noBreak line hline c hmem)

end IsBody

theorem Tidy.exists_isBody {text : Text} (h : Tidy text) :
    ∃ body, IsBody body ∧ text = unlines body := by
  rcases h.ends with rfl | ⟨hhead, hlast⟩
  · exact ⟨[], ⟨by simp, by simp, by simp, by simp⟩, rfl⟩
  · refine ⟨splitOn '\n' text, ⟨?_, h.trimmed, hhead, hlast⟩, (join_splitOn '\n' text).symm⟩
    intro line hline c hc
    obtain ⟨hmem, hfeed⟩ := exists_mem_splitOn_iff.1 ⟨line, hline, hc⟩
    exact Bool.eq_false_iff.2 fun hbreak => hfeed (h.lineFeed c hmem hbreak)

/-! ## Cleaning -/

/-- The lines of a cleaned text are those of the content, without the empty ones at both ends. -/
theorem exists_clean_eq (content : Text) :
    ∃ lead body tail, (lines content).map strip = lead ++ body ++ tail ∧
      (∀ line ∈ lead, line = []) ∧ (∀ line ∈ tail, line = []) ∧ IsBody body ∧
      clean content = unlines body := by
  obtain ⟨lead, body, tail, hlines, hlead, htail, hhead, hlast⟩ :=
    exists_core List.isEmpty ((lines content).map strip)
  simp only [List.isEmpty_iff] at hlead htail
  have hmem : ∀ line ∈ body, ∃ own ∈ lines content, strip own = line := by
    intro line hline
    apply List.mem_map.1
    rw [hlines]
    simp [hline]
  have hbody : IsBody body := by
    refine ⟨?_, ?_, fun h => absurd (hhead _ h) (by simp), fun h => absurd (hlast _ h) (by simp)⟩
    · intro line hline c hc
      obtain ⟨own, hown, rfl⟩ := hmem line hline
      exact (exists_mem_lines_iff.1 ⟨own, hown, mem_of_mem_strip hc⟩).2
    · intro line hline
      obtain ⟨own, -, rfl⟩ := hmem line hline
      exact trimmed_strip own
  refine ⟨lead, body, tail, hlines, hlead, htail, hbody, ?_⟩
  rw [clean, hlines, strip_unlines_surrounded hlead hbody.trimmed_unlines htail]

theorem exists_lines_clean (content : Text) :
    ∃ lead tail, (lines content).map strip = lead ++ lines (clean content) ++ tail ∧
      (∀ line ∈ lead, line = []) ∧ ∀ line ∈ tail, line = [] := by
  obtain ⟨lead, body, tail, hlines, hlead, htail, hbody, hclean⟩ := exists_clean_eq content
  refine ⟨lead, tail, ?_, hlead, htail⟩
  rw [hclean, hbody.lines_unlines, hlines]

theorem filter_lines_clean (content : Text) :
    (lines (clean content)).filter (!·.isEmpty) =
      ((lines content).map strip).filter (!·.isEmpty) := by
  obtain ⟨lead, tail, hlines, hlead, htail⟩ := exists_lines_clean content
  have hnone : ∀ lines : List Text, (∀ line ∈ lines, line = []) →
      lines.filter (!·.isEmpty) = [] := by
    intro lines h
    rw [List.filter_eq_nil_iff]
    intro line hline
    simp [h line hline]
  rw [hlines, List.filter_append, List.filter_append, hnone lead hlead, hnone tail htail,
    List.append_nil, List.nil_append]

theorem tidy_clean (content : Text) : Tidy (clean content) := by
  obtain ⟨-, body, -, -, -, -, hbody, hclean⟩ := exists_clean_eq content
  rw [hclean]
  exact hbody.tidy

theorem Tidy.clean_eq {text : Text} (h : Tidy text) : clean text = text := by
  obtain ⟨body, hbody, rfl⟩ := h.exists_isBody
  exact hbody.clean_unlines

theorem Tidy.lines_eq {text : Text} (h : Tidy text) (htext : text ≠ []) :
    lines text = splitOn '\n' text := by
  obtain ⟨body, hbody, rfl⟩ := h.exists_isBody
  have hne : body ≠ [] := by
    rintro rfl
    exact htext rfl
  rw [hbody.lines_unlines, hbody.splitOn_unlines hne]

theorem Tidy.trimmed_of_mem_lines {text line : Text} (h : Tidy text) (hline : line ∈ lines text) :
    Trimmed line := by
  obtain ⟨body, hbody, rfl⟩ := h.exists_isBody
  rw [hbody.lines_unlines] at hline
  exact hbody.trimmed line hline

theorem clean_eq_nil_iff {content : Text} :
    clean content = [] ↔ ∀ c ∈ content, isBlank c = true := by
  have hstrip : ∀ line, (∀ c ∈ strip line, isBlank c = true) ↔ ∀ c ∈ line, isBlank c = true := by
    intro line
    rw [← strip_eq_nil_iff, ← strip_eq_nil_iff, (trimmed_strip line).strip_eq]
  rw [clean, strip_eq_nil_iff, forall_isBlank_unlines_iff, List.forall_mem_map]
  simp only [hstrip]
  constructor
  · intro h c hc
    cases hbreak : isBreak c with
    | true => exact isBlank_of_isBreak hbreak
    | false =>
        obtain ⟨line, hline, hmem⟩ := exists_mem_lines_iff.2 ⟨hc, hbreak⟩
        exact h line hline c hmem
  · intro h line hline c hc
    exact h c (exists_mem_lines_iff.1 ⟨line, hline, hc⟩).1

end Doc

end ClassWiki
