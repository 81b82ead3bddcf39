import ClassWiki.Proofs.Doc.Comment
import ClassWiki.Proofs.Doc.Element

/-!
# Two styles of documentation

The same documentation can be written as a run of lines behind three slashes or as one
block, in which every line stands behind an indent and a star.  The block has blank lines
around the documentation that the run has not.  No tag reaches into them, so summary and
exceptions are the same in both styles.
-/

namespace ClassWiki.Doc

open Text

/-! ## Both styles written -/

structure IsDocLine (line : Text) : Prop where
  noBreak : ∀ c ∈ line, isBreak c = false
  noSlash : line.head? ≠ some '/'
  noBlankEnd : ∀ c, line.getLast? = some c → isBlank c = false

def IsIndent (text : Text) : Prop := ∀ c ∈ text, isBlank c = true ∧ isBreak c = false

instance (line : Text) : Decidable (IsDocLine line) :=
  decidable_of_iff
    (line.all (!isBreak ·) = true ∧ line.head? ≠ some '/' ∧
      line.getLast?.all (!isBlank ·) = true)
    (by
      simp only [List.all_eq_true, Option.all_eq_true, Bool.not_eq_true']
      exact ⟨fun h => ⟨h.1, h.2.1, h.2.2⟩, fun h => ⟨h.noBreak, h.noSlash, h.noBlankEnd⟩⟩)

instance (text : Text) : Decidable (IsIndent text) :=
  decidable_of_iff (text.all (fun c => isBlank c && !isBreak c) = true) (by simp [IsIndent])

def slashed (lines : List Text) : List Text := lines.map fun line => "///" ++ line

/-- Every line comes with its indent; the closing mark has one as well. -/
def starred (entries : List (Text × Text)) (last : Text) : Text :=
  "/**\n" ++ entries.flatMap (fun entry => entry.1 ++ '*' :: (entry.2 ++ ['\n'])) ++ last ++ "*/"

/-! ## The run of lines -/

theorem strip_slashed {line : Text} (h : IsDocLine line) :
    strip ("///" ++ line) = "///" ++ line := by
  apply strip_eq_self
  · rintro c ⟨⟩
    rfl
  · intro c hc
    rw [List.getLast?_append] at hc
    cases hlast : line.getLast? with
    | none =>
        rw [hlast] at hc
        cases hc
        rfl
    | some d =>
        rw [hlast] at hc
        cases hc
        exact h.noBlankEnd _ hlast

theorem ofText_slashed {line : Text} (h : IsDocLine line) :
    Comment.ofText ("///" ++ line) = .line line := by
  cases line with
  | nil => rfl
  | cons c line =>
      have hc : c ≠ '/' := by
        rintro rfl
        exact h.noSlash rfl
      show Comment.ofText ('/' :: '/' :: '/' :: c :: line) = .line (c :: line)
      unfold Comment.ofText
      split <;> simp_all

theorem groupFrom_lines (run lines : List Text) :
    groupFrom run (lines.map .line) = runBlock (run ++ lines) := by
  induction lines generalizing run with
  | nil => simp [groupFrom]
  | cons line lines ih => simp [groupFrom, ih]

theorem blocks_slashed {lines : List Text} (h : ∀ line ∈ lines, IsDocLine line) :
    blocks (slashed lines) = runBlock lines := by
  have hcomments : (slashed lines).map (fun comment => Comment.ofText (strip comment)) =
      lines.map .line := by
    rw [slashed, List.map_map]
    apply List.map_congr_left
    intro line hline
    rw [Function.comp_apply, strip_slashed (h line hline), ofText_slashed (h line hline)]
  rw [blocks, hcomments, groupFrom_lines, List.nil_append]

/-! ## The block -/

theorem dropStar_starred {indent line : Text} (hindent : IsIndent indent)
    (hline : IsDocLine line) : dropStar (indent ++ '*' :: line) = line := by
  have hspan : (indent ++ '*' :: line).takeWhile isBlank = indent ∧
      (indent ++ '*' :: line).dropWhile isBlank = '*' :: line :=
    (span_eq_iff (by decide)).2 ⟨rfl, fun c hc => (hindent c hc).1⟩
  unfold dropStar
  rw [hspan.2]
  split
  · next rest heq =>
      cases heq
      exact absurd rfl hline.noSlash
  · next rest _ heq =>
      cases heq
      rfl
  · next hno => exact absurd rfl (hno line)

theorem dropStar_indent {indent : Text} (h : IsIndent indent) : dropStar indent = indent := by
  have hdrop : indent.dropWhile isBlank = [] := by
    rw [← List.append_nil indent, List.dropWhile_append_of_pos fun c hc => (h c hc).1]
    rfl
  unfold dropStar
  rw [hdrop]

theorem lines_starred {entries : List (Text × Text)} {last : Text}
    (hentries : ∀ entry ∈ entries, IsIndent entry.1 ∧ IsDocLine entry.2) :
    lines (entries.flatMap (fun entry => entry.1 ++ '*' :: (entry.2 ++ ['\n'])) ++ last) =
      entries.map (fun entry => entry.1 ++ '*' :: entry.2) ++ lines last := by
  induction entries with
  | nil => rfl
  | cons entry entries ih =>
      obtain ⟨hindent, hline⟩ := hentries entry List.mem_cons_self
      have hbreak : ∀ c ∈ entry.1 ++ '*' :: entry.2, isBreak c = false := by
        intro c hc
        rcases List.mem_append.1 hc with hc | hc
        · exact (hindent c hc).2
        · rcases List.mem_cons.1 hc with rfl | hc
          · rfl
          · exact hline.noBreak c hc
      have hrest := ih fun entry hmem => hentries entry (List.mem_cons_of_mem _ hmem)
      have hfirst := lines_append_line_feed hbreak
        (entries.flatMap (fun entry => entry.1 ++ '*' :: (entry.2 ++ ['\n'])) ++ last)
      rw [hrest] at hfirst
      simpa using hfirst

theorem lines_indent {indent : Text} (h : IsIndent indent) :
    lines indent = [] ∨ lines indent = [indent] := by
  cases indent with
  | nil => exact .inl lines_nil
  | cons c indent => exact .inr (lines_of_not_isBreak (fun d hd => (h d hd).2) (by simp))

theorem blockBody_starred {entries : List (Text × Text)} {last : Text}
    (hentries : ∀ entry ∈ entries, IsIndent entry.1 ∧ IsDocLine entry.2)
    (hlast : IsIndent last) :
    blockBody (starred entries last) = unlines ([] :: (entries.map Prod.snd ++ lines last)) := by
  have hdrop : (starred entries last).drop 3 =
      '\n' :: (entries.flatMap (fun entry => entry.1 ++ '*' :: (entry.2 ++ ['\n'])) ++ last) ++
        ("*/" : Text) := rfl
  have hstars : entries.map (fun entry => dropStar (entry.1 ++ '*' :: entry.2)) =
      entries.map Prod.snd := by
    apply List.map_congr_left
    intro entry hmem
    exact dropStar_starred (hentries entry hmem).1 (hentries entry hmem).2
  have hend : (lines last).map dropStar = lines last := by
    rcases lines_indent hlast with hlines | hlines <;> rw [hlines]
    · rfl
    · rw [List.map_singleton, dropStar_indent hlast]
  rw [blockBody, hdrop, dropTail_append, lines_line_feed, lines_starred hentries]
  simp only [List.map_cons, List.map_append, List.map_map, Function.comp_def, hstars, hend]
  rfl

theorem blocks_starred {entries : List (Text × Text)} {last : Text}
    (hentries : ∀ entry ∈ entries, IsIndent entry.1 ∧ IsDocLine entry.2)
    (hlast : IsIndent last) :
    blocks [starred entries last] = [unlines ([] :: (entries.map Prod.snd ++ lines last))] := by
  have hmark : (starred entries last).getLast? = some '/' := by
    unfold starred
    rw [List.getLast?_append]
    rfl
  have hstrip : strip (starred entries last) = starred entries last := by
    apply strip_eq_self
    · rintro c ⟨⟩
      rfl
    · intro c hc
      cases hmark.symm.trans hc
      rfl
  have hblock : Comment.ofText (starred entries last) =
      .block (blockBody (starred entries last)) := rfl
  rw [blocks, List.map_singleton, hstrip, hblock, blockBody_starred hentries hlast]
  rfl

/-! ## Blanks around a block -/

theorem not_mem_of_blank {text : Text} {c : Char} (h : ∀ d ∈ text, isBlank d = true)
    (hc : isBlank c = false) : c ∉ text := by
  intro hmem
  rw [h c hmem] at hc
  cases hc

theorem summary_surrounded {lead tail : Text} (hlead : ∀ c ∈ lead, isBlank c = true)
    (htail : ∀ c ∈ tail, isBlank c = true) (text : Text) :
    summary [lead ++ text ++ tail] = summary [text] := by
  have hopen : '<' ∉ lead := not_mem_of_blank hlead (by decide)
  have hclose : '>' ∉ tail := not_mem_of_blank htail (by decide)
  simp only [summary, element?_append hclose, element?_lead hopen]
  cases element? "summary" text <;> rfl

theorem exceptions_surrounded {lead tail : Text} (hlead : ∀ c ∈ lead, isBlank c = true)
    (htail : ∀ c ∈ tail, isBlank c = true) (text : Text) :
    exceptions [lead ++ text ++ tail] = exceptions [text] := by
  have hopen : '<' ∉ lead := not_mem_of_blank hlead (by decide)
  have hclose : '>' ∉ tail := not_mem_of_blank htail (by decide)
  simp only [exceptions, exceptionEntries, List.flatMap_cons, elements_append hclose,
    elements_lead hopen]

theorem unlines_surrounded (texts : List Text) {last : Text} (hlast : IsIndent last) :
    ∃ lead tail, unlines ([] :: (texts ++ lines last)) = lead ++ unlines texts ++ tail ∧
      (∀ c ∈ lead, isBlank c = true) ∧ ∀ c ∈ tail, isBlank c = true := by
  have hfeed : ∀ c ∈ ("\n" : Text), isBlank c = true := List.forall_mem_singleton.2 rfl
  have hblank : ∀ c ∈ last, isBlank c = true := fun c hc => (hlast c hc).1
  -- An empty list of lines leaves no line feed between the two blank ends.
  cases texts with
  | nil =>
      rcases lines_indent hlast with hlines | hlines <;> rw [hlines]
      · exact ⟨[], [], rfl, by simp, by simp⟩
      · exact ⟨"\n", last, rfl, hfeed, hblank⟩
  | cons text texts =>
      rcases lines_indent hlast with hlines | hlines <;> rw [hlines]
      · refine ⟨"\n", [], ?_, hfeed, by simp⟩
        rw [List.append_nil, List.append_nil]
        rfl
      · refine ⟨"\n", "\n" ++ last, ?_, hfeed, ?_⟩
        · have hjoin : unlines (text :: texts ++ [last]) =
              unlines (text :: texts) ++ "\n" ++ last :=
            join_append "\n" (by simp) (by simp)
          calc unlines ([] :: (text :: texts ++ [last]))
            _ = "\n" ++ unlines (text :: texts ++ [last]) := rfl
            _ = "\n" ++ unlines (text :: texts) ++ ("\n" ++ last) := by
              rw [hjoin]
              simp only [List.append_assoc]
        · intro c hc
          rcases List.mem_append.1 hc with hc | hc
          · exact hfeed c hc
          · exact hblank c hc

/-! ## Agreement -/

theorem summary_runBlock (run : List Text) : summary (runBlock run) = summary [unlines run] := by
  cases run <;> rfl

theorem exceptions_runBlock (run : List Text) :
    exceptions (runBlock run) = exceptions [unlines run] := by
  cases run with
  | nil =>
      have hnone : elements "exception" (unlines []) = [] := elements_of_none rfl
      rw [exceptions, exceptions, exceptionEntries, exceptionEntries, List.flatMap_cons, hnone]
      rfl
  | cons line run => rfl

/-- Documentation in front of two sites, once as a run of lines and once as a block, has
the same summary and the same exceptions. -/
theorem styles_agree {entries : List (Text × Text)} {last : Text} {source source' : Bytes}
    {site site' : Site}
    (hentries : ∀ entry ∈ entries, IsIndent entry.1 ∧ IsDocLine entry.2)
    (hlast : IsIndent last)
    (hsite : site.PrecededBy source (slashed (entries.map Prod.snd)))
    (hsite' : site'.PrecededBy source' [starred entries last]) :
    ∃ lineBlocks starBlocks, site.blocks? source = some lineBlocks ∧
      site'.blocks? source' = some starBlocks ∧ summary lineBlocks = summary starBlocks ∧
      exceptions lineBlocks = exceptions starBlocks := by
  have hlines : ∀ line ∈ entries.map Prod.snd, IsDocLine line := by
    intro line hline
    obtain ⟨entry, hmem, rfl⟩ := List.mem_map.1 hline
    exact (hentries entry hmem).2
  obtain ⟨lead, tail, hunlines, hlead, htail⟩ :=
    unlines_surrounded (entries.map Prod.snd) hlast
  refine ⟨_, _, Site.blocks?_of_precededBy hsite, Site.blocks?_of_precededBy hsite', ?_, ?_⟩
  · rw [blocks_slashed hlines, blocks_starred hentries hlast, hunlines, summary_runBlock,
      summary_surrounded hlead htail]
  · rw [blocks_slashed hlines, blocks_starred hentries hlast, hunlines, exceptions_runBlock,
      exceptions_surrounded hlead htail]

def Sample.entries : List (Text × Text) :=
  [([], "<summary>"), (" ", " **A* /"), ("\t ", []), ([], "</summary><exception"),
    ("  ", " cref='E'>B</exception>")]

/-- A site behind comments that start and stop at the given places. -/
def Sample.site (ranges : List (Nat × Nat)) : Site where
  node := ⟨"class_declaration", true, none, 0, 0, []⟩
  before := (ranges.map fun range => ⟨"comment", true, none, range.1, range.2, []⟩).reverse

theorem styles_agree_sample :
    ∃ lineBlocks starBlocks,
      (Sample.site [(0, 12), (13, 23), (24, 27), (28, 51), (52, 78)]).blocks?
          (Utf8.encode (unlines (slashed (Sample.entries.map Prod.snd)))) =
        some lineBlocks ∧
      (Sample.site [(0, 81)]).blocks? (Utf8.encode (starred Sample.entries " ")) =
        some starBlocks ∧
      summary lineBlocks = summary starBlocks ∧
      exceptions lineBlocks = exceptions starBlocks := by
  have hentries : ∀ entry ∈ Sample.entries, IsIndent entry.1 ∧ IsDocLine entry.2 := by
    decide +kernel
  have hlast : IsIndent " " := by decide +kernel
  have hlines : (Sample.site [(0, 12), (13, 23), (24, 27), (28, 51), (52, 78)]).comments?
      (Utf8.encode (unlines (slashed (Sample.entries.map Prod.snd)))) =
        some (slashed (Sample.entries.map Prod.snd)) := by decide +kernel
  have hblock : (Sample.site [(0, 81)]).comments?
      (Utf8.encode (starred Sample.entries " ")) = some [starred Sample.entries " "] := by
    decide +kernel
  exact styles_agree hentries hlast (Site.comments?_eq_some_iff.1 hlines)
    (Site.comments?_eq_some_iff.1 hblock)

end ClassWiki.Doc
