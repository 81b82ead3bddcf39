import ClassWiki.Page
import ClassWiki.Proofs.Declaration.Locality
import ClassWiki.Proofs.Doc.Comment
import ClassWiki.Proofs.Doc.Content

/-!
# Summaries on a page

Every summary of a declaration is a cleaned text, so none of its lines starts with a blank.
The list entries of a page start with a tab, and a summary cannot be taken for one of them:
the lines of the page that start with a tab are the same whatever the summaries say.
-/

namespace ClassWiki

/-! ## Lines that start with a tab -/

namespace Text

def tabLines (text : Text) : List Text := (lines text).filter fun line => line.head? == some '\t'

/-- A line feed ends the line in front of it, unless that line is ended already: then it is part
of the same break, or a line of its own. -/
theorem exists_lines_append_line_feed (text rest : Text) :
    ∃ gap, lines (text ++ '\n' :: rest) = lines text ++ gap ++ lines rest ∧
      (text = [] → gap = [[]]) ∧ ∀ line ∈ gap, line = [] := by
  have hempty : ∀ line ∈ [([] : Text)], line = [] := by simp
  have hnone : ∀ line ∈ ([] : List Text), line = [] := by simp
  fun_induction lines text with
  | case1 => exact ⟨[[]], lines_line_feed rest, fun _ => rfl, hempty⟩
  | case2 text ih =>
      obtain ⟨gap, hlines, -, hgap⟩ := ih
      refine ⟨gap, ?_, by simp, hgap⟩
      simp only [List.cons_append, lines, hlines]
  | case3 c text hpair hbreak ih =>
      obtain ⟨gap, hlines, -, hgap⟩ := ih
      by_cases hreturn : c = '\r' ∧ text = []
      · obtain ⟨rfl, rfl⟩ := hreturn
        refine ⟨[], ?_, by simp, hnone⟩
        simp [lines]
      · refine ⟨gap, ?_, by simp, hgap⟩
        rw [List.cons_append, lines_cons_of_isBreak hbreak, hlines]
        · rfl
        · rintro rfl hhead
          cases text with
          | nil => exact hreturn ⟨rfl, rfl⟩
          | cons d text =>
              cases hhead
              exact hpair text rfl rfl
  | case4 c text hpair hbreak ih =>
      obtain ⟨gap, hlines, hfirst, hgap⟩ := ih
      rw [List.cons_append, lines_cons_of_not_isBreak _ (Bool.eq_false_iff.2 hbreak), hlines]
      cases hown : lines text with
      | nil =>
          rw [hfirst (lines_eq_nil_iff.1 hown)]
          exact ⟨[], rfl, by simp, hnone⟩
      | cons line more => exact ⟨gap, rfl, by simp, hgap⟩

theorem tabLines_append_line_feed (text rest : Text) :
    tabLines (text ++ '\n' :: rest) = tabLines text ++ tabLines rest := by
  obtain ⟨gap, hlines, -, hgap⟩ := exists_lines_append_line_feed text rest
  have hnone : gap.filter (fun line => line.head? == some '\t') = [] := by
    rw [List.filter_eq_nil_iff]
    intro line hline
    rw [hgap line hline]
    decide
  rw [tabLines, hlines, List.filter_append, List.filter_append, hnone, List.append_nil]
  rfl

theorem tabLines_unlines (parts : List Text) :
    tabLines (unlines parts) = parts.flatMap tabLines := by
  induction parts with
  | nil => rfl
  | cons part parts ih =>
      by_cases hparts : parts = []
      · subst hparts
        simp [unlines]
      · rw [unlines_cons hparts, tabLines_append_line_feed, ih, List.flatMap_cons]

end Text

open Text

theorem Page.tabLines_text (page : Page) : tabLines page.text = page.lines.flatMap tabLines := by
  rw [text, show ("\n" : Text) = '\n' :: [] from rfl, tabLines_append_line_feed, tabLines_unlines]
  exact List.append_nil _

/-! ## Summaries of a declaration -/

namespace Doc

theorem tidy_summary (blocks : List Text) : Tidy (summary blocks) := by
  fun_induction summary blocks with
  | case1 => exact tidy_clean []
  | case2 block blocks element rest hfound => exact tidy_clean element.content
  | case3 block blocks hnone ih => exact ih

theorem Tidy.tabLines_eq {text : Text} (h : Tidy text) : tabLines text = [] := by
  rw [tabLines, List.filter_eq_nil_iff]
  intro line hline htab
  cases (h.trimmed_of_mem_lines hline).head '\t' (beq_iff_eq.1 htab)

end Doc

section Members

variable {source : Bytes} {site : Site}

theorem Variable.tidy_of_ofField? {entry : Variable}
    (h : ofField? source site = some (some entry)) : Doc.Tidy entry.summary := by
  rw [ofField?] at h
  split at h
  · cases h
  · split at h
    all_goals
      simp only [Option.bind_eq_bind, Option.bind_eq_some_iff] at h
      obtain ⟨name, -, type, -, blocks, -, hentry⟩ := h
      cases hentry
      exact Doc.tidy_summary blocks

theorem Variable.tidy_of_ofProperty? {entry : Variable}
    (h : ofProperty? source site = some entry) : Doc.Tidy entry.summary := by
  simp only [ofProperty?, Option.bind_eq_bind, Option.bind_eq_some_iff] at h
  obtain ⟨name, -, type, -, blocks, -, hentry⟩ := h
  cases hentry
  exact Doc.tidy_summary blocks

theorem Method.tidy_of_ofSite? {method : Method} (h : ofSite? source site = some method) :
    Doc.Tidy method.summary := by
  simp only [ofSite?, Option.bind_eq_bind, Option.bind_eq_some_iff] at h
  obtain ⟨blocks, -, name, -, type, -, parameters, -, calls, -, hmethod⟩ := h
  cases hmethod
  exact Doc.tidy_summary blocks

end Members

namespace Declaration

def summaries (declaration : Declaration) : List Text :=
  declaration.summary :: (declaration.fields.map Variable.summary ++
    declaration.properties.map Variable.summary ++ declaration.methods.map Method.summary)

theorem tidy_summaries {source : Bytes} {site : Site} {declaration : Declaration}
    (h : ofSite? source site = some declaration) :
    ∀ summary ∈ declaration.summaries, Doc.Tidy summary := by
  simp only [ofSite?, Option.bind_eq_bind, Option.bind_eq_some_iff] at h
  obtain ⟨name, -, bases, -, blocks, -, fields, hfields, properties, hproperties, methods,
    hmethods, hdeclaration⟩ := h
  cases hdeclaration
  simp only [Variable.fields?, Option.bind_eq_bind, Option.bind_eq_some_iff] at hfields
  obtain ⟨entries, hentries, hkept⟩ := hfields
  cases hkept
  simp only [summaries, List.forall_mem_cons, List.forall_mem_append, List.forall_mem_map]
  refine ⟨Doc.tidy_summary blocks, ⟨?_, ?_⟩, ?_⟩
  · intro entry hentry
    obtain ⟨own, hown, hid⟩ := List.mem_filterMap.1 hentry
    obtain ⟨site, -, hsite⟩ := exists_mem_of_mapM hentries hown
    exact Variable.tidy_of_ofField? (hsite.trans (congrArg some hid))
  · intro entry hentry
    obtain ⟨site, -, hsite⟩ := exists_mem_of_mapM hproperties hentry
    exact Variable.tidy_of_ofProperty? hsite
  · intro method hmethod
    obtain ⟨site, -, hsite⟩ := exists_mem_of_mapM hmethods hmethod
    exact Method.tidy_of_ofSite? hsite

/-! ## Other summaries on the same page -/

def mapSummaries (f : Text → Text) (declaration : Declaration) : Declaration :=
  { declaration with
    summary := f declaration.summary
    fields := declaration.fields.map fun entry => { entry with summary := f entry.summary }
    properties := declaration.properties.map fun entry => { entry with summary := f entry.summary }
    methods := declaration.methods.map fun method => { method with summary := f method.summary } }

/-- The declaration with a dash in the place of every summary that is not empty. -/
def masked (declaration : Declaration) : Declaration :=
  declaration.mapSummaries fun summary => if summary.isEmpty then [] else "-"

end Declaration

namespace Page

/-- Both texts are empty or none is, and the same lines of them start with a tab. -/
def Interchangeable (text text' : Text) : Prop :=
  text.isEmpty = text'.isEmpty ∧ tabLines text = tabLines text'

variable {options : PageOptions} {f : Text → Text}

theorem tabLines_optional (heading : Text) {text text' : Text} (h : Interchangeable text text') :
    (optional heading text).flatMap tabLines = (optional heading text').flatMap tabLines := by
  rw [optional, optional, ← h.1]
  split
  · rfl
  · simp only [List.flatMap_cons, h.2]

theorem tabLines_summaryParts {text text' : Text} (h : Interchangeable text text') :
    (summaryParts text).flatMap tabLines = (summaryParts text').flatMap tabLines := by
  rw [summaryParts, summaryParts, ← h.1]
  split
  · rfl
  · simp only [List.flatMap_cons, h.2]

theorem tabLines_variables {entries : List Variable}
    (h : ∀ entry ∈ entries, Interchangeable entry.summary (f entry.summary)) :
    (entries.flatMap variableParts).flatMap tabLines =
      ((entries.map fun entry => { entry with summary := f entry.summary }).flatMap
        variableParts).flatMap tabLines := by
  rw [List.flatMap_map, List.flatMap_assoc, List.flatMap_assoc]
  apply List.flatMap_congr
  intro entry hentry
  simp only [variableParts, List.flatMap_cons, tabLines_optional _ (h entry hentry)]

theorem tabLines_methods {methods : List Method}
    (h : ∀ method ∈ methods, Interchangeable method.summary (f method.summary)) :
    (methods.flatMap (methodParts options)).flatMap tabLines =
      ((methods.map fun method => { method with summary := f method.summary }).flatMap
        (methodParts options)).flatMap tabLines := by
  rw [List.flatMap_map, List.flatMap_assoc, List.flatMap_assoc]
  apply List.flatMap_congr
  intro method hmethod
  simp only [methodParts, List.flatMap_cons, List.flatMap_append,
    tabLines_optional _ (h method hmethod)]

theorem tabLines_mapSummaries {declaration : Declaration}
    (h : ∀ summary ∈ declaration.summaries, Interchangeable summary (f summary)) :
    tabLines (ofDeclaration options declaration).text =
      tabLines (ofDeclaration options (declaration.mapSummaries f)).text := by
  simp only [Declaration.summaries, List.forall_mem_cons, List.forall_mem_append,
    List.forall_mem_map] at h
  obtain ⟨hsummary, ⟨hfields, hproperties⟩, hmethods⟩ := h
  simp only [tabLines_text, ofDeclaration, Declaration.mapSummaries, List.flatMap_append,
    List.flatMap_cons, tabLines_summaryParts hsummary, tabLines_variables hfields,
    tabLines_variables hproperties, tabLines_methods hmethods]

end Page

theorem Doc.Tidy.interchangeable {summary : Text} (h : Tidy summary) :
    Page.Interchangeable summary (if summary.isEmpty then [] else "-") := by
  constructor
  · split <;> simp_all
  · rw [h.tabLines_eq]
    split <;> rfl

/-- Summaries are cleaned texts.  A cleaned text is tidy, it keeps the stripped lines of the
content but for the empty ones at both ends, and cleaning it once more changes nothing.  So no
line of a summary is taken for an entry of a page, which starts with a tab. -/
theorem summaries_tidy :
    (∀ content, Doc.Tidy (Doc.clean content) ∧
      (Doc.clean content ≠ [] →
        lines (Doc.clean content) = splitOn '\n' (Doc.clean content)) ∧
      (Doc.clean content = [] ↔ ∀ c ∈ content, isBlank c = true) ∧
      (lines (Doc.clean content)).filter (!·.isEmpty) =
        ((lines content).map strip).filter (!·.isEmpty) ∧
      (∃ lead tail, (lines content).map strip = lead ++ lines (Doc.clean content) ++ tail ∧
        (∀ line ∈ lead, line = []) ∧ ∀ line ∈ tail, line = []) ∧
      Doc.clean (Doc.clean content) = Doc.clean content) ∧
    ∀ source site declaration, Declaration.ofSite? source site = some declaration →
      (∀ summary ∈ declaration.summaries, Doc.Tidy summary) ∧
      ∀ options, tabLines (Page.ofDeclaration options declaration).text =
        tabLines (Page.ofDeclaration options declaration.masked).text := by
  refine ⟨fun content => ?_, fun source site declaration h => ?_⟩
  · have htidy := Doc.tidy_clean content
    exact ⟨htidy, htidy.lines_eq, Doc.clean_eq_nil_iff, Doc.filter_lines_clean content,
      Doc.exists_lines_clean content, htidy.clean_eq⟩
  · have htidy := Declaration.tidy_summaries h
    refine ⟨htidy, fun options => ?_⟩
    exact Page.tabLines_mapSummaries fun summary hsummary =>
      (htidy summary hsummary).interchangeable

namespace Sample

def indented : Bytes :=
  Utf8.encode "/**<summary>\ta\n\t\n b</summary>*/\nclass A:B\x7bint f;\x7d"

def indentedSite : Site :=
  ⟨Declaration.Sample.classNode 32, [Declaration.Sample.leaf "comment" true none 0 31]⟩

def summarized : Declaration :=
  { name := "A", bases := ["B"], summary := "a\n\nb", fields := [⟨"f", "int", []⟩],
    properties := [], methods := [] }

end Sample

theorem summaries_tidy_sample :
    Declaration.ofSite? Sample.indented Sample.indentedSite = some Sample.summarized ∧
      Doc.Tidy "a\n\nb" ∧
      (∀ options, tabLines (Page.ofDeclaration options Sample.summarized).text =
        tabLines (Page.ofDeclaration options Sample.summarized.masked).text) ∧
      Doc.clean "\ta\r\n\u2028\x1fb\n" = ("a\n\nb" : Text) ∧
      Doc.clean "a\n\nb" = ("a\n\nb" : Text) := by
  have hsite : Declaration.ofSite? Sample.indented Sample.indentedSite =
      some Sample.summarized := by decide +kernel
  have hclean : Doc.clean "\ta\r\n\u2028\x1fb\n" = ("a\n\nb" : Text) := by decide +kernel
  obtain ⟨hcleaned, hdeclared⟩ := summaries_tidy
  obtain ⟨htidy, hpages⟩ := hdeclared _ _ _ hsite
  obtain ⟨-, -, -, -, -, hagain⟩ := hcleaned "\ta\r\n\u2028\x1fb\n"
  rw [hclean] at hagain
  exact ⟨hsite, htidy _ List.mem_cons_self, hpages, hclean, hagain⟩

end ClassWiki
