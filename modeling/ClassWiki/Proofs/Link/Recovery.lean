import ClassWiki.Proofs.Link.Splitting
import Mathlib.Data.List.Infix

/-!
# Types recovered from their links

A generic type has one name and one list of arguments, and its links show both.  As long as
the arguments close no bracket that they have not opened, the commas inside of a link stand
at least two brackets deep.  So the links can be split again, and two types with the same
links are the same up to the blanks around their arguments.
-/

namespace ClassWiki.Link

open Text

/-! ## Generic types -/

/-- A type is written with the name and the arguments; neither is empty. -/
structure Generic.Denotes (generic : Generic) (type : Text) : Prop where
  text_eq : type = generic.text
  name_ne_nil : generic.name ≠ []
  name_char : ∀ c ∈ generic.name, isNameChar c = true
  arguments_ne_nil : generic.arguments ≠ []

theorem generic?_eq_some_iff {type : Text} {generic : Generic} :
    generic? type = some generic ↔ generic.Denotes type := by
  have hangle : isNameChar '<' = false := by decide +kernel
  constructor
  · intro h
    unfold generic? at h
    split at h
    · next c name rest hname hrest =>
        split at h
        · next hlast =>
            cases h
            obtain ⟨rfl, hchar⟩ := (span_eq_iff hangle).1 ⟨hname, hrest⟩
            obtain ⟨more, rfl⟩ := List.getLast?_eq_some_iff.1 hlast.1
            refine ⟨?_, by simp, hchar, hlast.2⟩
            simp [Generic.text]
        · cases h
    · cases h
  · rintro ⟨rfl, hne, hchar, harguments⟩
    have htext : generic.text = generic.name ++ '<' :: (generic.arguments ++ ['>']) := by
      simp [Generic.text]
    have hspan := (span_eq_iff hangle).2 ⟨htext, hchar⟩
    unfold generic?
    rw [hspan.1, hspan.2]
    cases hname : generic.name with
    | nil => exact absurd hname hne
    | cons c name =>
        simp only [List.getLast?_append, List.dropLast_concat]
        simp [harguments, ← hname]

instance (generic : Generic) (type : Text) : Decidable (generic.Denotes type) :=
  decidable_of_iff (generic? type = some generic) generic?_eq_some_iff

theorem Generic.Denotes.unique {type : Text} {generic generic' : Generic}
    (h : generic.Denotes type) (h' : generic'.Denotes type) : generic = generic' :=
  Option.some.inj ((generic?_eq_some_iff.2 h).symm.trans (generic?_eq_some_iff.2 h'))

/-- The stripped arguments. -/
def Generic.parts (generic : Generic) : List Text := (splitArguments generic.arguments).map strip

/-- The type with its arguments as links. -/
def Generic.linked (generic : Generic) : Text :=
  generic.name ++ "<" ++ join ", " (generic.parts.map wrap) ++ ">"

theorem ofType_of_denotes {type : Text} {generic : Generic} (h : generic.Denotes type.strip) :
    ofType type = generic.linked := by
  rw [ofType, generic?_eq_some_iff.2 h]
  simp [Generic.linked, Generic.parts, Function.comp_def]

theorem ofType_of_not_denotes {type : Text}
    (h : ∀ generic : Generic, ¬generic.Denotes type.strip) : ofType type = wrap type.strip := by
  cases hgeneric : generic? type.strip with
  | none => rw [ofType, hgeneric]
  | some generic => exact absurd (generic?_eq_some_iff.1 hgeneric) (h generic)

/-- No beginning of the text closes more brackets than it opens. -/
def Covered (text : Text) : Prop :=
  ∀ lead, lead <+: text → lead.countP isCloser ≤ lead.countP isOpener

instance (text : Text) : Decidable (Covered text) :=
  decidable_of_iff (∀ lead ∈ text.inits, lead.countP isCloser ≤ lead.countP isOpener)
    (by simp only [List.mem_inits, Covered])

theorem covered_iff {text : Text} : Covered text ↔ ∀ lead, lead <+: text → 0 ≤ depth lead := by
  simp only [Covered, depth_eq_countP]
  constructor <;> intro h lead hlead <;> have := h lead hlead <;> omega

theorem Covered.of_append {first second : Text} (h : Covered (first ++ second)) :
    Covered first :=
  fun lead hlead => h lead (hlead.trans (List.prefix_append first second))

theorem Covered.of_append_right {first second : Text} (h : Covered (first ++ second))
    (hfirst : depth first = 0) : Covered second := by
  rw [covered_iff] at h ⊢
  intro lead hlead
  have hdepth := h (first ++ lead) ((List.prefix_append_right_inj first).2 hlead)
  rwa [depth_append, hfirst, Int.zero_add] at hdepth

theorem Covered.strip {text : Text} (h : Covered text) : Covered (strip text) := by
  obtain ⟨lead, tail, htext, hlead, -⟩ := exists_eq_append_strip text
  rw [htext] at h
  exact h.of_append.of_append_right (depth_of_blank hlead)

theorem Covered.of_join {parts : List Text} (hparts : Parts 0 parts)
    (h : Covered (join "," parts)) : ∀ part ∈ parts, Covered part := by
  induction parts with
  | nil => simp
  | cons part parts ih =>
      cases hparts with
      | last _ => simpa using h
      | more _ hdepth hrest =>
          rw [join_cons_of_ne_nil _ _ hrest.ne_nil] at h
          have hcomma : depth "," = 0 := by decide
          have hjoin : Covered (join "," parts) := by
            refine h.of_append_right ?_
            rw [depth_append, hcomma]
            omega
          exact List.forall_mem_cons.2 ⟨h.of_append.of_append, ih hrest hjoin⟩

/-! ## Links split again -/

theorem depth_wrap (text : Text) : depth (wrap text) = depth text := by
  have hopen : depth "[[" = 2 := by decide
  have hclose : depth "]]" = -2 := by decide
  rw [wrap, depth_append, depth_append, hopen, hclose]
  omega

/-- A comma inside of a link stands at least two brackets deep. -/
theorem solid_wrap {text : Text} (h : Covered text) : Solid 0 (wrap text) := by
  intro lead rest hwrap
  have hopen : depth "[[" = 2 := by decide
  obtain ⟨more, hlead, -⟩ := exists_of_append_eq hwrap (by decide)
  obtain ⟨inside, rfl, hinside⟩ : ∃ inside, lead = "[[" ++ inside ∧ inside <+: text := by
    rcases List.append_eq_append_iff.1 hlead with
      ⟨inside, hopening, htext⟩ | ⟨inside, hopening, hmore⟩
    · exact ⟨inside, hopening, by rw [htext]; exact List.prefix_append _ _⟩
    · cases inside with
      | nil => exact ⟨[], by simpa using hopening.symm, List.nil_prefix⟩
      | cons c inside =>
          cases hmore
          have hcomma : ',' ∈ ("[[" : Text) := by
            rw [hopening]
            exact List.mem_append_right _ List.mem_cons_self
          exact absurd hcomma (by decide)
  have hdepth := covered_iff.1 h inside hinside
  rw [depth_append, hopen]
  omega

theorem solid_space_wrap {text : Text} (h : Covered text) : Solid 0 (' ' :: wrap text) :=
  solid_cons_iff.2 ⟨by simp, solid_wrap h⟩

theorem strip_wrap (text : Text) : strip (wrap text) = wrap text := by
  apply strip_eq_self
  · rintro c ⟨⟩
    rfl
  · intro c hc
    rw [wrap, List.getLast?_append] at hc
    cases hc
    rfl

theorem strip_space_wrap (text : Text) : strip (' ' :: wrap text) = wrap text := by
  rw [strip, stripLeft_cons_of_isBlank _ rfl]
  exact strip_wrap text

/-- Commas with blanks behind them, taken as commas alone. -/
theorem join_spaced (first : Text) (others : List Text) :
    join ", " (first :: others) = join "," (first :: others.map (' ' :: ·)) := by
  induction others generalizing first with
  | nil => rfl
  | cons next others ih =>
      have hspace : join "," ((' ' :: next) :: others.map (' ' :: ·)) =
          ' ' :: join "," (next :: others.map (' ' :: ·)) :=
        join_extend "," ' ' (next :: others.map (' ' :: ·))
      calc join ", " (first :: next :: others)
        _ = first ++ ", " ++ join ", " (next :: others) := rfl
        _ = first ++ "," ++ ' ' :: join "," (next :: others.map (' ' :: ·)) := by
          rw [ih]
          simp
        _ = first ++ "," ++ join "," ((' ' :: next) :: others.map (' ' :: ·)) := by rw [hspace]
        _ = join "," (first :: (next :: others).map (' ' :: ·)) := rfl

/-- The parts of the links that stand for some arguments. -/
theorem splitArguments_links {arguments : Text} (h : Covered arguments) :
    ∃ first others, (splitArguments arguments).map strip = first :: others ∧
      splitArguments (join ", " ((first :: others).map wrap)) =
        wrap first :: others.map (fun part => ' ' :: wrap part) := by
  have hparts : Parts 0 (splitArguments arguments) := parts_splitFrom 0 arguments
  have hcovered : ∀ part ∈ splitArguments arguments, Covered (strip part) := by
    intro part hpart
    refine (Covered.of_join hparts ?_ part hpart).strip
    rwa [splitArguments, join_splitFrom]
  cases hsplit : splitArguments arguments with
  | nil => exact absurd hsplit (splitFrom_ne_nil 0 arguments)
  | cons part parts =>
      rw [hsplit] at hparts hcovered
      refine ⟨strip part, parts.map strip, rfl, ?_⟩
      have hlinks : Parts 0 (wrap (strip part) ::
          parts.map fun part => ' ' :: wrap (strip part)) := by
        have hfirst : Solid 0 (wrap (strip part)) := solid_wrap (hcovered part List.mem_cons_self)
        cases hparts with
        | last _ => exact .last hfirst
        | more _ hdepth hrest =>
            refine .more hfirst (by rwa [depth_wrap, depth_strip]) (hrest.map fun other hmem => ?_)
            refine ⟨solid_space_wrap (hcovered other (List.mem_cons_of_mem _ hmem)), ?_⟩
            have hspace : step ' ' = 0 := by decide
            rw [depth_cons, hspace, depth_wrap, depth_strip, Int.zero_add]
      have hjoin := hlinks.splitFrom_join
      rw [List.map_cons, join_spaced, List.map_map, List.map_map]
      simpa [splitArguments, Function.comp_def] using hjoin

/-! ## Recovery -/

/-- What stands between the first opening angle bracket and the closing one at the end. -/
def inner (link : Text) : Text := dropTail ">" ((link.dropWhile (· != '<')).drop 1)

/-- The link without its brackets. -/
def unwrap (link : Text) : Text := dropTail "]]" (link.drop 2)

def recover (link : Text) : List Text :=
  (splitArguments (inner link)).map fun part => unwrap (strip part)

theorem unwrap_wrap (text : Text) : unwrap (wrap text) = text := by
  show dropTail "]]" (text ++ "]]") = text
  exact dropTail_append "]]" text

theorem Generic.Denotes.span_linked {type : Text} {generic : Generic}
    (h : generic.Denotes type) :
    generic.linked.takeWhile (· != '<') = generic.name ∧
      generic.linked.dropWhile (· != '<') =
        '<' :: (join ", " (generic.parts.map wrap) ++ ">") := by
  refine (span_eq_iff (by decide)).2 ⟨by simp [Generic.linked], fun c hc => ?_⟩
  have hchar := h.name_char c hc
  simp only [bne_iff_ne]
  rintro rfl
  revert hchar
  decide +kernel

theorem recover_linked {type : Text} {generic : Generic} (h : generic.Denotes type)
    (hcovered : Covered generic.arguments) : recover generic.linked = generic.parts := by
  obtain ⟨first, others, hparts, hsplit⟩ := splitArguments_links hcovered
  have hinner : inner generic.linked = join ", " (generic.parts.map wrap) := by
    rw [inner, h.span_linked.2]
    exact dropTail_append ">" _
  have hgeneric : generic.parts = first :: others := hparts
  rw [recover, hinner, hgeneric, hsplit, List.map_cons, strip_wrap, unwrap_wrap, List.map_map]
  simp [Function.comp_def, strip_space_wrap, unwrap_wrap]

theorem eq_of_linked_eq {type type' : Text} {generic generic' : Generic}
    (h : generic.Denotes type) (h' : generic'.Denotes type')
    (hcovered : Covered generic.arguments) (hcovered' : Covered generic'.arguments)
    (hlinked : generic.linked = generic'.linked) :
    generic.name = generic'.name ∧ generic.parts = generic'.parts := by
  constructor
  · rw [← h.span_linked.1, hlinked, h'.span_linked.1]
  · rw [← recover_linked h hcovered, hlinked, recover_linked h' hcovered']

theorem head?_linked {type : Text} {generic : Generic} (h : generic.Denotes type) :
    generic.linked.head? ≠ some '[' := by
  have hbracket : isNameChar '[' = false := by decide +kernel
  obtain ⟨c, name, hname⟩ := List.exists_cons_of_ne_nil h.name_ne_nil
  have hchar := h.name_char c (by rw [hname]; exact List.mem_cons_self)
  rw [Generic.linked, hname]
  rintro ⟨⟩
  exact Bool.false_ne_true (hbracket.symm.trans hchar)

/-- The first character of a link tells whether the type is generic. -/
theorem ofType_cases (type : Text) :
    (∃ generic : Generic, generic.Denotes type.strip ∧ ofType type = generic.linked ∧
        (ofType type).head? ≠ some '[') ∨
      (∀ generic : Generic, ¬generic.Denotes type.strip) ∧ ofType type = wrap type.strip ∧
        (ofType type).head? = some '[' := by
  by_cases h : ∃ generic : Generic, generic.Denotes type.strip
  · obtain ⟨generic, hgeneric⟩ := h
    have htype := ofType_of_denotes hgeneric
    exact .inl ⟨generic, hgeneric, htype, by rw [htype]; exact head?_linked hgeneric⟩
  · rw [not_exists] at h
    have htype := ofType_of_not_denotes h
    exact .inr ⟨h, htype, by rw [htype]; rfl⟩

/-- The arguments of the type, if it has any, close no bracket that they have not opened. -/
def HasCoveredArguments (type : Text) : Prop :=
  ∀ generic : Generic, generic.Denotes type.strip → Covered generic.arguments

instance (type : Text) : Decidable (HasCoveredArguments type) :=
  decidable_of_iff (∀ generic ∈ generic? type.strip, Covered generic.arguments)
    (by simp only [Option.mem_def, generic?_eq_some_iff, HasCoveredArguments])

/-- Both types are not generic and the same up to the blanks around them, or both are
generic with the same name and the same stripped arguments. -/
def Alike (type type' : Text) : Prop :=
  ((∀ generic : Generic, ¬generic.Denotes type.strip) ∧
    (∀ generic : Generic, ¬generic.Denotes type'.strip) ∧ type.strip = type'.strip) ∨
  ∃ generic generic' : Generic, generic.Denotes type.strip ∧ generic'.Denotes type'.strip ∧
    generic.name = generic'.name ∧ generic.parts = generic'.parts

theorem alike_of_ofType_eq {type type' : Text} (hcovered : HasCoveredArguments type)
    (hcovered' : HasCoveredArguments type') (heq : ofType type = ofType type') :
    Alike type type' := by
  rcases ofType_cases type with ⟨generic, h, hlinked, hhead⟩ | ⟨h, hwrap, hhead⟩ <;>
    rcases ofType_cases type' with ⟨generic', h', hlinked', hhead'⟩ | ⟨h', hwrap', hhead'⟩
  · have hsame : generic.linked = generic'.linked := by rw [← hlinked, heq, hlinked']
    exact .inr ⟨generic, generic', h, h',
      eq_of_linked_eq h h' (hcovered generic h) (hcovered' generic' h') hsame⟩
  · rw [heq] at hhead
    exact absurd hhead' hhead
  · rw [heq] at hhead
    exact absurd hhead hhead'
  · have hsame : wrap type.strip = wrap type'.strip := by rw [← hwrap, heq, hwrap']
    refine .inl ⟨h, h', ?_⟩
    rw [← unwrap_wrap type.strip, hsame, unwrap_wrap]

/-- A type is generic in one way at most, and its links show whether it is.  If arguments
close only what they have opened, they are recovered from the links, and types with the same
links are alike. -/
theorem ofType_undone (type : Text) :
    (∀ generic generic' : Generic, generic.Denotes type.strip → generic'.Denotes type.strip →
      generic = generic') ∧
    ((∃ generic : Generic, generic.Denotes type.strip ∧ ofType type = generic.linked ∧
        (ofType type).head? ≠ some '[') ∨
      (∀ generic : Generic, ¬generic.Denotes type.strip) ∧ ofType type = wrap type.strip ∧
        (ofType type).head? = some '[') ∧
    (HasCoveredArguments type →
      (∀ generic : Generic, generic.Denotes type.strip →
        recover (ofType type) = generic.parts) ∧
      ∀ type', HasCoveredArguments type' → ofType type = ofType type' → Alike type type') := by
  refine ⟨fun generic generic' h h' => h.unique h', ofType_cases type, fun hcovered => ⟨?_, ?_⟩⟩
  · intro generic h
    rw [ofType_of_denotes h, recover_linked h (hcovered generic h)]
  · exact fun type' hcovered' heq => alike_of_ofType_eq hcovered hcovered' heq

/-- Commas and brackets inside of the arguments, and blanks around them. -/
theorem ofType_undone_sample :
    HasCoveredArguments " Map< A<B , C>,\tint[][] >" ∧
      HasCoveredArguments "Map<A<B , C>, int[][]>" ∧
      ofType " Map< A<B , C>,\tint[][] >" = "Map<[[A<B , C>]], [[int[][]]]>" ∧
      recover "Map<[[A<B , C>]], [[int[][]]]>" = ["A<B , C>", "int[][]"] ∧
      Alike " Map< A<B , C>,\tint[][] >" "Map<A<B , C>, int[][]>" := by
  have hspaced : HasCoveredArguments " Map< A<B , C>,\tint[][] >" := by decide +kernel
  have hplain : HasCoveredArguments "Map<A<B , C>, int[][]>" := by decide +kernel
  have hlink : ofType " Map< A<B , C>,\tint[][] >" = "Map<[[A<B , C>]], [[int[][]]]>" := by
    decide +kernel
  have hlink' : ofType "Map<A<B , C>, int[][]>" = "Map<[[A<B , C>]], [[int[][]]]>" := by
    decide +kernel
  have hdenotes : Generic.Denotes ⟨"Map", " A<B , C>,\tint[][] "⟩
      (strip " Map< A<B , C>,\tint[][] >") := by decide +kernel
  obtain ⟨hrecover, halike⟩ := (ofType_undone " Map< A<B , C>,\tint[][] >").2.2 hspaced
  refine ⟨hspaced, hplain, hlink, ?_, halike _ hplain (hlink.trans hlink'.symm)⟩
  rw [← hlink, hrecover _ hdenotes]
  decide +kernel

end ClassWiki.Link
