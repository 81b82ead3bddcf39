import ClassWiki.Link

/-!
# Links and nested brackets

A text is nested if its brackets pair up, each with a closing bracket of its own kind.
The arguments of a generic type are cut at the commas of depth zero, which keeps every
nested pair together as long as the two outer brackets are themselves a pair.  They need
not be one: in a qualified type such as `A<X>.B<Y, Z>` the first opening bracket and the
last closing one belong to different names.
-/

namespace ClassWiki.Link

open Text

/-! ## Nested texts -/

def closer? : Char → Option Char
  | '<' => some '>'
  | '(' => some ')'
  | '[' => some ']'
  | _ => none

def isBracket (c : Char) : Bool := isOpener c || isCloser c

inductive Nested : Text → Prop
  | nil : Nested []
  | plain {c : Char} {rest : Text} : isBracket c = false → Nested rest → Nested (c :: rest)
  | pair {opening closing : Char} {inside rest : Text} :
      closer? opening = some closing → Nested inside → Nested rest →
        Nested (opening :: inside ++ closing :: rest)

/-- The closing brackets that are owed after a text, the innermost first, if `owing` were
owed before it.  There is no answer when a bracket closes what is not open. -/
def owed (owing : List Char) : Text → Option (List Char)
  | [] => some owing
  | c :: rest =>
      match closer? c with
      | some closing => owed (closing :: owing) rest
      | none =>
          if isCloser c then
            match owing with
            | [] => none
            | due :: owing => if c = due then owed owing rest else none
          else owed owing rest

/-! ## One character -/

private theorem isOpener_eq (c : Char) : isOpener c = (closer? c).isSome := by
  unfold closer?
  split <;> simp_all [isOpener]

private theorem closer?_of_isCloser {c : Char} (h : isCloser c = true) : closer? c = none := by
  simp only [isCloser, Bool.or_eq_true, beq_iff_eq] at h
  rcases h with (rfl | rfl) | rfl <;> rfl

private theorem isCloser_of_closer? {c closing : Char} (h : closer? c = some closing) :
    isCloser closing = true := by
  unfold closer? at h
  split at h <;> cases h <;> rfl

theorem owed_opening {c closing : Char} (owing : List Char) (rest : Text)
    (h : closer? c = some closing) :
    owed owing (c :: rest) = owed (closing :: owing) rest := by
  simp [owed, h]

theorem owed_closing {c : Char} (owing : List Char) (rest : Text) (h : isCloser c = true) :
    owed (c :: owing) (c :: rest) = owed owing rest := by
  simp [owed, closer?_of_isCloser h, h]

theorem owed_plain {c : Char} (owing : List Char) (rest : Text) (h : isBracket c = false) :
    owed owing (c :: rest) = owed owing rest := by
  simp only [isBracket, isOpener_eq, Bool.or_eq_false_iff, Option.isSome_eq_false_iff,
    Option.isNone_iff_eq_none] at h
  simp [owed, h]

/-- A character of a text without a fault is no bracket, opens one more pair, or closes the
pair that was opened last. -/
theorem owed_cons_cases {owing final : List Char} {c : Char} {rest : Text}
    (h : owed owing (c :: rest) = some final) :
    (isBracket c = false ∧ owed owing rest = some final) ∨
      (∃ closing, closer? c = some closing ∧ owed (closing :: owing) rest = some final) ∨
      ∃ remaining, isCloser c = true ∧ owing = c :: remaining ∧
        owed remaining rest = some final := by
  cases hcloser : closer? c with
  | some closing => exact .inr (.inl ⟨closing, rfl, by rwa [owed_opening _ _ hcloser] at h⟩)
  | none =>
      cases hclosing : isCloser c with
      | false =>
          have hplain : isBracket c = false := by
            simp [isBracket, isOpener_eq, hcloser, hclosing]
          exact .inl ⟨hplain, by rwa [owed_plain _ _ hplain] at h⟩
      | true =>
          cases owing with
          | nil => simp [owed, hcloser, hclosing] at h
          | cons due remaining =>
              by_cases hdue : c = due
              · subst hdue
                exact .inr (.inr ⟨remaining, rfl, rfl, by rwa [owed_closing _ _ hclosing] at h⟩)
              · simp [owed, hcloser, hclosing, hdue] at h

/-! ## The grammar and the count agree -/

theorem owed_append (owing : List Char) (first second : Text) :
    owed owing (first ++ second) = (owed owing first).bind fun left => owed left second := by
  induction first generalizing owing with
  | nil => rfl
  | cons c first ih =>
      simp only [List.cons_append, owed]
      split
      · exact ih _
      · split
        · split
          · rfl
          · split
            · exact ih _
            · rfl
        · exact ih _

theorem Nested.owed_eq {text : Text} (h : Nested text) (owing : List Char) :
    owed owing text = some owing := by
  induction h generalizing owing with
  | nil => rfl
  | plain hc _ ih => rw [owed_plain _ _ hc, ih]
  | @pair opening closing inside rest hcloser _ _ ihinside ihrest =>
      have hclosing := isCloser_of_closer? hcloser
      rw [List.cons_append, owed_opening _ _ hcloser, owed_append, ihinside, Option.bind_some,
        owed_closing _ _ hclosing, ihrest]

/-- The text pays what is owed: nested texts with the owed brackets between them. -/
def Pays : List Char → Text → Prop
  | [], text => Nested text
  | due :: owing, text =>
      ∃ inside rest, text = inside ++ due :: rest ∧ Nested inside ∧ Pays owing rest

private theorem Pays.plain {owing : List Char} {c : Char} {text : Text}
    (hc : isBracket c = false) (h : Pays owing text) : Pays owing (c :: text) := by
  cases owing with
  | nil => exact Nested.plain hc h
  | cons due owing =>
      obtain ⟨inside, rest, rfl, hinside, hrest⟩ := h
      exact ⟨c :: inside, rest, rfl, hinside.plain hc, hrest⟩

private theorem Pays.pair {owing : List Char} {opening closing : Char} {text : Text}
    (hcloser : closer? opening = some closing) (h : Pays (closing :: owing) text) :
    Pays owing (opening :: text) := by
  obtain ⟨inside, rest, rfl, hinside, hrest⟩ := h
  cases owing with
  | nil => exact Nested.pair hcloser hinside hrest
  | cons due owing =>
      obtain ⟨inside', rest', rfl, hinside', hrest'⟩ := hrest
      exact ⟨opening :: inside ++ closing :: inside', rest', by simp,
        Nested.pair hcloser hinside hinside', hrest'⟩

theorem pays_of_owed {owing : List Char} {text : Text} (h : owed owing text = some []) :
    Pays owing text := by
  induction text generalizing owing with
  | nil =>
      cases h
      exact Nested.nil
  | cons c rest ih =>
      rcases owed_cons_cases h with ⟨hplain, hrest⟩ | ⟨closing, hcloser, hrest⟩ |
        ⟨remaining, -, rfl, hrest⟩
      · exact (ih hrest).plain hplain
      · exact (ih hrest).pair hcloser
      · exact ⟨[], rest, rfl, Nested.nil, ih hrest⟩

theorem nested_iff_owed {text : Text} : Nested text ↔ owed [] text = some [] :=
  ⟨fun h => h.owed_eq [], fun h => pays_of_owed h⟩

instance (text : Text) : Decidable (Nested text) :=
  decidable_of_iff (owed [] text = some []) nested_iff_owed.symm

/-! ## Parts of a nested text -/

theorem Nested.append {first second : Text} (hfirst : Nested first) (hsecond : Nested second) :
    Nested (first ++ second) := by
  rw [nested_iff_owed, owed_append, hfirst.owed_eq, Option.bind_some, hsecond.owed_eq]

theorem Nested.join {parts : List Text} (h : ∀ part ∈ parts, Nested part) :
    Nested (join "," parts) := by
  induction parts with
  | nil => exact Nested.nil
  | cons part parts ih =>
      have hpart : Nested part := h part List.mem_cons_self
      cases parts with
      | nil => exact hpart
      | cons next parts =>
          have hcomma : Nested (",") := by decide
          have hrest := ih fun part hmem => h part (List.mem_cons_of_mem _ hmem)
          exact (hpart.append hcomma).append hrest

private theorem owed_blanks {blanks : Text} (h : ∀ c ∈ blanks, isBlank c = true)
    (owing : List Char) : owed owing blanks = some owing := by
  induction blanks with
  | nil => rfl
  | cons c blanks ih =>
      have hblank := h c List.mem_cons_self
      have hplain : isBracket c = false := by
        rw [Bool.eq_false_iff]
        intro hbracket
        simp only [isBracket, isOpener, isCloser, Bool.or_eq_true, beq_iff_eq] at hbracket
        rcases hbracket with ((rfl | rfl) | rfl) | ((rfl | rfl) | rfl) <;> revert hblank <;> decide
      rw [owed_plain _ _ hplain, ih fun c hmem => h c (List.mem_cons_of_mem _ hmem)]

theorem nested_strip {text : Text} : Nested (strip text) ↔ Nested text := by
  obtain ⟨lead, tail, htext, hlead, htail⟩ := exists_eq_append_strip text
  have howed : owed [] (lead ++ strip text ++ tail) = owed [] (strip text) := by
    rw [owed_append, owed_append, owed_blanks hlead, Option.bind_some]
    cases owed [] (strip text) with
    | none => rfl
    | some left => exact owed_blanks htail left
  rw [← htext] at howed
  rw [nested_iff_owed, nested_iff_owed, howed]

private theorem splitFrom_extend {depth next : Int} {c : Char} {rest first : Text}
    {others : List Text} (hcomma : ¬(c = ',' ∧ depth = 0)) (hnext : depth + step c = next)
    (hsplit : splitFrom next rest = first :: others) :
    splitFrom depth (c :: rest) = (c :: first) :: others := by
  rw [splitFrom, if_neg hcomma, hnext, hsplit]
  rfl

/-- The first part pays what was owed before it, and all others are nested.  The depth of
the count is the number of brackets owed, so that a comma of depth zero stands between
nested texts. -/
theorem splitFrom_nested {owing : List Char} {text : Text} (h : owed owing text = some []) :
    ∃ first others, splitFrom owing.length text = first :: others ∧
      owed owing first = some [] ∧ ∀ part ∈ others, Nested part := by
  induction text generalizing owing with
  | nil =>
      cases h
      exact ⟨[], [], rfl, rfl, by simp⟩
  | cons c rest ih =>
      rcases owed_cons_cases h with ⟨hplain, hrest⟩ | ⟨closing, hcloser, hrest⟩ |
        ⟨remaining, hclosing, rfl, hrest⟩
      · obtain ⟨first, others, hsplit, hfirst, hothers⟩ := ih hrest
        by_cases hcomma : c = ',' ∧ (owing.length : Int) = 0
        · have hempty : owing = [] := List.eq_nil_of_length_eq_zero (by omega)
          subst hempty
          refine ⟨[], first :: others, ?_, rfl, ?_⟩
          · rw [splitFrom, if_pos hcomma, hsplit]
          · intro part hpart
            rcases List.mem_cons.1 hpart with rfl | hpart
            · exact nested_iff_owed.2 hfirst
            · exact hothers part hpart
        · refine ⟨c :: first, others, ?_, by rwa [owed_plain _ _ hplain], hothers⟩
          have hstep : step c = 0 := by
            simp only [isBracket, Bool.or_eq_false_iff] at hplain
            simp [step, hplain]
          exact splitFrom_extend hcomma (by omega) hsplit
      · obtain ⟨first, others, hsplit, hfirst, hothers⟩ := ih hrest
        refine ⟨c :: first, others, ?_, by rwa [owed_opening _ _ hcloser], hothers⟩
        have hstep : step c = 1 := by simp [step, isOpener_eq, hcloser]
        refine splitFrom_extend ?_ ?_ hsplit
        · rintro ⟨rfl, -⟩
          cases hcloser
        · rw [hstep, List.length_cons]
          omega
      · obtain ⟨first, others, hsplit, hfirst, hothers⟩ := ih hrest
        refine ⟨c :: first, others, ?_, by rwa [owed_closing _ _ hclosing], hothers⟩
        have hstep : step c = -1 := by
          simp [step, isOpener_eq, closer?_of_isCloser hclosing, hclosing]
        refine splitFrom_extend ?_ ?_ hsplit
        · rintro ⟨rfl, -⟩
          cases hclosing
        · rw [hstep, List.length_cons]
          omega

theorem forall_splitArguments_nested_iff {arguments : Text} :
    (∀ part ∈ splitArguments arguments, Nested part) ↔ Nested arguments := by
  constructor
  · intro h
    have hjoin := Nested.join h
    rwa [splitArguments, join_splitFrom] at hjoin
  · intro h part hpart
    obtain ⟨first, others, hsplit, hfirst, hothers⟩ := splitFrom_nested (h.owed_eq [])
    rw [splitArguments, show (0 : Int) = ([] : List Char).length from rfl, hsplit] at hpart
    rcases List.mem_cons.1 hpart with rfl | hpart
    · exact nested_iff_owed.2 hfirst
    · exact hothers part hpart

/-! ## Link targets -/

def targets (type : Text) : List Text :=
  match generic? type.strip with
  | some generic => (splitArguments generic.arguments).map strip
  | none => [type.strip]

/-- What stands around the links of a type. -/
def frame (type : Text) : Text × Text :=
  match generic? type.strip with
  | some generic => (generic.name ++ "<", ">")
  | none => ([], [])

theorem ofType_eq_targets (type : Text) :
    ofType type = (frame type).1 ++ join ", " ((targets type).map wrap) ++ (frame type).2 := by
  unfold ofType frame targets
  cases generic? type.strip with
  | none => simp
  | some generic => simp [Function.comp_def]

/-- The links of a nested type have nested targets exactly if it is not generic or the
bracket behind its name and the one at its end are a pair. -/
theorem ofType_targets_nested_iff {type : Text} (h : Nested type) :
    ofType type = (frame type).1 ++ join ", " ((targets type).map wrap) ++ (frame type).2 ∧
      ((∀ target ∈ targets type, Nested target) ↔
        ∀ generic, generic? type.strip = some generic → Nested generic.arguments) := by
  refine ⟨ofType_eq_targets type, ?_⟩
  unfold targets
  cases generic? type.strip with
  | none => simpa using nested_strip.2 h
  | some generic =>
      simp only [List.forall_mem_map, nested_strip, Option.some.injEq, forall_eq']
      exact forall_splitArguments_nested_iff

theorem ofType_targets_nested_iff_sample :
    Nested " Map<Pair<A, B>, (C, D[])>" ∧
      targets " Map<Pair<A, B>, (C, D[])>" =
        [("Pair<A, B>" : Text), "(C, D[])"] ∧
      ∀ target ∈ targets " Map<Pair<A, B>, (C, D[])>", Nested target := by
  have hnested : Nested " Map<Pair<A, B>, (C, D[])>" := by decide +kernel
  have hgeneric : generic? (strip " Map<Pair<A, B>, (C, D[])>") =
      some ⟨"Map", "Pair<A, B>, (C, D[])"⟩ := by decide +kernel
  refine ⟨hnested, by decide +kernel, (ofType_targets_nested_iff hnested).2.2 ?_⟩
  intro generic h
  cases hgeneric.symm.trans h
  decide +kernel

/-- The brackets that enclose the arguments of a qualified type are taken from two names,
and the pairs of both are cut apart. -/
theorem targets_of_qualified_cut_apart :
    Nested "A<X>.B<Y, Z>" ∧ ofType "A<X>.B<Y, Z>" = "A<[[X>.B<Y]], [[Z]]>" ∧
      targets "A<X>.B<Y, Z>" = [("X>.B<Y" : Text), "Z"] ∧ ¬Nested "X>.B<Y" := by
  decide +kernel

end ClassWiki.Link
