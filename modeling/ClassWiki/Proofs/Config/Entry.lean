import ClassWiki.Proofs.Config.Invariant

/-!
# One entry laid over settings

An entry is at fault if it gives a table that is no map, or kinds that are no list of texts.
Every other entry sets its own key, but to a settled value: a table is itself laid over the
table that was there, and the kinds lose their repetitions.
-/

namespace ClassWiki.Settings

open Mapping

/-! ## Entries at fault -/

/-- Both tables are maps. -/
def HasTables (settings : Mapping) : Prop :=
  ∀ name, isTable name = true → ∃ table, get? settings (.text name) = some (.map table)

theorem forall_isTable {P : Text → Prop} (hsections : P "sections") (hlinks : P "links") :
    ∀ name, isTable name = true → P name := by
  intro name hname
  simp only [isTable, Bool.or_eq_true, beq_iff_eq] at hname
  rcases hname with rfl | rfl
  · exact hsections
  · exact hlinks

/-- The entry gives a table that is no map, or kinds that are no list of texts. -/
def Offends (entry : Scalar × Value) : Prop :=
  (∃ name, isTable name = true ∧ entry.1 = .text name ∧ ∀ table, entry.2 ≠ .map table) ∨
    entry.1 = .text "declaration_kinds" ∧ ∀ kinds : List Text, entry.2 ≠ .list (kinds.map .text)

theorem texts?_eq_some_iff {value : Value} {kinds : List Text} :
    texts? value = some kinds ↔ value = .list (kinds.map .text) := by
  have htext : ∀ (item : Value) kind, item.text? = some kind ↔ item = .text kind := by
    intro item kind
    unfold Value.text?
    split <;> simp_all [Value.text]
  cases value with
  | scalar value => simp [texts?]
  | map entries => simp [texts?]
  | set items => simp [texts?]
  | pair first second => simp [texts?]
  | list items =>
      rw [texts?, Value.list.injEq]
      induction items generalizing kinds with
      | nil => cases kinds <;> simp
      | cons item items ih =>
          simp only [List.mapM_cons, Option.bind_eq_bind, Option.bind_eq_some_iff, htext, ih,
            Option.pure_def, Option.some.injEq]
          cases kinds with
          | nil => simp
          | cons kind kinds => simp [and_left_comm, eq_comm]

/-- A key of a table, or that of the kinds. -/
def IsReserved (key : Scalar) : Prop :=
  (∃ name, isTable name = true ∧ key = .text name) ∨ key = .text "declaration_kinds"

theorem isReserved_text_iff {name : Text} :
    IsReserved (.text name) ↔ isTable name = true ∨ name = "declaration_kinds" := by
  simp [IsReserved]

/-- The entries that are not at fault. -/
inductive Allowed : Scalar → Value → Prop
  | table {name : Text} (more : Mapping) : isTable name = true → Allowed (.text name) (.map more)
  | kinds (kinds : List Text) :
      Allowed (.text "declaration_kinds") (.list (kinds.map .text))
  | other {key : Scalar} (value : Value) : ¬IsReserved key → Allowed key value

theorem allowed_iff {key : Scalar} {value : Value} : Allowed key value ↔ ¬Offends (key, value) := by
  constructor
  · rintro h (⟨name, hname, hkey, hmap⟩ | ⟨hkey, hkinds⟩)
    · cases h with
      | table more => exact hmap more rfl
      | kinds => cases hkey; cases hname
      | other value hreserved => exact hreserved (.inl ⟨name, hname, hkey⟩)
    · cases h with
      | table more hname => cases hkey; cases hname
      | kinds kinds => exact hkinds kinds rfl
      | other value hreserved => exact hreserved (.inr hkey)
  · intro h
    by_cases hkey : IsReserved key
    · rcases hkey with ⟨name, htable, rfl⟩ | rfl
      · by_cases hmap : ∃ more, value = .map more
        · obtain ⟨more, rfl⟩ := hmap
          exact .table more htable
        · exact absurd (.inl ⟨name, htable, rfl, not_exists.1 hmap⟩) h
      · by_cases hkinds : ∃ kinds : List Text, value = .list (kinds.map .text)
        · obtain ⟨kinds, rfl⟩ := hkinds
          exact .kinds kinds
        · exact absurd (.inr ⟨rfl, not_exists.1 hkinds⟩) h
    · exact .other value hkey

/-! ## One entry -/

/-- The table under a name, empty if there is none. -/
def tableOf (settings : Mapping) (name : Text) : Mapping :=
  match get? settings (.text name) with
  | some (.map table) => table
  | _ => []

/-- What the key is set to when the entry is laid over the settings. -/
def settled (settings : Mapping) (key : Scalar) (value : Value) : Value :=
  match key with
  | .text name =>
      if isTable name then
        match value with
        | .map more => .map (update (tableOf settings name) more)
        | _ => value
      else if name = "declaration_kinds" then
        match texts? value with
        | some kinds => .list (kinds.eraseDups.map .text)
        | none => value
      else value
  | _ => value

section

variable {settings : Mapping} {path : Path} {key : Scalar} {value : Value}

theorem HasTables.get? (h : HasTables settings) {name : Text} (hname : isTable name = true) :
    Mapping.get? settings (.text name) = some (.map (tableOf settings name)) := by
  obtain ⟨table, htable⟩ := h name hname
  rw [tableOf, htable]

theorem settled_table {name : Text} (h : isTable name = true) (more : Mapping) :
    settled settings (.text name) (.map more) = .map (update (tableOf settings name) more) := by
  rw [settled, if_pos h]

theorem settled_kinds (kinds : List Text) :
    settled settings (.text "declaration_kinds") (.list (kinds.map .text)) =
      .list (kinds.eraseDups.map .text) := by
  have htexts : texts? (.list (kinds.map .text)) = some kinds := texts?_eq_some_iff.2 rfl
  unfold settled
  dsimp only
  rw [if_neg (by decide), if_pos rfl, htexts]

theorem settled_other (h : ¬IsReserved key) (value : Value) :
    settled settings key value = value := by
  unfold settled
  split
  · next name =>
      rw [isReserved_text_iff, not_or] at h
      rw [if_neg h.1, if_neg h.2]
  · rfl

theorem applyEntry_other (h : ¬IsReserved key) (settings value : Value) :
    applyEntry path settings key value = assign settings key value := by
  unfold applyEntry
  split
  · next name =>
      rw [isReserved_text_iff, not_or] at h
      rw [if_neg h.1, if_neg h.2]
  · rfl

/-- An entry that is not at fault sets its key to the settled value. -/
theorem applyEntry_settled (hsettings : HasTables settings) (h : Allowed key value) :
    applyEntry path (.map settings) key value =
      .ok (.map (set key (settled settings key value) settings)) := by
  cases h with
  | @table name more htable =>
      rw [applyEntry, if_pos htable, merge, hsettings.get? htable, settled_table htable]
  | kinds kinds =>
      have htexts : texts? (.list (kinds.map .text)) = some kinds := texts?_eq_some_iff.2 rfl
      rw [settled_kinds]
      unfold applyEntry
      dsimp only
      rw [if_neg (by decide), if_pos rfl, htexts]
      rfl
  | other value hkey =>
      rw [applyEntry_other hkey, settled_other hkey]
      rfl

theorem applyEntry_of_offends (path : Path) (settings : Value) (h : Offends (key, value)) :
    ∃ fault, applyEntry path settings key value = .error fault ∧
      fault.ending?.isSome = true := by
  rcases h with ⟨name, htable, rfl, hmap⟩ | ⟨rfl, hkinds⟩
  · refine ⟨.tableNotMap path name, ?_, rfl⟩
    rw [applyEntry, if_pos htable]
    exact hmap
  · refine ⟨.kindsNotTexts path, ?_, rfl⟩
    have hnone : texts? value = none := by
      rw [Option.eq_none_iff_forall_ne_some]
      exact fun kinds htexts => hkinds kinds (texts?_eq_some_iff.1 htexts)
    unfold applyEntry
    dsimp only
    rw [if_neg (by decide), if_pos rfl, hnone]

theorem HasTables.set (hsettings : HasTables settings) (h : Allowed key value) :
    HasTables (Mapping.set key (settled settings key value) settings) := by
  intro name hname
  rw [Mapping.get?_set]
  split
  · next hkey =>
      subst hkey
      cases h with
      | table more htable => exact ⟨_, by rw [settled_table htable]⟩
      | kinds => cases hname
      | other value hkey => exact absurd (.inl ⟨name, hname, rfl⟩) hkey
  · exact hsettings name hname

end

end ClassWiki.Settings
