import ClassWiki.Config.Kinds
import ClassWiki.Config.Settings
import ClassWiki.Proofs.Config.Mapping

/-!
# What holds of all settings

However documents are laid over the default settings, both tables stay maps and the
kinds stay a list of distinct texts.  Reading the kinds from such settings gives that
list, or a fault that ends the program with its own message.
-/

namespace ClassWiki

/-! ## Maps with texts as keys -/

namespace Scalar

variable {scalar : Scalar} {text : Text}

theorem key_eq_text_iff : scalar.key = .text text ↔ scalar = .text text := by
  cases scalar with
  | moment value => cases h : value.offset? <;> simp [key, h]
  | _ => simp [key]

theorem same_text_iff : scalar.same (.text text) = true ↔ scalar = .text text := by
  rw [same_iff]
  constructor
  · exact fun h => key_eq_text_iff.1 h.1
  · rintro rfl
    simp [key]

theorem text_same_iff : (Scalar.text text).same scalar = true ↔ scalar = .text text := by
  rw [same_comm, same_text_iff]

end Scalar

namespace Mapping

theorem get?_set (key : Scalar) (value : Value) (entries : Mapping) (name : Text) :
    get? (set key value entries) (.text name) =
      if key = .text name then some value else get? entries (.text name) := by
  rw [get?_set_eq_ite]
  simp only [Scalar.same_text_iff]

end Mapping

namespace Settings

/-! ## The invariant -/

/-- The tables are maps, and the kinds are a list of distinct texts. -/
structure Formed (entries : Mapping) (kinds : List Text) : Prop where
  sections : ∃ table, Mapping.get? entries (.text "sections") = some (.map table)
  links : ∃ table, Mapping.get? entries (.text "links") = some (.map table)
  kinds_eq : Mapping.get? entries (.text "declaration_kinds") = some (.list (kinds.map .text))
  nodup : kinds.Nodup

def Sound (settings : Value) : Prop :=
  ∃ entries kinds, settings = .map entries ∧ Formed entries kinds

theorem sound_defaults : Sound defaults :=
  ⟨_, ["class_declaration"], rfl, ⟨_, rfl⟩, ⟨_, rfl⟩, rfl, by simp⟩

/-- What an entry may be set to. -/
structure Fits (key : Scalar) (value : Value) : Prop where
  table : ∀ name, isTable name = true → key = .text name → ∃ table, value = .map table
  kinds : key = .text "declaration_kinds" →
    ∃ kinds : List Text, kinds.Nodup ∧ value = .list (kinds.map .text)

theorem Formed.set {entries : Mapping} {kinds : List Text} (hformed : Formed entries kinds)
    {key : Scalar} {value : Value} (hfits : Fits key value) :
    Sound (.map (Mapping.set key value entries)) := by
  have htable : ∀ name, isTable name = true →
      (∃ table, Mapping.get? entries (.text name) = some (.map table)) →
      ∃ table, Mapping.get? (Mapping.set key value entries) (.text name) =
        some (.map table) := by
    intro name hname hold
    rw [Mapping.get?_set]
    split
    · next hkey =>
        obtain ⟨table, rfl⟩ := hfits.table name hname hkey
        exact ⟨table, rfl⟩
    · exact hold
  have hsections := htable "sections" rfl hformed.sections
  have hlinks := htable "links" rfl hformed.links
  by_cases hkey : key = .text "declaration_kinds"
  · obtain ⟨new, hnew, rfl⟩ := hfits.kinds hkey
    exact ⟨_, new, rfl, hsections, hlinks, by rw [Mapping.get?_set, if_pos hkey], hnew⟩
  · exact ⟨_, kinds, rfl, hsections, hlinks,
      by rw [Mapping.get?_set, if_neg hkey, hformed.kinds_eq], hformed.nodup⟩

theorem nodup_eraseDups (texts : List Text) : texts.eraseDups.Nodup := by
  cases texts with
  | nil => simp
  | cons text texts =>
      rw [List.eraseDups_cons, List.nodup_cons]
      exact ⟨by simp [List.mem_eraseDups], nodup_eraseDups _⟩
termination_by texts.length
decreasing_by
  have hle := List.length_filter_le (fun other => !other == text) texts
  simp only [List.length_cons]
  omega

/-! ## One entry -/

theorem Sound.merge {settings next : Value} (h : Sound settings) {name : Text}
    (hname : isTable name = true) {more : Mapping}
    (hnext : merge settings name more = .ok next) : Sound next := by
  obtain ⟨entries, kinds, rfl, hformed⟩ := h
  rw [Settings.merge] at hnext
  split at hnext
  · cases hnext
  · next table _ =>
      cases hnext
      refine hformed.set ⟨fun _ _ _ => ⟨_, rfl⟩, ?_⟩
      intro hkinds
      cases hkinds
      cases hname
  · cases hnext

theorem Sound.applyEntry {settings next : Value} (h : Sound settings) {path : Path}
    {key : Scalar} {value : Value} (hnext : applyEntry path settings key value = .ok next) :
    Sound next := by
  unfold Settings.applyEntry at hnext
  split at hnext
  · next name =>
      split at hnext
      · next htable =>
          split at hnext
          · exact h.merge htable hnext
          · cases hnext
      · next htable =>
          obtain ⟨entries, kinds, rfl, hformed⟩ := h
          have hother : ∀ (value : Value) other, isTable other = true →
              Scalar.text name = .text other → ∃ table, value = .map table := by
            rintro value other hother heq
            cases heq
            exact absurd hother htable
          split at hnext
          · split at hnext
            · next texts _ =>
                cases hnext
                exact hformed.set ⟨hother _, fun _ => ⟨_, nodup_eraseDups texts, rfl⟩⟩
            · cases hnext
          · next hname =>
              cases hnext
              refine hformed.set ⟨hother _, ?_⟩
              intro heq
              cases heq
              exact absurd rfl hname
  · next htext =>
      obtain ⟨entries, kinds, rfl, hformed⟩ := h
      cases hnext
      exact hformed.set
        ⟨fun name _ hkey => absurd hkey (htext name), fun hkey => absurd hkey (htext _)⟩

/-! ## Documents -/

/-- Also a document that is refused half-way leaves the invariant. -/
theorem Sound.applyEntries {settings : Value} (h : Sound settings) (path : Path)
    (entries : Mapping) : Sound (applyEntries path settings entries).1 := by
  induction entries generalizing settings with
  | nil => exact h
  | cons entry entries ih =>
      obtain ⟨key, value⟩ := entry
      rw [Settings.applyEntries]
      split
      · next hnext => exact ih (h.applyEntry hnext)
      · exact h

theorem Sound.applyDocument {settings : Value} (h : Sound settings) (path : Path)
    (document : Value) : Sound (applyDocument path settings document).1 := by
  by_cases hmap : ∃ entries, document = .map entries
  · obtain ⟨entries, rfl⟩ := hmap
    exact h.applyEntries path entries
  · rw [applyDocument_of_not_map (not_exists.1 hmap)]
    exact h

theorem Sound.applyDocuments {settings : Value} (h : Sound settings) (path : Path)
    (documents : List Value) : Sound (applyDocuments path settings documents).1 := by
  induction documents generalizing settings with
  | nil => exact h
  | cons document documents ih =>
      have hnext := h.applyDocument path document
      rw [Settings.applyDocuments]
      split
      · next next heq =>
          rw [heq] at hnext
          exact ih hnext
      · exact hnext

private theorem bind_eq_ok {α β : Type} {result : Except Fault α} {next : α → Except Fault β}
    {b : β} : (result >>= next) = .ok b ↔ ∃ a, result = .ok a ∧ next a = .ok b := by
  cases result <;> simp [bind, Except.bind]

theorem sound_of_load {read : Text → Except Text Value} {working : Location} {store : Store}
    {path? : Option Text} {settings : Value}
    (h : load read working store path? = .ok settings) : Sound settings := by
  unfold load at h
  split at h
  · cases h
    exact sound_defaults
  · cases h
    exact sound_defaults
  · next text _ =>
      obtain ⟨there, -, h⟩ := bind_eq_ok.1 h
      split at h
      · simp only [bind_eq_ok] at h
        obtain ⟨bytes, -, source, -, document, -, h⟩ := h
        have hdocument := sound_defaults.applyDocument (.ofText working text) document
        split at h
        · cases h
          exact sound_defaults
        · split at h
          · next heq =>
              cases h
              rw [heq] at hdocument
              exact hdocument
          · cases h
      · cases h
        exact sound_defaults

/-! ## Reading the kinds -/

theorem isClassLike_text_iff {kind : Text} :
    isClassLike (.text kind) = true ↔ kind ∈ classLikeKinds := by
  simp only [isClassLike, List.any_eq_true, Scalar.same_text_iff, Scalar.text.injEq]
  constructor
  · rintro ⟨name, hmem, rfl⟩
    exact hmem
  · exact fun hmem => ⟨kind, hmem, rfl⟩

private theorem foldl_distinct {kept rest : List Text} (h : (kept ++ rest).Nodup) :
    (rest.map Scalar.text).foldl (fun kept scalar =>
      if kept.any (Scalar.same scalar) then kept else kept ++ [scalar]) (kept.map .text) =
        (kept ++ rest).map .text := by
  induction rest generalizing kept with
  | nil => simp
  | cons kind rest ih =>
      have hfresh : kind ∉ kept := by
        intro hmem
        exact (List.nodup_append.1 h).2.2 kind hmem kind List.mem_cons_self rfl
      have hany : (kept.map Scalar.text).any (Scalar.same (.text kind)) = false := by
        rw [List.any_map, List.any_eq_false]
        intro other hother hsame
        cases Scalar.text_same_iff.1 hsame
        exact hfresh hother
      have hnext : (kept ++ [kind] ++ rest).Nodup := by simpa using h
      have hkept : kept.map Scalar.text ++ [.text kind] = (kept ++ [kind]).map .text := by simp
      rw [List.map_cons, List.foldl_cons, hany, if_neg (by simp), hkept, ih hnext,
        List.append_assoc, List.singleton_append]

theorem distinct_map_text {kinds : List Text} (h : kinds.Nodup) :
    Scalar.distinct (kinds.map .text) = kinds.map .text :=
  @foldl_distinct [] kinds h

theorem comparable_map_text (kinds : List Text) : comparable (kinds.map .text) = true := by
  match kinds with
  | [] => rfl
  | [_] => rfl
  | first :: next :: rest => simp [comparable, Scalar.key, Key.lt?]

theorem mapM_scalar?_map_text (kinds : List Text) :
    (kinds.map Value.text).mapM Value.scalar? = some (kinds.map Scalar.text) := by
  induction kinds with
  | nil => rfl
  | cons kind kinds ih => simp [List.mapM_cons, ih, Value.text, Value.scalar?]

theorem kindTexts_map_text (kinds : List Text) : kindTexts (kinds.map .text) = kinds := by
  induction kinds with
  | nil => rfl
  | cons kind kinds ih =>
      rw [List.map_cons, kindTexts, List.filterMap_cons]
      exact congrArg _ ih

/-- The kinds that are not known can be put in order, since they are texts. -/
theorem sorted_unknown {kinds : List Text} (h : kinds.Nodup) :
    ∃ unknown, sorted ((Scalar.distinct (kinds.map .text)).filter (!isClassLike ·)) =
        .ok unknown ∧
      (unknown = [] ↔ ∀ kind ∈ kinds, kind ∈ classLikeKinds) := by
  rw [distinct_map_text h, List.filter_map, sorted, comparable_map_text, if_pos rfl]
  refine ⟨_, rfl, ?_⟩
  rw [← List.length_eq_zero_iff, List.length_mergeSort, List.length_map,
    List.length_eq_zero_iff, List.filter_eq_nil_iff]
  simp [isClassLike_text_iff]

theorem Formed.declarationKinds {entries : Mapping} {kinds : List Text}
    (h : Formed entries kinds) :
    (declarationKinds (.map entries) = .ok kinds ∧ kinds ≠ [] ∧
      ∀ kind ∈ kinds, kind ∈ classLikeKinds) ∨
    ∃ fault, declarationKinds (.map entries) = .error fault ∧ fault.ending?.isSome = true := by
  cases hkinds : kinds with
  | nil =>
      right
      refine ⟨.noKinds, ?_, rfl⟩
      simp only [Settings.declarationKinds, h.kinds_eq, hkinds]
      rfl
  | cons first rest =>
      rw [← hkinds]
      have hne : kinds ≠ [] := by simp [hkinds]
      have helements : elements (.list (kinds.map .text)) = .ok (kinds.map .text) := by
        simp [elements, elements?, Value.truthy, hne]
      obtain ⟨unknown, hsorted, hunknown⟩ := sorted_unknown h.nodup
      simp only [Settings.declarationKinds, h.kinds_eq, Option.getD_some, helements,
        bind, Except.bind, mapM_scalar?_map_text, hsorted, kindTexts_map_text]
      cases unknown with
      | nil =>
          left
          exact ⟨by simp [hne], hne, hunknown.1 rfl⟩
      | cons kind unknown =>
          right
          exact ⟨.unknownKinds (kind :: unknown), by simp [hne], rfl⟩

end Settings

end ClassWiki
