import ClassWiki.Proofs.Config.Entry
import Mathlib.Data.List.Forall2

/-!
# Settings with a document laid over them

A document is laid over settings entry by entry.  The first entry at fault ends the run with the
entries in front of it applied.  Without one, the document is laid over the settings as a map
over a map, once the value of every entry is settled.  All else about the result follows from
what is known of maps: which value each key gets and where it stands, that another order of the
entries gives the same values, and that the same document changes nothing the second time.
-/

namespace ClassWiki.Settings

open Mapping

/-! ## All entries -/

/-- Either no entry is at fault and all are applied, or exactly those in front of the first
entry at fault are. -/
theorem applyEntries_cases {settings : Mapping} (hsettings : HasTables settings) (path : Path)
    (user : Mapping) :
    ((∀ entry ∈ user, ¬Offends entry) ∧
      ∃ reached, applyEntries path (.map settings) user = (.map reached, none)) ∨
    ∃ before entry after reached fault, user = before ++ entry :: after ∧
      (∀ other ∈ before, ¬Offends other) ∧ Offends entry ∧
      applyEntries path (.map settings) before = (.map reached, none) ∧
      applyEntries path (.map settings) user = (.map reached, some fault) ∧
      fault.ending?.isSome = true := by
  induction user generalizing settings with
  | nil => exact .inl ⟨by simp, settings, rfl⟩
  | cons first user ih =>
      by_cases hfirst : Offends first
      · obtain ⟨fault, hfault, hending⟩ := applyEntry_of_offends path (.map settings) hfirst
        refine .inr ⟨[], first, user, settings, fault, rfl, by simp, hfirst, rfl, ?_, hending⟩
        rw [applyEntries, hfault]
      · have hallowed := allowed_iff.2 hfirst
        have hstep : ∀ entries, applyEntries path (.map settings) (first :: entries) =
            applyEntries path
              (.map (set first.1 (settled settings first.1 first.2) settings)) entries := by
          intro entries
          rw [applyEntries, applyEntry_settled hsettings hallowed]
        rcases ih (hsettings.set hallowed) with ⟨hfits, reached, hreached⟩ |
          ⟨before, entry, after, reached, fault, rfl, hbefore, hentry, hreached, hfault, hending⟩
        · exact .inl ⟨List.forall_mem_cons.2 ⟨hfirst, hfits⟩, reached, by rw [hstep, hreached]⟩
        · exact .inr ⟨first :: before, entry, after, reached, fault, rfl,
            List.forall_mem_cons.2 ⟨hfirst, hbefore⟩, hentry, by rw [hstep, hreached],
            by rw [hstep, hfault], hending⟩

/-- The entries with their settled values. -/
def settledAll (settings user : Mapping) : Mapping :=
  user.map fun entry => (entry.1, settled settings entry.1 entry.2)

theorem keys_settledAll (settings user : Mapping) :
    keys (settledAll settings user) = keys user := by
  rw [keys, settledAll, List.map_map]
  rfl

theorem distinct_settledAll {settings user : Mapping} (h : Distinct user) :
    Distinct (settledAll settings user) := by
  rwa [Distinct, keys_settledAll]

/-- Only the table of an entry matters for the value it settles on. -/
theorem settled_set {settings : Mapping} {key other : Scalar} (value old : Value)
    (h : key.same other = false) :
    settled (set key value settings) other old = settled settings other old := by
  cases other with
  | text name =>
      have hkey : key ≠ .text name := fun hkey => by
        rw [Scalar.same_text_iff.2 hkey] at h
        cases h
      have htable : tableOf (set key value settings) name = tableOf settings name := by
        rw [tableOf, tableOf, Mapping.get?_set, if_neg hkey]
      simp only [settled, htable]
  | _ => rfl

theorem applyEntries_eq_update {settings : Mapping} (hsettings : HasTables settings) (path : Path)
    {user : Mapping} (hdistinct : Distinct user) (hfits : ∀ entry ∈ user, ¬Offends entry) :
    applyEntries path (.map settings) user =
      (.map (update settings (settledAll settings user)), none) := by
  induction user generalizing settings with
  | nil => rfl
  | cons first user ih =>
      obtain ⟨hfirst, hrest⟩ := distinct_cons_iff.1 hdistinct
      obtain ⟨hfit, hfits⟩ := List.forall_mem_cons.1 hfits
      have hallowed := allowed_iff.2 hfit
      rw [applyEntries, applyEntry_settled hsettings hallowed]
      have hsame : settledAll (set first.1 (settled settings first.1 first.2) settings) user =
          settledAll settings user := by
        apply List.map_congr_left
        intro entry hentry
        rw [settled_set _ _ (hfirst entry hentry)]
      show applyEntries path (.map _) user = _
      rw [ih (hsettings.set hallowed) hrest hfits, hsame]
      rfl

/-! ## The overlay -/

/-- What becomes of settings under a document: its values win, also inside of the tables, the
kinds lose their repetitions, and new keys follow the old ones. -/
structure Overlay (settings user result : Mapping) : Prop where
  others : ∀ key, ¬IsReserved key → get? result key = (get? user key).or (get? settings key)
  inside : ∀ name, isTable name = true → ∀ key, get? (tableOf result name) key =
    (get? (tableOf user name) key).or (get? (tableOf settings name) key)
  kinds_given : ∀ kinds : List Text,
    get? user (.text "declaration_kinds") = some (.list (kinds.map .text)) →
      get? result (.text "declaration_kinds") = some (.list (kinds.eraseDups.map .text))
  kinds_kept : get? user (.text "declaration_kinds") = none →
    get? result (.text "declaration_kinds") = get? settings (.text "declaration_kinds")
  places : keys result = keys settings ++ (keys user).filter (!has settings ·)
  places_inside : ∀ name, isTable name = true → keys (tableOf result name) =
    keys (tableOf settings name) ++
      (keys (tableOf user name)).filter (!has (tableOf settings name) ·)
  tables : HasTables result

/-- No two keys of the document are the same, nor two keys inside of a table. -/
structure WellKeyed (user : Mapping) : Prop where
  distinct : Distinct user
  inside : ∀ name, isTable name = true → Distinct (tableOf user name)

theorem settled_congr {key other : Scalar} (h : key.same other = true) (settings : Mapping) :
    settled settings key = settled settings other := by
  funext value
  by_cases hkey : ∃ name, key = .text name
  · obtain ⟨name, rfl⟩ := hkey
    rw [Scalar.text_same_iff.1 h]
  · have hother : ¬∃ name, other = .text name := by
      rintro ⟨name, rfl⟩
      exact hkey ⟨name, Scalar.same_text_iff.1 h⟩
    have hplain : ∀ scalar : Scalar, (¬∃ name, scalar = .text name) → ¬IsReserved scalar := by
      rintro scalar htext (⟨name, -, rfl⟩ | rfl)
      · exact htext ⟨name, rfl⟩
      · exact htext ⟨_, rfl⟩
    rw [settled_other (hplain key hkey), settled_other (hplain other hother)]

theorem get?_settledAll (settings user : Mapping) (key : Scalar) :
    get? (settledAll settings user) key = (get? user key).map (settled settings key) := by
  induction user with
  | nil => rfl
  | cons entry user ih =>
      show get? ((entry.1, settled settings entry.1 entry.2) :: settledAll settings user) key = _
      rw [get?_cons_eq_ite, get?_cons_eq_ite, ih]
      split
      · next hsame => rw [settled_congr hsame, Option.map_some]
      · rfl

section

variable {settings user : Mapping}

theorem get?_overlay (hdistinct : Distinct user) (key : Scalar) :
    get? (update settings (settledAll settings user)) key =
      ((get? user key).map (settled settings key)).or (get? settings key) := by
  rw [get?_update (distinct_settledAll hdistinct), get?_settledAll]

theorem allowed_of_get? (hdistinct : Distinct user) (hfits : ∀ entry ∈ user, ¬Offends entry)
    {name : Text} {value : Value} (h : get? user (.text name) = some value) :
    Allowed (.text name) value := by
  obtain ⟨entry, hentry, hkey, rfl⟩ := (get?_eq_some_iff hdistinct).1 h
  rw [← Scalar.same_text_iff.1 hkey]
  exact allowed_iff.2 (hfits entry hentry)

theorem get?_overlay_table (hsettings : HasTables settings) (hdistinct : Distinct user)
    (hfits : ∀ entry ∈ user, ¬Offends entry) {name : Text} (hname : isTable name = true) :
    get? (update settings (settledAll settings user)) (.text name) =
      some (.map (update (tableOf settings name) (tableOf user name))) := by
  rw [get?_overlay hdistinct, hsettings.get? hname]
  cases hvalue : get? user (.text name) with
  | none =>
      rw [tableOf.eq_def user, hvalue]
      rfl
  | some value =>
      cases allowed_of_get? hdistinct hfits hvalue with
      | table more => rw [tableOf.eq_def user, hvalue, Option.map_some, settled_table hname]; rfl
      | kinds => cases hname
      | other value hkey => exact absurd (.inl ⟨name, hname, rfl⟩) hkey

theorem tableOf_overlay (hsettings : HasTables settings) (hdistinct : Distinct user)
    (hfits : ∀ entry ∈ user, ¬Offends entry) {name : Text} (hname : isTable name = true) :
    tableOf (update settings (settledAll settings user)) name =
      update (tableOf settings name) (tableOf user name) := by
  rw [tableOf, get?_overlay_table hsettings hdistinct hfits hname]

theorem overlay_update (hsettings : HasTables settings) (hkeyed : WellKeyed user)
    (hfits : ∀ entry ∈ user, ¬Offends entry) :
    Overlay settings user (update settings (settledAll settings user)) where
  others key hkey := by
    rw [get?_overlay hkeyed.distinct, funext (settled_other hkey), Option.map_id']
  inside name hname key := by
    rw [tableOf_overlay hsettings hkeyed.distinct hfits hname,
      get?_update (hkeyed.inside name hname)]
  kinds_given kinds hkinds := by
    rw [get?_overlay hkeyed.distinct, hkinds, Option.map_some, settled_kinds]
    rfl
  kinds_kept hnone := by
    rw [get?_overlay hkeyed.distinct, hnone]
    rfl
  places := by
    rw [keys_update (distinct_settledAll hkeyed.distinct), keys_settledAll]
  places_inside name hname := by
    rw [tableOf_overlay hsettings hkeyed.distinct hfits hname,
      keys_update (hkeyed.inside name hname)]
  tables _ hname := ⟨_, get?_overlay_table hsettings hkeyed.distinct hfits hname⟩

/-! ## The same document once more -/

/-- Every key of the document is the same as itself, also inside of the tables. -/
structure SelfEqual (user : Mapping) : Prop where
  keys : Reflexive user
  inside : ∀ name, isTable name = true → Reflexive (tableOf user name)

theorem overlay_again (hsettings : HasTables settings) (hkeyed : WellKeyed user)
    (hfits : ∀ entry ∈ user, ¬Offends entry) (hself : SelfEqual user) {result : Mapping}
    (hresult : result = update settings (settledAll settings user)) :
    update result (settledAll result user) = result := by
  apply update_of_get?
  intro entry hentry
  obtain ⟨⟨key, value⟩, hmem, rfl⟩ := List.mem_map.1 hentry
  have hget : get? user key = some value := get?_of_mem hkeyed.distinct hmem (hself.keys _ hmem)
  have hsettled : settled settings key value = settled result key value := by
    cases allowed_iff.2 (hfits _ hmem) with
    | @table name more htable =>
        have hmore : tableOf user name = more := by rw [tableOf, hget]
        have hinside := hkeyed.inside name htable
        have hreflexive := hself.inside name htable
        have htwice := update_update hinside hreflexive (tableOf settings name)
        rw [settled_table htable, settled_table htable, hresult,
          tableOf_overlay hsettings hkeyed.distinct hfits htable, ← hmore, htwice]
    | kinds kinds => rw [settled_kinds, settled_kinds]
    | other value hkey => rw [settled_other hkey, settled_other hkey]
  rw [← hsettled, hresult, get?_overlay hkeyed.distinct, hget]
  rfl

/-! ## The same document in another order -/

/-- The same values under all keys, those inside of the tables included. -/
structure SameValues (first second : Mapping) : Prop where
  others : ∀ key, (∀ name, isTable name = true → key ≠ .text name) →
    get? first key = get? second key
  inside : ∀ name, isTable name = true → ∀ key,
    get? (tableOf first name) key = get? (tableOf second name) key

/-- The values are equal, or maps under the key of a table that have the same entries. -/
def ValueReordered (key : Scalar) (first second : Value) : Prop :=
  first = second ∨ (∃ name, isTable name = true ∧ key = .text name) ∧
    ∃ table table' : Mapping, first = .map table ∧ second = .map table' ∧ table.Perm table'

/-- The same entries in another order, also inside of the tables. -/
def Reordered (user user' : Mapping) : Prop :=
  ∃ middle : Mapping, user.Perm middle ∧ List.Forall₂ (fun entry entry' =>
    entry.1 = entry'.1 ∧ ValueReordered entry.1 entry.2 entry'.2) middle user'

namespace Reordered

variable {user' : Mapping}

theorem rel_get? (h : Reordered user user') (hdistinct : Distinct user) (key : Scalar) :
    Option.Rel (ValueReordered key) (get? user key) (get? user' key) := by
  obtain ⟨middle, hperm, hentries⟩ := h
  rw [get?_perm hdistinct hperm]
  clear hperm
  induction hentries with
  | nil => exact .none
  | @cons entry entry' _ _ hentry _ ih =>
      rw [get?_cons_eq_ite, get?_cons_eq_ite, ← hentry.1]
      split
      · next hsame =>
          refine .some (hentry.2.imp_right (And.imp_left ?_))
          rintro ⟨name, hname, hkey⟩
          rw [hkey] at hsame
          exact ⟨name, hname, Scalar.text_same_iff.1 hsame⟩
      · exact ih

theorem distinct (h : Reordered user user') (hdistinct : Distinct user) : Distinct user' := by
  obtain ⟨middle, hperm, hentries⟩ := h
  have hkeys : keys middle = keys user' := by
    rw [keys, keys, ← List.forall₂_eq_eq_eq, List.forall₂_map_left_iff,
      List.forall₂_map_right_iff]
    exact hentries.imp fun _ _ hentry => hentry.1
  have hmiddle := hdistinct.perm hperm
  rwa [Distinct, hkeys] at hmiddle

theorem fits (h : Reordered user user') (hfits : ∀ entry ∈ user, ¬Offends entry) :
    ∀ entry ∈ user', ¬Offends entry := by
  obtain ⟨middle, hperm, hentries⟩ := h
  have hmiddle : ∀ entry ∈ middle, ¬Offends entry :=
    fun entry hentry => hfits entry (hperm.mem_iff.2 hentry)
  clear hperm
  induction hentries with
  | nil => simp
  | @cons entry entry' _ _ hentry _ ih =>
      obtain ⟨hfirst, hrest⟩ := List.forall_mem_cons.1 hmiddle
      refine List.forall_mem_cons.2 ⟨fun hoffends => hfirst ?_, ih hrest⟩
      obtain ⟨hkey, hvalue⟩ := hentry
      rcases hvalue with hvalue | ⟨⟨name, hname, htext⟩, table, table', -, hvalue, -⟩
      · have hsame : entry = entry' := Prod.ext hkey hvalue
        rwa [hsame]
      · -- Under the key of a table both values are maps, which are never at fault.
        rcases hoffends with ⟨_, _, _, hmap⟩ | ⟨hkinds, -⟩
        · exact absurd hvalue (hmap table')
        · rw [← hkey, htext] at hkinds
          cases hkinds
          cases hname

theorem get?_eq (h : Reordered user user') (hdistinct : Distinct user) {key : Scalar}
    (hkey : ∀ name, isTable name = true → key ≠ .text name) : get? user key = get? user' key := by
  have hrel := h.rel_get? hdistinct key
  generalize get? user key = value?, get? user' key = value?' at hrel ⊢
  cases hrel with
  | none => rfl
  | some hvalue =>
      rcases hvalue with rfl | ⟨⟨name, hname, htext⟩, -⟩
      · rfl
      · exact absurd htext (hkey name hname)

theorem tableOf_perm (h : Reordered user user') (hdistinct : Distinct user) (name : Text) :
    (tableOf user name).Perm (tableOf user' name) := by
  have hrel := h.rel_get? hdistinct (.text name)
  rw [tableOf, tableOf]
  generalize get? user (.text name) = value?, get? user' (.text name) = value?' at hrel ⊢
  cases hrel with
  | none => exact .refl _
  | some hvalue =>
      rcases hvalue with rfl | ⟨-, table, table', rfl, rfl, hperm⟩
      · exact .refl _
      · exact hperm

theorem wellKeyed (h : Reordered user user') (hkeyed : WellKeyed user) : WellKeyed user' :=
  ⟨h.distinct hkeyed.distinct, fun name hname =>
    (hkeyed.inside name hname).perm (h.tableOf_perm hkeyed.distinct name)⟩

theorem sameValues (h : Reordered user user') (hsettings : HasTables settings)
    (hkeyed : WellKeyed user) (hfits : ∀ entry ∈ user, ¬Offends entry) :
    SameValues (update settings (settledAll settings user))
      (update settings (settledAll settings user')) := by
  have hkeyed' := h.wellKeyed hkeyed
  constructor
  · intro key hkey
    rw [get?_overlay hkeyed.distinct, get?_overlay hkeyed'.distinct,
      h.get?_eq hkeyed.distinct hkey]
  · intro name hname key
    rw [tableOf_overlay hsettings hkeyed.distinct hfits hname,
      tableOf_overlay hsettings hkeyed'.distinct (h.fits hfits) hname,
      get?_update (hkeyed.inside name hname), get?_update (hkeyed'.inside name hname),
      get?_perm (hkeyed.inside name hname) (h.tableOf_perm hkeyed.distinct name)]

end Reordered

end

/-! ## Documents -/

/-- The document is no map, or one of its entries is at fault. -/
def Refused (document : Value) : Prop :=
  ∀ entries, document = .map entries → ∃ entry ∈ entries, Offends entry

theorem refused_map_iff {user : Mapping} :
    Refused (.map user) ↔ ∃ entry ∈ user, Offends entry := by
  simp [Refused]

theorem WellKeyed.of_append {before after : Mapping} (h : WellKeyed (before ++ after)) :
    WellKeyed before := by
  constructor
  · have hdistinct := h.distinct
    rw [Distinct, keys, List.map_append, List.pairwise_append] at hdistinct
    exact hdistinct.1
  · intro name hname
    rw [tableOf]
    split
    · next table htable =>
        have hget : get? (before ++ after) (.text name) = some (.map table) := by
          rw [get?, List.find?_append, Option.map_or]
          rw [get?] at htable
          rw [htable]
          rfl
        have hinside := h.inside name hname
        rwa [tableOf, hget] at hinside
    · exact List.Pairwise.nil

section

variable {settings : Mapping} (hsettings : HasTables settings) (path : Path)

include hsettings

theorem refused_of_fault {document : Value} {fault : Fault}
    (h : (applyDocument path (.map settings) document).2 = some fault) :
    Refused document ∧ fault.ending?.isSome = true := by
  by_cases hmap : ∃ user, document = .map user
  · obtain ⟨user, rfl⟩ := hmap
    change (applyEntries path (.map settings) user).2 = some fault at h
    rcases applyEntries_cases hsettings path user with ⟨-, reached, hreached⟩ |
      ⟨before, entry, after, reached, _, rfl, -, hentry, -, hfault, hending⟩
    · rw [hreached] at h
      cases h
    · rw [hfault] at h
      cases h
      exact ⟨refused_map_iff.2 ⟨entry, by simp, hentry⟩, hending⟩
  · rw [not_exists] at hmap
    rw [applyDocument_of_not_map hmap] at h
    cases h
    exact ⟨fun user huser => absurd huser (hmap user), rfl⟩

theorem fault_iff_refused (document : Value) :
    (applyDocument path (.map settings) document).2.isSome = true ↔ Refused document := by
  constructor
  · intro h
    obtain ⟨fault, hfault⟩ := Option.isSome_iff_exists.1 h
    exact (refused_of_fault hsettings path hfault).1
  · intro h
    by_cases hmap : ∃ user, document = .map user
    · obtain ⟨user, rfl⟩ := hmap
      show (applyEntries path (.map settings) user).2.isSome = true
      obtain ⟨entry, hentry, hoffends⟩ := refused_map_iff.1 h
      rcases applyEntries_cases hsettings path user with ⟨hfits, -⟩ |
        ⟨_, _, _, _, _, _, _, _, _, hfault, _⟩
      · exact absurd hoffends (hfits entry hentry)
      · rw [hfault]
        rfl
    · rw [applyDocument_of_not_map (not_exists.1 hmap)]
      rfl

theorem overlay_of_refused {user : Mapping} (hkeyed : WellKeyed user)
    (h : Refused (.map user)) : ∃ before entry after reached, user = before ++ entry :: after ∧
      (∀ other ∈ before, ¬Offends other) ∧ Offends entry ∧
      (applyDocument path (.map settings) (.map user)).1 = .map reached ∧
      Overlay settings before reached := by
  obtain ⟨entry, hentry, hoffends⟩ := refused_map_iff.1 h
  rcases applyEntries_cases hsettings path user with ⟨hfits, -⟩ |
    ⟨before, first, after, reached, fault, rfl, hbefore, hfirst, hreached, hfault, -⟩
  · exact absurd hoffends (hfits entry hentry)
  · have hkeyed' := hkeyed.of_append
    rw [applyEntries_eq_update hsettings path hkeyed'.distinct hbefore] at hreached
    cases hreached
    exact ⟨before, first, after, _, rfl, hbefore, hfirst, congrArg Prod.fst hfault,
      overlay_update hsettings hkeyed' hbefore⟩

end

/-- A document is laid over settings that have both tables.  It is refused exactly if it is no
map or has an entry at fault, with a message of the program itself, and then it has been laid
over up to the first entry at fault.  Otherwise all of it is laid over, whatever the order of
its entries, and laying it over once more changes nothing. -/
theorem applyDocument_overlays {settings : Mapping} (hsettings : HasTables settings) (path : Path)
    (document : Value) :
    ((applyDocument path (.map settings) document).2.isSome = true ↔ Refused document) ∧
      (∀ fault, (applyDocument path (.map settings) document).2 = some fault →
        fault.ending?.isSome = true) ∧
      ((∀ user, document ≠ .map user) →
        (applyDocument path (.map settings) document).1 = .map settings) ∧
      ∀ user, document = .map user → WellKeyed user →
        (Refused document → ∃ before entry after reached, user = before ++ entry :: after ∧
          (∀ other ∈ before, ¬Offends other) ∧ Offends entry ∧
          (applyDocument path (.map settings) document).1 = .map reached ∧
          Overlay settings before reached) ∧
        (¬Refused document → ∃ result,
          applyDocument path (.map settings) document = (.map result, none) ∧
          Overlay settings user result ∧
          (∀ user', Reordered user user' → ∃ result',
            applyDocument path (.map settings) (.map user') = (.map result', none) ∧
            SameValues result result') ∧
          (SelfEqual user →
            applyDocument path (.map result) document = (.map result, none))) := by
  refine ⟨fault_iff_refused hsettings path document,
    fun fault hfault => (refused_of_fault hsettings path hfault).2, ?_, ?_⟩
  · intro hmap
    rw [applyDocument_of_not_map hmap]
  · rintro user rfl hkeyed
    refine ⟨overlay_of_refused hsettings path hkeyed, fun haccepted => ?_⟩
    have hfits : ∀ entry ∈ user, ¬Offends entry := fun entry hentry hoffends =>
      haccepted (refused_map_iff.2 ⟨entry, hentry, hoffends⟩)
    have hoverlay := overlay_update hsettings hkeyed hfits
    refine ⟨_, applyEntries_eq_update hsettings path hkeyed.distinct hfits, hoverlay, ?_, ?_⟩
    · intro user' hreordered
      have hdistinct' := hreordered.distinct hkeyed.distinct
      exact ⟨_, applyEntries_eq_update hsettings path hdistinct' (hreordered.fits hfits),
        hreordered.sameValues hsettings hkeyed hfits⟩
    · intro hself
      have hagain := overlay_again hsettings hkeyed hfits hself rfl
      have hrun := applyEntries_eq_update hoverlay.tables path hkeyed.distinct hfits
      rw [hagain] at hrun
      exact hrun

namespace Sample

def settings : Mapping :=
  [(.int 1, .text "old"), (.text "sections", .map [(.text "exceptions", .bool false)]),
    (.text "links", .map [])]

/-- The truth value is the same key as the number one. -/
def user : Mapping :=
  [(.text "fresh", .null), (.bool true, .text "new"),
    (.text "declaration_kinds", .list [.text "b", .text "a", .text "b"]),
    (.text "sections", .map [(.text "more", .bool true), (.text "exceptions", .bool true)])]

/-- The second entry is at fault. -/
def faulty : Mapping :=
  [(.bool true, .text "new"), (.text "links", .list []), (.text "fresh", .null)]

theorem hasTables : HasTables settings := forall_isTable ⟨_, rfl⟩ ⟨_, rfl⟩

theorem wellKeyed_user : WellKeyed user :=
  ⟨by decide +kernel, forall_isTable (by decide +kernel) (by decide +kernel)⟩

theorem wellKeyed_faulty : WellKeyed faulty :=
  ⟨by decide +kernel, forall_isTable (by decide +kernel) (by decide +kernel)⟩

theorem selfEqual_user : SelfEqual user :=
  ⟨by decide +kernel, forall_isTable (by decide +kernel) (by decide +kernel)⟩

theorem not_refused_user : ¬Refused (.map user) := by
  rw [refused_map_iff]
  rintro ⟨entry, hentry, hoffends⟩
  simp only [user, List.mem_cons, List.not_mem_nil, or_false] at hentry
  rcases hentry with rfl | rfl | rfl | rfl
  · exact allowed_iff.1 (.other _ (by simp [IsReserved, isTable])) hoffends
  · exact allowed_iff.1 (.other _ (by simp [IsReserved])) hoffends
  · exact allowed_iff.1 (.kinds ["b", "a", "b"]) hoffends
  · exact allowed_iff.1 (.table _ rfl) hoffends

end Sample

/-- The value under the number one is replaced by the one under the truth value.  The second
document ends with its second entry. -/
theorem applyDocument_overlays_sample :
    HasTables Sample.settings ∧ WellKeyed Sample.user ∧ SelfEqual Sample.user ∧
      (∃ result, applyDocument ⟨.root, []⟩ (.map Sample.settings) (.map Sample.user) =
          (.map result, none) ∧
        get? result (.int 1) = some (.text "new") ∧
        keys result = keys Sample.settings ++ [.text "fresh", .text "declaration_kinds"] ∧
        applyDocument ⟨.root, []⟩ (.map result) (.map Sample.user) = (.map result, none)) ∧
      WellKeyed Sample.faulty ∧
      (applyDocument ⟨.root, []⟩ (.map Sample.settings) (.map Sample.faulty)).2.isSome = true := by
  have hreserved : ¬IsReserved (.int 1) := by simp [IsReserved]
  have hget : get? Sample.user (.int 1) = some (.text "new") :=
    (get?_eq_some_iff Sample.wellKeyed_user.distinct).2
      ⟨(.bool true, .text "new"), by simp [Sample.user], by decide +kernel, rfl⟩
  have hfresh : (keys Sample.user).filter (!has Sample.settings ·) =
      [.text "fresh", .text "declaration_kinds"] := by decide +kernel
  obtain ⟨-, -, -, huser⟩ :=
    applyDocument_overlays Sample.hasTables ⟨.root, []⟩ (.map Sample.user)
  obtain ⟨result, hresult, hoverlay, -, hagain⟩ :=
    (huser _ rfl Sample.wellKeyed_user).2 Sample.not_refused_user
  have hlinks : Offends (.text "links", .list []) :=
    .inl ⟨"links", rfl, rfl, fun table h => by cases h⟩
  refine ⟨Sample.hasTables, Sample.wellKeyed_user, Sample.selfEqual_user,
    ⟨result, hresult, ?_, ?_, hagain Sample.selfEqual_user⟩, Sample.wellKeyed_faulty, ?_⟩
  · rw [hoverlay.others _ hreserved, hget]
    rfl
  · rw [hoverlay.places, hfresh]
  · refine (applyDocument_overlays Sample.hasTables _ _).1.2 (refused_map_iff.2 ?_)
    exact ⟨_, List.mem_cons_of_mem _ List.mem_cons_self, hlinks⟩

end ClassWiki.Settings
