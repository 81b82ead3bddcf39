import ClassWiki.Config.Value

/-!
# Maps under equality of keys

Keys are compared by what they mean, so that two keys of different kinds may be the same one,
and a key that is not a number is the same as no key.  A map whose keys are all different can be
laid over another one: its values win, the keys that were there keep their places, and the
others follow in their own order.  Laying it over once more changes nothing.
-/

namespace ClassWiki

/-! ## Keys -/

namespace Scalar

variable {first second third : Scalar}

theorem same_iff :
    first.same second = true ↔ first.key = second.key ∧ first.key ≠ .number .nan := by
  rw [same, Bool.and_eq_true, beq_iff_eq, bne_iff_ne]

theorem same_self_iff : first.same first = true ↔ first.key ≠ .number .nan := by
  rw [same_iff]
  exact and_iff_right rfl

/-- Keys that are the same are the same as the same keys. -/
theorem same_congr (h : first.same second = true) (third : Scalar) :
    first.same third = second.same third := by
  rw [same, same, (same_iff.1 h).1]

theorem same_comm (first second : Scalar) : first.same second = second.same first := by
  rw [Bool.eq_iff_iff, same_iff, same_iff]
  constructor
  · rintro ⟨hkey, hnan⟩
    exact ⟨hkey.symm, hkey ▸ hnan⟩
  · rintro ⟨hkey, hnan⟩
    exact ⟨hkey.symm, hkey ▸ hnan⟩

end Scalar

namespace Mapping

variable {entries more : Mapping} {key other : Scalar} {value : Value}

/-! ## Single entries -/

theorem get?_cons_eq_ite (entry : Scalar × Value) (entries : Mapping) (key : Scalar) :
    get? (entry :: entries) key = if entry.1.same key then some entry.2 else get? entries key := by
  rw [get?, List.find?_cons]
  split
  · next h => rw [if_pos h]; rfl
  · next h => rw [if_neg (by simp [h])]; rfl

theorem get?_set_eq_ite (key : Scalar) (value : Value) (entries : Mapping) (other : Scalar) :
    get? (set key value entries) other =
      if key.same other then some value else get? entries other := by
  induction entries with
  | nil => exact get?_cons_eq_ite (key, value) [] other
  | cons entry entries ih =>
      rw [set]
      split
      · next hsame =>
          -- The entry that is replaced has the same key, so the two have the same lookups.
          rw [get?_cons_eq_ite, get?_cons_eq_ite, Scalar.same_congr hsame]
          split <;> rfl
      · next hsame =>
          rw [get?_cons_eq_ite, get?_cons_eq_ite, ih]
          split
          · next hother =>
              have hkey : ¬key.same other = true := by
                intro hkey
                rw [Scalar.same_comm, ← Scalar.same_congr hother] at hkey
                exact hsame hkey
              rw [if_neg hkey]
          · rfl

theorem set_of_get? (h : get? entries key = some value) : set key value entries = entries := by
  induction entries with
  | nil => cases h
  | cons entry entries ih =>
      rw [get?_cons_eq_ite] at h
      rw [set]
      split at h
      · next hsame =>
          cases h
          rw [if_pos hsame]
      · next hsame => rw [if_neg hsame, ih h]

/-! ## Keys of a map -/

def keys (entries : Mapping) : List Scalar := entries.map Prod.fst

def has (entries : Mapping) (key : Scalar) : Bool := (get? entries key).isSome

theorem has_set (key : Scalar) (value : Value) (entries : Mapping) (other : Scalar) :
    has (set key value entries) other = (key.same other || has entries other) := by
  rw [has, has, get?_set_eq_ite]
  cases key.same other <;> rfl

theorem keys_set (key : Scalar) (value : Value) (entries : Mapping) :
    keys (set key value entries) =
      if has entries key then keys entries else keys entries ++ [key] := by
  induction entries with
  | nil => rfl
  | cons entry entries ih =>
      rw [set, has, get?_cons_eq_ite]
      by_cases hsame : entry.1.same key = true
      · rw [if_pos hsame, if_pos hsame]
        rfl
      · rw [if_neg hsame, if_neg hsame]
        show entry.1 :: keys (set key value entries) = _
        rw [ih, has]
        split <;> rfl

/-- No two keys are the same. -/
def Distinct (entries : Mapping) : Prop :=
  (keys entries).Pairwise fun first second => first.same second = false

instance (entries : Mapping) : Decidable (Distinct entries) :=
  inferInstanceAs (Decidable ((keys entries).Pairwise _))

theorem distinct_cons_iff {entry : Scalar × Value} :
    Distinct (entry :: entries) ↔
      (∀ other ∈ entries, entry.1.same other.1 = false) ∧ Distinct entries := by
  rw [Distinct, keys, List.map_cons, List.pairwise_cons, List.forall_mem_map]
  rfl

theorem get?_eq_none_of_forall (h : ∀ entry ∈ entries, entry.1.same key = false) :
    get? entries key = none := by
  rw [get?, Option.map_eq_none_iff, List.find?_eq_none]
  intro entry hentry
  simp [h entry hentry]

theorem get?_eq_some_iff (h : Distinct entries) :
    get? entries key = some value ↔
      ∃ entry ∈ entries, entry.1.same key = true ∧ entry.2 = value := by
  induction entries with
  | nil => simp [get?]
  | cons entry entries ih =>
      obtain ⟨hfirst, hrest⟩ := distinct_cons_iff.1 h
      rw [get?_cons_eq_ite]
      simp only [List.mem_cons, or_and_right, exists_or, exists_eq_left]
      split
      · next hsame =>
          have hnone : ¬∃ other ∈ entries, other.1.same key = true ∧ other.2 = value := by
            rintro ⟨other, hmem, hother, -⟩
            have hfalse := hfirst other hmem
            rw [Scalar.same_congr hsame, Scalar.same_comm, hother] at hfalse
            cases hfalse
          simp [hsame, hnone]
      · next hsame => simp [hsame, ih hrest]

theorem get?_of_mem (h : Distinct entries) {entry : Scalar × Value} (hmem : entry ∈ entries)
    (hnan : entry.1.key ≠ .number .nan) : get? entries entry.1 = some entry.2 :=
  (get?_eq_some_iff h).2 ⟨entry, hmem, Scalar.same_self_iff.2 hnan, rfl⟩

theorem Distinct.perm {entries' : Mapping} (h : Distinct entries) (hperm : entries.Perm entries') :
    Distinct entries' := by
  refine ((hperm.map Prod.fst).pairwise_iff ?_).1 h
  intro first second hsame
  rwa [Scalar.same_comm]

/-- What a key means in a map does not depend on the order of the entries. -/
theorem get?_perm {entries' : Mapping} (h : Distinct entries) (hperm : entries.Perm entries')
    (key : Scalar) : get? entries key = get? entries' key := by
  apply Option.ext
  intro value
  rw [get?_eq_some_iff h, get?_eq_some_iff (h.perm hperm)]
  constructor
  · rintro ⟨entry, hmem, hentry⟩
    exact ⟨entry, hperm.mem_iff.1 hmem, hentry⟩
  · rintro ⟨entry, hmem, hentry⟩
    exact ⟨entry, hperm.mem_iff.2 hmem, hentry⟩

/-! ## Laying one map over another -/

theorem get?_update (h : Distinct more) (entries : Mapping) (key : Scalar) :
    get? (update entries more) key = (get? more key).or (get? entries key) := by
  induction more generalizing entries with
  | nil => rfl
  | cons entry more ih =>
      obtain ⟨hfirst, hrest⟩ := distinct_cons_iff.1 h
      show get? (update (set entry.1 entry.2 entries) more) key = _
      rw [ih hrest, get?_set_eq_ite, get?_cons_eq_ite]
      split
      · next hsame =>
          have hnone : get? more key = none := by
            apply get?_eq_none_of_forall
            intro other hother
            rw [Scalar.same_comm, ← Scalar.same_congr hsame]
            exact hfirst other hother
          rw [hnone]
          rfl
      · rfl

theorem keys_update (h : Distinct more) (entries : Mapping) :
    keys (update entries more) = keys entries ++ (keys more).filter (!has entries ·) := by
  induction more generalizing entries with
  | nil => simp [update, keys]
  | cons entry more ih =>
      obtain ⟨hfirst, hrest⟩ := distinct_cons_iff.1 h
      have hsame : (keys more).filter (!has (set entry.1 entry.2 entries) ·) =
          (keys more).filter (!has entries ·) := by
        apply List.filter_congr
        intro key hkey
        obtain ⟨other, hother, rfl⟩ := List.mem_map.1 hkey
        rw [has_set, hfirst other hother, Bool.false_or]
      show keys (update (set entry.1 entry.2 entries) more) = _
      rw [ih hrest, hsame, keys_set]
      show _ = keys entries ++ (entry.1 :: keys more).filter (!has entries ·)
      rw [List.filter_cons]
      cases has entries entry.1 <;> simp

theorem update_of_get? (h : ∀ entry ∈ more, get? entries entry.1 = some entry.2) :
    update entries more = entries := by
  induction more with
  | nil => rfl
  | cons entry more ih =>
      obtain ⟨hfirst, hrest⟩ := List.forall_mem_cons.1 h
      show update (set entry.1 entry.2 entries) more = entries
      rw [set_of_get? hfirst, ih hrest]

/-- Every key is the same as itself. -/
def Reflexive (entries : Mapping) : Prop := ∀ entry ∈ entries, entry.1.key ≠ .number .nan

instance (entries : Mapping) : Decidable (Reflexive entries) :=
  inferInstanceAs (Decidable (∀ entry ∈ entries, entry.1.key ≠ .number .nan))

theorem update_update (h : Distinct more) (hnan : Reflexive more) (entries : Mapping) :
    update (update entries more) more = update entries more := by
  apply update_of_get?
  intro entry hentry
  rw [get?_update h, get?_of_mem h hentry (hnan entry hentry)]
  rfl

end Mapping

end ClassWiki
