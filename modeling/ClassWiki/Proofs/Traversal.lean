import Mathlib.Data.List.Forall2

/-!
# Lists that are read element by element

A list is read by a function that may have no answer, and has no answer itself if one of
its elements has none.
-/

namespace ClassWiki

variable {α β γ : Type} {f : α → Option β} {a : α} {b : β} {as more : List α} {bs : List β}

theorem mapM_eq_some_iff : as.mapM f = some bs ↔ as.map f = bs.map some := by
  induction as generalizing bs with
  | nil => cases bs <;> simp
  | cons a as ih =>
      cases bs with
      | nil => cases ha : f a <;> cases has : as.mapM f <;> simp [List.mapM_cons, ha, has]
      | cons b bs =>
          rw [List.map_cons, List.map_cons, List.cons.injEq, ← ih]
          cases ha : f a <;> cases has : as.mapM f <;> simp [List.mapM_cons, ha, has]

theorem mapM_cons_eq_some_iff :
    (a :: as).mapM f = some bs ↔
      ∃ b rest, f a = some b ∧ as.mapM f = some rest ∧ bs = b :: rest := by
  cases ha : f a with
  | none => simp [List.mapM_cons, ha]
  | some b => cases hrest : as.mapM f <;> simp [List.mapM_cons, ha, hrest, eq_comm]

theorem mapM_append_eq_some_iff :
    (as ++ more).mapM f = some bs ↔
      ∃ first second, as.mapM f = some first ∧ more.mapM f = some second ∧
        bs = first ++ second := by
  cases hfirst : as.mapM f with
  | none => simp [List.mapM_append, hfirst]
  | some first =>
      cases hsecond : more.mapM f <;> simp [List.mapM_append, hfirst, hsecond, eq_comm]

theorem length_of_mapM (h : as.mapM f = some bs) : as.length = bs.length := by
  simpa using congrArg List.length (mapM_eq_some_iff.1 h)

theorem exists_of_mem_of_mapM (h : as.mapM f = some bs) (ha : a ∈ as) :
    ∃ b ∈ bs, f a = some b := by
  have hmem : f a ∈ bs.map some := mapM_eq_some_iff.1 h ▸ List.mem_map_of_mem ha
  obtain ⟨b, hb, heq⟩ := List.mem_map.1 hmem
  exact ⟨b, hb, heq.symm⟩

theorem exists_mem_of_mapM (h : as.mapM f = some bs) (hb : b ∈ bs) :
    ∃ a ∈ as, f a = some b := by
  apply List.mem_map.1
  rw [mapM_eq_some_iff.1 h]
  exact List.mem_map_of_mem hb

theorem exists_mapM (h : ∀ a ∈ as, ∃ b, f a = some b) : ∃ bs, as.mapM f = some bs := by
  induction as with
  | nil => exact ⟨[], rfl⟩
  | cons a as ih =>
      obtain ⟨⟨b, hb⟩, has⟩ := List.forall_mem_cons.1 h
      obtain ⟨bs, hbs⟩ := ih has
      exact ⟨b :: bs, mapM_cons_eq_some_iff.2 ⟨b, bs, hb, hbs, rfl⟩⟩

theorem mapM_congr {R : α → γ → Prop} {g : γ → Option β} (hfg : ∀ a c, R a c → f a = g c)
    {cs : List γ} (h : List.Forall₂ R as cs) : as.mapM f = cs.mapM g := by
  induction h with
  | nil => rfl
  | @cons a c as cs hac _ ih => rw [List.mapM_cons, List.mapM_cons, hfg a c hac, ih]

end ClassWiki
