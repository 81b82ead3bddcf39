import ClassWiki.Proofs.Store.View
import ClassWiki.Store.Access

/-!
# Where paths lead

Without links, a path that leads anywhere leads to the location that its parts spell
out, in every store.  The store only decides whether the folders on the way are there,
so a store with more folders follows every path that led somewhere, to the same place.
-/

namespace ClassWiki

theorem Path.location_concat (anchor : Anchor) (parts : List Text) {name : Text}
    (hname : name ≠ "..") :
    Path.location ⟨anchor, parts ++ [name]⟩ = Path.location ⟨anchor, parts⟩ ++ [name] := by
  rw [Path.location, List.foldl_append, List.foldl_cons, List.foldl_nil, Path.collapseStep,
    if_neg hname]
  rfl

namespace Store

/-! ## Followed paths -/

theorem entriesAt_eq {store : Store} {location : Location} {entries : List (Text × Entry)}
    (h : store.get? location = some (.folder entries)) : store.entriesAt location = entries := by
  rw [entriesAt, h]

theorem get?_concat {store : Store} {here : Location} {entries : List (Text × Entry)}
    (h : store.get? here = some (.folder entries)) (name : Text) :
    store.get? (here ++ [name]) = entries.lookup name := by
  rw [get?] at h ⊢
  rw [Entry.get?_append, h, Option.bind_some]
  cases hname : entries.lookup name <;> simp [Entry.get?, hname]

private theorem get?_dropLast {store : Store} {here : Location}
    {entries : List (Text × Entry)} (h : store.get? here = some (.folder entries)) :
    ∃ above, store.get? here.dropLast = some (.folder above) :=
  see?_eq_folder_iff.1 (see?_dropLast (see?_eq_folder_iff.2 ⟨entries, h⟩))

private theorem locateFrom_eq_ok {store : Store} {here : Location}
    {entries : List (Text × Entry)} {parts : List Text} {location : Location}
    (hhere : store.get? here = some (.folder entries))
    (h : store.locateFrom here entries parts = .ok location) :
    location = parts.foldl Path.collapseStep here ∧
      store.see? location.dropLast = some .folder := by
  induction parts generalizing here entries with
  | nil =>
      rw [locateFrom] at h
      cases h
      exact ⟨rfl, see?_dropLast (see?_eq_folder_iff.2 ⟨entries, hhere⟩)⟩
  | cons part parts ih =>
      rw [List.foldl_cons, Path.collapseStep]
      unfold locateFrom at h
      split at h
      · next hpart =>
          rw [if_pos hpart]
          obtain ⟨above, habove⟩ := get?_dropLast hhere
          rw [entriesAt_eq habove] at h
          exact ih habove h
      · next hpart =>
          rw [if_neg hpart]
          split at h
          · cases h
          · split at h
            · next hlast =>
                rw [List.isEmpty_iff.1 hlast]
                cases h
                refine ⟨rfl, ?_⟩
                rw [List.dropLast_concat]
                exact see?_eq_folder_iff.2 ⟨entries, hhere⟩
            · split at h
              · cases h
              · cases h
              · next below hbelow =>
                  exact ih ((get?_concat hhere part).trans hbelow) h

theorem exists_locateFrom {store : Store} {path : Path} {location : Location}
    (h : store.locate path = .ok location) :
    ∃ entries, store.get? path.anchor.start = some (.folder entries) ∧
      store.locateFrom path.anchor.start entries path.parts = .ok location := by
  unfold locate at h
  split at h
  · cases h
  · split at h
    · cases h
    · split at h
      · next entries hstart => exact ⟨entries, hstart, h⟩
      · cases h

/-- A path that leads somewhere leads to its location, which lies in a folder. -/
theorem locate_eq_ok {store : Store} {path : Path} {location : Location}
    (h : store.locate path = .ok location) :
    location = path.location ∧ store.see? location.dropLast = some .folder := by
  obtain ⟨entries, hstart, hlocate⟩ := exists_locateFrom h
  exact locateFrom_eq_ok hstart hlocate

/-! ## More folders -/

def FoldersWithin (store other : Store) : Prop :=
  ∀ location, store.see? location = some .folder → other.see? location = some .folder

/-- An answer that no new folder can change. -/
def Settled (result : Except FileFault Location) : Prop :=
  result ≠ .error .notFound ∧ result ≠ .error .notFolder

theorem settled_ok (location : Location) : Settled (.ok location) := by
  simp [Settled]

private theorem locateFrom_mono {store other : Store} (hfolders : store.FoldersWithin other)
    {here : Location} {entries others : List (Text × Entry)} {parts : List Text}
    (hhere : store.get? here = some (.folder entries))
    (hother : other.get? here = some (.folder others))
    (hsettled : Settled (store.locateFrom here entries parts)) :
    other.locateFrom here others parts = store.locateFrom here entries parts := by
  induction parts generalizing here entries others with
  | nil => rfl
  | cons part parts ih =>
      rw [locateFrom] at hsettled
      rw [locateFrom, locateFrom]
      split at hsettled
      · next hpart =>
          obtain ⟨above, habove⟩ := get?_dropLast hhere
          obtain ⟨above', habove'⟩ := get?_dropLast hother
          rw [entriesAt_eq habove] at hsettled
          simp only [hpart, if_true, entriesAt_eq habove, entriesAt_eq habove']
          exact ih habove habove' hsettled
      · next hpart =>
          simp only [hpart, if_false]
          split at hsettled
          · next hlong => simp only [hlong, if_true]
          · next hlong =>
              simp only [hlong, if_false]
              split at hsettled
              · next hlast => simp only [hlast, if_true]
              · next hlast =>
                  simp only [hlast]
                  split at hsettled
                  · exact absurd rfl hsettled.1
                  · exact absurd rfl hsettled.2
                  · next below hbelow =>
                      have hnext := (get?_concat hhere part).trans hbelow
                      obtain ⟨below', hnext'⟩ := see?_eq_folder_iff.1
                        (hfolders _ (see?_eq_folder_iff.2 ⟨below, hnext⟩))
                      have hbelow' := (get?_concat hother part).symm.trans hnext'
                      simp only [hbelow']
                      exact ih hnext hnext' hsettled

theorem locate_mono {store other : Store} (hfolders : store.FoldersWithin other) {path : Path}
    (hsettled : Settled (store.locate path)) : other.locate path = store.locate path := by
  unfold locate at hsettled ⊢
  split
  · rfl
  · next hnul =>
      rw [if_neg hnul] at hsettled
      split
      · rfl
      · next hlong =>
          rw [if_neg hlong] at hsettled
          split at hsettled
          · next entries hstart =>
              obtain ⟨others, hother⟩ := see?_eq_folder_iff.1
                (hfolders _ (see?_eq_folder_iff.2 ⟨entries, hstart⟩))
              simp only [hother]
              exact locateFrom_mono hfolders hstart hother hsettled
          · exact absurd rfl hsettled.1

theorem locate_ok_mono {store other : Store} (hfolders : store.FoldersWithin other)
    {path : Path} {location : Location} (h : store.locate path = .ok location) :
    other.locate path = .ok location := by
  rw [locate_mono hfolders (h ▸ settled_ok location), h]

end Store

end ClassWiki
