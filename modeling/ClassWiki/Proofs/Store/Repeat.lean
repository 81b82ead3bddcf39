import ClassWiki.Proofs.Store.Write

/-!
# Writing the same files again

Files that are written a second time, all of them and in the same order, leave the
store as it is, with the entries of each folder in their order.  Between the first
write and the last the store may well differ, if one path is written more than once.
-/

namespace ClassWiki

namespace Entry

/-! ## Insertions into one folder -/

theorem insert_of_lookup {name : Text} {entry : Entry} {entries : List (Text × Entry)}
    (h : entries.lookup name = some entry) : insert name entry entries = entries := by
  induction entries with
  | nil => simp at h
  | cons first entries ih =>
      obtain ⟨other, old⟩ := first
      by_cases hother : other = name
      · subst hother
        obtain rfl : old = entry := by simpa using h
        rw [insert, if_pos rfl]
      · have hne : (name == other) = false := by simpa using Ne.symm hother
        rw [List.lookup_cons, hne] at h
        rw [insert, if_neg hother, ih h]

theorem insert_insert (name : Text) (new old : Entry) (entries : List (Text × Entry)) :
    insert name new (insert name old entries) = insert name new entries := by
  induction entries with
  | nil => simp [insert]
  | cons first entries ih =>
      obtain ⟨other, entry⟩ := first
      by_cases hother : other = name
      · simp [insert, hother]
      · simp [insert, hother, ih]

theorem insert_comm {name other : Text} (h : name ≠ other) {entry : Entry}
    {entries : List (Text × Entry)} (hname : entries.lookup name = some entry)
    (first second : Entry) :
    insert name first (insert other second entries) =
      insert other second (insert name first entries) := by
  induction entries with
  | nil => simp at hname
  | cons item entries ih =>
      obtain ⟨listed, old⟩ := item
      by_cases hlisted : listed = name
      · subst hlisted
        simp [insert, h]
      · have hne : (name == listed) = false := by simpa using Ne.symm hlisted
        rw [List.lookup_cons, hne] at hname
        by_cases hother : listed = other
        · subst hother
          simp [insert, hlisted]
        · simp [insert, hlisted, hother, ih hname]

/-! ## Insertions further down -/

private theorem lookup_of_get? {name next : Text} {location : Location} {found : Entry}
    {entries : List (Text × Entry)}
    (h : (Entry.folder entries).get? (name :: next :: location) = some found) :
    ∃ below, entries.lookup name = some (.folder below) ∧
      (Entry.folder below).get? (next :: location) = some found := by
  obtain ⟨inner, hlookup, hfound⟩ := lookup_of_get?_cons h
  obtain ⟨below, rfl⟩ := eq_folder_of_get?_cons hfound
  exact ⟨below, hlookup, hfound⟩

theorem insertAt_of_get? {new : Entry} {place : Location} {entries : List (Text × Entry)}
    (h : (Entry.folder entries).get? place = some new) : insertAt new place entries = entries := by
  induction place generalizing entries with
  | nil => rfl
  | cons name rest ih =>
      cases rest with
      | nil =>
          obtain ⟨inner, hlookup, hfound⟩ := lookup_of_get?_cons h
          cases hfound
          exact insert_of_lookup hlookup
      | cons next rest =>
          obtain ⟨below, hlookup, hbelow⟩ := lookup_of_get? h
          simp only [insertAt, hlookup, ih hbelow]
          exact insert_of_lookup hlookup

theorem insertAt_insertAt (new old : Entry) (place : Location)
    (entries : List (Text × Entry)) :
    insertAt new place (insertAt old place entries) = insertAt new place entries := by
  induction place generalizing entries with
  | nil => rfl
  | cons name rest ih =>
      cases rest with
      | nil => exact insert_insert name new old entries
      | cons next rest =>
          cases hlookup : entries.lookup name with
          | none => simp [insertAt, hlookup, insert_insert, ih]
          | some inner =>
              cases inner with
              | file content => simp [insertAt, hlookup]
              | folder below => simp [insertAt, hlookup, insert_insert, ih]

/-- An insertion replaces one entry of the folder, by one that depends on this entry
alone. -/
private theorem insertAt_eq_insert {name : Text} {rest : Location} {found : Entry}
    {entries : List (Text × Entry)}
    (h : (Entry.folder entries).get? (name :: rest) = some found) (new : Entry) :
    ∃ entry, ∀ others : List (Text × Entry), others.lookup name = entries.lookup name →
      insertAt new (name :: rest) others = insert name entry others := by
  cases rest with
  | nil => exact ⟨new, fun _ _ => rfl⟩
  | cons next rest =>
      obtain ⟨below, hlookup, -⟩ := lookup_of_get? h
      refine ⟨.folder (insertAt new (next :: rest) below), ?_⟩
      intro others hothers
      simp only [insertAt, hothers, hlookup]

theorem insertAt_comm {place other : Location} (hne : place ≠ other)
    {entries : List (Text × Entry)} {old kept : Bytes}
    (hplace : (Entry.folder entries).get? place = some (.file old))
    (hother : (Entry.folder entries).get? other = some (.file kept)) (first second : Entry) :
    insertAt first place (insertAt second other entries) =
      insertAt second other (insertAt first place entries) := by
  induction place generalizing other entries with
  | nil => cases hplace
  | cons name rest ih =>
      cases other with
      | nil => cases hother
      | cons name' rest' =>
          obtain ⟨inner, hlookup, hfound⟩ := lookup_of_get?_cons hplace
          obtain ⟨inner', hlookup', hfound'⟩ := lookup_of_get?_cons hother
          by_cases hname : name = name'
          · -- neither place can be above the other, since both hold files
            subst hname
            obtain rfl : inner = inner' := by simpa [hlookup] using hlookup'
            have hrest : rest ≠ rest' := fun heq => hne (by rw [heq])
            match rest, rest' with
            | [], [] => exact absurd rfl hrest
            | [], _ :: _ =>
                cases hfound
                cases hfound'
            | _ :: _, [] =>
                cases hfound'
                cases hfound
            | next :: rest, next' :: rest' =>
                obtain ⟨below, rfl⟩ := eq_folder_of_get?_cons hfound
                simp only [insertAt, hlookup, lookup_insert_self, insert_insert,
                  ih hrest hfound hfound']
          · obtain ⟨new, hnew⟩ := insertAt_eq_insert hplace first
            obtain ⟨new', hnew'⟩ := insertAt_eq_insert hother second
            rw [hnew' entries rfl, hnew entries rfl,
              hnew _ (lookup_insert_of_ne hname _ _),
              hnew' _ (lookup_insert_of_ne (Ne.symm hname) _ _)]
            exact insert_comm hname hlookup new new'

end Entry

namespace Store

/-! ## Files in a store -/

theorem file?_eq_some_iff_get? {store : Store} {location : Location} {content : Bytes} :
    store.file? location = some content ↔ store.get? location = some (.file content) := by
  rw [file?_eq_some_iff, see?_eq]
  cases store.get? location with
  | none => simp
  | some entry => cases entry <;> simp [Entry.sight]

theorem file?_set {store : Store} {place : Location} {old : Bytes}
    (h : store.file? place = some old) (content : Bytes) (location : Location) :
    (store.set place (.file content)).file? location =
      if location = place then some content else store.file? location := by
  rw [file?_eq_some_iff] at h
  have hplace : place ≠ [] := by
    rintro rfl
    simp at h
  have hparent : store.see? place.dropLast = some .folder := by
    rw [← List.dropLast_concat_getLast hplace] at h
    exact Entry.see?_of_append h (by simp)
  rw [file?, see?_set (Entry.isLeaf_file content) hplace hparent (by simp [h])]
  by_cases hlocation : location = place
  · rw [if_pos hlocation, if_pos hlocation]
    rfl
  · rw [if_neg hlocation, if_neg hlocation]
    rfl

theorem set_of_file? {store : Store} {place : Location} {content : Bytes}
    (h : store.file? place = some content) : store.set place (.file content) = store := by
  rw [set, Entry.insertAt_of_get? (file?_eq_some_iff_get?.1 h)]

theorem set_set (store : Store) (place : Location) (new old : Entry) :
    (store.set place old).set place new = store.set place new := by
  rw [set, set, set, Entry.insertAt_insertAt]

theorem set_comm {store : Store} {place other : Location} (hne : place ≠ other)
    {old kept : Bytes} (hplace : store.file? place = some old)
    (hother : store.file? other = some kept) (first second : Entry) :
    (store.set other second).set place first = (store.set place first).set other second := by
  rw [set, set, set, set, Entry.insertAt_comm hne (file?_eq_some_iff_get?.1 hplace)
    (file?_eq_some_iff_get?.1 hother)]

/-! ## Writing again -/

/-- The store after writes that all succeed. -/
def putAll (store : Store) : List (Path × Bytes) → Store
  | [] => store
  | (path, content) :: writes => (store.set path.location (.file content)).putAll writes

theorem eq_putAll_of_writeAll {store final : Store} {writes : List (Path × Bytes)}
    (h : store.writeAll writes = .ok final) : final = store.putAll writes := by
  induction writes generalizing store with
  | nil =>
      cases h
      rfl
  | cons write writes ih =>
      obtain ⟨path, content⟩ := write
      exact ih (writeAll_cons_eq_ok_iff.1 h).2

private theorem putAll_set {store : Store} {place : Location} {old : Bytes}
    (hplace : store.file? place = some old) {writes : List (Path × Bytes)}
    (hwritten : lastWritten? place writes ≠ none)
    (hfiles : ∀ write ∈ writes, ∃ bytes, store.file? write.1.location = some bytes)
    (content : Bytes) :
    (store.set place (.file content)).putAll writes = store.putAll writes := by
  induction writes generalizing store old with
  | nil => exact absurd rfl hwritten
  | cons write writes ih =>
      obtain ⟨path, bytes⟩ := write
      rw [List.forall_mem_cons] at hfiles
      obtain ⟨⟨kept, hkept⟩, hrest⟩ := hfiles
      rw [putAll, putAll]
      by_cases hpath : path.location = place
      · rw [hpath, set_set]
      · rw [set_comm hpath hkept hplace]
        have hplace' : (store.set path.location (.file bytes)).file? place = some old := by
          rw [file?_set hkept, if_neg (Ne.symm hpath), hplace]
        refine ih hplace' ?_ ?_
        · simpa [lastWritten?, hpath] using hwritten
        · intro write hmem
          rw [file?_set hkept]
          split
          · exact ⟨bytes, rfl⟩
          · exact hrest write hmem

private theorem putAll_of_lastWritten? {store : Store} {writes : List (Path × Bytes)}
    (h : ∀ location content, lastWritten? location writes = some content →
      store.file? location = some content) : store.putAll writes = store := by
  induction writes with
  | nil => rfl
  | cons write writes ih =>
      obtain ⟨path, content⟩ := write
      have hlater : ∀ location bytes, lastWritten? location writes = some bytes →
          store.file? location = some bytes := by
        intro location bytes hbytes
        exact h location bytes (by rw [lastWritten?, hbytes, Option.some_or])
      rw [putAll]
      cases hlast : lastWritten? path.location writes with
      | none =>
          have hfile := h path.location content (by simp [lastWritten?, hlast])
          rw [set_of_file? hfile, ih hlater]
      | some bytes =>
          rw [putAll_set (hlater _ _ hlast) (by simp [hlast]) ?_ content, ih hlater]
          intro write hmem
          cases hwrite : lastWritten? write.1.location writes with
          | none => exact absurd rfl (lastWritten?_eq_none_iff.1 hwrite write hmem)
          | some bytes => exact ⟨bytes, hlater _ _ hwrite⟩

/-- The same writes, done again, change nothing. -/
theorem writeAll_again {store final : Store} {writes : List (Path × Bytes)}
    (h : store.writeAll writes = .ok final) : final.writeAll writes = .ok final := by
  obtain ⟨again, hagain⟩ := exists_writeAll fun write hmem =>
    (writable_of_writeAll h hmem).of_sameFolders (sameFolders_of_writeAll h)
  have hsame : final.putAll writes = final := by
    apply putAll_of_lastWritten?
    intro location content hlast
    rw [file?_writeAll h, hlast, Option.some_or]
  rw [hagain, eq_putAll_of_writeAll hagain, hsame]

end Store

end ClassWiki
