import ClassWiki.Proofs.Store.Locate

/-!
# Files written and folders made

Each change of a store is described by what is seen afterwards.  A written file is the
only location that looks different, a sequence of writes leaves at each location what
the last write to it put there, and making a folder with those above it adds folders on
that path and touches no file.
-/

namespace ClassWiki.Store

/-! ## Reading -/

theorem read_eq_ok_iff {store : Store} {path : Path} {content : Bytes} :
    store.read path = .ok content ↔
      ∃ location, store.locate path = .ok location ∧ store.file? location = some content := by
  simp only [file?_eq_some_iff, see?_eq]
  unfold read entry
  cases hlocate : store.locate path with
  | error fault => simp [bind, Except.bind]
  | ok location =>
      cases hget : store.get? location with
      | none => simp [bind, Except.bind, hget]
      | some found => cases found <;> simp [bind, Except.bind, hget, Entry.sight]

theorem holdsFolder_eq_true_iff {store : Store} {path : Path} :
    store.holdsFolder path = .ok true ↔
      ∃ location, store.locate path = .ok location ∧ store.see? location = some .folder := by
  simp only [see?_eq]
  unfold holdsFolder test entry
  cases hlocate : store.locate path with
  | error fault => cases fault <;> simp [bind, Except.bind]
  | ok location =>
      cases hget : store.get? location with
      | none => simp [bind, Except.bind, hget]
      | some found => cases found <;> simp [bind, Except.bind, hget, Entry.sight]

theorem holdsFolder_mono {store other : Store} (hfolders : store.FoldersWithin other)
    {path : Path} (h : store.holdsFolder path = .ok true) :
    other.holdsFolder path = .ok true := by
  obtain ⟨location, hlocate, hsee⟩ := holdsFolder_eq_true_iff.1 h
  exact holdsFolder_eq_true_iff.2
    ⟨location, locate_ok_mono hfolders hlocate, hfolders location hsee⟩

/-! ## Writing one file -/

def SameFolders (store other : Store) : Prop :=
  ∀ location, store.see? location = some .folder ↔ other.see? location = some .folder

theorem SameFolders.within {store other : Store} (h : store.SameFolders other) :
    store.FoldersWithin other :=
  fun location => (h location).1

theorem SameFolders.symm {store other : Store} (h : store.SameFolders other) :
    other.SameFolders store :=
  fun location => (h location).symm

theorem SameFolders.trans {first second third : Store} (h : first.SameFolders second)
    (h' : second.SameFolders third) : first.SameFolders third :=
  fun location => (h location).trans (h' location)

def Writable (store : Store) (path : Path) : Prop :=
  ∃ location, store.locate path = .ok location ∧ store.see? location ≠ some .folder

theorem Writable.of_sameFolders {store other : Store} (h : store.SameFolders other)
    {path : Path} (hwritable : store.Writable path) : other.Writable path := by
  obtain ⟨location, hlocate, hfree⟩ := hwritable
  refine ⟨location, locate_ok_mono h.within hlocate, ?_⟩
  intro hfolder
  exact hfree ((h location).2 hfolder)

theorem write_eq_ok_iff {store written : Store} {path : Path} {content : Bytes} :
    store.write path content = .ok written ↔
      store.Writable path ∧ written = store.set path.location (.file content) := by
  simp only [Writable, see?_eq]
  unfold write
  cases hlocate : store.locate path with
  | error fault => simp [bind, Except.bind]
  | ok location =>
      obtain ⟨rfl, -⟩ := locate_eq_ok hlocate
      cases hget : store.get? path.location with
      | none => simp [bind, Except.bind, hget, eq_comm]
      | some found =>
          cases found <;> simp [bind, Except.bind, hget, Entry.sight, eq_comm]

theorem see?_set_file {store : Store} {path : Path} (h : store.Writable path)
    (content : Bytes) (location : Location) :
    (store.set path.location (.file content)).see? location =
      if location = path.location then some (.file content) else store.see? location := by
  obtain ⟨place, hlocate, hfree⟩ := h
  obtain ⟨rfl, hparent⟩ := locate_eq_ok hlocate
  have hplace : path.location ≠ [] := by
    intro hnil
    exact hfree (by rw [hnil, see?_nil])
  exact see?_set (Entry.isLeaf_file content) hplace hparent hfree location

theorem sameFolders_set_file {store : Store} {path : Path} (h : store.Writable path)
    (content : Bytes) :
    store.SameFolders (store.set path.location (.file content)) := by
  intro location
  rw [see?_set_file h]
  split
  · next hlocation =>
      obtain ⟨place, hlocate, hfree⟩ := h
      rw [(locate_eq_ok hlocate).1] at hfree
      simp [hlocation, hfree]
  · rfl

/-! ## Writing files in turn -/

def writeAll (store : Store) : List (Path × Bytes) → Except FileFault Store
  | [] => .ok store
  | (path, content) :: writes => do
      let written ← store.write path content
      written.writeAll writes

/-- The bytes that the last of the writes to a location puts there. -/
def lastWritten? (location : Location) : List (Path × Bytes) → Option Bytes
  | [] => none
  | (path, content) :: writes =>
      (lastWritten? location writes).or
        (if path.location = location then some content else none)

theorem writeAll_cons_eq_ok_iff {store final : Store} {path : Path} {content : Bytes}
    {writes : List (Path × Bytes)} :
    store.writeAll ((path, content) :: writes) = .ok final ↔
      store.Writable path ∧
        (store.set path.location (.file content)).writeAll writes = .ok final := by
  rw [writeAll]
  cases hwrite : store.write path content with
  | error fault =>
      have hnot : ¬ store.Writable path := by
        intro hwritable
        have hok : store.write path content = .ok _ := write_eq_ok_iff.2 ⟨hwritable, rfl⟩
        rw [hok] at hwrite
        cases hwrite
      simp [bind, Except.bind, hnot]
  | ok written =>
      obtain ⟨hwritable, rfl⟩ := write_eq_ok_iff.1 hwrite
      simp [bind, Except.bind, hwritable]

theorem writeAll_append_eq_ok_iff {store final : Store} {first second : List (Path × Bytes)} :
    store.writeAll (first ++ second) = .ok final ↔
      ∃ middle, store.writeAll first = .ok middle ∧ middle.writeAll second = .ok final := by
  induction first generalizing store with
  | nil => simp [writeAll]
  | cons write first ih =>
      obtain ⟨path, content⟩ := write
      rw [List.cons_append, writeAll_cons_eq_ok_iff, ih]
      simp only [writeAll_cons_eq_ok_iff]
      constructor
      · rintro ⟨hwritable, middle, hfirst, hsecond⟩
        exact ⟨middle, ⟨hwritable, hfirst⟩, hsecond⟩
      · rintro ⟨middle, ⟨hwritable, hfirst⟩, hsecond⟩
        exact ⟨hwritable, middle, hfirst, hsecond⟩

theorem sameFolders_of_writeAll {store final : Store} {writes : List (Path × Bytes)}
    (h : store.writeAll writes = .ok final) : store.SameFolders final := by
  induction writes generalizing store with
  | nil =>
      cases h
      exact fun _ => Iff.rfl
  | cons write writes ih =>
      obtain ⟨path, content⟩ := write
      obtain ⟨hwritable, hrest⟩ := writeAll_cons_eq_ok_iff.1 h
      exact (sameFolders_set_file hwritable content).trans (ih hrest)

theorem writable_of_writeAll {store final : Store} {writes : List (Path × Bytes)}
    (h : store.writeAll writes = .ok final) {write : Path × Bytes} (hmem : write ∈ writes) :
    store.Writable write.1 := by
  induction writes generalizing store with
  | nil => cases hmem
  | cons first writes ih =>
      obtain ⟨path, content⟩ := first
      obtain ⟨hwritable, hrest⟩ := writeAll_cons_eq_ok_iff.1 h
      cases hmem with
      | head => exact hwritable
      | tail _ hmem =>
          exact (ih hrest hmem).of_sameFolders (sameFolders_set_file hwritable content).symm

/-- No write gets in the way of a later one. -/
theorem exists_writeAll {store : Store} {writes : List (Path × Bytes)}
    (h : ∀ write ∈ writes, store.Writable write.1) :
    ∃ final, store.writeAll writes = .ok final := by
  induction writes generalizing store with
  | nil => exact ⟨store, rfl⟩
  | cons write writes ih =>
      obtain ⟨path, content⟩ := write
      rw [List.forall_mem_cons] at h
      obtain ⟨final, hfinal⟩ := ih fun write hmem =>
        (h.2 write hmem).of_sameFolders (sameFolders_set_file h.1 content)
      exact ⟨final, writeAll_cons_eq_ok_iff.2 ⟨h.1, hfinal⟩⟩

/-- After a sequence of writes each location shows what the last write to it left there,
or what it showed before if there was none. -/
theorem see?_writeAll {store final : Store} {writes : List (Path × Bytes)}
    (h : store.writeAll writes = .ok final) (location : Location) :
    final.see? location = ((lastWritten? location writes).map .file).or (store.see? location) := by
  induction writes generalizing store with
  | nil =>
      cases h
      rfl
  | cons write writes ih =>
      obtain ⟨path, content⟩ := write
      obtain ⟨hwritable, hrest⟩ := writeAll_cons_eq_ok_iff.1 h
      rw [ih hrest, see?_set_file hwritable, lastWritten?]
      cases lastWritten? location writes with
      | some last => rfl
      | none =>
          by_cases hlocation : location = path.location
          · simp [hlocation]
          · simp [hlocation, Ne.symm hlocation]

theorem file?_writeAll {store final : Store} {writes : List (Path × Bytes)}
    (h : store.writeAll writes = .ok final) (location : Location) :
    final.file? location = (lastWritten? location writes).or (store.file? location) := by
  rw [file?, see?_writeAll h]
  cases lastWritten? location writes with
  | some last => rfl
  | none => rfl

theorem lastWritten?_eq_none_iff {location : Location} {writes : List (Path × Bytes)} :
    lastWritten? location writes = none ↔ ∀ write ∈ writes, write.1.location ≠ location := by
  induction writes with
  | nil => simp [lastWritten?]
  | cons write writes ih =>
      obtain ⟨path, content⟩ := write
      simp [lastWritten?, ih, and_comm]

theorem lastWritten?_append (location : Location) (first second : List (Path × Bytes)) :
    lastWritten? location (first ++ second) =
      (lastWritten? location second).or (lastWritten? location first) := by
  induction first with
  | nil => simp [lastWritten?]
  | cons write first ih =>
      obtain ⟨path, content⟩ := write
      rw [List.cons_append, lastWritten?, ih, lastWritten?, Option.or_assoc]

theorem lastWritten?_of_last {earlier later : List (Path × Bytes)} {path : Path}
    {content : Bytes} (h : ∀ write ∈ later, write.1.location ≠ path.location) :
    lastWritten? path.location (earlier ++ (path, content) :: later) = some content := by
  rw [lastWritten?_append, lastWritten?, lastWritten?_eq_none_iff.2 h]
  simp

theorem read_writeAll {store final : Store} {writes : List (Path × Bytes)}
    (h : store.writeAll writes = .ok final) {write : Path × Bytes} (hmem : write ∈ writes) :
    ∃ content, lastWritten? write.1.location writes = some content ∧
      final.read write.1 = .ok content := by
  cases hlast : lastWritten? write.1.location writes with
  | none => exact absurd rfl (lastWritten?_eq_none_iff.1 hlast write hmem)
  | some content =>
      obtain ⟨location, hlocate, -⟩ := (writable_of_writeAll h hmem).of_sameFolders
        (sameFolders_of_writeAll h)
      refine ⟨content, rfl, read_eq_ok_iff.2 ⟨location, hlocate, ?_⟩⟩
      rw [(locate_eq_ok hlocate).1, file?_writeAll h, hlast, Option.some_or]

/-! ## Making folders -/

theorem makeFolder_eq_ok_iff {store made : Store} {path : Path} :
    store.makeFolder path = .ok made ↔
      (∃ location, store.locate path = .ok location ∧ store.see? location = none) ∧
        made = store.set path.location (.folder []) := by
  simp only [see?_eq]
  unfold makeFolder
  cases hlocate : store.locate path with
  | error fault => simp [bind, Except.bind]
  | ok location =>
      obtain ⟨rfl, -⟩ := locate_eq_ok hlocate
      cases hget : store.get? path.location with
      | none => simp [bind, Except.bind, hget, eq_comm]
      | some found => simp [bind, Except.bind, hget]

theorem see?_makeFolder {store made : Store} {path : Path}
    (h : store.makeFolder path = .ok made) (location : Location) :
    made.see? location =
      if location = path.location then some .folder else store.see? location := by
  obtain ⟨⟨place, hlocate, hfree⟩, rfl⟩ := makeFolder_eq_ok_iff.1 h
  obtain ⟨rfl, hparent⟩ := locate_eq_ok hlocate
  have hplace : path.location ≠ [] := by
    intro hnil
    rw [hnil, see?_nil] at hfree
    cases hfree
  exact see?_set Entry.isLeaf_empty hplace hparent (by simp [hfree]) location

/-- The second store is the first one with folders made on the way of the path. -/
inductive Made (path : Path) (store : Store) : Store → Prop
  | refl : Made path store store
  | step {middle made : Store} (count : Nat) : Made path store middle →
      middle.makeFolder (path.upTo count) = .ok made → Made path store made

theorem Made.trans {path : Path} {first second third : Store} (h : Made path first second)
    (h' : Made path second third) : Made path first third := by
  induction h' with
  | refl => exact h
  | step count _ hmake ih => exact ih.step count hmake

theorem Made.see? {path : Path} {store made : Store} (h : Made path store made)
    (location : Location) :
    made.see? location = store.see? location ∨
      store.see? location = none ∧ made.see? location = some .folder ∧
        ∃ count, location = (path.upTo count).location := by
  induction h with
  | refl => exact Or.inl rfl
  | step count hmade hmake ih =>
      rw [see?_makeFolder hmake]
      split
      · next hlocation =>
          obtain ⟨⟨place, hlocate, hfree⟩, -⟩ := makeFolder_eq_ok_iff.1 hmake
          rw [(locate_eq_ok hlocate).1, ← hlocation] at hfree
          rcases ih with hsame | ⟨-, hfolder, -⟩
          · exact Or.inr ⟨by rw [← hsame, hfree], rfl, count, hlocation⟩
          · rw [hfree] at hfolder
            cases hfolder
      · exact ih

theorem Made.file? {path : Path} {store made : Store} (h : Made path store made)
    (location : Location) : made.file? location = store.file? location := by
  rw [Store.file?, Store.file?]
  rcases h.see? location with hsame | ⟨hnone, hfolder, -⟩
  · rw [hsame]
  · rw [hnone, hfolder]

theorem Made.foldersWithin {path : Path} {store made : Store} (h : Made path store made) :
    store.FoldersWithin made := by
  intro location hfolder
  rcases h.see? location with hsame | ⟨hnone, -, -⟩
  · rw [hsame, hfolder]
  · rw [hnone] at hfolder
    cases hfolder

private theorem made_ensureFolder (path : Path) (store : Store) (count : Nat) :
    Made path store (store.ensureFolder (path.upTo count)).1 := by
  unfold ensureFolder
  split
  · next made hmake => exact .step count .refl hmake
  · exact .refl
  · split <;> exact .refl

theorem made_ensureUpTo (path : Path) (store : Store) (count : Nat) :
    Made path store (store.ensureUpTo path count).1 := by
  induction count with
  | zero => exact made_ensureFolder path store 0
  | succ count ih =>
      unfold ensureUpTo
      split
      · -- the folder above is missing: it is made first, then this one in it
        split
        · next made hmade =>
            rw [hmade] at ih
            exact ih.trans (made_ensureFolder path made (count + 1))
        · exact ih
      · exact made_ensureFolder path store (count + 1)

theorem made_ensureFolders (store : Store) (path : Path) :
    Made path store (store.ensureFolders path).1 :=
  made_ensureUpTo path store path.parts.length

/-! ## The folder that was asked for -/

theorem upTo_length (path : Path) : path.upTo path.parts.length = path := by
  rw [Path.upTo, List.take_length]

theorem ensureFolder_of_holdsFolder {store : Store} {path : Path}
    (h : store.holdsFolder path = .ok true) : store.ensureFolder path = (store, .ok ()) := by
  have hfault : store.makeFolder path = .error .alreadyThere := by
    obtain ⟨location, hlocate, hsee⟩ := holdsFolder_eq_true_iff.1 h
    obtain ⟨entries, hget⟩ := see?_eq_folder_iff.1 hsee
    simp [makeFolder, hlocate, hget, bind, Except.bind]
  unfold ensureFolder
  rw [hfault]
  simp only [h]

theorem holdsFolder_of_ensureFolder {store made : Store} {path : Path}
    (h : store.ensureFolder path = (made, .ok ())) : made.holdsFolder path = .ok true := by
  unfold ensureFolder at h
  split at h
  · next hmake =>
      cases h
      obtain ⟨⟨location, hlocate, -⟩, -⟩ := makeFolder_eq_ok_iff.1 hmake
      have hplace := (locate_eq_ok hlocate).1
      have hmade : Made path store made :=
        .step path.parts.length .refl ((upTo_length path).symm ▸ hmake)
      have hlocate' := locate_ok_mono hmade.foldersWithin hlocate
      refine holdsFolder_eq_true_iff.2 ⟨location, hlocate', ?_⟩
      rw [see?_makeFolder hmake, if_pos hplace]
  · cases h
  · split at h
    · next hholds =>
        cases h
        exact hholds
    · cases h

theorem ensureFolders_of_holdsFolder {store : Store} {path : Path}
    (h : store.holdsFolder path = .ok true) : store.ensureFolders path = (store, .ok ()) := by
  have hensure : store.ensureFolder (path.upTo path.parts.length) = (store, .ok ()) := by
    rw [upTo_length]
    exact ensureFolder_of_holdsFolder h
  unfold ensureFolders
  cases hcount : path.parts.length with
  | zero =>
      rw [hcount] at hensure
      rw [ensureUpTo, hensure]
  | succ count =>
      rw [hcount] at hensure
      rw [ensureUpTo, hensure]

theorem holdsFolder_of_ensureFolders {store made : Store} {path : Path}
    (h : store.ensureFolders path = (made, .ok ())) : made.holdsFolder path = .ok true := by
  rw [← upTo_length path]
  unfold ensureFolders at h
  cases hcount : path.parts.length with
  | zero =>
      rw [hcount, ensureUpTo] at h
      exact holdsFolder_of_ensureFolder h
  | succ count =>
      rw [hcount, ensureUpTo] at h
      split at h
      · split at h
        · exact holdsFolder_of_ensureFolder h
        · next hfailed => exact absurd h (hfailed made)
      · exact holdsFolder_of_ensureFolder h

end ClassWiki.Store
