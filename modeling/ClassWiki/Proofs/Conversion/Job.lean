import ClassWiki.Conversion

/-!
# Running a job

What a job does to a world, one primitive at a time.
-/

namespace ClassWiki.Job

variable {α β : Type}

theorem run_bind (job : Job α) (next : α → Job β) (world : World) :
    (job >>= next).run world =
      match job.run world with
      | (.ok a, middle) => (next a).run middle
      | (.error fault, middle) => (.error fault, middle) := by
  change (ExceptT.bind job next).run world = _
  simp only [ExceptT.bind, ExceptT.run, ExceptT.mk, bind, StateT.bind]
  obtain ⟨outcome, middle⟩ := job world
  cases outcome <;> rfl

theorem run_pure (a : α) (world : World) : (pure a : Job α).run world = (.ok a, world) := rfl

theorem run_print (line : Text) (world : World) :
    ∃ shown, (print line).run world = (.ok (), shown) ∧
      shown.store = world.store ∧ shown.printed = world.printed ++ [line] :=
  ⟨_, rfl, rfl, rfl⟩

theorem run_log (level : Level) (message : Text) (world : World) :
    ∃ logged, (log level message).run world = (.ok (), logged) ∧
      logged.store = world.store ∧ logged.printed = world.printed :=
  ⟨_, rfl, rfl, rfl⟩

theorem run_store (world : World) : store.run world = (.ok world.store, world) := rfl

theorem run_setStore (changed : Store) (world : World) :
    (setStore changed).run world = (.ok (), { world with store := changed }) := rfl

theorem run_ofExcept_ok (a : α) (world : World) :
    (ofExcept (.ok a)).run world = (.ok a, world) := rfl

theorem run_ofExcept_error (fault : Fault) (world : World) :
    (ofExcept (.error fault) : Job α).run world = (.error fault, world) := rfl

theorem run_file_ok (path : Path) (a : α) (world : World) :
    (file path (.ok a)).run world = (.ok a, world) := rfl

end ClassWiki.Job
