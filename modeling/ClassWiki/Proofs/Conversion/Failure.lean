import ClassWiki.CommandLine.Run
import ClassWiki.Proofs.Conversion.Folder

/-!
# Runs that fail

A run that is refused at once leaves no trace.  A run that fails later leaves the pages
of the declarations in front of the point where it stopped, besides folders made for the
pages, and has announced the sources up to the one in which it stopped.
-/

namespace ClassWiki.Conversion

/-! ## Failing early -/

/-- The input folder is not there, or the settings name no usable kinds. -/
def Refused (settings : Value) (input : Path) (store : Store) : Prop :=
  store.holdsFolder input ≠ .ok true ∨
    ∃ fault, Settings.declarationKinds (chosen settings) = .error fault

theorem Ready.not_refused {settings : Value} {input : Path} {store : Store}
    {entries : Mapping} {kinds : List Text}
    (h : Ready settings input store entries kinds) : ¬ Refused settings input store := by
  rintro (hinput | ⟨fault, hfault⟩)
  · exact hinput h.input_eq
  · rw [h.settings_eq, h.kinds_eq] at hfault
    cases hfault

theorem EarlyFault.refused {settings : Value} {input : Path} {store : Store} {fault : Fault}
    (h : EarlyFault settings input store fault) : Refused settings input store := by
  cases h with
  | unreachable hinput => exact Or.inl (by simp [hinput])
  | missing hinput => exact Or.inl (by simp [hinput])
  | kinds hkinds => exact Or.inr ⟨fault, hkinds⟩

theorem run_of_refused (readers : Readers) {settings : Value} {input : Path} (out : Path)
    {world : World} (h : Refused settings input world.store) :
    ∃ fault, (convertFolder readers settings input out).run world = (.error fault, world) := by
  rcases ready_or_stops readers settings input out world with
    ⟨entries, kinds, hready⟩ | ⟨fault, -, hrun⟩
  · exact absurd h hready.not_refused
  · exact ⟨fault, hrun⟩

/-! ## Failing late -/

/-- Where a run stops after it has begun to change the store: while the folder for the
pages is made, while the sources are searched for, or in a source.  The paths are the
sources that were begun, the declarations are those that have their page. -/
inductive StopPoint (readers : Readers) (entries : Mapping) (kinds : List Text)
    (input out : Path) (store final : Store) : List Path → List Declaration → Fault → Prop
  | making {cause : FileFault} {failed : Path} :
      store.ensureFolders out = (final, .error (cause, failed)) →
      StopPoint readers entries kinds input out store final [] [] (.ofFile cause failed)
  | searching {cause : FileFault} {failed : Path} :
      store.ensureFolders out = (final, .ok ()) →
      final.sources input = .error (cause, failed) →
      StopPoint readers entries kinds input out store final [] [] (.ofFile cause failed)
  | converting {finished rest : List Path} {path : Path} {earlier own : List Declaration}
      {fault : Fault} : store.sources input = .ok (finished ++ path :: rest) →
      declarations? readers entries kinds store finished = some earlier →
      StopsIn readers entries kinds out store final path own fault →
      StopPoint readers entries kinds input out store final (finished ++ [path])
        (earlier ++ own) fault

/-- Each location shows the page that was written there last, or else what it showed
before, but for new folders on the way to the pages. -/
def Leaves (out : Path) (store final : Store) (pages : List Page) : Prop :=
  ∀ location,
    final.see? location =
        ((Store.lastWritten? location (pageWrites out pages)).map .file).or
          (store.see? location) ∨
      store.see? location = none ∧ final.see? location = some .folder ∧
        ∃ count, location = (out.upTo count).location

theorem leaves_of_writeAll {out : Path} {store made final : Store} {pages : List Page}
    (hmade : Store.Made out store made)
    (hwritten : made.writeAll (pageWrites out pages) = .ok final) :
    Leaves out store final pages := by
  intro location
  rw [Store.see?_writeAll hwritten]
  rcases hmade.see? location with hsame | ⟨hnone, hfolder, hcount⟩
  · rw [hsame]
    exact Or.inl rfl
  · cases Store.lastWritten? location (pageWrites out pages) with
    | some content => exact Or.inl rfl
    | none => exact Or.inr ⟨hnone, hfolder, hcount⟩

/-- The state that a run has reached when it stops. -/
structure Interrupted (readers : Readers) (entries : Mapping) (kinds : List Text)
    (input out : Path) (world final : World) (begun : List Path)
    (declarations : List Declaration) (fault : Fault) : Prop where
  stop : StopPoint readers entries kinds input out world.store final.store begun
    declarations fault
  printed : final.printed = world.printed ++ begun.map progressLine
  left : ∃ pages, declarations.mapM (page? entries) = some pages ∧
    Leaves out world.store final.store pages

theorem interrupted_of_run {readers : Readers} {settings : Value} {input out : Path}
    {world final : World} {entries : Mapping} {kinds : List Text} {fault : Fault}
    (hready : Ready settings input world.store entries kinds)
    (hrun : (convertFolder readers settings input out).run world = (.error fault, final)) :
    ∃ begun declarations,
      Interrupted readers entries kinds input out world final begun declarations fault := by
  have hmade := Store.made_ensureFolders world.store out
  rw [run_of_ready readers out hready] at hrun
  split at hrun
  · next made cause failed hensure =>
      rw [hensure] at hmade
      cases hrun
      exact ⟨[], [], .making hensure, by simp, [], rfl, leaves_of_writeAll hmade rfl⟩
  · next made hensure =>
      rw [hensure] at hmade
      split at hrun
      · next cause failed hsources =>
          cases hrun
          exact ⟨[], [], .searching hensure hsources, by simp, [], rfl,
            leaves_of_writeAll hmade rfl⟩
      · next paths hpaths =>
          have hsources := hmade.sources hready.input_eq hpaths
          obtain ⟨finished, earlier, hearlier, -, hend⟩ :=
            run_convertFiles readers entries kinds out paths
              (fun path hmem => Store.isSource_of_mem_sources hpaths hmem)
              { world with store := made }
          rcases hend with ⟨-, _, -, hend⟩ |
            ⟨path, rest, own, _, _, rfl, hstop, hprogress, hend⟩
          · rw [hend] at hrun
            cases hrun
          · rw [hend] at hrun
            cases hrun
            -- making folders has left the sources as they were
            rw [declarations?_congr readers entries kinds fun path _ =>
              hmade.file? path.location] at hearlier
            obtain ⟨pages, hpages, hwritten⟩ := hprogress.written
            exact ⟨finished ++ [path], earlier ++ own,
              .converting hsources hearlier (hstop.of_file? (hmade.file? path.location)),
              hprogress.printed, pages, hpages, leaves_of_writeAll hmade hwritten⟩

/-! ## The whole program -/

section Program

variable {readers : Readers} {working : Location} {arguments : CommandLine.Arguments}
  {world final : World} {settings : Value} {input output : Text} {fault : Fault}

theorem run_job_eq_error_iff
    (hload : Settings.load readers.document working world.store arguments.config = .ok settings)
    (hinput : arguments.input = some input) (houtput : arguments.output = some output)
    (hnul : (Path.ofText working output).hasNul = false) :
    (CommandLine.job readers working arguments).run world = (.error fault, final) ↔
      (convertFolder readers settings (.ofText working input)
        (Path.ofText working output).resolve).run world = (.error fault, final) := by
  simp only [CommandLine.job, Job.run_bind, Job.run_store, hload, Job.run_ofExcept_ok,
    hinput, houtput, CommandLine.job.path, Job.run_pure, hnul, Bool.false_eq_true, if_false]
  generalize (convertFolder readers settings (.ofText working input)
    (Path.ofText working output).resolve).run world = result
  obtain ⟨outcome, middle⟩ := result
  cases outcome with
  | error cause => constructor <;> (intro h; cases h; rfl)
  | ok count =>
      obtain ⟨shown, hprint, -⟩ := Job.run_print ("Generated " ++ Nat.toDigits 10 count ++
        " Markdown pages into: " ++ (Path.ofText working output).resolve.text) middle
      simp only [hprint]
      constructor <;> (intro h; cases h)

theorem run_job_of_load
    (hload : Settings.load readers.document working world.store arguments.config =
      .error fault) :
    (CommandLine.job readers working arguments).run world = (.error fault, world) := by
  simp only [CommandLine.job, Job.run_bind, Job.run_store, hload, Job.run_ofExcept_error]

/-- The command line does not name both folders, or an output folder that there cannot be. -/
def Unnamed (working : Location) (arguments : CommandLine.Arguments) : Prop :=
  arguments.input = none ∨
    ∀ output, arguments.output = some output → (Path.ofText working output).hasNul = true

theorem named_of_not_unnamed (h : ¬ Unnamed working arguments) :
    ∃ input output, arguments.input = some input ∧ arguments.output = some output ∧
      (Path.ofText working output).hasNul = false := by
  rw [Unnamed, not_or] at h
  obtain ⟨input, hinput⟩ := Option.ne_none_iff_exists'.1 h.1
  obtain ⟨output, houtput⟩ := not_forall.1 h.2
  rw [Classical.not_imp, Bool.not_eq_true] at houtput
  exact ⟨input, output, hinput, houtput.1, houtput.2⟩

theorem run_job_of_unnamed
    (hload : Settings.load readers.document working world.store arguments.config = .ok settings)
    (h : Unnamed working arguments) :
    ∃ fault, (CommandLine.job readers working arguments).run world = (.error fault, world) := by
  simp only [CommandLine.job, Job.run_bind, Job.run_store, hload, Job.run_ofExcept_ok]
  cases houtput : arguments.output with
  | none => exact ⟨_, rfl⟩
  | some output =>
      simp only [CommandLine.job.path, Job.run_pure]
      cases hnul : (Path.ofText working output).hasNul with
      | true => exact ⟨_, rfl⟩
      | false =>
          simp only [Bool.false_eq_true, if_false, Job.run_bind]
          rcases h with hinput | hnuls
          · rw [hinput]
            exact ⟨_, rfl⟩
          · rw [hnuls output houtput] at hnul
            cases hnul

theorem run_job_of_refused
    (hload : Settings.load readers.document working world.store arguments.config = .ok settings)
    (hinput : arguments.input = some input)
    (hrefused : Refused settings (.ofText working input) world.store) :
    ∃ fault, (CommandLine.job readers working arguments).run world =
      (.error fault, world) := by
  by_cases hunnamed : Unnamed working arguments
  · exact run_job_of_unnamed hload hunnamed
  · obtain ⟨_, output, -, houtput, hnul⟩ := named_of_not_unnamed hunnamed
    obtain ⟨fault, hrun⟩ := run_of_refused readers (Path.ofText working output).resolve hrefused
    exact ⟨fault, (run_job_eq_error_iff hload hinput houtput hnul).2 hrun⟩

end Program

/-- A run that is refused, for its settings, its folders or its kinds, leaves no trace.  Every
other run that fails has written the pages of the declarations in front of the point where
it stops, and nothing else but folders for them.  The program fails exactly when its
conversion does, and leaves what the conversion has left. -/
theorem failed_run_leaves_prefix (readers : Readers) (working : Location)
    (arguments : CommandLine.Arguments) (world : World) :
    (∀ fault,
      Settings.load readers.document working world.store arguments.config = .error fault →
      (CommandLine.job readers working arguments).run world = (.error fault, world)) ∧
    (∀ settings,
      Settings.load readers.document working world.store arguments.config = .ok settings →
      (Unnamed working arguments →
        ∃ fault, (CommandLine.job readers working arguments).run world =
          (.error fault, world)) ∧
      (∀ input, arguments.input = some input →
        Refused settings (.ofText working input) world.store →
        ∃ fault, (CommandLine.job readers working arguments).run world =
          (.error fault, world)) ∧
      ∀ input output fault final, arguments.input = some input →
        arguments.output = some output → (Path.ofText working output).hasNul = false →
        ((CommandLine.job readers working arguments).run world = (.error fault, final) ↔
          (convertFolder readers settings (.ofText working input)
            (Path.ofText working output).resolve).run world = (.error fault, final))) ∧
    ∀ settings input out,
      (Refused settings input world.store →
        ∃ fault, (convertFolder readers settings input out).run world =
          (.error fault, world)) ∧
      ∀ fault final, ¬ Refused settings input world.store →
        (convertFolder readers settings input out).run world = (.error fault, final) →
        ∃ entries kinds begun declarations,
          chosen settings = .map entries ∧
          Settings.declarationKinds (.map entries) = .ok kinds ∧
          Interrupted readers entries kinds input out world final begun declarations fault := by
  refine ⟨fun _ => run_job_of_load, fun settings hload => ⟨run_job_of_unnamed hload,
    fun _ => run_job_of_refused hload, fun _ _ _ _ => run_job_eq_error_iff hload⟩,
    fun settings input out => ⟨run_of_refused readers out, ?_⟩⟩
  intro fault final hrefused hrun
  rcases ready_or_stops readers settings input out world with
    ⟨entries, kinds, hready⟩ | ⟨_, hearly, -⟩
  · obtain ⟨begun, declarations, hinterrupted⟩ := interrupted_of_run hready hrun
    exact ⟨entries, kinds, begun, declarations, hready.settings_eq, hready.kinds_eq,
      hinterrupted⟩
  · exact absurd hearly.refused hrefused

namespace Sample

/-- A folder stands where the second page should go. -/
def blocked : World := world ("B.md", .folder [])

def arguments : CommandLine.Arguments := ⟨some "in", some "in", none, false⟩

def out : Path := ⟨.root, ["w", "in"]⟩

end Sample

open Sample

/-- The program stops at the second page, and the first one has been written. -/
theorem failed_run_leaves_prefix_sample :
    ∃ final kinds begun declarations,
      (CommandLine.job readers working arguments).run blocked =
        (.error (.file .isFolder ⟨.root, ["w", "in", "B.md"]⟩), final) ∧
      Interrupted readers entries kinds folder out blocked final begun declarations
        (.file .isFolder ⟨.root, ["w", "in", "B.md"]⟩) ∧
      final.printed = [progressLine path] ∧
      final.store.file? ["w", "in", "A.md"] =
        some (Utf8.encode (Page.ofDeclaration ⟨false, false⟩ (declaration "A" "X")).text) ∧
      final.store.see? ["w", "in", "B.md"] = some .folder := by
  obtain ⟨-, hloaded, hconversion⟩ :=
    failed_run_leaves_prefix readers working arguments blocked
  have houtcome : ((CommandLine.job readers working arguments).run blocked).1 =
      .error (.file .isFolder ⟨.root, ["w", "in", "B.md"]⟩) := by decide +kernel
  have hrun : (CommandLine.job readers working arguments).run blocked = (_, _) :=
    Prod.ext houtcome rfl
  have hfolder := ((hloaded _ rfl).2.2 "in" "in" _ _ rfl rfl (by decide)).1 hrun
  obtain ⟨_, kinds, begun, declarations, hentries, -, hinterrupted⟩ :=
    (hconversion _ _ _).2 _ _ (ready ("B.md", .folder [])).not_refused hfolder
  cases hentries
  exact ⟨_, kinds, begun, declarations, hrun, hinterrupted, by decide +kernel,
    by decide +kernel, by decide +kernel⟩

end ClassWiki.Conversion
