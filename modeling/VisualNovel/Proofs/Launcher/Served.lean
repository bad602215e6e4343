import VisualNovel.Launcher.Basic
import VisualNovel.Proofs.Store.Demo

/-!
# The store that is filled, and the one that is served

The launcher fills a store and then starts a backend, which opens a store by itself.  The two
programs find their directories in different ways and from different places:

* the launcher takes the directory from the command line, or `data` in its working directory;
* the backend works in the directory of the program.  It takes the directory from its environment,
  or `data` where it works.

If the directory is given on the command line it is written into the environment of the backend as
an absolute path, and read from there (`servedDirectory_of_given`).  Otherwise the environment is
passed on as it is, so the two agree only by chance (`SameStore`).
-/

namespace VisualNovel.Launcher

open Store

section

variable {transport : Transport Store} {surroundings : Surroundings} {words : List String}
  {arguments : Arguments} {before after : Store} {outcome : Launch} {program : StartedProgram}

/-- Without `--play` the launcher fills the store, and then starts the backend. -/
theorem run_eq_fill [Json.Room] (hwords : Arguments.parse words = .read arguments)
    (hplay : arguments.play = false) (hasks : asksForStore arguments = true)
    (transport : Transport Store) (surroundings : Surroundings) (before : Store) :
    (run transport surroundings words).run before =
      match result (fill arguments) before with
      | (.error fault, left) => ({ ending := .storeFailed fault }, left)
      | (.ok (), left) => (serve before.files.workingDirectory surroundings arguments, left) := by
  rw [run, hwords]
  show (launch transport surroundings arguments).run before = _
  rw [launch, hplay, if_neg Bool.false_ne_true, StateT.run_bind]
  simp only [hasks, if_true]
  show ((ExceptT.run (fill arguments) >>= _).run before) = _
  rw [StateT.run_bind]
  rcases hfill : result (fill arguments) before with ⟨fault | value, left⟩ <;>
    rw [show (ExceptT.run (fill arguments)).run before = _ from hfill] <;> rfl

theorem of_started [Json.Room] (hwords : Arguments.parse words = .read arguments)
    (hplay : arguments.play = false) (hasks : asksForStore arguments = true)
    (hrun : (run transport surroundings words).run before = (outcome, after))
    (hstarted : outcome.started = some program) :
    Gives (fill arguments) before () after ∧
      program = backend surroundings
        (backendEnvironment before.files.workingDirectory surroundings arguments) := by
  rw [run_eq_fill hwords hplay hasks] at hrun
  rcases hfill : result (fill arguments) before with ⟨fault | value, left⟩
  · rw [hfill] at hrun
    cases hrun
    cases hstarted
  · rw [hfill] at hrun
    cases hrun
    exact ⟨hfill, (Option.some.inj hstarted).symm⟩

/-! ## The two directories -/

/-- The place of the store that the launcher fills. -/
def filledPlace (workingDirectory : Location) (arguments : Arguments) : Location :=
  (dataDirectory arguments).fromRoot workingDirectory

/-- The place of the store that a program serves. -/
def servedPlace (programRoot : Path) (program : StartedProgram) : Location :=
  (servedDirectory programRoot program.environment).fromRoot (program.directory.fromRoot [])

/-- The place of a directory that is given on the command line is written into the environment, and
read from there. -/
theorem servedDirectory_of_given {given : String} (hgiven : arguments.dataDirectory = some given)
    {workingDirectory : Location} (hnames : ∀ name ∈ workingDirectory, IsName name)
    (surroundings : Surroundings) :
    servedDirectory surroundings.programRoot
        (backendEnvironment workingDirectory surroundings arguments) =
      ⟨true, filledPlace workingDirectory arguments⟩ := by
  have hplace : filledPlace workingDirectory arguments =
      (Path.ofText given).fromRoot workingDirectory := by
    rw [filledPlace, dataDirectory, hgiven]
    rfl
  have hparts : ∀ name ∈ filledPlace workingDirectory arguments, Path.IsPart name := by
    intro name hmem
    rw [hplace, Path.fromRoot] at hmem
    have hmem := (Path.mem_plainNames hmem).1
    split at hmem
    · exact Path.isPart_of_ofText hmem
    · rcases List.mem_append.mp hmem with hmem | hmem
      · exact Path.isPart_of_isName (hnames name hmem)
      · exact Path.isPart_of_ofText hmem
  have hread : Path.ofText (Path.text ⟨true, filledPlace workingDirectory arguments⟩) =
      ⟨true, filledPlace workingDirectory arguments⟩ := Path.ofText_text rfl hparts
  simp only [servedDirectory, backendEnvironment, hgiven, OrderedMap.at?_put_self, ← hplace]
  rw [Path.child, hread, Path.join, if_pos rfl]

theorem backendEnvironment_of_none (hnone : arguments.dataDirectory = none)
    (workingDirectory : Location) (surroundings : Surroundings) :
    backendEnvironment workingDirectory surroundings arguments = surroundings.environment := by
  rw [backendEnvironment, hnone]

@[simp] theorem backend_environment (surroundings : Surroundings) (environment : Environment) :
    (backend surroundings environment).environment = environment := rfl

theorem absolute_child {path : Path} (habsolute : path.absolute = true) (text : String) :
    (path.child text).absolute = true := by
  rw [Path.child, Path.join]
  split
  · assumption
  · exact habsolute

theorem absolute_servedDirectory {programRoot : Path} (habsolute : programRoot.absolute = true)
    (environment : Environment) : (servedDirectory programRoot environment).absolute = true := by
  rw [servedDirectory]
  split <;> exact absolute_child habsolute _

theorem of_fill [Json.Room] (hthere : before.files.HasWorkingDirectory)
    (hfill : Gives (fill arguments) before () after) :
    after.root = some (dataDirectory arguments) ∧
      ∃ opened, Gives (openAt (dataDirectory arguments)) before () opened ∧
        opened.files.HasDirectory (dataDirectory arguments)
          (filledPlace before.files.workingDirectory arguments) := by
  obtain ⟨_, opened, hopens, hrest⟩ := hfill.of_bind
  obtain ⟨hroot, hdirectory⟩ := of_openAt hthere hopens
  refine ⟨?_, opened, hopens, hdirectory⟩
  rw [← hroot]
  refine KeepsRoot.root_eq (fun root => ?_) hrest
  cases arguments.importDirectory with
  | none =>
      simp only
      split
      · exact (keepsRoot_create root).bind fun _ => preserves_pure _
      · exact preserves_pure _
  | some source =>
      simp only
      have himport := (keepsRoot_importDirectory (Path.ofText source)
        (.str ((nonempty arguments.tenant).getD Demo.tenant)) root).bind fun _ => preserves_pure ()
      split
      · exact (keepsRoot_create root).bind fun _ => himport
      · exact himport

/-- Is the store that a backend serves the one that the launcher fills?  It is when its directory is
given on the command line.  Otherwise the launcher fills the directory `data` of the working
directory, and the backend looks in its environment and in the directory of the program. -/
def SameStore (surroundings : Surroundings) (workingDirectory : Location)
    (arguments : Arguments) : Prop :=
  match arguments.dataDirectory, OrderedMap.at? "DATA_DIR" surroundings.environment with
  | some _, _ => True
  | none, some given =>
    (surroundings.programRoot.child given).fromRoot [] = workingDirectory ++ ["data"]
  | none, none => surroundings.programRoot.fromRoot [] = workingDirectory

theorem servedPlace_eq_filledPlace_iff (habsolute : surroundings.programRoot.absolute = true)
    (hthere : before.files.HasWorkingDirectory) :
    servedPlace surroundings.programRoot (backend surroundings
        (backendEnvironment before.files.workingDirectory surroundings arguments)) =
      filledPlace before.files.workingDirectory arguments ↔
      SameStore surroundings before.files.workingDirectory arguments := by
  rw [servedPlace, backend_environment, SameStore]
  cases hgiven : arguments.dataDirectory with
  | some given =>
      have hplain : ".." ∉ filledPlace before.files.workingDirectory arguments := fun hmem =>
        (Path.mem_plainNames hmem).2 rfl
      refine iff_of_true ?_ trivial
      rw [servedDirectory_of_given hgiven hthere.isName]
      exact (Path.fromRoot_of_absolute rfl _).trans (Path.plainNames_of_plain hplain)
  | none =>
      have hdata : IsName "data" := Key.isName_of_isKey (by decide)
      have hplain : ".." ∉ ["data"] := by decide
      have hfilled : filledPlace before.files.workingDirectory arguments =
          before.files.workingDirectory ++ ["data"] := by
        rw [filledPlace, dataDirectory, hgiven]
        show (Path.ofText "data").fromRoot _ = _
        rw [Path.ofText_of_isName hdata, Path.fromRoot_of_relative rfl,
          Path.plainNames_of_plain hthere.plain, Path.foldl_go_of_plain hplain]
      rw [hfilled, backendEnvironment_of_none hgiven,
        Path.fromRoot_of_absolute (absolute_servedDirectory habsolute _), servedDirectory]
      cases hvariable : OrderedMap.at? "DATA_DIR" surroundings.environment with
      | some given =>
          simp only
          rw [Path.fromRoot_of_absolute (absolute_child habsolute given)]
      | none =>
          simp only
          rw [Path.child_of_isName hdata, Path.plainNames_append, Path.foldl_go_of_plain hplain,
            Path.fromRoot_of_absolute habsolute, List.append_left_inj]

/-- **The launcher serves the store that it fills if it is told where to put it.**  When a demo
story or a directory has been imported and the backend is started, the root of the store that was
filled is at `filledPlace`; and wherever the backend is when it opens its store, the root is at
`servedPlace`.  These are the same in the cases of `SameStore`, and in no others. -/
theorem run_serves_filled_iff [Json.Room] (hwords : Arguments.parse words = .read arguments)
    (hplay : arguments.play = false)
    (hfills : arguments.demo = true ∨ arguments.importDirectory ≠ none)
    (habsolute : surroundings.programRoot.absolute = true)
    (hthere : before.files.HasWorkingDirectory)
    (hrun : (run transport surroundings words).run before = (outcome, after))
    (hstarted : outcome.started = some program) :
    let serves := servedDirectory surroundings.programRoot program.environment
    let filled := filledPlace before.files.workingDirectory arguments
    let served := servedPlace surroundings.programRoot program
    after.root = some (dataDirectory arguments) ∧
    (∃ opened, Gives (openAt (dataDirectory arguments)) before () opened ∧
      opened.files.HasDirectory (dataDirectory arguments) filled) ∧
    (∀ server opened, server.files.HasWorkingDirectory → Gives (openAt serves) server () opened →
      opened.root = some serves ∧ opened.files.HasDirectory serves served) ∧
    (served = filled ↔ SameStore surroundings before.files.workingDirectory arguments) := by
  intro serves filled served
  have hasks : asksForStore arguments = true := by
    rcases hfills with hdemo | himport
    · simp [asksForStore, hdemo]
    · simp [asksForStore, Option.isSome_iff_ne_none.mpr himport]
  obtain ⟨hfill, rfl⟩ := of_started hwords hplay hasks hrun hstarted
  obtain ⟨hroot, hopened⟩ := of_fill hthere hfill
  refine ⟨hroot, hopened, fun server opened hserver hopens => ?_,
    servedPlace_eq_filledPlace_iff habsolute hthere⟩
  have hserves : serves.absolute = true := absolute_servedDirectory habsolute _
  obtain ⟨hroot, hdirectory⟩ := of_openAt hserver hopens
  rw [Path.fromRoot_of_absolute hserves] at hdirectory
  refine ⟨hroot, ?_⟩
  rw [show served = _ from Path.fromRoot_of_absolute hserves _]
  exact hdirectory

end

/-! ## The demo story in a new store -/

section

variable {words : List String} {arguments : Arguments}

theorem exists_run_newWith [Json.Room] (hwords : Arguments.parse words = .read arguments)
    (hplay : arguments.play = false) (hdemo : arguments.demo = true)
    (hdata : dataDirectory arguments = Path.ofText "data")
    (himport : arguments.importDirectory = none) (transport : Transport Store)
    (surroundings : Surroundings) :
    ∃ files, (run transport surroundings words).run (newWith []) =
      (serve [] surroundings arguments, { newWith [] with files := files }) := by
  obtain ⟨files, hcreate, -⟩ := renewable_newWith.gives_create
  have hfill : Gives (fill arguments) (newWith []) () { newWith [] with files := files } := by
    rw [fill, hdata]
    refine (gives_openAt rfl (hasDirectory_newWith [])).bind ?_
    simp only [hdemo, himport, if_true]
    exact hcreate.bind (gives_pure _ _)
  have hasks : asksForStore arguments = true := by simp [asksForStore, hdemo]
  refine ⟨files, ?_⟩
  rw [run_eq_fill hwords hplay hasks, hfill.result_eq]
  rfl

/-- The demo story is made in one directory and another one is served: the launcher is called from
elsewhere, and nobody says where to put the store. -/
theorem run_serves_another_store :
    let surroundings : Surroundings := { programRoot := ⟨true, ["srv"]⟩, environment := [] }
    ∃ outcome after program,
      (run .unreachable surroundings ["--demo"]).run (newWith []) = (outcome, after) ∧
        outcome.started = some program ∧ after.root = some (Path.ofText "data") ∧
        filledPlace (newWith []).files.workingDirectory { demo := true } = ["data"] ∧
        servedPlace surroundings.programRoot program = ["srv", "data"] := by
  intro surroundings
  have hwords : Arguments.parse ["--demo"] = .read { demo := true } := by decide +kernel
  obtain ⟨files, hrun⟩ := exists_run_newWith hwords rfl rfl rfl rfl .unreachable surroundings
  exact ⟨_, _, _, hrun, rfl, rfl, by decide +kernel, by decide +kernel⟩

/-- The demo story is made in the directory that is served: it is given on the command line. -/
theorem run_serves_filled_of_given :
    let surroundings : Surroundings := { programRoot := ⟨true, ["srv"]⟩, environment := [] }
    let arguments : Arguments := { demo := true, dataDirectory := some "data" }
    ∃ outcome after program,
      (run .unreachable surroundings ["--demo", "--data-dir", "data"]).run (newWith []) =
          (outcome, after) ∧
        outcome.started = some program ∧
        servedPlace surroundings.programRoot program =
          filledPlace (newWith []).files.workingDirectory arguments := by
  intro surroundings arguments
  have hwords : Arguments.parse ["--demo", "--data-dir", "data"] = .read arguments := by
    decide +kernel
  have hthere : (newWith []).files.HasWorkingDirectory := ⟨rfl, List.forall_mem_nil _⟩
  obtain ⟨files, hrun⟩ := exists_run_newWith hwords rfl rfl rfl rfl .unreachable surroundings
  obtain ⟨-, -, -, hsame⟩ := run_serves_filled_iff hwords rfl (Or.inl rfl) rfl hthere hrun rfl
  exact ⟨_, _, _, hrun, rfl, hsame.mpr trivial⟩

end

end VisualNovel.Launcher
