import VisualNovel.Proofs.Http.Register
import VisualNovel.Proofs.Store.Demo
import VisualNovel.Proofs.Store.Ledger

/-!
# What the program does to its store

A store starts without any tenants (`Store.New`).  From then on it is changed by whatever the
program does: it opens the store again, writes and imports for any tenants, makes the demo story,
and answers requests of all kinds.  Each of these is a `Deed`, done at some time, with some draws
and some room for values that nest, and may fail halfway.

The stores to which deeds lead are `Reachable`.  In all of them the demo story can be made
(`Reachable.renewable`): one deed leaves a renewable store renewable (`Deed.renewable_after`).
-/

namespace VisualNovel

open Store

variable {store : Store} {root : Path} {place : Location}

/-- Has the store been opened, and is there nothing in the directory of the tenants? -/
structure Store.New (store : Store) (root : Path) (place : Location) : Prop
    extends store.Ready root place where
  wellFormed : store.files.WellFormed
  no_tenants : ∀ names, names ≠ [] → store.files.entry? (place ++ names) = none

theorem Store.New.renewable (hnew : store.New root place) : store.Renewable root place :=
  hnew.toReady.renewable hnew.wellFormed hnew.no_tenants

/-- Is the collection to which a call writes named by a name?  Scripts, casts and saves are. -/
def Store.Operation.Tidy : Operation → Prop
  | write _ collection _ => ∀ name, collection = .str name → IsName name
  | _ => True

/-- What the program does to a store. -/
inductive Deed where
  /-- The store is opened again, as it is by every program that is started. -/
  | opens
  | calls (operation : Operation) (tidy : operation.Tidy)
  | importsCharacters (tenant records : Json)
  | importsScenario (tenant lines : Json)
  | importsDirectory (source : Path) (tenant : Json)
  | makesDemo
  | answers (server : Http.Server) (request : Http.Request)

/-- The store that is left when something has been done, whether it has failed or not. -/
def Deed.after [Json.Room] (root : Path) (store : Store) : Deed → Store
  | opens => (result (openAt root) store).2
  | calls operation _ => (result operation.action store).2
  | importsCharacters tenant records => (result (importCharacters tenant records) store).2
  | importsScenario tenant lines => (result (importScenario tenant lines) store).2
  | importsDirectory source tenant => (result (importDirectory source tenant) store).2
  | makesDemo => (result Demo.create store).2
  | answers server request => ((server.handle request).run store).2

/-- The stores to which the program can come from a new one. -/
inductive Store.Reachable (root : Path) (place : Location) : Store → Prop
  | new {store : Store} (hnew : store.New root place) : Reachable root place store
  | deed [Json.Room] {store : Store} (hstore : Reachable root place store) (moment : Moment)
      (draws : List Nat) (deed : Deed) :
      Reachable root place (deed.after root { store with clock := moment, draws := draws })

/-! ## One deed -/

theorem Store.Renewable.at (hstore : store.Renewable root place) (moment : Moment)
    (draws : List Nat) :
    Renewable { store with clock := moment, draws := draws } root place :=
  ⟨hstore.root_eq, hstore.found, hstore.room, hstore.wellFormed, hstore.settled⟩

/-- The collections of the program are named by names. -/
theorem preserves_renewable_collection [Json.Room] {collection : String}
    (hcollection : IsName collection)
    (tenant documents : Json) :
    Preserves (fun store => store.Renewable root place)
      (write tenant (.str collection) documents) :=
  preserves_renewable_write (fun _ hname => Json.str.inj hname ▸ hcollection) documents

theorem preserves_renewable_createSave [Json.Room] (tenant data : Json) :
    Preserves (fun store => store.Renewable root place) (createSave tenant data) := by
  refine preserves_createSave (fun store hstore => hstore.at store.clock _) (fun documents => ?_) _
  exact preserves_renewable_collection isFileName_saveData.toIsName tenant documents

theorem Store.Operation.preserves_renewable [Json.Room] {operation : Operation}
    (htidy : operation.Tidy) :
    Preserves (fun store => store.Renewable root place) operation.action := by
  cases operation with
  | write tenant collection documents =>
      exact (preserves_renewable_write htidy documents).bind fun _ => preserves_pure _
  | saveScenario tenant lines =>
      refine (preserves_keep (fun documents => ?_) _ lines).bind fun _ => preserves_pure _
      exact preserves_renewable_collection isFileName_scenario.toIsName tenant documents
  | saveCharacters tenant records =>
      refine (preserves_keep (fun documents => ?_) _ records).bind fun _ => preserves_pure _
      exact preserves_renewable_collection isFileName_characters.toIsName tenant documents
  | createSave tenant data =>
      exact (preserves_renewable_createSave tenant data).bind fun _ => preserves_pure _

theorem Http.Server.preserves_handle [Json.Room] {holds : Store → Prop}
    (hsave : ∀ tenant data, Preserves holds (createSave (.str tenant) (.obj data)))
    (server : Server) (request : Request) (hstore : holds store) :
    holds ((server.handle request).run store).2 := by
  cases htask : server.task? request with
  | none => rwa [Server.store_of_no_task htask]
  | some made =>
      obtain ⟨tenant, task⟩ := made
      rw [Server.run_handle htask]
      cases task with
      | save data =>
          rw [Task.result_save]
          exact hsave tenant data store hstore
      | _ => exact (Task.readOnly (by rintro ⟨⟩) tenant).preserves store hstore

/-- Whatever the program does leaves a renewable store renewable. -/
theorem Deed.renewable_after [Json.Room] (hstore : store.Renewable root place) (deed : Deed) :
    (deed.after root store).Renewable root place := by
  have hcast : ∀ tenant documents, Preserves (fun store => store.Renewable root place)
      (write tenant characterCollection documents) :=
    preserves_renewable_collection isFileName_characters.toIsName
  have hscript : ∀ tenant documents, Preserves (fun store => store.Renewable root place)
      (write tenant scenarioCollection documents) :=
    preserves_renewable_collection isFileName_scenario.toIsName
  cases deed with
  | opens =>
      have hopens := gives_openAt hstore.root_eq hstore.directory
      rw [after, hopens.result_eq]
      exact hstore
  | calls operation tidy => exact Operation.preserves_renewable tidy store hstore
  | importsCharacters tenant records =>
      exact preserves_importCharacters (hcast tenant) records store hstore
  | importsScenario tenant lines =>
      exact preserves_importScenario (hscript tenant) lines store hstore
  | importsDirectory source tenant =>
      exact preserves_importDirectory (hcast tenant) (hscript tenant) source store hstore
  | makesDemo =>
      obtain ⟨files, hcreate, hrenewable, -⟩ := hstore.gives_create
      rw [after, hcreate.result_eq]
      exact hrenewable
  | answers server request =>
      exact server.preserves_handle (fun tenant data => preserves_renewable_createSave _ _)
        request hstore

/-! ## Any deeds -/

/-- Whatever the program has done, the demo story can be made. -/
theorem Store.Reachable.renewable (hstore : Reachable root place store) :
    store.Renewable root place := by
  induction hstore with
  | new hnew => exact hnew.renewable
  | deed _ moment draws deed ih => exact deed.renewable_after (ih.at moment draws)

end VisualNovel
