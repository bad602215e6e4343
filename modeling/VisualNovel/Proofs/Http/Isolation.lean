import VisualNovel.Proofs.Http.Exchange
import VisualNovel.Proofs.Http.Task
import VisualNovel.Proofs.Store.Written

/-!
# Tenants are isolated

A request to a callable that names no key as its tenant is answered without a look at the store.  A
request that names one is answered by what is in the directory of that tenant and below it, and
changes nothing else: the task that it comes down to is confined to the tenant (`Task.confined`).

Reading changes nothing at all, and making a save creates one file, over an older save with the
same code if there is one, and the directories on the way to it if they are not there yet
(`AddsSave`).
-/

namespace VisualNovel

open Store

variable {root : Path} {place : Location} {tenant code : String} {first second store : Store}
  {task : Task}

/-! ## Tasks -/

/-- What becomes of a call, told from the answer of the action. -/
def Outcome.ofAnswer : Except StoreFault Outcome → Outcome
  | .ok outcome => outcome
  | .error fault => .failed fault

theorem Callable.run_perform (action : Store.Action Outcome) (store : Store) :
    (Callable.perform action).run store =
      (Outcome.ofAnswer (result action store).1, (result action store).2) := by
  unfold Callable.perform result
  rw [StateT.run_bind]
  rcases action.run.run store with ⟨_ | outcome, left⟩ <;> rfl

theorem Callable.run_serve [Json.Room] {callable : Callable} {payload : Json}
    (htask : callable.task? payload = some (tenant, task)) (store : Store) :
    (callable.serve payload).run store =
      (Outcome.ofAnswer (result (task.action tenant) store).1,
        (result (task.action tenant) store).2) := by
  have hserved := callable.servedAs_task? payload
  rw [htask] at hserved
  rw [hserved, run_perform]

/-- What is done for a tenant is confined to it. -/
theorem Task.confined [Json.Room] (htenant : Key.isKey tenant = true) (task : Task) :
    Confined root place tenant (task.action tenant) := by
  cases task with
  | scenario =>
      exact (confined_documents htenant isFileName_scenario.toIsName).bind
        fun _ => confined_pure _
  | characters =>
      exact (confined_documents htenant isFileName_characters.toIsName).bind
        fun _ => confined_pure _
  | save data => exact (confined_createSave htenant data).bind fun _ => confined_pure _
  | load code =>
      refine (confined_save? htenant code).bind fun found => ?_
      split <;> exact confined_pure _

theorem Task.readOnly [Json.Room] (htask : task.callable ≠ .saveGame) (tenant : String) :
    ReadOnly (task.action tenant) := by
  cases task with
  | scenario => exact (readOnly_documents _ _).bind fun _ => readOnly_pure _
  | characters => exact (readOnly_documents _ _).bind fun _ => readOnly_pure _
  | save data => exact absurd rfl htask
  | load code =>
      refine (readOnly_save? _ _).bind fun found => ?_
      split <;> exact readOnly_pure _

theorem Task.result_save [Json.Room] (data : OrderedMap String Json) (tenant : String)
    (store : Store) :
    result ((Task.save data).action tenant) store =
      ((result (createSave (.str tenant) (.obj data)) store).1.map
          fun code => Callable.reply "saveCode" (.str code),
        (result (createSave (.str tenant) (.obj data)) store).2) := by
  show result (createSave (.str tenant) (.obj data) >>= fun code => pure _) store = _
  rw [result_bind]
  rcases result (createSave (.str tenant) (.obj data)) store with ⟨_ | made, left⟩ <;> rfl

/-! ## A new save -/

/-- Is the one tree the other one with a new save, and perhaps the directories on the way to it? -/
structure AddsSave (place : Location) (tenant : String) (document : String × Json)
    (before after : FileTree) : Prop where
  /-- The save is in its file, where there was no directory. -/
  file : after.entry? (documentEntry (collectionPlace place tenant "saveData") document).1 =
    some (documentEntry (collectionPlace place tenant "saveData") document).2
  overwritten : before.entry? (documentEntry (collectionPlace place tenant "saveData") document).1 ≠
    some .directory
  /-- The directories on the way are there; they were there before, or nothing was. -/
  directories : ∀ location ∈ [place ++ [tenant], place ++ [tenant, "saveData"]],
    after.entry? location = some .directory ∧
      (before.entry? location = some .directory ∨ before.entry? location = none)
  /-- Everything else stays as it is. -/
  elsewhere : ∀ location, location ∉ [place ++ [tenant], place ++ [tenant, "saveData"],
    (documentEntry (collectionPlace place tenant "saveData") document).1] →
      after.entry? location = before.entry? location

theorem addsSave_placed {made : FileTree} {document : String × Json}
    (hstore : store.Initialised root place) (htenant : Key.isKey tenant = true)
    (hopens : FileTree.Opens (FileTree.OnTheWay place [tenant, "saveData"]) store.files made)
    (hdirectory : made.HasDirectory (tenantPath root tenant ["saveData"])
      (collectionPlace place tenant "saveData"))
    (hfree : Free made (collectionPlace place tenant "saveData") [document]) :
    AddsSave place tenant document store.files
      (placed (collectionPlace place tenant "saveData") [document] made) := by
  have htenants : made.HasDirectory (root.child "tenants") place :=
    (hopens.changedBelow fun _ hway => hway.below).hasDirectory hstore.directory
  constructor
  · rw [entry?_placed_singleton, if_pos rfl]
  · -- a directory would be there still, in the way of the file
    intro hbefore
    rcases hopens.entry?_cases
      (documentEntry (collectionPlace place tenant "saveData") document).1
      with hsame | ⟨-, hnone, -⟩
    · rw [hbefore] at hsame
      exact hfree _ (List.mem_singleton_self _) hsame
    · rw [hbefore] at hnone
      cases hnone
  · intro location hmem
    have hmade : made.entry? location = some .directory := by
      rcases List.mem_pair.mp hmem with rfl | rfl
      · refine FileTree.entry?_of_locate_down htenants.locate_eq ?_ hdirectory.locate_eq
        intro name hname
        rw [List.mem_singleton.mp hname]
        exact Key.isName_of_isKey htenant
      · rw [← collectionPlace_eq]
        exact hdirectory.entry?_eq
    rw [entry?_placed_singleton, if_neg (ne_documentEntry hmem)]
    refine ⟨hmade, ?_⟩
    rcases hopens.entry?_cases location with hsame | ⟨-, hnone, -⟩
    · exact Or.inl (hsame ▸ hmade)
    · exact Or.inr hnone
  · -- the two places that were opened on the way are among those left out
    intro location hnot
    simp only [List.mem_cons, List.not_mem_nil, or_false, not_or] at hnot
    rw [entry?_placed_singleton, if_neg hnot.2.2]
    rcases hopens.entry?_cases location with hsame | ⟨hway, -, -⟩
    · exact hsame
    · rcases FileTree.onTheWay_two.mp hway with hfirst | hsecond
      · exact absurd hfirst hnot.1
      · exact absurd hsecond hnot.2.1

/-! ## Requests -/

namespace Http

variable {server : Server} {request : Request} {callable : Callable}

section

variable [Json.Room]

theorem respond_saveCode (hcode : Key.isKey code = true) :
    respond (Callable.reply "saveCode" (.str code)) =
      .ofJson 200 (.obj [("saveCode", .str code)]) := by
  have hname : "saveCode".startsWith "_sa" = false := by decide +kernel
  have hpublished : published (.obj [("saveCode", .str code)]) =
      .obj [("saveCode", .str code)] := by
    simp [published, publishedFields, hname]
  have hsendable : (Json.obj [("saveCode", .str code)]).isSendable = true := by
    simp [Json.isSendable, Json.fieldsSendable, Key.isEncodable_of_isKey hcode]
    decide
  have hsends : Json.Room.sends (.obj [("saveCode", .str code)]) = true :=
    Json.Room.sends_of_nesting_le (show 1 ≤ 4 by decide)
  rw [← hpublished] at hsends hsendable ⊢
  exact respond_of_sends hsends hsendable

theorem Server.run_handle (htask : server.task? request = some (tenant, task)) (store : Store) :
    (server.handle request).run store =
      (respond (Outcome.ofAnswer (result (task.action tenant) store).1),
        (result (task.action tenant) store).2) := by
  rw [Server.handle_of_task? htask, Callable.run_perform]

/-- A save that is accepted is added under the code in the response. -/
theorem Server.addsSave_of_success {data : Fields}
    (htask : server.task? request = some (tenant, .save data))
    (hstore : store.Initialised root place)
    (hsuccess : ((server.handle request).run store).1.status = 200) :
    ((server.handle request).run store).1 = .ofJson 200 (.obj [("saveCode", .str store.nextCode)]) ∧
      AddsSave place tenant (store.newSave data) store.files
        ((server.handle request).run store).2.files := by
  have hkey := (Server.tenant?_of_task? htask).2.1
  rw [Server.run_handle htask, Task.result_save] at hsuccess ⊢
  obtain ⟨made, hopens, ⟨-, hdirectory, hfree, hresult⟩ | ⟨fault, hresult⟩⟩ :=
    result_createSave_cases hstore tenant data
  · rw [hresult]
    exact ⟨respond_saveCode (isKey_nextCode store),
      addsSave_placed hstore hkey hopens hdirectory hfree⟩
  · rw [hresult] at hsuccess
    cases hsuccess

/-- A request to a callable that names no tenant that is a key is answered without the store.  If
it names one, then it is answered alike in stores that are alike for the tenant, leaves them alike,
and changes nothing that is not below the directory of the tenant.  Requests other than those to
save change nothing, and a save that is accepted is one new file. -/
theorem Server.handle_isolated
    (hroute : server.route? request.url.served = some (.callable callable)) :
    ((¬ ∃ tenant, request.tenant? = some (.str tenant) ∧ Key.isKey tenant = true) →
        ∃ response, ∀ store, (server.handle request).run store = (response, store)) ∧
      (∀ tenant, request.tenant? = some (.str tenant) → Key.isKey tenant = true →
        ∀ root place first second, Alike root place tenant first second →
          ((server.handle request).run first).1 = ((server.handle request).run second).1 ∧
            Alike root place tenant ((server.handle request).run first).2
              ((server.handle request).run second).2 ∧
            ∀ location, ¬ place ++ [tenant] <+: location →
              ((server.handle request).run first).2.files.entry? location =
                first.files.entry? location) ∧
      (callable ≠ .saveGame → ∀ store, ((server.handle request).run store).2 = store) ∧
      (callable = .saveGame → ∀ root place store, store.Initialised root place →
        ((server.handle request).run store).1.status = 200 →
          ∃ tenant data, request.tenant? = some (.str tenant) ∧
            server.task? request = some (tenant, .save data) ∧
            ((server.handle request).run store).1 =
              .ofJson 200 (.obj [("saveCode", .str store.nextCode)]) ∧
            AddsSave place tenant (store.newSave data) store.files
              ((server.handle request).run store).2.files) := by
  cases htask : server.task? request with
  | none =>
      -- the call is turned away, with the same response in every store
      obtain ⟨response, hstatus, hresponse⟩ := Server.handle_of_no_task hroute htask
      refine ⟨fun _ => ⟨response, hresponse⟩, ?_, ?_, ?_⟩
      · intro tenant _ _ root place first second halike
        rw [hresponse, hresponse]
        exact ⟨rfl, halike, fun _ _ => rfl⟩
      · intro _ store
        rw [hresponse]
      · intro _ root place store _ hsuccess
        rw [hresponse] at hsuccess
        exact absurd hsuccess hstatus
  | some made =>
      obtain ⟨owner, task⟩ := made
      obtain ⟨howner, hkey, hroute'⟩ := Server.tenant?_of_task? htask
      rw [hroute] at hroute'
      obtain rfl : callable = task.callable := Route.callable.inj (Option.some.inj hroute')
      -- the owner of the task is the tenant that the request names
      refine ⟨fun hnot => absurd ⟨owner, howner, hkey⟩ hnot, ?_, ?_, ?_⟩
      · intro tenant htenant _ root place first second halike
        obtain rfl : owner = tenant := Json.str.inj (Option.some.inj (howner.symm.trans htenant))
        have hconfined : Confined root place owner (task.action owner) := Task.confined hkey task
        rw [Server.run_handle htask, Server.run_handle htask]
        exact ⟨congrArg (fun answer => respond (Outcome.ofAnswer answer))
            (hconfined.answer_eq halike), hconfined.alike halike,
          (hconfined.changed halike.initialised).outside⟩
      · intro hother store
        rw [Server.run_handle htask]
        exact Task.readOnly hother owner store
      · intro hsave root place store hstore hsuccess
        cases task with
        | save data =>
            exact ⟨owner, data, howner, rfl, Server.addsSave_of_success htask hstore hsuccess⟩
        | _ => cases hsave

/-- A request to save something for a shop. -/
def Request.savesForShop : Request :=
  .post { scheme := "http", host := "testserver", path := "/api/saveGame" }
    (.obj [("tenantId", .str "shop"), ("saveData", .obj [("line", .int 1)])])

omit [Json.Room] in
theorem route?_savesForShop :
    (Server.mk none).route? Request.savesForShop.url.served = some (.callable .saveGame) := by
  rw [← route?_name]
  exact congrArg _ (by decide +kernel)

theorem payload?_savesForShop : Request.savesForShop.payload? =
    some (.obj [("tenantId", .str "shop"), ("saveData", .obj [("line", .int 1)])]) :=
  Request.payload?_post _ (by decide +kernel)
    ((by decide : _ ≤ 4).trans (Json.Room.four_le_depth .body))

theorem task?_savesForShop :
    (Server.mk none).task? .savesForShop = some ("shop", .save [("line", .int 1)]) := by
  rw [Server.task?_of_route route?_savesForShop, payload?_savesForShop]
  rfl

/-- In a new store the request is accepted. -/
theorem status_savesForShop :
    (((Server.mk none).handle .savesForShop).run (newWith [])).1.status = 200 := by
  have hkey : Key.isKey (newWith []).nextCode = true := isKey_nextCode _
  have hstores : Json.Room.stores ((newWith []).newSave [("line", .int 1)]).2 = true :=
    Json.Room.stores_of_nesting_le (by decide +kernel)
  obtain ⟨added, files, hwrite, -⟩ := @Store.gives_write (newWith []).drawn _ _ "shop" "saveData"
    [(newWith []).newSave [("line", .int 1)]] _ (ready_newWith []) (by decide) (by decide)
    isFileName_saveData (vacant_newWith _ _)
    ⟨List.forall_mem_singleton.mpr hkey,
      List.forall_mem_singleton.mpr (by rw [newSave, length_nextCode]; decide),
      List.nodup_singleton _⟩ (List.forall_mem_singleton.mpr hstores)
  have hcreate := (result_createSave (.str "shop") [("line", .int 1)] (newWith [])).trans
    (hwrite.result_bind fun _ => pure (newWith []).nextCode)
  rw [Server.run_handle task?_savesForShop, Task.result_save, hcreate]
  exact congrArg Response.status (respond_saveCode hkey)

end

/-- A save of another tenant, under the code that the first save without draws gets. -/
def saveOfAnother : OrderedMap Location Entry :=
  [(["data", "tenants", "other"], .directory),
   (["data", "tenants", "other", "saveData"], .directory),
   (["data", "tenants", "other", "saveData", "AAAAAAAA.json"], .file "{}".toUTF8)]

theorem isName_of_mem_saveOfAnother :
    ∀ location ∈ OrderedMap.keys saveOfAnother, ∀ name ∈ location, IsName name := by
  have hkeys : ∀ key ∈ ["data", "tenants", "other", "saveData"], Key.isKey key = true := by
    decide
  have hall : ∀ location ∈ OrderedMap.keys saveOfAnother, ∀ name ∈ location,
      name ∈ ["data", "tenants", "other", "saveData"] ∨ name = documentName "AAAAAAAA" := by
    decide +kernel
  intro location hmem name hname
  rcases hall location hmem name hname with hkey | rfl
  · exact Key.isName_of_isKey (hkeys name hkey)
  · exact isName_documentName (by decide)

theorem Server.handle_isolated_from_another :
    (((Server.mk none).handle .savesForShop).run (newWith [])).1 =
        (((Server.mk none).handle .savesForShop).run (newWith saveOfAnother)).1 ∧
      (((Server.mk none).handle .savesForShop).run (newWith saveOfAnother)).2.files.entry?
          ["data", "tenants", "other", "saveData", "AAAAAAAA.json"] =
        some (.file "{}".toUTF8) ∧
      AddsSave ["data", "tenants"] "shop" ((newWith []).newSave [("line", .int 1)])
        (newWith []).files (((Server.mk none).handle .savesForShop).run (newWith [])).2.files := by
  have htenant : Request.savesForShop.tenant? = some (.str "shop") := by
    rw [Request.tenant?, payload?_savesForShop]
    rfl
  have hothers : Alike (Path.ofText "data") ["data", "tenants"] "shop" (newWith [])
      (newWith saveOfAnother) :=
    alike_newWith (by decide) isName_of_mem_saveOfAnother (by decide)
  obtain ⟨-, halike, -, hsave⟩ := Server.handle_isolated route?_savesForShop
  obtain ⟨tenant, data, -, hsaved, -, hadds⟩ :=
    hsave rfl _ _ _ hothers.initialised status_savesForShop
  cases task?_savesForShop.symm.trans hsaved
  exact ⟨(halike "shop" htenant (by decide) _ _ _ _ hothers).1,
    (halike "shop" htenant (by decide) _ _ _ _
      (hothers.initialised'.alike_self "shop")).2.2 _ (by decide), hadds⟩

end Http

end VisualNovel
