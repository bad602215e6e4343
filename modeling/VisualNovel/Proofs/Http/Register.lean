import VisualNovel.Proofs.Http.Isolation
import VisualNovel.Proofs.Store.Notes

/-!
# Saves are a register

Whatever requests a server gets, in whatever order and at whatever times, the saves that it has
accepted are a register for every tenant and code: what is loaded is what has been saved last under
the code (`Server.handle_load`).

A save counts from the view of who made it: it has been accepted under the code that is in the
response (`Server.saved?`).  Codes may be drawn twice; then the later save replaces the earlier one.

All other requests leave the store as it is, also those that are no calls at all, and so do calls to
save that are not accepted, except for directories (`Server.records_visit`).
-/

namespace VisualNovel

open Store Json

namespace Http

variable [Room]

variable {server : Server} {request : Request} {tenant code : String} {store : Store}
  {root : Path} {place : Location} {covered : String → Prop} {log : List Note}

/-! ## Requests without a task -/

theorem Server.store_of_no_task (htask : server.task? request = none) :
    ((server.handle request).run store).2 = store := by
  cases hroute : server.route? request.url.served with
  | none =>
      rw [Server.handle_eq, Server.answer, hroute]
      simp only
      split_ifs <;> rfl
  | some route =>
      cases route with
      | callable callable =>
          obtain ⟨response, -, hresponse⟩ := Server.handle_of_no_task hroute htask
          rw [hresponse]
      | _ =>
          rw [Server.handle_eq, Server.answer, hroute]
          simp only
          split_ifs <;> rfl

/-! ## Visits -/

/-- A request at some time. -/
structure Visit where
  moment : Moment
  request : Request

/-- A store and the saves that have been accepted, the latest first. -/
structure Register where
  store : Store
  saves : List Note := []

/-- The save that was last accepted for a tenant under a code. -/
def Register.latest? (register : Register) (tenant code : String) : Option Json :=
  OrderedMap.at? (tenant, "saveData", code) register.saves

/-- The code in a response to a save. -/
def Response.saveCode? (response : Response) : Option String :=
  match (response.reply "saveGame").toOption.bind fun reply => reply.field? "saveCode" with
  | some (.str code) => some code
  | _ => none

/-- The save that has been accepted, if the visit was to make one: the data, with the time at which
it was made, under the code in the response. -/
def Server.saved? (server : Server) (visit : Visit) (response : Response) : Option Note :=
  match server.task? visit.request, response.saveCode? with
  | some (tenant, .save data), some code =>
    some ((tenant, "saveData", code),
      .obj (OrderedMap.put "createdAt" (.str visit.moment.text) data))
  | _, _ => none

/-- What becomes of the register when a request is answered. -/
def Server.visit (server : Server) (register : Register) (visit : Visit) : Register :=
  let (response, left) :=
    (server.handle visit.request).run { register.store with clock := visit.moment }
  { store := left, saves := (server.saved? visit response).toList ++ register.saves }

theorem Server.visit_eq (server : Server) (register : Register) (visit : Visit) :
    server.visit register visit =
      { store := ((server.handle visit.request).run
          { register.store with clock := visit.moment }).2
        saves := (server.saved? visit ((server.handle visit.request).run
          { register.store with clock := visit.moment }).1).toList ++ register.saves } := rfl

/-- What becomes of the register when requests are answered one after the other. -/
def Server.visitAll (server : Server) (register : Register) (visits : List Visit) : Register :=
  visits.foldl server.visit register

@[simp] theorem Server.visitAll_nil (server : Server) (register : Register) :
    server.visitAll register [] = register := rfl

@[simp] theorem Server.visitAll_cons (server : Server) (register : Register) (visit : Visit)
    (visits : List Visit) : server.visitAll register (visit :: visits) =
      server.visitAll (server.visit register visit) visits := rfl

variable {register : Register} {visit : Visit}

/-! ## Responses to a save -/

theorem Response.saveCode?_of_not_success {response : Response}
    (hnot : response.isSuccess = false) : response.saveCode? = none := by
  have hreply : (response.reply "saveGame").toOption = none := by
    rw [Response.reply]
    split
    · rfl
    · rw [hnot]
      rfl
    · rw [hnot]
      rfl
  rw [Response.saveCode?, hreply]
  rfl

theorem saveCode?_respond (hcode : Key.isKey code = true) :
    (respond (Callable.reply "saveCode" (.str code))).saveCode? = some code := by
  have hportable : Portable (.obj [("saveCode", .str code)]) 4 :=
    portable_singleton (by decide) (portable_text (Key.isEncodable_of_isKey hcode))
  rw [respond_saveCode hcode, Response.saveCode?, Response.reply_ofJson "saveGame"
    hportable.isExact (hportable.shallow.trans (Room.four_le_depth .response))]
  rfl

/-! ## What every visit keeps -/

/-- Does a save that a visit is to make have plain data, if it is to make one? -/
def Server.SavesPlain (server : Server) (visit : Visit) : Prop :=
  ∀ tenant data, server.task? visit.request = some (tenant, .save data) →
    (Json.obj data).isPlain = true

/-- A visit to make a save notes it if it is accepted. -/
theorem Server.records_save {data : Fields} (hrecords : Records store root place covered log)
    (htask : server.task? visit.request = some (tenant, .save data))
    (hplain : (Json.obj data).isPlain = true) (hclock : store.clock = visit.moment) :
    Records ((server.handle visit.request).run store).2 root place covered
      ((server.saved? visit ((server.handle visit.request).run store).1).toList ++ log) := by
  rw [Server.run_handle htask, Task.result_save]
  rcases hcreate : result (createSave (.str tenant) (.obj data)) store with ⟨fault | code, left⟩
  · have hnone : serverError.saveCode? = none := Response.saveCode?_of_not_success rfl
    show Records left root place covered ((server.saved? visit serverError).toList ++ log)
    rw [Server.saved?, htask, hnone]
    exact (hrecords.createSave hplain hcreate).2 fault rfl
  · obtain ⟨_, ⟨⟩, rfl, hleft⟩ := (hrecords.createSave hplain hcreate).1 code rfl
    show Records left root place covered
      ((server.saved? visit (respond (Callable.reply "saveCode"
        (.str store.nextCode)))).toList ++ log)
    rw [Server.saved?, htask, saveCode?_respond (isKey_nextCode store), ← hclock]
    exact hleft

/-- The register stays right with every visit. -/
theorem Server.records_visit
    (hrecords : Records register.store root place covered register.saves)
    (hplain : server.SavesPlain visit) :
    Records (server.visit register visit).store root place covered
      (server.visit register visit).saves := by
  have hclock := hrecords.atMoment visit.moment
  -- a visit that is not to make a save changes nothing and notes nothing
  have helse : ((server.handle visit.request).run
        { register.store with clock := visit.moment }).2 =
          { register.store with clock := visit.moment } →
      (∀ response, server.saved? visit response = none) →
        Records (server.visit register visit).store root place covered
          (server.visit register visit).saves := by
    intro hstore hnone
    rw [Server.visit_eq, hnone, hstore]
    exact hclock
  cases htask : server.task? visit.request with
  | none =>
      refine helse (Server.store_of_no_task htask) fun response => ?_
      rw [Server.saved?, htask]
  | some made =>
      obtain ⟨tenant, task⟩ := made
      cases task with
      | save data => exact Server.records_save hclock htask (hplain tenant data htask) rfl
      | _ =>
          refine helse ?_ fun response => ?_
          · rw [Server.run_handle htask]
            exact Task.readOnly (by rintro ⟨⟩) tenant _
          · rw [Server.saved?, htask]

/-- A whole series of visits keeps the register right. -/
theorem Server.records_visitAll {visits : List Visit}
    (hrecords : Records register.store root place covered register.saves)
    (hplain : ∀ visit ∈ visits, server.SavesPlain visit) :
    Records (server.visitAll register visits).store root place covered
      (server.visitAll register visits).saves := by
  induction visits generalizing register with
  | nil => exact hrecords
  | cons visit rest ih =>
      rw [Server.visitAll_cons]
      exact ih (Server.records_visit hrecords (hplain visit (List.mem_cons_self ..)))
        fun other hmem => hplain other (List.mem_cons_of_mem _ hmem)

/-- A save for a tenant with a short name is accepted under the next code, if there is room to
write it. -/
theorem Server.saves_visit {data : Fields}
    (hrecords : Records register.store root place covered register.saves)
    (htask : server.task? visit.request = some (tenant, .save data))
    (hshort : tenant.length ≤ FileTree.nameLimit) (hcovered : covered "saveData")
    (hplain : (Json.obj data).isPlain = true)
    (hstores : Room.stores
      (.obj (OrderedMap.put "createdAt" (.str visit.moment.text) data)) = true) :
    (server.visit register visit).saves =
      ((tenant, "saveData", register.store.nextCode),
        .obj (OrderedMap.put "createdAt" (.str visit.moment.text) data)) :: register.saves := by
  obtain ⟨left, hcreate, -⟩ := (hrecords.atMoment visit.moment).gives_createSave
    (Server.tenant?_of_task? htask).2.1 hshort hcovered hplain hstores
  have hcode : ({ register.store with clock := visit.moment } : Store).nextCode =
      register.store.nextCode := rfl
  have hresponse : ((server.handle visit.request).run
        { register.store with clock := visit.moment }).1 =
      respond (Callable.reply "saveCode" (.str register.store.nextCode)) := by
    rw [Server.run_handle htask, Task.result_save, hcreate.result_eq, hcode]
    rfl
  rw [Server.visit_eq, hresponse, Server.saved?, htask, saveCode?_respond (isKey_nextCode _)]
  rfl

theorem Server.isObject_of_mem_saves {visits : List Visit} {note : Note}
    (hbefore : ∀ note ∈ register.saves, ∃ fields, note.2 = .obj fields)
    (hmem : note ∈ (server.visitAll register visits).saves) : ∃ fields, note.2 = .obj fields := by
  induction visits generalizing register with
  | nil => exact hbefore note hmem
  | cons visit rest ih =>
      rw [Server.visitAll_cons] at hmem
      refine ih ?_ hmem
      intro found hfound
      rcases List.mem_append.mp hfound with hnew | hold
      · rw [Option.mem_toList, Server.saved?] at hnew
        split at hnew <;> cases hnew
        exact ⟨_, rfl⟩
      · exact hbefore found hold

/-! ## Loading -/

/-- What becomes of a call for a save: its data, if there is room to read them, or that there is
none. -/
def found : Option Json → Except StoreFault Outcome
  | some data => (reread .document data).map (Callable.reply "saveData")
  | none => .ok (.rejected .noSave)

/-- A look at the saves of a tenant finds the last note under the code, whether it is a key or
not. -/
theorem result_load (hrecords : Records store root place covered log)
    (htenant : Key.isKey tenant = true) (hshort : tenant.length ≤ FileTree.nameLimit)
    (hfits : code.length + 5 ≤ FileTree.nameLimit) (hcovered : covered "saveData")
    (hobject : ∀ data, OrderedMap.at? (tenant, "saveData", code) log = some data → data ≠ .null) :
    result ((Task.load code).action tenant) store =
      (found (OrderedMap.at? (tenant, "saveData", code) log), store) := by
  have hsave : result (save? (.str tenant) (.str code)) store =
      ((OrderedMap.at? (tenant, "saveData", code) log).mapM (reread .document), store) := by
    rw [save?, Key.isKeyValue]
    cases hcode : Key.isKey code with
    | true =>
        exact hrecords.result_document? htenant hshort isFileName_saveData hcovered hcode hfits
    | false =>
        rw [hrecords.at?_of_not_key htenant hcovered hcode]
        rfl
  rw [Task.action, result_bind, hsave]
  cases hlatest : OrderedMap.at? (tenant, "saveData", code) log with
  | none => rfl
  | some data =>
      have hsome := hobject data hlatest
      rw [found, Option.mapM_some, reread]
      cases excess? (Room.depth .document) data with
      | some container => rfl
      | none =>
          cases data with
          | null => exact absurd rfl hsome
          | _ => rfl

/-- The response to a request for a save: the data as they are sent, if they can be read and sent,
or that there is none. -/
def loaded : Option Json → Response
  | some data =>
    if nesting data ≤ Room.depth .document ∧
        Room.sends (.obj [("saveData", published data)]) = true ∧ (published data).isSendable = true
    then .ofJson 200 (.obj [("saveData", published data)])
    else serverError
  | none => rejection .noSave

theorem loaded_of_published {fields sent : Fields} (hsent : publishedFields fields = sent)
    (hshallow : (Json.obj fields).nesting ≤ Room.depth .document)
    (hsends : Room.sends (.obj [("saveData", .obj sent)]) = true)
    (hsendable : (Json.obj sent).isSendable = true) :
    loaded (some (.obj fields)) = .ofJson 200 (.obj [("saveData", .obj sent)]) := by
  subst hsent
  exact if_pos ⟨hshallow, hsends, hsendable⟩

theorem respond_found (latest : Option Json) :
    respond (Outcome.ofAnswer (found latest)) = loaded latest := by
  cases latest with
  | none => rfl
  | some data =>
      have hname : "saveData".startsWith "_sa" = false := by decide +kernel
      have hencodable : Text.isEncodable "saveData" = true := by decide
      have hpublished : published (.obj [("saveData", data)]) =
          .obj [("saveData", published data)] := by
        simp [published, publishedFields, hname]
      have hsendable : (Json.obj [("saveData", published data)]).isSendable =
          (published data).isSendable := by
        simp [Json.isSendable, Json.fieldsSendable, hencodable]
      rw [found, loaded]
      by_cases hshallow : nesting data ≤ Room.depth .document
      · rw [reread_of_nesting_le hshallow, ← hsendable, ← hpublished]
        by_cases hsent : Room.sends (published (.obj [("saveData", data)])) = true ∧
            (published (.obj [("saveData", data)])).isSendable = true
        · rw [if_pos ⟨hshallow, hsent⟩]
          exact respond_of_sends hsent.1 hsent.2
        · rw [if_neg fun hall => hsent hall.2]
          exact respond_of_not_sent hsent
      · obtain ⟨container, hexcess⟩ := exists_excess (Nat.lt_of_not_le hshallow)
        rw [reread, hexcess, if_neg fun hall => hshallow hall.1]
        rfl

/-- A request for a save is answered by the last note under its address. -/
theorem Server.handle_load (hrecords : Records store root place covered log)
    (htask : server.task? request = some (tenant, .load code))
    (hshort : tenant.length ≤ FileTree.nameLimit) (hfits : code.length + 5 ≤ FileTree.nameLimit)
    (hcovered : covered "saveData")
    (hobject : ∀ data, OrderedMap.at? (tenant, "saveData", code) log = some data → data ≠ .null) :
    (server.handle request).run store =
      (loaded (OrderedMap.at? (tenant, "saveData", code) log), store) := by
  have hkey := (Server.tenant?_of_task? htask).2.1
  rw [Server.run_handle htask, result_load hrecords hkey hshort hfits hcovered hobject,
    ← respond_found]

end Http

end VisualNovel
