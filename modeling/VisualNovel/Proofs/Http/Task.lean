import VisualNovel.Http.Server
import VisualNovel.Proofs.Http.Exchange
import VisualNovel.Proofs.Store.Actions

/-!
# What a request comes down to

A request to a callable is either turned away without a look at the store, or it comes down to one
task for one tenant: reading the script or the cast, making a save or looking one up.  Which of them
it is, and for which tenant, can be told from the request alone (`Server.task?`), and the tenant is
the one that the payload names.
-/

namespace VisualNovel

/-- What is done for a tenant. -/
inductive Task where
  | scenario
  | characters
  | save (data : Fields)
  | load (code : String)

namespace Task

/-- The task as an action of the store. -/
def action [Json.Room] (tenant : String) : Task → Store.Action Outcome
  | scenario => return Callable.reply "scenario" (.arr (← Store.scenario (.str tenant)))
  | characters => return Callable.reply "characters" (.arr (← Store.characters (.str tenant)))
  | save data =>
    return Callable.reply "saveCode" (.str (← Store.createSave (.str tenant) (.obj data)))
  | load code => do
    match ← Store.save? (.str tenant) (.str code) with
    | some .null => return .rejected .noSave
    | some data => return Callable.reply "saveData" data
    | none => return .rejected .noSave

/-- The callable that does it. -/
def callable : Task → Callable
  | scenario => .getScenario
  | characters => .getCharacters
  | save _ => .saveGame
  | load _ => .loadGame

/-- The task for a tenant, if it is a key. -/
def forTenant (tenant : String) (task : Task) : Option (String × Task) :=
  if Key.isKey tenant then some (tenant, task) else none

end Task

namespace Callable

/-- The task that `getScenario` makes of its arguments, and the tenant for whom it is done. -/
def scenarioTask? (request : ScenarioRequest) : Option (String × Task) :=
  match argument? request.tenant, argument? request.scenario with
  | some tenant, some _ => Task.forTenant tenant .scenario
  | _, _ => none

/-- The task that `getCharacters` makes of its arguments. -/
def charactersTask? (request : CharactersRequest) : Option (String × Task) :=
  match argument? request.tenant with
  | some tenant => Task.forTenant tenant .characters
  | none => none

/-- The task that `saveGame` makes of its arguments. -/
def saveTask? (request : SaveRequest) : Option (String × Task) :=
  match argument? request.tenant, request.data with
  | some tenant, some data => Task.forTenant tenant (.save data)
  | _, _ => none

/-- The task that `loadGame` makes of its arguments. -/
def loadTask? (request : LoadRequest) : Option (String × Task) :=
  match argument? request.tenant, argument? request.code with
  | some tenant, some code => Task.forTenant tenant (.load code)
  | _, _ => none

/-- The task that a callable makes of a payload. -/
def task? (payload : Json) : Callable → Option (String × Task)
  | getScenario => (ScenarioRequest.read payload).accepted?.bind scenarioTask?
  | getCharacters => (CharactersRequest.read payload).accepted?.bind charactersTask?
  | saveGame => (SaveRequest.read payload).accepted?.bind saveTask?
  | loadGame => (LoadRequest.read payload).accepted?.bind loadTask?

section

variable [Json.Room]

/-- Is it the task that is performed, or is the call turned away for its arguments if there is
none? -/
def ServedAs (serve : StateM Store Outcome) : Option (String × Task) → Prop
  | some (tenant, task) => serve = perform (task.action tenant)
  | none => ∃ reason, reason.kind = .invalidArgument ∧ serve = pure (.rejected reason)

theorem servedAs_performFor (tenant : String) (task : Task) :
    ServedAs (performFor tenant (task.action tenant)) (Task.forTenant tenant task) := by
  unfold performFor Task.forTenant
  split
  · rfl
  · exact ⟨_, rfl, rfl⟩

theorem servedAs_received {α : Type} {read : Reader α} {serve : α → StateM Store Outcome}
    {task? : α → Option (String × Task)}
    (hserve : ∀ request, ServedAs (serve request) (task? request)) (payload : Json) :
    ServedAs (received read serve payload) ((read payload).accepted?.bind task?) := by
  unfold received
  cases read payload with
  | accepted request => exact hserve request
  | refused faults => exact ⟨_, rfl, rfl⟩

theorem servedAs_task? (callable : Callable) (payload : Json) :
    ServedAs (callable.serve payload) (callable.task? payload) := by
  -- each callable asks for its arguments in turn, and the first one missing is told of
  cases callable with
  | getScenario =>
      refine servedAs_received (fun request => ?_) payload
      unfold scenario scenarioTask?
      rcases argument? request.tenant with _ | tenant
      · exact ⟨_, rfl, rfl⟩
      · rcases argument? request.scenario with _ | name
        · exact ⟨_, rfl, rfl⟩
        · exact servedAs_performFor tenant .scenario
  | getCharacters =>
      refine servedAs_received (fun request => ?_) payload
      unfold characters charactersTask?
      rcases argument? request.tenant with _ | tenant
      · exact ⟨_, rfl, rfl⟩
      · exact servedAs_performFor tenant .characters
  | saveGame =>
      refine servedAs_received (fun request => ?_) payload
      unfold save saveTask?
      rcases argument? request.tenant with _ | tenant
      · exact ⟨_, rfl, rfl⟩
      · rcases request.data with _ | data
        · exact ⟨_, rfl, rfl⟩
        · exact servedAs_performFor tenant (.save data)
  | loadGame =>
      refine servedAs_received (fun request => ?_) payload
      unfold load loadTask?
      rcases argument? request.tenant with _ | tenant
      · exact ⟨_, rfl, rfl⟩
      · rcases argument? request.code with _ | code
        · exact ⟨_, rfl, rfl⟩
        · exact servedAs_performFor tenant (.load code)

end

/-! ## The tenant that a payload names -/

end Callable

/-- The tenant that a payload names, taken out of its envelope; it need not be a text. -/
def Payload.tenant? (payload : Json) : Option Json :=
  match unwrapped payload with
  | .obj fields => (Payload.Part.tenant.find? fields).map Prod.snd
  | _ => none

namespace Callable

theorem find?_of_text {field : Field} {fields : Fields} {text : String}
    (hread : Payload.text field fields = .accepted (some text)) :
    (field.find? fields).map Prod.snd = some (.str text) := by
  unfold Payload.text Field.optional at hread
  rcases hfind : field.find? fields with _ | ⟨name, value⟩ <;> rw [hfind] at hread
  · cases hread
  · cases value with
    | str found =>
        cases hread
        rfl
    | _ => cases hread

theorem of_argument? {argument : Option String} {text : String}
    (htext : argument? argument = some text) : argument = some text := by
  unfold argument? at htext
  split at htext
  · cases htext
  · exact htext

theorem of_accepted? {α : Type} {checked : Checked α} {value : α}
    (haccepted : checked.accepted? = some value) : checked = .accepted value := by
  cases checked with
  | accepted found =>
      cases haccepted
      rfl
  | refused faults => cases haccepted

theorem of_accepted_seq {α β γ : Type} {make : α → β → γ} {first : Checked α} {second : Checked β}
    {value : γ} (haccepted : make <$> first <*> second = .accepted value) :
    ∃ found other, first = .accepted found ∧ second = .accepted other ∧
      make found other = value := by
  obtain ⟨_, other, hmade, hother, rfl⟩ := Checked.seq_eq_accepted_iff.mp haccepted
  obtain ⟨found, hfound, rfl⟩ := Checked.map_eq_accepted_iff.mp hmade
  exact ⟨found, other, hfound, hother, rfl⟩

variable {callable : Callable} {payload : Json} {tenant name : String} {task made : Task}

theorem of_forTenant (htask : Task.forTenant name made = some (tenant, task)) :
    tenant = name ∧ Key.isKey tenant = true ∧ task = made := by
  unfold Task.forTenant at htask
  split at htask
  · cases htask
    exact ⟨rfl, ‹_›, rfl⟩
  · cases htask

/-- If the arguments of a callable have the tenant of the payload, and the task is made of them
for that tenant, then it is the tenant that the payload names. -/
theorem tenant?_of_made {α : Type} {read : Fields → Checked α} {argument : α → Option String}
    {make : α → Option (String × Task)}
    (hread : ∀ {fields request}, read fields = .accepted request →
      Payload.text Payload.Part.tenant fields = .accepted (argument request))
    (hmake : ∀ {request}, make request = some (tenant, task) →
      argument? (argument request) = some tenant)
    (htask : (Reader.payload read payload).accepted?.bind make = some (tenant, task)) :
    Payload.tenant? payload = some (.str tenant) := by
  obtain ⟨request, haccepted, hmade⟩ := Option.bind_eq_some_iff.mp htask
  have hpayload := of_accepted? haccepted
  have hargument := of_argument? (hmake hmade)
  unfold Reader.payload Reader.record at hpayload
  unfold Payload.tenant?
  revert hpayload
  cases unwrapped payload with
  | obj fields =>
      intro hpayload
      refine find?_of_text ?_
      rw [← hargument]
      exact hread hpayload
  | _ =>
      intro hpayload
      cases hpayload

theorem of_scenarioTask? {request : ScenarioRequest}
    (hmade : scenarioTask? request = some (tenant, task)) :
    argument? request.tenant = some tenant ∧ Key.isKey tenant = true ∧ task = .scenario := by
  unfold scenarioTask? at hmade
  rcases htenant : argument? request.tenant with _ | name <;> rw [htenant] at hmade
  · cases hmade
  · rcases hscenario : argument? request.scenario with _ | scenario <;> rw [hscenario] at hmade
    · cases hmade
    · obtain ⟨rfl, hkey, rfl⟩ := of_forTenant hmade
      exact ⟨rfl, hkey, rfl⟩

theorem of_charactersTask? {request : CharactersRequest}
    (hmade : charactersTask? request = some (tenant, task)) :
    argument? request.tenant = some tenant ∧ Key.isKey tenant = true ∧ task = .characters := by
  unfold charactersTask? at hmade
  rcases htenant : argument? request.tenant with _ | name <;> rw [htenant] at hmade
  · cases hmade
  · obtain ⟨rfl, hkey, rfl⟩ := of_forTenant hmade
    exact ⟨rfl, hkey, rfl⟩

theorem of_saveTask? {request : SaveRequest} (hmade : saveTask? request = some (tenant, task)) :
    argument? request.tenant = some tenant ∧ Key.isKey tenant = true ∧
      ∃ data, request.data = some data ∧ task = .save data := by
  unfold saveTask? at hmade
  rcases htenant : argument? request.tenant with _ | name <;> rw [htenant] at hmade
  · cases hmade
  · rcases hdata : request.data with _ | data <;> rw [hdata] at hmade
    · cases hmade
    · obtain ⟨rfl, hkey, rfl⟩ := of_forTenant hmade
      exact ⟨rfl, hkey, data, rfl, rfl⟩

theorem of_loadTask? {request : LoadRequest} (hmade : loadTask? request = some (tenant, task)) :
    argument? request.tenant = some tenant ∧ Key.isKey tenant = true ∧
      ∃ code, argument? request.code = some code ∧ task = .load code := by
  unfold loadTask? at hmade
  rcases htenant : argument? request.tenant with _ | name <;> rw [htenant] at hmade
  · cases hmade
  · rcases hcode : argument? request.code with _ | code <;> rw [hcode] at hmade
    · cases hmade
    · obtain ⟨rfl, hkey, rfl⟩ := of_forTenant hmade
      exact ⟨rfl, hkey, code, rfl, rfl⟩

theorem tenant?_of_task? (htask : callable.task? payload = some (tenant, task)) :
    Payload.tenant? payload = some (.str tenant) := by
  cases callable with
  | getScenario =>
      refine tenant?_of_made ?_ (fun hmade => (of_scenarioTask? hmade).1) htask
      intro fields request haccepted
      obtain ⟨tenant, _, htenant, -, rfl⟩ := of_accepted_seq haccepted
      exact htenant
  | getCharacters =>
      refine tenant?_of_made ?_ (fun hmade => (of_charactersTask? hmade).1) htask
      intro fields request haccepted
      obtain ⟨tenant, htenant, rfl⟩ := Checked.map_eq_accepted_iff.mp haccepted
      exact htenant
  | saveGame =>
      refine tenant?_of_made ?_ (fun hmade => (of_saveTask? hmade).1) htask
      intro fields request haccepted
      obtain ⟨tenant, _, htenant, -, rfl⟩ := of_accepted_seq haccepted
      exact htenant
  | loadGame =>
      refine tenant?_of_made ?_ (fun hmade => (of_loadTask? hmade).1) htask
      intro fields request haccepted
      obtain ⟨tenant, _, htenant, -, rfl⟩ := of_accepted_seq haccepted
      exact htenant

/-- The tenant is a key, and the task is one of the callable. -/
theorem isKey_of_task? (htask : callable.task? payload = some (tenant, task)) :
    Key.isKey tenant = true ∧ task.callable = callable := by
  cases callable with
  | getScenario =>
      obtain ⟨request, -, hmade⟩ := Option.bind_eq_some_iff.mp htask
      obtain ⟨-, hkey, rfl⟩ := of_scenarioTask? hmade
      exact ⟨hkey, rfl⟩
  | getCharacters =>
      obtain ⟨request, -, hmade⟩ := Option.bind_eq_some_iff.mp htask
      obtain ⟨-, hkey, rfl⟩ := of_charactersTask? hmade
      exact ⟨hkey, rfl⟩
  | saveGame =>
      obtain ⟨request, -, hmade⟩ := Option.bind_eq_some_iff.mp htask
      obtain ⟨-, hkey, data, -, rfl⟩ := of_saveTask? hmade
      exact ⟨hkey, rfl⟩
  | loadGame =>
      obtain ⟨request, -, hmade⟩ := Option.bind_eq_some_iff.mp htask
      obtain ⟨-, hkey, code, -, rfl⟩ := of_loadTask? hmade
      exact ⟨hkey, rfl⟩

/-! ## The payloads of clients -/

section

variable {tenant scenario code : String}

/-- The payload of a client that asks for a script comes down to reading it. -/
theorem task?_getScenario (htenant : Key.isKey tenant = true) (hscenario : scenario ≠ "") :
    getScenario.task? (.obj [("data",
        .obj [("tenantId", .str tenant), ("scenarioName", .str scenario)])]) =
      some (tenant, .scenario) := by
  have hread : ScenarioRequest.read (.obj [("data",
      .obj [("tenantId", .str tenant), ("scenarioName", .str scenario)])]) =
      .accepted ⟨some tenant, some scenario⟩ := by
    show (ScenarioRequest.mk <$> Payload.text Payload.Part.tenant _
      <*> Payload.text Payload.Part.scenario _) = _
    rw [text_of_wire rfl, text_of_wire rfl]
    rfl
  rw [task?, hread]
  show scenarioTask? ⟨some tenant, some scenario⟩ = _
  simp only [scenarioTask?, argument?_of_ne (ne_empty_of_isKey htenant),
    argument?_of_ne hscenario, Task.forTenant, htenant, if_true]

/-- The payload of a client that asks for a cast comes down to reading it. -/
theorem task?_getCharacters (htenant : Key.isKey tenant = true) :
    getCharacters.task? (.obj [("data", .obj [("tenantId", .str tenant)])]) =
      some (tenant, .characters) := by
  have hread : CharactersRequest.read (.obj [("data", .obj [("tenantId", .str tenant)])]) =
      .accepted ⟨some tenant⟩ := by
    show (CharactersRequest.mk <$> Payload.text Payload.Part.tenant _) = _
    rw [text_of_wire rfl]
    rfl
  rw [task?, hread]
  show charactersTask? ⟨some tenant⟩ = _
  simp only [charactersTask?, argument?_of_ne (ne_empty_of_isKey htenant), Task.forTenant, htenant,
    if_true]

theorem task?_saveGame (data : Fields) (htenant : Key.isKey tenant = true) :
    saveGame.task? (.obj [("data", .obj [("tenantId", .str tenant), ("saveData", .obj data)])]) =
      some (tenant, .save data) := by
  have hread : SaveRequest.read (.obj [("data",
      .obj [("tenantId", .str tenant), ("saveData", .obj data)])]) =
      .accepted ⟨some tenant, some data⟩ := by
    have hobject : Payload.object Payload.Part.saveData
        [("tenantId", .str tenant), ("saveData", .obj data)] = .accepted (some data) := by
      refine Field.optional_of_find? (Field.find?_of_wire rfl) ?_
      rw [Reader.nullable, Reader.map_accepted, Checked.map_accepted]
      exact Json.noConfusion
    show (SaveRequest.mk <$> Payload.text Payload.Part.tenant _
      <*> Payload.object Payload.Part.saveData _) = _
    rw [text_of_wire rfl, hobject]
    rfl
  rw [task?, hread]
  show saveTask? ⟨some tenant, some data⟩ = _
  simp only [saveTask?, argument?_of_ne (ne_empty_of_isKey htenant), Task.forTenant, htenant,
    if_true]

theorem task?_loadGame (htenant : Key.isKey tenant = true) (hcode : code ≠ "") :
    loadGame.task? (.obj [("data", .obj [("tenantId", .str tenant), ("saveCode", .str code)])]) =
      some (tenant, .load code) := by
  have hread : LoadRequest.read (.obj [("data",
      .obj [("tenantId", .str tenant), ("saveCode", .str code)])]) =
      .accepted ⟨some tenant, some code⟩ := by
    show (LoadRequest.mk <$> Payload.text Payload.Part.tenant _
      <*> Payload.text Payload.Part.saveCode _) = _
    rw [text_of_wire rfl, text_of_wire rfl]
    rfl
  rw [task?, hread]
  show loadTask? ⟨some tenant, some code⟩ = _
  simp only [loadTask?, argument?_of_ne (ne_empty_of_isKey htenant), argument?_of_ne hcode,
    Task.forTenant, htenant, if_true]

end

end Callable

/-! ## Requests -/

namespace Http

/-- The payload that a request brings to a callable. -/
def Request.payload? [Json.Room] (request : Request) : Option Json :=
  if request.method = "POST" then request.json.toOption else none

/-- The tenant that a request names. -/
def Request.tenant? [Json.Room] (request : Request) : Option Json :=
  request.payload?.bind Payload.tenant?

/-- The task that a request comes down to, and the tenant for whom it is done. -/
def Server.task? [Json.Room] (server : Server) (request : Request) : Option (String × Task) :=
  match server.route? request.url.served with
  | some (.callable callable) => request.payload?.bind callable.task?
  | _ => none

variable [Json.Room] {server : Server} {request : Request} {callable : Callable} {tenant : String}
  {task : Task}

theorem Server.task?_of_route
    (hroute : server.route? request.url.served = some (.callable callable)) :
    server.task? request = request.payload?.bind callable.task? := by
  rw [Server.task?, hroute]

/-- A task is what the callable at the address of the request makes of the payload. -/
theorem Server.of_task? (htask : server.task? request = some (tenant, task)) :
    ∃ callable payload, server.route? request.url.served = some (.callable callable) ∧
      request.payload? = some payload ∧ callable.task? payload = some (tenant, task) := by
  unfold Server.task? at htask
  split at htask
  · rename_i callable hroute
    obtain ⟨payload, hpayload, hmade⟩ := Option.bind_eq_some_iff.mp htask
    exact ⟨callable, payload, hroute, hpayload, hmade⟩
  · cases htask

theorem Request.of_payload? {payload : Json} (hpayload : request.payload? = some payload) :
    request.method = "POST" ∧ request.json = .ok payload := by
  unfold Request.payload? at hpayload
  split_ifs at hpayload with hpost
  cases hjson : request.json with
  | ok value =>
      rw [hjson] at hpayload
      cases hpayload
      exact ⟨hpost, rfl⟩
  | error fault =>
      rw [hjson] at hpayload
      cases hpayload

theorem Request.payload?_post (url : Url) {fields : Fields}
    (hplain : Json.isPlain (.obj fields) = true)
    (hshallow : Json.nesting (.obj fields) ≤ Json.Room.depth .body) :
    (Request.post url (.obj fields)).payload? = some (.obj fields) := by
  have hpost : (Request.post url (.obj fields)).method = "POST" := rfl
  rw [Request.payload?, if_pos hpost, Request.json_post url hplain hshallow]
  rfl

/-- A payload that is posted to a callable comes down to the task that the callable makes
of it. -/
theorem Server.task?_post {url : Url} {fields : Fields}
    (hroute : server.route? url.served = some (.callable callable))
    (hplain : Json.isPlain (.obj fields) = true)
    (hshallow : Json.nesting (.obj fields) ≤ Json.Room.depth .body) :
    server.task? (.post url (.obj fields)) = callable.task? (.obj fields) := by
  have hposted : server.route? (Request.post url (.obj fields)).url.served =
      some (.callable callable) := hroute
  rw [Server.task?_of_route hposted, Request.payload?_post url hplain hshallow, Option.bind_some]

theorem Server.tenant?_of_task? (htask : server.task? request = some (tenant, task)) :
    request.tenant? = some (.str tenant) ∧ Key.isKey tenant = true ∧
      server.route? request.url.served = some (.callable task.callable) := by
  obtain ⟨callable, payload, hroute, hpayload, hmade⟩ := Server.of_task? htask
  obtain ⟨hkey, rfl⟩ := Callable.isKey_of_task? hmade
  refine ⟨?_, hkey, hroute⟩
  rw [Request.tenant?, hpayload]
  exact Callable.tenant?_of_task? hmade

theorem Server.handle_eq (server : Server) (request : Request) (store : Store) :
    (server.handle request).run store =
      (if request.method = "HEAD" then
          { ((server.answer request).run store).1 with body := ByteArray.empty }
        else ((server.answer request).run store).1,
      ((server.answer request).run store).2) := rfl

theorem Server.answer_of_route
    (hroute : server.route? request.url.served = some (.callable callable)) :
    server.answer request =
      if request.method = "POST" then Server.serve request (.callable callable)
      else pure (.ofDetail 405 (.str "Method Not Allowed")) := by
  rw [Server.answer, hroute]
  simp only [Route.allows, decide_eq_true_eq]

theorem Server.handle_of_task? (htask : server.task? request = some (tenant, task))
    (store : Store) :
    (server.handle request).run store =
      (respond ((Callable.perform (task.action tenant)).run store).1,
        ((Callable.perform (task.action tenant)).run store).2) := by
  obtain ⟨callable, payload, hroute, hpayload, hmade⟩ := Server.of_task? htask
  obtain ⟨hpost, hjson⟩ := Request.of_payload? hpayload
  have hserved := Callable.servedAs_task? callable payload
  rw [hmade] at hserved
  have hhead : request.method ≠ "HEAD" := by
    rw [hpost]
    decide
  have hanswer : (server.answer request).run store =
      (respond ((callable.serve payload).run store).1,
        ((callable.serve payload).run store).2) := by
    rw [Server.answer_of_route hroute, if_pos hpost, Server.serve, hjson]
    rfl
  rw [Server.handle_eq, hanswer, if_neg hhead, hserved]

omit [Json.Room] in
theorem status_rejection_ne (reason : Rejection) : (rejection reason).status ≠ 200 := by
  cases reason <;> decide

/-- A request to a callable that comes down to no task is turned away, whatever the store is. -/
theorem Server.handle_of_no_task
    (hroute : server.route? request.url.served = some (.callable callable))
    (htask : server.task? request = none) :
    ∃ response : Response, response.status ≠ 200 ∧
      ∀ store, (server.handle request).run store = (response, store) := by
  have hanswer : ∃ response : Response, response.status ≠ 200 ∧
      ∀ store, (server.answer request).run store = (response, store) := by
    rw [Server.answer_of_route hroute]
    split_ifs with hpost
    · rw [Server.serve]
      cases hjson : request.json with
      | error fault =>
          cases fault with
          | noJson =>
              exact ⟨_, status_rejection_ne .malformedPayload, fun store => rfl⟩
          | unreadable =>
              exact ⟨.ofDetail 400 (.str "There was an error parsing the body"), by decide,
                fun store => rfl⟩
      | ok payload =>
          have hserved := Callable.servedAs_task? callable payload
          have hnone : callable.task? payload = none := by
            rw [Server.task?_of_route hroute, Request.payload?, if_pos hpost, hjson] at htask
            exact htask
          rw [hnone] at hserved
          obtain ⟨reason, -, hserve⟩ := hserved
          simp only [hserve]
          exact ⟨rejection reason, status_rejection_ne reason, fun store => rfl⟩
    · exact ⟨.ofDetail 405 (.str "Method Not Allowed"), by decide, fun store => rfl⟩
  obtain ⟨response, hstatus, hresponse⟩ := hanswer
  refine ⟨if request.method = "HEAD" then { response with body := ByteArray.empty } else response,
    ?_, fun store => ?_⟩
  · split_ifs <;> exact hstatus
  · rw [Server.handle_eq, hresponse]

end Http

end VisualNovel
