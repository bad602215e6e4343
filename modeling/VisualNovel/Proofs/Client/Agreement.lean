import VisualNovel.Proofs.Client.Saving
import VisualNovel.Proofs.Http.Answers

/-!
# The client says what the server says

What the server makes of a call goes into a response, as a status and a body, and the client makes a
reply or a failure out of it.  The client says what the response says (`Http.Agrees`): it gives the
object in the body if there is success, it fails with the kind and the message in the detail if the
call is rejected, and else with a failure of the server.  No other failure comes from a server that
can be reached (`Endpoint.call_agrees`).

Three things come between a call and its answer (`Endpoint.call_unlike_answer`): fields whose names
start with `_sa` are kept back from a reply, a reply with an unpaired unit cannot be sent, and
neither can such a payload.  And what nests too deeply is not written by the client, or not read.
-/

namespace VisualNovel

open Store Json

section

variable [Room]

/-- Is there no response to the outcome but that of a failure?  A reply may be one that cannot be
sent, or that there is no room to send. -/
def Outcome.Raises : Outcome → Prop
  | .answered reply =>
    ¬ (Room.sends (Http.published reply) = true ∧ isSendable (Http.published reply) = true)
  | .rejected _ => False
  | .failed _ => True

namespace Http

variable {name : String} {response : Response} {answer : Except ClientFault Json}

/-- Does the client say what the response says? -/
inductive Agrees (name : String) (response : Response) : Except ClientFault Json → Prop
  /-- The reply is the object in the body. -/
  | reply {fields : Fields} (hstatus : response.status = 200)
      (hbody : parseMessage .response response.body = .ok (.obj fields)) :
      Agrees name response (.ok (.obj fields))
  /-- The object in the body is too deep for the client. -/
  | tooDeep {container : Container} (hstatus : response.status = 200)
      (hbody : parseMessage .response response.body = .error (.text (.tooDeep container))) :
      Agrees name response (.error (.tooDeep container))
  /-- The kind and the message of the failure are in the detail in the body. -/
  | rejection {kind : ErrorKind} {message : String}
      (hstatus : response.status = 400 ∧ kind = .invalidArgument ∨
        response.status = 404 ∧ kind = .notFound)
      (hbody : parseMessage .response response.body =
        .ok (.obj [("detail", .obj [("status", .str kind.word), ("message", .str message)])])) :
      Agrees name response (.error (.gateway (.told kind message)))
  /-- The server has failed. -/
  | failure (hstatus : response.status = 500) :
      Agrees name response
        (.error (.gateway (.internal (name ++ " failed with HTTP " ++ "500"))))

theorem Agrees.kind_cases {fault : GatewayFault}
    (hagrees : Agrees name response (.error (.gateway fault))) :
    fault.kind = .invalidArgument ∧ response.status = 400 ∨
      fault.kind = .notFound ∧ response.status = 404 ∨
        fault.kind = .internal ∧ response.status = 500 := by
  cases hagrees with
  | rejection hstatus hbody =>
      rcases hstatus with ⟨hstatus, rfl⟩ | ⟨hstatus, rfl⟩
      · exact .inl ⟨rfl, hstatus⟩
      · exact .inr (.inl ⟨rfl, hstatus⟩)
  | failure hstatus => exact .inr (.inr ⟨rfl, hstatus⟩)

/-! ## What is made of a response -/

theorem agrees_serverError (name : String) : Agrees name serverError (serverError.reply name) := by
  rw [reply_serverError]
  exact .failure rfl

theorem agrees_rejection (name : String) (reason : Rejection) :
    Agrees name (rejection reason) ((rejection reason).reply name) := by
  have hreply : (rejection reason).reply name =
      .error (.gateway (.told reason.kind reason.message)) := by
    rw [Response.reply, parseMessage_rejection]
    cases reason <;> rfl
  have hstatus : (rejection reason).status = 400 ∧ reason.kind = .invalidArgument ∨
      (rejection reason).status = 404 ∧ reason.kind = .notFound := by
    cases reason <;> decide
  rw [hreply]
  exact .rejection hstatus (parseMessage_rejection reason)

theorem agrees_answered (name : String) {fields : Fields} (htidy : IsTidy (.obj fields)) :
    Agrees name (respond (.answered (.obj fields)))
      ((respond (.answered (.obj fields))).reply name) := by
  have htidy' : IsTidy (.obj (publishedFields fields)) := isRegular_published htidy
  by_cases hsent : Room.sends (.obj (publishedFields fields)) = true ∧
      isSendable (.obj (publishedFields fields)) = true
  · obtain ⟨hsends, hsendable⟩ := hsent
    have hexact := isExact_of_isSendable htidy' hsendable
    have hrespond : respond (.answered (.obj fields)) =
        .ofJson 200 (.obj (publishedFields fields)) := respond_of_sends hsends hsendable
    cases hexcess : excess? (Room.depth .response) (.obj (publishedFields fields)) with
    | none =>
        have hshallow := excess?_eq_none_iff.mp hexcess
        rw [reply_respond name hexact hsends hsendable hshallow, hrespond]
        exact .reply rfl (parseMessage_toText hexact hshallow)
    | some container =>
        rw [reply_respond_of_tooDeep name hexact hsends hsendable hexcess, hrespond]
        exact .tooDeep rfl (parseMessage_tooDeep hexact hexcess)
  · have hrespond : respond (.answered (.obj fields)) = serverError := respond_of_not_sent hsent
    rw [hrespond]
    exact agrees_serverError name

theorem raises_of_status {outcome : Outcome} (hstatus : (respond outcome).status = 500) :
    outcome.Raises := by
  cases outcome with
  | answered reply =>
      rintro ⟨hsends, hsendable⟩
      rw [respond_of_sends hsends hsendable] at hstatus
      cases hstatus
  | rejected reason => cases reason <;> cases hstatus
  | failed fault => trivial

/-- What a callable answers with is a tidy object. -/
theorem tidy_of_answered {callable : Callable} {payload : Json} {store left : Store} {reply : Json}
    (hserve : (callable.serve payload).run store = (.answered reply, left)) :
    ∃ fields, reply = .obj fields ∧ IsTidy (.obj fields) := by
  rcases callable.outcome_cases payload store with
    ⟨-, reason, -, hrejected⟩ | hanswer | ⟨fault, hfailed⟩
  · rw [hrejected] at hserve
    cases hserve
  · rw [hserve] at hanswer
    cases hanswer with
    | object htidy => exact ⟨_, rfl, htidy⟩
  · rw [hserve] at hfailed
    cases hfailed

/-- Whatever becomes of a payload, the client agrees with the response to it. -/
theorem agrees_respond {callable : Callable} {payload : Json} {store left : Store}
    {outcome : Outcome} (hserve : (callable.serve payload).run store = (outcome, left)) :
    Agrees callable.name (respond outcome) ((respond outcome).reply callable.name) := by
  cases outcome with
  | answered reply =>
      obtain ⟨fields, rfl, htidy⟩ := tidy_of_answered hserve
      exact agrees_answered _ htidy
  | rejected reason => exact agrees_rejection _ reason
  | failed fault => exact agrees_serverError _

end Http

namespace Endpoint

variable {endpoint : Endpoint} {payload : Fields}

theorem call_of_writeFault (server : Http.Server) (callable : Callable)
    (hreaches : endpoint.Reaches) {fault : WriteFault}
    (hfault : writeFault? (.obj [("data", .obj payload)]) = some fault) :
    (endpoint.gateway (Transport.toServer server)).call callable.name (.obj payload) =
      pure (.error (.unwritten fault)) := by
  obtain ⟨hencodable, url, haddress, -⟩ := hreaches callable
  have hrequest : endpoint.request? callable.name (.obj payload) =
      .error (.unwritten fault) := by
    simp only [request?, haddress, Text.unencodable?_eq_none_iff.mpr hencodable, hfault]
  simp only [gateway, hrequest]

/-- A call of a server that can be reached comes back with what the response says, if the payload
can be written and read.  What is written but cannot be read is told of as an invalid argument. -/
theorem call_agrees (server : Http.Server) (callable : Callable) (hreaches : endpoint.Reaches)
    (htidy : IsTidy (.obj payload)) :
    (¬ (nesting (.obj payload) < Room.depth .request ∧ isSendable (.obj payload) = true) →
        ∃ fault, writeFault? (.obj [("data", .obj payload)]) = some fault ∧
          (endpoint.gateway (Transport.toServer server)).call callable.name (.obj payload) =
            pure (.error (.unwritten fault))) ∧
      (nesting (.obj payload) < Room.depth .request → isSendable (.obj payload) = true →
        ∃ url : Url, endpoint.request? callable.name (.obj payload) =
            .ok (.post url (.obj [("data", .obj payload)])) ∧
          (Room.depth .body ≤ nesting (.obj payload) →
            server.handle (.post url (.obj [("data", .obj payload)])) =
                pure (.ofDetail 400 (.str "There was an error parsing the body")) ∧
              (endpoint.gateway (Transport.toServer server)).call callable.name (.obj payload) =
                pure (.error (.gateway
                  (.told .invalidArgument "There was an error parsing the body")))) ∧
          (nesting (.obj payload) < Room.depth .body →
            ∀ store, ∃ response outcome answer left,
              (server.handle (.post url (.obj [("data", .obj payload)]))).run store =
                  (response, left) ∧
                (callable.serve (.obj [("data", .obj payload)])).run store = (outcome, left) ∧
                ((endpoint.gateway (Transport.toServer server)).call callable.name
                  (.obj payload)).run store = (answer, left) ∧
                Http.Agrees callable.name response answer ∧
                (∀ fault, answer = .error (.gateway fault) →
                  fault.kind ≠ .unavailable ∧ (fault.kind = .internal → outcome.Raises)) ∧
                ∀ reply, outcome = .answered reply → Room.sends (Http.published reply) = true →
                  isSendable (Http.published reply) = true →
                    nesting (Http.published reply) ≤ Room.depth .response →
                      answer = .ok (Http.published reply))) := by
  refine ⟨fun hnot => ?_, fun hshallow hsendable => ?_⟩
  · have hdata : Text.isEncodable "data" = true := by decide
    obtain ⟨fault, hfault⟩ := Option.ne_none_iff_exists'.mp
      fun hnone => hnot ((writeFault?_singleton_eq_none_iff hdata).mp hnone)
    exact ⟨fault, hfault, call_of_writeFault server callable hreaches hfault⟩
  have hexact := isExact_of_isSendable htidy hsendable
  have henvelope : IsExact (.obj [("data", .obj payload)]) := isRegular_singleton (by decide) hexact
  obtain ⟨url, hserved, hrequest⟩ :=
    request?_of_isSendable callable hreaches hsendable hshallow
  have hroute : server.route? url.served = some (.callable callable) := by
    rw [hserved, Http.route?_name]
  refine ⟨url, hrequest, fun hunread => ?_, fun hread store => ?_⟩
  · have hdeep : Room.depth .body < nesting (.obj [("data", .obj payload)]) := by
      rw [nesting_singleton]
      exact Nat.lt_succ_of_le hunread
    have hhandle := Http.handle_post_of_tooDeep server hroute henvelope hdeep
    have hreply : (Http.Response.ofDetail 400 (.str "There was an error parsing the body")).reply
        callable.name = .error (.gateway
          (.told .invalidArgument "There was an error parsing the body")) := by
      rw [Http.Response.reply, Http.parseMessage_ofDetail 400 (by decide +kernel)
        (Nat.lt_of_lt_of_le (Nat.zero_lt_succ _) (Room.four_le_depth .response))]
      rfl
    refine ⟨hhandle, ?_⟩
    simp only [gateway, hrequest, Transport.toServer, hhandle, pure_bind, hreply]
  have hdepth : nesting (.obj [("data", .obj payload)]) ≤ Room.depth .body := by
    rw [nesting_singleton]
    exact hread
  rcases hserve : (callable.serve (.obj [("data", .obj payload)])).run store with ⟨outcome, left⟩
  refine ⟨Http.respond outcome, outcome, (Http.respond outcome).reply callable.name, left, ?_, rfl,
    ?_, Http.agrees_respond hserve, ?_, ?_⟩
  · rw [Http.handle_post_of_isExact server hroute henvelope hdepth Json.noConfusion,
      StateT.run_bind, hserve]
    rfl
  · rw [call_of_isExact server callable hreaches hexact hsendable hshallow hread, StateT.run_bind,
      hserve]
    rfl
  · intro fault hfault
    have hagrees := Http.agrees_respond hserve
    rw [hfault] at hagrees
    rcases hagrees.kind_cases with ⟨hkind, -⟩ | ⟨hkind, -⟩ | ⟨hkind, hstatus⟩ <;> rw [hkind]
    · exact ⟨by decide, fun hinternal => absurd hinternal (by decide)⟩
    · exact ⟨by decide, fun hinternal => absurd hinternal (by decide)⟩
    · exact ⟨by decide, fun _ => Http.raises_of_status hstatus⟩
  · rintro reply rfl hsends hsent hread
    obtain ⟨fields, rfl, hfields⟩ := Http.tidy_of_answered hserve
    exact Http.reply_respond _ (isExact_of_isSendable (Http.isRegular_published hfields) hsent)
      hsends hsent hread

end Endpoint

end

namespace Endpoint

/-- A client of a shop, in a store in the same program. -/
def shopGateway : Gateway Store :=
  (ofAddress "http://testserver" (.whole 5)).gateway (Transport.toServer (Http.Server.mk none))

/-- The payload of a shop to load a save. -/
def shopLoad : Fields := [("tenantId", .str "shop"), ("saveCode", .str "AAAAAAAA")]

theorem call_agrees_for_shop : ∃ url : Url, ∀ store,
    Http.Agrees "loadGame"
      (((Http.Server.mk none).handle (.post url (.obj [("data", .obj shopLoad)]))).run store).1
      ((shopGateway.call "loadGame" (.obj shopLoad)).run store).1 := by
  have htidy : IsTidy (.obj shopLoad) := ⟨by decide, trivial, trivial, trivial, trivial, trivial⟩
  obtain ⟨-, hcall⟩ := call_agrees (Http.Server.mk none) .loadGame
    (reaches_testserver (.whole 5)) htidy
  obtain ⟨url, -, -, hstores⟩ := hcall (by decide) (by decide +kernel)
  refine ⟨url, fun store => ?_⟩
  obtain ⟨response, outcome, answer, left, hresponse, -, hanswer, hagrees, -⟩ :=
    hstores (by decide) store
  rw [hresponse]
  have hname : Callable.loadGame.name = "loadGame" := rfl
  rw [hname] at hanswer hagrees
  rw [shopGateway, hanswer]
  exact hagrees

theorem serve_shopLoad [Room] {data : Fields} (hdata : Http.FitForShop data) :
    (Callable.loadGame.serve (.obj [("data", .obj shopLoad)])).run
        (Http.registerOfShop data).store =
      (Callable.reply "saveData"
        (.obj (OrderedMap.put "createdAt" (.str "2024-01-01T00:00:00+00:00") data)),
        (Http.registerOfShop data).store) := by
  have hserve := Callable.run_serve (Callable.task?_loadGame (by decide : Key.isKey "shop" = true)
    (by decide : "AAAAAAAA" ≠ "")) (Http.registerOfShop data).store
  rw [Http.result_loadOfShop hdata, hdata.found_eq] at hserve
  simp only [Outcome.ofAnswer] at hserve
  rw [shopLoad]
  exact hserve

theorem respond_shopLoad [Room] {data : Fields} (hdata : Http.FitForShop data) (time : String) :
    Http.respond (Callable.reply "saveData" (.obj (OrderedMap.put "createdAt" (.str time) data))) =
      Http.loaded (some (.obj (OrderedMap.put "createdAt" (.str time) data))) := by
  rw [← Http.respond_found, hdata.found_eq]
  simp only [Outcome.ofAnswer]

/-- The payload of a shop to read a script, with a note that cannot be sent. -/
def shopScript : Fields :=
  [("tenantId", .str "shop"), ("scenarioName", .str "main"), ("note", .str Http.unpaired)]

/-- The callable takes no notice of the note, and there is no script in a new store. -/
theorem serve_shopScript :
    (Callable.getScenario.serve (.obj [("data", .obj shopScript)])).run (Store.newWith []) =
      (.answered (.obj [("scenario", .arr [])]), Store.newWith []) := by
  have hrecords : Records (Store.newWith []) (Path.ofText "data") ["data", "tenants"]
      (fun _ => True) [] := records_newWith
  obtain ⟨documents, -, hmem, hdocuments⟩ := hrecords.result_documents
    (by decide : Key.isKey "shop" = true) (by decide) isFileName_scenario trivial
  obtain rfl : documents = [] := by
    refine List.eq_nil_iff_forall_not_mem.mpr fun document hdocument => ?_
    cases (hmem document.1 document.2).mp hdocument
  have hgives : Gives (Task.scenario.action "shop") (Store.newWith [])
      (Callable.reply "scenario" (.arr [])) (Store.newWith []) :=
    Gives.bind hdocuments (gives_pure _ _)
  have hserve := Callable.run_serve
    (Callable.task?_getScenario (by decide : Key.isKey "shop" = true)
    (by decide : "main" ≠ "")) (Store.newWith [])
  rw [hgives.result_eq] at hserve
  have hsame : Callable.getScenario.serve (.obj [("data", .obj shopScript)]) =
      Callable.getScenario.serve (.obj [("data",
        .obj [("tenantId", .str "shop"), ("scenarioName", .str "main")])]) :=
    Callable.serve_congr .getScenario rfl rfl (by decide +kernel)
  rw [hsame]
  exact hserve

/-- A client need not get what a callable answers.  A field whose name starts with `_sa` is kept
back; a reply with an unpaired unit is told of as a failure of the server; and a payload with such a
unit is not sent, though the callable takes no notice of it. -/
theorem call_unlike_answer :
    ((∃ left, (Callable.loadGame.serve (.obj [("data", .obj shopLoad)])).run
          (Http.registerOfShop [("_sa", .int 1)]).store =
        (.answered (.obj [("saveData", .obj [("_sa", .int 1),
          ("createdAt", .str "2024-01-01T00:00:00+00:00")])]), left)) ∧
      ((shopGateway.call "loadGame" (.obj shopLoad)).run
          (Http.registerOfShop [("_sa", .int 1)]).store).1 =
        .ok (.obj [("saveData", .obj [("createdAt", .str "2024-01-01T00:00:00+00:00")])])) ∧
    ((∃ left, (Callable.loadGame.serve (.obj [("data", .obj shopLoad)])).run
          (Http.registerOfShop [("note", .str Http.unpaired)]).store =
        (.answered (.obj [("saveData", .obj [("note", .str Http.unpaired),
          ("createdAt", .str "2024-01-01T00:00:00+00:00")])]), left)) ∧
      ((shopGateway.call "loadGame" (.obj shopLoad)).run
          (Http.registerOfShop [("note", .str Http.unpaired)]).store).1 =
        .error (.gateway (.internal "loadGame failed with HTTP 500"))) ∧
    (((Callable.getScenario.serve (.obj [("data", .obj shopScript)])).run
          (Store.newWith [])).1 = .answered (.obj [("scenario", .arr [])]) ∧
      shopGateway.call "getScenario" (.obj shopScript) = pure (.error (.unwritten
          (.unencodable ⟨Text.ofCode 0xd800, 57, 0⟩)))) := by
  have hreaches := reaches_testserver (.whole 5)
  have hexact : IsExact (.obj shopLoad) := isExact_of_isPlain (by decide +kernel)
  have hcall : shopGateway.call "loadGame" (.obj shopLoad) = do
      let outcome ← Callable.loadGame.serve (.obj [("data", .obj shopLoad)])
      return (Http.respond outcome).reply "loadGame" :=
    call_of_isExact (Http.Server.mk none) .loadGame hreaches hexact (by decide +kernel) (by decide)
      (by decide)
  have hhidden : Http.FitForShop [("_sa", .int 1)] := ⟨by decide +kernel, by decide⟩
  have hunsent : Http.FitForShop [("note", .str Http.unpaired)] :=
    ⟨by decide +kernel, by decide⟩
  refine ⟨⟨⟨_, serve_shopLoad hhidden⟩, ?_⟩, ⟨⟨_, serve_shopLoad hunsent⟩, ?_⟩, ?_, ?_⟩
  · have hkept : "_sa".startsWith "_sa" = true := by decide +kernel
    have hsent : "createdAt".startsWith "_sa" = false := by decide +kernel
    have hpublished : Http.publishedFields (OrderedMap.put "createdAt"
        (.str "2024-01-01T00:00:00+00:00") [("_sa", .int 1)]) =
          [("createdAt", .str "2024-01-01T00:00:00+00:00")] := by
      simp [Http.publishedFields, Http.published, OrderedMap.put, hkept, hsent]
    have hrespond := Http.loaded_of_published hpublished (by decide +kernel) (by decide +kernel)
      (by decide +kernel)
    rw [hcall, StateT.run_bind, serve_shopLoad hhidden]
    show (Http.respond (Callable.reply "saveData" _)).reply "loadGame" = _
    rw [respond_shopLoad hhidden, hrespond]
    exact Http.Response.reply_ofJson _ (isExact_of_isPlain (by decide +kernel)) (by decide)
  · have hnot : (Http.published (.obj (OrderedMap.put "createdAt"
        (.str "2024-01-01T00:00:00+00:00") [("note", .str Http.unpaired)]))).isSendable =
          false := by
      decide +kernel
    have hrespond : Http.loaded (some (.obj (OrderedMap.put "createdAt"
        (.str "2024-01-01T00:00:00+00:00") [("note", .str Http.unpaired)]))) =
          Http.serverError := if_neg fun hall => Bool.false_ne_true (hnot.symm.trans hall.2.2)
    rw [hcall, StateT.run_bind, serve_shopLoad hunsent]
    show (Http.respond (Callable.reply "saveData" _)).reply "loadGame" = _
    rw [respond_shopLoad hunsent, hrespond]
    exact Http.reply_serverError _
  · rw [serve_shopScript]
  · exact call_of_writeFault _ .getScenario hreaches (by decide +kernel)

end Endpoint

end VisualNovel
