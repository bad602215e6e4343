import VisualNovel.Gateway.Http
import VisualNovel.Proofs.Callable.Parts
import VisualNovel.Proofs.Http.Published
import VisualNovel.Proofs.Json.Writing
import VisualNovel.Proofs.Store.Actions
import VisualNovel.Proofs.Store.Ids

/-!
# Calls that are answered

A call goes a long way: the payload is put in an envelope and posted to an address, the server
finds the callable by the path, takes the payload out again and performs an action of the
store, and the reply is sent without the fields that are kept back.

If the address leads to the server (`Endpoint.Reaches`) and the payload is portable, then the call
comes back with the response to what the callable makes of it (`Endpoint.call_of_served`).  What
is taken out of a response with records is the records, unless one of them does not get through
(`Http.reply_records`).
-/

namespace VisualNovel

open Json

/-! ## Requests and responses -/

namespace Http

variable {fields : List (String × Json)} {store left : Store}

theorem isJsonType_jsonType : isJsonType jsonType = true := by decide

theorem isEmpty_toUTF8 (style : Style) (value : Json) :
    (value.toText style).toUTF8.isEmpty = false := by
  have hne : value.toText style ≠ "" := by
    obtain ⟨first, others, hrender, -⟩ := render_eq_cons style 0 value
    intro hempty
    have hchars := congrArg String.toList hempty
    rw [toText, String.toList_ofList, hrender] at hchars
    cases hchars
  have hsize : (value.toText style).utf8ByteSize ≠ 0 := by
    rw [ne_eq, String.utf8ByteSize_eq_zero_iff]
    exact hne
  exact beq_eq_false_iff_ne.mpr hsize

theorem Request.json_post_of_isExact [Room] (url : Url) {value : Json} (hexact : IsExact value)
    (hshallow : nesting value ≤ Room.depth .body) (hsome : value ≠ .null) :
    (Request.post url value).json = .ok value := by
  have htype : (some jsonType).any isJsonType = true := isJsonType_jsonType
  rw [Request.json, Request.post, isEmpty_toUTF8, htype, if_neg (by decide),
    parseMessage_toText hexact hshallow]
  cases value with
  | null => exact absurd rfl hsome
  | _ => rfl

theorem Request.json_post [Room] (url : Url) (hplain : isPlain (.obj fields) = true)
    (hshallow : nesting (.obj fields) ≤ Room.depth .body) :
    (Request.post url (.obj fields)).json = .ok (.obj fields) :=
  Request.json_post_of_isExact url (isExact_of_isPlain hplain) hshallow Json.noConfusion

theorem Request.json_post_of_tooDeep [Room] (url : Url) {value : Json} (hexact : IsExact value)
    (hdeep : Room.depth .body < nesting value) :
    (Request.post url value).json = .error .unreadable := by
  obtain ⟨container, hexcess⟩ := exists_excess hdeep
  have htype : (some jsonType).any isJsonType = true := isJsonType_jsonType
  rw [Request.json, Request.post, isEmpty_toUTF8, htype, if_neg (by decide),
    parseMessage_tooDeep hexact hexcess]

theorem Response.reply_ofJson [Room] (name : String) (hexact : IsExact (.obj fields))
    (hshallow : nesting (.obj fields) ≤ Room.depth .response) :
    (Response.ofJson 200 (.obj fields)).reply name = .ok (.obj fields) := by
  rw [Response.reply, Response.ofJson, parseMessage_toText hexact hshallow]
  rfl

/-- A reply that can be sent comes without the fields that are kept back. -/
theorem respond_of_sends [Room] {reply : Json} (hsends : Room.sends (published reply) = true)
    (hsendable : isSendable (published reply) = true) :
    respond (.answered reply) = .ofJson 200 (published reply) := by
  show (if Room.sends (published reply) && isSendable (published reply) then _ else _) = _
  rw [hsends, hsendable, Bool.and_true, if_pos rfl]

theorem respond_of_not_sent [Room] {reply : Json}
    (hnot : ¬ (Room.sends (published reply) = true ∧ isSendable (published reply) = true)) :
    respond (.answered reply) = serverError := by
  rw [← Bool.and_eq_true] at hnot
  exact if_neg hnot

/-- A reply comes without the fields that are kept back, if it can be sent and read then. -/
theorem reply_respond [Room] (name : String) (hexact : IsExact (.obj (publishedFields fields)))
    (hsends : Room.sends (.obj (publishedFields fields)) = true)
    (hsendable : isSendable (.obj (publishedFields fields)) = true)
    (hshallow : nesting (.obj (publishedFields fields)) ≤ Room.depth .response) :
    (respond (.answered (.obj fields))).reply name = .ok (.obj (publishedFields fields)) := by
  have hrespond : respond (.answered (.obj fields)) =
      .ofJson 200 (.obj (publishedFields fields)) := respond_of_sends hsends hsendable
  rw [hrespond]
  exact Response.reply_ofJson name hexact hshallow

/-- A reply that is too deep for its reader is refused there. -/
theorem reply_respond_of_tooDeep [Room] (name : String) {container : Container}
    (hexact : IsExact (.obj (publishedFields fields)))
    (hsends : Room.sends (.obj (publishedFields fields)) = true)
    (hsendable : isSendable (.obj (publishedFields fields)) = true)
    (hdeep : excess? (Room.depth .response) (.obj (publishedFields fields)) = some container) :
    (respond (.answered (.obj fields))).reply name = .error (.tooDeep container) := by
  have hrespond : respond (.answered (.obj fields)) =
      .ofJson 200 (.obj (publishedFields fields)) := respond_of_sends hsends hsendable
  rw [hrespond, Response.reply, Response.ofJson, parseMessage_tooDeep hexact hdeep]

theorem parseMessage_ofDetail [Room] (status : Nat) {detail : Json} (hplain : isPlain detail = true)
    (hshallow : nesting detail < Room.depth .response) :
    parseMessage .response (Response.ofDetail status detail).body =
      .ok (.obj [("detail", detail)]) := by
  refine parseMessage_toText (isRegular_singleton (by decide) (isExact_of_isPlain hplain)) ?_
  rw [nesting_singleton]
  exact hshallow

theorem parseMessage_rejection [Room] (reason : Rejection) :
    parseMessage .response (rejection reason).body = .ok (.obj [("detail",
      .obj [("status", .str reason.kind.word), ("message", .str reason.message)])]) := by
  show parseMessage .response (Response.ofDetail (statusOf reason.kind) _).body = _
  refine parseMessage_ofDetail _ ?_ ?_
  · cases reason <;> decide +kernel
  · exact Nat.lt_of_lt_of_le (by cases reason <;> decide) (Room.four_le_depth .response)

theorem parseMessage_serverError [Room] :
    parseMessage .response serverError.body = .error (.text .malformed) := by
  have hdetect : detectEncoding serverError.body.toList = (.utf8, serverError.body.toList) := by
    decide +kernel
  have hdecode : decodeAs? .utf8 serverError.body.toList =
      some "Internal Server Error".toList := by decide +kernel
  have hrefused : ∀ depth, readText depth "Internal Server Error".toList = .error .malformed :=
    fun _ => rfl
  rw [parseMessage, hdetect]
  simp only [hdecode, hrefused]
  rfl

theorem reply_serverError [Room] (name : String) : serverError.reply name =
    .error (.gateway (.internal (name ++ " failed with HTTP " ++ "500"))) := by
  rw [Response.reply, parseMessage_serverError]
  rfl

/-- What comes back for records: if one of them does not get through, nothing does. -/
theorem reply_records [Room] {name : String} (caller : String) {records : List Json}
    (hname : name.startsWith "_sa" = false) (hencodable : Text.isEncodable name = true)
    (hplain : ∀ record ∈ records, isPlain record = true) :
    ((∀ record ∈ records, Arrives name record) →
        (respond (.answered (.obj [(name, .arr records)]))).reply caller =
          .ok (.obj [(name, .arr (records.map published))])) ∧
      ((∃ record ∈ records, ¬ Arrives name record) →
        ∃ fault, (respond (.answered (.obj [(name, .arr records)]))).reply caller =
          .error fault) := by
  have harrive := @sends_records_iff records _ name hencodable
  have hplain' := isPlain_records (Text.isJoined_of_isEncodable hencodable) hplain
  rw [← publishedFields_records hname] at harrive hplain' ⊢
  constructor
  · intro hall
    obtain ⟨hsends, hportable⟩ := harrive.mpr hall
    exact reply_respond caller hportable.isExact hsends hportable.sendable hportable.shallow
  · rintro ⟨record, hmem, hnot⟩
    by_cases hsent : Room.sends (published (.obj [(name, .arr records)])) = true ∧
        isSendable (published (.obj [(name, .arr records)])) = true
    · obtain ⟨hsends, hsendable⟩ := hsent
      have hdeep : Room.depth .response <
          nesting (.obj (publishedFields [(name, .arr records)])) := by
        rw [← Nat.not_le]
        intro hshallow
        exact hnot (harrive.mp ⟨hsends, hplain', hsendable, hshallow⟩ record hmem)
      obtain ⟨container, hexcess⟩ := exists_excess hdeep
      exact ⟨_, reply_respond_of_tooDeep caller (isExact_of_isPlain hplain') hsends hsendable
        hexcess⟩
    · rw [respond_of_not_sent hsent]
      exact ⟨_, reply_serverError caller⟩

/-! ## Finding the callable -/

theorem ofName?_name (callable : Callable) : Callable.ofName? callable.name = some callable := by
  cases callable <;> decide

theorem withoutBreak_name (callable : Callable) :
    Server.withoutBreak ("/api/" ++ callable.name) = "/api/" ++ callable.name := by
  have hbreak : ("/api/" ++ callable.name).endsWith "\n" = false := by
    rw [String.endsWith_eq_endsWith_toSlice, String.Slice.endsWith_string_eq_false_iff,
      String.copy_toSlice]
    cases callable <;> decide
  rw [Server.withoutBreak, hbreak, if_neg Bool.false_ne_true]

theorem drop_name (callable : Callable) :
    (("/api/" ++ callable.name).drop 5).toString = callable.name := by
  apply String.toList_injective
  rw [String.Slice.toString_eq, String.toList_copy_drop, String.toList_append]
  rfl

/-- The path of a callable asks for it, whatever images there are. -/
theorem route?_name (server : Server) (callable : Callable) :
    server.route? ("/api/" ++ callable.name) = some (.callable callable) := by
  have hhealth : "/api/" ++ callable.name ≠ "/api/health" := by
    cases callable <;> decide
  have hprefix : ("/api/" ++ callable.name).startsWith "/api/" = true := by
    rw [String.startsWith_string_iff, String.toList_append]
    exact List.prefix_append _ _
  simp only [Server.route?, withoutBreak_name]
  rw [if_neg hhealth, if_pos hprefix, drop_name, ofName?_name, Option.map_some]

/-- The address of a callable. -/
def shopUrl (callable : Callable) : Url :=
  { scheme := "http", host := "testserver", path := "/api/" ++ callable.name }

theorem served_shopUrl (callable : Callable) :
    (shopUrl callable).served = "/api/" ++ callable.name := by
  cases callable <;> decide

theorem route?_shopUrl (server : Server) (callable : Callable) :
    server.route? (shopUrl callable).served = some (.callable callable) := by
  rw [served_shopUrl, route?_name]

/-- A text of half a pair of units. -/
def unpaired : String := String.singleton (Text.ofCode 0xd800)

/-- The answer to a request for a callable depends on what the request brings. -/
theorem handle_of_route [Room] (server : Server) {request : Request} {callable : Callable}
    (hmethod : request.method = "POST")
    (hroute : server.route? request.url.served = some (.callable callable)) :
    server.handle request = (match request.json with
      | .ok payload => do return respond (← callable.serve payload)
      | .error .noJson => pure (rejection .malformedPayload)
      | .error .unreadable =>
        pure (.ofDetail 400 (.str "There was an error parsing the body"))) := by
  have hanswer : server.answer request = Server.serve request (.callable callable) := by
    have hallows : (Route.callable callable).allows request.method = true := by
      rw [hmethod]
      rfl
    simp only [Server.answer, hroute, hallows]
    rfl
  have hhead : request.method ≠ "HEAD" := by
    rw [hmethod]
    decide
  rw [Server.handle, hanswer]
  simp only [if_neg hhead, bind_pure]
  rfl

/-- A value that can be read is served as it is posted. -/
theorem handle_post_of_isExact [Room] (server : Server) {url : Url} {callable : Callable}
    {value : Json}
    (hroute : server.route? url.served = some (.callable callable)) (hexact : IsExact value)
    (hshallow : nesting value ≤ Room.depth .body) (hsome : value ≠ .null) :
    server.handle (.post url value) = (do return respond (← callable.serve value)) := by
  have hpost : server.route? (Request.post url value).url.served = some (.callable callable) :=
    hroute
  rw [handle_of_route server rfl hpost, Request.json_post_of_isExact url hexact hshallow hsome]

theorem handle_post_of_tooDeep [Room] (server : Server) {url : Url} {callable : Callable}
    {value : Json}
    (hroute : server.route? url.served = some (.callable callable)) (hexact : IsExact value)
    (hdeep : Room.depth .body < nesting value) :
    server.handle (.post url value) =
      pure (.ofDetail 400 (.str "There was an error parsing the body")) := by
  have hpost : server.route? (Request.post url value).url.served = some (.callable callable) :=
    hroute
  rw [handle_of_route server rfl hpost, Request.json_post_of_tooDeep url hexact hdeep]

theorem handle_post [Room] (server : Server) {url : Url} {callable : Callable} {outcome : Outcome}
    (hserved : url.served = "/api/" ++ callable.name) (hplain : isPlain (.obj fields) = true)
    (hshallow : nesting (.obj fields) ≤ Room.depth .body)
    (hserve : (callable.serve (.obj fields)).run store = (outcome, left)) :
    (server.handle (.post url (.obj fields))).run store = (respond outcome, left) := by
  have hroute : server.route? url.served = some (.callable callable) := by
    rw [hserved, route?_name]
  rw [handle_post_of_isExact server hroute (isExact_of_isPlain hplain) hshallow Json.noConfusion]
  show ((callable.serve (.obj fields)) >>= fun outcome => pure (respond outcome)).run store = _
  rw [StateT.run_bind, hserve]
  rfl

end Http

/-! ## Calls -/

namespace Endpoint

variable {endpoint : Endpoint} {store left : Store} {callable : Callable}
  {payload fields : List (String × Json)}

/-- Do the addresses of all callables lead to them? -/
def Reaches (endpoint : Endpoint) : Prop :=
  ∀ callable : Callable, Text.isEncodable (endpoint.address callable.name) = true ∧
    ∃ url, Url.ofText? (endpoint.address callable.name) = some url ∧
      (Url.resolve {} url).served = "/api/" ++ callable.name

theorem reaches_testserver (timeout : Number) :
    (Endpoint.ofAddress "http://testserver" timeout).Reaches := by
  intro callable
  constructor
  · show Text.isEncodable ("http://testserver/api/" ++ callable.name) = true
    cases callable <;> decide
  · have hserved : ((Url.ofText? ("http://testserver/api/" ++ callable.name)).map fun url =>
        (Url.resolve {} url).served) = some ("/api/" ++ callable.name) := by
      cases callable <;> decide +kernel
    exact Option.map_eq_some_iff.mp hserved

/-- The request for a call that can be made brings the payload in an envelope. -/
theorem request?_of_isSendable [Room] (callable : Callable) (hreaches : endpoint.Reaches)
    (hsendable : isSendable (.obj payload) = true)
    (hshallow : nesting (.obj payload) < Room.depth .request) :
    ∃ url : Url, url.served = "/api/" ++ callable.name ∧
      endpoint.request? callable.name (.obj payload) =
        .ok (.post url (.obj [("data", .obj payload)])) := by
  obtain ⟨hencodable, url, haddress, hserved⟩ := hreaches callable
  refine ⟨_, hserved, ?_⟩
  have henvelope : writeFault? (.obj [("data", .obj payload)]) = none :=
    (writeFault?_singleton_eq_none_iff (by decide)).mpr ⟨hshallow, hsendable⟩
  simp only [request?, haddress, Text.unencodable?_eq_none_iff.mpr hencodable, henvelope]

/-- A call comes back with the response to what the callable makes of it. -/
theorem call_of_isExact [Room] (server : Http.Server) (callable : Callable)
    (hreaches : endpoint.Reaches) (hexact : IsExact (.obj payload))
    (hsendable : isSendable (.obj payload) = true)
    (hshallow : nesting (.obj payload) < Room.depth .request)
    (hread : nesting (.obj payload) < Room.depth .body) :
    ((endpoint.gateway (Transport.toServer server)).call callable.name (.obj payload)) = do
      let outcome ← callable.serve (.obj [("data", .obj payload)])
      return (Http.respond outcome).reply callable.name := by
  obtain ⟨url, hserved, hrequest⟩ :=
    request?_of_isSendable callable hreaches hsendable hshallow
  have hroute : server.route? url.served = some (.callable callable) := by
    rw [hserved, Http.route?_name]
  have hdepth : nesting (.obj [("data", .obj payload)]) ≤ Room.depth .body := by
    rw [nesting_singleton]
    exact hread
  have hhandle := Http.handle_post_of_isExact server hroute
    (isRegular_singleton (by decide) hexact) hdepth Json.noConfusion
  simp only [gateway, hrequest, Transport.toServer, hhandle]
  rfl

theorem call_of_served [Room] (server : Http.Server) {outcome : Outcome}
    (hreaches : endpoint.Reaches) (hpayload : Portable (.obj payload) 3)
    (hserve : (callable.serve (.obj [("data", .obj payload)])).run store = (outcome, left)) :
    ((endpoint.gateway (Transport.toServer server)).call callable.name (.obj payload)).run store =
      ((Http.respond outcome).reply callable.name, left) := by
  have hshallow : ∀ source, nesting (.obj payload) < Room.depth source := fun source =>
    Nat.lt_of_le_of_lt hpayload.shallow (Room.four_le_depth source)
  rw [call_of_isExact server callable hreaches hpayload.isExact hpayload.sendable (hshallow _)
    (hshallow _), StateT.run_bind, hserve]
  rfl

end Endpoint

/-! ## Arguments -/

namespace Callable

variable {tenant : String}

theorem ne_empty_of_isKey (htenant : Key.isKey tenant = true) : tenant ≠ "" := by
  rintro rfl
  cases htenant

theorem text_of_wire {field : Field} {fields : Fields} {text : String}
    (hvalue : OrderedMap.at? field.wire fields = some (.str text)) :
    Payload.text field fields = .accepted (some text) :=
  Field.optional_of_find? (Field.find?_of_wire hvalue) rfl

end Callable

end VisualNovel
