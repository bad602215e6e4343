import VisualNovel.Proofs.Http.Exchange

/-!
# Every outcome of a call

A call is posted once, and what comes of it is classified by the outcome of the request.  The call
has a value if there is success and an object in the body; it fails as unavailable if there is no
response; and else it fails with a kind that the status tells, whatever the body says, and with a
message out of the body.

There are two kinds of calls for which this is not so (`Endpoint.call_classified`).  A payload that
cannot be written is not sent, and the failure is not one of the gateway.  And if the body nests so
deeply that it cannot be read, then reading it fails in another way than for a body that is no JSON,
and this failure is not turned into one of the gateway (`Endpoint.call_of_nested`).
-/

namespace VisualNovel

open Json

/-! ## Outcomes -/

/-- The transport, with a note of all requests. -/
def Transport.noting {σ : Type} (transport : Transport σ) : Transport (σ × List Http.Request) :=
  fun request => do
    let (world, requests) ← get
    let (outcome, changed) := (transport request).run world
    set (changed, requests ++ [request])
    return outcome

/-- A transport that always brings this response. -/
def Transport.bringing (response : Http.Response) : Transport Unit := fun _ => return .ok response

section

variable [Room]

namespace Http.Response

/-- Is this the message about a response that is no success?  The detail in the body has it, or it
is the detail, or else it names the status. -/
inductive Tells (name : String) (response : Response) : Json → Prop
  | message {fields detail : Fields} {message : Json}
      (hbody : parseMessage .response response.body = .ok (.obj fields))
      (hdetail : OrderedMap.at? "detail" fields = some (.obj detail))
      (hmessage : OrderedMap.at? "message" detail = some message) : Tells name response message
  | detail {fields : Fields} {text : String}
      (hbody : parseMessage .response response.body = .ok (.obj fields))
      (hdetail : OrderedMap.at? "detail" fields = some (.str text)) :
      Tells name response (.str text)
  | status (hnothing : ∀ fields, parseMessage .response response.body = .ok (.obj fields) →
        (∀ text, OrderedMap.at? "detail" fields ≠ some (.str text)) ∧
          ∀ detail, OrderedMap.at? "detail" fields = some (.obj detail) →
            OrderedMap.at? "message" detail = none) :
      Tells name response (.str (name ++ " failed with HTTP " ++ toString response.status))

/-- Is the kind the one that the status tells? -/
def TellsKind (response : Response) (kind : ErrorKind) : Prop :=
  response.status = 400 ∧ kind = .invalidArgument ∨ response.status = 404 ∧ kind = .notFound ∨
    response.status ≠ 400 ∧ response.status ≠ 404 ∧ kind = .internal

end Http.Response

/-- Does a call with this outcome of its request come to the value or the failure? -/
inductive Classified (name : String) :
    Except TransportFault Http.Response → Except ClientFault Json → Prop
  /-- The object in the body of a success. -/
  | value {response : Http.Response} {fields : Fields}
      (hsuccess : 200 ≤ response.status ∧ response.status ≤ 299)
      (hbody : parseMessage .response response.body = .ok (.obj fields)) :
      Classified name (.ok response) (.ok (.obj fields))
  /-- A success without an object. -/
  | noObject {response : Http.Response} {failure : GatewayFault}
      (hsuccess : 200 ≤ response.status ∧ response.status ≤ 299)
      (hbody : ∀ fields, parseMessage .response response.body ≠ .ok (.obj fields))
      (hkind : failure.kind = .internal) :
      Classified name (.ok response) (.error (.gateway failure))
  /-- No success, whatever the body is. -/
  | refused {response : Http.Response} {failure : GatewayFault}
      (hstatus : ¬ (200 ≤ response.status ∧ response.status ≤ 299))
      (hkind : response.TellsKind failure.kind) (hmessage : response.Tells name failure.message) :
      Classified name (.ok response) (.error (.gateway failure))
  /-- No response. -/
  | unavailable {fault : TransportFault} {failure : GatewayFault}
      (hkind : failure.kind = .unavailable) :
      Classified name (.error fault) (.error (.gateway failure))

/-- Is there a response that nests too deeply to be read? -/
def TooDeep (outcome : Except TransportFault Http.Response) : Prop :=
  ∃ response container, outcome = .ok response ∧
    parseMessage .response response.body = .error (.text (.tooDeep container))

section

variable {name : String} {response : Http.Response}

omit [Room] in
theorem Http.Response.isSuccess_iff :
    response.isSuccess = true ↔ 200 ≤ response.status ∧ response.status ≤ 299 := by
  rw [isSuccess, Bool.and_eq_true, decide_eq_true_eq, decide_eq_true_eq]
  omega

omit [Room] in
theorem tellsKind_kindOf : response.TellsKind (GatewayFault.kindOf response.status) := by
  unfold Http.Response.TellsKind GatewayFault.kindOf
  split_ifs with hbad hmissing
  · exact .inl ⟨hbad, rfl⟩
  · exact .inr (.inl ⟨hmissing, rfl⟩)
  · exact .inr (.inr ⟨hbad, hmissing, rfl⟩)

omit [Room] in
theorem detailMessage?_obj (fields : Fields) :
    GatewayFault.detailMessage? (.obj fields) =
      match OrderedMap.at? "detail" fields with
      | some (.obj detail) => OrderedMap.at? "message" detail
      | some (.str text) => some (.str text)
      | _ => none := rfl

theorem tells_ofResponse : response.Tells name
    (GatewayFault.ofResponse name response.status
      (parseMessage .response response.body).toOption).message := by
  cases hbody : parseMessage .response response.body with
  | error fault =>
      refine .status fun fields hfields => ?_
      rw [hbody] at hfields
      cases hfields
  | ok value =>
      cases value with
      | obj fields =>
          show response.Tells name ((GatewayFault.detailMessage? (.obj fields)).getD _)
          rw [detailMessage?_obj]
          split
          · next detail hdetail =>
            cases hmessage : OrderedMap.at? "message" detail with
            | some message => exact .message hbody hdetail hmessage
            | none =>
                refine .status fun found hfound => ?_
                rw [hbody] at hfound
                cases hfound
                rw [hdetail]
                refine ⟨nofun, ?_⟩
                rintro _ ⟨⟩
                exact hmessage
          · next text hdetail => exact .detail hbody hdetail
          · next hobject htext =>
            refine .status fun found hfound => ?_
            rw [hbody] at hfound
            cases hfound
            exact ⟨fun text hdetail => htext text hdetail,
              fun detail hdetail => absurd hdetail (hobject detail)⟩
      | _ =>
          refine .status fun fields hfields => ?_
          rw [hbody] at hfields
          cases hfields

theorem reply_of_tooDeep {container : Container}
    (hbody : parseMessage .response response.body = .error (.text (.tooDeep container))) :
    response.reply name = .error (.tooDeep container) := by
  rw [Http.Response.reply, hbody]

/-- What is no success is a failure with the kind and the message that it tells, if it is read. -/
theorem reply_of_not_success (hstatus : response.isSuccess = false)
    (hread : ¬ TooDeep (.ok response)) :
    response.reply name = .error (.gateway (.ofResponse name response.status
      (parseMessage .response response.body).toOption)) := by
  unfold Http.Response.reply
  split
  · next container hbody => exact absurd ⟨response, container, rfl, hbody⟩ hread
  · next value hbody =>
    rw [hbody, hstatus]
    rfl
  · next fault _ hbody =>
    rw [hbody, hstatus]
    rfl

theorem reply_of_object {fields : Fields} (hstatus : response.isSuccess = true)
    (hbody : parseMessage .response response.body = .ok (.obj fields)) :
    response.reply name = .ok (.obj fields) := by
  rw [Http.Response.reply, hbody, hstatus]
  rfl

/-- A success without an object is an internal failure, if it is read. -/
theorem reply_of_no_object (hstatus : response.isSuccess = true)
    (hread : ¬ TooDeep (.ok response))
    (hbody : ∀ fields, parseMessage .response response.body ≠ .ok (.obj fields)) :
    ∃ failure, response.reply name = .error (.gateway failure) ∧ failure.kind = .internal := by
  unfold Http.Response.reply
  rw [hstatus]
  split
  · next container hbody => exact absurd ⟨response, container, rfl, hbody⟩ hread
  · next value hvalue =>
    cases value with
    | obj fields => exact absurd hvalue (hbody fields)
    | _ => exact ⟨_, rfl, rfl⟩
  · exact ⟨_, rfl, rfl⟩

/-- A response that can be read is classified. -/
theorem classified_reply (hread : ¬ TooDeep (.ok response)) :
    Classified name (.ok response) (response.reply name) := by
  cases hstatus : response.isSuccess with
  | false =>
      rw [reply_of_not_success hstatus hread]
      refine .refused ?_ tellsKind_kindOf tells_ofResponse
      rw [← Http.Response.isSuccess_iff, hstatus]
      exact Bool.false_ne_true
  | true =>
      have hsuccess := Http.Response.isSuccess_iff.mp hstatus
      by_cases hobject : ∃ fields, parseMessage .response response.body = .ok (.obj fields)
      · obtain ⟨fields, hbody⟩ := hobject
        rw [reply_of_object hstatus hbody]
        exact .value hsuccess hbody
      · have hbody := not_exists.mp hobject
        obtain ⟨failure, hreply, hkind⟩ := reply_of_no_object hstatus hread hbody
        rw [hreply]
        exact .noObject hsuccess hbody hkind

end

/-! ## Calls -/

namespace Endpoint

variable {σ : Type} {transport : Transport σ} {address base name : String} {timeout : Number}
  {url : Url} {payload : Fields}

/-- Is the base the address without the slashes at its end? -/
def IsBase (base address : String) : Prop :=
  ∃ slashes, address = base ++ String.ofList (List.replicate slashes '/') ∧
    base.toList.getLast? ≠ some '/'

omit [Room] in
theorem base_ofAddress (hbase : IsBase base address) : (ofAddress address timeout).base = base := by
  obtain ⟨slashes, rfl, hlast⟩ := hbase
  have hslashes : ∀ c ∈ List.replicate slashes '/', decide (c = '/') = true := fun c hmem =>
    decide_eq_true (List.eq_of_mem_replicate hmem)
  have hstays : base.toList.reverse.dropWhile (· = '/') = base.toList.reverse := by
    rw [List.getLast?_eq_head?_reverse] at hlast
    cases hreverse : base.toList.reverse with
    | nil => rfl
    | cons c rest =>
        rw [hreverse] at hlast
        refine List.dropWhile_cons_of_neg fun hslash => hlast ?_
        rw [List.head?_cons, of_decide_eq_true hslash]
  show String.ofList (List.reverse (List.dropWhile _ (List.reverse _))) = base
  rw [String.toList_append, String.toList_ofList, List.reverse_append, List.reverse_replicate,
    List.dropWhile_append_of_pos hslashes, hstays, List.reverse_reverse, String.ofList_toList]

/-- Can the payload be written as a message?  Its texts and numbers can, and it is not too deep. -/
def CanBeSent (payload : Fields) : Prop :=
  isSendable (.obj payload) = true ∧ nesting (.obj payload) < Room.depth .request

theorem writeFault?_envelope_eq_none_iff :
    writeFault? (.obj [("data", .obj payload)]) = none ↔ CanBeSent payload := by
  rw [writeFault?_singleton_eq_none_iff (by decide), and_comm, CanBeSent]

section

variable {endpoint : Endpoint} (hurl : Url.ofText? (endpoint.address name) = some url)
  (hencodable : Text.isEncodable (endpoint.address name) = true)
include hurl hencodable

theorem request?_of_canBeSent (hsent : CanBeSent payload) :
    endpoint.request? name (.obj payload) =
      .ok (.post (Url.resolve {} url) (.obj [("data", .obj payload)])) := by
  have henvelope := writeFault?_envelope_eq_none_iff.mpr hsent
  simp only [request?, hurl, Text.unencodable?_eq_none_iff.mpr hencodable, henvelope]

/-- A payload that cannot be written is refused, but not by the gateway. -/
theorem request?_of_not_canBeSent (hnot : ¬ CanBeSent payload) :
    ∃ fault, endpoint.request? name (.obj payload) = .error (.unwritten fault) := by
  obtain ⟨fault, hfault⟩ := Option.ne_none_iff_exists'.mp
    fun hnone => hnot (writeFault?_envelope_eq_none_iff.mp hnone)
  refine ⟨fault, ?_⟩
  simp only [request?, hurl, Text.unencodable?_eq_none_iff.mpr hencodable, hfault]

end

/-- What a call with a request comes to is said by the outcome of the request. -/
theorem classified_of_request {endpoint : Endpoint} {request : Http.Request} {world left : σ}
    {outcome : Except TransportFault Http.Response}
    (hrequest : endpoint.request? name (.obj payload) = .ok request)
    (houtcome : (transport request).run world = (outcome, left)) :
    ∃ answer, ((endpoint.gateway transport.noting).call name (.obj payload)).run (world, []) =
        (answer, left, [request]) ∧ (Classified name outcome answer ↔ ¬ TooDeep outcome) := by
  have hnoted : (transport.noting request).run (world, []) = (outcome, left, [request]) := by
    show (((transport request).run world).1, ((transport request).run world).2, _) = _
    rw [houtcome]
    rfl
  cases outcome with
  | error fault =>
      refine ⟨.error (.gateway (endpoint.unanswered name fault)), ?_, ?_⟩
      · simp only [gateway, hrequest]
        rw [StateT.run_bind, hnoted]
        rfl
      · refine iff_of_true (.unavailable ?_) ?_
        · cases fault <;> rfl
        · rintro ⟨_, _, hresponse, -⟩
          cases hresponse
  | ok response =>
      refine ⟨response.reply name, ?_, ?_⟩
      · simp only [gateway, hrequest]
        rw [StateT.run_bind, hnoted]
        rfl
      · by_cases hdeep : TooDeep (.ok response)
        · obtain ⟨_, container, ⟨⟩, hbody⟩ := hdeep
          rw [reply_of_tooDeep hbody]
          refine iff_of_false ?_ fun hread => hread ⟨response, container, rfl, hbody⟩
          rintro ⟨⟩
        · exact iff_of_true (classified_reply hdeep) hdeep

/-- **The outcome of a call is classified.** -/
theorem call_classified (hbase : IsBase base address)
    (hurl : Url.ofText? (base ++ "/api/" ++ name) = some url)
    (hencodable : Text.isEncodable (base ++ "/api/" ++ name) = true)
    (htidy : IsTidy (.obj payload)) (world : σ) :
    ∃ answer left requests,
      (((ofAddress address timeout).gateway transport.noting).call name (.obj payload)).run
        (world, []) = (answer, left, requests) ∧
      (CanBeSent payload → ∃ request : Http.Request, requests = [request] ∧
        request.method = "POST" ∧ request.url = Url.resolve {} url ∧
        request.contentType = some "application/json" ∧
        request.body = ((Json.obj [("data", .obj payload)]).toText .wire).toUTF8 ∧
        (∀ place, nesting (.obj [("data", .obj payload)]) ≤ Room.depth place →
          parseMessage place request.body = .ok (.obj [("data", .obj payload)])) ∧
        (Classified name ((transport request).run world).1 answer ↔
          ¬ TooDeep ((transport request).run world).1)) ∧
      (¬ CanBeSent payload → requests = [] ∧ ∀ outcome, ¬ Classified name outcome answer) := by
  have haddress : (ofAddress address timeout).address name = base ++ "/api/" ++ name := by
    rw [Endpoint.address, base_ofAddress hbase]
  rw [← haddress] at hurl hencodable
  by_cases hsent : CanBeSent payload
  · have hrequest := request?_of_canBeSent hurl hencodable hsent
    rcases houtcome : (transport (.post (Url.resolve {} url) (.obj [("data", .obj payload)]))).run
      world with ⟨outcome, left⟩
    obtain ⟨answer, hrun, hclassified⟩ := classified_of_request hrequest houtcome
    have hexact : IsExact (.obj [("data", .obj payload)]) :=
      isRegular_singleton (by decide) (isExact_of_isSendable htidy hsent.1)
    refine ⟨answer, left, _, hrun, fun _ => ⟨_, rfl, rfl, rfl, rfl, rfl,
      fun _ => parseMessage_toText hexact, ?_⟩, fun hnot => absurd hsent hnot⟩
    rw [houtcome]
    exact hclassified
  · obtain ⟨fault, hrequest⟩ := request?_of_not_canBeSent hurl hencodable hsent
    refine ⟨.error (.unwritten fault), world, [], ?_, fun hcan => absurd hcan hsent,
      fun _ => ⟨rfl, ?_⟩⟩
    · simp only [gateway, hrequest]
      rfl
    · rintro outcome (_ | _ | _ | _)

end Endpoint

end

namespace Endpoint

/-- The server where nothing is found. -/
def missing : Http.Response :=
  .ofDetail 404 (.obj [("status", .str "not-found"), ("message", .str "Save not found.")])

/-- What is not found is told as such, with the message of the server. -/
theorem call_of_missing : ∃ failure left requests,
    (((ofAddress "http://localhost:13013//" (.whole 30)).gateway
      (Transport.bringing missing).noting).call "loadGame" (.obj [])).run ((), []) =
        (.error (.gateway failure), left, requests) ∧
      failure.kind = .notFound ∧ failure.message = .str "Save not found." := by
  obtain ⟨url, hurl⟩ : ∃ url, Url.ofText? "http://localhost:13013/api/loadGame" = some url :=
    Option.isSome_iff_exists.mp (by decide +kernel)
  have hbase : IsBase "http://localhost:13013" "http://localhost:13013//" :=
    ⟨2, by decide +kernel, by decide +kernel⟩
  have htidy : IsTidy (.obj []) := ⟨List.nodup_nil, trivial⟩
  obtain ⟨answer, left, requests, hrun, hsent, -⟩ :=
    @call_classified _ Unit (Transport.bringing missing) "http://localhost:13013//"
      "http://localhost:13013" "loadGame" (.whole 30) url [] hbase hurl (by decide +kernel) htidy ()
  obtain ⟨request, -, -, -, -, -, -, hclassified⟩ := hsent ⟨by decide, by decide⟩
  have hbody : parseMessage .response missing.body = .ok (.obj [("detail",
      .obj [("status", .str "not-found"), ("message", .str "Save not found.")])]) :=
    parseMessage_toText (isExact_of_isPlain (by decide +kernel)) (by decide)
  have hread : ¬ TooDeep ((Transport.bringing missing request).run ()).1 := by
    rintro ⟨_, _, ⟨⟩, hdeep⟩
    rw [hbody] at hdeep
    cases hdeep
  rcases hclassified.mpr hread with ⟨hsuccess, -⟩ | ⟨hsuccess, -, -⟩ | ⟨-, hkind, hmessage⟩ | _
  · exact absurd hsuccess (by decide)
  · exact absurd hsuccess (by decide)
  · refine ⟨_, left, requests, hrun, ?_, ?_⟩
    · rcases hkind with ⟨hstatus, -⟩ | ⟨-, hkind⟩ | ⟨-, hstatus, -⟩
      · exact absurd hstatus (by decide)
      · exact hkind
      · exact absurd rfl hstatus
    · generalize GatewayFault.message _ = message at hmessage ⊢
      cases hmessage with
      | message hfields hdetail hmessage =>
          cases hbody.symm.trans hfields
          cases hdetail
          cases hmessage
          rfl
      | detail hfields hdetail =>
          cases hbody.symm.trans hfields
          cases hdetail
      | status hnothing => cases (hnothing _ hbody).2 _ rfl

/-- A failure of the server, with arrays in its body, each in the one before. -/
def nestedFailure (inner : Nat) : Http.Response :=
  { status := 503, body := ((nested inner).toText .wire).toUTF8 }

theorem parseMessage_nestedFailure [Room] {inner : Nat} (hdeep : Room.depth .response ≤ inner) :
    parseMessage .response (nestedFailure inner).body = .error (.text (.tooDeep .array)) :=
  parseMessage_tooDeep (isExact_nested inner) (excess?_nested hdeep)

/-- A failure of the server whose body nests three thousand deep is not told as a failure of the
gateway, nor as any other outcome that there should be. -/
theorem call_of_nested :
    (((ofAddress "http://localhost:13013" (.whole 30)).gateway
      (Transport.bringing (nestedFailure 2999))).call "getScenario" (.obj [])).run () =
        (.error (.tooDeep .array), ()) ∧
      ∀ outcome, ¬ Classified "getScenario" outcome (.error (.tooDeep .array)) := by
  obtain ⟨url, hurl⟩ : ∃ url, Url.ofText? "http://localhost:13013/api/getScenario" = some url :=
    Option.isSome_iff_exists.mp (by decide +kernel)
  have hbody : parseMessage .response (nestedFailure 2999).body =
      .error (.text (.tooDeep .array)) := parseMessage_nestedFailure (by decide)
  have hrequest := @request?_of_canBeSent _ "getScenario" url []
    (ofAddress "http://localhost:13013" (.whole 30)) hurl (by decide +kernel)
    ⟨by decide, by decide⟩
  constructor
  · simp only [gateway, hrequest]
    exact congrArg (fun answer => (answer, ())) (reply_of_tooDeep hbody)
  · rintro outcome (_ | _ | _ | _)

end Endpoint

end VisualNovel
