import VisualNovel.Proofs.Http.Exchange
import VisualNovel.Proofs.Http.Register
import VisualNovel.Proofs.Save.Progress

/-!
# Progress that is saved is loaded

A client saves the progress of a session through a gateway to a server, and gets a code.  With this
code it loads the name of the player and the line again, and the time at which they were saved.
-/

namespace VisualNovel

open Store Json

variable {store left : Store} {tenant code player : String} {fields : List (String × Json)}

/-! ## Saving and loading -/

section

variable [Room] {endpoint : Endpoint} {server : Http.Server} {root : Path} {place : Location}
  {covered : String → Prop} {log : List Note} {session : Session} {line : Nat}

/-- Can the progress of the session be sent? -/
structure Session.Sendable (session : Session) (line : Nat) : Prop where
  tenant_key : Key.isKey session.tenant = true
  tenant_short : session.tenant.length ≤ FileTree.nameLimit
  player_encodable : Text.isEncodable session.player = true
  line_eq : session.line = line
  line_short : (Nat.toDigits 10 line).length ≤ Numeral.digitLimit

omit [Room] in
theorem portable_int {depth : Nat}
    (hline : (Nat.toDigits 10 line).length ≤ Numeral.digitLimit) : Portable (.int line) depth :=
  ⟨decide_eq_true hline, rfl, Nat.zero_le _⟩

omit [Room] in
theorem portable_sent {depth : Nat} (hplayer : Text.isEncodable player = true)
    (hline : (Nat.toDigits 10 line).length ≤ Numeral.digitLimit) :
    Portable (.obj (SaveData.sent player line)) (depth + 1) :=
  portable_put (portable_singleton (by decide : Text.isEncodable "playerName" = true)
    (portable_text hplayer)) (by decide : Text.isEncodable "currentLine" = true)
    (portable_int hline)

theorem saveProgress_run (hreaches : endpoint.Reaches) (hsendable : session.Sendable line)
    (hrecords : Records store root place covered log) (hcovered : covered "saveData") :
    ∃ left, (saveProgress (endpoint.gateway (Transport.toServer server)) session).run store =
        (.ok (.str store.nextCode), left) ∧
      Records left root place covered (((session.tenant, "saveData", store.nextCode),
        store.stamped (SaveData.sent session.player line)) :: log) := by
  have hdata : ∀ {depth}, Portable (.obj (SaveData.sent session.player line)) (depth + 1) :=
    portable_sent hsendable.player_encodable hsendable.line_short
  have hpayload : Portable (SaveData.request session.tenant session.player line) 3 :=
    portable_put (portable_singleton (by decide : Text.isEncodable "tenantId" = true)
      (portable_text (Key.isEncodable_of_isKey hsendable.tenant_key)))
      (by decide : Text.isEncodable "saveData" = true) hdata
  -- the save is made, the response holds its code, and the code is read out of the reply
  have hfits := @hdata 3
  have hstamped : (store.stamped (SaveData.sent session.player line)).nesting ≤ 4 :=
    (portable_put hfits (by decide : Text.isEncodable "createdAt" = true)
      (portable_text (isEncodable_moment store.clock))).shallow
  obtain ⟨left, hcreate, hleft⟩ := hrecords.gives_createSave hsendable.tenant_key
    hsendable.tenant_short hcovered hfits.plain (Room.stores_of_nesting_le hstamped)
  have hcode := isKey_nextCode store
  generalize store.nextCode = code at hcode hcreate hleft ⊢
  have hserve := Callable.run_serve
    (Callable.task?_saveGame (SaveData.sent session.player line) hsendable.tenant_key) store
  rw [Task.result_save, hcreate.result_eq] at hserve
  have hname : Callable.saveGame.name = "saveGame" := rfl
  have houtcome : Outcome.ofAnswer ((Except.ok code : Except StoreFault String).map
      fun code => Callable.reply "saveCode" (.str code)) =
        Callable.reply "saveCode" (.str code) := rfl
  have hcall := Endpoint.call_of_served server hreaches hpayload hserve
  have hreply : Portable (.obj [("saveCode", .str code)]) 4 :=
    portable_singleton (by decide) (portable_text (Key.isEncodable_of_isKey hcode))
  rw [hname, houtcome, Http.respond_saveCode hcode, Http.Response.reply_ofJson _ hreply.isExact
    (hreply.shallow.trans (Room.four_le_depth .response))] at hcall
  refine ⟨left, ?_, hleft⟩
  rw [saveProgress_eq _ hsendable.line_eq, SaveData.request, StateT.run_bind, hcall]
  show (Except.bind _ codeOfReply, left) = _
  have htruthy : (Json.str code).isTruthy = true := by
    rw [Key.isKey, Bool.and_eq_true] at hcode
    exact hcode.1
  simp [Except.bind, codeOfReply, replyField, htruthy, bind]

omit [Room] in
theorem portable_kept {time : String} {depth : Nat} (hplayer : Text.isEncodable player = true)
    (hline : (Nat.toDigits 10 line).length ≤ Numeral.digitLimit)
    (htime : Text.isEncodable time = true) :
    Portable (.obj (SaveData.kept player line time)) (depth + 1) :=
  portable_put (portable_sent hplayer hline) (by decide : Text.isEncodable "createdAt" = true)
    (portable_text htime)

omit [Room] in
theorem publishedFields_kept (player : String) (line : Nat) (time : String) :
    Http.publishedFields [("saveData", .obj (SaveData.kept player line time))] =
      [("saveData", .obj (SaveData.kept player line time))] := by
  have hnames : ∀ name ∈ ["saveData", "playerName", "currentLine", "createdAt"],
      name.startsWith "_sa" = false := by decide +kernel
  simp [Http.publishedFields, Http.published, SaveData.kept, OrderedMap.put, SaveData.sent, hnames,
    Json.int]

omit [Room] in
theorem saveOfReply_kept (player : String) (line : Nat) (time : String) :
    saveOfReply (.obj [("saveData", .obj (SaveData.kept player line time))]) =
      .ok ⟨player, line, some time⟩ := rfl

theorem loadProgress_run {time : String} (hreaches : endpoint.Reaches)
    (hsendable : session.Sendable line) (htime : Text.isEncodable time = true)
    (hrecords : Records store root place covered log) (hcovered : covered "saveData")
    (hcode : Key.isKey code = true) (hfits : code.length + 5 ≤ FileTree.nameLimit)
    (hlatest : OrderedMap.at? (session.tenant, "saveData", code) log =
      some (.obj (SaveData.kept session.player line time))) :
    (loadProgress (endpoint.gateway (Transport.toServer server)) session.tenant code).run store =
      (.ok ⟨session.player, line, some time⟩, store) := by
  have hpayload : Portable (.obj [("tenantId", .str session.tenant), ("saveCode", .str code)]) 3 :=
    portable_put (portable_singleton (by decide : Text.isEncodable "tenantId" = true)
      (portable_text (Key.isEncodable_of_isKey hsendable.tenant_key)))
      (by decide : Text.isEncodable "saveCode" = true)
      (portable_text (Key.isEncodable_of_isKey hcode))
  have hload := Http.result_load hrecords hsendable.tenant_key hsendable.tenant_short hfits hcovered
    fun data hdata => by
      rw [hlatest] at hdata
      cases hdata
      exact Json.noConfusion
  -- the save nests three levels deep, and there is room for four
  have hkept := @portable_kept session.player line time 2 hsendable.player_encodable
    hsendable.line_short htime
  have hread : reread .document (.obj (SaveData.kept session.player line time)) =
      .ok (.obj (SaveData.kept session.player line time)) :=
    reread_of_nesting_le (hkept.shallow.trans
      ((by decide : 3 ≤ 4).trans (Room.four_le_depth .document)))
  rw [hlatest, Http.found, hread] at hload
  have hserve := Callable.run_serve (Callable.task?_loadGame hsendable.tenant_key
    (Callable.ne_empty_of_isKey hcode)) store
  rw [hload] at hserve
  have hportable := portable_singleton (by decide : Text.isEncodable "saveData" = true) hkept
  rw [← publishedFields_kept] at hportable
  have hreply := Http.reply_respond "loadGame" hportable.isExact
    (Room.sends_of_nesting_le hportable.shallow) hportable.sendable
    (hportable.shallow.trans (Room.four_le_depth .response))
  rw [publishedFields_kept] at hreply
  have hname : Callable.loadGame.name = "loadGame" := rfl
  have houtcome : Outcome.ofAnswer ((Except.ok (.obj (SaveData.kept session.player line time)) :
      Except StoreFault Json).map (Callable.reply "saveData")) =
        .answered (.obj [("saveData", .obj (SaveData.kept session.player line time))]) := rfl
  have hcall := Endpoint.call_of_served server hreaches hpayload hserve
  rw [hname, houtcome, hreply] at hcall
  rw [loadProgress, StateT.run_bind, hcall]
  show (saveOfReply _, store) = _
  rw [saveOfReply_kept]

/-- A session that is saved is loaded with the code that comes back. -/
theorem loadProgress_of_saveProgress {moment : Moment} (later : Moment)
    (hreaches : endpoint.Reaches) (hsendable : session.Sendable line)
    (hrecords : Records store root place covered log) (hcovered : covered "saveData") :
    ∃ code left, (saveProgress (endpoint.gateway (Transport.toServer server)) session).run
          { store with clock := moment } = (.ok (.str code), left) ∧
        (loadProgress (endpoint.gateway (Transport.toServer server)) session.tenant code).run
          { left with clock := later } =
            (.ok ⟨session.player, line, some moment.text⟩, { left with clock := later }) := by
  obtain ⟨left, hsave, hleft⟩ :=
    saveProgress_run hreaches hsendable (hrecords.atMoment moment) hcovered
  have hcode := isKey_nextCode { store with clock := moment }
  have hlength := length_nextCode { store with clock := moment }
  generalize ({ store with clock := moment } : Store).nextCode = code at hsave hleft hcode hlength
  refine ⟨code, left, hsave, loadProgress_run hreaches hsendable (isEncodable_moment moment)
    (hleft.atMoment later) hcovered hcode ?_ ?_⟩
  · rw [hlength]
    decide
  · exact if_pos rfl

end

/-! ## The register -/

namespace Http

/-- A request of a shop to a callable, with one more argument. -/
def Request.ofShop (callable : Callable) (name : String) (argument : Json) : Request :=
  .post (shopUrl callable) (.obj [("data", .obj [("tenantId", .str "shop"), (name, argument)])])

theorem isPlain_ofShop {name : String} {argument : Json} (hname : name ∈ ["saveData", "saveCode"])
    (hplain : isPlain argument = true) :
    isPlain (.obj [("data", .obj [("tenantId", .str "shop"), (name, argument)])]) = true := by
  have hnames : ∀ name ∈ ["saveData", "saveCode"],
      Text.isJoined name = true ∧ ["tenantId", name].Nodup := by decide +kernel
  have hpayload : isPlain (.obj [("tenantId", .str "shop"), (name, argument)]) = true := by
    refine isPlain_obj_iff.mpr ⟨(hnames name hname).2, List.forall_mem_cons.mpr
      ⟨by decide +kernel, List.forall_mem_singleton.mpr ⟨(hnames name hname).1, hplain⟩⟩⟩
  have hdata : Text.isJoined "data" = true := by decide +kernel
  exact isPlain_obj_iff.mpr ⟨List.nodup_singleton _,
    List.forall_mem_singleton.mpr ⟨hdata, hpayload⟩⟩

theorem nesting_ofShop (name : String) (argument : Json) :
    nesting (.obj [("data", .obj [("tenantId", .str "shop"), (name, argument)])]) =
      nesting argument + 2 := by
  simp [nesting, fieldsNesting]

theorem Server.task?_ofShop [Room] (server : Server) (callable : Callable) {name : String}
    {argument : Json} (hname : name ∈ ["saveData", "saveCode"]) (hplain : isPlain argument = true)
    (hshallow : nesting argument ≤ 2) :
    server.task? (.ofShop callable name argument) = callable.task?
      (.obj [("data", .obj [("tenantId", .str "shop"), (name, argument)])]) := by
  have hroute : server.route? (Request.ofShop callable name argument).url.served =
      some (.callable callable) := by
    rw [← route?_name server callable, ← served_shopUrl]
    rfl
  refine Server.task?_post hroute (isPlain_ofShop hname hplain)
    (Nat.le_trans ?_ (Room.four_le_depth .body))
  rw [nesting_ofShop]
  exact Nat.add_le_add_right hshallow 2

/-- The visit of a shop to make a save. -/
def saveOfShop (data : Fields) : Visit :=
  ⟨⟨2024, 1, 1, 0, 0, 0, 0⟩, .ofShop .saveGame "saveData" (.obj data)⟩

/-- Can the shop make a save of the data, as far as they go? -/
structure FitForShop (data : Fields) : Prop where
  plain : isPlain (.obj data) = true
  shallow : nesting (.obj data) ≤ 2

theorem FitForShop.nesting_put_le {data : Fields} (hdata : FitForShop data) (time : String) :
    nesting (.obj (OrderedMap.put "createdAt" (.str time) data)) ≤ 4 := by
  have hput : fieldsNesting (OrderedMap.put "createdAt" (.str time) data) ≤
      max (fieldsNesting data) 0 := fieldsNesting_put ..
  have hfields : fieldsNesting data + 1 ≤ 2 := hdata.shallow
  show _ + 1 ≤ 4
  omega

theorem FitForShop.found_eq [Room] {data : Fields} (hdata : FitForShop data) (time : String) :
    found (some (.obj (OrderedMap.put "createdAt" (.str time) data))) =
      .ok (Callable.reply "saveData" (.obj (OrderedMap.put "createdAt" (.str time) data))) := by
  rw [found, reread_of_nesting_le
    ((hdata.nesting_put_le time).trans (Room.four_le_depth .document))]
  rfl

theorem task?_saveOfShop [Room] {data : Fields} (hdata : FitForShop data) :
    (Server.mk none).task? (saveOfShop data).request = some ("shop", .save data) := by
  rw [saveOfShop, Server.task?_ofShop _ _ (by decide) hdata.plain hdata.shallow]
  exact Callable.task?_saveGame data (by decide)

theorem task?_loadOfShop [Room] (hjoined : Text.isJoined code = true) (hcode : code ≠ "") :
    (Server.mk none).task? (.ofShop .loadGame "saveCode" (.str code)) =
      some ("shop", .load code) := by
  have hplain : isPlain (.str code) = true := hjoined
  rw [Server.task?_ofShop _ _ (by decide) hplain (Nat.zero_le 2)]
  exact Callable.task?_loadGame (by decide) hcode

/-- The register of a new store after the save of the shop. -/
def registerOfShop [Room] (data : Fields) : Register :=
  (Server.mk none).visitAll { store := newWith [] } [saveOfShop data]

theorem savesPlain_saveOfShop [Room] {data : Fields} (hdata : FitForShop data) :
    ∀ visit ∈ [saveOfShop data], (Server.mk none).SavesPlain visit := by
  refine List.forall_mem_singleton.mpr fun tenant found hfound => ?_
  rw [task?_saveOfShop hdata] at hfound
  cases hfound
  exact hdata.plain

/-- In a new store the save of the shop is accepted, under the code that is drawn without draws. -/
theorem saves_registerOfShop [Room] {data : Fields} (hdata : FitForShop data) :
    (registerOfShop data).saves =
      [(("shop", "saveData", "AAAAAAAA"), .obj (OrderedMap.put "createdAt"
        (.str "2024-01-01T00:00:00+00:00") data))] := by
  have hcode : (newWith []).nextCode = "AAAAAAAA" := by decide +kernel
  have htime : (saveOfShop data).moment.text = "2024-01-01T00:00:00+00:00" := by
    show Moment.text ⟨2024, 1, 1, 0, 0, 0, 0⟩ = _
    decide +kernel
  have hsaves := @Server.saves_visit _ (Server.mk none) "shop" _ _ (fun name => name = "saveData")
    { store := newWith [] } (saveOfShop data) data records_newWith (task?_saveOfShop hdata)
    (by decide) rfl hdata.plain (Room.stores_of_nesting_le (hdata.nesting_put_le _))
  rw [registerOfShop, Server.visitAll_cons, Server.visitAll_nil, hsaves, hcode, htime]

theorem fitForShop_line : FitForShop [("line", .int 1)] :=
  ⟨by decide +kernel, by decide⟩

theorem records_registerOfShop [Room] {data : Fields} (hdata : FitForShop data) :
    Records (registerOfShop data).store (Path.ofText "data") ["data", "tenants"]
      (fun name => name = "saveData") (registerOfShop data).saves :=
  Server.records_visitAll records_newWith (savesPlain_saveOfShop hdata)

theorem latest_registerOfShop [Room] {data : Fields} (hdata : FitForShop data) :
    OrderedMap.at? ("shop", "saveData", "AAAAAAAA") (registerOfShop data).saves =
      some (.obj (OrderedMap.put "createdAt" (.str "2024-01-01T00:00:00+00:00") data)) := by
  rw [saves_registerOfShop hdata]
  rfl

theorem result_loadOfShop [Room] {data : Fields} (hdata : FitForShop data) :
    result ((Task.load "AAAAAAAA").action "shop") (registerOfShop data).store =
      (found (some (.obj (OrderedMap.put "createdAt" (.str "2024-01-01T00:00:00+00:00") data))),
        (registerOfShop data).store) := by
  have hlatest := latest_registerOfShop hdata
  have hobject : ∀ found, OrderedMap.at? ("shop", "saveData", "AAAAAAAA")
      (registerOfShop data).saves = some found → found ≠ .null := by
    intro found hfound
    rw [hlatest] at hfound
    cases hfound
    exact Json.noConfusion
  have hload := result_load (records_registerOfShop hdata) (by decide : Key.isKey "shop" = true)
    (by decide) (by decide : "AAAAAAAA".length + 5 ≤ FileTree.nameLimit) rfl hobject
  rw [hlatest] at hload
  exact hload

theorem handle_loadOfShop [Room] {data : Fields} (hdata : FitForShop data) :
    (((Server.mk none).handle (.ofShop .loadGame "saveCode" (.str "AAAAAAAA"))).run
        (registerOfShop data).store).1 =
      loaded (some (.obj
        (OrderedMap.put "createdAt" (.str "2024-01-01T00:00:00+00:00") data))) := by
  rw [Server.run_handle (task?_loadOfShop (by decide) (by decide)), result_loadOfShop hdata,
    ← respond_found]

theorem status_loadOfShop_empty [Room] (store : Store) :
    (((Server.mk none).handle (.ofShop .loadGame "saveCode" (.str ""))).run store).1.status =
      400 := by
  have hshallow : nesting (.obj [("data",
      .obj [("tenantId", .str "shop"), ("saveCode", .str "")])]) ≤ Room.depth .body := by
    rw [nesting_ofShop]
    exact (by decide : 0 + 2 ≤ 4).trans (Room.four_le_depth .body)
  rw [Request.ofShop, handle_post _ (served_shopUrl .loadGame)
    (isPlain_ofShop (by decide) (by decide)) hshallow rfl]
  rfl

end Http

end VisualNovel
