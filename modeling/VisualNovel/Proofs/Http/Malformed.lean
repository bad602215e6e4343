import VisualNovel.Proofs.Callable.Malformed
import VisualNovel.Proofs.Http.Answers

/-!
# Which requests are turned away

A value that is posted to a callable is rejected if and only if it is malformed for the callable
(`Server.rejects_iff_malformed`).  Such a request is answered without a look at the store, so the
answer is the same in every store, and leaves it as it is: nothing is drawn.

A body that is too deep is not taken in, and the response has the status of a rejection but tells of
the body and names no kind (`Server.turned_away_otherwise`).
-/

namespace VisualNovel

open Json

namespace Http

/-- Does the response say that an argument is invalid? -/
def Response.Rejects [Room] (response : Response) : Prop :=
  response.status = 400 ∧ ∃ body detail, parseMessage .response response.body = .ok body ∧
    body.field? "detail" = some detail ∧ detail.field? "status" = some (.str "invalid-argument")

theorem rejects_rejection [Room] {reason : Rejection} (hreason : reason.kind = .invalidArgument) :
    (rejection reason).Rejects := by
  refine ⟨congrArg statusOf hreason, _, _, parseMessage_rejection reason, rfl, ?_⟩
  show some (Json.str reason.kind.word) = _
  rw [hreason]
  rfl

/-- A response that tells of the body does not say that an argument is invalid. -/
theorem not_rejects_ofDetail_text [Room] {status : Nat} {text : String}
    (hjoined : Text.isJoined text = true) : ¬ (Response.ofDetail status (.str text)).Rejects := by
  rintro ⟨-, body, detail, hbody, hdetail, hstatus⟩
  have hplain : isPlain (.str text) = true := hjoined
  rw [parseMessage_ofDetail status hplain
    (Nat.lt_of_lt_of_le (Nat.zero_lt_succ _) (Room.four_le_depth .response))] at hbody
  cases hbody
  cases hdetail
  cases hstatus

/-- A task that is done, or that fails, is not an invalid argument. -/
theorem status_respond_ne [Room] {outcome : Outcome}
    (houtcome : outcome.IsAnswer ∨ ∃ fault, outcome = .failed fault) :
    (respond outcome).status ≠ 400 := by
  have hserver : serverError.status ≠ 400 := by decide
  rcases houtcome with (htidy | _) | ⟨fault, rfl⟩
  · rw [respond]
    split
    · exact fun hstatus => absurd hstatus (by decide : (200 : Nat) ≠ 400)
    · exact hserver
  · exact (by decide : (404 : Nat) ≠ 400)
  · exact hserver

variable {server : Server} {url : Url} {callable : Callable} {value : Json}

section

variable [Room]

/-- A malformed value is turned away in one way, whatever the store is. -/
theorem Server.handle_of_malformed
    (hroute : server.route? url.served = some (.callable callable)) (hexact : IsExact value)
    (hshallow : nesting value ≤ Room.depth .body) (hmalformed : callable.Malformed value) :
    ∃ reason, reason.kind = .invalidArgument ∧
      server.handle (.post url value) = pure (rejection reason) := by
  by_cases hnull : value = .null
  · subst hnull
    have hpost : server.route? (Request.post url .null).url.served = some (.callable callable) :=
      hroute
    have hjson : (Request.post url .null).json = .error .noJson := by
      have htype : (some jsonType).any isJsonType = true := isJsonType_jsonType
      rw [Request.json, Request.post, isEmpty_toUTF8, htype, if_neg (by decide),
        parseMessage_toText hexact hshallow]
    refine ⟨.malformedPayload, rfl, ?_⟩
    rw [handle_of_route server rfl hpost, hjson]
  · obtain ⟨reason, hreason, hserve⟩ := Callable.serve_of_malformed hmalformed
    refine ⟨reason, hreason, ?_⟩
    rw [handle_post_of_isExact server hroute hexact hshallow hnull, hserve]
    rfl

theorem Server.rejects_of_malformed
    (hroute : server.route? url.served = some (.callable callable)) (hexact : IsExact value)
    (hshallow : nesting value ≤ Room.depth .body) (hmalformed : callable.Malformed value)
    (store : Store) :
    ((server.handle (.post url value)).run store).1.Rejects := by
  obtain ⟨reason, hreason, hhandle⟩ := Server.handle_of_malformed hroute hexact hshallow hmalformed
  rw [hhandle]
  exact rejects_rejection hreason

theorem Server.status_of_not_malformed
    (hroute : server.route? url.served = some (.callable callable)) (hexact : IsExact value)
    (hshallow : nesting value ≤ Room.depth .body) (hwell : ¬ callable.Malformed value)
    (store : Store) :
    ((server.handle (.post url value)).run store).1.status ≠ 400 := by
  have hsome : value ≠ .null := by
    rintro rfl
    exact hwell trivial
  rw [handle_post_of_isExact server hroute hexact hshallow hsome]
  show (respond ((callable.serve value).run store).1).status ≠ 400
  rcases callable.outcome_cases value store with ⟨htask, -⟩ | houtcome
  · exact absurd ((callable.task?_eq_none_iff value).mp htask) hwell
  · exact status_respond_ne houtcome

/-- A posted value is rejected if and only if it is malformed, unless it is too deep to be taken in.
In either case the response does not depend on the store, and leaves it as it is. -/
theorem Server.rejects_iff_malformed
    (hroute : server.route? url.served = some (.callable callable)) (hexact : IsExact value) :
    (nesting value ≤ Room.depth .body → ∀ store,
        ((server.handle (.post url value)).run store).1.Rejects ↔ callable.Malformed value) ∧
      (Room.depth .body < nesting value → server.handle (.post url value) =
        pure (.ofDetail 400 (.str "There was an error parsing the body"))) ∧
      ∀ store, ((server.handle (.post url value)).run store).1.status = 400 →
        ∃ response, server.handle (.post url value) = pure response := by
  refine ⟨fun hshallow store => ⟨fun hrejects => ?_, fun hmalformed => ?_⟩,
    handle_post_of_tooDeep server hroute hexact, fun store hstatus => ?_⟩
  · by_contra hwell
    exact Server.status_of_not_malformed hroute hexact hshallow hwell store hrejects.1
  · exact Server.rejects_of_malformed hroute hexact hshallow hmalformed store
  · by_cases hshallow : nesting value ≤ Room.depth .body
    · by_cases hmalformed : callable.Malformed value
      · obtain ⟨reason, -, hhandle⟩ := Server.handle_of_malformed hroute hexact hshallow hmalformed
        exact ⟨_, hhandle⟩
      · exact absurd hstatus
          (Server.status_of_not_malformed hroute hexact hshallow hmalformed store)
    · exact ⟨_, handle_post_of_tooDeep server hroute hexact (Nat.lt_of_not_le hshallow)⟩

end

/-- A payload that names its tenant under both names, and the one that counts is null. -/
def contradictory : Json :=
  .obj [("data", .obj [("tenant_id", .str "shop"), ("tenantId", .null),
    ("saveCode", .str "no code")])]

theorem Server.rejects_contradictory :
    (∀ store, (((Server.mk none).handle (.post (shopUrl .loadGame) contradictory)).run
        store).1.Rejects) ∧
      ∃ response, (Server.mk none).handle (.post (shopUrl .loadGame) contradictory) =
        pure response := by
  have hplain : isPlain contradictory = true := rfl
  obtain ⟨hiff, -, hstores⟩ := Server.rejects_iff_malformed
    (route?_shopUrl (Server.mk none) .loadGame) (isExact_of_isPlain hplain)
  have hmalformed : Callable.loadGame.Malformed contradictory := by
    refine .inr (.inl ⟨_, Callable.tenant_mem_arguments _, ?_⟩)
    rintro value hvalue hgives
    cases hvalue
    exact hgives
  have hrejects := fun store => (hiff (by decide) store).mpr hmalformed
  exact ⟨hrejects, hstores (Store.newWith []) (hrejects _).1⟩

/-- A value that is no object need not be rejected, if it is too deep. -/
theorem Server.turned_away_otherwise :
    Callable.getCharacters.Malformed (nested 3000) ∧
      ¬ (((Server.mk none).handle (.post (shopUrl .getCharacters) (nested 3000))).run
          (Store.newWith [])).1.Rejects := by
  have hdeep : Room.depth .body < nesting (nested 3000) := by
    rw [nesting_nested]
    decide
  refine ⟨trivial, ?_⟩
  rw [handle_post_of_tooDeep _ (route?_shopUrl _ _) (isExact_nested 3000) hdeep]
  exact not_rejects_ofDetail_text (by decide +kernel)

end Http

end VisualNovel
