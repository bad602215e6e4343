import VisualNovel.Gateway.Scripted
import VisualNovel.Proofs.Client.Gateways

/-!
# Restoring all of a save or nothing

A session is taken to a save by a single call.  If the reply holds a save of a player at a line,
then these two parts of the session are set and the others are kept.  If it does not, or if the
gateway fails, then the session stays as it is (`restoreProgress_atomic`).

A save is examined field by field, but no field reaches the session before all of them are accepted:
what is made of a reply is all of a save already (`saveOfReply_cases`).

A session that is answered cannot be set in part.  So this is said of restoring in place as well,
where the session is a part of the state and its parts are set one after the other
(`restoreInPlace`).
-/

namespace VisualNovel

/-! ## The calls that are made -/

/-- The gateway, with a note of all calls. -/
def Gateway.noting {σ : Type} (gateway : Gateway σ) : Gateway (σ × List (String × Json)) where
  call name payload := do
    let (world, calls) ← get
    let (reply, changed) := (gateway.call name payload).run world
    set (changed, calls ++ [(name, payload)])
    return reply

/-- What is sent to fetch a save. -/
def SaveCode.request (tenant code : String) : Json :=
  .obj [("tenantId", .str tenant), ("saveCode", .str code)]

/-- The session after it was to be taken to a save: the one at the place of the save, or the
session as it was. -/
def Session.after (session : Session) : Except ClientFault (SaveData × Session) → Session
  | .ok (_, taken) => taken
  | .error _ => session

/-- Take the session that is a part of the state to the place of a save.  The player is set first
and the line then, and what has been set is not taken back by a failure. -/
def restoreInPlace {σ : Type} (gateway : Gateway σ) (code : String) :
    ExceptT ClientFault (StateM (Session × σ)) SaveData := do
  let (session, _) ← get
  let outside := gateway.within Prod.snd fun world state => (state.1, world)
  let data ← ExceptT.mk (loadProgress outside session.tenant code)
  modify fun (session, world) => ({ session with player := data.player }, world)
  modify fun (session, world) => ({ session with line := data.line }, world)
  return data

section

variable {σ : Type} {world changed : σ} {session : Session} {code : String}
variable {reply : Except ClientFault Json}

/-- Restoring makes one call, and what it comes to is in the reply. -/
theorem restoreProgress_of_call {gateway : Gateway σ}
    (hcall : (gateway.call "loadGame" (SaveCode.request session.tenant code)).run world =
      (reply, changed)) :
    (restoreProgress gateway session code).run world =
      ((reply.bind saveOfReply).map fun data => (data, session.resumedAt data), changed) := by
  have hload : (loadProgress gateway session.tenant code).run world =
      (reply.bind saveOfReply, changed) := by
    have hbind := StateT.run_bind (gateway.call "loadGame" (SaveCode.request session.tenant code))
      (fun reply => pure (reply.bind saveOfReply)) world
    rw [hcall] at hbind
    exact hbind
  rw [restoreProgress_run, hload]
  cases reply.bind saveOfReply <;> rfl

theorem restoreInPlace_run {gateway : Gateway σ}
    {outcome : Except ClientFault (SaveData × Session)}
    (hrun : (restoreProgress gateway session code).run world = (outcome, changed)) :
    (restoreInPlace gateway code).run.run (session, world) =
      (outcome.map Prod.fst, session.after outcome, changed) := by
  rw [restoreProgress_run] at hrun
  let outside := gateway.within Prod.snd fun world (state : Session × σ) => (state.1, world)
  have hload : (loadProgress outside session.tenant code).run (session, world) =
      (((loadProgress gateway session.tenant code).run world).1, session,
        ((loadProgress gateway session.tenant code).run world).2) := rfl
  show StateT.run (ExceptT.run (ExceptT.mk (loadProgress outside session.tenant code) >>= _)) _ = _
  rw [ExceptT.run_bind, StateT.run_bind, ExceptT.run_mk, hload]
  rcases hloaded : (loadProgress gateway session.tenant code).run world with
    ⟨fault | data, left⟩ <;>
    · rw [hloaded] at hrun
      cases hrun
      rfl

/-- A session is taken to a save by one call, and by all of the save or by nothing.

If the gateway fails, then restoring fails in the same way; if the reply holds no save, then it is
an internal failure of the client.  In both cases the session stays as it is.  Otherwise the reply
holds a save of the player and the line that the session has afterwards, and the other parts of the
session are those of before.  All of this is so in place, too. -/
theorem restoreProgress_atomic {gateway : Gateway σ}
    (hcall : (gateway.call "loadGame" (SaveCode.request session.tenant code)).run world =
      (reply, changed)) (horderly : IsOrderly reply) :
    ∃ outcome, (restoreProgress gateway session code).run world = (outcome, changed) ∧
      (restoreProgress gateway.noting session code).run (world, []) =
        (outcome, changed, [("loadGame", SaveCode.request session.tenant code)]) ∧
      (restoreInPlace gateway code).run.run (session, world) =
        (outcome.map Prod.fst, session.after outcome, changed) ∧
      (∀ fault, outcome = .error fault → session.after outcome = session ∧
        ∃ failure, fault = .gateway failure ∧
          (reply = .error (.gateway failure) ∨
            failure.kind = .internal ∧ ∃ value, reply = .ok value ∧
              ∀ player line, ¬ value.HoldsSave player line)) ∧
      ∀ data taken, outcome = .ok (data, taken) →
        session.after outcome = { session with player := data.player, line := (data.line : Int) } ∧
          ∃ value, reply = .ok value ∧ value.HoldsSave data.player data.line := by
  have hnoted : (gateway.noting.call "loadGame" (SaveCode.request session.tenant code)).run
      (world, []) = (reply, changed, [("loadGame", SaveCode.request session.tenant code)]) := by
    show (((gateway.call "loadGame" _).run world).1, ((gateway.call "loadGame" _).run world).2, _) =
      _
    rw [hcall]
    rfl
  -- the three ways to run it are one and the same function of the reply
  have hruns : ∀ outcome,
      ((reply.bind saveOfReply).map fun data => (data, session.resumedAt data)) = outcome →
        (restoreProgress gateway session code).run world = (outcome, changed) ∧
          (restoreProgress gateway.noting session code).run (world, []) =
            (outcome, changed, [("loadGame", SaveCode.request session.tenant code)]) ∧
          (restoreInPlace gateway code).run.run (session, world) =
            (outcome.map Prod.fst, session.after outcome, changed) := by
    rintro _ rfl
    have hplain := restoreProgress_of_call hcall
    exact ⟨hplain, restoreProgress_of_call hnoted, restoreInPlace_run hplain⟩
  rcases horderly.cases with ⟨fields, rfl⟩ | ⟨failure, rfl⟩
  · rcases saveOfReply_cases fields with ⟨data, hdata, hholds⟩ | ⟨failure, hfailure, hkind, hnone⟩
    · obtain ⟨hplain, hnoting, hplace⟩ := hruns _ (congrArg (Except.map _) hdata)
      refine ⟨_, hplain, hnoting, hplace, nofun, ?_⟩
      rintro _ _ ⟨⟩
      exact ⟨rfl, _, rfl, hholds⟩
    · obtain ⟨hplain, hnoting, hplace⟩ := hruns _ (congrArg (Except.map _) hfailure)
      refine ⟨_, hplain, hnoting, hplace, ?_, nofun⟩
      rintro _ ⟨⟩
      exact ⟨rfl, failure, rfl, Or.inr ⟨hkind, _, rfl, hnone⟩⟩
  · obtain ⟨hplain, hnoting, hplace⟩ := hruns _ rfl
    refine ⟨_, hplain, hnoting, hplace, ?_, nofun⟩
    rintro _ ⟨⟩
    exact ⟨rfl, failure, rfl, Or.inl rfl⟩

/-- A rehearsal with one reply, in the spelling that is not the one of messages, and with the line
as a text. -/
def Rehearsal.ofAria : Rehearsal where
  replies := [("loadGame", [.ok (.obj [("saveData",
    .obj [("player_name", .str "Aria"), ("current_line", .str " 07.0"), ("mood", .null)])])])]

/-- The save of a rehearsal is restored by one call, and takes the session to its place. -/
theorem restoreProgress_ofAria :
    ∃ outcome left calls answer,
      (restoreProgress Rehearsal.gateway.noting { tenant := "demo", player := "Before", line := 3 }
          "Xy12AbCd").run (Rehearsal.ofAria, []) = (outcome, left, calls) ∧
        calls = [("loadGame", SaveCode.request "demo" "Xy12AbCd")] ∧
        (restoreInPlace Rehearsal.gateway "Xy12AbCd").run.run
            ({ tenant := "demo", player := "Before", line := 3 }, Rehearsal.ofAria) =
          (answer, { tenant := "demo", player := "Aria", line := 7 }, left) := by
  let session : Session := { tenant := "demo", player := "Before", line := 3 }
  have hcall : (Rehearsal.gateway.call "loadGame" (SaveCode.request session.tenant "Xy12AbCd")).run
      Rehearsal.ofAria = (.ok _, _) := rfl
  obtain ⟨outcome, hrun, hnoted, hplace, -, hrestored⟩ := restoreProgress_atomic hcall trivial
  have houtcome : outcome =
      .ok (⟨"Aria", 7, none⟩, { tenant := "demo", player := "Aria", line := 7 }) :=
    (congrArg Prod.fst hrun).symm.trans (by decide +kernel)
  rw [(hrestored _ _ houtcome).1] at hplace
  exact ⟨outcome, _, _, _, hnoted, rfl, hplace⟩

end

end VisualNovel
