import VisualNovel.Client.Progress
import VisualNovel.Proofs.Record.Reading

/-!
# What a save keeps

A session can be saved if its line is not negative, and the record that is sent reads back as what
was saved, whatever the name of the player.  A reply is understood as the save that it holds
(`Json.HoldsSave`), which allows both spellings of the fields and all that is read as a whole
number; any other reply is a failure (`saveOfReply_cases`).  Restoring depends on nothing of a
session but its tenant (`restoreProgress_congr`).
-/

namespace VisualNovel

theorem Session.progress_eq {session : Session} {line : Nat} (hline : session.line = line) :
    session.progress = .ok ⟨session.player, line, none⟩ := by
  rw [progress, hline]
  rfl

/-- The fields of a save, as they are sent. -/
def SaveData.sent (player : String) (line : Nat) : Fields :=
  [("playerName", .str player), ("currentLine", .int line)]

/-- The fields of a save with the time at which it was made, as they are kept. -/
def SaveData.kept (player : String) (line : Nat) (time : String) : Fields :=
  OrderedMap.put "createdAt" (.str time) (sent player line)

theorem SaveData.toJson_fresh (player : String) (line : Nat) :
    toJson .wire ⟨player, line, none⟩ = .obj (sent player line) := by
  simp [toJson, Dump.record, Dump.wire, Dump.nameOf, Dump.optionalText, Json.int, Part.player,
    Part.line, sent]

/-- The record of a save reads back as the save. -/
theorem SaveData.read_toJson {data : SaveData} (hfresh : data.createdAt = none) :
    SaveData.read (data.toJson .wire) = .accepted data := by
  obtain ⟨player, line, _⟩ := data
  obtain rfl := hfresh
  rw [toJson_fresh]
  rfl

/-! ## Replies with a save -/

/-- Are these the fields of a save of the player at the line? -/
structure SaveData.Describes (saved : Fields) (player : String) (line : Nat) : Prop where
  player_eq : Part.player.value? saved = some (.str player)
  line_eq : ∃ value, Part.line.value? saved = some value ∧ Reader.whole value = .accepted line
  createdAt : ∀ value, Part.createdAt.value? saved = some value →
    value = .null ∨ ∃ time, value = .str time

/-- Is the value a reply that holds a save of the player at the line? -/
def Json.HoldsSave (value : Json) (player : String) (line : Nat) : Prop :=
  ∃ fields saved, value = .obj fields ∧ OrderedMap.at? "saveData" fields = some (.obj saved) ∧
    SaveData.Describes saved player line

section

variable {fields saved : Fields} {player : String} {line : Nat}

theorem SaveData.read_accepted_iff :
    (∃ created, read (.obj saved) = .accepted ⟨player, line, created⟩) ↔
      Describes saved player line := by
  have hread : ∀ created, read (.obj saved) = .accepted ⟨player, line, created⟩ ↔
      Part.player.required Reader.text saved = .accepted player ∧
        Part.line.required Reader.natural saved = .accepted line ∧
          Part.createdAt.optional none (Reader.nullable Reader.text) saved = .accepted created := by
    intro created
    simp [read, Reader.record, Checked.seq_eq_accepted_iff, Checked.map_eq_accepted_iff]
  have hcreated : (∃ created, Part.createdAt.optional none (Reader.nullable Reader.text) saved =
        .accepted created) ↔
      ∀ value, Part.createdAt.value? saved = some value →
        value = .null ∨ ∃ time, value = .str time := by
    simp only [Field.optional_eq_accepted_iff]
    cases hvalue : Part.createdAt.value? saved with
    | none => simp
    | some value =>
        simp only [reduceCtorEq, false_and, false_or, Option.some.injEq, exists_eq_left',
          forall_eq', Reader.nullable_accepted_iff, Reader.text_eq_accepted_iff]
  simp only [hread, exists_and_left, hcreated, Field.required_eq_accepted_iff,
    Reader.text_eq_accepted_iff, Reader.natural_eq_accepted_iff]
  constructor
  · rintro ⟨⟨_, hplayer, rfl⟩, hline, htime⟩
    exact ⟨hplayer, hline, htime⟩
  · rintro ⟨hplayer, hline, htime⟩
    exact ⟨⟨_, hplayer, rfl⟩, hline, htime⟩

/-- A reply is understood as the save that it holds, and one without a save is a failure of the
client itself. -/
theorem saveOfReply_cases (fields : Fields) :
    (∃ data, saveOfReply (.obj fields) = .ok data ∧
        (Json.obj fields).HoldsSave data.player data.line) ∨
      ∃ failure : GatewayFault, saveOfReply (.obj fields) = .error (.gateway failure) ∧
        failure.kind = .internal ∧ ∀ player line, ¬ (Json.obj fields).HoldsSave player line := by
  -- a save in the reply is one that is read from the field
  have hholds : ∀ player line, (Json.obj fields).HoldsSave player line →
      ∃ saved created, OrderedMap.at? "saveData" fields = some (.obj saved) ∧
        SaveData.read (.obj saved) = .accepted ⟨player, line, created⟩ := by
    rintro player line ⟨_, saved, ⟨⟩, hdata, hsaved⟩
    obtain ⟨created, hread⟩ := SaveData.read_accepted_iff.mpr hsaved
    exact ⟨saved, created, hdata, hread⟩
  have hreply : replyField "saveData" .null (.obj fields) =
      .ok ((OrderedMap.at? "saveData" fields).getD .null) := rfl
  rw [saveOfReply, hreply]
  rcases hdata : OrderedMap.at? "saveData" fields with _ | data
  · refine Or.inr ⟨_, rfl, rfl, fun player line hholding => ?_⟩
    obtain ⟨_, _, hfound, -⟩ := hholds player line hholding
    cases hdata.symm.trans hfound
  cases data with
  | obj saved =>
      rcases hread : SaveData.read (.obj saved) with data | faults
      · refine Or.inl ⟨data, ?_, fields, saved, rfl, hdata,
          SaveData.read_accepted_iff.mp ⟨data.createdAt, hread⟩⟩
        show ((SaveData.read (.obj saved)).require "SaveData").mapError _ = _
        rw [hread]
        rfl
      · refine Or.inr ⟨{ GatewayFault.internal "malformed save data" with
          cause := some (.invalid ⟨"SaveData", faults⟩) }, ?_, rfl, fun player line hholding => ?_⟩
        · show ((SaveData.read (.obj saved)).require "SaveData").mapError _ = _
          rw [hread]
          rfl
        · obtain ⟨_, _, hfound, haccepted⟩ := hholds player line hholding
          cases hdata.symm.trans hfound
          cases hread.symm.trans haccepted
  | _ =>
      refine Or.inr ⟨_, rfl, rfl, fun player line hholding => ?_⟩
      obtain ⟨_, _, hfound, -⟩ := hholds player line hholding
      cases hdata.symm.trans hfound

end

/-! ## Saving -/

/-- What is sent to save a line of a player. -/
def SaveData.request (tenant player : String) (line : Nat) : Json :=
  .obj [("tenantId", .str tenant), ("saveData", .obj (SaveData.sent player line))]

variable {σ : Type}

theorem saveProgress_eq (gateway : Gateway σ) {session : Session} {line : Nat}
    (hline : session.line = line) :
    saveProgress gateway session = do
      let reply ← gateway.call "saveGame" (SaveData.request session.tenant session.player line)
      return reply.bind codeOfReply := by
  rw [saveProgress, Session.progress_eq hline]
  simp only [SaveData.toJson_fresh]
  rfl

/-! ## Restoring -/

variable {gateway : Gateway σ} {world changed : σ} {code : String}

/-- Restoring fetches the save first and touches the session only then. -/
theorem restoreProgress_run (session : Session) :
    (restoreProgress gateway session code).run world =
      match (loadProgress gateway session.tenant code).run world with
      | (.ok data, changed) => (.ok (data, session.resumedAt data), changed)
      | (.error fault, changed) => (.error fault, changed) := by
  rcases hload : (loadProgress gateway session.tenant code).run world with
    ⟨fault | data, changed⟩ <;>
    · simp only [restoreProgress, StateT.run_bind, hload]
      rfl

/-- A save that was restored is restored in the same way over any session of the tenant. -/
theorem restoreProgress_congr {session restored : Session} {data : SaveData}
    (hrestored : (restoreProgress gateway session code).run world =
      (.ok (data, restored), changed)) (other : Session) (htenant : other.tenant = session.tenant) :
    restored = session.resumedAt data ∧
      (restoreProgress gateway other code).run world =
        (.ok (data, other.resumedAt data), changed) := by
  rw [restoreProgress_run] at hrestored
  rw [restoreProgress_run, htenant]
  rcases hload : (loadProgress gateway session.tenant code).run world with ⟨fault | found, after⟩
  · rw [hload] at hrestored
    cases hrestored
  · rw [hload] at hrestored
    cases hrestored
    exact ⟨rfl, rfl⟩

end VisualNovel
