import VisualNovel.Gateway.Scripted
import VisualNovel.Proofs.OrderedMap
import VisualNovel.Proofs.Save.Progress
import VisualNovel.Proofs.Story.Calls

/-!
# Restoring a save over a story that was played

Restoring changes the name and the line of a session and leaves its stage alone; the stage is
for the start to rebuild.  After the first line the start does so, and nothing of the past is
left.  On the first line it does not: the story goes on from the stage that is there.

It can be said exactly when the past is erased all the same (`start_sameOutcome_iff`).  This is
decided by the *opening* of the script alone: replaying it must bring the old stage and the empty
one to the same stage, and tell the same on the way.

Two facts make the condition exact.

* The events that are told of the stage while commands are carried out are those of the replay
  (`filter_events_carryOut`), so a difference in the replay is seen in the story.
* The old stage has all the characters that the empty one has (`Covers`), and replaying keeps
  this.  Hence the old stage tells of every departure that the empty one tells of, and if the two
  tell equally much, then command by command.
-/

namespace VisualNovel

/-! ## Fuller stages -/

namespace Stage

variable {catalog : Catalog} {resolver : Resolver} {fuller emptier : Stage}

/-- Does the first stage have all characters of the second one? -/
def Covers (fuller emptier : Stage) : Prop :=
  ∀ character ∈ OrderedMap.keys emptier.portraits, character ∈ OrderedMap.keys fuller.portraits

theorem covers_empty (stage : Stage) : stage.Covers empty := by
  intro character hmem
  cases hmem

/-- A command keeps the first stage fuller, and tells of it whatever it tells of the second
one. -/
theorem Covers.apply (hcovers : fuller.Covers emptier) (catalog : Catalog) (resolver : Resolver)
    (command : Command) :
    (fuller.apply catalog resolver command).1.Covers (emptier.apply catalog resolver command).1 ∧
      ∀ event, (emptier.apply catalog resolver command).2 = some event →
        (fuller.apply catalog resolver command).2 = some event := by
  unfold Stage.apply
  cases command.instruction with
  | changeBackground background => exact ⟨hcovers, fun event => id⟩
  | showCharacter character expression position =>
      refine ⟨?_, fun event => id⟩
      intro other hmem
      simp only [follow, OrderedMap.mem_keys_put] at hmem ⊢
      exact hmem.imp_right (hcovers other)
  | hideCharacter character =>
      simp only [follow]
      cases hemptier : OrderedMap.at? character emptier.portraits with
      | none =>
          -- the character may leave the fuller stage, which the emptier one never had
          have habsent := OrderedMap.at?_eq_none_iff.mp hemptier
          cases hfuller : OrderedMap.at? character fuller.portraits with
          | none => exact ⟨hcovers, fun event => id⟩
          | some portrait =>
              refine ⟨?_, by simp⟩
              intro other hmem
              simp only [OrderedMap.mem_keys_remove]
              refine ⟨?_, hcovers other hmem⟩
              rintro rfl
              exact habsent hmem
      | some portrait =>
          have hthere : OrderedMap.at? character fuller.portraits ≠ none :=
            OrderedMap.mem_keys_iff.mp (hcovers character (OrderedMap.mem_keys_of_at? hemptier))
          cases hfuller : OrderedMap.at? character fuller.portraits with
          | none => exact absurd hfuller hthere
          | some other =>
              refine ⟨?_, fun event => id⟩
              intro other hmem
              simp only [OrderedMap.mem_keys_remove] at hmem ⊢
              exact ⟨hmem.1, hcovers other hmem.2⟩
  | say speaker text => exact ⟨hcovers, fun event => id⟩
  | showImage image => exact ⟨hcovers, fun event => id⟩
  | hideImage => exact ⟨hcovers, fun event => id⟩
  | unknown => exact ⟨hcovers, fun event => id⟩

/-- Of a fuller stage at least as much is told. -/
theorem Covers.length_events_le (hcovers : fuller.Covers emptier) (catalog : Catalog)
    (resolver : Resolver) (commands : List Command) :
    (emptier.applyAll catalog resolver commands).2.length ≤
      (fuller.applyAll catalog resolver commands).2.length := by
  induction commands generalizing fuller emptier with
  | nil => exact Nat.le_refl _
  | cons command rest ih =>
      obtain ⟨hnext, htold⟩ := hcovers.apply catalog resolver command
      have hrest := ih hnext
      simp only [applyAll_cons, List.length_append]
      cases hevent : (emptier.apply catalog resolver command).2 with
      | none => simp only [Option.toList_none, List.length_nil]; omega
      | some event =>
          rw [htold event hevent]
          simp only [Option.toList_some, List.length_cons, List.length_nil]
          omega

/-- If replaying some commands ends alike for two stages, the first of which is fuller, then so
it does command by command. -/
theorem Covers.apply_of_applyAll_eq (hcovers : fuller.Covers emptier) {command : Command}
    {rest : List Command}
    (heq : fuller.applyAll catalog resolver (command :: rest) =
      emptier.applyAll catalog resolver (command :: rest)) :
    (fuller.apply catalog resolver command).2 = (emptier.apply catalog resolver command).2 ∧
      (fuller.apply catalog resolver command).1.applyAll catalog resolver rest =
        (emptier.apply catalog resolver command).1.applyAll catalog resolver rest := by
  obtain ⟨hnext, htold⟩ := hcovers.apply catalog resolver command
  have hlength := hnext.length_events_le catalog resolver rest
  rw [applyAll_cons, applyAll_cons, Prod.mk.injEq] at heq
  obtain ⟨hstage, hevents⟩ := heq
  have hevent : (fuller.apply catalog resolver command).2 =
      (emptier.apply catalog resolver command).2 := by
    cases hemptier : (emptier.apply catalog resolver command).2 with
    | some event => exact htold event hemptier
    | none =>
        cases hfuller : (fuller.apply catalog resolver command).2 with
        | none => rfl
        | some event =>
            have hcount := congrArg List.length hevents
            rw [hemptier, hfuller] at hcount
            simp only [Option.toList_some, Option.toList_none, List.length_append,
              List.length_cons, List.length_nil] at hcount
            omega
  rw [hevent] at hevents
  exact ⟨hevent, Prod.ext hstage (List.append_cancel_left hevents)⟩

end Stage

/-! ## What is told of the stage -/

/-- Does the event tell of a change of the stage? -/
def Event.isOfStage : Event → Bool
  | .background _ _ => true
  | .portraitShown _ _ _ _ => true
  | .portraitHidden _ => true
  | _ => false

theorem Stage.isOfStage_of_apply {catalog : Catalog} {resolver : Resolver} {stage : Stage}
    {command : Command} {event : Event}
    (hevent : (stage.apply catalog resolver command).2 = some event) : event.isOfStage = true := by
  unfold Stage.apply at hevent
  cases hinstruction : command.instruction with
  | hideCharacter character =>
      simp only [hinstruction, follow] at hevent
      split at hevent
      · cases hevent
      · cases hevent
        rfl
  | _ =>
      simp only [hinstruction, follow] at hevent
      cases hevent <;> rfl

namespace Session

variable {resolver : Resolver}

theorem filter_events_execute (session : Session) (line : Int) (command : Command) :
    (session.execute resolver line command).2.events.filter Event.isOfStage =
      (session.stage.apply session.catalog resolver command).2.toList := by
  cases hchanges : command.instruction.changesStage with
  | true =>
      rw [execute_events_of_changesStage session line hchanges]
      cases hevent : (session.stage.apply session.catalog resolver command).2 with
      | none => rfl
      | some event =>
          simp [Stage.isOfStage_of_apply hevent]
  | false =>
      rw [Stage.apply_of_not_changesStage hchanges]
      unfold execute
      cases hinstruction : command.instruction <;>
        simp_all [Instruction.changesStage, dialogue, Event.isOfStage]

/-- What is told of the stage while commands are carried out is what replaying them tells. -/
theorem filter_events_carryOut (session : Session) (commands : List Command) :
    (session.carryOut resolver commands).2.events.filter Event.isOfStage =
      (session.stage.applyAll session.catalog resolver commands).2 := by
  induction commands generalizing session with
  | nil => rfl
  | cons command rest ih =>
      rw [carryOut_cons, Stage.applyAll_cons, past_eq]
      simp only [Report.events_append, List.filter_append, filter_events_execute, ih]

/-- A silent command that tells the same of two stages tells the same altogether. -/
theorem execute_report_congr {session : Session} {stage : Stage} {command : Command} (line : Int)
    (hsilent : command.instruction.pauses = false)
    (hevent : (session.stage.apply session.catalog resolver command).2 =
      (stage.apply session.catalog resolver command).2) :
    (session.execute resolver line command).2 =
      ({ session with stage := stage }.execute resolver line command).2 := by
  unfold Stage.apply at hevent
  unfold execute
  cases hinstruction : command.instruction <;>
    simp_all [Instruction.pauses]

/-- Carrying out the opening from a fuller stage tells the same as from another one if replaying
it does. -/
theorem carryOut_congr_of_applyAll_eq {session : Session} {stage : Stage}
    {upcoming : List Command} (hcovers : session.stage.Covers stage)
    (heq : session.stage.applyAll session.catalog resolver (Command.opening upcoming) =
      stage.applyAll session.catalog resolver (Command.opening upcoming)) :
    session.carryOut resolver (Command.opening upcoming) =
      { session with stage := stage }.carryOut resolver (Command.opening upcoming) := by
  induction upcoming generalizing session stage with
  | nil =>
      have hstage : session.stage = stage := congrArg Prod.fst heq
      rw [← hstage]
  | cons command rest ih =>
      cases hpauses : command.instruction.pauses with
      | true =>
          -- a pausing command leaves the stages alone, so they are the same already
          rw [Command.opening_cons_of_pauses hpauses, Stage.applyAll_cons, Stage.applyAll_cons,
            Stage.apply_of_not_changesStage (Instruction.changesStage_of_pauses hpauses),
            Stage.apply_of_not_changesStage (Instruction.changesStage_of_pauses hpauses)] at heq
          have hstage : session.stage = stage := congrArg Prod.fst heq
          rw [← hstage]
      | false =>
          rw [Command.opening_cons_of_silent hpauses] at heq ⊢
          obtain ⟨hevent, hrest⟩ := hcovers.apply_of_applyAll_eq heq
          have hreport := execute_report_congr session.line hpauses hevent
          have hnext := (hcovers.apply session.catalog resolver command).1
          have hmoved := @ih { session with
            line := session.line + 1
            stage := (session.stage.apply session.catalog resolver command).1 } _ hnext hrest
          simp only at hmoved
          rw [carryOut_cons, carryOut_cons, past_eq, past_eq, hreport, hmoved]

end Session

/-! ## Starting from an old stage -/

namespace Interpreter

/-- Do two calls tell the player the same, and leave the line, the phase and the stage the
same? -/
structure SameOutcome (first second : Interpreter × Report) : Prop where
  events_eq : first.2.events = second.2.events
  line_eq : first.1.session.line = second.1.session.line
  phase_eq : first.1.phase = second.1.phase
  stage_eq : first.1.session.stage = second.1.session.stage

theorem SameOutcome.of_eq {first second : Interpreter × Report} (heq : first = second) :
    SameOutcome first second := by
  rw [heq]
  exact ⟨rfl, rfl, rfl, rfl⟩

/-- The story with nothing on its stage. -/
def cleared (story : Interpreter) : Interpreter :=
  { story with session := { story.session with stage := Stage.empty } }

theorem filter_events_follow (story : Interpreter) (upcoming : List Command) :
    (story.follow upcoming).2.events.filter Event.isOfStage =
      (story.session.stage.applyAll story.session.catalog story.resolver
        (Command.opening upcoming)).2 := by
  rw [follow_eq_carryOut, ← Session.filter_events_carryOut]
  cases Command.anyPauses upcoming <;> simp [Event.isOfStage]

/-- Carrying out commands on the old stage comes out as on the empty one if and only if
replaying their opening does. -/
theorem follow_sameOutcome_iff (story : Interpreter) (upcoming : List Command) :
    SameOutcome (story.follow upcoming) (story.cleared.follow upcoming) ↔
      story.session.stage.applyAll story.session.catalog story.resolver
          (Command.opening upcoming) =
        Stage.empty.applyAll story.session.catalog story.resolver
          (Command.opening upcoming) := by
  constructor
  · -- the stage is left by the replay, and what is told of it is told by the replay
    intro hsame
    have hstage := hsame.stage_eq
    rw [follow_session, follow_session, Session.run_session, Session.run_session] at hstage
    have hevents := congrArg (List.filter Event.isOfStage) hsame.events_eq
    rw [filter_events_follow, filter_events_follow] at hevents
    exact Prod.ext hstage hevents
  · intro heq
    have hcarryOut :=
      Session.carryOut_congr_of_applyAll_eq (Stage.covers_empty story.session.stage) heq
    apply SameOutcome.of_eq
    rw [follow_eq_carryOut, follow_eq_carryOut, hcarryOut]
    rfl

/-- Starting a story comes out as on an empty stage if and only if it starts after the first
line, or replaying the opening of the script does. -/
theorem start_sameOutcome_iff {story : Interpreter} (hidle : story.phase = .idle)
    (hnonneg : 0 ≤ story.session.line) :
    SameOutcome story.start story.cleared.start ↔
      0 < min story.session.line story.session.commands.length ∨
        story.session.stage.applyAll story.session.catalog story.resolver
            (Command.opening story.session.commands) =
          Stage.empty.applyAll story.session.catalog story.resolver
            (Command.opening story.session.commands) := by
  by_cases hpos : 0 < story.placed.session.line
  · -- the stage is rebuilt from the empty one, so nothing of it is read
    have hsame : SameOutcome story.start story.cleared.start := by
      apply SameOutcome.of_eq
      have hcleared : 0 < story.cleared.placed.session.line := hpos
      rw [start_of_pos hpos, start_of_pos hcleared]
      rfl
    exact iff_of_true hsame (Or.inl hpos)
  · -- the story goes on from the stage that is there, with the whole script before it
    have hzero : story.placed.session.line = (0 : Nat) := by
      have hmin : 0 ≤ story.placed.session.line := by
        show 0 ≤ min story.session.line _
        omega
      omega
    have hphase : story.phase ≠ .ended := by
      rw [hidle]
      decide
    have hnot : ¬ 0 < min story.session.line story.session.commands.length := hpos
    have hcleared : ¬ 0 < story.cleared.placed.session.line := hpos
    have hplaced : story.placed.phase ≠ .ended := hphase
    have hplaced' : story.cleared.placed.phase ≠ .ended := hphase
    have hzero' : story.cleared.placed.session.line = (0 : Nat) := hzero
    rw [start_of_not_pos hpos, start_of_not_pos hcleared, advance_of_line hplaced hzero,
      advance_of_line hplaced' hzero', or_iff_right hnot]
    exact follow_sameOutcome_iff story.placed story.session.commands

/-! ## Starting after a save was restored -/

/-- What restoring a save erases.  Restoring it over a session and starting a new story comes out
as restoring it over a brand-new session of the tenant and starting that, exactly if the line of
the save lies after the first one of the script, or if replaying the opening of the script brings
the old stage and the empty one to the same stage and tells the same on the way.  On the first
line the story goes on from the old stage. -/
theorem start_restored_sameOutcome_iff {σ : Type} (gateway : Gateway σ) (resolver : Resolver)
    (session : Session) (code : String) {world changed : σ} {data : SaveData} {restored : Session}
    (hrestored : (restoreProgress gateway session code).run world =
      (.ok (data, restored), changed)) :
    ∃ fresh, (restoreProgress gateway { tenant := session.tenant, catalog := session.catalog }
        code).run world = (.ok (data, fresh), changed) ∧
      (SameOutcome (idle resolver restored).start (idle resolver fresh).start ↔
        0 < min data.line session.commands.length ∨
          session.stage.applyAll session.catalog resolver (Command.opening session.commands) =
            Stage.empty.applyAll session.catalog resolver (Command.opening session.commands)) ∧
      (data.line = 0 → (idle resolver restored).start.1.session.stage =
        (session.stage.applyAll session.catalog resolver
          (Command.opening session.commands)).1) := by
  obtain ⟨rfl, hfresh⟩ := restoreProgress_congr hrestored
    { tenant := session.tenant, catalog := session.catalog } rfl
  refine ⟨_, hfresh, ?_, ?_⟩
  · have hidle : (idle resolver (session.resumedAt data)).phase = .idle := rfl
    have hiff := start_sameOutcome_iff hidle (Int.natCast_nonneg data.line)
    have hmin : (0 : Int) < min (data.line : Int) session.commands.length ↔
        0 < min data.line session.commands.length := by omega
    rw [← hmin]
    exact hiff
  · intro hfirst
    have hpos : ¬ 0 < (idle resolver (session.resumedAt data)).placed.session.line := by
      show ¬ 0 < min (data.line : Int) _
      omega
    have hzero : (idle resolver (session.resumedAt data)).placed.session.line = (0 : Nat) := by
      show min (data.line : Int) _ = (0 : Nat)
      have hlength : (0 : Int) ≤ session.commands.length := Int.natCast_nonneg _
      omega
    have hphase : (idle resolver (session.resumedAt data)).placed.phase ≠ .ended :=
      Phase.noConfusion
    rw [start_of_not_pos hpos, advance_of_line hphase hzero, follow_session,
      Session.run_session]
    rfl

/-- A save of the second line, restored over a session with a background from elsewhere. -/
theorem start_restored_sameOutcome_after_first_line :
    let catalog : Catalog :=
      { commands := [⟨1, "char_show", "mika", "smile", ""⟩, ⟨2, "text", "mika", "Hi", ""⟩] }
    let backend : Rehearsal :=
      { replies := [("loadGame", [.ok (.obj [("saveData",
          .obj [("playerName", .str "Aria"), ("currentLine", .int 1)])])])] }
    let old : Session := { tenant := "demo", catalog, stage := { background := "hall" } }
    let (answer, changed) := (restoreProgress Rehearsal.gateway old "CODE").run backend
    ∃ data restored fresh, answer = .ok (data, restored) ∧
      (restoreProgress Rehearsal.gateway { tenant := "demo", catalog } "CODE").run backend =
        (.ok (data, fresh), changed) ∧
      SameOutcome (idle ⟨"", ""⟩ restored).start (idle ⟨"", ""⟩ fresh).start := by
  intro catalog backend old
  have hrestored : (restoreProgress Rehearsal.gateway old "CODE").run backend =
      (.ok (⟨"Aria", 1, none⟩, { old with player := "Aria", line := 1 }),
        { backend with
          calls := [("loadGame", .obj [("tenantId", .str "demo"), ("saveCode", .str "CODE")])] }) :=
    rfl
  obtain ⟨fresh, hfresh, hiff, -⟩ := start_restored_sameOutcome_iff Rehearsal.gateway ⟨"", ""⟩ old
    "CODE" hrestored
  exact ⟨_, _, fresh, rfl, hfresh, hiff.mpr (Or.inl (by decide))⟩

/-- A save of the first line, restored after the stage was rebuilt further on: background and
portrait are still there when the story begins. -/
theorem start_restored_keeps_background :
    let catalog : Catalog :=
      { commands := [⟨1, "text", "narrator", "One", ""⟩, ⟨2, "bg_change", "hall", "", ""⟩,
          ⟨3, "char_show", "mika", "smile", ""⟩, ⟨4, "text", "narrator", "Two", ""⟩] }
    let backend : Rehearsal :=
      { replies := [("loadGame", [.ok (.obj [("saveData",
          .obj [("playerName", .str "Aria"), ("currentLine", .int 0)])])])] }
    let fresh : Session := { tenant := "demo", catalog }
    let played := ((idle ⟨"", ""⟩ fresh).calls [.rebuildAt 3]).1.session
    ∃ data restored afresh changed,
      (restoreProgress Rehearsal.gateway played "CODE").run backend =
        (.ok (data, restored), changed) ∧
      (restoreProgress Rehearsal.gateway fresh "CODE").run backend =
        (.ok (data, afresh), changed) ∧
      (idle ⟨"", ""⟩ restored).start.1.session.stage.background = some "hall" ∧
      (idle ⟨"", ""⟩ afresh).start.1.session.stage.background = none ∧
      (idle ⟨"", ""⟩ restored).start.2.events ≠ (idle ⟨"", ""⟩ afresh).start.2.events := by
  intro catalog backend fresh played
  exact ⟨⟨"Aria", 0, none⟩, { played with player := "Aria", line := 0 },
    { fresh with player := "Aria", line := 0 },
    { backend with
      calls := [("loadGame", .obj [("tenantId", .str "demo"), ("saveCode", .str "CODE")])] },
    rfl, rfl, rfl, rfl, by decide⟩

end Interpreter

end VisualNovel
