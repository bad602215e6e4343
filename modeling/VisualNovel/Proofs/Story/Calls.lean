import VisualNovel.Proofs.Story.CarryOut

/-!
# Calls of the interpreter, one after the other

Whoever plays a story makes a sequence of calls: to begin it or take it up, to go on, and to
rebuild the stage before some command or before the line of the session.  `Interpreter.calls`
makes them in turn and keeps what each of them told.

Statements about all that can happen to a story go by what one call does.
`calls_preserve` is the induction: what every call keeps holds after any number of calls.
No call touches the resolver, the catalog, the tenant or the name of the player
(`calls_frame`), and no call leads from a line of the script to one that is counted from its end
(`OnScript.calls`).
-/

namespace VisualNovel

/-- A call of the interpreter. -/
inductive Call where
  | start
  | advance
  /-- Rebuild the stage as it stands before the command at a place of the script. -/
  | rebuildAt (target : Int)
  /-- Rebuild the stage as it stands before the line of the session. -/
  | rebuildHere
  deriving DecidableEq, Repr

namespace Interpreter

/-- Make a call. -/
def call (story : Interpreter) : Call → Interpreter × Report
  | .start => story.start
  | .advance => story.advance
  | .rebuildAt target => story.rebuildStage target
  | .rebuildHere => story.rebuildStage story.session.line

/-- Make some calls: the story afterwards, and what each of them told. -/
def calls (story : Interpreter) : List Call → Interpreter × List Report
  | [] => (story, [])
  | next :: rest =>
    let (changed, report) := story.call next
    let (last, reports) := changed.calls rest
    (last, report :: reports)

@[simp] theorem calls_nil (story : Interpreter) : story.calls [] = (story, []) := rfl

@[simp] theorem calls_cons (story : Interpreter) (next : Call) (rest : List Call) :
    story.calls (next :: rest) =
      (((story.call next).1.calls rest).1,
        (story.call next).2 :: ((story.call next).1.calls rest).2) := rfl

/-- What every allowed call keeps, and what every allowed call tells then, holds for any
number of them. -/
theorem calls_preserve {holds : Interpreter → Prop} {tells : Report → Prop} {allowed : Call → Prop}
    (hstep : ∀ story next, holds story → allowed next →
      holds (story.call next).1 ∧ tells (story.call next).2)
    {story : Interpreter} (hstory : holds story) {history : List Call}
    (hallowed : ∀ next ∈ history, allowed next) :
    holds (story.calls history).1 ∧ ∀ report ∈ (story.calls history).2, tells report := by
  induction history generalizing story with
  | nil => exact ⟨hstory, by simp⟩
  | cons next rest ih =>
      obtain ⟨hnext, htold⟩ := hstep story next hstory (hallowed next (List.mem_cons_self ..))
      obtain ⟨hlast, hreports⟩ := ih hnext fun later hlater =>
        hallowed later (List.mem_cons_of_mem _ hlater)
      exact ⟨hlast, by simpa using ⟨htold, hreports⟩⟩

/-! ## What the single calls do -/

theorem advance_eq {story : Interpreter} (hphase : story.phase ≠ .ended) :
    story.advance =
      match story.session.upcoming? with
      | some upcoming => story.follow upcoming
      | none => ({ story with phase := .running }, { stray := true }) := by
  unfold advance
  cases hcases : story.phase with
  | ended => exact absurd hcases hphase
  | idle => rfl
  | running => rfl

theorem advance_of_line {story : Interpreter} {line : Nat} (hphase : story.phase ≠ .ended)
    (hline : story.session.line = line) :
    story.advance = story.follow (story.session.commands.drop line) := by
  have hupcoming : story.session.upcoming? = some (story.session.commands.drop line) := by
    simp [Session.upcoming?, hline]
  rw [advance_eq hphase, hupcoming]

theorem advance_of_ended {story : Interpreter} (hphase : story.phase = .ended) :
    story.advance = (story, {}) := by
  simp [advance, hphase]

/-- After carrying out the opening a story has paused, or it is over and tells so. -/
theorem follow_eq_carryOut (story : Interpreter) (upcoming : List Command) :
    story.follow upcoming =
      ({ story with
          session := (story.session.carryOut story.resolver (Command.opening upcoming)).1
          phase := if Command.anyPauses upcoming then .running else .ended },
        (story.session.carryOut story.resolver (Command.opening upcoming)).2 ++
          if Command.anyPauses upcoming then {} else { events := [.storyEnd] }) := by
  unfold follow halted
  rw [Session.run_eq_carryOut]
  cases Command.anyPauses upcoming <;> simp

theorem follow_session (story : Interpreter) (upcoming : List Command) :
    (story.follow upcoming).1.session = (story.session.run story.resolver upcoming).1 := by
  rw [follow_eq_carryOut, Session.run_eq_carryOut]

theorem follow_phase (story : Interpreter) (upcoming : List Command) :
    (story.follow upcoming).1.phase =
      if Command.anyPauses upcoming then .running else .ended := by
  rw [follow_eq_carryOut]

/-- A story that is over after some commands has carried out all of them. -/
theorem opening_of_follow_ended {story : Interpreter} {upcoming : List Command}
    (hended : (story.follow upcoming).1.phase = .ended) :
    Command.opening upcoming = upcoming := by
  rw [follow_phase] at hended
  cases hpauses : Command.anyPauses upcoming with
  | false => exact Command.opening_of_not_anyPauses hpauses
  | true => simp [hpauses] at hended

/-- A story that is running after some commands has carried out a pausing one last. -/
theorem opening_of_follow_running {story : Interpreter} {upcoming : List Command}
    (hrunning : (story.follow upcoming).1.phase = .running) :
    ∃ before last, Command.opening upcoming = before ++ [last] ∧
      last.instruction.pauses = true := by
  rw [follow_phase] at hrunning
  cases hpauses : Command.anyPauses upcoming with
  | true => exact Command.opening_of_anyPauses hpauses
  | false => simp [hpauses] at hrunning

theorem follow_stray (story : Interpreter) (upcoming : List Command) :
    (story.follow upcoming).2.stray = false := by
  rw [follow_eq_carryOut]
  cases Command.anyPauses upcoming <;> simp

/-- The story on the line where it starts: beyond the script that is the end of the
script. -/
def placed (story : Interpreter) : Interpreter :=
  { story with
    session := { story.session with
      line := min story.session.line story.session.commands.length } }

/-- The story on the line where it starts, on a stage that is rebuilt. -/
def rebuilt (story : Interpreter) : Interpreter × Report :=
  story.placed.rebuildStage story.placed.session.line

private theorem start_eq (story : Interpreter) :
    story.start =
      if 0 < story.placed.session.line then
        (story.rebuilt.1.advance.1, story.rebuilt.2 ++ story.rebuilt.1.advance.2)
      else story.placed.advance := rfl

theorem start_of_pos {story : Interpreter} (hpos : 0 < story.placed.session.line) :
    story.start =
      (story.rebuilt.1.advance.1, story.rebuilt.2 ++ story.rebuilt.1.advance.2) := by
  rw [start_eq, if_pos hpos]

theorem start_of_not_pos {story : Interpreter} (hpos : ¬ 0 < story.placed.session.line) :
    story.start = story.placed.advance := by
  rw [start_eq, if_neg hpos]

/-! ## What no call touches -/

/-- Two stories with the same resolver, catalog, tenant and player. -/
structure SameFrame (first second : Interpreter) : Prop where
  resolver_eq : first.resolver = second.resolver
  catalog_eq : first.session.catalog = second.session.catalog
  tenant_eq : first.session.tenant = second.session.tenant
  player_eq : first.session.player = second.session.player

theorem SameFrame.refl (story : Interpreter) : SameFrame story story := ⟨rfl, rfl, rfl, rfl⟩

theorem SameFrame.trans {first second third : Interpreter} (hfirst : SameFrame first second)
    (hsecond : SameFrame second third) : SameFrame first third :=
  ⟨hfirst.resolver_eq.trans hsecond.resolver_eq, hfirst.catalog_eq.trans hsecond.catalog_eq,
    hfirst.tenant_eq.trans hsecond.tenant_eq, hfirst.player_eq.trans hsecond.player_eq⟩

theorem follow_frame (story : Interpreter) (upcoming : List Command) :
    SameFrame (story.follow upcoming).1 story := by
  rw [follow_eq_carryOut, Session.carryOut_session]
  exact ⟨rfl, rfl, rfl, rfl⟩

theorem advance_frame (story : Interpreter) : SameFrame story.advance.1 story := by
  unfold advance
  split
  · exact SameFrame.refl story
  · split
    · exact follow_frame story _
    · exact ⟨rfl, rfl, rfl, rfl⟩

theorem start_frame (story : Interpreter) : SameFrame story.start.1 story := by
  have hplaced : SameFrame story.placed story := ⟨rfl, rfl, rfl, rfl⟩
  by_cases hpos : 0 < story.placed.session.line
  · rw [start_of_pos hpos]
    exact (advance_frame _).trans ⟨rfl, rfl, rfl, rfl⟩
  · rw [start_of_not_pos hpos]
    exact (advance_frame _).trans hplaced

theorem call_frame (story : Interpreter) (next : Call) : SameFrame (story.call next).1 story := by
  cases next with
  | start => exact start_frame story
  | advance => exact advance_frame story
  | rebuildAt target => exact ⟨rfl, rfl, rfl, rfl⟩
  | rebuildHere => exact ⟨rfl, rfl, rfl, rfl⟩

theorem calls_frame (story : Interpreter) (history : List Call) :
    SameFrame (story.calls history).1 story := by
  induction history generalizing story with
  | nil => exact SameFrame.refl story
  | cons next rest ih =>
      rw [calls_cons]
      exact (ih _).trans (call_frame story next)

/-! ## Lines of the script -/

/-- Is the line one of the script or beyond it, and not one that is counted from its end? -/
def OnScript (story : Interpreter) : Prop := 0 ≤ story.session.line

namespace OnScript

variable {story : Interpreter}

theorem line_eq_toNat (hstory : story.OnScript) :
    story.session.line = (story.session.line.toNat : Int) :=
  (Int.toNat_of_nonneg hstory).symm

/-- On a line of the script there is always something to go on with, if only the end. -/
theorem advance (hstory : story.OnScript) :
    story.advance.1.OnScript ∧ story.advance.2.stray = false := by
  by_cases hphase : story.phase = .ended
  · rw [advance_of_ended hphase]
    exact ⟨hstory, rfl⟩
  · rw [advance_of_line hphase hstory.line_eq_toNat]
    refine ⟨?_, follow_stray _ _⟩
    rw [OnScript, follow_session, Session.run_session]
    exact Int.add_nonneg hstory (Int.natCast_nonneg _)

theorem placed (hstory : story.OnScript) : story.placed.OnScript := by
  have hline : 0 ≤ story.session.line := hstory
  show 0 ≤ min story.session.line _
  omega

theorem start (hstory : story.OnScript) :
    story.start.1.OnScript ∧ story.start.2.stray = false := by
  by_cases hpos : 0 < story.placed.session.line
  · have hrebuilt : story.rebuilt.1.OnScript := hstory.placed
    rw [start_of_pos hpos]
    exact hrebuilt.advance
  · rw [start_of_not_pos hpos]
    exact hstory.placed.advance

theorem call (hstory : story.OnScript) (next : Call) :
    (story.call next).1.OnScript ∧ (story.call next).2.stray = false := by
  cases next with
  | start => exact hstory.start
  | advance => exact hstory.advance
  | rebuildAt target => exact ⟨hstory, rfl⟩
  | rebuildHere => exact ⟨hstory, rfl⟩

/-- No call leads from a line of the script to one that is counted from its end. -/
theorem calls (hstory : story.OnScript) (history : List Call) :
    (story.calls history).1.OnScript ∧
      ∀ report ∈ (story.calls history).2, report.stray = false := by
  have hallowed : ∀ next ∈ history, True := fun _ _ => trivial
  refine calls_preserve ?_ hstory hallowed
  intro story next hstory _
  exact hstory.call next

end OnScript

end Interpreter

end VisualNovel
