import VisualNovel.Proofs.Story.Opening

/-!
# Carrying out commands

A run ends with the first command that pauses, so it does two things at once: it chooses how far
to go, and it carries out the commands up to there.  How far it goes is the `Command.opening`.
`Session.carryOut` is the rest: it carries out all commands that it is given, one after the other,
and pauses at none.

By `run_eq_carryOut` a run carries out the opening, and has paused if any command pauses.  Hence a
statement about what is told or changed on the way is proved for `carryOut`, along the list of
commands, and a statement about where the story stops is one about openings.
-/

namespace VisualNovel

namespace Report

@[simp] theorem append_empty (report : Report) : report ++ {} = report := by
  show append report {} = report
  simp [append]

@[simp] theorem empty_append (report : Report) : {} ++ report = report := rfl

theorem append_assoc (first second third : Report) :
    first ++ second ++ third = first ++ (second ++ third) := by
  show append (append first second) third = append first (append second third)
  simp [append, List.append_assoc, Bool.or_assoc]

end Report

namespace Session

variable {resolver : Resolver}

/-! ## Single commands -/

theorem execute_session (session : Session) (line : Int) (command : Command) :
    (session.execute resolver line command).1 =
      { session with stage := (session.stage.apply session.catalog resolver command).1 } := by
  unfold execute Stage.apply
  cases command.instruction <;> rfl

/-- The stage events of a command are those that its change of the stage tells of. -/
theorem execute_events_of_changesStage (session : Session) (line : Int) {command : Command}
    (hchanges : command.instruction.changesStage = true) :
    (session.execute resolver line command).2.events =
      (session.stage.apply session.catalog resolver command).2.toList := by
  unfold execute Stage.apply
  cases hinstruction : command.instruction <;>
    simp_all [Instruction.changesStage]

@[simp] theorem execute_stray (session : Session) (line : Int) (command : Command) :
    (session.execute resolver line command).2.stray = false := by
  unfold execute
  cases command.instruction <;> rfl

/-! ## One command after the other -/

/-- The session after the command at its line was carried out. -/
def past (resolver : Resolver) (session : Session) (command : Command) : Session :=
  { (session.execute resolver session.line command).1 with line := session.line + 1 }

/-- Carry out all of the given commands, the first of them at the line of the session. -/
def carryOut (resolver : Resolver) (session : Session) : List Command → Session × Report
  | [] => (session, {})
  | command :: rest =>
    let (last, more) := (session.past resolver command).carryOut resolver rest
    (last, (session.execute resolver session.line command).2 ++ more)

@[simp] theorem carryOut_nil (session : Session) : session.carryOut resolver [] = (session, {}) :=
  rfl

theorem carryOut_cons (session : Session) (command : Command) (rest : List Command) :
    session.carryOut resolver (command :: rest) =
      (((session.past resolver command).carryOut resolver rest).1,
        (session.execute resolver session.line command).2 ++
          ((session.past resolver command).carryOut resolver rest).2) :=
  rfl

theorem past_eq (session : Session) (command : Command) :
    session.past resolver command =
      { session with
        line := session.line + 1
        stage := (session.stage.apply session.catalog resolver command).1 } := by
  rw [past, execute_session]

theorem carryOut_append (session : Session) (first second : List Command) :
    session.carryOut resolver (first ++ second) =
      (((session.carryOut resolver first).1.carryOut resolver second).1,
        (session.carryOut resolver first).2 ++
          ((session.carryOut resolver first).1.carryOut resolver second).2) := by
  induction first generalizing session with
  | nil => rfl
  | cons command rest ih =>
      rw [List.cons_append, carryOut_cons, ih, carryOut_cons]
      simp only [Report.append_assoc]

/-- Carrying out commands moves the line by their number and leaves the stage that they leave. -/
theorem carryOut_session (session : Session) (commands : List Command) :
    (session.carryOut resolver commands).1 =
      { session with
        line := session.line + commands.length
        stage := (session.stage.applyAll session.catalog resolver commands).1 } := by
  induction commands generalizing session with
  | nil => simp
  | cons command rest ih =>
      simp only [carryOut_cons, ih, past_eq, Stage.applyAll_cons, List.length_cons]
      congr 1
      omega

@[simp] theorem carryOut_line (session : Session) (commands : List Command) :
    (session.carryOut resolver commands).1.line = session.line + commands.length := by
  rw [carryOut_session]

@[simp] theorem carryOut_catalog (session : Session) (commands : List Command) :
    (session.carryOut resolver commands).1.catalog = session.catalog := by
  rw [carryOut_session]

@[simp] theorem carryOut_stray (session : Session) (commands : List Command) :
    (session.carryOut resolver commands).2.stray = false := by
  induction commands generalizing session with
  | nil => rfl
  | cons command rest ih => simp [carryOut_cons, ih]

/-! ## A run -/

/-- A run carries out the opening, and pauses if there is a command that does. -/
theorem run_eq_carryOut (session : Session) (upcoming : List Command) :
    session.run resolver upcoming =
      ((session.carryOut resolver (Command.opening upcoming)).1,
        (session.carryOut resolver (Command.opening upcoming)).2,
        Command.anyPauses upcoming) := by
  induction upcoming generalizing session with
  | nil => rfl
  | cons command rest ih =>
      cases hpauses : command.instruction.pauses with
      | true =>
          rw [Command.opening_cons_of_pauses hpauses, carryOut_cons]
          simp [run, Command.anyPauses, hpauses, past]
      | false =>
          rw [Command.opening_cons_of_silent hpauses, carryOut_cons]
          simp [run, ih, Command.anyPauses, hpauses, past]

/-- A run takes the line and the stage past the opening of the commands. -/
theorem run_session (session : Session) (upcoming : List Command) :
    (session.run resolver upcoming).1 =
      { session with
        line := session.line + (Command.opening upcoming).length
        stage := (session.stage.applyAll session.catalog resolver
          (Command.opening upcoming)).1 } := by
  rw [run_eq_carryOut, carryOut_session]

end Session

end VisualNovel
