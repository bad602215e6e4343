import VisualNovel.Proofs.Story.Calls

/-!
# Commands of unknown kinds

A script may hold commands of kinds that nobody knows, and the player must not notice.  The
*abridged* catalog is the one without them.  A story that is told from it is on another line, for
fewer commands lie before it; `Catalog.knownBefore` counts them.

`Interpreter.abridged` takes a story to its place in the abridged script, and every call commutes
with it (`advance_abridged`, `start_abridged`).  Three things have to be seen.

* **Lines.**  What comes up in the abridged script is what comes up in the full one, without the
  unknown commands (`drop_knownBefore`).
* **Pauses.**  An unknown command does not pause, so the openings correspond (`opening_filter`).
* **Starting.**  A story may have to rebuild its stage where the abridged one stands on its first
  line and does not.  Only unknown commands lie before it then, and on an empty stage rebuilding or
  not makes no difference (`start_of_empty`).
-/

namespace VisualNovel

/-! ## Scripts without unknown commands -/

namespace Command

/-- Whatever an unknown command does not ask for, a command that asks for it is known. -/
theorem isKnown_of_asks {asks : Instruction → Bool} {command : Command}
    (hunknown : asks .unknown = false) (hasks : asks command.instruction = true) :
    command.isKnown = true := by
  rw [isKnown_iff]
  intro hinstruction
  rw [hinstruction, hunknown] at hasks
  cases hasks

theorem isKnown_of_pauses {command : Command} (hpauses : command.instruction.pauses = true) :
    command.isKnown = true :=
  isKnown_of_asks rfl hpauses

theorem opening_filter (commands : List Command) :
    opening (commands.filter isKnown) = (opening commands).filter isKnown := by
  induction commands with
  | nil => rfl
  | cons command rest ih =>
      cases hpauses : command.instruction.pauses with
      | true =>
          have hknown := isKnown_of_pauses hpauses
          rw [List.filter_cons_of_pos hknown, opening_cons_of_pauses hpauses,
            opening_cons_of_pauses hpauses, List.filter_singleton, hknown]
          rfl
      | false =>
          rw [opening_cons_of_silent hpauses]
          cases hknown : command.isKnown with
          | true =>
              rw [List.filter_cons_of_pos hknown, opening_cons_of_silent hpauses, ih,
                List.filter_cons_of_pos hknown]
          | false =>
              have hnot : ¬ command.isKnown = true := Bool.eq_false_iff.mp hknown
              rw [List.filter_cons_of_neg hnot, ih, List.filter_cons_of_neg hnot]

theorem anyPauses_filter (commands : List Command) :
    anyPauses (commands.filter isKnown) = anyPauses commands := by
  rw [anyPauses, anyPauses, List.any_filter]
  refine congrArg commands.any (funext fun command => ?_)
  cases hpauses : command.instruction.pauses with
  | true =>
      rw [isKnown_of_pauses hpauses]
      rfl
  | false => exact Bool.and_false _

end Command

namespace Stage

variable {catalog : Catalog} {resolver : Resolver}

theorem applyAll_known (stage : Stage) (commands : List Command) :
    stage.applyAll catalog resolver (commands.filter Command.isKnown) =
      stage.applyAll catalog resolver commands := by
  rw [← applyAll_filter, ← applyAll_filter commands, List.filter_filter]
  refine congrArg (stage.applyAll catalog resolver) (List.filter_congr fun command _ => ?_)
  cases hchanges : command.instruction.changesStage with
  | true =>
      have hknown : command.isKnown = true := Command.isKnown_of_asks rfl hchanges
      rw [hknown]
      rfl
  | false => rfl

end Stage

namespace Catalog

/-- The catalog without the commands of unknown kinds. -/
def abridged (catalog : Catalog) : Catalog :=
  { catalog with commands := catalog.commands.filter Command.isKnown }

/-- How many of the commands before a line are of known kinds. -/
def knownBefore (catalog : Catalog) (line : Nat) : Nat :=
  ((catalog.commands.take line).filter Command.isKnown).length

variable (catalog : Catalog) (line : Nat)

theorem commands_abridged_split :
    catalog.abridged.commands = (catalog.commands.take line).filter Command.isKnown ++
      (catalog.commands.drop line).filter Command.isKnown := by
  rw [← List.filter_append, List.take_append_drop]
  rfl

theorem take_knownBefore :
    catalog.abridged.commands.take (catalog.knownBefore line) =
      (catalog.commands.take line).filter Command.isKnown := by
  rw [catalog.commands_abridged_split line, knownBefore, List.take_left]

theorem drop_knownBefore :
    catalog.abridged.commands.drop (catalog.knownBefore line) =
      (catalog.commands.drop line).filter Command.isKnown := by
  rw [catalog.commands_abridged_split line, knownBefore, List.drop_left]

theorem knownBefore_le : catalog.knownBefore line ≤ catalog.abridged.commands.length := by
  rw [catalog.commands_abridged_split line, List.length_append]
  exact Nat.le_add_right _ _

/-- Beyond the script no more commands are known. -/
theorem knownBefore_min :
    catalog.knownBefore (min line catalog.commands.length) = catalog.knownBefore line := by
  rw [knownBefore, knownBefore, ← List.take_take, List.take_length]

theorem knownBefore_add (more : Nat) :
    catalog.knownBefore (line + more) = catalog.knownBefore line +
      (((catalog.commands.drop line).take more).filter Command.isKnown).length := by
  rw [knownBefore, List.take_add, List.filter_append, List.length_append]
  rfl

theorem applyAll_abridged (resolver : Resolver) (stage : Stage) (commands : List Command) :
    stage.applyAll catalog.abridged resolver commands =
      stage.applyAll catalog resolver commands := by
  induction commands generalizing stage with
  | nil => rfl
  | cons command rest ih =>
      have hcommand : stage.apply catalog.abridged resolver command =
          stage.apply catalog resolver command := by
        unfold Stage.apply
        cases command.instruction <;> rfl
      rw [Stage.applyAll_cons, Stage.applyAll_cons, hcommand, ih]

end Catalog

/-! ## Carrying out the known commands -/

namespace Session

variable (resolver : Resolver)

/-- The session on a line of the abridged script. -/
def abridgedAt (line : Nat) (session : Session) : Session :=
  { session with line := line, catalog := session.catalog.abridged }

theorem execute_abridgedAt (session : Session) (place : Nat) (line line' : Int)
    (command : Command) :
    ((session.abridgedAt place).execute resolver line command).1 =
        (session.execute resolver line' command).1.abridgedAt place ∧
      ((session.abridgedAt place).execute resolver line command).2.events =
        (session.execute resolver line' command).2.events := by
  unfold execute
  cases command.instruction <;> exact ⟨rfl, rfl⟩

/-- Carrying out the known commands leads to the same place as carrying out all, and tells the
same. -/
theorem carryOut_abridgedAt (session : Session) (place : Nat) (commands : List Command) :
    ((session.abridgedAt place).carryOut resolver (commands.filter Command.isKnown)).1 =
        (session.carryOut resolver commands).1.abridgedAt
          (place + (commands.filter Command.isKnown).length) ∧
      ((session.abridgedAt place).carryOut resolver
          (commands.filter Command.isKnown)).2.events =
        (session.carryOut resolver commands).2.events := by
  induction commands generalizing session place with
  | nil => exact ⟨rfl, rfl⟩
  | cons command rest ih =>
      cases hknown : command.isKnown with
      | true =>
          obtain ⟨hsession, hevents⟩ := session.execute_abridgedAt resolver place
            (session.abridgedAt place).line session.line command
          have hpast : (session.abridgedAt place).past resolver command =
              (session.past resolver command).abridgedAt (place + 1) := by
            rw [past, hsession]
            rfl
          obtain ⟨hlast, hmore⟩ := ih (session.past resolver command) (place + 1)
          rw [List.filter_cons_of_pos hknown, carryOut_cons, carryOut_cons, hpast]
          refine ⟨?_, ?_⟩
          · rw [hlast, List.length_cons]
            congr 1
            omega
          · rw [Report.events_append, Report.events_append, hevents, hmore]
      | false =>
          -- the command leaves no trace but a warning
          have hinstruction := Command.instruction_of_not_known hknown
          have hpast : (session.past resolver command).abridgedAt place =
              session.abridgedAt place := by
            simp [past, execute, hinstruction, abridgedAt]
          have hevents : (session.execute resolver session.line command).2.events = [] := by
            simp [execute, hinstruction]
          obtain ⟨hlast, hmore⟩ := ih (session.past resolver command) place
          rw [hpast] at hlast hmore
          rw [List.filter_cons_of_neg (Bool.eq_false_iff.mp hknown), carryOut_cons]
          refine ⟨hlast, ?_⟩
          rw [Report.events_append, hevents, List.nil_append, hmore]

end Session

/-! ## Calls -/

namespace Interpreter

variable {story : Interpreter}

/-- The story at its place in the abridged script. -/
def abridged (story : Interpreter) : Interpreter :=
  { story with
    session := story.session.abridgedAt
      (story.session.catalog.knownBefore story.session.line.toNat) }

theorem advance_abridged (hstory : story.OnScript) :
    story.abridged.advance.1 = story.advance.1.abridged ∧
      story.abridged.advance.2.events = story.advance.2.events := by
  by_cases hphase : story.phase = .ended
  · have hphase' : story.abridged.phase = .ended := hphase
    rw [advance_of_ended hphase, advance_of_ended hphase']
    exact ⟨rfl, rfl⟩
  · have hphase' : story.abridged.phase ≠ .ended := hphase
    set line := story.session.line.toNat with hline
    set opening := Command.opening (story.session.commands.drop line) with hopening
    have hupcoming : story.abridged.session.commands.drop (story.session.catalog.knownBefore line) =
        (story.session.commands.drop line).filter Command.isKnown :=
      story.session.catalog.drop_knownBefore line
    -- both lines move past what corresponds
    have hlater : story.session.catalog.knownBefore (line + opening.length) =
        story.session.catalog.knownBefore line + (opening.filter Command.isKnown).length := by
      rw [Catalog.knownBefore_add]
      show _ + (((story.session.commands.drop line).take opening.length).filter _).length = _
      rw [hopening, Command.take_length_opening]
    obtain ⟨hsession, hevents⟩ := story.session.carryOut_abridgedAt story.resolver
      (story.session.catalog.knownBefore line) opening
    have hmoved : (story.session.carryOut story.resolver opening).1.line.toNat =
        line + opening.length := by
      rw [Session.carryOut_line, hstory.line_eq_toNat]
      omega
    rw [advance_of_line hphase hstory.line_eq_toNat, advance_of_line hphase' rfl, hupcoming,
      follow_eq_carryOut, follow_eq_carryOut, Command.opening_filter, Command.anyPauses_filter,
      ← hline, ← hopening, Report.events_append, Report.events_append]
    refine ⟨?_, congrArg (· ++ _) hevents⟩
    simp only [abridged, ← hline, hsession, Session.carryOut_catalog, hmoved, hlater]

/-- Without a stage to lose, a story may just as well rebuild it. -/
theorem start_of_empty (hstory : story.OnScript) (hempty : story.session.stage = Stage.empty) :
    story.start = (story.rebuilt.1.advance.1, story.rebuilt.2 ++ story.rebuilt.1.advance.2) := by
  by_cases hpos : 0 < story.placed.session.line
  · exact start_of_pos hpos
  · have hline : 0 ≤ story.placed.session.line := hstory.placed
    have hzero : story.placed.session.line.toNat = 0 := by omega
    have hrebuilt : story.rebuilt = (story.placed, {}) := by
      rw [rebuilt, rebuildStage, hzero, List.take_zero, Stage.applyAll_nil, ← hempty]
      rfl
    rw [start_of_not_pos hpos, hrebuilt, Report.empty_append]

theorem placed_abridged (hstory : story.OnScript) :
    story.abridged.placed = story.placed.abridged := by
  have hbound := story.session.catalog.knownBefore_le story.session.line.toNat
  have hline : min (story.session.catalog.knownBefore story.session.line.toNat : Int)
      story.session.catalog.abridged.commands.length =
        story.session.catalog.knownBefore story.session.line.toNat := by omega
  have hplaced : (min story.session.line story.session.commands.length).toNat =
      min story.session.line.toNat story.session.commands.length := by
    have hnonneg : 0 ≤ story.session.line := hstory
    omega
  have hknown : story.session.catalog.knownBefore
      (min story.session.line story.session.commands.length).toNat =
        story.session.catalog.knownBefore story.session.line.toNat := by
    rw [hplaced]
    exact story.session.catalog.knownBefore_min _
  let atLine (line : Int) : Interpreter :=
    { story with
      session :=
        { story.session with line := line, catalog := story.session.catalog.abridged } }
  rw [placed, placed, abridged, abridged]
  show atLine (min _ _) = atLine _
  rw [hknown]
  exact congrArg atLine hline

/-- Rebuilding the stage before the line leads to the same stage in both scripts. -/
theorem rebuildStage_abridged (story : Interpreter) :
    story.abridged.rebuildStage story.abridged.session.line =
      ((story.rebuildStage story.session.line).1.abridged,
        (story.rebuildStage story.session.line).2) := by
  have hreplayed : Stage.empty.applyAll story.session.catalog.abridged story.resolver
      (story.session.catalog.abridged.commands.take
        (story.session.catalog.knownBefore story.session.line.toNat)) =
      Stage.empty.applyAll story.session.catalog story.resolver
        (story.session.commands.take story.session.line.toNat) := by
    rw [Catalog.take_knownBefore, Catalog.applyAll_abridged, Stage.applyAll_known]
    rfl
  exact congrArg (fun replayed : Stage × List Event =>
    (({ story.abridged with
        session := { story.abridged.session with stage := replayed.1 } } : Interpreter),
      ({ events := replayed.2 } : Report))) hreplayed

/-- A story with an empty stage starts alike in both scripts. -/
theorem start_abridged (hstory : story.OnScript) (hempty : story.session.stage = Stage.empty) :
    story.abridged.start.1 = story.start.1.abridged ∧
      story.abridged.start.2.events = story.start.2.events := by
  have hstory' : story.abridged.OnScript := Int.natCast_nonneg _
  have hrebuilt : story.abridged.rebuilt = (story.rebuilt.1.abridged, story.rebuilt.2) := by
    rw [rebuilt, placed_abridged hstory, rebuildStage_abridged]
    rfl
  have honScript : story.rebuilt.1.OnScript := hstory.placed
  obtain ⟨hlast, hevents⟩ := advance_abridged honScript
  rw [start_of_empty hstory hempty, start_of_empty hstory' hempty, hrebuilt]
  refine ⟨hlast, ?_⟩
  rw [Report.events_append, Report.events_append, hevents]

theorem advances_abridged (hstory : story.OnScript) (further : Nat) :
    (story.abridged.calls (List.replicate further .advance)).1 =
        (story.calls (List.replicate further .advance)).1.abridged ∧
      (story.abridged.calls (List.replicate further .advance)).2.map Report.events =
        (story.calls (List.replicate further .advance)).2.map Report.events := by
  induction further generalizing story with
  | zero => exact ⟨rfl, rfl⟩
  | succ further ih =>
      obtain ⟨hnext, hevents⟩ := advance_abridged hstory
      obtain ⟨hlast, hreports⟩ := ih hstory.advance.1
      rw [List.replicate_succ, calls_cons, calls_cons, call, call, hnext]
      refine ⟨hlast, ?_⟩
      rw [List.map_cons, List.map_cons, hevents, hreports]

/-- **Commands of unknown kinds are invisible.**  A new story is started from any line, and another
one from the corresponding line of the script without the commands of unknown kinds; then both go on
equally often.  Call by call they tell the same.  Afterwards they have got equally far and have the
same on the stage, and the second one is on the line before which there are as many commands as
known ones before that of the first. -/
theorem calls_abridged (resolver : Resolver) (catalog : Catalog) (tenant player : String)
    (first further : Nat) :
    let history := Call.start :: List.replicate further .advance
    let full := (idle resolver { tenant, player, line := first, catalog }).calls history
    let short := (idle resolver
      { tenant, player
        line := ((catalog.commands.take first).filter Command.isKnown).length
        catalog := { catalog with commands := catalog.commands.filter Command.isKnown } }).calls
      history
    full.2.map Report.events = short.2.map Report.events ∧
      full.1.phase = short.1.phase ∧
      full.1.session.stage = short.1.session.stage ∧
      (∃ line : Nat, full.1.session.line = line ∧ short.1.session.line =
        ((catalog.commands.take line).filter Command.isKnown).length) ∧
      ∀ report ∈ full.2 ++ short.2, report.stray = false := by
  intro history full short
  set story := idle resolver { tenant, player, line := first, catalog } with hidle
  have hstory : story.OnScript := Int.natCast_nonneg first
  have hshort : short = story.abridged.calls history := rfl
  obtain ⟨hnext, hstarted⟩ := start_abridged hstory rfl
  obtain ⟨hlast, hreports⟩ := advances_abridged hstory.start.1 further
  have hstory' : story.abridged.OnScript := Int.natCast_nonneg _
  have hplace : short.1 = full.1.abridged := by
    rw [hshort, calls_cons, call, hnext]
    exact hlast
  refine ⟨?_, ?_, ?_, ⟨full.1.session.line.toNat, ?_, ?_⟩, ?_⟩
  · rw [hshort, calls_cons, call, hnext, List.map_cons, hreports, hstarted]
    rfl
  · rw [hplace]
    rfl
  · rw [hplace]
    rfl
  · exact (hstory.calls history).1.line_eq_toNat
  · have hcatalog : full.1.session.catalog = catalog := (calls_frame story history).catalog_eq
    rw [hplace, abridged, hcatalog]
    rfl
  · intro report hmem
    rcases List.mem_append.mp hmem with hmem | hmem
    · exact (hstory.calls history).2 report hmem
    · exact (hstory'.calls history).2 report hmem

end Interpreter

end VisualNovel
