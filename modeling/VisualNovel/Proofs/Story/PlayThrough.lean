import VisualNovel.Proofs.Story.Calls
import VisualNovel.Proofs.Story.Restore

/-!
# Playing a story to its end

A player who goes on and on gets through the rest of the script.  Each call stops at the next
command that pauses, so there are as many calls as there are such commands, and one more in which
the story ends.

The induction is on the number of pauses that are left (`Command.pauseCount`).  One call takes the
story past the opening of what is left.  Either nothing pauses any more and the story ends
(`advance_of_silent`), or it stops with one pause less to come (`advance_of_pauses`).  What the
calls tell together is what carrying out all commands that were left tells, and then that the story
is over (`PlayedOut`).

A story that is over stays over whatever happens to it (`intervene_of_ended`): even a session whose
line is set back tells of its stage at most.
-/

namespace VisualNovel

/-! ## Pauses -/

namespace Command

/-- How many of the commands pause the story. -/
def pauseCount (commands : List Command) : Nat :=
  commands.countP fun command => command.kind = "text" ∨ command.kind = "img_show"

theorem pauseCount_append (first second : List Command) :
    pauseCount (first ++ second) = pauseCount first + pauseCount second :=
  List.countP_append

theorem pauseCount_of_silent {commands : List Command}
    (hsilent : ∀ command ∈ commands, command.instruction.pauses = false) :
    pauseCount commands = 0 := by
  refine List.countP_eq_zero.mpr ?_
  intro command hmem
  rw [decide_eq_true_iff, ← command.pauses_iff, hsilent command hmem]
  exact Bool.false_ne_true

theorem silent_of_pauseCount {commands : List Command} (hzero : pauseCount commands = 0) :
    ∀ command ∈ commands, command.instruction.pauses = false := by
  intro command hmem
  have hnot := List.countP_eq_zero.mp hzero command hmem
  rw [decide_eq_true_iff, ← command.pauses_iff] at hnot
  exact Bool.eq_false_iff.mpr hnot

theorem pauseCount_cons_of_pauses {command : Command}
    (hpauses : command.instruction.pauses = true) (rest : List Command) :
    pauseCount (command :: rest) = pauseCount rest + 1 :=
  List.countP_cons_of_pos (decide_eq_true (command.pauses_iff.mp hpauses))

end Command

/-- Does the event wait for the player to go on? -/
def Event.waits : Event → Bool
  | .dialogue _ _ _ _ => true
  | .overlayShown _ => true
  | _ => false

/-- Does the report end with an event that waits, and is it the only one? -/
def Report.EndsWaiting (report : Report) : Prop :=
  ∃ before last, report.events = before ++ [last] ∧ last.waits = true ∧
    ∀ event ∈ before, event.waits = false

namespace Session

variable {resolver : Resolver}

/-- A command that pauses tells of one thing, which waits. -/
theorem events_execute_of_pauses (session : Session) (line : Int) {command : Command}
    (hpauses : command.instruction.pauses = true) :
    ∃ event, (session.execute resolver line command).2.events = [event] ∧
      event.waits = true := by
  unfold execute
  cases hinstruction : command.instruction with
  | say speaker text => exact ⟨_, rfl, rfl⟩
  | showImage image => exact ⟨_, rfl, rfl⟩
  | _ => simp [hinstruction, Instruction.pauses] at hpauses

theorem waits_execute_of_silent (session : Session) (line : Int) {command : Command}
    (hsilent : command.instruction.pauses = false) :
    ∀ event ∈ (session.execute resolver line command).2.events, event.waits = false := by
  unfold execute
  cases hinstruction : command.instruction with
  | say speaker text => simp [hinstruction, Instruction.pauses] at hsilent
  | showImage image => simp [hinstruction, Instruction.pauses] at hsilent
  | hideImage => simp [Event.waits]
  | unknown => simp
  | changeBackground background => simp [Stage.follow, Event.waits]
  | showCharacter character expression position => simp [Stage.follow, Event.waits]
  | hideCharacter character =>
      cases hportrait : OrderedMap.at? character session.stage.portraits <;>
        simp [Stage.follow, hportrait, Event.waits]

theorem waits_carryOut_of_silent (session : Session) {commands : List Command}
    (hsilent : ∀ command ∈ commands, command.instruction.pauses = false) :
    ∀ event ∈ (session.carryOut resolver commands).2.events, event.waits = false := by
  induction commands generalizing session with
  | nil => simp
  | cons command rest ih =>
      obtain ⟨hcommand, hrest⟩ := List.forall_mem_cons.mp hsilent
      rw [carryOut_cons, Report.events_append]
      intro event hmem
      rcases List.mem_append.mp hmem with hmem | hmem
      · exact session.waits_execute_of_silent _ hcommand event hmem
      · exact ih _ hrest event hmem

/-- Up to the next pause there is one event that waits, and it is the last. -/
theorem endsWaiting_carryOut (session : Session) {before : List Command} {last : Command}
    (hsilent : ∀ command ∈ before, command.instruction.pauses = false)
    (hlast : last.instruction.pauses = true) :
    (session.carryOut resolver (before ++ [last])).2.EndsWaiting := by
  set paused := (session.carryOut resolver before).1 with hpaused
  obtain ⟨event, hevent, hwaits⟩ : ∃ event,
      (paused.execute resolver paused.line last).2.events = [event] ∧ event.waits = true :=
    paused.events_execute_of_pauses paused.line hlast
  refine ⟨(session.carryOut resolver before).2.events, event, ?_, hwaits,
    session.waits_carryOut_of_silent hsilent⟩
  rw [carryOut_append, Report.events_append, ← hpaused, carryOut_cons, carryOut_nil,
    Report.append_empty, hevent]

/-- Carrying out commands never tells that the story is over. -/
theorem storyEnd_not_mem_carryOut (session : Session) (commands : List Command) :
    Event.storyEnd ∉ (session.carryOut resolver commands).2.events := by
  induction commands generalizing session with
  | nil => simp
  | cons command rest ih =>
      rw [carryOut_cons, Report.events_append, List.mem_append, not_or]
      refine ⟨?_, ih _⟩
      unfold execute
      cases hinstruction : command.instruction with
      | hideCharacter character =>
          cases hportrait : OrderedMap.at? character session.stage.portraits <;>
            simp [Stage.follow, hportrait]
      | _ => simp [Stage.follow, dialogue]

/-- The warnings are about the commands of unknown kinds, each at its place in the script. -/
theorem warnings_carryOut (session : Session) {line : Nat} (hline : session.line = line)
    (commands : List Command) :
    (session.carryOut resolver commands).2.warnings =
      (commands.zipIdx line).filterMap fun (command, place) =>
        if command.isKnown then none else some ⟨command.kind, place⟩ := by
  induction commands generalizing session line with
  | nil => rfl
  | cons command rest ih =>
      have hpast : (session.past resolver command).line = (line + 1 : Nat) := by
        rw [past_eq, hline]
        rfl
      rw [carryOut_cons, Report.warnings_append, ih _ hpast, List.zipIdx_cons]
      cases hknown : command.isKnown with
      | true =>
          have hinstruction := (command.isKnown_iff).mp hknown
          have hnone : (session.execute resolver session.line command).2.warnings = [] := by
            unfold execute
            cases hcases : command.instruction with
            | unknown => exact absurd hcases hinstruction
            | _ => rfl
          rw [hnone, List.filterMap_cons_none (by simp [hknown])]
          rfl
      | false =>
          have hinstruction := Command.instruction_of_not_known hknown
          rw [List.filterMap_cons_some (by simp [hknown]; rfl)]
          simp [execute, hinstruction, hline]

end Session

/-! ## One call -/

namespace Interpreter

variable {story : Interpreter} {upcoming before rest : List Command} {last : Command}

/-- The story after the given commands, in a phase. -/
def after (story : Interpreter) (commands : List Command) (phase : Phase) : Interpreter :=
  { story with session := (story.session.carryOut story.resolver commands).1, phase := phase }

/-- What the given commands tell. -/
def told (story : Interpreter) (commands : List Command) : Report :=
  (story.session.carryOut story.resolver commands).2

theorem after_append (first second : List Command) (between phase : Phase) :
    story.after (first ++ second) phase = (story.after first between).after second phase := by
  simp only [after, Session.carryOut_append]

theorem told_append (first second : List Command) (between : Phase) :
    story.told (first ++ second) = story.told first ++ (story.after first between).told second := by
  simp only [told, after, Session.carryOut_append]

/-- After a first part of the commands that come up, the rest of them comes up. -/
theorem upcoming_after {line : Nat} {first second : List Command}
    (hline : story.session.line = line)
    (hupcoming : story.session.commands.drop line = first ++ second) (phase : Phase) :
    (story.after first phase).session.line = (line + first.length : Nat) ∧
      (story.after first phase).session.commands.drop (line + first.length) = second := by
  constructor
  · rw [after, Session.carryOut_line, hline]
    rfl
  · have hcommands : (story.after first phase).session.commands = story.session.commands :=
      congrArg Catalog.commands (story.session.carryOut_catalog first)
    rw [hcommands, ← List.drop_drop, hupcoming, List.drop_left]

theorem advance_of_silent {line : Nat} (hphase : story.phase ≠ .ended)
    (hline : story.session.line = line) (hupcoming : story.session.commands.drop line = upcoming)
    (hsilent : ∀ command ∈ upcoming, command.instruction.pauses = false) :
    story.advance =
      (story.after upcoming .ended, story.told upcoming ++ { events := [.storyEnd] }) := by
  have hpauses : Command.anyPauses upcoming = false :=
    List.any_eq_false.mpr fun command hmem => by simp [hsilent command hmem]
  rw [advance_of_line hphase hline, hupcoming, follow_eq_carryOut,
    Command.opening_of_not_anyPauses hpauses, hpauses]
  rfl

/-- Otherwise it takes the story past the next command that pauses. -/
theorem advance_of_pauses {line : Nat} (hphase : story.phase ≠ .ended)
    (hline : story.session.line = line)
    (hupcoming : story.session.commands.drop line = before ++ last :: rest)
    (hsilent : ∀ command ∈ before, command.instruction.pauses = false)
    (hlast : last.instruction.pauses = true) :
    story.advance = (story.after (before ++ [last]) .running, story.told (before ++ [last])) := by
  have hopening : Command.opening (before ++ last :: rest) = before ++ [last] := by
    rw [Command.opening_append hsilent, Command.opening_cons_of_pauses hlast]
  have hpauses : Command.anyPauses (before ++ last :: rest) = true := by
    simp [Command.anyPauses, hlast]
  rw [advance_of_line hphase hline, hupcoming, follow_eq_carryOut, hopening, hpauses, if_pos rfl,
    if_pos rfl, Report.append_empty]
  rfl

/-! ## All calls -/

/-- Has a story been played to its end?  All commands that were left are carried out, each of the
calls before the last one told of one thing that waits, and together they told what carrying out the
commands tells, and then that the story is over. -/
structure PlayedOut (story : Interpreter) (upcoming : List Command)
    (played : Interpreter × List Report) : Prop where
  story_eq : played.1 = story.after upcoming .ended
  reports_split : ∃ paused final, played.2 = paused ++ [final] ∧
    paused.length = Command.pauseCount upcoming ∧ (∀ report ∈ paused, report.EndsWaiting) ∧
    ∃ before, final.events = before ++ [.storyEnd] ∧ ∀ event ∈ before, event.waits = false
  events_eq : played.2.flatMap Report.events = (story.told upcoming).events ++ [.storyEnd]
  warnings_eq : played.2.flatMap Report.warnings = (story.told upcoming).warnings

/-- In the last call nothing pauses any more. -/
theorem playedOut_of_silent {line : Nat} (hphase : story.phase ≠ .ended)
    (hline : story.session.line = line) (hupcoming : story.session.commands.drop line = upcoming)
    (hsilent : ∀ command ∈ upcoming, command.instruction.pauses = false) :
    PlayedOut story upcoming (story.calls [.advance]) := by
  rw [calls_cons, calls_nil, call, advance_of_silent hphase hline hupcoming hsilent]
  constructor
  · rfl
  · refine ⟨[], _, rfl, (Command.pauseCount_of_silent hsilent).symm, by simp,
      (story.told upcoming).events, rfl, ?_⟩
    exact story.session.waits_carryOut_of_silent hsilent
  · simp
  · simp

/-- A call before it stops at the next pause, and the others go on from there. -/
theorem PlayedOut.cons {later : List Call} {next : Interpreter}
    (hsilent : ∀ command ∈ before, command.instruction.pauses = false)
    (hlast : last.instruction.pauses = true)
    (hnext : story.after (before ++ [last]) .running = next)
    (hadvance : story.advance = (next, story.told (before ++ [last])))
    (hrest : PlayedOut next rest (next.calls later)) :
    PlayedOut story (before ++ last :: rest) (story.calls (.advance :: later)) := by
  have hsplit : before ++ last :: rest = (before ++ [last]) ++ rest :=
    List.append_cons before last rest
  have htold : story.told (before ++ last :: rest) =
      story.told (before ++ [last]) ++ next.told rest := by
    rw [hsplit, told_append _ _ .running, hnext]
  rw [calls_cons, call, hadvance]
  constructor
  · rw [hsplit, after_append _ _ .running, hnext]
    exact hrest.story_eq
  · obtain ⟨paused, final, hreports, hlength, hpaused, hfinal⟩ := hrest.reports_split
    refine ⟨story.told (before ++ [last]) :: paused, final, ?_, ?_, ?_, hfinal⟩
    · rw [hreports, List.cons_append]
    · rw [List.length_cons, hlength, Command.pauseCount_append,
        Command.pauseCount_of_silent hsilent, Command.pauseCount_cons_of_pauses hlast, Nat.zero_add]
    · refine List.forall_mem_cons.mpr ⟨?_, hpaused⟩
      exact story.session.endsWaiting_carryOut hsilent hlast
  · rw [List.flatMap_cons, hrest.events_eq, htold, Report.events_append, List.append_assoc]
  · rw [List.flatMap_cons, hrest.warnings_eq, htold, Report.warnings_append]

/-- Going on as often as the commands that are left pause, and once more, plays a story to its
end, and no sooner. -/
theorem playedOut_calls {line pauses : Nat} (hphase : story.phase ≠ .ended)
    (hline : story.session.line = line) (hupcoming : story.session.commands.drop line = upcoming)
    (hpauses : Command.pauseCount upcoming = pauses) :
    PlayedOut story upcoming (story.calls (List.replicate (pauses + 1) .advance)) ∧
      ∀ calls ≤ pauses, (story.calls (List.replicate calls .advance)).1.phase ≠ .ended := by
  induction pauses generalizing story line upcoming with
  | zero =>
      have hsilent : ∀ command ∈ upcoming, command.instruction.pauses = false :=
        Command.silent_of_pauseCount hpauses
      refine ⟨playedOut_of_silent hphase hline hupcoming hsilent, ?_⟩
      intro calls hcalls
      obtain rfl : calls = 0 := Nat.le_zero.mp hcalls
      exact hphase
  | succ pauses ih =>
      obtain ⟨before, last, rest, rfl, hsilent, hlast⟩ :
          ∃ before last rest, upcoming = before ++ last :: rest ∧
            (∀ command ∈ before, command.instruction.pauses = false) ∧
            last.instruction.pauses = true := by
        refine (Command.silent_or_split upcoming).resolve_left ?_
        intro hsilent
        rw [Command.pauseCount_of_silent hsilent] at hpauses
        cases hpauses
      have hadvance := advance_of_pauses hphase hline hupcoming hsilent hlast
      set next := story.after (before ++ [last]) .running with hnext
      -- the next call finds what comes after the pause
      obtain ⟨hline', hupcoming'⟩ :=
        upcoming_after hline (hupcoming.trans (List.append_cons before last rest)) .running
      rw [← hnext] at hline' hupcoming'
      have hpauses' : Command.pauseCount rest = pauses := by
        rw [Command.pauseCount_append, Command.pauseCount_of_silent hsilent,
          Command.pauseCount_cons_of_pauses hlast] at hpauses
        omega
      have hrunning : next.phase ≠ .ended := Phase.noConfusion
      obtain ⟨hplayed, hsooner⟩ := ih hrunning hline' hupcoming' hpauses'
      refine ⟨PlayedOut.cons hsilent hlast rfl hadvance hplayed, ?_⟩
      intro calls hcalls
      cases calls with
      | zero => exact hphase
      | succ calls =>
          rw [List.replicate_succ, calls_cons, call, hadvance]
          exact hsooner calls (Nat.le_of_succ_le_succ hcalls)

end Interpreter

/-! ## After the end -/

/-- What can be done to a story from outside. -/
inductive Intervention where
  | call (next : Call)
  /-- Set the line of the session. -/
  | moveTo (line : Int)
  /-- Set the name of the player. -/
  | rename (name : String)
  deriving DecidableEq, Repr

/-- Does a call return, and tell of nothing but the stage? -/
structure Report.OnlyOfStage (report : Report) : Prop where
  stray_eq : report.stray = false
  isOfStage : ∀ event ∈ report.events, event.isOfStage = true

theorem Stage.isOfStage_applyAll {catalog : Catalog} {resolver : Resolver} (stage : Stage)
    (commands : List Command) :
    ∀ event ∈ (stage.applyAll catalog resolver commands).2, event.isOfStage = true := by
  induction commands generalizing stage with
  | nil => simp
  | cons command rest ih =>
      intro event hmem
      rcases List.mem_append.mp hmem with hmem | hmem
      · exact Stage.isOfStage_of_apply (Option.mem_toList.mp hmem)
      · exact ih _ event hmem

namespace Interpreter

/-- The story after an intervention, and what it told. -/
def intervene (story : Interpreter) : Intervention → Interpreter × Report
  | .call next => story.call next
  | .moveTo line => ({ story with session := { story.session with line := line } }, {})
  | .rename name => (story.named name, {})

/-- The story after some interventions, and what each of them told. -/
def interveneAll (story : Interpreter) : List Intervention → Interpreter × List Report
  | [] => (story, [])
  | next :: rest =>
    let (changed, report) := story.intervene next
    let (last, reports) := changed.interveneAll rest
    (last, report :: reports)

variable {story : Interpreter}

theorem onlyOfStage_rebuildStage (story : Interpreter) (target : Int) :
    (story.rebuildStage target).2.OnlyOfStage :=
  ⟨rfl, Stage.isOfStage_applyAll _ _⟩

theorem start_of_ended (hended : story.phase = .ended) :
    story.start.1.phase = .ended ∧ story.start.2.OnlyOfStage := by
  by_cases hpos : 0 < story.placed.session.line
  · have hrebuilt : story.rebuilt.1.phase = .ended := hended
    rw [start_of_pos hpos, advance_of_ended hrebuilt, Report.append_empty]
    exact ⟨hended, onlyOfStage_rebuildStage _ _⟩
  · have hplaced : story.placed.phase = .ended := hended
    rw [start_of_not_pos hpos, advance_of_ended hplaced]
    exact ⟨hended, rfl, by simp⟩

/-- A story that is over stays over, whatever is done to it, and tells of nothing but its stage. -/
theorem intervene_of_ended (hended : story.phase = .ended) (next : Intervention) :
    (story.intervene next).1.phase = .ended ∧ (story.intervene next).2.OnlyOfStage := by
  cases next with
  | moveTo line => exact ⟨hended, rfl, by simp [intervene]⟩
  | rename name => exact ⟨hended, rfl, by simp [intervene]⟩
  | call next =>
      cases next with
      | start => exact start_of_ended hended
      | advance =>
          rw [intervene, call, advance_of_ended hended]
          exact ⟨hended, rfl, by simp⟩
      | rebuildAt target => exact ⟨hended, onlyOfStage_rebuildStage story target⟩
      | rebuildHere => exact ⟨hended, onlyOfStage_rebuildStage story story.session.line⟩

theorem interveneAll_of_ended (hended : story.phase = .ended) (later : List Intervention) :
    (story.interveneAll later).1.phase = .ended ∧
      ∀ report ∈ (story.interveneAll later).2, report.OnlyOfStage := by
  induction later generalizing story with
  | nil => exact ⟨hended, by simp [interveneAll]⟩
  | cons next rest ih =>
      obtain ⟨hnext, htold⟩ := intervene_of_ended hended next
      obtain ⟨hlast, hreports⟩ := ih hnext
      exact ⟨hlast, List.forall_mem_cons.mpr ⟨htold, hreports⟩⟩

end Interpreter

end VisualNovel
