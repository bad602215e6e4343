import Mathlib.Order.Bounds.Defs
import VisualNovel.Proofs.Story.PlayThrough

/-!
# Going on to the next pause

What one call of `advance` does can be said without going through the script step by step.  The
script is cut once, after the next command that pauses, which is the one at the least place from the
line on; if there is none, the rest of the script is taken.  The commands of this segment are
carried out, each of them once and in order, and nothing else is.

What a command shows is said by its kind (`Session.showing`).  It depends on the stage for two of
them, so the events of a segment are those of its commands, each on the stage that the commands
before it leave (`events_carryOut`).
-/

namespace VisualNovel

/-! ## Places of the script -/

namespace Command

/-- Does the story pause at the place of the script? -/
def PausesAt (commands : List Command) (place : Nat) : Prop :=
  ∃ command ∈ commands[place]?, command.kind = "text" ∨ command.kind = "img_show"

instance (commands : List Command) (place : Nat) : Decidable (PausesAt commands place) :=
  inferInstanceAs (Decidable (∃ _ ∈ _, _))

/-- The places from a line on at which the story pauses. -/
def pausesFrom (commands : List Command) (first : Nat) : Set Nat :=
  {place | first ≤ place ∧ PausesAt commands place}

/-- The commands from a line on that are before another one. -/
def segment (commands : List Command) (first last : Nat) : List Command :=
  (commands.take last).drop first

variable {commands : List Command} {first last : Nat}

theorem silent_of_mem_segment (hsilent : ∀ place < last, place ∉ pausesFrom commands first) :
    ∀ command ∈ segment commands first last, command.instruction.pauses = false := by
  intro command hmem
  obtain ⟨step, hstep⟩ := List.mem_iff_getElem?.mp hmem
  rw [segment, List.getElem?_drop, List.getElem?_take] at hstep
  split_ifs at hstep with hlt
  by_contra hpauses
  rw [Bool.not_eq_false, command.pauses_iff] at hpauses
  exact hsilent (first + step) hlt ⟨Nat.le_add_right first step, command, hstep, hpauses⟩

/-- The next pause cuts what comes up after a silent segment and the command that pauses. -/
theorem drop_of_isLeast (hlast : IsLeast (pausesFrom commands first) last) :
    ∃ command rest,
      commands.drop first = segment commands first last ++ command :: rest ∧
      segment commands first (last + 1) = segment commands first last ++ [command] ∧
      (∀ command ∈ segment commands first last, command.instruction.pauses = false) ∧
      command.instruction.pauses = true := by
  obtain ⟨⟨hle, command, hcommand, hkind⟩, hleast⟩ := hlast
  have hlt : last < commands.length := (List.getElem?_eq_some_iff.mp hcommand).1
  have htake : commands.take (last + 1) = commands.take last ++ [command] := by
    rw [List.take_add_one, hcommand]
    rfl
  have hlength : first ≤ (commands.take last).length := by
    rw [List.length_take]
    omega
  have hsegment : segment commands first (last + 1) = segment commands first last ++ [command] := by
    rw [segment, htake, List.drop_append_of_le_length hlength, segment]
  refine ⟨command, commands.drop (last + 1), ?_, hsegment, ?_, command.pauses_iff.mpr hkind⟩
  · calc commands.drop first
        = (commands.take (last + 1) ++ commands.drop (last + 1)).drop first := by
          rw [List.take_append_drop]
      _ = segment commands first (last + 1) ++ commands.drop (last + 1) := by
          rw [List.drop_append_of_le_length, segment]
          rw [List.length_take]
          omega
      _ = segment commands first last ++ command :: commands.drop (last + 1) := by
          rw [hsegment, List.append_assoc, List.singleton_append]
  · refine silent_of_mem_segment fun place hplace hpauses => ?_
    exact Nat.not_le_of_lt hplace (hleast hpauses)

theorem segment_all (commands : List Command) (first : Nat) :
    segment commands first commands.length = commands.drop first := by
  rw [segment, List.take_length]

theorem length_segment (commands : List Command) (first last : Nat) :
    (segment commands first last).length = min last commands.length - first := by
  rw [segment, List.length_drop, List.length_take]

end Command

/-! ## What commands show -/

theorem Report.append_events (report : Report) (events : List Event) :
    report ++ { events := events } = { report with events := report.events ++ events } := by
  show append report _ = _
  rw [append, List.append_nil, Bool.or_false]

namespace Session

variable {resolver : Resolver}

/-- What a command shows to the player of the session, with a stage as it stands. -/
def showing (resolver : Resolver) (session : Session) (stage : Stage) (command : Command) :
    List Event :=
  if command.kind = "text" then
    [.dialogue command.param1 (session.speakerName command.param1)
      (Placeholder.fill session.player command.param2)
      (stage.portraits.keys.filter fun character => character ≠ command.param1)]
  else if command.kind = "img_show" then [.overlayShown (resolver.background command.param1)]
  else if command.kind = "img_hide" then [.overlayHidden]
  else if command.kind = "bg_change" then
    [.background command.param1 (resolver.background command.param1)]
  else if command.kind = "char_show" then
    [.portraitShown command.param1 command.param2
      (if command.param3 = "" then "center" else command.param3)
      (session.catalog.portraitAddress resolver command.param1 command.param2)]
  else if command.kind = "char_hide" ∧ command.param1 ∈ stage.portraits.keys then
    [.portraitHidden command.param1]
  else []

/-- The stage after some commands. -/
def staging (resolver : Resolver) (session : Session) (commands : List Command) : Stage :=
  (session.stage.applyAll session.catalog resolver commands).1

/-- What the commands of a segment show, each on the stage that the commands before it leave. -/
def showingAll (resolver : Resolver) (session : Session) (commands : List Command) : List Event :=
  commands.zipIdx.flatMap fun (command, before) =>
    session.showing resolver (session.staging resolver (commands.take before)) command

/-- Who is on the stage is told to leave, and nobody else. -/
theorem event_hideCharacter (session : Session) (stage : Stage) (character : String) :
    (stage.follow session.catalog resolver (.hideCharacter character)).2 =
      if character ∈ stage.portraits.keys then some (.portraitHidden character) else none := by
  cases hportrait : OrderedMap.at? character stage.portraits <;>
    simp [Stage.follow, OrderedMap.mem_keys_iff, hportrait]

theorem events_execute (session : Session) (line : Int) (command : Command) :
    (session.execute resolver line command).2.events =
      session.showing resolver session.stage command := by
  have hhide := @event_hideCharacter resolver session session.stage command.param1
  unfold execute showing Command.instruction
  split_ifs <;> simp_all [dialogue, Stage.follow, defaultPosition]

/-- What a command shows depends on the session only by what carrying out others does not touch. -/
theorem showing_past (session : Session) (stage : Stage) (earlier command : Command) :
    (session.past resolver earlier).showing resolver stage command =
      session.showing resolver stage command := by
  rw [past_eq]
  rfl

theorem showingAll_cons (session : Session) (command : Command) (rest : List Command) :
    session.showingAll resolver (command :: rest) =
      session.showing resolver session.stage command ++
        (session.past resolver command).showingAll resolver rest := by
  have hstaging : ∀ commands, session.staging resolver (command :: commands) =
      (session.past resolver command).staging resolver commands := fun commands => by
    rw [staging, staging, past_eq, Stage.applyAll_cons]
  rw [showingAll, List.zipIdx_cons', List.flatMap_cons, List.flatMap_map, showingAll]
  simp only [Prod.map_fst, Prod.map_snd, id_eq, List.take_succ_cons, hstaging, showing_past]
  rfl

theorem events_carryOut (session : Session) (commands : List Command) :
    (session.carryOut resolver commands).2.events = session.showingAll resolver commands := by
  induction commands generalizing session with
  | nil => rfl
  | cons command rest ih =>
      rw [carryOut_cons, Report.events_append, events_execute, ih, showingAll_cons]

/-- What is warned about when the commands from a line on are carried out. -/
def warning (first : Nat) (commands : List Command) : List Warning :=
  (commands.zipIdx first).filterMap fun (command, place) =>
    if command.isKnown then none else some ⟨command.kind, place⟩

/-- Carrying out commands tells what they show, and which of them are of unknown kinds. -/
theorem carryOut_report (session : Session) {first : Nat} (hline : session.line = first)
    (commands : List Command) :
    (session.carryOut resolver commands).2 =
      { events := session.showingAll resolver commands, warnings := warning first commands } := by
  have hevents := @events_carryOut resolver session commands
  have hwarnings := @warnings_carryOut resolver session first hline commands
  have hstray := @carryOut_stray resolver session commands
  revert hevents hwarnings hstray
  generalize (session.carryOut resolver commands).2 = report
  obtain ⟨events, warnings, stray⟩ := report
  rintro rfl rfl rfl
  rfl

theorem staging_filter (session : Session) (commands : List Command) :
    session.staging resolver
        (commands.filter fun command => command.kind ∈ ["bg_change", "char_show", "char_hide"]) =
      session.staging resolver commands := by
  rw [staging, staging, Command.decide_kind_mem, Stage.applyAll_filter]

end Session

namespace Interpreter

variable {story : Interpreter} {first : Nat}

/-- The story after the commands of a segment, on a line and in a phase. -/
def afterSegment (story : Interpreter) (segment : List Command) (line : Nat) (phase : Phase) :
    Interpreter :=
  { story with
    session := { story.session with
      line := line
      stage := story.session.staging story.resolver
        (segment.filter fun command => command.kind ∈ ["bg_change", "char_show", "char_hide"]) }
    phase := phase }

theorem after_eq_afterSegment (hline : story.session.line = first) {segment : List Command}
    {line : Nat} (hlength : line = first + segment.length) (phase : Phase) :
    story.after segment phase = story.afterSegment segment line phase := by
  rw [after, afterSegment, Session.carryOut_session, Session.staging_filter, hline, hlength]
  rfl

end Interpreter

end VisualNovel
