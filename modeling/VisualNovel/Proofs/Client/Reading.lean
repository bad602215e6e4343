import VisualNovel.Proofs.Client.Requests

/-!
# How far a reader gets

A reader who goes on often enough gets to the end of the story, and not before.  A story says how
often it can go on still (`Interpreter.callsLeft`): once for each command that pauses, and once more
for the end.  Its start is the first of these calls, so the reader has to go on as often as commands
pause from the first line on.

The answers decide how often he does (`goingOn`).  One that saves does not count, and what comes
after one that quits is not heard any more.  A game is read answer by answer (`reading_turns`); what
a save writes does not belong to the story, and whatever comes of it the reading goes on.

At the prompt for a name every answer that is not blank is a name, also one that would save or quit
later on.  So the answers for the story are those after the name (`Player.replies`).
-/

namespace VisualNovel

/-! ## How often a story goes on -/

namespace Interpreter

variable {story : Interpreter} {tenant : String}

/-- How many commands pause the story from its line on. -/
def pausesLeft (story : Interpreter) : Nat :=
  Command.pauseCount (story.session.commands.drop story.session.line.toNat)

/-- How often the story can go on until it is over. -/
def callsLeft (story : Interpreter) : Nat :=
  if story.phase = .ended then 0 else story.pausesLeft + 1

theorem callsLeft_of_ended (hended : story.phase = .ended) : story.callsLeft = 0 := if_pos hended

theorem callsLeft_of_not_ended (hphase : story.phase ≠ .ended) :
    story.callsLeft = story.pausesLeft + 1 :=
  if_neg hphase

theorem callsLeft_eq_zero : story.callsLeft = 0 ↔ story.phase = .ended := by
  by_cases hphase : story.phase = .ended
  · simp [callsLeft, hphase]
  · simp [callsLeft, hphase]

/-- Going on ends a story or takes it past one pause.  It tells that the story is over in the first
case only. -/
theorem advance_callsLeft (honScript : story.OnScript) (hphase : story.phase ≠ .ended) :
    story.advance.1.callsLeft = story.pausesLeft ∧
      (.storyEnd ∈ story.advance.2.events ↔ story.advance.1.phase = .ended) := by
  have hline := honScript.line_eq_toNat
  have hnever : ∀ commands, .storyEnd ∉ (story.told commands).events :=
    story.session.storyEnd_not_mem_carryOut
  rcases Command.silent_or_split (story.session.commands.drop story.session.line.toNat) with
    hsilent | ⟨before, last, rest, hupcoming, hsilent, hlast⟩
  · rw [advance_of_silent hphase hline rfl hsilent, pausesLeft,
      Command.pauseCount_of_silent hsilent]
    exact ⟨callsLeft_of_ended rfl, by simp [after]⟩
  · obtain ⟨hline', hupcoming'⟩ :=
      upcoming_after hline (hupcoming.trans (List.append_cons before last rest)) .running
    have hrunning : (story.after (before ++ [last]) .running).phase ≠ .ended := Phase.noConfusion
    rw [advance_of_pauses hphase hline hupcoming hsilent hlast]
    constructor
    · rw [callsLeft_of_not_ended hrunning, pausesLeft, hline', Int.toNat_natCast, hupcoming',
        pausesLeft, hupcoming, Command.pauseCount_append, Command.pauseCount_of_silent hsilent,
        Command.pauseCount_cons_of_pauses hlast, Nat.zero_add]
    · exact iff_of_false (hnever _) hrunning

theorem callsLeft_advance (honScript : story.OnScript) :
    story.advance.1.callsLeft = story.callsLeft - 1 := by
  by_cases hphase : story.phase = .ended
  · rw [advance_of_ended hphase, callsLeft_of_ended hphase]
  · rw [callsLeft_of_not_ended hphase, Nat.add_sub_cancel]
    exact (advance_callsLeft honScript hphase).1

theorem callsLeft_calls (honScript : story.OnScript) (calls : Nat) :
    (story.calls (List.replicate calls .advance)).1.callsLeft = story.callsLeft - calls := by
  induction calls generalizing story with
  | zero => rfl
  | succ calls ih =>
      show (story.advance.1.calls (List.replicate calls .advance)).1.callsLeft = _
      rw [ih honScript.advance.1, callsLeft_advance honScript]
      omega

theorem storyEnd_mem_calls (honScript : story.OnScript) (hphase : story.phase ≠ .ended)
    (calls : Nat) :
    let played := story.calls (List.replicate calls .advance)
    .storyEnd ∈ played.2.flatMap Report.events ↔ played.1.phase = .ended := by
  induction calls generalizing story with
  | zero => exact iff_of_false List.not_mem_nil hphase
  | succ calls ih =>
      have hend := (advance_callsLeft honScript hphase).2
      show _ ∈ story.advance.2.events ++
          (story.advance.1.calls (List.replicate calls .advance)).2.flatMap Report.events ↔
        (story.advance.1.calls (List.replicate calls .advance)).1.phase = .ended
      rw [List.mem_append, hend]
      by_cases hended : story.advance.1.phase = .ended
      · -- a story that is over stays over
        have hover := callsLeft_calls honScript.advance.1 calls
        rw [callsLeft_of_ended hended, Nat.zero_sub, callsLeft_eq_zero] at hover
        exact iff_of_true (Or.inl hended) hover
      · exact (or_iff_right hended).trans (ih honScript.advance.1 hended)

theorem begun_pausesLeft (story : Interpreter) : story.begun.1.pausesLeft = story.pausesLeft :=
  congrArg Command.pauseCount story.begun_upcoming

namespace Untold

variable (huntold : story.Untold tenant)
include huntold

theorem notEnded : story.phase ≠ .ended := by
  rw [huntold.phase_eq]
  exact Phase.noConfusion

theorem start_callsLeft : story.start.1.callsLeft = story.pausesLeft := by
  rw [start_eq_begun, ← begun_pausesLeft]
  exact (advance_callsLeft huntold.onScript.begun (begun_notEnded huntold.notEnded)).1

/-- A story that is started and goes on for some times is over when no pauses are left, and it is
told then. -/
theorem calls_start (calls : Nat) :
    let played := story.calls (.start :: List.replicate calls .advance)
    (played.1.phase = .ended ↔ story.pausesLeft ≤ calls) ∧
      (.storyEnd ∈ played.2.flatMap Report.events ↔ story.pausesLeft ≤ calls) := by
  intro played
  have hplayed : played.1 = (story.begun.1.calls (List.replicate (calls + 1) .advance)).1 := by
    show (story.start.1.calls _).1 = _
    rw [start_eq_begun]
    rfl
  have hevents : played.2.flatMap Report.events = story.begun.2.events ++
      (story.begun.1.calls (List.replicate (calls + 1) .advance)).2.flatMap Report.events := by
    show story.start.2.events ++ (story.start.1.calls _).2.flatMap Report.events = _
    rw [start_eq_begun, Report.events_append, List.append_assoc]
    rfl
  have hbegun : .storyEnd ∉ story.begun.2.events := by
    unfold begun
    split
    · exact fun hmem => Bool.noConfusion ((onlyOfStage_rebuildStage _ _).isOfStage _ hmem)
    · exact List.not_mem_nil
  have hover : played.1.phase = .ended ↔ story.pausesLeft ≤ calls := by
    rw [hplayed, ← callsLeft_eq_zero, callsLeft_calls huntold.onScript.begun,
      callsLeft_of_not_ended (begun_notEnded huntold.notEnded), begun_pausesLeft]
    omega
  refine ⟨hover, ?_⟩
  rw [hevents, List.mem_append, or_iff_right hbegun, ← hover, hplayed]
  exact storyEnd_mem_calls huntold.onScript.begun (begun_notEnded huntold.notEnded) (calls + 1)

end Untold

end Interpreter

/-! ## Answers and prompts -/

/-- How many of the answers go on before one quits. -/
def goingOn (answers : List String) : Nat :=
  (answers.takeWhile fun answer => Choice.ofAnswer answer ≠ .quit).countP
    fun answer => Choice.ofAnswer answer = .goOn

/-- The answers that are heard while a story is read that can go on so often. -/
def heard : Nat → List String → List String
  | 0, _ => []
  | _ + 1, [] => []
  | calls + 1, answer :: rest =>
    match Choice.ofAnswer answer with
    | .quit => [answer]
    | .save => answer :: heard (calls + 1) rest
    | .goOn => answer :: heard calls rest

/-- The answers for the story: all of them if the player has a name, or else those after it. -/
def Player.replies (answers : List String) : Player → List String
  | new none => (answers.dropWhile fun answer => strippedAnswer answer = "").drop 1
  | _ => answers

/-- How often the player is asked for a name. -/
def Player.questions (answers : List String) : Player → Nat
  | new none => (answers.takeWhile fun answer => strippedAnswer answer = "").length + 1
  | _ => 0

/-- The prompt, if this is one. -/
def TerminalEvent.prompt? : TerminalEvent → Option String
  | written _ => none
  | prompted text => some text

/-- The prompts among what happens. -/
def prompts (transcript : List TerminalEvent) : List String :=
  transcript.filterMap TerminalEvent.prompt?

section

variable {answer : String} {rest : List String} {calls : Nat}

theorem goingOn_cons_of_quit (hquit : Choice.ofAnswer answer = .quit) :
    goingOn (answer :: rest) = 0 := by
  simp [goingOn, hquit]

theorem goingOn_cons_of_save (hsave : Choice.ofAnswer answer = .save) :
    goingOn (answer :: rest) = goingOn rest := by
  simp [goingOn, hsave]

theorem goingOn_cons_of_goOn (hgoOn : Choice.ofAnswer answer = .goOn) :
    goingOn (answer :: rest) = goingOn rest + 1 := by
  simp [goingOn, hgoOn]

theorem heard_cons_of_quit (hquit : Choice.ofAnswer answer = .quit) :
    heard (calls + 1) (answer :: rest) = [answer] := by
  rw [heard, hquit]

theorem heard_cons_of_save (hsave : Choice.ofAnswer answer = .save) :
    heard (calls + 1) (answer :: rest) = answer :: heard (calls + 1) rest := by
  rw [heard, hsave]

theorem heard_cons_of_goOn (hgoOn : Choice.ofAnswer answer = .goOn) :
    heard (calls + 1) (answer :: rest) = answer :: heard calls rest := by
  rw [heard, hgoOn]

theorem heard_zero (answers : List String) : heard 0 answers = [] := by
  cases answers <;> rfl

theorem prompts_append (first second : List TerminalEvent) :
    prompts (first ++ second) = prompts first ++ prompts second :=
  List.filterMap_append

theorem prompts_written (lines : List String) : prompts (Console.written lines) = [] :=
  List.filterMap_eq_nil_iff.mpr fun _ hmem => by
    obtain ⟨line, -, rfl⟩ := List.mem_map.mp hmem
    rfl

theorem prompts_told (step : Interpreter × Except StoryFault Report) :
    prompts (Console.told step).1 = [] := by
  rcases step with ⟨story, fault | report⟩
  · rfl
  · exact prompts_written _

theorem prompts_savedLines (outcome : Except ClientFault Json) :
    prompts (savedLines outcome) = [] := by
  rcases outcome with fault | code
  · cases fault <;> rfl
  · rfl

theorem prompts_announced (player : Player) : prompts player.announced = [] := by
  cases player <;> rfl

end

/-! ## Reading -/

/-- What comes of a story that has started when it is read with some answers.  The end of the
answers is like one that quits: there is a prompt for it. -/
structure Reading (story : Interpreter) (answers : List String) (run : List Turn × Situation) :
    Prop where
  story_eq : Turn.story run.1 = Console.written (Event.lines
    ((story.calls (List.replicate (min story.callsLeft (goingOn answers)) .advance)).2.flatMap
      Report.events))
  prompts_eq : prompts (run.1.flatMap Turn.transcript ++ run.2.asked) =
    List.replicate (heard story.callsLeft (answers ++ ["q"])).length "> "
  ending_eq : run.2.ending = .exited 0

section

variable {σ : Type} {console : Console σ} {story : Interpreter} {answers : List String}

theorem reading_of_ended (hended : story.phase = .ended) :
    Reading story answers ([], .finished (.exited 0)) := by
  have hleft := Interpreter.callsLeft_of_ended hended
  constructor
  · rw [hleft, Nat.zero_min]
    rfl
  · rw [hleft, heard_zero]
    rfl
  · rfl

theorem Reading.cons_of_goOn {answer : String} {later : List Turn × Situation}
    (hphase : story.phase ≠ .ended) (honScript : story.OnScript)
    (hgoOn : Choice.ofAnswer answer = .goOn)
    (hlater : Reading story.advance.1 answers later) :
    Reading story (answer :: answers)
      (⟨.reading story, answer, Console.written (Event.lines story.advance.2.events)⟩ :: later.1,
        later.2) := by
  have hleft : story.callsLeft = story.advance.1.callsLeft + 1 := by
    rw [Interpreter.callsLeft_advance honScript, Interpreter.callsLeft_of_not_ended hphase]
    rfl
  have hsaves : (Situation.reading story).saves answer = false := by
    simp [Situation.saves, hgoOn]
  constructor
  · rw [hleft, goingOn_cons_of_goOn hgoOn, Nat.add_min_add_right, List.replicate_succ,
      Interpreter.calls_cons, List.flatMap_cons, Event.lines_append, Console.written_append,
      Turn.story_cons_of_not_saves hsaves, hlater.story_eq]
    rfl
  · rw [hleft, List.cons_append, heard_cons_of_goOn hgoOn, List.length_cons, List.replicate_succ,
      ← hlater.prompts_eq, List.flatMap_cons, List.append_assoc, prompts_append]
    show "> " :: prompts (Console.written _) ++ _ = _
    rw [prompts_written]
    rfl
  · exact hlater.ending_eq

theorem Reading.cons_of_save {answer : String} {later : List Turn × Situation}
    (hphase : story.phase ≠ .ended) (hsave : Choice.ofAnswer answer = .save)
    (outcome : Except ClientFault Json) (hlater : Reading story answers later) :
    Reading story (answer :: answers)
      (⟨.reading story, answer, savedLines outcome⟩ :: later.1, later.2) := by
  have hleft := Interpreter.callsLeft_of_not_ended hphase
  constructor
  · rw [goingOn_cons_of_save hsave, Turn.story_cons_of_saves hsave]
    exact hlater.story_eq
  · rw [hleft, List.cons_append, heard_cons_of_save hsave, ← hleft, List.length_cons,
      List.replicate_succ, ← hlater.prompts_eq, List.flatMap_cons, List.append_assoc,
      prompts_append]
    show "> " :: prompts (savedLines outcome) ++ _ = _
    rw [prompts_savedLines]
    rfl
  · exact hlater.ending_eq

theorem reading_of_quit {answer : String} (hphase : story.phase ≠ .ended)
    (hquit : Choice.ofAnswer answer = .quit) :
    Reading story (answer :: answers)
      ([⟨.reading story, answer, []⟩], .finished (.exited 0)) := by
  constructor
  · rw [goingOn_cons_of_quit hquit, Nat.min_zero, Turn.story_cons_of_not_saves
      (by simp [Situation.saves, hquit])]
    rfl
  · rw [Interpreter.callsLeft_of_not_ended hphase, List.cons_append, heard_cons_of_quit hquit]
    rfl
  · rfl

theorem ofStory_of_not_ended (hphase : story.phase ≠ .ended) :
    Situation.ofStory story = .reading story :=
  if_neg hphase

/-- An answer that goes on takes the reader on if there are the addresses for it, and to the end of
the game otherwise. -/
theorem run_turns_cons_of_goOn {answer : String} {rest : List String} {world : σ}
    (hgoOn : Choice.ofAnswer answer = .goOn) :
    (console.turns (.reading story) (answer :: rest)).run world =
      let told := Console.told story.tryAdvance
      let later := (console.turns told.2 rest).run world
      ((⟨.reading story, answer, told.1⟩ :: later.1.1, later.1.2), later.2) := by
  rw [Console.run_turns_cons_of_not_saves console (fun _ => Situation.noConfusion)
    (by simp [Situation.saves, hgoOn]), Situation.goOn, if_neg (by simp [hgoOn])]

/-- A story is read answer by answer, as far as there are addresses for it. -/
theorem reading_turns {world : σ} (hslips : console.slips = none)
    (horderly : console.gateway.Orderly world) (honScript : story.OnScript)
    (hreadable : story.Readable (goingOn answers)) :
    Reading story answers ((console.turns (.ofStory story) answers).run world).1 := by
  induction answers generalizing story world with
  | nil =>
      rw [Console.turns_nil]
      by_cases hended : story.phase = .ended
      · rw [Situation.ofStory, if_pos hended]
        exact reading_of_ended hended
      · have hquit : Choice.ofAnswer "q" = .quit := by decide +kernel
        rw [ofStory_of_not_ended hended]
        constructor
        · rw [show goingOn [] = 0 from rfl, Nat.min_zero]
          rfl
        · rw [Interpreter.callsLeft_of_not_ended hended, List.nil_append,
            heard_cons_of_quit hquit]
          rfl
        · rfl
  | cons answer rest ih =>
      by_cases hended : story.phase = .ended
      · rw [Situation.ofStory, if_pos hended, Console.turns_finished]
        exact reading_of_ended hended
      rw [ofStory_of_not_ended hended]
      cases hchoice : Choice.ofAnswer answer with
      | quit =>
          rw [Console.run_turns_cons_of_not_saves console (fun _ => Situation.noConfusion)
            (by simp [Situation.saves, hchoice]), Situation.goOn, if_pos hchoice,
            Console.turns_finished]
          exact reading_of_quit hended hchoice
      | save =>
          rw [goingOn_cons_of_save hchoice] at hreadable
          rw [Console.run_turns_cons_of_saves hslips horderly hchoice honScript.line_eq_toNat]
          refine Reading.cons_of_save hended hchoice _ ?_
          -- a save leaves the story alone and takes none of the steps
          rw [← ofStory_of_not_ended hended]
          exact ih (comesTo_call console.gateway _ _ _ horderly).2 honScript hreadable
      | goOn =>
          rw [goingOn_cons_of_goOn hchoice,
            Interpreter.readable_succ_iff honScript hended] at hreadable
          obtain ⟨hnext, hlater⟩ := hreadable
          have hadvance : story.tryAdvance = (story.advance.1, .ok story.advance.2) :=
            ((Interpreter.tryAdvance_cases honScript hended).resolve_right
              fun hgiven => hgiven.1 hnext).2
          rw [run_turns_cons_of_goOn hchoice, hadvance]
          exact (ih horderly honScript.advance.1 hlater).cons_of_goOn hended honScript hchoice

/-- What comes of a story that has started when it cannot be read as far as the answers go: after
some steps the next one is given up, and that is the end. -/
structure BreaksOff (story : Interpreter) (answers : List String) (run : List Turn × Situation)
    (made : Nat) : Prop where
  made_lt : made < goingOn answers
  readable : story.Readable made
  unreadable : ¬story.Readable (made + 1)
  story_eq : Turn.story run.1 = Console.written (Event.lines
    ((story.calls (List.replicate made .advance)).2.flatMap Report.events))
  ending_eq : ∃ fault, run.2 = .finished (.untold (.unencodable fault))

theorem BreaksOff.cons_of_goOn {answer : String} {later : List Turn × Situation} {made : Nat}
    (hphase : story.phase ≠ .ended) (honScript : story.OnScript)
    (hnext : ∀ command ∈ story.next, command.Addressable story.session.catalog)
    (hgoOn : Choice.ofAnswer answer = .goOn)
    (hlater : BreaksOff story.advance.1 answers later made) :
    BreaksOff story (answer :: answers)
      (⟨.reading story, answer, Console.written (Event.lines story.advance.2.events)⟩ :: later.1,
        later.2) (made + 1) where
  made_lt := by
    rw [goingOn_cons_of_goOn hgoOn]
    exact Nat.succ_lt_succ hlater.made_lt
  readable := by
    rw [Interpreter.readable_succ_iff honScript hphase]
    exact ⟨hnext, hlater.readable⟩
  unreadable := by
    rw [Interpreter.readable_succ_iff honScript hphase]
    exact fun hreadable => hlater.unreadable hreadable.2
  story_eq := by
    rw [Turn.story_cons_of_not_saves (by simp [Situation.saves, hgoOn]), hlater.story_eq,
      List.replicate_succ, Interpreter.calls_cons, List.flatMap_cons, Event.lines_append,
      Console.written_append]
    rfl
  ending_eq := hlater.ending_eq

theorem BreaksOff.cons_of_save {answer : String} {later : List Turn × Situation} {made : Nat}
    (hsave : Choice.ofAnswer answer = .save) (outcome : Except ClientFault Json)
    (hlater : BreaksOff story answers later made) :
    BreaksOff story (answer :: answers)
      (⟨.reading story, answer, savedLines outcome⟩ :: later.1, later.2) made where
  made_lt := by
    rw [goingOn_cons_of_save hsave]
    exact hlater.made_lt
  readable := hlater.readable
  unreadable := hlater.unreadable
  story_eq := by
    rw [Turn.story_cons_of_saves hsave]
    exact hlater.story_eq
  ending_eq := hlater.ending_eq

theorem breaksOff_of_not_addressable {answer : String} {fault : Text.Unencodable}
    (hphase : story.phase ≠ .ended) (honScript : story.OnScript)
    (hnext : ¬∀ command ∈ story.next, command.Addressable story.session.catalog)
    (hgoOn : Choice.ofAnswer answer = .goOn) :
    BreaksOff story (answer :: answers)
      ([⟨.reading story, answer, []⟩], .finished (.untold (.unencodable fault))) 0 where
  made_lt := by
    rw [goingOn_cons_of_goOn hgoOn]
    exact Nat.succ_pos _
  readable := story.readable_zero
  unreadable := by
    rw [Interpreter.readable_succ_iff honScript hphase]
    exact fun hreadable => hnext hreadable.1
  story_eq := Turn.story_cons_of_not_saves (by simp [Situation.saves, hgoOn]) _ _
  ending_eq := ⟨fault, rfl⟩

/-- A story that cannot be read as far as the answers go is read up to the first command without an
address. -/
theorem breaksOff_turns {world : σ} (hslips : console.slips = none)
    (horderly : console.gateway.Orderly world) (honScript : story.OnScript)
    (hunreadable : ¬story.Readable (goingOn answers)) :
    ∃ made, BreaksOff story answers
      ((console.turns (.ofStory story) answers).run world).1 made := by
  induction answers generalizing story world with
  | nil => exact absurd story.readable_zero hunreadable
  | cons answer rest ih =>
      have hended : story.phase ≠ .ended :=
        fun hended => hunreadable (Interpreter.readable_of_ended hended)
      rw [ofStory_of_not_ended hended]
      cases hchoice : Choice.ofAnswer answer with
      | quit =>
          rw [goingOn_cons_of_quit hchoice] at hunreadable
          exact absurd story.readable_zero hunreadable
      | save =>
          rw [goingOn_cons_of_save hchoice] at hunreadable
          obtain ⟨made, hlater⟩ :=
            ih (comesTo_call console.gateway _ _ _ horderly).2 honScript hunreadable
          rw [ofStory_of_not_ended hended] at hlater
          rw [Console.run_turns_cons_of_saves hslips horderly hchoice honScript.line_eq_toNat]
          exact ⟨made, hlater.cons_of_save hchoice _⟩
      | goOn =>
          rw [run_turns_cons_of_goOn hchoice]
          rcases Interpreter.tryAdvance_cases honScript hended with ⟨hnext, hadvance⟩ |
            ⟨hnext, given, fault, hadvance⟩
          · rw [goingOn_cons_of_goOn hchoice, Interpreter.readable_succ_iff honScript hended,
              and_iff_right hnext] at hunreadable
            obtain ⟨made, hlater⟩ := ih horderly honScript.advance.1 hunreadable
            rw [hadvance]
            exact ⟨made + 1, hlater.cons_of_goOn hended honScript hnext hchoice⟩
          · -- the address is missing right here, and the game is over
            have hlost : Console.told (given, .error (.unencodable fault)) =
                ([], .finished (.untold (.unencodable fault))) := rfl
            rw [hadvance, hlost]
            simp only [Console.turns_finished]
            exact ⟨0, breaksOff_of_not_addressable hended honScript hnext hchoice⟩

end

end VisualNovel
