import VisualNovel.Proofs.Client.Opening

/-!
# What is sent to save

The payloads of the calls of `saveGame` are noted by a gateway beside the world
(`Gateway.notingSaves`).  There is one for each turn that saves, and none for the others
(`run_turns_notingSaves`).

What is sent comes from the story that is being read then, so it remains to say how far this story
has got.  `Situation.Follows` is the invariant of a game for that: the story that is read is the one
that was loaded, and the reader has been told what its commands tell that were carried out since it
began, and nothing else (`reads_turns`).
-/

namespace VisualNovel

/-! ## The saves of a game -/

/-- The gateway, with a note of what is sent to save. -/
def Gateway.notingSaves {σ : Type} (gateway : Gateway σ) : Gateway (σ × List Json) where
  call name payload := do
    let (world, sent) ← get
    let (reply, changed) := (gateway.call name payload).run world
    set (changed, if name = "saveGame" then sent ++ [payload] else sent)
    return reply

/-- What is sent when the turn saves. -/
def Turn.request? (turn : Turn) : Option Json :=
  match turn.before with
  | .reading story =>
    if turn.saves then
      some (SaveData.request story.session.tenant story.session.player story.session.line.toNat)
    else none
  | _ => none

namespace Turn

variable {situation : Situation} {answer : String}

theorem request?_of_saves {story : Interpreter} (hsaves : Choice.ofAnswer answer = .save)
    (shown : List TerminalEvent) :
    request? ⟨.reading story, answer, shown⟩ =
      some (SaveData.request story.session.tenant story.session.player
        story.session.line.toNat) :=
  if_pos (decide_eq_true hsaves)

theorem request?_of_not_saves (hsaves : situation.saves answer = false)
    (shown : List TerminalEvent) : request? ⟨situation, answer, shown⟩ = none := by
  cases situation with
  | reading story => exact if_neg (by rw [saves, hsaves]; exact Bool.false_ne_true)
  | _ => rfl

end Turn

namespace Console

variable {σ : Type} {console : Console σ} {situation : Situation}

/-- The console, with a note of what is sent to save.  No slips are written. -/
def notingSaves (console : Console σ) : Console (σ × List Json) where
  settings := console.settings
  gateway := console.gateway.notingSaves

theorem run_notingSaves (console : Console σ) (name : String) (payload : Json) (world : σ)
    (sent : List Json) :
    (console.notingSaves.gateway.call name payload).run (world, sent) =
      (((console.gateway.call name payload).run world).1,
        ((console.gateway.call name payload).run world).2,
        if name = "saveGame" then sent ++ [payload] else sent) :=
  rfl

theorem replies_notingSaves (console : Console σ) (calls : List (String × Json)) (world : σ)
    (sent : List Json) :
    console.notingSaves.gateway.replies calls (world, sent) =
      console.gateway.replies calls world := by
  induction calls generalizing world sent with
  | nil => rfl
  | cons call rest ih => exact congrArg (_ :: ·) (ih _ _)

theorem orderly_notingSaves {world : σ} (horderly : console.gateway.Orderly world)
    (sent : List Json) : console.notingSaves.gateway.Orderly (world, sent) := by
  intro calls
  rw [replies_notingSaves]
  exact horderly calls

/-- A turn that saves sends one request, and no other turn sends any. -/
theorem run_turns_notingSaves {world : σ} (hslips : console.slips = none)
    (horderly : console.gateway.Orderly world) {catalog : Catalog}
    (hsound : situation.Sound catalog) (answers : List String)
    (sent : List Json) :
    (console.notingSaves.turns situation answers).run (world, sent) =
      let run := (console.turns situation answers).run world
      (run.1, run.2, sent ++ run.1.1.filterMap Turn.request?) := by
  induction situation, answers using Situation.turn_by_turn generalizing world sent with
  | nil situation =>
      rw [turns_nil, turns_nil]
      show _ = (_, _, sent ++ [])
      rw [List.append_nil]
      rfl
  | finished ending answers =>
      rw [turns_finished, turns_finished]
      show _ = (_, _, sent ++ [])
      rw [List.append_nil]
      rfl
  | save story answer rest hchoice ih =>
      have hline := hsound.1.line_eq_toNat
      rw [run_turns_cons_of_saves hslips horderly hchoice hline,
        run_turns_cons_of_saves rfl (orderly_notingSaves horderly sent) hchoice hline]
      have hleft := (comesTo_call console.gateway "saveGame"
        (SaveData.request story.session.tenant story.session.player story.session.line.toNat)
        _ horderly).2
      simp only [run_notingSaves, if_true, ih hleft hsound,
        List.filterMap_cons_some (Turn.request?_of_saves hchoice _),
        List.append_assoc, List.singleton_append]
  | goOn situation answer rest hgoing hsaves ih =>
      rw [run_turns_cons_of_not_saves console hgoing hsaves,
        run_turns_cons_of_not_saves console.notingSaves hgoing hsaves]
      simp only [ih horderly (hsound.goOn answer),
        List.filterMap_cons_none (Turn.request?_of_not_saves hsaves _)]

end Console

/-! ## What the reader has been told -/

section

variable {story now : Interpreter} {story? : Option Interpreter} {told : List TerminalEvent}
  {executed : List Command} {situation : Situation} {answer : String} {rest : List String}
  {tenant : String}

/-- Has the reader been told what the commands tell that were carried out since `story` began? -/
structure Reads (story : Interpreter) (told : List TerminalEvent) (executed : List Command)
    (now : Interpreter) : Prop where
  carriedOut : story.begun.1.Executed executed now
  running : now.phase = .running
  told_eq : told = Console.written (Event.lines
    (story.begun.2.events ++ (story.begun.1.told executed).events))

namespace Reads

variable {story now : Interpreter} {told : List TerminalEvent} {executed : List Command}

theorem frame (hreads : Reads story told executed now) : Interpreter.SameFrame now story :=
  hreads.carriedOut.frame.trans story.begun_frame

end Reads

/-- Is the game, if it goes on, one with the given story, and has the reader been told of it?  There
is no story if a name is asked for that is never given. -/
def Situation.Follows (story? : Option Interpreter) (told : List TerminalEvent) :
    Situation → List String → Prop
  | finished _, _ => True
  | naming unnamed, answers => told = [] ∧ (nameAmong? answers).map unnamed.named = story?
  | reading now, _ => ∃ story executed, story? = some story ∧ Reads story told executed now

/-- A step that fails ends the game, so only what the others tell has to be followed. -/
theorem Situation.Follows.step {step : Interpreter × Except StoryFault Report}
    {answers : List String}
    (hgiven : ∀ given report, step = (given, .ok report) →
      (Situation.ofStory given).Follows story?
        (told ++ Console.written (Event.lines report.events)) answers) :
    (Console.told step).2.Follows story? (told ++ (Console.told step).1) answers := by
  rcases step with ⟨given, fault | report⟩
  · trivial
  · exact hgiven given report rfl

theorem follows_advance (huntold : story.Untold tenant)
    (hexecuted : story.begun.1.Executed executed now) (hphase : now.phase ≠ .ended)
    (htold : told = Console.written (Event.lines
      (story.begun.2.events ++ (story.begun.1.told executed).events))) (answers : List String) :
    (Situation.ofStory now.advance.1).Follows (some story)
      (told ++ Console.written (Event.lines now.advance.2.events)) answers := by
  obtain ⟨more, hmore, hidle, hevents⟩ :=
    hexecuted.advance huntold.onScript.begun.line_eq_toNat hphase
  unfold Situation.ofStory
  split
  · trivial
  · next hended =>
    rw [if_neg hended, List.append_nil] at hevents
    refine ⟨story, executed ++ more, rfl, hmore, ?_, ?_⟩
    · cases hnext : now.advance.1.phase with
      | idle => exact absurd hnext hidle
      | running => rfl
      | ended => exact absurd hnext hended
    · rw [htold, ← Console.written_append, ← Event.lines_append, List.append_assoc, hevents]

theorem follows_start (huntold : story.Untold tenant) (answers : List String) :
    (Situation.ofStory story.start.1).Follows (some story)
      (Console.written (Event.lines story.start.2.events)) answers := by
  have hbegun : story.begun.1.phase = .idle := by
    rw [Interpreter.begun_phase, huntold.phase_eq]
  have hnotEnded : story.begun.1.phase ≠ .ended := by
    rw [hbegun]
    decide
  have hfollows := follows_advance huntold (Interpreter.executed_nil hbegun) hnotEnded rfl answers
  have hnothing : (story.begun.1.told []).events = [] := rfl
  rw [hnothing, List.append_nil, ← Console.written_append, ← Event.lines_append] at hfollows
  rw [Interpreter.start_eq_begun]
  exact hfollows

theorem follows_tryStart (huntold : story.Untold tenant) (answers : List String) :
    (Console.told story.tryStart).2.Follows (some story) (Console.told story.tryStart).1
      answers := by
  rw [← List.nil_append (Console.told story.tryStart).1]
  refine Situation.Follows.step fun given report hgiven => ?_
  have hstart := follows_start huntold answers
  rwa [Interpreter.start_of_tryStart hgiven] at hstart

theorem Situation.Follows.goOn (huntold : ∀ story ∈ story?, story.Untold tenant)
    (hfollows : situation.Follows story? told (answer :: rest)) :
    (situation.goOn answer).2.Follows story? (told ++ (situation.goOn answer).1) rest := by
  cases situation with
  | finished ending => trivial
  | naming unnamed =>
      obtain ⟨rfl, hname⟩ := hfollows
      by_cases hblank : strippedAnswer answer = ""
      · simp only [Situation.goOn, hblank, if_true]
        rw [nameAmong?_cons_of_blank hblank] at hname
        exact ⟨rfl, hname⟩
      · simp only [Situation.goOn, hblank, if_false]
        rw [nameAmong?_cons_of_not_blank hblank, Option.map_some] at hname
        subst hname
        exact follows_tryStart (huntold _ rfl) rest
  | reading now =>
      obtain ⟨story, executed, rfl, hexecuted, hrunning, htold⟩ := hfollows
      simp only [Situation.goOn]
      split
      · trivial
      · refine .step fun given report hgiven => ?_
        have hadvance := follows_advance (huntold _ rfl) hexecuted (by rw [hrunning]; decide) htold
          rest
        rwa [Interpreter.advance_of_tryAdvance hgiven] at hadvance

theorem Situation.Follows.onScript {answers : List String}
    (huntold : ∀ story ∈ story?, story.Untold tenant)
    (hfollows : (Situation.reading now).Follows story? told answers) : now.OnScript := by
  obtain ⟨story, executed, rfl, hreads⟩ := hfollows
  have hbegun : 0 ≤ story.begun.1.session.line := (huntold _ rfl).onScript.begun
  rw [Interpreter.OnScript, hreads.carriedOut.line_eq]
  omega

theorem Reads.request?_eq (huntold : story.Untold tenant) (hreads : Reads story told executed now)
    (hsaves : Choice.ofAnswer answer = .save) (shown : List TerminalEvent) :
    Turn.request? ⟨.reading now, answer, shown⟩ =
      some (SaveData.request tenant story.session.player
        (story.begun.1.session.line.toNat + executed.length)) := by
  rw [Turn.request?_of_saves hsaves, hreads.frame.player_eq, hreads.frame.tenant_eq,
    huntold.tenant_eq, hreads.carriedOut.line_eq, huntold.onScript.begun.line_eq_toNat]
  rfl

variable {σ : Type} {console : Console σ} {answers : List String}

/-- At every prompt of a game the reader has been told of the story that is being read. -/
theorem reads_turns {world : σ} (hslips : console.slips = none)
    (horderly : console.gateway.Orderly world)
    (huntold : ∀ story ∈ story?, story.Untold tenant)
    (hfollows : situation.Follows story? told answers) {earlier later : List Turn} {turn : Turn}
    (hturns : ((console.turns situation answers).run world).1.1 = earlier ++ turn :: later)
    (hbefore : turn.before = .reading now) :
    ∃ story executed, story? = some story ∧
      Reads story (told ++ Turn.story earlier) executed now := by
  induction situation, answers using Situation.turn_by_turn
    generalizing told world earlier later turn with
  | nil situation =>
      rw [Console.turns_nil] at hturns
      cases earlier <;> cases hturns
  | finished ending answers =>
      rw [Console.turns_finished] at hturns
      cases earlier <;> cases hturns
  | save current answer rest hchoice ih =>
      have hline := (hfollows.onScript huntold).line_eq_toNat
      rw [Console.run_turns_cons_of_saves hslips horderly hchoice hline] at hturns
      cases earlier with
      | nil =>
          obtain ⟨rfl, -⟩ := List.cons.inj hturns
          cases hbefore
          rw [Turn.story_nil, List.append_nil]
          exact hfollows
      | cons head earlier =>
          obtain ⟨rfl, hlater⟩ := List.cons.inj hturns
          rw [Turn.story_cons_of_saves hchoice]
          exact ih (comesTo_call console.gateway _ _ _ horderly).2 hfollows hlater hbefore
  | goOn situation answer rest hgoing hsaves ih =>
      rw [Console.run_turns_cons_of_not_saves console hgoing hsaves] at hturns
      cases earlier with
      | nil =>
          obtain ⟨rfl, -⟩ := List.cons.inj hturns
          cases hbefore
          rw [Turn.story_nil, List.append_nil]
          exact hfollows
      | cons head earlier =>
          obtain ⟨rfl, hlater⟩ := List.cons.inj hturns
          rw [Turn.story_cons_of_not_saves hsaves, ← List.append_assoc]
          exact ih horderly (hfollows.goOn huntold) hlater hbefore

end

end VisualNovel
