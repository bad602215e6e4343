import VisualNovel.Client.Console
import VisualNovel.Proofs.Client.Gateways
import VisualNovel.Proofs.Story.Addressable

/-!
# A game, turn by turn

`Console.play` comes back with a transcript, and a transcript does not say which of its lines were
written by a save.  So a game is taken apart into its turns (`Console.course`): each has the
situation in which something was asked, the answer, and the lines that it brought.  Putting the
turns together again gives the game (`play_eq_course`).

A turn that saves leaves the reader where he was.  What remains of a game without these turns
depends on nothing behind the gateway: `Situation.readOn` tells it from the answers alone
(`story_turns`), and the answers that save may just as well be left out.
-/

namespace VisualNovel

/-! ## Turns -/

/-- Does the answer ask for a save? -/
def Situation.saves (answer : String) : Situation → Bool
  | reading _ => Choice.ofAnswer answer = .save
  | _ => false

theorem Situation.of_saves {situation : Situation} {answer : String}
    (hsaves : situation.saves answer = true) :
    ∃ story, situation = .reading story ∧ Choice.ofAnswer answer = .save := by
  cases situation with
  | reading story => exact ⟨story, rfl, of_decide_eq_true hsaves⟩
  | naming story => cases hsaves
  | finished ending => cases hsaves

/-- Can a game with the catalog end like this if nothing but the gateway fails?  It exits, or its
story cannot be told any further, as a command of the script has no address. -/
def Ending.Befits (catalog : Catalog) : Ending → Prop
  | exited _ => True
  | untold (.unencodable _) => ∃ command ∈ catalog.commands, ¬command.Addressable catalog
  | _ => False

/-- The end of a game that stops here. -/
def Situation.ending : Situation → Ending
  | finished ending => ending
  | _ => .exited 0

/-- The prompt for the next answer, as it is shown. -/
def Situation.asked (situation : Situation) : List TerminalEvent :=
  (situation.prompt?.map .prompted).toList

/-- One turn of a game: where it stood, what was answered and which lines this brought. -/
structure Turn where
  before : Situation
  answer : String
  shown : List TerminalEvent

namespace Turn

/-- Does the turn save the progress? -/
def saves (turn : Turn) : Bool := turn.before.saves turn.answer

/-- What the turn brings to the terminal. -/
def transcript (turn : Turn) : List TerminalEvent := turn.before.asked ++ turn.shown

/-- The lines of all turns that do not save. -/
def story (turns : List Turn) : List TerminalEvent :=
  (turns.filter fun turn => !turn.saves).flatMap shown

theorem story_nil : story [] = [] := rfl

variable {situation : Situation} {answer : String}

theorem story_cons_of_saves {story : Interpreter} (hsaves : Choice.ofAnswer answer = .save)
    (shown : List TerminalEvent) (rest : List Turn) :
    Turn.story (⟨.reading story, answer, shown⟩ :: rest) = Turn.story rest := by
  simp [Turn.story, saves, Situation.saves, hsaves]

theorem story_cons_of_not_saves (hsaves : situation.saves answer = false)
    (shown : List TerminalEvent) (rest : List Turn) :
    story (⟨situation, answer, shown⟩ :: rest) = shown ++ story rest := by
  simp [story, saves, hsaves]

end Turn

/-- A game that is taken apart: the lines before the first prompt, the turns, and where it stood
after them. -/
structure Course where
  opening : List TerminalEvent
  turns : List Turn
  last : Situation

namespace Course

/-- The game that is put together again. -/
def game (course : Course) : Game where
  transcript := course.opening ++ course.turns.flatMap Turn.transcript ++ course.last.asked
  ending := course.last.ending

/-- The lines that were written, apart from those that a save wrote. -/
def story (course : Course) : List TerminalEvent := course.opening ++ Turn.story course.turns

end Course

namespace Console

variable {σ : Type}

theorem written_append (first second : List String) :
    written (first ++ second) = written first ++ written second :=
  List.map_append

/-- The turns of a game with some answers, and where it stands after them. -/
def turns (console : Console σ) : Situation → List String → StateM σ (List Turn × Situation)
  | .finished ending, _ => return ([], .finished ending)
  | situation, [] => return ([], situation)
  | situation, answer :: rest => do
    let (shown, next) ← console.answered answer situation
    let (later, last) ← console.turns next rest
    return (⟨situation, answer, shown⟩ :: later, last)

/-- The course of the game that the settings name. -/
def course (console : Console σ) (player : Player) (answers : List String) : StateM σ Course := do
  let (shown, situation) ← console.opening player
  let (turns, last) ← console.turns situation answers
  return ⟨shown, turns, last⟩

theorem playOn_eq_turns (console : Console σ) (situation : Situation) (answers : List String) :
    console.playOn situation answers = do
      let (turns, last) ← console.turns situation answers
      return ⟨turns.flatMap Turn.transcript ++ last.asked, last.ending⟩ := by
  induction answers generalizing situation with
  | nil => cases situation <;> rfl
  | cons answer rest ih =>
      cases situation with
      | finished ending => rfl
      | naming story => simp [playOn, turns, ih, Turn.transcript, Situation.asked]
      | reading story => simp [playOn, turns, ih, Turn.transcript, Situation.asked]

theorem run_course (console : Console σ) (player : Player) (answers : List String) (world : σ) :
    (console.course player answers).run world =
      let opened := (console.opening player).run world
      let run := (console.turns opened.1.2 answers).run opened.2
      (⟨opened.1.1, run.1.1, run.1.2⟩, run.2) :=
  rfl

theorem play_eq_course (console : Console σ) (player : Player) (answers : List String) :
    console.play player answers = Course.game <$> console.course player answers := by
  simp [play, course, playOn_eq_turns, Course.game]

theorem run_play (console : Console σ) (player : Player) (answers : List String) (world : σ) :
    ((console.play player answers).run world).1 =
      ((console.course player answers).run world).1.game := by
  rw [play_eq_course]
  rfl

end Console

/-! ## Answers that do not save -/

/-- The answers without those that save. -/
def withoutSaves (answers : List String) : List String :=
  answers.filter fun answer => Choice.ofAnswer answer ≠ .save

/-- The answers without those that save after the first one that is not blank, which is a name. -/
def withoutSavesAfterName : List String → List String
  | [] => []
  | answer :: rest =>
    if strippedAnswer answer = "" then answer :: withoutSavesAfterName rest
    else answer :: withoutSaves rest

/-- The name among the answers to the question for one. -/
def nameAmong? (answers : List String) : Option String :=
  (answers.map strippedAnswer).find? fun answer => answer ≠ ""

theorem nameAmong?_cons_of_blank {answer : String} (hblank : strippedAnswer answer = "")
    (rest : List String) : nameAmong? (answer :: rest) = nameAmong? rest := by
  simp [nameAmong?, hblank]

theorem nameAmong?_cons_of_not_blank {answer : String} (hname : strippedAnswer answer ≠ "")
    (rest : List String) : nameAmong? (answer :: rest) = some (strippedAnswer answer) := by
  simp [nameAmong?, hname]

theorem nameAmong?_withoutSavesAfterName (answers : List String) :
    nameAmong? (withoutSavesAfterName answers) = nameAmong? answers := by
  induction answers with
  | nil => rfl
  | cons answer rest ih =>
      rw [withoutSavesAfterName]
      split
      · next hblank => rw [nameAmong?_cons_of_blank hblank, nameAmong?_cons_of_blank hblank, ih]
      · next hname =>
        rw [nameAmong?_cons_of_not_blank hname, nameAmong?_cons_of_not_blank hname]

section

variable {added : List String} (hadded : ∀ answer ∈ added, Choice.ofAnswer answer = .save)
include hadded

theorem withoutSaves_insert (earlier later : List String) :
    withoutSaves (earlier ++ (added ++ later)) = withoutSaves (earlier ++ later) := by
  have hnone : withoutSaves added = [] :=
    List.filter_eq_nil_iff.mpr fun answer hanswer => by simpa using hadded answer hanswer
  rw [withoutSaves, List.filter_append, List.filter_append]
  show _ ++ (withoutSaves added ++ _) = _
  rw [hnone, List.nil_append, ← List.filter_append]
  rfl

theorem withoutSavesAfterName_insert {earlier : List String}
    (hnamed : nameAmong? earlier ≠ none) (later : List String) :
    withoutSavesAfterName (earlier ++ (added ++ later)) =
      withoutSavesAfterName (earlier ++ later) := by
  induction earlier with
  | nil => exact absurd rfl hnamed
  | cons answer rest ih =>
      by_cases hblank : strippedAnswer answer = ""
      · rw [nameAmong?_cons_of_blank hblank] at hnamed
        simp only [List.cons_append, withoutSavesAfterName, hblank, if_true, ih hnamed]
      · simp only [List.cons_append, withoutSavesAfterName, hblank, if_false,
          withoutSaves_insert hadded]

end

namespace Situation

variable {catalog : Catalog}

/-- The answers without those that save. -/
def withoutSaves : Situation → List String → List String
  | naming _, answers => withoutSavesAfterName answers
  | _, answers => VisualNovel.withoutSaves answers

/-- What an answer that does not save brings to the terminal, and where the game stands then. -/
def goOn (answer : String) : Situation → List TerminalEvent × Situation
  | finished ending => ([], finished ending)
  | naming story =>
    if strippedAnswer answer = "" then ([], naming story)
    else Console.told (story.named (strippedAnswer answer)).tryStart
  | reading story =>
    if Choice.ofAnswer answer = .quit then ([], finished (.exited 0))
    else Console.told story.tryAdvance

/-- The lines and the end of a game in which nothing is saved. -/
def readOn : Situation → List String → List TerminalEvent × Ending
  | finished ending, _ => ([], ending)
  | _, [] => ([], .exited 0)
  | situation, answer :: rest =>
    let (shown, next) := situation.goOn answer
    let (more, ending) := next.readOn rest
    (shown ++ more, ending)

/-- Is it a game with the catalog, of an orderly gateway?  As long as there is a story it is on a
line of the script, so that the progress can be saved. -/
def Sound (catalog : Catalog) : Situation → Prop
  | finished ending => ending.Befits catalog
  | naming story => story.OnScript ∧ story.session.catalog = catalog
  | reading story => story.OnScript ∧ story.session.catalog = catalog

theorem readOn_finished (ending : Ending) (answers : List String) :
    (finished ending).readOn answers = ([], ending) := by
  cases answers <;> rfl

theorem readOn_cons {situation : Situation} (hgoing : ∀ ending, situation ≠ finished ending)
    (answer : String) (rest : List String) :
    situation.readOn (answer :: rest) =
      ((situation.goOn answer).1 ++ ((situation.goOn answer).2.readOn rest).1,
        ((situation.goOn answer).2.readOn rest).2) := by
  cases situation with
  | finished ending => exact absurd rfl (hgoing ending)
  | naming story => rfl
  | reading story => rfl

theorem Sound.told {step : Interpreter × Except StoryFault Report}
    (hsteady : Interpreter.Steady catalog step) : (Console.told step).2.Sound catalog := by
  rcases step with ⟨story, fault | report⟩
  · obtain ⟨⟨unencodable, rfl⟩, hcommand⟩ := hsteady
    exact hcommand
  · show (ofStory story).Sound catalog
    unfold ofStory
    split
    · trivial
    · exact hsteady

theorem withoutSaves_told (step : Interpreter × Except StoryFault Report) (rest : List String) :
    (Console.told step).2.withoutSaves rest = VisualNovel.withoutSaves rest := by
  rcases step with ⟨story, fault | report⟩
  · rfl
  · show (ofStory story).withoutSaves rest = _
    unfold ofStory
    split <;> rfl

theorem Sound.goOn {situation : Situation} (hsound : situation.Sound catalog) (answer : String) :
    (situation.goOn answer).2.Sound catalog := by
  cases situation with
  | finished ending => exact hsound
  | naming story =>
      simp only [Situation.goOn]
      split
      · exact hsound
      · obtain ⟨hstory, rfl⟩ := hsound
        have hnamed : (story.named (strippedAnswer answer)).OnScript := hstory
        exact .told hnamed.tryStart
  | reading story =>
      obtain ⟨hstory, rfl⟩ := hsound
      simp only [Situation.goOn]
      split
      · trivial
      · exact .told hstory.tryAdvance

theorem withoutSaves_cons {situation : Situation} {answer : String}
    (hgoing : ∀ ending, situation ≠ finished ending) (hsaves : situation.saves answer = false)
    (rest : List String) :
    situation.withoutSaves (answer :: rest) =
      answer :: (situation.goOn answer).2.withoutSaves rest := by
  cases situation with
  | finished ending => exact absurd rfl (hgoing ending)
  | naming story =>
      by_cases hblank : strippedAnswer answer = ""
      · simp [withoutSaves, withoutSavesAfterName, Situation.goOn, hblank]
      · have hkept : (naming story).withoutSaves (answer :: rest) =
            answer :: VisualNovel.withoutSaves rest := by
          simp [withoutSaves, withoutSavesAfterName, hblank]
        rw [hkept]
        simp only [Situation.goOn, hblank, if_false]
        rw [withoutSaves_told]
  | reading story =>
      have hchoice : Choice.ofAnswer answer ≠ .save := by simpa [saves] using hsaves
      have hkept : (reading story).withoutSaves (answer :: rest) =
          answer :: VisualNovel.withoutSaves rest := by
        simp [withoutSaves, VisualNovel.withoutSaves, hchoice]
      rw [hkept]
      simp only [Situation.goOn]
      split
      · rfl
      · rw [withoutSaves_told]

theorem withoutSaves_cons_of_saves {story : Interpreter} {answer : String}
    (hsaves : Choice.ofAnswer answer = .save) (rest : List String) :
    (reading story).withoutSaves (answer :: rest) = (reading story).withoutSaves rest := by
  simp [withoutSaves, VisualNovel.withoutSaves, hsaves]

theorem finished_or_going (situation : Situation) :
    (∃ ending, situation = finished ending) ∨ ∀ ending, situation ≠ finished ending := by
  cases situation with
  | finished ending => exact Or.inl ⟨ending, rfl⟩
  | _ => exact Or.inr fun ending => Situation.noConfusion

/-- A game in which nothing is saved ends like that of an orderly gateway. -/
theorem Sound.readOn {situation : Situation} (hsound : situation.Sound catalog)
    (answers : List String) : (situation.readOn answers).2.Befits catalog := by
  induction answers generalizing situation with
  | nil =>
      cases situation with
      | finished ending => exact hsound
      | _ => trivial
  | cons answer rest ih =>
      rcases situation.finished_or_going with ⟨ending, rfl⟩ | hgoing
      · rw [readOn_finished]
        exact hsound
      · rw [readOn_cons hgoing]
        exact ih (hsound.goOn answer)

/-- A game goes from answer to answer: one that saves leaves the reader where he was, and after any
other one it goes on. -/
theorem turn_by_turn {motive : Situation → List String → Prop}
    (nil : ∀ situation, motive situation [])
    (finished : ∀ ending answers, motive (finished ending) answers)
    (save : ∀ story answer rest, Choice.ofAnswer answer = .save → motive (reading story) rest →
      motive (reading story) (answer :: rest))
    (goOn : ∀ situation answer rest, (∀ ending, situation ≠ .finished ending) →
      situation.saves answer = false → motive (situation.goOn answer).2 rest →
      motive situation (answer :: rest))
    (situation : Situation) (answers : List String) : motive situation answers := by
  induction answers generalizing situation with
  | nil => exact nil situation
  | cons answer rest ih =>
      cases hsaves : situation.saves answer with
      | true =>
          obtain ⟨story, rfl, hchoice⟩ := of_saves hsaves
          exact save story answer rest hchoice (ih _)
      | false =>
          rcases situation.finished_or_going with ⟨ending, rfl⟩ | hgoing
          · exact finished ending _
          · exact goOn situation answer rest hgoing hsaves (ih _)

end Situation

/-! ## Answers that save -/

section

variable {σ : Type} {console : Console σ} {session : Session} {line : Nat}

/-- The lines about an attempt to save. -/
def savedLines : Except ClientFault Json → List TerminalEvent
  | .ok code => [.written "Saving...", .written ("Saved. Your code is " ++ code.display)]
  | .error (.gateway fault) =>
    [.written "Saving...", .written ("Save failed: " ++ fault.message.display)]
  | .error _ => [.written "Saving..."]

/-- The game goes on after an attempt to save, whatever comes of it. -/
theorem run_save {world : σ} (hslips : console.slips = none)
    (horderly : console.gateway.Orderly world) (hline : session.line = line) :
    (console.save session).run world =
      let call := (console.gateway.call "saveGame"
        (SaveData.request session.tenant session.player line)).run world
      ((savedLines (call.1.bind codeOfReply), none), call.2) := by
  have hreply := (comesTo_call console.gateway "saveGame"
    (SaveData.request session.tenant session.player line) world horderly).1
  rcases hcall : (console.gateway.call "saveGame"
    (SaveData.request session.tenant session.player line)).run world with ⟨reply, changed⟩
  rw [hcall] at hreply
  have hcode : OnlyGatewayFails (reply.bind codeOfReply) :=
    onlyGatewayFails_of_orderly hreply onlyGatewayFails_codeOfReply
  have hsaved : (saveProgress console.gateway session).run world =
      (reply.bind codeOfReply, changed) := by
    rw [saveProgress_eq console.gateway hline, StateT.run_bind, hcall]
    rfl
  rw [Console.save, StateT.run_bind, hsaved]
  show _ = ((savedLines (reply.bind codeOfReply), none), changed)
  rcases hcode.cases with ⟨code, hcode⟩ | ⟨fault, hfault⟩
  · rw [hcode, hslips]
    rfl
  · rw [hfault]
    rfl

end

namespace Console

variable {σ : Type} {console : Console σ} {situation : Situation} {answer : String}
  {catalog : Catalog}

theorem answered_of_not_saves (console : Console σ) (hsaves : situation.saves answer = false) :
    console.answered answer situation = pure (situation.goOn answer) := by
  cases situation with
  | finished ending => rfl
  | naming story =>
      by_cases hblank : strippedAnswer answer = "" <;>
        simp [answered, Situation.goOn, hblank]
  | reading story =>
      have hchoice : Choice.ofAnswer answer ≠ .save := by simpa [Situation.saves] using hsaves
      cases hcase : Choice.ofAnswer answer with
      | quit => simp [answered, Situation.goOn, hcase]
      | goOn => simp [answered, Situation.goOn, hcase]
      | save => exact absurd hcase hchoice

theorem run_answered_of_saves {story : Interpreter} {line : Nat} {world : σ}
    (hslips : console.slips = none) (horderly : console.gateway.Orderly world)
    (hsaves : Choice.ofAnswer answer = .save) (hline : story.session.line = line) :
    (console.answered answer (.reading story)).run world =
      let call := (console.gateway.call "saveGame"
        (SaveData.request story.session.tenant story.session.player line)).run world
      ((savedLines (call.1.bind codeOfReply), .reading story), call.2) := by
  simp only [answered, hsaves, StateT.run_bind, run_save hslips horderly hline]
  rfl

theorem turns_nil (console : Console σ) (situation : Situation) :
    console.turns situation [] = pure ([], situation) := by
  cases situation <;> rfl

theorem turns_finished (console : Console σ) (ending : Ending) (answers : List String) :
    console.turns (.finished ending) answers = pure ([], .finished ending) := by
  cases answers <;> rfl

theorem run_turns_cons (console : Console σ) (hgoing : ∀ ending, situation ≠ .finished ending)
    (rest : List String) (world : σ) :
    (console.turns situation (answer :: rest)).run world =
      let answered := (console.answered answer situation).run world
      let later := (console.turns answered.1.2 rest).run answered.2
      ((⟨situation, answer, answered.1.1⟩ :: later.1.1, later.1.2), later.2) := by
  cases situation with
  | finished ending => exact absurd rfl (hgoing ending)
  | naming story => simp only [turns, StateT.run_bind]; rfl
  | reading story => simp only [turns, StateT.run_bind]; rfl

theorem run_turns_cons_of_not_saves (console : Console σ)
    (hgoing : ∀ ending, situation ≠ .finished ending) (hsaves : situation.saves answer = false)
    (rest : List String) (world : σ) :
    (console.turns situation (answer :: rest)).run world =
      let later := (console.turns (situation.goOn answer).2 rest).run world
      ((⟨situation, answer, (situation.goOn answer).1⟩ :: later.1.1, later.1.2), later.2) := by
  rw [run_turns_cons console hgoing, answered_of_not_saves console hsaves]
  rfl

theorem run_turns_cons_of_saves {story : Interpreter} {line : Nat} {world : σ}
    (hslips : console.slips = none) (horderly : console.gateway.Orderly world)
    (hsaves : Choice.ofAnswer answer = .save) (hline : story.session.line = line)
    (rest : List String) :
    (console.turns (.reading story) (answer :: rest)).run world =
      let call := (console.gateway.call "saveGame"
        (SaveData.request story.session.tenant story.session.player line)).run world
      let later := (console.turns (.reading story) rest).run call.2
      ((⟨.reading story, answer, savedLines (call.1.bind codeOfReply)⟩ :: later.1.1, later.1.2),
        later.2) := by
  rw [run_turns_cons console (by simp), run_answered_of_saves hslips horderly hsaves hline]

/-- Apart from the turns that save, a game is told by the answers that do not. -/
theorem story_turns {world : σ} (hslips : console.slips = none)
    (horderly : console.gateway.Orderly world) (hsound : situation.Sound catalog)
    (answers : List String) :
    let turns := ((console.turns situation answers).run world).1
    (Turn.story turns.1, turns.2.ending) = situation.readOn (situation.withoutSaves answers) := by
  induction situation, answers using Situation.turn_by_turn generalizing world with
  | nil situation => cases situation <;> rfl
  | finished ending answers =>
      rw [turns_finished, Situation.readOn_finished]
      rfl
  | save story answer rest hchoice ih =>
      rw [run_turns_cons_of_saves hslips horderly hchoice hsound.1.line_eq_toNat,
        Situation.withoutSaves_cons_of_saves hchoice]
      simp only
      rw [Turn.story_cons_of_saves hchoice]
      exact ih (comesTo_call console.gateway _ _ _ horderly).2 hsound
  | goOn situation answer rest hgoing hsaves ih =>
      rw [run_turns_cons_of_not_saves console hgoing hsaves,
        Situation.withoutSaves_cons hgoing hsaves, Situation.readOn_cons hgoing,
        ← ih horderly (hsound.goOn answer)]
      simp only
      rw [Turn.story_cons_of_not_saves hsaves]

/-- The story of a game and its end are told by the answers that do not save. -/
theorem story_course {player : Player} {world : σ} (hslips : console.slips = none)
    (horderly : console.gateway.Orderly ((console.opening player).run world).2)
    (hsound : ((console.opening player).run world).1.2.Sound catalog) (answers : List String) :
    let opened := ((console.opening player).run world).1
    let course := ((console.course player answers).run world).1
    let told := opened.2.readOn (opened.2.withoutSaves answers)
    course.story = opened.1 ++ told.1 ∧ course.game.ending = told.2 := by
  intro opened course told
  have hturns := story_turns hslips horderly hsound answers
  exact ⟨congrArg (opened.1 ++ ·) (congrArg Prod.fst hturns), congrArg Prod.snd hturns⟩

end Console

end VisualNovel
