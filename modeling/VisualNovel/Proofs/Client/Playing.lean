import VisualNovel.Proofs.Client.Reading
import VisualNovel.Proofs.Client.Undisturbed

/-!
# What a game comes to

A game goes in one of three ways, and which of them it is can be said before it is played.

* Something cannot be loaded (`Console.LoadFails`).  Then this is written, nothing is asked, and the
  game exits with 1.
* There is a story, but no name for its player among the answers.  Then there is nothing but the
  questions for a name.
* There is a story and a name.  Then the story is told as far as the answers for it lead
  (`Course.Tells`), and the game exits with 0.

In the last case the script may have an image without an address on the way.  Then the story is told
up to the call that needs it, and the game ends with a failure (`Course.BreaksOff`).
-/

namespace VisualNovel

/-! ## Asking for a name -/

section

variable {σ : Type} (console : Console σ) {answers : List String}

theorem run_turns_of_nameless (hnone : nameAmong? answers = none) (unnamed : Interpreter)
    (world : σ) :
    let run := ((console.turns (.naming unnamed) answers).run world).1
    run.1.flatMap Turn.transcript = List.replicate answers.length (.prompted "Your name: ") ∧
      run.2 = .naming unnamed := by
  induction answers with
  | nil => exact ⟨rfl, rfl⟩
  | cons answer rest ih =>
      by_cases hblank : strippedAnswer answer = ""
      · rw [nameAmong?_cons_of_blank hblank] at hnone
        obtain ⟨hasked, hlast⟩ := ih hnone
        rw [Console.run_turns_cons_of_not_saves console (fun _ => Situation.noConfusion) rfl,
          Situation.goOn, if_pos hblank]
        refine ⟨?_, hlast⟩
        rw [List.length_cons, List.replicate_succ, ← hasked]
        rfl
      · rw [nameAmong?_cons_of_not_blank hblank] at hnone
        cases hnone

theorem run_turns_of_name {unnamed : Interpreter} {name : String}
    (hname : nameAmong? answers = some name) (world : σ) :
    let player := Player.new none
    let run := ((console.turns (.naming unnamed) answers).run world).1
    let started := Console.told (unnamed.named name).tryStart
    let later := ((console.turns started.2 (player.replies answers)).run world).1
    Turn.story run.1 = started.1 ++ Turn.story later.1 ∧
      prompts (run.1.flatMap Turn.transcript) =
        List.replicate (player.questions answers) "Your name: " ++
          prompts (later.1.flatMap Turn.transcript) ∧
      run.2 = later.2 := by
  induction answers with
  | nil => cases hname
  | cons answer rest ih =>
      intro player run started later
      by_cases hblank : strippedAnswer answer = ""
      · rw [nameAmong?_cons_of_blank hblank] at hname
        obtain ⟨hstory, hprompts, hlast⟩ := ih hname
        have hreplies : player.replies (answer :: rest) = player.replies rest := by
          simp [player, Player.replies, hblank]
        have hquestions : player.questions (answer :: rest) = player.questions rest + 1 := by
          simp [player, Player.questions, hblank]
        have hrun : run = (⟨.naming unnamed, answer, []⟩ ::
            ((console.turns (.naming unnamed) rest).run world).1.1,
            ((console.turns (.naming unnamed) rest).run world).1.2) := by
          simp only [run]
          rw [Console.run_turns_cons_of_not_saves console (fun _ => Situation.noConfusion) rfl,
            Situation.goOn, if_pos hblank]
        simp only [later, hrun, hreplies, hquestions, List.replicate_succ]
        refine ⟨?_, ?_, hlast⟩
        · rw [Turn.story_cons_of_not_saves rfl]
          exact hstory
        · exact congrArg ("Your name: " :: ·) hprompts
      · -- the first answer that is not blank is the name, and the story starts
        rw [nameAmong?_cons_of_not_blank hblank] at hname
        obtain rfl := Option.some.inj hname
        have hreplies : player.replies (answer :: rest) = rest := by
          simp [player, Player.replies, hblank]
        have hquestions : player.questions (answer :: rest) = 1 := by
          simp [player, Player.questions, hblank]
        have hrun : run = (⟨.naming unnamed, answer, started.1⟩ ::
            ((console.turns started.2 rest).run world).1.1,
            ((console.turns started.2 rest).run world).1.2) := by
          simp only [run]
          rw [Console.run_turns_cons_of_not_saves console (fun _ => Situation.noConfusion) rfl,
            Situation.goOn, if_neg hblank]
        simp only [later, hrun, hreplies, hquestions]
        refine ⟨Turn.story_cons_of_not_saves rfl _ _, ?_, trivial⟩
        rw [List.flatMap_cons, prompts_append]
        show "Your name: " :: prompts (Console.told _).1 ++ _ = _
        rw [prompts_told]
        rfl

end

/-! ## Loading -/

/-- What is shown if something cannot be loaded: the catalog, or the save after it. -/
inductive Console.LoadFails {σ : Type} (console : Console σ) (player : Player) (world : σ) :
    List TerminalEvent → Prop
  | catalog {fault : ClientFault} {left : σ}
      (hcatalog : (loadCatalog console.gateway console.settings.tenant
        console.settings.scenario).run world = (.error fault, left)) :
      LoadFails console player world
        [.written "Loading the latest scenario...",
          .written "Could not load the scenario. Please try again later."]
  | save {catalog : Catalog} {code : String} {fault : ClientFault} {left left' : σ}
      (hcatalog : (loadCatalog console.gateway console.settings.tenant
        console.settings.scenario).run world = (.ok catalog, left))
      (hplayer : player = .saved code)
      (hsave : (restoreProgress console.gateway { tenant := console.settings.tenant, catalog }
        code).run left = (.error fault, left')) :
      LoadFails console player world
        [.written "Loading the latest scenario...", .written "Loading save data...",
          .written "Save data could not be found."]

section

variable {σ : Type} {console : Console σ} {player : Player} {answers : List String} {world : σ}

/-- There is no story if something cannot be loaded, and only then. -/
theorem Console.found?_eq_none_iff :
    ((console.found? player).run world).1 = none ↔
      ∃ shown, console.LoadFails player world shown := by
  constructor
  · intro hnone
    rcases hcatalog : (loadCatalog console.gateway console.settings.tenant
      console.settings.scenario).run world with ⟨fault | catalog, left⟩
    · exact ⟨_, .catalog hcatalog⟩
    · rw [found?, StateT.run_bind, hcatalog] at hnone
      rcases player with name | code
      · cases name <;> cases hnone
      · rcases hsave : (restoreProgress console.gateway
          { tenant := console.settings.tenant, catalog } code).run left with ⟨fault | save, left'⟩
        · exact ⟨_, .save hcatalog rfl hsave⟩
        · have hsome : ((console.resumed? (.idle _ { tenant := console.settings.tenant, catalog })
              (.saved code)).run left).1 = none := hnone
          rw [resumed?, StateT.run_bind, Interpreter.idle, hsave] at hsome
          cases hsome
  · rintro ⟨shown, hfails⟩
    cases hfails with
    | catalog hcatalog =>
        rw [found?, StateT.run_bind, hcatalog]
        rfl
    | @save catalog code fault left left' hcatalog hplayer hsave =>
        rw [found?, StateT.run_bind, hcatalog, hplayer]
        show ((console.resumed? (.idle _ { tenant := console.settings.tenant, catalog })
          (.saved code)).run left).1 = none
        rw [resumed?, StateT.run_bind, Interpreter.idle, hsave]
        rfl

theorem Console.LoadFails.run_opening {shown : List TerminalEvent}
    (hfails : console.LoadFails player world shown) (horderly : console.gateway.Orderly world) :
    ((console.opening player).run world).1 = (shown, .finished (.exited 1)) := by
  have hload := comesTo_loadCatalog console.settings.tenant console.settings.scenario world horderly
  cases hfails with
  | @catalog fault left hcatalog =>
      rw [hcatalog] at hload
      have honly : OnlyGatewayFails (.error fault : Except ClientFault Catalog) := hload.1
      obtain ⟨catalog, hloaded⟩ | ⟨gatewayFault, hfault⟩ := honly.cases
      · cases hloaded
      · cases hfault
        rw [opening, StateT.run_bind, hcatalog]
        rfl
  | @save catalog code fault left left' hcatalog hplayer hsave =>
      rw [hcatalog] at hload
      have hrestore := (comesTo_restoreProgress { tenant := console.settings.tenant, catalog } code
        left hload.2).1
      rw [hsave] at hrestore
      cases hrestore
      rw [opening, StateT.run_bind, hcatalog, hplayer]
      have hwelcome : ((console.welcome (.idle (Resolver.below console.settings.assetBase
          Resolver.defaultQuery) { tenant := console.settings.tenant, catalog })
            (.saved code)).run left).1 =
          ([.written "Loading save data...", .written "Save data could not be found."],
            .finished (.exited 1)) := by
        rw [welcome, StateT.run_bind, Interpreter.idle, hsave]
        rfl
      exact congrArg (fun welcome : List TerminalEvent × Situation =>
        (.written "Loading the latest scenario..." :: welcome.1, welcome.2)) hwelcome

theorem Console.LoadFails.run_course {shown : List TerminalEvent}
    (hfails : console.LoadFails player world shown) (horderly : console.gateway.Orderly world)
    (answers : List String) :
    ((console.course player answers).run world).1 = ⟨shown, [], .finished (.exited 1)⟩ := by
  rw [Console.run_course]
  simp only [hfails.run_opening horderly, Console.turns_finished]
  rfl

/-! ## Whole games -/

/-- The story when it has been started and has gone on as often as the answers ask for, and what
this told. -/
def Interpreter.readWith (story : Interpreter) (answers : List String) :
    Interpreter × List Report :=
  story.calls (.start :: List.replicate (min story.pausesLeft (goingOn answers)) .advance)

/-- Does the course of a game tell a story as far as the answers lead? -/
structure Course.Tells (course : Course) (player : Player) (answers : List String)
    (story : Interpreter) : Prop where
  story_eq : course.story = player.announced ++ Console.written (Event.lines
    ((story.readWith (player.replies answers)).2.flatMap Report.events))
  prompts_eq : prompts course.game.transcript =
    List.replicate (player.questions answers) "Your name: " ++
      List.replicate (heard story.pausesLeft (player.replies answers ++ ["q"])).length "> "
  ending_eq : course.game.ending = .exited 0

/-- A story is read to its end if the answers go on as often as commands pause. -/
theorem Interpreter.Untold.readWith_ended_iff {story : Interpreter} {tenant : String}
    (huntold : story.Untold tenant) (answers : List String) :
    ((story.readWith answers).1.phase = .ended ↔ story.pausesLeft ≤ goingOn answers) ∧
      (.storyEnd ∈ (story.readWith answers).2.flatMap Report.events ↔
        story.pausesLeft ≤ goingOn answers) := by
  have hmin : story.pausesLeft ≤ min story.pausesLeft (goingOn answers) ↔
      story.pausesLeft ≤ goingOn answers := by
    omega
  rw [← hmin]
  exact huntold.calls_start _

/-- Does the course of a game tell a story only up to a call that is given up?  It is the first one
for which there is not every address, and `made` calls come before it. -/
structure Course.BreaksOff (course : Course) (player : Player) (answers : List String)
    (story : Interpreter) (made : Nat) : Prop where
  made_le : made ≤ goingOn (player.replies answers)
  tellable : ∀ steps < made, story.Tellable steps
  untellable : ¬story.Tellable made
  story_eq : course.story = player.announced ++ Console.written (Event.lines
    ((story.calls ((.start :: List.replicate made .advance).take made)).2.flatMap Report.events))
  ending_eq : ∃ fault, course.game.ending = .untold (.unencodable fault)

/-- After the questions for a name a game consists of the start of the story and of the turns after
it. -/
theorem course_of_story (horderly : console.gateway.Orderly world) {story : Interpreter}
    (hstory : console.story? player answers world = some story) :
    ∃ left, console.gateway.Orderly left ∧
      let course := ((console.course player answers).run world).1
      let started := Console.told story.tryStart
      let later := ((console.turns started.2 (player.replies answers)).run left).1
      course.story = player.announced ++ (started.1 ++ Turn.story later.1) ∧
      prompts course.game.transcript =
        List.replicate (player.questions answers) "Your name: " ++
          prompts (later.1.flatMap Turn.transcript ++ later.2.asked) ∧
      course.last = later.2 := by
  obtain ⟨hopened, hleft⟩ := console.opened_opening horderly player
  rw [Console.run_course]
  rcases hrun : (console.opening player).run world with ⟨⟨shown, situation⟩, left⟩
  rw [hrun] at hopened hleft
  refine ⟨left, hleft, ?_⟩
  rw [Console.story?] at hstory
  generalize ((console.found? player).run world).1 = found? at hopened hstory
  cases hopened with
  | failed shown => cases hstory
  | asking _ hplayer =>
      subst hplayer
      obtain ⟨name, hname, rfl⟩ := Option.map_eq_some_iff.mp hstory
      obtain ⟨hturns, hasked, hlast⟩ := run_turns_of_name console hname left
      refine ⟨congrArg _ hturns, ?_, hlast⟩
      simp only [Course.game, prompts_append, prompts_announced, hasked, hlast, List.nil_append,
        List.append_assoc]
  | @begun begun _ hplayer =>
      have hgiven : begun = story ∧ player.replies answers = answers ∧
          player.questions answers = 0 := by
        rcases hplayer with rfl | ⟨code, rfl⟩ <;> exact ⟨Option.some.inj hstory, rfl, rfl⟩
      obtain ⟨rfl, hreplies, hquestions⟩ := hgiven
      rw [hreplies, hquestions]
      refine ⟨List.append_assoc .., ?_, rfl⟩
      simp only [Course.game, prompts_append, prompts_announced, prompts_told,
        List.replicate_zero, List.nil_append]

/-- A game with a story tells it as far as the answers lead, if there are the addresses for it. -/
theorem tells_course (hslips : console.slips = none) (horderly : console.gateway.Orderly world)
    {story : Interpreter} (hstory : console.story? player answers world = some story)
    (htellable : story.Tellable (goingOn (player.replies answers))) :
    ((console.course player answers).run world).1.Tells player answers story := by
  obtain ⟨left, hleft, htold, hprompts, hlast⟩ := course_of_story horderly hstory
  have huntold := ((console.opened_opening horderly player).1.of_named hstory).1
  obtain ⟨hstarts, hreadable⟩ :=
    (Interpreter.tellable_iff huntold.onScript huntold.notEnded).mp htellable
  have hstart : story.tryStart = (story.start.1, .ok story.start.2) :=
    ((Interpreter.tryStart_cases huntold.onScript huntold.notEnded).resolve_right
      fun hgiven => hgiven.1 hstarts).2
  have hreading := reading_turns hslips hleft huntold.onScript.start.1 hreadable
  have hreplies := hreading.prompts_eq
  have hread := hreading.story_eq
  rw [huntold.start_callsLeft] at hreplies hread
  have hsituation : (Console.told (story.start.1, .ok story.start.2)).2 =
      .ofStory story.start.1 := rfl
  rw [hstart, hsituation] at htold hprompts hlast
  constructor
  · rw [htold, hread, Interpreter.readWith, Interpreter.calls_cons, List.flatMap_cons,
      Event.lines_append, Console.written_append]
    rfl
  · rw [hprompts, hreplies]
  · rw [Course.game, hlast]
    exact hreading.ending_eq

/-- A game with a story that cannot be told so far tells it up to the call that is given up. -/
theorem breaksOff_course (hslips : console.slips = none)
    (horderly : console.gateway.Orderly world) {story : Interpreter}
    (hstory : console.story? player answers world = some story)
    (huntellable : ¬story.Tellable (goingOn (player.replies answers))) :
    ∃ made, ((console.course player answers).run world).1.BreaksOff player answers story made := by
  obtain ⟨left, hleft, htold, -, hlast⟩ := course_of_story horderly hstory
  have huntold := ((console.opened_opening horderly player).1.of_named hstory).1
  have htellable : ∀ steps, story.Tellable steps ↔
      story.Tellable 0 ∧ story.start.1.Readable steps := fun steps =>
    Interpreter.tellable_iff huntold.onScript huntold.notEnded
  -- the start is the first call, so the story breaks off later or right there
  rcases Interpreter.tryStart_cases huntold.onScript huntold.notEnded with ⟨hstarts, hstart⟩ |
    ⟨hstarts, given, fault, hstart⟩
  · rw [htellable, and_iff_right hstarts] at huntellable
    obtain ⟨made, hbreaks⟩ := breaksOff_turns hslips hleft huntold.onScript.start.1 huntellable
    have hsituation : (Console.told (story.start.1, .ok story.start.2)).2 =
        .ofStory story.start.1 := rfl
    rw [hstart, hsituation] at htold hlast
    refine ⟨made + 1, hbreaks.made_lt, fun steps hsteps => ?_, ?_, ?_, ?_⟩
    · rw [htellable]
      exact ⟨hstarts, hbreaks.readable.mono (Nat.le_of_lt_succ hsteps)⟩
    · rw [htellable, and_iff_right hstarts]
      exact hbreaks.unreadable
    · rw [htold, hbreaks.story_eq, List.take_succ_cons, List.take_replicate,
        Nat.min_eq_left (Nat.le_succ made), Interpreter.calls_cons, List.flatMap_cons,
        Event.lines_append, Console.written_append]
      rfl
    · obtain ⟨fault, hending⟩ := hbreaks.ending_eq
      refine ⟨fault, ?_⟩
      rw [Course.game, hlast, hending]
      rfl
  · have hlost : Console.told (given, .error (.unencodable fault)) =
        ([], .finished (.untold (.unencodable fault))) := rfl
    rw [hstart, hlost] at htold hlast
    simp only [Console.turns_finished] at htold hlast
    refine ⟨0, Nat.zero_le _, fun steps hsteps => absurd hsteps (Nat.not_lt_zero _), hstarts, ?_,
      fault, ?_⟩
    · rw [htold]
      rfl
    · rw [Course.game, hlast]
      rfl

/-- Without a name a player is asked for one until there are no more answers. -/
theorem game_of_nameless (horderly : console.gateway.Orderly world)
    (hloads : ¬∃ shown, console.LoadFails player world shown) (hplayer : player = .new none)
    (hnone : nameAmong? answers = none) :
    ((console.course player answers).run world).1.game =
      ⟨.written "Loading the latest scenario..." ::
        List.replicate (answers.length + 1) (.prompted "Your name: "), .exited 0⟩ := by
  have hopened := (console.opened_opening horderly player).1
  rw [← Console.found?_eq_none_iff] at hloads
  rw [Console.run_course]
  rcases hrun : (console.opening player).run world with ⟨⟨shown, situation⟩, left⟩
  rw [hrun] at hopened
  generalize ((console.found? player).run world).1 = found? at hopened hloads
  subst hplayer
  cases hopened with
  | failed shown => exact absurd rfl hloads
  | begun _ hplayer =>
      rcases hplayer with hplayer | ⟨code, hplayer⟩ <;> cases hplayer
  | @asking unnamed _ _ =>
      obtain ⟨hasked, hlast⟩ := run_turns_of_nameless console hnone unnamed left
      simp only [Course.game, hasked, hlast, List.replicate_succ']
      rfl

/-- If everything can be loaded, and there is a name, there is a story. -/
theorem exists_story (hloads : ¬∃ shown, console.LoadFails player world shown)
    (hnamed : player = .new none → nameAmong? answers ≠ none) :
    ∃ story, console.story? player answers world = some story := by
  rw [← Console.found?_eq_none_iff] at hloads
  obtain ⟨found, hfound⟩ := Option.ne_none_iff_exists'.mp hloads
  rw [Console.story?, hfound]
  rcases player with ⟨_ | name⟩ | code
  · obtain ⟨name, hname⟩ := Option.ne_none_iff_exists'.mp (hnamed rfl)
    exact ⟨_, congrArg (Option.map found.named) hname⟩
  · exact ⟨_, rfl⟩
  · exact ⟨_, rfl⟩

end

/-! ## Short scripts -/

/-- A script of one line, which asks for a background whose name is an unpaired unit. -/
def Command.lostBackground : List Command := [⟨1, "bg_change", Http.unpaired, "", ""⟩]

end VisualNovel
