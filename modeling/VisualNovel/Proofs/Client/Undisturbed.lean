import VisualNovel.Proofs.Client.Catalog
import VisualNovel.Proofs.Client.Requests
import VisualNovel.Proofs.Script.Order

/-!
# Saving does not disturb a story

A player who saves now and then reads the same story as one who never does, and leaves it in the
same way, whatever comes of the saves.  Each save sends the name of the player and the line after
the command that was carried out last (`play_undisturbed`).

Both games open in the same way, as nothing is saved before the first prompt.  From there on each of
them is the game that `Situation.readOn` tells from the answers that do not save, and these are the
same.

A story with an image that has no address cannot be told any further than to there.  Then both games
end there, in the same way.
-/

namespace VisualNovel

/-! ## Whole games -/

/-- What is sent to save in a game. -/
def Console.requests {σ : Type} (console : Console σ) (player : Player) (answers : List String)
    (world : σ) : List Json :=
  ((console.notingSaves.play player answers).run (world, [])).2.2

/-- The story that is read in a game: the script of the catalog that was loaded, on the line of the
save if there is one, with the name of the player. -/
def Console.story? {σ : Type} (console : Console σ) (player : Player) (answers : List String)
    (world : σ) : Option Interpreter :=
  ((console.found? player).run world).1.bind (player.named? answers)

/-- Does every turn that saves send the progress of the story?  The line is the one after the last
of the commands that were carried out, and the reader has been told what these tell. -/
structure Course.SavesProgress (course : Course) (story? : Option Interpreter) (player : Player)
    (sent : List Json) : Prop where
  sent_eq : sent = course.turns.filterMap Turn.request?
  request_eq : ∀ earlier turn later, course.turns = earlier ++ turn :: later → turn.saves = true →
    ∃ (story : Interpreter) (first : Nat) (before : List Command) (last : Command),
      story? = some story ∧
      (first : Int) = min story.session.line story.session.commands.length ∧
      before ++ [last] <+: story.session.commands.drop first ∧
      course.opening ++ Turn.story earlier = player.announced ++ Console.written (Event.lines
        (story.begun.2.events ++ (story.begun.1.told (before ++ [last])).events)) ∧
      turn.request? = some (SaveData.request story.session.tenant story.session.player
        (first + before.length + 1))

section

variable {σ τ : Type} {console : Console σ} {other : Console τ} {player : Player}
  {answers answers' : List String} {found? story? : Option Interpreter}
  {opened : List TerminalEvent × Situation} {tenant : String} {catalog : Catalog}

/-- The story of a game has not begun when it is loaded, and its player has the name that is
given. -/
theorem Opened.of_named (hopened : Opened tenant player found? opened) {story : Interpreter}
    (hstory : found?.bind (player.named? answers) = some story) :
    story.Untold tenant ∧
      ∀ name, player.name? answers = some name → story.session.player = name := by
  cases hopened with
  | failed shown => cases hstory
  | asking huntold hplayer =>
      subst hplayer
      obtain ⟨name, hname, rfl⟩ := Option.map_eq_some_iff.mp hstory
      exact ⟨⟨huntold.phase_eq, huntold.tenant_eq, huntold.onScript⟩,
        fun given hgiven => Option.some.inj (hname.symm.trans hgiven)⟩
  | begun huntold hplayer =>
      rcases hplayer with rfl | ⟨code, rfl⟩
      · cases hstory
        exact ⟨huntold, fun given hgiven => Option.some.inj hgiven⟩
      · cases hstory
        exact ⟨huntold, fun given hgiven => nomatch hgiven⟩

/-- Before the first prompt the reader has been told of the story if it has begun. -/
theorem Opened.follows (hopened : Opened tenant player found? opened) :
    ∃ told, ((∀ ending, opened.2 ≠ .finished ending) → opened.1 = player.announced ++ told) ∧
      ∀ answers, opened.2.Follows (found?.bind (player.named? answers)) told answers := by
  cases hopened with
  | failed shown =>
      exact ⟨[], fun hgoing => absurd rfl (hgoing (.exited 1)), fun answers => trivial⟩
  | asking huntold hplayer =>
      subst hplayer
      exact ⟨[], fun _ => (List.append_nil _).symm, fun answers => ⟨rfl, rfl⟩⟩
  | @begun story huntold hplayer =>
      refine ⟨(Console.told story.tryStart).1, fun _ => rfl, fun answers => ?_⟩
      have hnamed : player.named? answers story = some story := by
        rcases hplayer with hnew | ⟨code, hsaved⟩
        · rw [hnew]
          rfl
        · rw [hsaved]
          rfl
      show (Console.told story.tryStart).2.Follows (player.named? answers story) _ answers
      rw [hnamed]
      exact follows_tryStart huntold answers

theorem requests_eq {world : σ} (hslips : console.slips = none)
    (horderly : console.gateway.Orderly world)
    (hsound : ((console.opening player).run world).1.2.Sound catalog) :
    console.requests player answers world =
      ((console.course player answers).run world).1.turns.filterMap Turn.request? := by
  -- nothing is saved before the first prompt
  have hcall : ∀ name payload, name ≠ "saveGame" →
      Mirrors (fun (noted : σ × List Json) plain => noted = (plain, []))
        (console.notingSaves.gateway.call name payload) (console.gateway.call name payload) := by
    rintro name payload hname _ plain rfl
    rw [Console.run_notingSaves, if_neg hname]
    exact ⟨rfl, rfl⟩
  obtain ⟨hopened, hleft⟩ := Console.mirrors_opening hcall rfl player (world, []) world rfl
  rw [Console.requests, Console.play_eq_course]
  show ((console.notingSaves.course player answers).run (world, [])).2.2 = _
  rw [Console.run_course, Console.run_course]
  have horderly' := (console.opened_opening horderly player).2
  simp only [hopened, hleft, Console.run_turns_notingSaves hslips horderly' hsound,
    List.nil_append]

theorem savesProgress_course {world : σ} (hslips : console.slips = none)
    (horderly : console.gateway.Orderly world) {told : List TerminalEvent}
    (huntold : ∀ story ∈ story?, story.Untold tenant)
    (hopened : ((console.opening player).run world).1 = opened) (hsound : opened.2.Sound catalog)
    (hopening : (∀ ending, opened.2 ≠ .finished ending) → opened.1 = player.announced ++ told)
    (hfollows : opened.2.Follows story? told answers) :
    ((console.course player answers).run world).1.SavesProgress story? player
      (console.requests player answers world) := by
  subst hopened
  constructor
  · exact requests_eq hslips horderly hsound
  · intro earlier turn later hturns hsaves
    obtain ⟨now, hbefore, hchoice⟩ := Situation.of_saves hsaves
    obtain ⟨story, executed, rfl, hreads⟩ := reads_turns hslips
      (console.opened_opening horderly player).2 huntold hfollows hturns hbefore
    obtain ⟨before, last, rfl, -⟩ := hreads.carriedOut.last_pauses hreads.running
    have hstory := huntold story rfl
    have hgoing : ∀ ending, ((console.opening player).run world).1.2 ≠ .finished ending := by
      intro ending hending
      rw [Console.run_course] at hturns
      simp only [hending, Console.turns_finished] at hturns
      cases earlier <;> cases hturns
    have hcommands : story.begun.1.session.commands = story.session.commands :=
      congrArg Catalog.commands story.begun_frame.catalog_eq
    refine ⟨story, story.begun.1.session.line.toNat, before, last, rfl, ?_, ?_, ?_, ?_⟩
    · rw [← hstory.onScript.begun.line_eq_toNat, Interpreter.begun_line]
    · rw [← hcommands]
      exact hreads.carriedOut.initial
    · rw [Console.run_course]
      show ((console.opening player).run world).1.1 ++ _ = _
      rw [hopening hgoing, List.append_assoc, hreads.told_eq]
    · obtain ⟨_, answer, shown⟩ := turn
      cases hbefore
      rw [hreads.request?_eq hstory hchoice, hstory.tenant_eq, List.length_append,
        ← Nat.add_assoc]
      rfl

/-- A game ends by an exit, or at a command of the script that was loaded that has no address. -/
theorem Opened.ends (hopened : Opened tenant player found? opened) (answers : List String) :
    let ending := (opened.2.readOn answers).2
    (∃ code, ending = .exited code) ∨
      (∃ fault, ending = .untold (.unencodable fault)) ∧
        ∃ story, found? = some story ∧
          ∃ command ∈ story.session.commands, ¬command.Addressable story.session.catalog := by
  intro ending
  cases hfound : found? with
  | none =>
      rw [hfound] at hopened
      cases hopened
      exact Or.inl ⟨1, congrArg Prod.snd (Situation.readOn_finished _ answers)⟩
  | some story =>
      have hbefits : ending.Befits story.session.catalog := by
        refine (hopened.sound fun given hgiven => ?_).readOn answers
        rw [hfound] at hgiven
        cases hgiven
        rfl
      cases hending : ending with
      | exited code => exact Or.inl ⟨code, rfl⟩
      | untold fault =>
          rw [hending] at hbefits
          cases fault with
          | unencodable fault => exact Or.inr ⟨⟨fault, rfl⟩, story, rfl, hbefits⟩
          | stray => cases hbefits
      | failed fault =>
          rw [hending] at hbefits
          cases hbefits
      | slipFailed fault =>
          rw [hending] at hbefits
          cases hbefits

end

/-! ## Short scripts -/

/-- A gateway to a script without a cast, where saving comes to the given outcome. -/
def Gateway.toScript (commands : List Command) (saved : Except GatewayFault Json) :
    Gateway Unit where
  call name _ := pure <|
    if name = "getScenario" then
      .ok (.obj [("scenario", .arr (commands.map (Command.toJson .wire)))])
    else if name = "getCharacters" then .ok (.obj [("characters", .arr [])])
    else if name = "saveGame" then saved.mapError .gateway
    else .error (.gateway (.internal "no such callable"))

/-- The console of somebody who reads a script without a cast. -/
def Console.ofScript (commands : List Command) (saved : Except GatewayFault Json) :
    Console Unit where
  settings := .default
  gateway := .toScript commands saved

/-- The story of a script without a cast, with a name for its player. -/
def Interpreter.ofScript (commands : List Command) (name : String) : Interpreter :=
  .idle (Resolver.below Settings.default.assetBase Resolver.defaultQuery)
    { tenant := "demo", player := name, catalog := { commands } }

section

variable {commands : List Command} {saved : Except GatewayFault Json}

theorem orderly_toScript (hsaved : ∀ reply, saved = .ok reply → ∃ fields, reply = .obj fields) :
    (Gateway.toScript commands saved).Orderly () := by
  intro calls
  induction calls with
  | nil => exact List.forall_mem_nil _
  | cons call rest ih =>
      refine List.forall_mem_cons.mpr ⟨?_, ih⟩
      show IsOrderly (if _ then _ else if _ then _ else if _ then _ else _)
      split_ifs
      · trivial
      · trivial
      · cases saved with
        | error fault => trivial
        | ok reply =>
            obtain ⟨fields, rfl⟩ := hsaved reply rfl
            trivial
      · trivial

theorem sameReplies_toScript (first second : Except GatewayFault Json) :
    SameReplies (Gateway.toScript commands first) (Gateway.toScript commands second) () () := by
  intro calls
  induction calls with
  | nil => exact fun _ => rfl
  | cons call rest ih =>
      intro hnames
      obtain ⟨hname, hrest⟩ := List.forall_mem_cons.mp hnames
      refine congrArg₂ List.cons ?_ (ih hrest)
      show (if _ then _ else if _ then _ else if _ then _ else _) =
        (if _ then _ else if _ then _ else if _ then _ else _)
      rw [if_neg hname, if_neg hname]

variable (hsorted : Command.sorted commands = commands)
include hsorted

theorem loadCatalog_toScript (tenant scenario : String) :
    (loadCatalog (Gateway.toScript commands saved) tenant scenario).run () =
      (.ok { commands }, ()) := by
  have hlines : replyField "scenario" (.arr []) (.obj [("scenario",
      .arr (commands.map (Command.toJson .wire)))]) =
        .ok (.arr (commands.map (Command.toJson .wire))) := rfl
  have hcall : ((Gateway.toScript commands saved).call "getScenario"
      (.obj [("tenantId", .str tenant), ("scenarioName", .str scenario)])).run () =
        (.ok (.obj [("scenario", .arr (commands.map (Command.toJson .wire)))]), ()) := rfl
  have hcall' : ((Gateway.toScript commands saved).call "getCharacters"
      (.obj [("tenantId", .str tenant)])).run () =
        (.ok (.obj [("characters", .arr [])]), ()) := rfl
  rw [loadCatalog_of_calls hcall hcall']
  simp only [Except.bind, catalogOfReplies, hlines, bind, Command.script_of_dumps, hsorted]
  rfl

theorem Console.opening_ofScript :
    ((Console.ofScript commands saved).opening (.new none)).run () =
      (([.written "Loading the latest scenario..."],
        .naming (Interpreter.ofScript commands "")), ()) := by
  rw [Console.opening, StateT.run_bind,
    show (loadCatalog (Console.ofScript commands saved).gateway _ _).run () = _ from
      loadCatalog_toScript hsorted _ _]
  rfl

theorem Console.opening_ofScript_of_name (name : String) :
    ((Console.ofScript commands saved).opening (.new (some name))).run () =
      ((.written "Loading the latest scenario..." ::
          (Console.told ((Interpreter.ofScript commands "").named name).tryStart).1,
        (Console.told ((Interpreter.ofScript commands "").named name).tryStart).2), ()) := by
  rw [Console.opening, StateT.run_bind,
    show (loadCatalog (Console.ofScript commands saved).gateway _ _).run () = _ from
      loadCatalog_toScript hsorted _ _]
  rfl

theorem Console.found?_ofScript :
    (((Console.ofScript commands saved).found? (.new none)).run ()).1 =
      some (Interpreter.ofScript commands "") := by
  rw [Console.found?, StateT.run_bind,
    show (loadCatalog (Console.ofScript commands saved).gateway _ _).run () = _ from
      loadCatalog_toScript hsorted _ _]
  rfl

end

/-- A script of two lines. -/
def Command.twoLines : List Command :=
  [⟨1, "text", "narrator", "One", ""⟩, ⟨2, "text", "narrator", "Two", ""⟩]

theorem Command.sorted_twoLines : Command.sorted Command.twoLines = Command.twoLines :=
  List.mergeSort_of_pairwise (by decide)

theorem Command.addressable_twoLines :
    ∀ command ∈ Command.twoLines, command.Addressable { commands := Command.twoLines } := by
  unfold Command.Addressable
  decide +kernel

/-- A script that asks for a background whose name is an unpaired unit, between two lines. -/
def Command.linesAroundLost : List Command :=
  [⟨1, "text", "narrator", "One", ""⟩,
    ⟨2, "bg_change", String.singleton (Text.ofCode 0xd800), "", ""⟩,
    ⟨3, "text", "narrator", "Two", ""⟩]

end VisualNovel
