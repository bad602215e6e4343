import VisualNovel.Proofs.Client.Turns
import VisualNovel.Proofs.Story.Executed

/-!
# How a game opens

Before anything is asked, the catalog is loaded, and a save if there is a code for it.  This gives
the story of the game (`Console.found?`).  With an orderly gateway a game then stands in one of
three ways (`Opened`): it is over as there is no story, it asks for a name, or the story has begun.
All calls but those that save are made in this part of the game, so it is the same for two gateways
that can take the place of each other (`run_opening_congr`).
-/

namespace VisualNovel

namespace Player

/-- The lines that are written before a story begins. -/
def announced : Player → List TerminalEvent
  | new _ => [.written "Loading the latest scenario..."]
  | saved _ => [.written "Loading the latest scenario...", .written "Loading save data..."]

/-- The name that a new player gives. -/
def name? (answers : List String) : Player → Option String
  | new none => nameAmong? answers
  | new (some name) => some name
  | saved _ => none

/-- The story with the name of the player in it, if it is given at all. -/
def named? (answers : List String) (story : Interpreter) : Player → Option Interpreter
  | new none => (nameAmong? answers).map story.named
  | _ => some story

/-- The answers of the player without those that save. -/
def withoutSaves (answers : List String) : Player → List String
  | new none => withoutSavesAfterName answers
  | _ => VisualNovel.withoutSaves answers

theorem name?_withoutSaves (player : Player) (answers : List String) :
    player.name? (player.withoutSaves answers) = player.name? answers := by
  rcases player with name | code
  · cases name with
    | none => exact nameAmong?_withoutSavesAfterName answers
    | some name => rfl
  · rfl

theorem named?_congr {player : Player} {answers answers' : List String}
    (hnames : player.name? answers = player.name? answers') (story : Interpreter) :
    player.named? answers story = player.named? answers' story := by
  rcases player with name | code
  · cases name with
    | none => exact congrArg (Option.map story.named) hnames
    | some name => rfl
  · rfl

/-- Answers that save can be put in anywhere after the name. -/
theorem withoutSaves_insert {player : Player} {earlier added : List String}
    (hnamed : player = .new none → nameAmong? earlier ≠ none)
    (hadded : ∀ answer ∈ added, Choice.ofAnswer answer = .save) (later : List String) :
    player.withoutSaves (earlier ++ (added ++ later)) =
      player.withoutSaves (earlier ++ later) := by
  rcases player with name | code
  · cases name with
    | none => exact withoutSavesAfterName_insert hadded (hnamed rfl) later
    | some name => exact VisualNovel.withoutSaves_insert hadded earlier later
  · exact VisualNovel.withoutSaves_insert hadded earlier later

end Player

/-- Is this a story of the tenant that has not begun? -/
structure Interpreter.Untold (tenant : String) (story : Interpreter) : Prop where
  phase_eq : story.phase = .idle
  tenant_eq : story.session.tenant = tenant
  onScript : story.OnScript

/-- How a game of a player stands before the first answer, and the story that was loaded. -/
inductive Opened (tenant : String) (player : Player) :
    Option Interpreter → List TerminalEvent × Situation → Prop
  /-- Something could not be loaded. -/
  | failed (shown : List TerminalEvent) : Opened tenant player none (shown, .finished (.exited 1))
  /-- A name is asked for. -/
  | asking {story : Interpreter} (huntold : story.Untold tenant) (hplayer : player = .new none) :
      Opened tenant player (some story) (player.announced, .naming story)
  /-- The story has begun. -/
  | begun {story : Interpreter} (huntold : story.Untold tenant)
      (hplayer : player = .new (some story.session.player) ∨ ∃ code, player = .saved code) :
      Opened tenant player (some story) (player.announced ++ (Console.told story.tryStart).1,
        (Console.told story.tryStart).2)

namespace Opened

variable {tenant : String} {player : Player} {found? : Option Interpreter}
  {opened : List TerminalEvent × Situation}

theorem sound (hopened : Opened tenant player found? opened) {catalog : Catalog}
    (hcatalog : ∀ story ∈ found?, story.session.catalog = catalog) : opened.2.Sound catalog := by
  cases hopened with
  | failed shown => trivial
  | asking huntold hplayer => exact ⟨huntold.onScript, hcatalog _ rfl⟩
  | begun huntold hplayer =>
      obtain rfl := hcatalog _ rfl
      exact .told huntold.onScript.tryStart

/-- It is the player who decides from where on answers that save can be left out. -/
theorem readOn_congr (hopened : Opened tenant player found? opened)
    {answers answers' : List String}
    (hanswers : player.withoutSaves answers = player.withoutSaves answers') :
    opened.2.readOn (opened.2.withoutSaves answers) =
      opened.2.readOn (opened.2.withoutSaves answers') := by
  cases hopened with
  | failed shown => rw [Situation.readOn_finished, Situation.readOn_finished]
  | asking huntold hplayer =>
      subst hplayer
      exact congrArg (Situation.readOn _) hanswers
  | begun huntold hplayer =>
      have hsame : withoutSaves answers = withoutSaves answers' := by
        rcases hplayer with rfl | ⟨code, rfl⟩ <;> exact hanswers
      rw [Situation.withoutSaves_told, Situation.withoutSaves_told, hsame]

end Opened

namespace Console

variable {σ τ : Type} {console : Console σ} {other : Console τ}

/-- The story for a player who is given, or in the save that is restored. -/
def resumed? (console : Console σ) (story : Interpreter) :
    Player → StateM σ (Option Interpreter)
  | .new none => return some story
  | .new (some name) => return some (story.named name)
  | .saved code => do
    match ← restoreProgress console.gateway story.session code with
    | .ok (_, session) => return some { story with session := session }
    | .error _ => return none

/-- The story that is loaded when a game opens. -/
def found? (console : Console σ) (player : Player) : StateM σ (Option Interpreter) := do
  let settings := console.settings
  match ← loadCatalog console.gateway settings.tenant settings.scenario with
  | .ok catalog =>
    let resolver := Resolver.below settings.assetBase Resolver.defaultQuery
    console.resumed? (.idle resolver { tenant := settings.tenant, catalog }) player
  | .error _ => return none

theorem opened_welcome {world : σ} (horderly : console.gateway.Orderly world)
    {story : Interpreter} {tenant : String} (huntold : story.Untold tenant) (player : Player) :
    let welcome := (console.welcome story player).run world
    Opened tenant player ((console.resumed? story player).run world).1
        (.written "Loading the latest scenario..." :: welcome.1.1, welcome.1.2) ∧
      console.gateway.Orderly welcome.2 := by
  cases player with
  | new name =>
      refine ⟨?_, by cases name <;> exact horderly⟩
      cases name with
      | none => exact .asking huntold rfl
      | some name =>
          have hnamed : (story.named name).Untold tenant :=
            ⟨huntold.phase_eq, huntold.tenant_eq, huntold.onScript⟩
          exact .begun hnamed (Or.inl rfl)
  | saved code =>
      have hrestore := comesTo_restoreProgress story.session code world horderly
      rw [welcome, resumed?, StateT.run_bind, StateT.run_bind]
      rcases hrun : (restoreProgress console.gateway story.session code).run world
        with ⟨outcome, left⟩
      rw [hrun] at hrestore
      obtain ⟨hrestored, hleft⟩ := hrestore
      refine ⟨?_, by cases hrestored <;> exact hleft⟩
      cases hrestored with
      | restored data =>
          have hresumed : { story with session := story.session.resumedAt data }.Untold tenant :=
            ⟨huntold.phase_eq, huntold.tenant_eq, Int.natCast_nonneg data.line⟩
          exact .begun hresumed (Or.inr ⟨code, rfl⟩)
      | failed fault => exact .failed _

theorem opened_opening {world : σ} (horderly : console.gateway.Orderly world) (player : Player) :
    Opened console.settings.tenant player ((console.found? player).run world).1
        ((console.opening player).run world).1 ∧
      console.gateway.Orderly ((console.opening player).run world).2 := by
  have hload := comesTo_loadCatalog console.settings.tenant console.settings.scenario world horderly
  rw [opening, found?, StateT.run_bind, StateT.run_bind]
  rcases hrun : (loadCatalog console.gateway console.settings.tenant
    console.settings.scenario).run world with ⟨outcome, left⟩
  rw [hrun] at hload
  obtain ⟨houtcome, hleft⟩ := hload
  rcases houtcome.cases with ⟨catalog, rfl⟩ | ⟨fault, rfl⟩
  · have huntold : (Interpreter.idle
        (Resolver.below console.settings.assetBase Resolver.defaultQuery)
        { tenant := console.settings.tenant, catalog }).Untold console.settings.tenant :=
      ⟨rfl, rfl, Int.le_refl 0⟩
    exact opened_welcome hleft huntold player
  · exact ⟨.failed _, hleft⟩

section

variable {together : σ → τ → Prop}
  (hcall : ∀ name payload, name ≠ "saveGame" →
    Mirrors together (console.gateway.call name payload) (other.gateway.call name payload))
include hcall

theorem mirrors_welcome (story : Interpreter) (player : Player) :
    Mirrors together (console.welcome story player) (other.welcome story player) := by
  cases player with
  | new name => cases name <;> exact mirrors_pure _
  | saved code =>
      refine (mirrors_restoreProgress hcall _ _).bind fun outcome => ?_
      rcases outcome with fault | restored
      · cases fault <;> exact mirrors_pure _
      · exact mirrors_pure _

theorem mirrors_opening (hsettings : console.settings = other.settings) (player : Player) :
    Mirrors together (console.opening player) (other.opening player) := by
  unfold opening
  rw [hsettings]
  refine (mirrors_loadCatalog hcall _ _).bind fun outcome => ?_
  rcases outcome with fault | catalog
  · cases fault <;> exact mirrors_pure _
  · exact (mirrors_welcome hcall _ player).bind fun opened => mirrors_pure _

end

/-- Gateways that give the same replies open a game in the same way. -/
theorem run_opening_congr {world : σ} {world' : τ} (hsettings : console.settings = other.settings)
    (hreplies : SameReplies console.gateway other.gateway world world') (player : Player) :
    ((console.opening player).run world).1 = ((other.opening player).run world').1 :=
  (mirrors_opening (fun _ payload hname => mirrors_call hname payload) hsettings player
    world world' hreplies).1

end Console

end VisualNovel
