import VisualNovel.Proofs.Save.Progress
import VisualNovel.Proofs.Story.Consistent
import VisualNovel.Proofs.Story.Simulation

/-!
# Taking up a saved story

A save keeps the name of the player and the line, and nothing else.  Taking up a story
from it is nevertheless the same as never having left it: everything else that a
running story depends on can be had back from the commands before the line.

There are two differences between the story that went on and the one that was taken up,
and both are removed here.

* **The tenant.**  No call reads it: sessions that differ in it only are alike
  (`Session.simulation_inTenant`), and so the answers of all calls are the same
  (`calls_inTenant`).
* **The phase.**  The one is running and the other has not begun, but a call that goes on
  only asks whether the story is over: `advance_withPhase`.

What remains is that the stage which the start rebuilds is the one that the running
story has, and this is what `Consistent` says.
-/

namespace VisualNovel

/-! ## Stories of another tenant -/

/-- The session in the name of another tenant. -/
def Session.inTenant (tenant : String) (session : Session) : Session :=
  { session with tenant := tenant }

theorem Session.execute_inTenant {resolver : Resolver} {tenant : String} (session : Session)
    (line : Int) (command : Command) :
    (session.inTenant tenant).execute resolver line command =
      ((session.execute resolver line command).1.inTenant tenant,
        (session.execute resolver line command).2) := by
  unfold execute
  cases command.instruction <;> rfl

/-- Whatever is done to a session, the tenant has no part in it. -/
theorem Session.simulation_inTenant (resolver : Resolver) (tenant : String) :
    Simulation resolver (fun session other => other = session.inTenant tenant) Eq where
  line_eq := by rintro session _ rfl; rfl
  commands_eq := by rintro session _ rfl; rfl
  moved := by rintro session _ rfl line; rfl
  executed := by
    rintro session _ rfl line command
    rw [execute_inTenant]
    exact ⟨rfl, rfl⟩
  restaged := by rintro session _ rfl commands; exact ⟨rfl, rfl⟩
  refl _ := rfl
  append := by rintro report _ more _ rfl rfl; rfl

namespace Interpreter

variable {tenant : String}

/-- The story in the name of another tenant. -/
def inTenant (tenant : String) (story : Interpreter) : Interpreter :=
  { story with session := story.session.inTenant tenant }

theorem alike_inTenant (story : Interpreter) :
    Alike (fun session other => other = session.inTenant tenant) story (story.inTenant tenant) :=
  ⟨rfl, rfl, rfl⟩

theorem Alike.eq_inTenant {first second : Interpreter}
    (halike : Alike (fun session other => other = session.inTenant tenant) first second) :
    second = first.inTenant tenant := by
  obtain ⟨resolver, session, phase⟩ := second
  obtain ⟨hresolver, hphase, hsession⟩ := halike
  rw [inTenant, hresolver, hphase, ← hsession]

theorem advance_inTenant (story : Interpreter) :
    (story.inTenant tenant).advance = (story.advance.1.inTenant tenant, story.advance.2) := by
  obtain ⟨halike, htold⟩ :=
    (alike_inTenant story).advance (Session.simulation_inTenant story.resolver tenant)
  exact Prod.ext halike.eq_inTenant htold.symm

theorem calls_inTenant (story : Interpreter) (history : List Call) :
    (story.inTenant tenant).calls history =
      ((story.calls history).1.inTenant tenant, (story.calls history).2) := by
  obtain ⟨halike, htold⟩ :=
    (alike_inTenant story).calls (Session.simulation_inTenant story.resolver tenant) history
  rw [List.forall₂_eq_eq_eq] at htold
  exact Prod.ext halike.eq_inTenant htold.symm

/-! ## The phase of a story that goes on -/

/-- A story that is not over goes on in the same way whether it has begun or not. -/
theorem advance_withPhase {story : Interpreter} {phase : Phase} (hphase : phase ≠ .ended)
    (hstory : story.phase ≠ .ended) : { story with phase := phase }.advance = story.advance := by
  have hother : { story with phase := phase }.phase ≠ .ended := hphase
  rw [advance_eq hstory, advance_eq hother]
  cases story.session.upcoming? with
  | none => rfl
  | some upcoming =>
      simp only
      rw [follow_eq_carryOut, follow_eq_carryOut]

/-! ## The story that was taken up -/

/-- A new story at the place of a save of this one, for another tenant. -/
def resumed (story : Interpreter) (tenant : String) (createdAt : Option String) : Interpreter :=
  idle story.resolver <|
    Session.resumedAt { tenant, catalog := story.session.catalog }
      ⟨story.session.player, story.session.line.toNat, createdAt⟩

/-- Starting a new story at the place of a running one rebuilds its stage and goes on with
it. -/
theorem start_resumed {story : Interpreter} (hstory : story.Consistent)
    (hrunning : story.phase = .running) (tenant : String) (createdAt : Option String) :
    (story.resumed tenant createdAt).start =
      (story.advance.1.inTenant tenant,
        (story.rebuildStage story.session.line).2 ++ story.advance.2) := by
  set second := story.resumed tenant createdAt with hsecond
  have hline : second.session.line = story.session.line := hstory.line_eq_toNat.symm
  have hplaced : second.placed = second := by
    unfold placed
    rw [Int.min_eq_left]
    rw [hline]
    exact hstory.line_le
  have hpos : 0 < second.placed.session.line := by
    obtain ⟨before, last, rest, -, hbefore, -⟩ := hstory.paused_of_running hrunning
    rw [hplaced, hline, hbefore]
    omega
  -- the rebuilt story differs from the running one in tenant and phase only
  have hrebuilt : second.rebuilt =
      ({ story.inTenant tenant with phase := .idle },
        (story.rebuildStage story.session.line).2) := by
    have hsession : second.session =
        { story.session with tenant := tenant, stage := Stage.empty } := by
      rw [hsecond, resumed, idle, Session.resumedAt, Int.toNat_of_nonneg hstory.line_nonneg]
      rfl
    have hstage : (second.rebuildStage story.session.line).1.session.stage =
        story.session.stage := by
      rw [hstory.stage_eq]
      rfl
    unfold rebuilt
    rw [hplaced, hline]
    refine Prod.ext ?_ rfl
    show { second with session := { second.session with
      stage := (second.rebuildStage story.session.line).1.session.stage } } = _
    rw [hstage, hsession]
    rfl
  rw [start_of_pos hpos, hrebuilt]
  have hgoing : { story.inTenant tenant with phase := .idle }.advance =
      (story.inTenant tenant).advance :=
    advance_withPhase (by decide) (by simp [inTenant, hrunning])
  simp only [hgoing, advance_inTenant]

end Interpreter

end VisualNovel
