import Mathlib.Data.List.Forall2
import VisualNovel.Proofs.Story.Calls

/-!
# Two stories side by side

Two sessions may differ in something that no call asks for, or that is asked for only to be told.
Whatever is done to both, they stay alike then, and tell alike.

A `Session.Simulation` says so of the single things that are done to a session: a command is
carried out, the line changes, the stage is rebuilt.  From it follows the same of all commands of a
list (`Simulation.carryOut`), of every call (`Alike.call`), and of any number of calls
(`Alike.calls`).
-/

namespace VisualNovel

variable {resolver : Resolver} {alike : Session → Session → Prop} {tells : Report → Report → Prop}

namespace Session

/-- Sessions that are alike stay alike and tell alike, whatever is done to both of them. -/
structure Simulation (resolver : Resolver) (alike : Session → Session → Prop)
    (tells : Report → Report → Prop) : Prop where
  line_eq : ∀ {first second}, alike first second → first.line = second.line
  commands_eq : ∀ {first second}, alike first second → first.commands = second.commands
  moved : ∀ {first second}, alike first second → ∀ line : Int,
    alike { first with line := line } { second with line := line }
  executed : ∀ {first second}, alike first second → ∀ line command,
    alike (first.execute resolver line command).1 (second.execute resolver line command).1 ∧
      tells (first.execute resolver line command).2 (second.execute resolver line command).2
  restaged : ∀ {first second}, alike first second → ∀ commands,
    alike
        { first with stage := (Stage.empty.applyAll first.catalog resolver commands).1 }
        { second with stage := (Stage.empty.applyAll second.catalog resolver commands).1 } ∧
      tells { events := (Stage.empty.applyAll first.catalog resolver commands).2 }
        { events := (Stage.empty.applyAll second.catalog resolver commands).2 }
  refl : ∀ report, tells report report
  append : ∀ {report report' more more'}, tells report report' → tells more more' →
    tells (report ++ more) (report' ++ more')

theorem Simulation.carryOut (hsimulation : Simulation resolver alike tells)
    {first second : Session} (halike : alike first second) (commands : List Command) :
    alike (first.carryOut resolver commands).1 (second.carryOut resolver commands).1 ∧
      tells (first.carryOut resolver commands).2 (second.carryOut resolver commands).2 := by
  induction commands generalizing first second with
  | nil => exact ⟨halike, hsimulation.refl _⟩
  | cons command rest ih =>
      obtain ⟨hexecuted, htold⟩ := hsimulation.executed halike first.line command
      have hmoved := hsimulation.moved hexecuted (first.line + 1)
      obtain ⟨hlast, hmore⟩ := ih hmoved
      rw [carryOut_cons, carryOut_cons, past, past, ← hsimulation.line_eq halike]
      exact ⟨hlast, hsimulation.append htold hmore⟩

end Session

namespace Interpreter

open Session (Simulation)

/-- Are two stories alike: are they played with the same resolver, have they got equally far, and
are their sessions alike? -/
structure Alike (alike : Session → Session → Prop) (first second : Interpreter) : Prop where
  resolver_eq : first.resolver = second.resolver
  phase_eq : first.phase = second.phase
  session : alike first.session second.session

variable {first second : Interpreter}

theorem Alike.follow (halike : Alike alike first second)
    (hsimulation : Simulation first.resolver alike tells) (upcoming : List Command) :
    Alike alike (first.follow upcoming).1 (second.follow upcoming).1 ∧
      tells (first.follow upcoming).2 (second.follow upcoming).2 := by
  obtain ⟨hsession, htold⟩ := hsimulation.carryOut halike.session (Command.opening upcoming)
  rw [follow_eq_carryOut, follow_eq_carryOut, ← halike.resolver_eq]
  exact ⟨⟨rfl, rfl, hsession⟩, hsimulation.append htold (hsimulation.refl _)⟩

theorem Alike.advance (halike : Alike alike first second)
    (hsimulation : Simulation first.resolver alike tells) :
    Alike alike first.advance.1 second.advance.1 ∧ tells first.advance.2 second.advance.2 := by
  by_cases hphase : first.phase = .ended
  · rw [advance_of_ended hphase, advance_of_ended (halike.phase_eq ▸ hphase)]
    exact ⟨halike, hsimulation.refl _⟩
  · have hupcoming : first.session.upcoming? = second.session.upcoming? := by
      rw [Session.upcoming?, Session.upcoming?, hsimulation.line_eq halike.session,
        hsimulation.commands_eq halike.session]
    rw [advance_eq hphase, advance_eq (halike.phase_eq ▸ hphase), ← hupcoming]
    cases first.session.upcoming? with
    | none => exact ⟨⟨halike.resolver_eq, rfl, halike.session⟩, hsimulation.refl _⟩
    | some upcoming => exact halike.follow hsimulation upcoming

theorem Alike.rebuildStage (halike : Alike alike first second)
    (hsimulation : Simulation first.resolver alike tells) (target : Int) :
    Alike alike (first.rebuildStage target).1 (second.rebuildStage target).1 ∧
      tells (first.rebuildStage target).2 (second.rebuildStage target).2 := by
  obtain ⟨hsession, htold⟩ :=
    hsimulation.restaged halike.session (first.session.commands.take target.toNat)
  have hcommands := hsimulation.commands_eq halike.session
  obtain ⟨resolver, session, phase⟩ := second
  obtain rfl : first.resolver = resolver := halike.resolver_eq
  simp only at hcommands
  simp only [Interpreter.rebuildStage, ← hcommands]
  exact ⟨⟨rfl, halike.phase_eq, hsession⟩, htold⟩

theorem Alike.placed (halike : Alike alike first second)
    (hsimulation : Simulation first.resolver alike tells) :
    Alike alike first.placed second.placed := by
  have hmoved := hsimulation.moved halike.session
    (min first.session.line first.session.commands.length)
  unfold Interpreter.placed
  rw [← hsimulation.line_eq halike.session, ← hsimulation.commands_eq halike.session]
  exact ⟨halike.resolver_eq, halike.phase_eq, hmoved⟩

theorem Alike.start (halike : Alike alike first second)
    (hsimulation : Simulation first.resolver alike tells) :
    Alike alike first.start.1 second.start.1 ∧ tells first.start.2 second.start.2 := by
  have hplaced := halike.placed hsimulation
  have hline := hsimulation.line_eq hplaced.session
  by_cases hpos : 0 < first.placed.session.line
  · have hrebuilt := hplaced.rebuildStage hsimulation first.placed.session.line
    have hadvanced := hrebuilt.1.advance hsimulation
    rw [start_of_pos hpos, start_of_pos (hline ▸ hpos), rebuilt, rebuilt, ← hline]
    exact ⟨hadvanced.1, hsimulation.append hrebuilt.2 hadvanced.2⟩
  · rw [start_of_not_pos hpos, start_of_not_pos (hline ▸ hpos)]
    exact hplaced.advance hsimulation

/-- Stories that are alike are so after every call, and every call tells alike. -/
theorem Alike.call (halike : Alike alike first second)
    (hsimulation : Simulation first.resolver alike tells) (next : Call) :
    Alike alike (first.call next).1 (second.call next).1 ∧
      tells (first.call next).2 (second.call next).2 := by
  cases next with
  | start => exact halike.start hsimulation
  | advance => exact halike.advance hsimulation
  | rebuildAt target => exact halike.rebuildStage hsimulation target
  | rebuildHere =>
      have hrebuilt := halike.rebuildStage hsimulation first.session.line
      rw [Interpreter.call, Interpreter.call, ← hsimulation.line_eq halike.session]
      exact hrebuilt

/-- Stories that are alike are so after any number of calls, and tell alike, call by call. -/
theorem Alike.calls (halike : Alike alike first second)
    (hsimulation : Simulation first.resolver alike tells) (history : List Call) :
    Alike alike (first.calls history).1 (second.calls history).1 ∧
      List.Forall₂ tells (first.calls history).2 (second.calls history).2 := by
  induction history generalizing first second with
  | nil => exact ⟨halike, List.Forall₂.nil⟩
  | cons next rest ih =>
      obtain ⟨hnext, htold⟩ := halike.call hsimulation next
      have hsimulation' : Simulation (first.call next).1.resolver alike tells := by
        rw [(call_frame first next).resolver_eq]
        exact hsimulation
      obtain ⟨hlast, hreports⟩ := ih hnext hsimulation'
      rw [calls_cons, calls_cons]
      exact ⟨hlast, List.Forall₂.cons htold hreports⟩

end Interpreter

end VisualNovel
