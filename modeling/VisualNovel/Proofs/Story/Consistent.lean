import Mathlib.Tactic.Set
import VisualNovel.Proofs.Story.Calls

/-!
# Playing and rebuilding agree

A story reaches its stage in two ways: by going on from command to command, and by
rebuilding the stage before the line.  `Consistent` is what they agree on.  The line lies within
the script, the stage is the one that the commands before the line leave on an empty one, a
story that is over is at the end of the script, and one that is running stands right after a
command that paused it.

Starting, going on and rebuilding the stage before the line all keep this
(`Consistent.call`), and the first start of a story brings it about wherever the session
stands (`consistent_start`).
-/

namespace VisualNovel

namespace Interpreter

/-- The stage that the first `line` commands leave on an empty one. -/
def stageBefore (story : Interpreter) (line : Nat) : Stage :=
  (Stage.empty.applyAll story.session.catalog story.resolver
    (story.session.commands.take line)).1

/-- Is the story on a line of its script, with the stage and the phase that belong there? -/
structure Consistent (story : Interpreter) : Prop where
  line_nonneg : 0 ≤ story.session.line
  line_le : story.session.line ≤ story.session.commands.length
  stage_eq : story.session.stage = story.stageBefore story.session.line.toNat
  line_of_ended : story.phase = .ended → story.session.line = story.session.commands.length
  paused_of_running : story.phase = .running →
    ∃ before last rest, story.session.commands = before ++ last :: rest ∧
      story.session.line = before.length + 1 ∧ last.instruction.pauses = true

/-! ## Going on -/

/-- Carrying out the commands from the line on keeps a story consistent. -/
theorem consistent_follow {story : Interpreter} {line : Nat} (hline : story.session.line = line)
    (hle : line ≤ story.session.commands.length)
    (hstage : story.session.stage = story.stageBefore line) :
    (story.follow (story.session.commands.drop line)).1.Consistent := by
  set upcoming := story.session.commands.drop line with hupcoming
  set opening := Command.opening upcoming with hopening
  have hsession : (story.follow upcoming).1.session =
      { story.session with
        line := ((line + opening.length : Nat) : Int)
        stage :=
          (story.session.stage.applyAll story.session.catalog story.resolver opening).1 } := by
    rw [follow_session, Session.run_session, hline, ← hopening, Int.natCast_add]
  have hcommands : (story.follow upcoming).1.session.commands = story.session.commands := by
    rw [hsession]
    rfl
  have hsplit : story.session.commands = story.session.commands.take line ++ upcoming :=
    (List.take_append_drop line story.session.commands).symm
  have htake : (story.session.commands.take line).length = line := by
    rw [List.length_take, Nat.min_eq_left hle]
  have hbound : opening.length ≤ story.session.commands.length - line := by
    rw [← List.length_drop]
    exact Command.length_opening_le upcoming
  constructor
  · rw [hsession]
    exact Int.natCast_nonneg _
  · rw [hcommands, hsession]
    show ((line + opening.length : Nat) : Int) ≤ _
    omega
  · -- the commands before the new line are those before the old one and the opening
    have hbefore : story.session.commands.take (line + opening.length) =
        story.session.commands.take line ++ opening := by
      rw [List.take_add, ← hupcoming, hopening, Command.take_length_opening]
    have hframe := follow_frame story upcoming
    rw [stageBefore, hcommands, hframe.resolver_eq, hframe.catalog_eq, hsession, Int.toNat_natCast,
      hbefore, Stage.applyAll_append_fst, hstage]
    rfl
  · -- a story that ends has gone through all that was left
    intro hended
    have hall : opening.length = story.session.commands.length - line := by
      rw [hopening, opening_of_follow_ended hended, hupcoming, List.length_drop]
    rw [hcommands, hsession]
    show ((line + opening.length : Nat) : Int) = _
    omega
  · -- a story that goes on has stopped at the last command of the opening
    intro hrunning
    obtain ⟨before, last, hlast, hpauses⟩ := opening_of_follow_running hrunning
    obtain ⟨rest, hrest⟩ := Command.opening_initial upcoming
    refine ⟨story.session.commands.take line ++ before, last, rest, ?_, ?_, hpauses⟩
    · rw [hcommands]
      calc story.session.commands
          = story.session.commands.take line ++ upcoming := hsplit
        _ = story.session.commands.take line ++ (before ++ [last] ++ rest) := by
            rw [← hrest, hlast]
        _ = story.session.commands.take line ++ before ++ last :: rest := by simp
    · rw [hsession, hopening, hlast]
      simp only [List.length_append, List.length_cons, List.length_nil, htake]
      omega

/-! ## The single calls -/

namespace Consistent

variable {story : Interpreter}

theorem line_eq_toNat (hstory : story.Consistent) :
    story.session.line = (story.session.line.toNat : Int) :=
  (Int.toNat_of_nonneg hstory.line_nonneg).symm

theorem advance (hstory : story.Consistent) : story.advance.1.Consistent := by
  by_cases hphase : story.phase = .ended
  · rw [advance_of_ended hphase]
    exact hstory
  · rw [advance_of_line hphase hstory.line_eq_toNat]
    refine consistent_follow hstory.line_eq_toNat ?_ hstory.stage_eq
    have hle := hstory.line_le
    have hnonneg := hstory.line_nonneg
    omega

theorem rebuildStage (hstory : story.Consistent) :
    (story.rebuildStage story.session.line).1 = story := by
  have hstage := hstory.stage_eq
  unfold Interpreter.rebuildStage
  exact congrArg
    (fun stage : Stage => { story with session := { story.session with stage := stage } })
    hstage.symm

theorem placed (hstory : story.Consistent) : story.placed = story := by
  unfold Interpreter.placed
  rw [Int.min_eq_left hstory.line_le]

theorem rebuilt (hstory : story.Consistent) : story.rebuilt.1 = story := by
  unfold Interpreter.rebuilt
  rw [hstory.placed, hstory.rebuildStage]

/-- Starting a consistent story once more is going on with it. -/
theorem start_fst (hstory : story.Consistent) : story.start.1 = story.advance.1 := by
  by_cases hpos : 0 < story.placed.session.line
  · rw [start_of_pos hpos, hstory.rebuilt]
  · rw [start_of_not_pos hpos, hstory.placed]

/-- All calls but the rebuilding of the stage before some other line keep a story
consistent. -/
theorem call (hstory : story.Consistent) {next : Call}
    (hhere : ∀ target, next ≠ .rebuildAt target) : (story.call next).1.Consistent := by
  cases next with
  | start =>
      show story.start.1.Consistent
      rw [hstory.start_fst]
      exact hstory.advance
  | advance => exact hstory.advance
  | rebuildAt target => exact absurd rfl (hhere target)
  | rebuildHere =>
      show (story.rebuildStage story.session.line).1.Consistent
      rw [hstory.rebuildStage]
      exact hstory

end Consistent

/-! ## The first start -/

/-- A story that has not begun is consistent if its line and its stage are. -/
theorem consistent_of_idle {story : Interpreter} (hidle : story.phase = .idle)
    (hnonneg : 0 ≤ story.session.line) (hle : story.session.line ≤ story.session.commands.length)
    (hstage : story.session.stage = story.stageBefore story.session.line.toNat) :
    story.Consistent where
  line_nonneg := hnonneg
  line_le := hle
  stage_eq := hstage
  line_of_ended := by
    intro hended
    rw [hidle] at hended
    cases hended
  paused_of_running := by
    intro hrunning
    rw [hidle] at hrunning
    cases hrunning

/-- However far its line lies beyond the script, the first start makes a story with an empty
stage consistent. -/
theorem consistent_start {story : Interpreter} (hidle : story.phase = .idle)
    (hnonneg : 0 ≤ story.session.line) (hempty : story.session.stage = Stage.empty) :
    story.start.1.Consistent := by
  have hle : story.placed.session.line ≤ story.placed.session.commands.length :=
    Int.min_le_right _ _
  have hplaced : 0 ≤ story.placed.session.line := by
    show 0 ≤ min story.session.line _
    omega
  by_cases hpos : 0 < story.placed.session.line
  · rw [start_of_pos hpos]
    have hrebuilt : story.rebuilt.1.Consistent := consistent_of_idle hidle hplaced hle rfl
    exact hrebuilt.advance
  · rw [start_of_not_pos hpos]
    have hzero : story.placed.session.line.toNat = 0 := by omega
    have hkept : story.placed.Consistent := by
      refine consistent_of_idle hidle hplaced hle ?_
      rw [hzero]
      exact hempty
    exact hkept.advance

/-! ## Any number of calls -/

namespace Consistent

variable {story : Interpreter}

theorem advance_stray (hstory : story.Consistent) : story.advance.2.stray = false := by
  by_cases hphase : story.phase = .ended
  · rw [advance_of_ended hphase]
  · rw [advance_of_line hphase hstory.line_eq_toNat]
    exact follow_stray story _

theorem call_stray (hstory : story.Consistent) (next : Call) :
    (story.call next).2.stray = false := by
  cases next with
  | start =>
      show story.start.2.stray = false
      by_cases hpos : 0 < story.placed.session.line
      · rw [start_of_pos hpos, hstory.rebuilt, Report.stray_append, hstory.advance_stray]
        rfl
      · rw [start_of_not_pos hpos, hstory.placed]
        exact hstory.advance_stray
  | advance => exact hstory.advance_stray
  | rebuildAt target => rfl
  | rebuildHere => rfl

theorem calls (hstory : story.Consistent) {history : List Call}
    (hhere : ∀ target, Call.rebuildAt target ∉ history) :
    (story.calls history).1.Consistent ∧
      ∀ report ∈ (story.calls history).2, report.stray = false := by
  have hallowed : ∀ next ∈ history, ∀ target, next ≠ .rebuildAt target := by
    rintro next hnext target rfl
    exact hhere target hnext
  refine calls_preserve ?_ hstory hallowed
  intro story next hstory hnext
  exact ⟨hstory.call hnext, hstory.call_stray next⟩

end Consistent

/-- The first start never looks for commands before the script. -/
theorem start_stray {story : Interpreter} (hidle : story.phase = .idle)
    (hnonneg : 0 ≤ story.session.line) : story.start.2.stray = false := by
  have hline : story.placed.session.line = (story.placed.session.line.toNat : Int) := by
    show min story.session.line _ = ((min story.session.line _).toNat : Int)
    omega
  have hphase : story.phase ≠ .ended := by
    rw [hidle]
    decide
  by_cases hpos : 0 < story.placed.session.line
  · have hrebuilt : story.rebuilt.1.phase ≠ .ended := hphase
    have hsame : story.rebuilt.1.session.line = (story.placed.session.line.toNat : Int) := hline
    rw [start_of_pos hpos, Report.stray_append, advance_of_line hrebuilt hsame, follow_stray]
    rfl
  · have hplaced : story.placed.phase ≠ .ended := hphase
    rw [start_of_not_pos hpos, advance_of_line hplaced hline]
    exact follow_stray _ _

/-- A story whose line is the first one, or that starts before anything else, is consistent
after any calls. -/
theorem consistent_calls (resolver : Resolver) (catalog : Catalog) (tenant player : String)
    (first : Nat) {history : List Call} (hhere : ∀ target, Call.rebuildAt target ∉ history)
    (hstart : 0 < first → history.head? = some .start) :
    ((idle resolver { tenant, player, line := first, catalog }).calls history).1.Consistent ∧
      ∀ report ∈ ((idle resolver { tenant, player, line := first, catalog }).calls history).2,
        report.stray = false := by
  set story := idle resolver { tenant, player, line := first, catalog } with hstory
  rcases Nat.eq_zero_or_pos first with hzero | hpos
  · -- on the first line an empty stage is right as it is
    have hidle : story.Consistent := by
      refine consistent_of_idle rfl ?_ ?_ ?_
      · exact Int.natCast_nonneg first
      · rw [hstory, hzero]
        exact Int.natCast_nonneg _
      · rw [hstory, hzero]
        rfl
    exact hidle.calls hhere
  · -- beyond the first line a start comes first, and makes the story consistent
    obtain ⟨rest, rfl⟩ : ∃ rest, history = .start :: rest := by
      cases history with
      | nil => simp at hstart; omega
      | cons next rest => exact ⟨rest, by simpa using hstart hpos⟩
    have hline : 0 ≤ story.session.line := Int.natCast_nonneg first
    have hfirst : story.start.1.Consistent := consistent_start rfl hline rfl
    have hrest : ∀ target, Call.rebuildAt target ∉ rest := by
      intro target hmem
      exact hhere target (List.mem_cons_of_mem _ hmem)
    obtain ⟨hlast, hreports⟩ := hfirst.calls hrest
    refine ⟨hlast, ?_⟩
    intro report hreport
    rcases List.mem_cons.mp hreport with rfl | hlater
    · exact start_stray rfl hline
    · exact hreports report hlater

end Interpreter

end VisualNovel
