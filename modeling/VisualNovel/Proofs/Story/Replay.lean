import Mathlib.Tactic.SplitIfs
import VisualNovel.Stage.Change

/-!
# Replaying commands on a stage

`Stage.applyAll` is the one way in which commands reach a stage, so what it does to
a list of commands is settled here once.  Replaying is done piece by piece
(`applyAll_append`), and commands that do not change the stage may be left out
(`applyAll_filter`).
-/

namespace VisualNovel

/-- Only the three stage commands change the stage. -/
theorem Command.changesStage_iff (command : Command) :
    command.instruction.changesStage = true ↔
      command.kind = "bg_change" ∨ command.kind = "char_show" ∨ command.kind = "char_hide" := by
  unfold Command.instruction
  split_ifs <;> simp_all [Instruction.changesStage]

theorem Command.decide_kind_mem :
    (fun command : Command =>
      decide (command.kind ∈ ["bg_change", "char_show", "char_hide"])) =
        fun command => command.instruction.changesStage := by
  funext command
  rw [Bool.eq_iff_iff, command.changesStage_iff]
  simp

namespace Stage

variable {catalog other : Catalog} {resolver : Resolver} {stage : Stage}

theorem follow_of_not_changesStage {instruction : Instruction}
    (hsilent : instruction.changesStage = false) :
    stage.follow catalog resolver instruction = (stage, none) := by
  cases instruction <;> simp_all [follow, Instruction.changesStage]

theorem apply_of_not_changesStage {command : Command}
    (hsilent : command.instruction.changesStage = false) :
    stage.apply catalog resolver command = (stage, none) :=
  follow_of_not_changesStage hsilent

@[simp] theorem applyAll_nil : stage.applyAll catalog resolver [] = (stage, []) := rfl

theorem applyAll_cons (command : Command) (rest : List Command) :
    stage.applyAll catalog resolver (command :: rest) =
      (((stage.apply catalog resolver command).1.applyAll catalog resolver rest).1,
        (stage.apply catalog resolver command).2.toList ++
          ((stage.apply catalog resolver command).1.applyAll catalog resolver rest).2) := rfl

theorem applyAll_append (first second : List Command) :
    stage.applyAll catalog resolver (first ++ second) =
      (((stage.applyAll catalog resolver first).1.applyAll catalog resolver second).1,
        (stage.applyAll catalog resolver first).2 ++
          ((stage.applyAll catalog resolver first).1.applyAll catalog resolver second).2) := by
  induction first generalizing stage with
  | nil => rfl
  | cons command rest ih =>
      rw [List.cons_append, applyAll_cons, ih, applyAll_cons]
      simp only [List.append_assoc]

/-- The stage after some commands, without the events. -/
theorem applyAll_append_fst (first second : List Command) :
    (stage.applyAll catalog resolver (first ++ second)).1 =
      ((stage.applyAll catalog resolver first).1.applyAll catalog resolver second).1 := by
  rw [applyAll_append]

/-- Replaying all commands is replaying the stage commands among them. -/
theorem applyAll_filter (commands : List Command) :
    stage.applyAll catalog resolver
        (commands.filter fun command => command.instruction.changesStage) =
      stage.applyAll catalog resolver commands := by
  induction commands generalizing stage with
  | nil => rfl
  | cons command rest ih =>
      cases hchanges : command.instruction.changesStage with
      | true =>
          rw [List.filter_cons_of_pos (by exact hchanges), applyAll_cons, applyAll_cons, ih]
      | false =>
          rw [List.filter_cons_of_neg (by simp [hchanges]), ih, applyAll_cons,
            apply_of_not_changesStage hchanges]
          rfl

/-- A stage is changed by way of a catalog only as the catalog has pictures. -/
theorem follow_congr (hpictures : ∀ character expression,
      catalog.portraitAddress resolver character expression =
        other.portraitAddress resolver character expression)
    (stage : Stage) (instruction : Instruction) :
    stage.follow catalog resolver instruction = stage.follow other resolver instruction := by
  cases instruction with
  | showCharacter character expression position =>
      simp only [follow, hpictures character expression]
  | _ => rfl

theorem applyAll_congr (hpictures : ∀ character expression,
      catalog.portraitAddress resolver character expression =
        other.portraitAddress resolver character expression)
    (stage : Stage) (commands : List Command) :
    stage.applyAll catalog resolver commands = stage.applyAll other resolver commands := by
  induction commands generalizing stage with
  | nil => rfl
  | cons command rest ih => simp only [applyAll, apply, follow_congr hpictures, ih]

end Stage

end VisualNovel
