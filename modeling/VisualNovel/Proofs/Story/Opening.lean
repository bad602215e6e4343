import Mathlib.Data.List.Basic
import VisualNovel.Interpreter
import VisualNovel.Proofs.Story.Replay

/-!
# How far a run goes

A run carries out the commands that come up until one of them pauses.  The commands that it
carries out are the *opening* of the list: all silent commands at its start, and the pausing one
after them if there is one.

Every list either has no command that pauses, and is its own opening then, or is split by the
first one that does (`silent_or_split`).
-/

namespace VisualNovel

/-! ## Kinds of commands -/

namespace Command

theorem pauses_iff (command : Command) :
    command.instruction.pauses = true ↔ command.kind = "text" ∨ command.kind = "img_show" := by
  unfold instruction
  split_ifs <;> simp_all [Instruction.pauses]

/-- Is the command of a kind that is known? -/
def isKnown (command : Command) : Bool :=
  command.kind ∈ ["text", "char_show", "char_hide", "bg_change", "img_show", "img_hide"]

/-- A command of an unknown kind asks for nothing. -/
theorem isKnown_iff (command : Command) :
    command.isKnown = true ↔ command.instruction ≠ .unknown := by
  unfold isKnown instruction
  split_ifs <;> simp_all

theorem instruction_of_not_known {command : Command} (hunknown : command.isKnown = false) :
    command.instruction = .unknown := by
  by_contra hother
  rw [command.isKnown_iff.mpr hother] at hunknown
  cases hunknown

end Command

theorem Instruction.changesStage_of_pauses {instruction : Instruction}
    (hpauses : instruction.pauses = true) : instruction.changesStage = false := by
  cases instruction <;> simp_all [Instruction.pauses, Instruction.changesStage]

/-! ## The opening of a list of commands -/

/-- The commands up to and including the first one that pauses. -/
def Command.opening : List Command → List Command
  | [] => []
  | command :: rest =>
    if command.instruction.pauses then [command] else command :: opening rest

namespace Command

/-- Does the story pause at one of the commands? -/
def anyPauses (commands : List Command) : Bool :=
  commands.any fun command => command.instruction.pauses

theorem opening_cons_of_pauses {command : Command} (hpauses : command.instruction.pauses = true)
    (rest : List Command) : opening (command :: rest) = [command] := by
  simp [opening, hpauses]

theorem opening_cons_of_silent {command : Command} (hsilent : command.instruction.pauses = false)
    (rest : List Command) : opening (command :: rest) = command :: opening rest := by
  simp [opening, hsilent]

theorem opening_initial (commands : List Command) : opening commands <+: commands := by
  induction commands with
  | nil => exact List.prefix_rfl
  | cons command rest ih =>
      cases hpauses : command.instruction.pauses with
      | true =>
          rw [opening_cons_of_pauses hpauses]
          exact ⟨rest, rfl⟩
      | false =>
          rw [opening_cons_of_silent hpauses]
          exact List.prefix_cons_inj command |>.mpr ih

theorem length_opening_le (commands : List Command) :
    (opening commands).length ≤ commands.length :=
  (opening_initial commands).length_le

theorem take_length_opening (commands : List Command) :
    commands.take (opening commands).length = opening commands :=
  (List.prefix_iff_eq_take.mp (opening_initial commands)).symm

/-- Silent commands at the start belong to the opening. -/
theorem opening_append {before : List Command}
    (hsilent : ∀ command ∈ before, command.instruction.pauses = false) (rest : List Command) :
    opening (before ++ rest) = before ++ opening rest := by
  induction before with
  | nil => rfl
  | cons command before ih =>
      obtain ⟨hcommand, hbefore⟩ := List.forall_mem_cons.mp hsilent
      rw [List.cons_append, opening_cons_of_silent hcommand, ih hbefore, List.cons_append]

/-- Either nothing pauses, or there is a first command that does. -/
theorem silent_or_split (commands : List Command) :
    (∀ command ∈ commands, command.instruction.pauses = false) ∨
      ∃ before last rest, commands = before ++ last :: rest ∧
        (∀ command ∈ before, command.instruction.pauses = false) ∧
        last.instruction.pauses = true := by
  induction commands with
  | nil => exact Or.inl (by simp)
  | cons command commands ih =>
      cases hpauses : command.instruction.pauses with
      | true => exact Or.inr ⟨[], command, commands, rfl, by simp, hpauses⟩
      | false =>
          rcases ih with hsilent | ⟨before, last, rest, hsplit, hsilent, hlast⟩
          · exact Or.inl (List.forall_mem_cons.mpr ⟨hpauses, hsilent⟩)
          · refine Or.inr ⟨command :: before, last, rest, ?_, ?_, hlast⟩
            · rw [hsplit, List.cons_append]
            · exact List.forall_mem_cons.mpr ⟨hpauses, hsilent⟩

theorem opening_of_not_anyPauses {commands : List Command} (hsilent : anyPauses commands = false) :
    opening commands = commands := by
  rw [anyPauses, List.any_eq_false] at hsilent
  have happend := opening_append (fun command hmem => by simpa using hsilent command hmem) []
  rwa [List.append_nil, opening, List.append_nil] at happend

/-- If something pauses, then it is the last command of the opening that does. -/
theorem opening_of_anyPauses {commands : List Command} (hpauses : anyPauses commands = true) :
    ∃ before last, opening commands = before ++ [last] ∧ last.instruction.pauses = true := by
  rcases silent_or_split commands with hsilent | ⟨before, last, rest, rfl, hsilent, hlast⟩
  · obtain ⟨command, hmem, hcommand⟩ := List.any_eq_true.mp hpauses
    rw [hsilent command hmem] at hcommand
    cases hcommand
  · refine ⟨before, last, ?_, hlast⟩
    rw [opening_append hsilent, opening_cons_of_pauses hlast]

end Command

end VisualNovel
