import VisualNovel.Proofs.Story.Executed

/-!
# Calls that fail

A call fails at the first command that it cannot carry out, as there is no address for the image
that it needs.  Up to there it does what the call does that is proved things about elsewhere: a run
of commands is one of `Session.run` as long as all commands of the opening have their addresses, and
otherwise it is given up at the first that has none (`Session.tryRun_cases`).

So it can be said beforehand whether a story can go on for some times (`Interpreter.Readable`): all
commands have their addresses before which not too many others pause.  For a story that starts, the
stage has to be rebuilt as well (`Interpreter.Tellable`).
-/

namespace VisualNovel

/-! ## Images without an address -/

namespace Resolver

variable {id : String}

/-- A background has an address if it needs none, is one itself, or can be encoded. -/
theorem backgroundFault?_eq_none_iff :
    backgroundFault? id = none ↔
      id = "" ∨ isWebAddress id = true ∨ Text.isEncodable id = true := by
  have hpath : Text.isEncodable (backgroundPath id) = Text.isEncodable id := by
    have hfolder : Text.isEncodable "backgrounds/" = true := by decide +kernel
    have hending : Text.isEncodable ".png" = true := by decide +kernel
    rw [backgroundPath, Text.isEncodable_append, Text.isEncodable_append, hfolder, hending,
      Bool.true_and, Bool.and_true]
  rw [backgroundFault?, ← or_assoc]
  split
  · next hnone => exact iff_of_true rfl (Or.inl hnone)
  · next hneeded => rw [Text.unencodable?_eq_none_iff, hpath, or_iff_right hneeded]

/-- The portrait of a character has an address if there is none to show, or if the id can be
encoded. -/
theorem portraitFault?_eq_none_iff :
    portraitFault? id = none ↔ (id = "" ∨ id = narrator) ∨ Text.isEncodable id = true := by
  have hpath : Text.isEncodable (portraitPath id) = Text.isEncodable id := by
    have hfolder : Text.isEncodable "characters/" = true := by decide +kernel
    have hending : Text.isEncodable ".png" = true := by decide +kernel
    rw [portraitPath, Text.isEncodable_append, Text.isEncodable_append, hfolder, hending,
      Bool.true_and, Bool.and_true]
  rw [portraitFault?]
  split
  · next hnone => exact iff_of_true rfl (Or.inl hnone)
  · next hneeded => rw [Text.unencodable?_eq_none_iff, hpath, or_iff_right hneeded]

end Resolver

/-- Are there the addresses that the command needs? -/
def Command.Addressable (catalog : Catalog) (command : Command) : Prop :=
  command.instruction.fault? catalog = none

/-- Are there the addresses that the command needs to change the stage? -/
def Command.StageAddressable (catalog : Catalog) (command : Command) : Prop :=
  command.instruction.stageFault? catalog = none

theorem Command.Addressable.stageAddressable {catalog : Catalog} {command : Command}
    (haddressable : command.Addressable catalog) : command.StageAddressable catalog := by
  rw [StageAddressable]
  cases hinstruction : command.instruction with
  | showImage image => rfl
  | _ =>
      rw [Addressable, hinstruction] at haddressable
      exact haddressable

/-! ## Runs -/

namespace Session

/-- A run carries out the opening, or is given up at the first command in it without an address. -/
theorem tryRun_cases (resolver : Resolver) (session : Session) (upcoming : List Command) :
    (∀ command ∈ Command.opening upcoming, command.Addressable session.catalog) ∧
        session.tryRun resolver upcoming =
          ((session.run resolver upcoming).1, .ok (session.run resolver upcoming).2) ∨
      ∃ before command later fault, Command.opening upcoming = before ++ command :: later ∧
        (∀ earlier ∈ before, earlier.Addressable session.catalog) ∧
        command.instruction.fault? session.catalog = some fault ∧
        session.tryRun resolver upcoming =
          ((session.carryOut resolver before).1.interrupted command, .error fault) := by
  induction upcoming generalizing session with
  | nil => exact Or.inl ⟨List.forall_mem_nil _, rfl⟩
  | cons command rest ih =>
      cases hfault : command.instruction.fault? session.catalog with
      | some fault =>
          obtain ⟨later, hopening⟩ : ∃ later,
              Command.opening (command :: rest) = command :: later := by
            unfold Command.opening
            split
            · exact ⟨[], rfl⟩
            · exact ⟨Command.opening rest, rfl⟩
          refine Or.inr ⟨[], command, later, fault, hopening, List.forall_mem_nil _, hfault, ?_⟩
          simp [tryRun, hfault]
      | none =>
          cases hpauses : command.instruction.pauses with
          | true =>
              rw [Command.opening_cons_of_pauses hpauses]
              refine Or.inl ⟨List.forall_mem_singleton.mpr hfault, ?_⟩
              simp [tryRun, run, hfault, hpauses]
          | false =>
              have hcatalog : (session.past resolver command).catalog = session.catalog := by
                rw [past_eq]
              rw [Command.opening_cons_of_silent hpauses]
              have hmoved := ih (session.past resolver command)
              rw [hcatalog] at hmoved
              rcases hmoved with ⟨hrest, hrun⟩ | ⟨before, last, later, fault, hopening, hbefore,
                hlast, hrun⟩
              · refine Or.inl ⟨List.forall_mem_cons.mpr ⟨hfault, hrest⟩, ?_⟩
                rw [past] at hrun
                simp [tryRun, run, hfault, hpauses, hrun, Except.map]
              · refine Or.inr ⟨command :: before, last, later, fault, ?_,
                  List.forall_mem_cons.mpr ⟨hfault, hbefore⟩, hlast, ?_⟩
                · rw [hopening, List.cons_append]
                · rw [carryOut_cons]
                  rw [past] at hrun ⊢
                  simp [tryRun, hfault, hpauses, hrun, Except.map]

end Session

/-- A stage is changed by all commands, or by none any more after one without an address. -/
theorem Stage.tryApplyAll_cases (catalog : Catalog) (resolver : Resolver) (stage : Stage)
    (commands : List Command) :
    (∀ command ∈ commands, command.StageAddressable catalog) ∧
        stage.tryApplyAll catalog resolver commands =
          ((stage.applyAll catalog resolver commands).1,
            .ok (stage.applyAll catalog resolver commands).2) ∨
      ∃ before command later fault, commands = before ++ command :: later ∧
        (∀ earlier ∈ before, earlier.StageAddressable catalog) ∧
        command.instruction.stageFault? catalog = some fault ∧
        stage.tryApplyAll catalog resolver commands =
          ((stage.applyAll catalog resolver before).1.interrupted command.instruction,
            .error fault) := by
  induction commands generalizing stage with
  | nil => exact Or.inl ⟨List.forall_mem_nil _, rfl⟩
  | cons command rest ih =>
      cases hfault : command.instruction.stageFault? catalog with
      | some fault =>
          refine Or.inr ⟨[], command, rest, fault, rfl, List.forall_mem_nil _, hfault, ?_⟩
          simp [tryApplyAll, tryApply, hfault]
      | none =>
          rcases ih (stage.apply catalog resolver command).1 with ⟨hrest, hall⟩ |
            ⟨before, last, later, fault, rfl, hbefore, hlast, hall⟩
          · refine Or.inl ⟨List.forall_mem_cons.mpr ⟨hfault, hrest⟩, ?_⟩
            simp [tryApplyAll, tryApply, hfault, hall, applyAll_cons, Except.map]
          · refine Or.inr ⟨command :: before, last, later, fault, rfl,
              List.forall_mem_cons.mpr ⟨hfault, hbefore⟩, hlast, ?_⟩
            simp [tryApplyAll, tryApply, hfault, hall, applyAll_cons, Except.map]

/-! ## Calls -/

namespace Interpreter

variable {story : Interpreter} {steps : Nat}

/-- The commands that the story carries out when it goes on. -/
def next (story : Interpreter) : List Command :=
  Command.opening (story.session.commands.drop story.session.line.toNat)

theorem tryAdvance_of_ended (hphase : story.phase = .ended) : story.tryAdvance =
    (story, .ok {}) := by
  simp [tryAdvance, hphase]

theorem tryAdvance_eq (hphase : story.phase ≠ .ended) :
    story.tryAdvance =
      match story.session.upcoming? with
      | none => ({ story with phase := .running }, .error .stray)
      | some upcoming =>
        match story.session.tryRun story.resolver upcoming with
        | (last, .error fault) =>
          ({ story with session := last, phase := .running }, .error (.unencodable fault))
        | (last, .ok (report, paused)) =>
          ((story.halted last report paused).1, .ok (story.halted last report paused).2) := by
  unfold tryAdvance
  cases hcases : story.phase with
  | ended => exact absurd hcases hphase
  | idle => rfl
  | running => rfl

/-- A story that goes on carries out the next commands, or is given up at one of them. -/
theorem tryAdvance_cases (honScript : story.OnScript) (hphase : story.phase ≠ .ended) :
    (∀ command ∈ story.next, command.Addressable story.session.catalog) ∧
        story.tryAdvance = (story.advance.1, .ok story.advance.2) ∨
      (¬∀ command ∈ story.next, command.Addressable story.session.catalog) ∧
        ∃ given fault, story.tryAdvance = (given, .error (.unencodable fault)) := by
  have hupcoming : story.session.upcoming? =
      some (story.session.commands.drop story.session.line.toNat) := by
    rw [Session.upcoming?, honScript.line_eq_toNat]
    rfl
  have htry := tryAdvance_eq hphase
  rw [hupcoming] at htry
  rcases story.session.tryRun_cases story.resolver
    (story.session.commands.drop story.session.line.toNat) with ⟨hall, hrun⟩ |
      ⟨before, command, later, fault, hopening, -, hfault, hrun⟩
  · simp only [hrun] at htry
    refine Or.inl ⟨hall, ?_⟩
    rw [htry, advance_eq hphase, hupcoming]
    rfl
  · simp only [hrun] at htry
    refine Or.inr ⟨fun hall => ?_, _, fault, htry⟩
    have hcommand := hall command (by simp [next, hopening])
    rw [Command.Addressable, hfault] at hcommand
    cases hcommand

/-- A story that goes on without a failure goes on as it does where nothing fails. -/
theorem advance_of_tryAdvance {given : Interpreter} {report : Report}
    (hgiven : story.tryAdvance = (given, .ok report)) : story.advance = (given, report) := by
  by_cases hended : story.phase = .ended
  · rw [tryAdvance_of_ended hended] at hgiven
    cases hgiven
    exact advance_of_ended hended
  · rw [tryAdvance_eq hended] at hgiven
    rw [advance_eq hended]
    cases hupcoming : story.session.upcoming? with
    | none =>
        rw [hupcoming] at hgiven
        cases hgiven
    | some upcoming =>
        rw [hupcoming] at hgiven
        rcases story.session.tryRun_cases story.resolver upcoming with
          ⟨-, hrun⟩ | ⟨_, _, _, _, _, _, _, hrun⟩
        · simp only [hrun] at hgiven
          cases hgiven
          rfl
        · simp only [hrun] at hgiven
          cases hgiven

theorem tryStart_of_not_pos (hpos : ¬0 < story.placed.session.line) :
    story.tryStart = story.placed.tryAdvance :=
  if_neg hpos

/-- A story that is taken up at a line goes on from there, once its stage is rebuilt. -/
theorem tryStart_of_ok (hpos : 0 < story.placed.session.line) {rebuilt : Interpreter}
    {before : Report}
    (hrebuild : story.placed.tryRebuildStage story.placed.session.line = (rebuilt, .ok before)) :
    story.tryStart = (rebuilt.tryAdvance.1, rebuilt.tryAdvance.2.map (before ++ ·)) := by
  simp only [tryStart]
  split
  · split
    · next heq => cases hrebuild.symm.trans heq
    · next heq =>
      cases hrebuild.symm.trans heq
      rfl
  · next hnot => exact absurd hpos hnot

theorem tryStart_of_error (hpos : 0 < story.placed.session.line) {rebuilt : Interpreter}
    {fault : StoryFault}
    (hrebuild : story.placed.tryRebuildStage story.placed.session.line = (rebuilt, .error fault)) :
    story.tryStart = (rebuilt, .error fault) := by
  simp only [tryStart]
  split
  · split
    · next heq =>
      cases hrebuild.symm.trans heq
      rfl
    · next heq => cases hrebuild.symm.trans heq
  · next hnot => exact absurd hpos hnot

/-- The stage of a story is rebuilt, or one of the commands for that has no address. -/
theorem tryRebuildStage_cases (story : Interpreter) (target : Int) :
    (∀ command ∈ story.session.commands.take target.toNat,
        command.StageAddressable story.session.catalog) ∧
        story.tryRebuildStage target =
          ((story.rebuildStage target).1, .ok (story.rebuildStage target).2) ∨
      (¬∀ command ∈ story.session.commands.take target.toNat,
        command.StageAddressable story.session.catalog) ∧
        ∃ rebuilt fault, story.tryRebuildStage target = (rebuilt, .error (.unencodable fault)) := by
  rcases Stage.tryApplyAll_cases story.session.catalog story.resolver Stage.empty
    (story.session.commands.take target.toNat) with ⟨hall, happly⟩ |
      ⟨before, command, later, fault, hsplit, -, hfault, happly⟩
  · exact Or.inl ⟨hall, by simp only [tryRebuildStage, happly, rebuildStage]⟩
  · refine Or.inr ⟨fun hall => ?_, _, fault, by simp only [tryRebuildStage, happly]; rfl⟩
    have hcommand := hall command (hsplit ▸ by simp)
    rw [Command.StageAddressable, hfault] at hcommand
    cases hcommand

/-- The beginning of a story that starts rebuilds the stage, or is given up at one of the commands
for that. -/
theorem tryBegin_cases (story : Interpreter) :
    (∀ command ∈ story.session.commands.take story.session.line.toNat,
        command.StageAddressable story.session.catalog) ∧
        story.tryStart =
          (story.begun.1.tryAdvance.1, story.begun.1.tryAdvance.2.map (story.begun.2 ++ ·)) ∨
      (¬∀ command ∈ story.session.commands.take story.session.line.toNat,
        command.StageAddressable story.session.catalog) ∧
        ∃ given fault, story.tryStart = (given, .error (.unencodable fault)) := by
  have hline : story.placed.session.line =
      min story.session.line story.session.commands.length := rfl
  by_cases hpos : 0 < story.placed.session.line
  · have htake : story.placed.session.commands.take story.placed.session.line.toNat =
        story.session.commands.take story.session.line.toNat := by
      show story.session.commands.take _ = _
      rcases Int.le_total story.session.line story.session.commands.length with hle | hle
      · rw [hline, Int.min_eq_left hle]
      · rw [hline, Int.min_eq_right hle, Int.toNat_natCast, List.take_length,
          List.take_of_length_le (by omega)]
    rw [← htake, begun, if_pos hpos]
    rcases tryRebuildStage_cases story.placed story.placed.session.line with
      ⟨hall, hrebuild⟩ | ⟨hsome, rebuilt, fault, hrebuild⟩
    · exact Or.inl ⟨hall, tryStart_of_ok hpos hrebuild⟩
    · exact Or.inr ⟨hsome, rebuilt, fault, tryStart_of_error hpos hrebuild⟩
  · have hnone : story.session.commands.take story.session.line.toNat = [] := by
      rw [List.take_eq_nil_iff]
      rw [hline] at hpos
      by_cases hempty : story.session.commands = []
      · exact Or.inr hempty
      · have hlength := List.length_pos_iff.mpr hempty
        omega
    refine Or.inl ⟨by simp [hnone], ?_⟩
    rw [tryStart_of_not_pos hpos, begun, if_neg hpos]
    rcases story.placed.tryAdvance with ⟨given, fault | report⟩ <;> rfl

theorem start_of_tryStart {given : Interpreter} {report : Report}
    (hgiven : story.tryStart = (given, .ok report)) : story.start = (given, report) := by
  rw [start_eq_begun]
  rcases tryBegin_cases story with ⟨-, hstart⟩ | ⟨-, _, _, hstart⟩
  · rcases hadvance : story.begun.1.tryAdvance with ⟨advanced, fault | after⟩
    · rw [hstart, hadvance] at hgiven
      cases hgiven
    · rw [hstart, hadvance] at hgiven
      cases hgiven
      rw [advance_of_tryAdvance hadvance]
  · rw [hstart] at hgiven
    cases hgiven

/-- Does the step of a story with the catalog lead to a line of its script, or is it given up as a
command of the script has no address? -/
def Steady (catalog : Catalog) : Interpreter × Except StoryFault Report → Prop
  | (story, .ok _) => story.OnScript ∧ story.session.catalog = catalog
  | (_, .error fault) =>
    (∃ unencodable, fault = .unencodable unencodable) ∧
      ∃ command ∈ catalog.commands, ¬command.Addressable catalog

theorem OnScript.tryAdvance (honScript : story.OnScript) :
    Steady story.session.catalog story.tryAdvance := by
  by_cases hended : story.phase = .ended
  · rw [tryAdvance_of_ended hended]
    exact ⟨honScript, rfl⟩
  · rcases tryAdvance_cases honScript hended with ⟨-, hadvance⟩ | ⟨hnext, _, fault, hadvance⟩
    · rw [hadvance]
      exact ⟨honScript.advance.1, (advance_frame story).catalog_eq⟩
    · rw [hadvance]
      refine ⟨⟨fault, rfl⟩, ?_⟩
      obtain ⟨command, hmem, hcommand⟩ := not_forall₂.mp hnext
      exact ⟨command, List.mem_of_mem_drop ((Command.opening_initial _).subset hmem), hcommand⟩

theorem OnScript.tryStart (honScript : story.OnScript) :
    Steady story.session.catalog story.tryStart := by
  rcases tryBegin_cases story with ⟨-, hstart⟩ | ⟨hearlier, _, fault, hstart⟩
  · have hadvance := honScript.begun.tryAdvance
    rw [story.begun_frame.catalog_eq] at hadvance
    rw [hstart]
    rcases hgiven : story.begun.1.tryAdvance with ⟨given, fault | report⟩
    · rw [hgiven] at hadvance
      exact hadvance
    · rw [hgiven] at hadvance
      exact hadvance
  · rw [hstart]
    refine ⟨⟨fault, rfl⟩, ?_⟩
    obtain ⟨command, hmem, hcommand⟩ := not_forall₂.mp hearlier
    exact ⟨command, List.mem_of_mem_take hmem, fun haddressable =>
      hcommand haddressable.stageAddressable⟩

/-! ## How far a story can be told -/

/-- Can the story go on so often?  All commands have their addresses before which fewer others
pause the story. -/
def Readable (story : Interpreter) (steps : Nat) : Prop :=
  story.phase ≠ .ended → ∀ before command later,
    story.session.commands.drop story.session.line.toNat = before ++ command :: later →
      Command.pauseCount before < steps → command.Addressable story.session.catalog

theorem readable_zero (story : Interpreter) : story.Readable 0 :=
  fun _ _ _ _ _ hpauses => absurd hpauses (Nat.not_lt_zero _)

theorem Readable.mono {fewer : Nat} (hreadable : story.Readable steps) (hle : fewer ≤ steps) :
    story.Readable fewer :=
  fun hphase before command later hsplit hpauses =>
    hreadable hphase before command later hsplit (Nat.lt_of_lt_of_le hpauses hle)

theorem readable_of_ended (hphase : story.phase = .ended) : story.Readable steps :=
  fun hgoing => absurd hphase hgoing

/-- Commands of which only the last may pause are taken off the front of a script.  What holds as
far as one pause more holds of all of them, and behind them as far as the pauses that are left. -/
theorem forall_within_append_iff {first rest : List Command} {P : Command → Prop}
    (hsilent : ∀ command ∈ first.dropLast, command.instruction.pauses = false)
    (hcount : rest ≠ [] → Command.pauseCount first = 1) :
    (∀ before command later, first ++ rest = before ++ command :: later →
        Command.pauseCount before < steps + 1 → P command) ↔
      (∀ command ∈ first, P command) ∧
        ∀ before command later, rest = before ++ command :: later →
          Command.pauseCount before < steps → P command := by
  have hinitial : ∀ {before command later}, first = before ++ command :: later →
      Command.pauseCount before = 0 := by
    rintro before command later rfl
    refine Command.pauseCount_of_silent fun earlier hearlier => hsilent earlier ?_
    rw [List.dropLast_append_cons]
    exact List.mem_append_left _ hearlier
  constructor
  · intro hwithin
    refine ⟨fun command hmem => ?_, fun before command later hsplit hpauses => ?_⟩
    · obtain ⟨before, later, hsplit⟩ := List.append_of_mem hmem
      refine hwithin before command (later ++ rest) (by simp [hsplit]) ?_
      rw [hinitial hsplit]
      exact Nat.succ_pos steps
    · refine hwithin (first ++ before) command later (by simp [hsplit]) ?_
      rw [Command.pauseCount_append, hcount (by simp [hsplit])]
      omega
  · rintro ⟨hfirst, hrest⟩ before command later hsplit hpauses
    -- the whole is split behind the first commands, or within them
    rcases List.append_eq_append_iff.mp hsplit with ⟨between, rfl, hlater⟩ |
      ⟨between, hopened, hlater⟩
    · refine hrest between command later hlater ?_
      rw [Command.pauseCount_append, hcount (by simp [hlater])] at hpauses
      omega
    · cases between with
      | nil =>
          rw [List.append_nil] at hopened
          have hlater : rest = command :: later := hlater.symm
          refine hrest [] command later hlater ?_
          rw [← hopened, hcount (by simp [hlater])] at hpauses
          exact Nat.lt_of_succ_lt_succ hpauses
      | cons other between =>
          obtain ⟨rfl, -⟩ := List.cons.inj hlater
          exact hfirst command (hopened ▸ by simp)

/-- A story can go on once more if all of the next commands have their addresses, and if it can go
on from there. -/
theorem readable_succ_iff (honScript : story.OnScript) (hphase : story.phase ≠ .ended) :
    story.Readable (steps + 1) ↔
      (∀ command ∈ story.next, command.Addressable story.session.catalog) ∧
        story.advance.1.Readable steps := by
  have hline := honScript.line_eq_toNat
  rw [next]
  rcases Command.silent_or_split (story.session.commands.drop story.session.line.toNat) with
    hsilent | ⟨before, last, rest, hupcoming, hsilent, hlast⟩
  · have hpauses : Command.anyPauses
        (story.session.commands.drop story.session.line.toNat) = false :=
      List.any_eq_false.mpr fun command hmem => by simp [hsilent command hmem]
    have hended : story.advance.1.phase = .ended := by
      rw [advance_of_silent hphase hline rfl hsilent]
      rfl
    have hwithin := @forall_within_append_iff steps _ []
      (fun command => command.Addressable story.session.catalog)
      (fun command hmem => hsilent command (List.dropLast_subset _ hmem))
      (fun hrest => absurd rfl hrest)
    rw [List.append_nil, and_iff_left (by simp)] at hwithin
    rw [Command.opening_of_not_anyPauses hpauses, and_iff_left (readable_of_ended hended),
      Readable, imp_iff_right hphase]
    exact hwithin
  · have hopening : Command.opening (before ++ last :: rest) = before ++ [last] := by
      rw [Command.opening_append hsilent, Command.opening_cons_of_pauses hlast]
    have hcount : Command.pauseCount (before ++ [last]) = 1 := by
      rw [Command.pauseCount_append, Command.pauseCount_of_silent hsilent,
        Command.pauseCount_cons_of_pauses hlast]
      rfl
    obtain ⟨hline', hupcoming'⟩ :=
      upcoming_after hline (hupcoming.trans (List.append_cons before last rest)) .running
    have hadvance := advance_of_pauses hphase hline hupcoming hsilent hlast
    have hcatalog : (story.after (before ++ [last]) .running).session.catalog =
        story.session.catalog := story.session.carryOut_catalog _
    have hrunning : (story.after (before ++ [last]) .running).phase ≠ .ended := Phase.noConfusion
    rw [hadvance, Readable, Readable, hline', hcatalog, Int.toNat_natCast, hupcoming', hupcoming,
      hopening, List.append_cons before last rest, imp_iff_right hphase, imp_iff_right hrunning]
    exact forall_within_append_iff (by rwa [List.dropLast_concat]) fun _ => hcount

/-- Can the story start, and then go on so often?  The commands before its line have the addresses
for the stage to be rebuilt, and the commands from there on have theirs before which not more others
pause the story. -/
structure Tellable (story : Interpreter) (steps : Nat) : Prop where
  earlier : ∀ command ∈ story.session.commands.take story.session.line.toNat,
    command.StageAddressable story.session.catalog
  later : ∀ before command later,
    story.session.commands.drop story.session.line.toNat = before ++ command :: later →
      Command.pauseCount before ≤ steps → command.Addressable story.session.catalog

/-- A story can be told to its end if every command of the script has its addresses. -/
theorem tellable_of_addressable
    (hall : ∀ command ∈ story.session.commands, command.Addressable story.session.catalog) :
    story.Tellable steps where
  earlier command hmem := (hall command (List.mem_of_mem_take hmem)).stageAddressable
  later before command _ hsplit _ :=
    hall command (List.mem_of_mem_drop (hsplit ▸ List.mem_append_right before
      (List.mem_cons_self ..)))

/-- A story that starts carries out the rest of what it needs by going on. -/
theorem tellable_iff_begun (hphase : story.phase ≠ .ended) :
    story.Tellable steps ↔
      (∀ command ∈ story.session.commands.take story.session.line.toNat,
        command.StageAddressable story.session.catalog) ∧
      story.begun.1.Readable (steps + 1) := by
  rw [Readable, begun_upcoming, story.begun_frame.catalog_eq]
  constructor
  · rintro ⟨hearlier, hlater⟩
    exact ⟨hearlier, fun _ before command later hsplit hpauses =>
      hlater before command later hsplit (Nat.le_of_lt_succ hpauses)⟩
  · rintro ⟨hearlier, hlater⟩
    exact ⟨hearlier, fun before command later hsplit hpauses =>
      hlater (begun_notEnded hphase) before command later hsplit (Nat.lt_succ_of_le hpauses)⟩

section

variable (honScript : story.OnScript) (hphase : story.phase ≠ .ended)
include honScript hphase

/-- A story that can be told for some time can be started, and can go on from there. -/
theorem tellable_iff : story.Tellable steps ↔ story.Tellable 0 ∧ story.start.1.Readable steps := by
  rw [tellable_iff_begun hphase, tellable_iff_begun hphase,
    readable_succ_iff honScript.begun (begun_notEnded hphase),
    readable_succ_iff honScript.begun (begun_notEnded hphase), and_iff_left (readable_zero _),
    and_assoc, start_eq_begun]

/-- A story starts as it does where all is there that it needs, or it is given up. -/
theorem tryStart_cases :
    story.Tellable 0 ∧ story.tryStart = (story.start.1, .ok story.start.2) ∨
      ¬story.Tellable 0 ∧
        ∃ given fault, story.tryStart = (given, .error (.unencodable fault)) := by
  rw [tellable_iff_begun hphase, readable_succ_iff honScript.begun (begun_notEnded hphase),
    and_iff_left (readable_zero _)]
  rcases tryBegin_cases story with ⟨hearlier, hstart⟩ | ⟨hearlier, hgiven⟩
  · rcases tryAdvance_cases honScript.begun (begun_notEnded hphase) with ⟨hnext, hadvance⟩ |
      ⟨hnext, given, fault, hadvance⟩
    · refine Or.inl ⟨⟨hearlier, hnext⟩, ?_⟩
      rw [hstart, hadvance, start_eq_begun]
      rfl
    · refine Or.inr ⟨fun hall => hnext hall.2, given, fault, ?_⟩
      rw [hstart, hadvance]
      rfl
  · exact Or.inr ⟨fun hall => hearlier hall.1, hgiven⟩

end

end Interpreter

end VisualNovel
