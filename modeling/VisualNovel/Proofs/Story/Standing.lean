import Mathlib.Data.Nat.Find
import Mathlib.Order.Bounds.Defs
import VisualNovel.Proofs.OrderedMap
import VisualNovel.Proofs.Story.Executed
import VisualNovel.Proofs.Story.NextPause

/-!
# What stands on the stage

The stage is what is left of a history of commands, and can be read off the history without going
through it: the background is the last one that was asked for, and a character is there if the last
command about it shows it.  The order of the portraits needs more of the history.  A character keeps
its place when it is shown again, so the place is that of its *entrance*, the first command that
shows it and after which it is not hidden any more.

All of this is proved along the history from its end (`applyAll_concat`): one more command is one
change of the stage, and there are four of them (`apply_cases`).  The entrances need a lemma of
their own, as a command may make one, keep it or end it (`staysFrom_concat`).
-/

namespace VisualNovel

/-! ## Commands about a character -/

namespace Command

/-- Does the command show the character? -/
def shows (character : String) (command : Command) : Bool :=
  command.kind = "char_show" ∧ command.param1 = character

/-- Does the command hide the character? -/
def hides (character : String) (command : Command) : Bool :=
  command.kind = "char_hide" ∧ command.param1 = character

/-- Does the command show or hide the character? -/
def concerns (character : String) (command : Command) : Bool :=
  command.shows character || command.hides character

/-- The last one of some commands with a property. -/
def lastWith? (which : Command → Bool) (commands : List Command) : Option Command :=
  (commands.filter which).getLast?

/-- Is the character shown at the place, and not hidden after it? -/
def StaysFrom (commands : List Command) (character : String) (place : Nat) : Prop :=
  (∃ command ∈ commands[place]?, command.shows character = true) ∧
    ∀ later > place, ∀ command ∈ commands[later]?, command.hides character = false

/-- Is this the place of the first command that shows the character after it was hidden for the last
time? -/
def Entrance (commands : List Command) (character : String) (place : Nat) : Prop :=
  IsLeast {place | StaysFrom commands character place} place

section

variable {which : Command → Bool} {command : Command} {commands : List Command}
  {character : String} {place : Nat}

theorem lastWith?_concat_of_pos (hwhich : which command = true) :
    lastWith? which (commands ++ [command]) = some command := by
  rw [lastWith?, List.filter_append, List.filter_cons_of_pos hwhich, List.filter_nil,
    List.getLast?_concat]

theorem lastWith?_concat_of_neg (hwhich : which command = false) :
    lastWith? which (commands ++ [command]) = lastWith? which commands := by
  rw [lastWith?, List.filter_append, List.filter_cons_of_neg (by simp [hwhich]), List.filter_nil,
    List.append_nil, lastWith?]

theorem not_hides_of_shows (hshows : command.shows character = true) :
    command.hides character = false := by
  simp_all [shows, hides]

/-- If the last command about a character shows it, it is the last one that does. -/
theorem lastWith?_shows {last : Command}
    (hlast : lastWith? (concerns character) commands = some last)
    (hkind : last.kind = "char_show") :
    lastWith? (shows character) commands = some last := by
  induction commands using List.reverseRecOn with
  | nil => cases hlast
  | append_singleton commands command ih =>
      cases hconcerns : command.concerns character with
      | true =>
          rw [lastWith?_concat_of_pos hconcerns] at hlast
          cases hlast
          have hshows : last.shows character = true := by
            simp_all [concerns, shows, hides]
          rw [lastWith?_concat_of_pos hshows]
      | false =>
          rw [lastWith?_concat_of_neg hconcerns] at hlast
          have hshows : command.shows character = false := by
            rw [concerns, Bool.or_eq_false_iff] at hconcerns
            exact hconcerns.1
          rw [lastWith?_concat_of_neg hshows, ih hlast]

theorem StaysFrom.lt_length (hstays : StaysFrom commands character place) :
    place < commands.length := by
  obtain ⟨⟨command, hcommand, -⟩, -⟩ := hstays
  exact (List.getElem?_eq_some_iff.mp hcommand).1

/-- With one more command, a character stays from where it did before unless it is hidden, and from
this command on if it is shown. -/
theorem staysFrom_concat :
    StaysFrom (commands ++ [command]) character place ↔
      (StaysFrom commands character place ∧ command.hides character = false) ∨
        (place = commands.length ∧ command.shows character = true) := by
  have hold : ∀ place < commands.length, (commands ++ [command])[place]? = commands[place]? :=
    fun place hlt => List.getElem?_append_left hlt
  have hnew : (commands ++ [command])[commands.length]? = some command :=
    List.getElem?_concat_length
  have hnone : ∀ place > commands.length, (commands ++ [command])[place]? = none := by
    intro place hgt
    refine List.getElem?_eq_none ?_
    rw [List.length_append, List.length_singleton]
    omega
  constructor
  · rintro ⟨⟨found, hfound, hshows⟩, hlater⟩
    rcases Nat.lt_trichotomy place commands.length with hlt | rfl | hgt
    · refine Or.inl ⟨⟨⟨found, hold place hlt ▸ hfound, hshows⟩, fun later hgt other hother => ?_⟩,
        hlater commands.length hlt command hnew⟩
      have hbound := (List.getElem?_eq_some_iff.mp hother).1
      exact hlater later hgt other (hold later hbound ▸ hother)
    · rw [hnew] at hfound
      cases hfound
      exact Or.inr ⟨rfl, hshows⟩
    · rw [hnone place hgt] at hfound
      cases hfound
  · rintro (⟨⟨⟨found, hfound, hshows⟩, hlater⟩, hhides⟩ | ⟨rfl, hshows⟩)
    · have hbound := (List.getElem?_eq_some_iff.mp hfound).1
      refine ⟨⟨found, hold place hbound ▸ hfound, hshows⟩, fun later hgt other hother => ?_⟩
      rcases Nat.lt_trichotomy later commands.length with hlt | rfl | hbeyond
      · exact hlater later hgt other (hold later hlt ▸ hother)
      · rw [hnew] at hother
        cases hother
        exact hhides
      · rw [hnone later hbeyond] at hother
        cases hother
    · refine ⟨⟨command, hnew, hshows⟩, fun later hgt other hother => ?_⟩
      rw [hnone later hgt] at hother
      cases hother

/-- An entrance is kept by every command that does not hide the character. -/
theorem Entrance.concat (hentrance : Entrance commands character place)
    (hhides : command.hides character = false) :
    Entrance (commands ++ [command]) character place := by
  refine ⟨staysFrom_concat.mpr (Or.inl ⟨hentrance.1, hhides⟩), fun other hother => ?_⟩
  rcases staysFrom_concat.mp hother with ⟨hstays, -⟩ | ⟨rfl, -⟩
  · exact hentrance.2 hstays
  · exact Nat.le_of_lt hentrance.1.lt_length

/-- Who is shown without having stayed from before enters now. -/
theorem entrance_concat_of_absent (habsent : ∀ place, ¬ StaysFrom commands character place)
    (hshows : command.shows character = true) :
    Entrance (commands ++ [command]) character commands.length := by
  refine ⟨staysFrom_concat.mpr (Or.inr ⟨rfl, hshows⟩), fun other hother => ?_⟩
  rcases staysFrom_concat.mp hother with ⟨hstays, -⟩ | ⟨rfl, -⟩
  · exact absurd hstays (habsent other)
  · exact Nat.le_refl _

/-- Who stays from somewhere has an entrance. -/
theorem StaysFrom.exists_entrance (hstays : StaysFrom commands character place) :
    ∃ first, Entrance commands character first := by
  classical
  have hexists : ∃ place, StaysFrom commands character place := ⟨place, hstays⟩
  exact ⟨Nat.find hexists, Nat.find_spec hexists, fun other hother => Nat.find_min' hexists hother⟩

end

end Command

/-! ## One command more -/

namespace Stage

open Command

variable {catalog : Catalog} {resolver : Resolver} {stage : Stage} {commands : List Command}
  {character : String}

/-- The portrait that a command shows. -/
def portraitOf (catalog : Catalog) (resolver : Resolver) (command : Command) : Portrait where
  expression := command.param2
  position := if command.param3 = "" then "center" else command.param3
  address := catalog.portraitAddress resolver command.param1 command.param2

/-- What one command can do to the stage. -/
theorem apply_cases (catalog : Catalog) (resolver : Resolver) (stage : Stage) (command : Command) :
    (command.kind = "bg_change" ∧
      (stage.apply catalog resolver command).1 =
        { stage with background := some command.param1 }) ∨
    (command.kind = "char_show" ∧
      (stage.apply catalog resolver command).1 =
        { stage with
          portraits := OrderedMap.put command.param1 (portraitOf catalog resolver command)
            stage.portraits }) ∨
    (command.kind = "char_hide" ∧
      (stage.apply catalog resolver command).1 =
        { stage with portraits := OrderedMap.remove command.param1 stage.portraits }) ∨
    (command.instruction.changesStage = false ∧
      (stage.apply catalog resolver command).1 = stage) := by
  cases hchanges : command.instruction.changesStage with
  | false => exact Or.inr (Or.inr (Or.inr ⟨rfl, by rw [apply_of_not_changesStage hchanges]⟩))
  | true =>
      rcases command.changesStage_iff.mp hchanges with hkind | hkind | hkind
      · exact Or.inl ⟨hkind, by simp [apply, Command.instruction, hkind, follow]⟩
      · refine Or.inr (Or.inl ⟨hkind, ?_⟩)
        simp [apply, Command.instruction, hkind, follow, portraitOf, defaultPosition]
      · refine Or.inr (Or.inr (Or.inl ⟨hkind, ?_⟩))
        cases hportrait : OrderedMap.at? command.param1 stage.portraits with
        | some portrait => simp [apply, Command.instruction, hkind, follow, hportrait]
        | none =>
            -- nobody leaves, and taking away what is not there changes nothing
            have habsent := OrderedMap.at?_eq_none_iff.mp hportrait
            simp [apply, Command.instruction, hkind, follow, hportrait,
              OrderedMap.remove_of_not_mem habsent]

theorem applyAll_concat (stage : Stage) (commands : List Command) (command : Command) :
    (stage.applyAll catalog resolver (commands ++ [command])).1 =
      ((stage.applyAll catalog resolver commands).1.apply catalog resolver command).1 := by
  rw [applyAll_append_fst]
  rfl

/-- Another background is the one that is asked for, and no other command changes it. -/
theorem background_apply (stage : Stage) (command : Command) :
    (stage.apply catalog resolver command).1.background =
      if command.kind = "bg_change" then some command.param1 else stage.background := by
  rcases apply_cases catalog resolver stage command with
    ⟨hkind, happly⟩ | ⟨hkind, happly⟩ | ⟨hkind, happly⟩ | ⟨hsilent, happly⟩ <;> rw [happly]
  · rw [if_pos hkind]
  · rw [if_neg (by simp [hkind])]
  · rw [if_neg (by simp [hkind])]
  · rw [if_neg fun hkind => ?_]
    rw [command.changesStage_iff.mpr (Or.inl hkind)] at hsilent
    cases hsilent

/-- A character has the portrait that a command shows, or none if it is hidden, and is not concerned
by other commands. -/
theorem portrait_apply (stage : Stage) (command : Command) (character : String) :
    OrderedMap.at? character (stage.apply catalog resolver command).1.portraits =
      if command.shows character then some (portraitOf catalog resolver command)
      else if command.hides character then none
      else OrderedMap.at? character stage.portraits := by
  rcases apply_cases catalog resolver stage command with
    ⟨hkind, happly⟩ | ⟨hkind, happly⟩ | ⟨hkind, happly⟩ | ⟨hsilent, happly⟩ <;> rw [happly]
  · simp [shows, hides, hkind]
  · by_cases hcharacter : command.param1 = character
    · simp [shows, hkind, hcharacter]
    · simp [shows, hides, hkind, hcharacter, OrderedMap.at?_put_of_ne (Ne.symm hcharacter)]
  · by_cases hcharacter : command.param1 = character
    · simp [shows, hides, hkind, hcharacter, OrderedMap.at?_remove]
    · simp [shows, hides, hkind, hcharacter, OrderedMap.at?_remove, Ne.symm hcharacter]
  · have hkinds := mt command.changesStage_iff.mpr (by simp [hsilent])
    simp_all [shows, hides]

/-! ## The history of a stage -/

theorem background_applyAll (catalog : Catalog) (resolver : Resolver) (commands : List Command) :
    (Stage.empty.applyAll catalog resolver commands).1.background =
      (lastWith? (fun command => command.kind = "bg_change") commands).map Command.param1 := by
  induction commands using List.reverseRecOn with
  | nil => rfl
  | append_singleton commands command ih =>
      rw [applyAll_concat, background_apply, ih]
      split_ifs with hkind
      · rw [lastWith?_concat_of_pos (decide_eq_true hkind)]
        rfl
      · rw [lastWith?_concat_of_neg (decide_eq_false hkind)]

/-- The last command about a character decides on its portrait. -/
theorem portrait_applyAll (catalog : Catalog) (resolver : Resolver) (commands : List Command)
    (character : String) :
    OrderedMap.at? character (Stage.empty.applyAll catalog resolver commands).1.portraits =
      (lastWith? (concerns character) commands).bind fun last =>
        if last.kind = "char_show" then some (portraitOf catalog resolver last) else none := by
  induction commands using List.reverseRecOn with
  | nil => rfl
  | append_singleton commands command ih =>
      rw [applyAll_concat, portrait_apply, ih]
      cases hshows : command.shows character with
      | true =>
          have hconcerns : command.concerns character = true := by simp [concerns, hshows]
          have hkind : command.kind = "char_show" := by simp_all [shows]
          rw [lastWith?_concat_of_pos hconcerns]
          simp [hkind]
      | false =>
          cases hhides : command.hides character with
          | true =>
              have hconcerns : command.concerns character = true := by simp [concerns, hhides]
              have hkind : command.kind = "char_hide" := by simp_all [hides]
              rw [lastWith?_concat_of_pos hconcerns]
              simp [hkind]
          | false =>
              have hconcerns : command.concerns character = false := by
                simp [concerns, hshows, hhides]
              rw [lastWith?_concat_of_neg hconcerns]
              simp

/-! ## The order of the portraits -/

theorem keys_apply (catalog : Catalog) (resolver : Resolver) (stage : Stage) (command : Command) :
    (stage.apply catalog resolver command).1.portraits.keys.Sublist stage.portraits.keys ∨
      (command.shows command.param1 = true ∧ command.param1 ∉ stage.portraits.keys ∧
        (stage.apply catalog resolver command).1.portraits.keys =
          stage.portraits.keys ++ [command.param1]) := by
  rcases apply_cases catalog resolver stage command with
    ⟨hkind, happly⟩ | ⟨hkind, happly⟩ | ⟨hkind, happly⟩ | ⟨hsilent, happly⟩ <;> rw [happly]
  · exact Or.inl (List.Sublist.refl _)
  · by_cases hpresent : command.param1 ∈ stage.portraits.keys
    · exact Or.inl (by rw [OrderedMap.keys_put_of_mem hpresent])
    · exact Or.inr ⟨by simp [shows, hkind], hpresent, OrderedMap.keys_put_of_not_mem hpresent _⟩
  · refine Or.inl ?_
    rw [OrderedMap.keys_remove]
    exact List.filter_sublist
  · exact Or.inl (List.Sublist.refl _)

/-- Are the characters those that stay after the commands, each once, in the order of their
entrances? -/
structure InOrder (commands : List Command) (characters : List String) : Prop where
  mem_iff : ∀ character, character ∈ characters ↔ ∃ place, StaysFrom commands character place
  nodup : characters.Nodup
  ordered : characters.Pairwise fun first second => ∃ place later,
    Entrance commands first place ∧ Entrance commands second later ∧ place < later

theorem inOrder_apply (hstage : InOrder commands stage.portraits.keys) (command : Command) :
    InOrder (commands ++ [command]) (stage.apply catalog resolver command).1.portraits.keys := by
  have hportrait := @portrait_apply catalog resolver stage command
  have hkept : ∀ character ∈ (stage.apply catalog resolver command).1.portraits.keys,
      command.hides character = false := by
    intro character hmem
    rw [OrderedMap.mem_keys_iff, hportrait] at hmem
    cases hshows : command.shows character with
    | true => exact not_hides_of_shows hshows
    | false => simp_all
  -- an entrance of somebody who is not hidden now is one after the command, too
  have hordered : stage.portraits.keys.Pairwise fun first second =>
      command.hides first = false → command.hides second = false → ∃ place later,
        Entrance (commands ++ [command]) first place ∧
          Entrance (commands ++ [command]) second later ∧ place < later := by
    refine hstage.ordered.imp ?_
    rintro first second ⟨place, later, hfirst, hsecond, hlt⟩ hhides hhides'
    exact ⟨place, later, hfirst.concat hhides, hsecond.concat hhides', hlt⟩
  constructor
  · intro character
    rw [OrderedMap.mem_keys_iff, hportrait]
    simp only [staysFrom_concat, exists_or, exists_and_right, ← hstage.mem_iff,
      OrderedMap.mem_keys_iff]
    cases hshows : command.shows character <;> cases hhides : command.hides character <;> simp
  · rcases keys_apply catalog resolver stage command with hsub | ⟨-, habsent, hkeys⟩
    · exact hstage.nodup.sublist hsub
    · rw [hkeys, ← OrderedMap.keys_put_of_not_mem habsent (portraitOf catalog resolver command)]
      exact OrderedMap.nodup_keys_put hstage.nodup _ _
  · rcases keys_apply catalog resolver stage command with hsub | ⟨hshows, habsent, hkeys⟩
    · refine (hordered.sublist hsub).imp_of_mem ?_
      intro first second hfirst hsecond himp
      exact himp (hkept first hfirst) (hkept second hsecond)
    · rw [hkeys] at hkept ⊢
      refine List.pairwise_append.mpr ⟨?_, List.pairwise_singleton _ _, ?_⟩
      · refine hordered.imp_of_mem fun hfirst hsecond himp => ?_
        exact himp (hkept _ (List.mem_append_left _ hfirst))
          (hkept _ (List.mem_append_left _ hsecond))
      · -- whoever was there has entered before
        intro first hfirst second hsecond
        obtain rfl := List.mem_singleton.mp hsecond
        obtain ⟨place, hplace⟩ := (hstage.mem_iff first).mp hfirst
        obtain ⟨place, hentrance⟩ := hplace.exists_entrance
        have hnew : ∀ place, ¬ StaysFrom commands command.param1 place := fun place hstays =>
          habsent ((hstage.mem_iff _).mpr ⟨place, hstays⟩)
        exact ⟨place, commands.length,
          hentrance.concat (hkept first (List.mem_append_left _ hfirst)),
          entrance_concat_of_absent hnew hshows, hentrance.1.lt_length⟩

theorem inOrder_applyAll (catalog : Catalog) (resolver : Resolver) (commands : List Command) :
    InOrder commands (Stage.empty.applyAll catalog resolver commands).1.portraits.keys := by
  induction commands using List.reverseRecOn with
  | nil =>
      refine ⟨fun character => ?_, List.nodup_nil, List.Pairwise.nil⟩
      simp [Stage.empty, StaysFrom]
  | append_singleton commands command ih =>
      rw [applyAll_concat]
      exact inOrder_apply ih command

/-! ## The closed description -/

/-- Is this what some commands leave of an empty stage?  The description looks only at the commands,
and leaves nothing of the stage open. -/
structure Standing (catalog : Catalog) (resolver : Resolver) (commands : List Command)
    (stage : Stage) : Prop where
  background_eq : stage.background =
    (lastWith? (fun command => command.kind = "bg_change") commands).map Command.param1
  /-- A character is there if the last command that shows or hides it shows it. -/
  present_iff : ∀ character, character ∈ stage.portraits.keys ↔
    ∃ last ∈ lastWith? (concerns character) commands, last.kind = "char_show"
  nodup : stage.portraits.keys.Nodup
  entered : ∀ character ∈ stage.portraits.keys, ∃ place, Entrance commands character place
  ordered : stage.portraits.keys.Pairwise fun first second => ∃ place later,
    Entrance commands first place ∧ Entrance commands second later ∧ place < later
  portrait_eq : ∀ character portrait, (character, portrait) ∈ stage.portraits →
    ∃ last ∈ lastWith? (shows character) commands,
      portrait.expression = last.param2 ∧
        portrait.position = (if last.param3 = "" then "center" else last.param3) ∧
        portrait.address = catalog.portraitAddress resolver character last.param2

theorem standing_applyAll (catalog : Catalog) (resolver : Resolver) (commands : List Command) :
    Standing catalog resolver commands (Stage.empty.applyAll catalog resolver commands).1 := by
  have hportrait := portrait_applyAll catalog resolver commands
  obtain ⟨hmem, hnodup, hordered⟩ := inOrder_applyAll catalog resolver commands
  refine ⟨background_applyAll catalog resolver commands, ?_, hnodup, ?_, hordered, ?_⟩
  · intro character
    rw [OrderedMap.mem_keys_iff, hportrait]
    cases lastWith? (concerns character) commands <;> simp
  · intro character hcharacter
    obtain ⟨place, hstays⟩ := (hmem character).mp hcharacter
    exact hstays.exists_entrance
  · intro character portrait hentry
    have hfound := OrderedMap.at?_of_mem hnodup hentry
    rw [hportrait, Option.bind_eq_some_iff] at hfound
    obtain ⟨last, hlast, hshown⟩ := hfound
    split_ifs at hshown with hkind
    cases hshown
    have hshows := lastWith?_shows hlast hkind
    have hparam : last.param1 = character := by
      have hmem := List.mem_of_getLast? hshows
      simp_all [shows]
    exact ⟨last, hshows, rfl, rfl, hparam ▸ rfl⟩

/-- Who is shown again keeps the place; who left and came back stands behind the others. -/
example :
    let commands : List Command :=
      [⟨1, "char_show", "mika", "neutral", ""⟩, ⟨2, "char_show", "ren", "neutral", "left"⟩,
        ⟨3, "char_show", "aoi", "neutral", ""⟩, ⟨4, "char_show", "ren", "smile", ""⟩,
        ⟨5, "char_hide", "mika", "", ""⟩, ⟨6, "char_show", "mika", "smile", ""⟩]
    (Stage.empty.applyAll {} ⟨"", ""⟩ commands).1.portraits.keys = ["ren", "aoi", "mika"] := by
  decide

end Stage

namespace Interpreter

open Stage (Standing)

variable {story origin : Interpreter} {executed : List Command}

/-- However often a story goes on, it has carried out the commands that came up. -/
theorem Executed.goOn {line : Nat} (hstory : Executed origin executed story)
    (hline : origin.session.line = line) (number : Nat) :
    ∃ all, Executed origin all (story.calls (List.replicate number .advance)).1 := by
  induction number generalizing story executed with
  | zero => exact ⟨executed, hstory⟩
  | succ number ih =>
      rw [List.replicate_succ, calls_cons, call]
      by_cases hphase : story.phase = .ended
      · rw [advance_of_ended hphase]
        exact ih hstory
      · obtain ⟨more, hmore, -⟩ := hstory.advance hline hphase
        exact ih hmore

/-- **The stage can be read off the script.**  It stands as the commands say that were carried out
on an empty stage: those before the target when it is rebuilt, and those from the first line on to
the one where the story has got when it is played. -/
theorem standing_of_rebuilt_or_played (resolver : Resolver) (session : Session) :
    (∀ phase target,
      let rebuilt := (Interpreter.mk resolver session phase).rebuildStage target
      Standing session.catalog resolver (session.commands.take target.toNat)
        rebuilt.1.session.stage) ∧
    ∀ first number : Nat,
      let begun := idle resolver { session with line := first, stage := Stage.empty }
      let played := (begun.calls (List.replicate number .advance)).1
      Standing session.catalog resolver
        (Command.segment session.commands first played.session.line.toNat)
        played.session.stage := by
  refine ⟨fun phase target => Stage.standing_applyAll _ _ _, fun first number => ?_⟩
  intro begun played
  have hline : begun.session.line = (first : Nat) := rfl
  have hnothing : Executed begun [] begun := executed_nil rfl
  obtain ⟨executed, hexecuted⟩ := hnothing.goOn hline number
  have hsegment : Command.segment session.commands first played.session.line.toNat = executed := by
    have hlength : played.session.line.toNat - first = executed.length := by
      rw [hexecuted.line_eq, hline]
      omega
    have hinitial : executed <+: session.commands.drop first := hexecuted.initial
    rw [Command.segment, List.drop_take, hlength]
    exact (List.prefix_iff_eq_take.mp hinitial).symm
  have hstage : played.session.stage =
      (Stage.empty.applyAll session.catalog resolver executed).1 := by
    rw [show played = begun.after executed played.phase from hexecuted.story_eq, after,
      Session.carryOut_session]
    rfl
  rw [hsegment, hstage]
  exact Stage.standing_applyAll _ _ _

end Interpreter

end VisualNovel
