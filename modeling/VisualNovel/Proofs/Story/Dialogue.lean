import VisualNovel.Proofs.Cast.Tells
import VisualNovel.Proofs.Sorting
import VisualNovel.Proofs.Story.Consistent
import VisualNovel.Proofs.Story.Standing

/-!
# Who speaks, and who is silent

A dialogue names its speaker and dims everybody else on the stage.  Both can be said without the
session that the story was in: the stage is the one that the commands before the text command leave
on an empty one, whether the story was played up to there or taken up in between, and the name is
that of the first record of the speaker (`Heard`).

A call tells exactly the dialogues of the text commands that it passes, one for each of them and in
their order.  That is proved along the commands that are carried out: before the command at each
place the session is as it should be there (`AsBefore`), and one command leads from one place to
the next (`AsBefore.past`).
-/

namespace VisualNovel

/-- Is the event something that is said? -/
def Event.isDialogue : Event → Bool
  | .dialogue _ _ _ _ => true
  | _ => false

/-- The places from one line to another at which something is said. -/
def Command.spoken (commands : List Command) (first last : Nat) : List Nat :=
  (List.range' first (last - first)).filter fun place =>
    commands[place]?.any fun command => command.kind = "text"

/-- Is this how a text command is presented, with the given characters on the stage and a cast of
the given records? -/
structure Presented (player : String) (records : List CharacterRecord) (present : List String)
    (command : Command) (speaker text : String) (inactive : List String) : Prop where
  of_narrator : command.param1 = "narrator" → speaker = ""
  of_known : ∀ record, command.param1 ≠ "narrator" →
    records.find? (fun record => record.character = command.param1) = some record →
      speaker = Placeholder.fill player record.name
  of_unknown : command.param1 ≠ "narrator" →
    (∀ record ∈ records, record.character ≠ command.param1) →
      speaker = Placeholder.fill player command.param1
  text_eq : text = Placeholder.fill player command.param2
  inactive_eq : inactive = present.filter fun character => character ≠ command.param1
  nodup : inactive.Nodup
  of_absent : command.param1 ∉ present → inactive = present

/-- Is the event the dialogue of the text command at a place of the script, on the stage that is
rebuilt before it? -/
def Heard (story : Interpreter) (records : List CharacterRecord) (place : Nat) (event : Event) :
    Prop :=
  ∃ command ∈ story.session.commands[place]?, command.kind = "text" ∧
    ∃ speaker text inactive, event = .dialogue command.param1 speaker text inactive ∧
      Presented story.session.player records
        (story.rebuildStage place).1.session.stage.portraits.keys command speaker text inactive

/-! ## Places where something is said -/

namespace Command

variable {commands : List Command} {command : Command} {first last : Nat}

theorem spoken_of_le (hle : last ≤ first) : spoken commands first last = [] := by
  rw [spoken, Nat.sub_eq_zero_of_le hle, List.range'_zero, List.filter_nil]

/-- The first place is one of them if its command is a text command. -/
theorem spoken_of_lt (hlt : first < last) (hcommand : commands[first]? = some command) :
    spoken commands first last =
      (if command.kind = "text" then [first] else []) ++ spoken commands (first + 1) last := by
  have hcount : last - first = (last - (first + 1)) + 1 := by omega
  rw [spoken, hcount, List.range'_succ, List.filter_cons, hcommand, Option.any_some, spoken]
  split_ifs <;> simp_all

end Command

/-! ## Single commands -/

/-- The cast of a catalog is that of the records of its collection. -/
theorem Catalog.characters_of_ofCollections {scenario characters : Json} {catalog : Catalog}
    {records : List CharacterRecord} (hcatalog : ofCollections scenario characters = .ok catalog)
    (hrecords : CharacterRecord.read.collection "CharacterRecord" characters = .ok records) :
    catalog.characters = Cast.ofRecords records := by
  have hcast : Cast.ofCollection characters = .ok (Cast.ofRecords records) := by
    rw [Cast.ofCollection, hrecords]
    rfl
  rw [ofCollections, hcast] at hcatalog
  cases hscript : Command.script scenario with
  | error fault =>
      rw [hscript] at hcatalog
      cases hcatalog
  | ok commands =>
      rw [hscript] at hcatalog
      cases hcatalog
      rfl

namespace Session

variable {resolver : Resolver}

theorem dialogues_execute (session : Session) (line : Int) (command : Command) :
    (session.execute resolver line command).2.events.filter Event.isDialogue =
      if command.kind = "text" then [session.dialogue command.param1 command.param2] else [] := by
  rw [events_execute, showing]
  split_ifs <;> simp_all [Event.isDialogue, dialogue]

/-- The name that is shown comes from the first record of the speaker. -/
theorem speakerName_ofRecords {session : Session} {records : List CharacterRecord}
    (hcast : session.catalog.characters = Cast.ofRecords records) (speaker : String) :
    session.speakerName speaker =
      if speaker = "narrator" then ""
      else Placeholder.fill session.player
        (((records.find? fun record => record.character = speaker).map
          CharacterRecord.name).getD speaker) := by
  have hname : (OrderedMap.at? speaker (Cast.ofRecords records)).map Character.name = _ :=
    Cast.name?_ofRecords records speaker
  simp only [speakerName, hcast, hname, narrator]

end Session

namespace Interpreter

/-- Is the session as it is before the command at a place of the script? -/
structure AsBefore (story : Interpreter) (place : Nat) (session : Session) : Prop where
  player_eq : session.player = story.session.player
  catalog_eq : session.catalog = story.session.catalog
  stage_eq : session.stage = story.stageBefore place

variable {story : Interpreter} {session : Session} {records : List CharacterRecord}
  {place : Nat} {command : Command}

/-- Carrying out the command at a place leads to the next place. -/
theorem AsBefore.past (hsession : story.AsBefore place session)
    (hcommand : story.session.commands[place]? = some command) :
    story.AsBefore (place + 1) (session.past story.resolver command) := by
  rw [Session.past_eq]
  refine ⟨hsession.player_eq, hsession.catalog_eq, ?_⟩
  rw [stageBefore, List.take_add_one, hcommand, hsession.catalog_eq, hsession.stage_eq]
  exact (Stage.applyAll_concat _ _ command).symm

/-- A text command is presented as it should be at its place. -/
theorem AsBefore.heard (hsession : story.AsBefore place session)
    (hcast : story.session.catalog.characters = Cast.ofRecords records)
    (hcommand : story.session.commands[place]? = some command) (htext : command.kind = "text") :
    Heard story records place (session.dialogue command.param1 command.param2) := by
  refine ⟨command, hcommand, htext, _, _, _, rfl, ?_⟩
  have hname := Session.speakerName_ofRecords (hsession.catalog_eq ▸ hcast) command.param1
  have hstage : (story.rebuildStage place).1.session.stage = session.stage :=
    hsession.stage_eq.symm
  have hnodup : session.stage.portraits.keys.Nodup := by
    rw [hsession.stage_eq]
    exact (Stage.inOrder_applyAll _ _ _).nodup
  rw [hname, hstage, hsession.player_eq]
  refine ⟨?_, ?_, ?_, rfl, rfl, hnodup.filter _, ?_⟩
  · intro hnarrator
    rw [if_pos hnarrator]
  · intro record hother hrecord
    rw [if_neg hother, hrecord, Option.map_some, Option.getD_some]
  · intro hother hunknown
    have hnone : records.find? (fun record => record.character = command.param1) = none :=
      List.find?_eq_none.mpr fun record hrecord => by simpa using hunknown record hrecord
    rw [if_neg hother, hnone, Option.map_none, Option.getD_none]
  · intro habsent
    refine List.filter_eq_self.mpr fun character hpresent => decide_eq_true ?_
    rintro rfl
    exact habsent hpresent

/-! ## Commands that are carried out -/

/-- Carrying out what comes up from a place on tells the dialogues of the places that are passed. -/
theorem AsBefore.dialogues_carryOut
    (hcast : story.session.catalog.characters = Cast.ofRecords records)
    (hsession : story.AsBefore place session) {segment : List Command}
    (hsegment : segment <+: story.session.commands.drop place) :
    List.Forall₂ (Heard story records)
      (Command.spoken story.session.commands place (place + segment.length))
      ((session.carryOut story.resolver segment).2.events.filter Event.isDialogue) := by
  induction segment generalizing place session with
  | nil =>
      rw [List.length_nil, Nat.add_zero, Command.spoken_of_le (Nat.le_refl place)]
      exact List.Forall₂.nil
  | cons command rest ih =>
      obtain ⟨beyond, hbeyond⟩ := hsegment
      have hcommand : story.session.commands[place]? = some command := by
        rw [← Nat.add_zero place, ← List.getElem?_drop, ← hbeyond]
        rfl
      have hrest : rest <+: story.session.commands.drop (place + 1) :=
        ⟨beyond, by rw [← List.drop_drop, ← hbeyond]; rfl⟩
      have hlast : place + (command :: rest).length = place + 1 + rest.length := by
        rw [List.length_cons]
        omega
      rw [Session.carryOut_cons, Report.events_append, List.filter_append,
        Session.dialogues_execute, hlast, Command.spoken_of_lt (by omega) hcommand]
      have hlater := ih (hsession.past hcommand) hrest
      split_ifs with htext
      · exact List.Forall₂.cons (hsession.heard hcast hcommand htext) hlater
      · exact hlater

/-! ## Calls -/

variable {begun : Interpreter} {line : Nat}

theorem dialogues_rebuildStage (story : Interpreter) (target : Int) :
    (story.rebuildStage target).2.events.filter Event.isDialogue = [] := by
  refine List.filter_eq_nil_iff.mpr fun event hevent => ?_
  have hofStage := Stage.isOfStage_applyAll _ _ event hevent
  cases event <;> simp_all [Event.isOfStage, Event.isDialogue]

/-- Going on tells the dialogues of the lines that it passes. -/
theorem dialogues_advance
    (hcast : begun.session.catalog.characters = Cast.ofRecords records)
    (hframe : SameFrame story begun) (hline : story.session.line = line)
    (hstage : story.session.stage = begun.stageBefore line) :
    List.Forall₂ (Heard begun records)
      (Command.spoken begun.session.commands line story.advance.1.session.line.toNat)
      (story.advance.2.events.filter Event.isDialogue) := by
  by_cases hphase : story.phase = .ended
  · rw [advance_of_ended hphase, hline, Int.toNat_natCast, Command.spoken_of_le (Nat.le_refl line)]
    exact List.Forall₂.nil
  · have hsession : begun.AsBefore line story.session :=
      ⟨hframe.player_eq, hframe.catalog_eq, hstage⟩
    have hcommands : story.session.commands = begun.session.commands :=
      congrArg Catalog.commands hframe.catalog_eq
    rw [advance_of_line hphase hline, follow_eq_carryOut, hcommands, hframe.resolver_eq]
    have hopening := Command.opening_initial (begun.session.commands.drop line)
    have hheard := hsession.dialogues_carryOut hcast hopening
    have hmoved : (story.session.line + ((Command.opening (begun.session.commands.drop line)).length
        : Int)).toNat = line + (Command.opening (begun.session.commands.drop line)).length := by
      rw [hline]
      exact Int.toNat_natCast _
    rw [Session.carryOut_line, hmoved, Report.events_append, List.filter_append]
    -- the end of the story is not said by anybody
    split_ifs <;> simpa [Event.isDialogue] using hheard

theorem dialogues_start
    (hcast : begun.session.catalog.characters = Cast.ofRecords records)
    (hframe : SameFrame story begun) (hline : story.session.line = line)
    (hempty : min line begun.session.commands.length = 0 → story.session.stage = Stage.empty) :
    List.Forall₂ (Heard begun records)
      (Command.spoken begun.session.commands (min line begun.session.commands.length)
        story.start.1.session.line.toNat)
      (story.start.2.events.filter Event.isDialogue) := by
  have hcommands : story.session.commands = begun.session.commands :=
    congrArg Catalog.commands hframe.catalog_eq
  have hplaced : story.placed.session.line =
      ((min line begun.session.commands.length : Nat) : Int) := by
    show min story.session.line (story.session.commands.length : Int) = _
    rw [hline, hcommands]
    omega
  by_cases hpos : 0 < story.placed.session.line
  · have hstage : story.rebuilt.1.session.stage =
        begun.stageBefore (min line begun.session.commands.length) := by
      rw [rebuilt, hplaced, stageBefore, ← hframe.catalog_eq, ← hframe.resolver_eq, ← hcommands]
      rfl
    have hsilent : story.rebuilt.2.events.filter Event.isDialogue = [] :=
      dialogues_rebuildStage _ _
    have hrebuilt : SameFrame story.rebuilt.1 story := ⟨rfl, rfl, rfl, rfl⟩
    rw [start_of_pos hpos, Report.events_append, List.filter_append, hsilent, List.nil_append]
    exact dialogues_advance hcast (hrebuilt.trans hframe) hplaced hstage
  · have hzero : min line begun.session.commands.length = 0 := by omega
    have hstage : story.placed.session.stage = begun.stageBefore 0 := hempty hzero
    have hkept : SameFrame story.placed story := ⟨rfl, rfl, rfl, rfl⟩
    rw [hzero] at hplaced ⊢
    rw [start_of_not_pos hpos]
    exact dialogues_advance hcast (hkept.trans hframe) hplaced hstage

/-- A call tells the dialogues of the lines that it passes, where playing and rebuilding agree. -/
theorem Consistent.dialogues_call (hstory : story.Consistent)
    (hcast : begun.session.catalog.characters = Cast.ofRecords records)
    (hframe : SameFrame story begun) {next : Call} (hhere : ∀ target, next ≠ .rebuildAt target) :
    List.Forall₂ (Heard begun records)
      (Command.spoken begun.session.commands
        (min story.session.line.toNat begun.session.commands.length)
        (story.call next).1.session.line.toNat)
      ((story.call next).2.events.filter Event.isDialogue) := by
  have hcommands : story.session.commands = begun.session.commands :=
    congrArg Catalog.commands hframe.catalog_eq
  have hstage : story.session.stage = begun.stageBefore story.session.line.toNat := by
    rw [hstory.stage_eq, stageBefore, stageBefore, hcommands, hframe.catalog_eq,
      hframe.resolver_eq]
  have hle : min story.session.line.toNat begun.session.commands.length =
      story.session.line.toNat := by
    have hline := hstory.line_le
    rw [hcommands] at hline
    omega
  cases next with
  | start =>
      refine dialogues_start hcast hframe hstory.line_eq_toNat fun hzero => ?_
      rw [hstage, ← hle, hzero]
      rfl
  | advance =>
      rw [hle]
      exact dialogues_advance hcast hframe hstory.line_eq_toNat hstage
  | rebuildAt target => exact absurd rfl (hhere target)
  | rebuildHere =>
      rw [hle, Interpreter.call, dialogues_rebuildStage]
      have hkept : (story.rebuildStage story.session.line).1.session.line =
          story.session.line := rfl
      rw [hkept, Command.spoken_of_le (Nat.le_refl _)]
      exact List.Forall₂.nil

/-- **Every dialogue names who speaks and dims the others.**  Let the script and the cast be read
from any collections that are accepted, and let a new story be played by any calls, the first of
which is a start if the story begins behind the first line.  Then each call tells the dialogues of
the text commands that it passes, one for each of them and in their order.  The dialogue of a text
command has its first parameter for the character and its second one, with the player's name in
place, for the text.  The narrator has no name; everybody else has the one in the first record of
the character, or the id if there is no record, with the player's name in place.  Inactive are the
others among those who are on the stage that is rebuilt before the command, each of them once and as
they are drawn, and so all of them if the speaker is not on the stage. -/
theorem dialogues_of_calls {scenario characters : Json} {catalog : Catalog}
    {records : List CharacterRecord}
    (hcatalog : Catalog.ofCollections scenario characters = .ok catalog)
    (hrecords : CharacterRecord.read.collection "CharacterRecord" characters = .ok records)
    (resolver : Resolver) (tenant player : String) (first : Nat) {history : List Call} {next : Call}
    (hhere : ∀ target, Call.rebuildAt target ∉ history ++ [next])
    (hstart : 0 < first → (history ++ [next]).head? = some .start) :
    let begun := idle resolver { tenant, player, line := first, catalog }
    let story := (begun.calls history).1
    let told := story.call next
    List.Forall₂ (Heard begun records)
      (Command.spoken catalog.commands (min story.session.line.toNat catalog.commands.length)
        told.1.session.line.toNat)
      (told.2.events.filter Event.isDialogue) := by
  intro begun story told
  have hcast : begun.session.catalog.characters = Cast.ofRecords records :=
    Catalog.characters_of_ofCollections hcatalog hrecords
  have hframe : SameFrame story begun := calls_frame begun history
  by_cases hbegins : history = [] ∧ 0 < first
  · -- nothing was played yet, so the start is the next call
    obtain ⟨rfl, hpos⟩ := hbegins
    obtain rfl : next = .start := Option.some.inj (hstart hpos)
    have hline : story.session.line = (first : Nat) := rfl
    exact dialogues_start hcast hframe hline fun _ => rfl
  · have hearlier : 0 < first → history.head? = some .start := by
      intro hpos
      cases history with
      | nil => exact absurd ⟨rfl, hpos⟩ hbegins
      | cons call rest => exact hstart hpos
    have hplayed : ∀ target, Call.rebuildAt target ∉ history := fun target hmem =>
      hhere target (List.mem_append_left _ hmem)
    have hnext : ∀ target, next ≠ .rebuildAt target := by
      rintro target rfl
      exact hhere target (by simp)
    have hstory : story.Consistent :=
      (consistent_calls resolver catalog tenant player first hplayed hearlier).1
    exact hstory.dialogues_call hcast hframe hnext

/-- A story that is taken up behind its second line: Mika is there already, whose second record has
another name; the narrator has a record, too, and Ren has none. -/
theorem dialogues_of_calls_after_second_line :
    let scenario : Json := .arr
      [.obj [("order", .int 2), ("command", .str "char_show"), ("param1", .str "narrator")],
        .obj [("order", .int 1), ("command", .str "char_show"), ("param1", .str "mika")],
        .obj [("order", .int 3), ("command", .str "text"), ("param1", .str "narrator"),
          ("param2", .str "Night, %PLAYER_NAME%.")],
        .obj [("order", .int 4), ("command", .str "text"), ("param1", .str "mika")],
        .obj [("order", .int 5), ("command", .str "text"), ("param1", .str "ren")]]
    let characters : Json := .arr
      [.obj [("characterId", .str "mika"), ("characterName", .str "Mika of %PLAYER_NAME%")],
        .obj [("characterId", .str "narrator"), ("characterName", .str "Nobody")],
        .obj [("characterId", .str "mika"), ("characterName", .str "Mika")]]
    ∃ catalog records,
      Catalog.ofCollections scenario characters = .ok catalog ∧
      CharacterRecord.read.collection "CharacterRecord" characters = .ok records ∧
      let begun := idle ⟨"", ""⟩ { tenant := "demo", player := "Aria", line := (2 : Nat), catalog }
      let told := fun history next =>
        ((begun.calls history).1.call next).2.events.filter Event.isDialogue
      told [] .start = [.dialogue "narrator" "" "Night, Aria." ["mika"]] ∧
        told [.start] .advance = [.dialogue "mika" "Mika of Aria" "" ["narrator"]] ∧
        told [.start, .advance] .advance = [.dialogue "ren" "ren" "" ["mika", "narrator"]] ∧
        List.Forall₂ (Heard begun records) [4] (told [.start, .advance] .advance) := by
  intro scenario characters
  have hrecords : CharacterRecord.read.collection "CharacterRecord" characters = .ok
      [⟨"mika", "Mika of %PLAYER_NAME%", "", ""⟩, ⟨"narrator", "Nobody", "", ""⟩,
        ⟨"mika", "Mika", "", ""⟩] := rfl
  have hsorted : Command.sorted [⟨2, "char_show", "narrator", "", ""⟩,
        ⟨1, "char_show", "mika", "", ""⟩, ⟨3, "text", "narrator", "Night, %PLAYER_NAME%.", ""⟩,
        ⟨4, "text", "mika", "", ""⟩, ⟨5, "text", "ren", "", ""⟩] =
      [⟨1, "char_show", "mika", "", ""⟩, ⟨2, "char_show", "narrator", "", ""⟩,
        ⟨3, "text", "narrator", "Night, %PLAYER_NAME%.", ""⟩, ⟨4, "text", "mika", "", ""⟩,
        ⟨5, "text", "ren", "", ""⟩] :=
    (sorted_by_eq_of_perm Command.order (List.Perm.swap ..) (by decide)).trans
      (List.mergeSort_of_pairwise (by decide))
  have hcatalog : Catalog.ofCollections scenario characters = .ok ⟨_, _⟩ :=
    congrArg (fun commands => Except.ok (Catalog.mk commands _)) hsorted
  refine ⟨_, _, hcatalog, hrecords, by decide +kernel, by decide +kernel, by decide +kernel, ?_⟩
  have hhere : ∀ target, Call.rebuildAt target ∉ [.start, .advance] ++ [Call.advance] := by simp
  exact dialogues_of_calls hcatalog hrecords ⟨"", ""⟩ "demo" "Aria" 2 hhere fun _ => rfl

end Interpreter

end VisualNovel
