import VisualNovel.Proofs.Script.Placeholder
import VisualNovel.Proofs.Story.Calls

/-!
# The name of the player

Where a script leaves a place for it, the name of the player is put into what is said and into the
name of who says it.  Nothing else depends on it: a story and the same story with another name for
its player (`Interpreter.named`) go the same way, call by call.

How much of their events agrees is a question of how closely one looks.  A *view* keeps of each
event what is to be compared, and a command is *nameless* to a view that shows the same of what it
lets somebody say under all names (`Command.Nameless`).  Two views matter.

* `Event.unspoken` keeps all but what is said and the name of who says it.  Every command is
  nameless to it.
* The view that keeps everything.  A command is nameless to it that leaves no place for the name
  (`Command.nameless_of_not_namesPlayer`).

By `Interpreter.calls_named` the calls tell the same to every view to which the commands that they
carry out are nameless.
-/

namespace VisualNovel

/-! ## What is compared -/

/-- The event without what is said and the name of who says it. -/
def Event.unspoken : Event → Event
  | .dialogue character _ _ inactive => .dialogue character "" "" inactive
  | event => event

/-- The report with its events as a view shows them. -/
def Report.seenBy (view : Event → Event) (report : Report) : Report :=
  { report with events := report.events.map view }

namespace Report

@[simp] theorem seenBy_append (view : Event → Event) (first second : Report) :
    (first ++ second).seenBy view = first.seenBy view ++ second.seenBy view := by
  show seenBy view (append first second) = append (seenBy view first) (seenBy view second)
  simp [append, seenBy]

@[simp] theorem seenBy_id : seenBy id = id := by
  funext report
  simp [seenBy]

end Report

/-- What the name of a speaker is made of: the name of a character of the cast, or else the id. -/
def Catalog.speakerTemplate (catalog : Catalog) (speaker : String) : String :=
  ((OrderedMap.at? speaker catalog.characters).map Character.name).getD speaker

/-- Is something said that leaves a place for the name of the player, in the text or in the name of
the speaker? -/
def Command.NamesPlayer (catalog : Catalog) (command : Command) : Prop :=
  command.kind = "text" ∧
    (Placeholder.mark <:+: command.param2.toList ∨
      command.param1 ≠ narrator ∧
        Placeholder.mark <:+: (catalog.speakerTemplate command.param1).toList)

namespace Session

/-- The session with a name for its player. -/
def named (name : String) (session : Session) : Session := { session with player := name }

end Session

namespace Command

variable {view : Event → Event} {catalog : Catalog} {command : Command}

/-- Does the view show the same of what the command lets somebody say, whatever the name of the
player is? -/
def Nameless (view : Event → Event) (catalog : Catalog) (command : Command) : Prop :=
  ∀ (session : Session) (name speaker text : String), session.catalog = catalog →
    command.instruction = .say speaker text →
      view ((session.named name).dialogue speaker text) = view (session.dialogue speaker text)

theorem nameless_unspoken (catalog : Catalog) (command : Command) :
    command.Nameless Event.unspoken catalog := by
  intro session name speaker text _ _
  rfl

theorem text_of_say {speaker text : String} (hsay : command.instruction = .say speaker text) :
    command.kind = "text" ∧ command.param1 = speaker ∧ command.param2 = text := by
  unfold instruction at hsay
  split_ifs at hsay
  simp_all

/-- Without a place for the name, all that is told is the same under all names. -/
theorem nameless_of_not_namesPlayer (hnot : ¬ command.NamesPlayer catalog) :
    command.Nameless id catalog := by
  rintro session name speaker text rfl hsay
  obtain ⟨hkind, rfl, rfl⟩ := text_of_say hsay
  have htext : ¬ Placeholder.mark <:+: command.param2.toList := fun hmark =>
    hnot ⟨hkind, Or.inl hmark⟩
  have hspeaker : ∀ player : String, (session.named player).speakerName command.param1 =
      if command.param1 = narrator then "" else session.catalog.speakerTemplate command.param1 := by
    intro player
    by_cases hnarrator : command.param1 = narrator
    · rw [Session.speakerName, if_pos hnarrator, if_pos hnarrator]
    · rw [Session.speakerName, if_neg hnarrator, if_neg hnarrator]
      exact Placeholder.fill_of_markless player fun hmark =>
        hnot ⟨hkind, Or.inr ⟨hnarrator, hmark⟩⟩
  have hown : session.speakerName command.param1 =
      (session.named name).speakerName command.param1 := by
    rw [hspeaker name]
    exact hspeaker session.player
  show (session.named name).dialogue _ _ = session.dialogue _ _
  rw [Session.dialogue, Session.dialogue, hown, Placeholder.fill_of_markless _ htext,
    Placeholder.fill_of_markless _ htext]
  rfl

end Command

/-! ## Carrying out commands under another name -/

namespace Session

variable {view : Event → Event} (resolver : Resolver)

theorem execute_named (session : Session) (name : String) (line : Int) {command : Command}
    (hnameless : command.Nameless view session.catalog) :
    ((session.named name).execute resolver line command).1 =
        (session.execute resolver line command).1.named name ∧
      ((session.named name).execute resolver line command).2.seenBy view =
        (session.execute resolver line command).2.seenBy view := by
  unfold execute
  cases hinstruction : command.instruction with
  | say speaker text =>
      have hdialogue := hnameless session name speaker text rfl hinstruction
      exact ⟨rfl, by simp [Report.seenBy, hdialogue]⟩
  | _ => exact ⟨rfl, rfl⟩

theorem carryOut_named (session : Session) (name : String) {commands : List Command}
    (hnameless : ∀ command ∈ commands, command.Nameless view session.catalog) :
    ((session.named name).carryOut resolver commands).1 =
        (session.carryOut resolver commands).1.named name ∧
      ((session.named name).carryOut resolver commands).2.seenBy view =
        (session.carryOut resolver commands).2.seenBy view := by
  induction commands generalizing session with
  | nil => exact ⟨rfl, rfl⟩
  | cons command rest ih =>
      obtain ⟨hcommand, hrest⟩ := List.forall_mem_cons.mp hnameless
      obtain ⟨hsession, htold⟩ := session.execute_named resolver name session.line hcommand
      have hpast : (session.named name).past resolver command =
          (session.past resolver command).named name := by
        rw [past, show (session.named name).line = session.line from rfl, hsession]
        rfl
      have hcatalog : (session.past resolver command).catalog = session.catalog := by
        rw [past_eq]
      rw [← hcatalog] at hrest
      obtain ⟨hlast, hmore⟩ := ih (session.past resolver command) hrest
      rw [carryOut_cons, carryOut_cons, hpast, Report.seenBy_append, Report.seenBy_append, hmore]
      exact ⟨hlast, congrArg (· ++ _) htold⟩

end Session

/-! ## Calls under another name -/

namespace Interpreter

variable {view : Event → Event} {story : Interpreter} {name : String}

/-- The commands that a call carries out, which are those that it takes the line past. -/
def passed (story : Interpreter) (next : Call) : List Command :=
  (story.session.commands.take (story.call next).1.session.line.toNat).drop
    story.session.line.toNat

/-- The commands that some calls carry out. -/
def passedAll (story : Interpreter) : List Call → List Command
  | [] => []
  | next :: rest => story.passed next ++ (story.call next).1.passedAll rest

/-- Does the second outcome differ from the first one only by the name of the player, as far as the
view shows it? -/
structure NamedAlike (view : Event → Event) (name : String) (outcome other : Interpreter × Report) :
    Prop where
  story_eq : other.1 = outcome.1.named name
  report_eq : other.2.seenBy view = outcome.2.seenBy view

/-- Going on takes the line past the opening of what comes up. -/
theorem passed_advance (hstory : story.OnScript) (hphase : story.phase ≠ .ended) :
    story.passed .advance =
      Command.opening (story.session.commands.drop story.session.line.toNat) := by
  set opening := Command.opening (story.session.commands.drop story.session.line.toNat)
    with hopening
  have hline : story.advance.1.session.line =
      (story.session.line.toNat + opening.length : Nat) := by
    rw [advance_of_line hphase hstory.line_eq_toNat, follow_session, Session.run_session]
    show story.session.line + opening.length = _
    rw [Int.natCast_add, ← hstory.line_eq_toNat]
  rw [passed, call, hline, Int.toNat_natCast, List.drop_take, Nat.add_sub_cancel_left, hopening,
    Command.take_length_opening]

/-- A story beyond its script is as good as one at its end. -/
theorem drop_placed (story : Interpreter) (last : Nat) :
    (story.session.commands.take last).drop story.placed.session.line.toNat =
      (story.session.commands.take last).drop story.session.line.toNat := by
  rw [List.drop_eq_drop_iff, List.length_take]
  show min (min story.session.line (story.session.commands.length : Int)).toNat _ = _
  omega

theorem advance_named (hstory : story.OnScript)
    (hnameless : ∀ command ∈ story.passed .advance,
      command.Nameless view story.session.catalog) :
    NamedAlike view name story.advance (story.named name).advance := by
  by_cases hphase : story.phase = .ended
  · have hphase' : (story.named name).phase = .ended := hphase
    rw [advance_of_ended hphase, advance_of_ended hphase']
    exact ⟨rfl, rfl⟩
  · have hphase' : (story.named name).phase ≠ .ended := hphase
    have hline' : (story.named name).session.line = (story.session.line.toNat : Int) :=
      hstory.line_eq_toNat
    rw [passed_advance hstory hphase] at hnameless
    obtain ⟨hsession, htold⟩ := story.session.carryOut_named story.resolver name hnameless
    rw [advance_of_line hphase hstory.line_eq_toNat, advance_of_line hphase' hline',
      follow_eq_carryOut, follow_eq_carryOut]
    constructor
    · exact congrArg (fun session => ({ story with session := session, phase := _ } : Interpreter))
        hsession
    · rw [Report.seenBy_append, Report.seenBy_append]
      exact congrArg (· ++ _) htold

theorem start_named (hstory : story.OnScript)
    (hnameless : ∀ command ∈ story.passed .start, command.Nameless view story.session.catalog) :
    NamedAlike view name story.start (story.named name).start := by
  by_cases hpos : 0 < story.placed.session.line
  · have hpos' : 0 < (story.named name).placed.session.line := hpos
    have hrebuilt : story.rebuilt.1.OnScript := hstory.placed
    have hpassed : story.rebuilt.1.passed .advance = story.passed .start := by
      rw [passed, passed, call, call, start_of_pos hpos]
      exact story.drop_placed _
    rw [← hpassed] at hnameless
    have halike : NamedAlike view name story.rebuilt.1.advance
        (story.named name).rebuilt.1.advance :=
      advance_named hrebuilt hnameless
    rw [start_of_pos hpos, start_of_pos hpos']
    refine ⟨halike.story_eq, ?_⟩
    rw [Report.seenBy_append, Report.seenBy_append, halike.report_eq]
    rfl
  · have hpos' : ¬ 0 < (story.named name).placed.session.line := hpos
    have hpassed : story.placed.passed .advance = story.passed .start := by
      rw [passed, passed, call, call, start_of_not_pos hpos]
      exact story.drop_placed _
    rw [← hpassed] at hnameless
    rw [start_of_not_pos hpos, start_of_not_pos hpos']
    exact advance_named hstory.placed hnameless

theorem call_named (hstory : story.OnScript) (next : Call)
    (hnameless : ∀ command ∈ story.passed next, command.Nameless view story.session.catalog) :
    NamedAlike view name (story.call next) ((story.named name).call next) := by
  cases next with
  | start => exact start_named hstory hnameless
  | advance => exact advance_named hstory hnameless
  | rebuildAt target => exact ⟨rfl, rfl⟩
  | rebuildHere => exact ⟨rfl, rfl⟩

/-- Calls on a story under another name go the same way, and tell the same to a view to which all
commands that they carry out are nameless. -/
theorem calls_named (hstory : story.OnScript) (history : List Call)
    (hnameless : ∀ command ∈ story.passedAll history,
      command.Nameless view story.session.catalog) :
    ((story.named name).calls history).1 = (story.calls history).1.named name ∧
      ((story.named name).calls history).2.map (Report.seenBy view) =
        (story.calls history).2.map (Report.seenBy view) := by
  induction history generalizing story with
  | nil => exact ⟨rfl, rfl⟩
  | cons next rest ih =>
      rw [passedAll, List.forall_mem_append] at hnameless
      obtain ⟨hnext, hrest⟩ := hnameless
      have halike : NamedAlike view name (story.call next) ((story.named name).call next) :=
        call_named hstory next hnext
      rw [← (call_frame story next).catalog_eq] at hrest
      obtain ⟨hlast, hreports⟩ := ih (hstory.call next).1 hrest
      rw [calls_cons, calls_cons, halike.story_eq, List.map_cons, List.map_cons, hreports,
        halike.report_eq]
      exact ⟨hlast, rfl⟩

/-- **The name of the player is only spoken.**  The same calls are made on two stories that differ
in the name of the player.  Afterwards that is still the only difference: they are on the same line,
have got equally far and have the same on the stage.  Call by call they return and tell the same,
warnings included, but for what is said and the names of those who say it.  If none of the commands
that they carried out leaves a place for the name, they tell altogether the same. -/
theorem calls_unspoken_eq (resolver : Resolver) (session : Session) (player other : String)
    (first : Nat) (history : List Call) :
    let story (name : String) :=
      idle resolver { session with player := name, line := (first : Nat) }
    let one := (story player).calls history
    let two := (story other).calls history
    two.1 = one.1.named other ∧
      two.2.map (Report.seenBy Event.unspoken) = one.2.map (Report.seenBy Event.unspoken) ∧
      (∀ report ∈ one.2 ++ two.2, report.stray = false) ∧
      ((∀ command ∈ (story player).passedAll history, ¬ command.NamesPlayer session.catalog) →
        two.2 = one.2) := by
  intro story one two
  have honScript (name : String) : (story name).OnScript := Int.natCast_nonneg first
  obtain ⟨hstory, hunspoken⟩ := calls_named (honScript player) history fun command _ =>
    command.nameless_unspoken _
  refine ⟨hstory, hunspoken, ?_, ?_⟩
  · refine List.forall_mem_append.mpr ⟨?_, ?_⟩
    · exact ((honScript player).calls history).2
    · exact ((honScript other).calls history).2
  · intro hplain
    have hnameless : ∀ command ∈ (story player).passedAll history,
        command.Nameless id session.catalog := fun command hmem =>
      Command.nameless_of_not_namesPlayer (hplain command hmem)
    have hsame : two.2.map (Report.seenBy id) = one.2.map (Report.seenBy id) :=
      (calls_named (honScript player) history hnameless).2
    rwa [Report.seenBy_id, List.map_id, List.map_id] at hsame

/-- Until the script asks for the name, one cannot tell two players apart. -/
theorem calls_unspoken_eq_before_name :
    let session : Session :=
      { tenant := "demo"
        catalog :=
          { commands := [⟨1, "char_show", "mika", "smile", ""⟩, ⟨2, "text", "mika", "Hello", ""⟩,
              ⟨3, "text", "narrator", "%PLAYER_NAME% nods", ""⟩]
            characters := [("mika", ⟨"Mika", []⟩)] } }
    let story (name : String) := idle ⟨"", ""⟩ { session with player := name, line := (0 : Nat) }
    (∀ command ∈ (story "Aria").passedAll [.start], ¬ command.NamesPlayer session.catalog) ∧
      ((story "Aria").passedAll [.start]).length = 2 ∧
      ((story "Ben").calls [.start]).2 = ((story "Aria").calls [.start]).2 ∧
      ((story "Ben").calls [.start, .advance]).2 ≠ ((story "Aria").calls [.start, .advance]).2 := by
  intro session story
  have hplain : ∀ command ∈ (story "Aria").passedAll [.start],
      ¬ command.NamesPlayer session.catalog := by
    unfold Command.NamesPlayer
    decide
  refine ⟨hplain, by decide, ?_, by decide⟩
  exact (calls_unspoken_eq ⟨"", ""⟩ session "Aria" "Ben" 0 [.start]).2.2.2 hplain

end Interpreter

end VisualNovel
