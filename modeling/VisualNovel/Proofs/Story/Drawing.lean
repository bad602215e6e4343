import VisualNovel.Proofs.OrderedMap
import VisualNovel.Proofs.Story.Calls

/-!
# Drawing the stage from events

The player's screen never sees the stage.  It keeps a picture of its own, with a background and
portraits like a stage, and changes it by the events that it is told: `Stage.draw` is what one event
does to the picture.  It asks neither the catalog nor a resolver.

`Stage.DrawnBy` says that some events are all that a screen needs to go from the one picture to the
other, and that they make sense on the way: nobody leaves who is not there, and the address of a
background is the one that its id stands for.

What one command tells draws what it does to the stage (`drawnBy_execute`).  Streams are put
together by `DrawnBy.append`, so the same holds of all that is carried out live (`drawnBy_carryOut`)
and of all that is replayed (`drawnBy_applyAll`), and then of every call.  A call that rebuilds the
stage tells of it from the beginning, so the screen has to begin with an empty picture there.
-/

namespace VisualNovel

namespace Stage

/-- The picture after an event. -/
def draw (picture : Stage) : Event → Stage
  | .background id _ => { picture with background := some id }
  | .portraitShown character expression position address =>
    { picture with
      portraits :=
        OrderedMap.put character ⟨expression, position, address⟩ picture.portraits }
  | .portraitHidden character =>
    { picture with portraits := OrderedMap.remove character picture.portraits }
  | .dialogue _ _ _ _ | .overlayShown _ | .overlayHidden | .storyEnd => picture

/-- The picture after some events. -/
def drawAll (picture : Stage) (events : List Event) : Stage :=
  events.foldl draw picture

theorem drawAll_append (picture : Stage) (first second : List Event) :
    picture.drawAll (first ++ second) = (picture.drawAll first).drawAll second :=
  List.foldl_append

/-- Do the events lead from the one picture to the other, and make sense on the way? -/
structure DrawnBy (resolver : Resolver) (before : Stage) (events : List Event) (after : Stage) :
    Prop where
  drawAll_eq : before.drawAll events = after
  /-- Who leaves is there at that moment. -/
  hidden_present : ∀ earlier character later,
    events = earlier ++ .portraitHidden character :: later →
      character ∈ OrderedMap.keys (before.drawAll earlier).portraits
  /-- Backgrounds are where the resolver has them. -/
  address_eq : ∀ id address, .background id address ∈ events → address = resolver.background id

section

variable {resolver : Resolver} {before middle after : Stage} {first second : List Event}

theorem DrawnBy.nil (resolver : Resolver) (stage : Stage) : DrawnBy resolver stage [] stage where
  drawAll_eq := rfl
  hidden_present := by simp
  address_eq := by simp

/-- A single event leads to the picture after it. -/
theorem DrawnBy.singleton {event : Event}
    (hhidden : ∀ character, event = .portraitHidden character →
      character ∈ OrderedMap.keys before.portraits)
    (haddress : ∀ id address, event = .background id address →
      address = resolver.background id) :
    DrawnBy resolver before [event] (before.draw event) where
  drawAll_eq := rfl
  hidden_present := by
    intro earlier character later hsplit
    cases earlier with
    | nil => exact hhidden character (List.cons.inj hsplit).1
    | cons first rest =>
        have hrest : [] = rest ++ .portraitHidden character :: later := (List.cons.inj hsplit).2
        simp at hrest
  address_eq := by
    intro id address hmem
    exact haddress id address (List.mem_singleton.mp hmem).symm

theorem DrawnBy.append (hfirst : DrawnBy resolver before first middle)
    (hsecond : DrawnBy resolver middle second after) :
    DrawnBy resolver before (first ++ second) after where
  drawAll_eq := by rw [drawAll_append, hfirst.drawAll_eq, hsecond.drawAll_eq]
  hidden_present := by
    intro earlier character later hsplit
    rcases List.append_eq_append_iff.mp hsplit with
      ⟨between, hearlier, hrest⟩ | ⟨between, hearlier, hlater⟩
    · -- the departure is told in the second stream
      rw [hearlier, drawAll_append, hfirst.drawAll_eq]
      exact hsecond.hidden_present between character later hrest
    · cases between with
      | nil =>
          -- it is the first thing that the second stream tells
          rw [List.append_nil] at hearlier
          rw [← hearlier, hfirst.drawAll_eq]
          exact hsecond.hidden_present [] character later hlater.symm
      | cons event rest =>
          obtain ⟨rfl, -⟩ := List.cons.inj hlater
          exact hfirst.hidden_present earlier character rest hearlier
  address_eq := by
    intro id address hmem
    rcases List.mem_append.mp hmem with hmem | hmem
    · exact hfirst.address_eq id address hmem
    · exact hsecond.address_eq id address hmem

end

variable {catalog : Catalog} {resolver : Resolver}

/-- What is told of a change of the stage draws it. -/
theorem drawnBy_follow (catalog : Catalog) (resolver : Resolver) (stage : Stage)
    (instruction : Instruction) :
    DrawnBy resolver stage (stage.follow catalog resolver instruction).2.toList
      (stage.follow catalog resolver instruction).1 := by
  cases instruction with
  | changeBackground background =>
      refine DrawnBy.singleton (by simp) ?_
      rintro id address heq
      cases heq
      rfl
  | showCharacter character expression position => exact DrawnBy.singleton (by simp) (by simp)
  | hideCharacter character =>
      simp only [follow]
      cases hportrait : OrderedMap.at? character stage.portraits with
      | none => exact DrawnBy.nil resolver stage
      | some portrait =>
          refine DrawnBy.singleton ?_ (by simp)
          intro other heq
          cases heq
          exact OrderedMap.mem_keys_of_at? hportrait
  | say speaker text => exact DrawnBy.nil resolver stage
  | showImage image => exact DrawnBy.nil resolver stage
  | hideImage => exact DrawnBy.nil resolver stage
  | unknown => exact DrawnBy.nil resolver stage

/-- What is told of a replay draws the stage that it leaves. -/
theorem drawnBy_applyAll (catalog : Catalog) (resolver : Resolver) (stage : Stage)
    (commands : List Command) :
    DrawnBy resolver stage (stage.applyAll catalog resolver commands).2
      (stage.applyAll catalog resolver commands).1 := by
  induction commands generalizing stage with
  | nil => exact DrawnBy.nil resolver stage
  | cons command rest ih => exact (drawnBy_follow ..).append (ih _)

end Stage

/-! ## Commands that are carried out -/

namespace Session

variable {resolver : Resolver}

theorem drawnBy_execute (session : Session) (line : Int) (command : Command) :
    Stage.DrawnBy resolver session.stage (session.execute resolver line command).2.events
      (session.execute resolver line command).1.stage := by
  unfold execute
  cases hinstruction : command.instruction with
  | say speaker text => exact Stage.DrawnBy.singleton (by simp [dialogue]) (by simp [dialogue])
  | showImage image => exact Stage.DrawnBy.singleton (by simp) (by simp)
  | hideImage => exact Stage.DrawnBy.singleton (by simp) (by simp)
  | unknown => exact Stage.DrawnBy.nil resolver session.stage
  | changeBackground background =>
      exact Stage.drawnBy_follow session.catalog _ _ (.changeBackground background)
  | showCharacter character expression position =>
      exact Stage.drawnBy_follow session.catalog _ _ (.showCharacter character expression position)
  | hideCharacter character =>
      exact Stage.drawnBy_follow session.catalog _ _ (.hideCharacter character)

theorem drawnBy_carryOut (session : Session) (commands : List Command) :
    Stage.DrawnBy resolver session.stage (session.carryOut resolver commands).2.events
      (session.carryOut resolver commands).1.stage := by
  induction commands generalizing session with
  | nil => exact Stage.DrawnBy.nil resolver session.stage
  | cons command rest ih =>
      have hrest := ih (session.past resolver command)
      exact (session.drawnBy_execute session.line command).append hrest

end Session

/-! ## Calls -/

namespace Interpreter

open Stage (DrawnBy)

theorem drawnBy_followed (story : Interpreter) (upcoming : List Command) :
    DrawnBy story.resolver story.session.stage (story.follow upcoming).2.events
      (story.follow upcoming).1.session.stage := by
  rw [follow_eq_carryOut]
  refine (story.session.drawnBy_carryOut _).append ?_
  cases Command.anyPauses upcoming with
  | true => exact DrawnBy.nil _ _
  | false => exact DrawnBy.singleton (by simp) (by simp)

/-- Going on is told from the stage that is there. -/
theorem drawnBy_advance (story : Interpreter) :
    DrawnBy story.resolver story.session.stage story.advance.2.events
      story.advance.1.session.stage := by
  by_cases hphase : story.phase = .ended
  · rw [advance_of_ended hphase]
    exact DrawnBy.nil _ _
  · rw [advance_eq hphase]
    cases story.session.upcoming? with
    | none => exact DrawnBy.nil _ _
    | some upcoming => exact story.drawnBy_followed upcoming

/-- Rebuilding the stage is told from an empty one. -/
theorem drawnBy_rebuildStage (story : Interpreter) (target : Int) :
    DrawnBy story.resolver Stage.empty (story.rebuildStage target).2.events
      (story.rebuildStage target).1.session.stage :=
  Stage.drawnBy_applyAll ..

/-- Starting is told from an empty stage if it rebuilds the stage, and otherwise from the one that
is there. -/
theorem drawnBy_start (story : Interpreter) :
    DrawnBy story.resolver
      (if 0 < story.placed.session.line then Stage.empty else story.session.stage)
      story.start.2.events story.start.1.session.stage := by
  by_cases hpos : 0 < story.placed.session.line
  · rw [if_pos hpos, start_of_pos hpos]
    exact (story.placed.drawnBy_rebuildStage _).append story.rebuilt.1.drawnBy_advance
  · rw [if_neg hpos, start_of_not_pos hpos]
    exact story.placed.drawnBy_advance

/-! ## Stories without a script -/

/-- Is there no script, and nothing on the stage? -/
def Unscripted (story : Interpreter) : Prop :=
  story.session.commands = [] ∧ story.session.stage = Stage.empty

namespace Unscripted

variable {story : Interpreter}

theorem upcoming_eq (hstory : story.Unscripted) {upcoming : List Command}
    (hupcoming : story.session.upcoming? = some upcoming) : upcoming = [] := by
  rw [Session.upcoming?, hstory.1] at hupcoming
  split at hupcoming <;> simp_all

theorem advance (hstory : story.Unscripted) : story.advance.1.Unscripted := by
  by_cases hphase : story.phase = .ended
  · rw [advance_of_ended hphase]
    exact hstory
  · rw [advance_eq hphase]
    cases hupcoming : story.session.upcoming? with
    | none => exact hstory
    | some upcoming =>
        obtain rfl := hstory.upcoming_eq hupcoming
        show (story.follow []).1.Unscripted
        rw [follow_eq_carryOut]
        exact hstory

theorem rebuildStage (hstory : story.Unscripted) (target : Int) :
    (story.rebuildStage target).1.Unscripted := by
  refine ⟨hstory.1, ?_⟩
  show (Stage.empty.applyAll _ _ (story.session.commands.take target.toNat)).1 = Stage.empty
  rw [hstory.1, List.take_nil]
  rfl

/-- What nothing could have been put on the stage stays empty. -/
theorem call (hstory : story.Unscripted) (next : Call) : (story.call next).1.Unscripted := by
  cases next with
  | advance => exact hstory.advance
  | rebuildAt target => exact hstory.rebuildStage target
  | rebuildHere => exact hstory.rebuildStage story.session.line
  | start =>
      have hplaced : story.placed.Unscripted := hstory
      show story.start.1.Unscripted
      by_cases hpos : 0 < story.placed.session.line
      · rw [start_of_pos hpos]
        exact (hplaced.rebuildStage _).advance
      · rw [start_of_not_pos hpos]
        exact hplaced.advance

theorem calls (hstory : story.Unscripted) (history : List Call) :
    (story.calls history).1.Unscripted := by
  induction history generalizing story with
  | nil => exact hstory
  | cons next rest ih => exact ih (hstory.call next)

end Unscripted

/-- Unless there is no script, a story starts after the first line if it stands there. -/
theorem placed_line_pos_iff {story : Interpreter} (hcommands : story.session.commands ≠ []) :
    0 < story.placed.session.line ↔ 0 < story.session.line := by
  have hlength : 0 < story.session.commands.length := List.length_pos_of_ne_nil hcommands
  show 0 < min story.session.line _ ↔ _
  omega

/-- **The events alone draw the stage.**  Wherever a story has got by any calls, all further calls
return, and a screen that draws what they tell has the picture that is on the stage: from the
picture before the call, if the story goes on or starts at the first line, and from an empty one, if
the stage is rebuilt or the story starts after the first line of its script.  If nothing was on the
stage in the beginning, it does not matter for starting after the first line that the script may
have no lines at all. -/
theorem events_draw_stage (resolver : Resolver) (session : Session) (first : Nat)
    (history : List Call) :
    let story := ((idle resolver { session with line := (first : Nat) }).calls history).1
    (story.advance.2.stray = false ∧
      DrawnBy resolver story.session.stage story.advance.2.events
        story.advance.1.session.stage) ∧
    (story.start.2.stray = false ∧
      DrawnBy resolver
        (if 0 < min story.session.line session.commands.length then Stage.empty
          else story.session.stage)
        story.start.2.events story.start.1.session.stage ∧
      (session.stage = Stage.empty → 0 < story.session.line →
        DrawnBy resolver Stage.empty story.start.2.events story.start.1.session.stage)) ∧
    ∀ target : Int, (story.rebuildStage target).2.stray = false ∧
      DrawnBy resolver Stage.empty (story.rebuildStage target).2.events
        (story.rebuildStage target).1.session.stage := by
  intro story
  set begun := idle resolver { session with line := (first : Nat) }
  have hframe : SameFrame story begun := calls_frame begun history
  have hresolver : story.resolver = resolver := hframe.resolver_eq
  have hcommands : story.session.commands = session.commands :=
    congrArg Catalog.commands hframe.catalog_eq
  have hline : story.OnScript := by
    have hfirst : begun.OnScript := Int.natCast_nonneg first
    exact (hfirst.calls history).1
  have hadvance := story.drawnBy_advance
  have hstart := story.drawnBy_start
  have hrebuilt := story.drawnBy_rebuildStage
  rw [hresolver] at hadvance hstart hrebuilt
  refine ⟨⟨hline.advance.2, hadvance⟩, ⟨hline.start.2, ?_, ?_⟩, ?_⟩
  · rw [← hcommands]
    exact hstart
  · intro hempty hpos
    by_cases hscript : session.commands = []
    · -- nothing is rebuilt, wherever the story stands, and the stage is empty anyway
      have hunscripted : begun.Unscripted := ⟨hscript, hempty⟩
      rw [(hunscripted.calls history).2, ite_self] at hstart
      exact hstart
    · have hplaced : 0 < story.placed.session.line :=
        (placed_line_pos_iff (hcommands ▸ hscript)).mpr hpos
      rw [if_pos hplaced] at hstart
      exact hstart
  · intro target
    exact ⟨rfl, hrebuilt target⟩

/-- A story that starts on its third line tells of a portrait that was shown before, and of its
leaving. -/
theorem events_draw_stage_at_third_line :
    let session : Session :=
      { tenant := "demo"
        catalog :=
          { commands := [⟨1, "char_show", "mika", "smile", ""⟩, ⟨2, "text", "mika", "Hi", ""⟩,
              ⟨3, "char_hide", "mika", "", ""⟩, ⟨4, "char_hide", "mika", "", ""⟩] } }
    let story := ((idle ⟨"", ""⟩ { session with line := (2 : Nat) }).calls [.rebuildAt 1]).1
    session.stage = Stage.empty ∧ 0 < story.session.line ∧ story.session.stage ≠ Stage.empty ∧
      DrawnBy ⟨"", ""⟩ Stage.empty story.start.2.events story.start.1.session.stage ∧
      story.start.2.events.length = 3 := by
  intro session story
  have hempty : session.stage = Stage.empty := rfl
  have hpos : 0 < story.session.line := by decide
  refine ⟨hempty, hpos, by decide, ?_, by decide⟩
  exact (events_draw_stage ⟨"", ""⟩ session 2 [.rebuildAt 1]).2.1.2.2 hempty hpos

end Interpreter

end VisualNovel
