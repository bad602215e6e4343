import VisualNovel.Proofs.Story.PlayThrough

/-!
# What has been carried out so far

A story that goes on from pause to pause carries out the commands of its script one after the
other, from the line where it began.  `Executed` says which of them it has carried out: they came
up first, and they have made of the story what it is now.  So its line is the one after the last of
them, and this is one that pauses.

A story begins on its line with a stage that is rebuilt, and then goes on (`start_eq_begun`); hence
one step (`Executed.advance`) serves for the start as well.
-/

namespace VisualNovel

namespace Event

theorem lines_append (first second : List Event) :
    lines (first ++ second) = lines first ++ lines second := by
  simp [lines, EventRecord.lines]

end Event

namespace Interpreter

variable {story origin : Interpreter} {executed : List Command}

/-- The story on the line where it starts, before it goes on, and what has been told then. -/
def begun (story : Interpreter) : Interpreter × Report :=
  if 0 < story.placed.session.line then story.rebuilt else (story.placed, {})

theorem start_eq_begun (story : Interpreter) :
    story.start = (story.begun.1.advance.1, story.begun.2 ++ story.begun.1.advance.2) := by
  by_cases hpos : 0 < story.placed.session.line
  · rw [start_of_pos hpos, begun, if_pos hpos]
  · rw [start_of_not_pos hpos, begun, if_neg hpos]
    rfl

theorem begun_frame (story : Interpreter) : SameFrame story.begun.1 story := by
  unfold begun
  split <;> exact ⟨rfl, rfl, rfl, rfl⟩

theorem begun_line (story : Interpreter) :
    story.begun.1.session.line = min story.session.line story.session.commands.length := by
  unfold begun
  split <;> rfl

theorem begun_phase (story : Interpreter) : story.begun.1.phase = story.phase := by
  unfold begun
  split <;> rfl

theorem begun_notEnded (hphase : story.phase ≠ .ended) : story.begun.1.phase ≠ .ended := by
  rw [begun_phase]
  exact hphase

/-- The commands that come up are the same after the beginning. -/
theorem begun_upcoming (story : Interpreter) :
    story.begun.1.session.commands.drop story.begun.1.session.line.toNat =
      story.session.commands.drop story.session.line.toNat := by
  have hcommands : story.begun.1.session.commands = story.session.commands :=
    congrArg Catalog.commands story.begun_frame.catalog_eq
  rw [hcommands, begun_line]
  rcases Int.le_total story.session.line story.session.commands.length with hle | hle
  · rw [Int.min_eq_left hle]
  · have hlength : story.session.commands.length ≤ story.session.line.toNat := by omega
    rw [Int.min_eq_right hle, Int.toNat_natCast, List.drop_length, List.drop_of_length_le hlength]

theorem OnScript.begun (hstory : story.OnScript) : story.begun.1.OnScript := by
  have hline : 0 ≤ story.session.line := hstory
  rw [OnScript, begun_line]
  omega

/-- Has the story carried out the given commands since it was `origin`? -/
structure Executed (origin : Interpreter) (executed : List Command) (story : Interpreter) :
    Prop where
  story_eq : story = origin.after executed story.phase
  initial : executed <+: origin.session.commands.drop origin.session.line.toNat
  last_pauses : story.phase = .running →
    ∃ before last, executed = before ++ [last] ∧ last.instruction.pauses = true

theorem executed_nil (horigin : origin.phase = .idle) : Executed origin [] origin where
  story_eq := rfl
  initial := List.nil_prefix
  last_pauses := by
    intro hrunning
    rw [horigin] at hrunning
    cases hrunning

namespace Executed

theorem line_eq (hstory : Executed origin executed story) :
    story.session.line = origin.session.line + executed.length := by
  rw [hstory.story_eq, after, Session.carryOut_line]

theorem frame (hstory : Executed origin executed story) : SameFrame story origin := by
  rw [hstory.story_eq, after]
  constructor
  · rfl
  all_goals rw [Session.carryOut_session]

/-- Going on carries out some more of the commands, and tells what these tell.  When there are no
more it tells that the story is over. -/
theorem advance {line : Nat} (hstory : Executed origin executed story)
    (hline : origin.session.line = line) (hphase : story.phase ≠ .ended) :
    ∃ more, Executed origin (executed ++ more) story.advance.1 ∧
      story.advance.1.phase ≠ .idle ∧
      (origin.told executed).events ++ story.advance.2.events =
        (origin.told (executed ++ more)).events ++
          if story.advance.1.phase = .ended then [.storyEnd] else [] := by
  obtain ⟨upcoming, hupcoming⟩ := hstory.initial
  rw [hline, Int.toNat_natCast] at hupcoming
  obtain ⟨hline', hdrop⟩ := upcoming_after hline hupcoming.symm story.phase
  rw [← hstory.story_eq] at hline' hdrop
  have hadvance : story.advance = story.follow upcoming := by
    rw [advance_of_line hphase hline', hdrop]
  have hfollow := follow_eq_carryOut story upcoming
  obtain ⟨later, hlater⟩ := Command.opening_initial upcoming
  refine ⟨Command.opening upcoming, ⟨?_, ?_, ?_⟩, ?_, ?_⟩
  · rw [after_append _ _ story.phase, ← hstory.story_eq, hadvance, hfollow]
    rfl
  · refine ⟨later, ?_⟩
    rw [hline, Int.toNat_natCast, ← hupcoming, List.append_assoc, hlater]
  · intro hrunning
    rw [hadvance] at hrunning
    obtain ⟨before, last, hopening, hlast⟩ := opening_of_follow_running hrunning
    exact ⟨executed ++ before, last, by rw [hopening, List.append_assoc], hlast⟩
  · rw [hadvance, hfollow]
    cases Command.anyPauses upcoming <;> simp
  · rw [told_append _ _ story.phase, ← hstory.story_eq, hadvance, hfollow]
    cases Command.anyPauses upcoming <;> simp [told]

end Executed

end Interpreter

end VisualNovel
