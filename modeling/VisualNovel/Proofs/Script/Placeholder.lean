import Mathlib.Data.List.Infix
import Mathlib.Tactic.Ring
import VisualNovel.Script.Placeholder

/-!
# Every place for the name is filled once

The places that are left for the name of the player cut a text into pieces.  The cuts are made
from the left, each at the first place in what is left of the text.  A place that begins inside of
one that is cut out does not count: the mark ends with the character with which it begins, so in
`%PLAYER_NAME%PLAYER_NAME%` there is one place and not two.

There is exactly one way to cut a text (`exists_cut`, `Cut.unique`), and to fill the text is to
put the name between its pieces (`fill_between_pieces`).  So what is put in is never searched.
-/

namespace VisualNovel.Placeholder

variable {text piece rest : List Char} {pieces others : List (List Char)}

/-! ## Cutting a text -/

/-- Is the first place in the text of the two parts, with a mark between them, the one between
them? -/
def IsFirst (piece rest : List Char) : Prop :=
  ∀ before after, piece ++ mark ++ rest = before ++ mark ++ after → piece.length ≤ before.length

/-- Are these the pieces of the text? -/
inductive Cut : List Char → List (List Char) → Prop
  | last {text : List Char} (hnone : ¬ mark <:+: text) : Cut text [text]
  | next {piece rest : List Char} {pieces : List (List Char)} (hfirst : IsFirst piece rest)
      (hrest : Cut rest pieces) : Cut (piece ++ mark ++ rest) (piece :: pieces)

/-- If the first place comes later, then there is none here. -/
theorem IsFirst.not_here {c : Char} (hfirst : IsFirst (c :: piece) rest) :
    ¬ mark <+: c :: (piece ++ mark ++ rest) := by
  rintro ⟨after, hafter⟩
  have hlength := hfirst [] after hafter.symm
  simp at hlength

theorem IsFirst.tail {c : Char} (hfirst : IsFirst (c :: piece) rest) : IsFirst piece rest := by
  intro before after hsplit
  have hlength := hfirst (c :: before) after (congrArg (c :: ·) hsplit)
  simpa using hlength

theorem IsFirst.markless (hfirst : IsFirst piece rest) : ¬ mark <:+: piece := by
  rintro ⟨before, after, rfl⟩
  have hlength := hfirst before (after ++ mark ++ rest) (by simp only [List.append_assoc])
  have hmark : mark.length = 13 := rfl
  simp only [List.length_append] at hlength
  omega

theorem exists_isFirst (hmark : mark <:+: text) :
    ∃ piece rest, text = piece ++ mark ++ rest ∧ IsFirst piece rest := by
  induction text with
  | nil => exact absurd hmark (by decide)
  | cons c tail ih =>
      by_cases hhere : mark <+: c :: tail
      · obtain ⟨rest, hrest⟩ := hhere
        exact ⟨[], rest, hrest.symm, fun _ _ _ => Nat.zero_le _⟩
      · have hlater : mark <:+: tail := (List.infix_cons_iff.mp hmark).resolve_left hhere
        obtain ⟨piece, rest, rfl, hfirst⟩ := ih hlater
        refine ⟨c :: piece, rest, rfl, ?_⟩
        intro before after hsplit
        cases before with
        | nil => exact absurd ⟨after, hsplit.symm⟩ hhere
        | cons d before =>
            have htail := (List.cons.inj hsplit).2
            exact Nat.succ_le_succ (hfirst before after htail)

/-- The pieces before the first place, and what is left after it, are given by the text. -/
theorem IsFirst.unique {piece' rest' : List Char} (hfirst : IsFirst piece rest)
    (hother : IsFirst piece' rest') (hsame : piece ++ mark ++ rest = piece' ++ mark ++ rest') :
    piece = piece' ∧ rest = rest' := by
  have hlength : piece.length = piece'.length :=
    Nat.le_antisymm (hfirst piece' rest' hsame) (hother piece rest hsame.symm)
  rw [List.append_assoc, List.append_assoc] at hsame
  obtain ⟨hpiece, hrest⟩ := List.append_inj hsame hlength
  exact ⟨hpiece, List.append_cancel_left hrest⟩

theorem exists_cut (text : List Char) : ∃ pieces, Cut text pieces := by
  induction hlength : text.length using Nat.strong_induction_on generalizing text with
  | _ length ih =>
      by_cases hmark : mark <:+: text
      · obtain ⟨piece, rest, rfl, hfirst⟩ := exists_isFirst hmark
        have hshorter : rest.length < length := by
          have hmark : mark.length = 13 := rfl
          simp only [List.length_append] at hlength
          omega
        obtain ⟨pieces, hrest⟩ := ih rest.length hshorter rest rfl
        exact ⟨piece :: pieces, .next hfirst hrest⟩
      · exact ⟨[text], .last hmark⟩

namespace Cut

theorem unique (hcut : Cut text pieces) (hother : Cut text others) : others = pieces := by
  induction hcut generalizing others with
  | last hnone =>
      cases hother with
      | last => rfl
      | next => exact absurd ⟨_, _, rfl⟩ hnone
  | @next piece rest pieces hfirst hrest ih =>
      generalize htext : piece ++ mark ++ rest = text at hother
      cases hother with
      | last hnone => exact absurd ⟨_, _, htext⟩ hnone
      | next hfirst' hrest' =>
          obtain ⟨rfl, rfl⟩ := hfirst.unique hfirst' htext
          rw [ih hrest']

theorem markless (hcut : Cut text pieces) : ∀ piece ∈ pieces, ¬ mark <:+: piece := by
  induction hcut with
  | last hnone => exact List.forall_mem_singleton.mpr hnone
  | next hfirst _ ih => exact List.forall_mem_cons.mpr ⟨hfirst.markless, ih⟩

theorem ne_nil (hcut : Cut text pieces) : pieces ≠ [] := by
  cases hcut <;> exact List.cons_ne_nil _ _

end Cut

/-! ## Filling a text -/

theorem fillFrom_eq_drop (name : List Char) (skip : Nat) (text : List Char) :
    fillFrom name skip text = fillFrom name 0 (text.drop skip) := by
  induction skip generalizing text with
  | zero => rfl
  | succ skip ih =>
      cases text with
      | nil => rfl
      | cons c rest => exact ih rest

theorem fillFrom_mark_append (name rest : List Char) :
    fillFrom name 0 (mark ++ rest) = name ++ fillFrom name 0 rest := by
  have hmark : mark ++ rest = '%' :: (mark.tail ++ rest) := rfl
  have hhere : mark.isPrefixOf ('%' :: (mark.tail ++ rest)) = true :=
    List.isPrefixOf_iff_prefix.mpr ⟨rest, hmark⟩
  have hdrop : (mark.tail ++ rest).drop (mark.length - 1) = rest := List.drop_left' rfl
  rw [hmark, fillFrom, if_pos hhere, fillFrom_eq_drop, hdrop]

theorem fillFrom_of_markless (name : List Char) {text : List Char} (hnone : ¬ mark <:+: text) :
    fillFrom name 0 text = text := by
  induction text with
  | nil => rfl
  | cons c rest ih =>
      have hhere : ¬ mark.isPrefixOf (c :: rest) = true := fun hmark =>
        hnone (List.isPrefixOf_iff_prefix.mp hmark).isInfix
      have hrest : ¬ mark <:+: rest := fun hmark =>
        hnone (hmark.trans (List.suffix_cons c rest).isInfix)
      rw [fillFrom, if_neg hhere, ih hrest]

/-- A text without a place for the name is the same for all players. -/
theorem fill_of_markless (name : String) {text : String} (hnone : ¬ mark <:+: text.toList) :
    fill name text = text := by
  rw [fill, fillFrom_of_markless _ hnone, String.ofList_toList]

/-- The first place is filled, and what comes after it is filled in the same way. -/
theorem IsFirst.fillFrom_eq (hfirst : IsFirst piece rest) (name : List Char) :
    fillFrom name 0 (piece ++ mark ++ rest) = piece ++ name ++ fillFrom name 0 rest := by
  induction piece with
  | nil => exact fillFrom_mark_append name rest
  | cons c piece ih =>
      have hhere : ¬ mark.isPrefixOf (c :: (piece ++ mark ++ rest)) = true := fun hmark =>
        hfirst.not_here (List.isPrefixOf_iff_prefix.mp hmark)
      have hcons : c :: piece ++ mark ++ rest = c :: (piece ++ mark ++ rest) := rfl
      rw [hcons, fillFrom, if_neg hhere, ih hfirst.tail]
      rfl

namespace Cut

theorem fillFrom_eq (hcut : Cut text pieces) (name : List Char) :
    fillFrom name 0 text = name.intercalate pieces := by
  induction hcut with
  | last hnone => rw [fillFrom_of_markless name hnone, List.intercalate_singleton]
  | @next piece rest pieces hfirst hrest ih =>
      obtain ⟨second, others, rfl⟩ := List.exists_cons_of_ne_nil hrest.ne_nil
      rw [hfirst.fillFrom_eq, ih, List.intercalate_cons_cons]

/-- With the mark for a name nothing changes. -/
theorem fillFrom_mark (hcut : Cut text pieces) : fillFrom mark 0 text = text := by
  induction hcut with
  | last hnone => exact fillFrom_of_markless mark hnone
  | next hfirst _ ih => rw [hfirst.fillFrom_eq, ih]

theorem length_fillFrom (hcut : Cut text pieces) (name : List Char) :
    ((fillFrom name 0 text).length : Int) =
      text.length + ((pieces.length : Int) - 1) * (name.length - mark.length) := by
  induction hcut with
  | last hnone => simp [fillFrom_of_markless name hnone]
  | next hfirst _ ih =>
      rw [hfirst.fillFrom_eq]
      simp only [List.length_append, List.length_cons]
      push_cast
      rw [ih]
      ring

end Cut

/-- **To fill a text is to put the name between the pieces into which its places cut it.** -/
theorem fill_between_pieces (text : String) :
    ∃ pieces : List String, Cut text.toList (pieces.map String.toList) ∧
      (∀ others, Cut text.toList others → others = pieces.map String.toList) ∧
      (∀ piece ∈ pieces, ¬ "%PLAYER_NAME%".toList <:+: piece.toList) ∧
      (∀ name, fill name text = name.intercalate pieces) ∧
      (∀ name, ((fill name text).length : Int) =
        text.length + ((pieces.length : Int) - 1) * (name.length - "%PLAYER_NAME%".length)) ∧
      fill "%PLAYER_NAME%" text = text ∧
      (¬ "%PLAYER_NAME%".toList <:+: text.toList → ∀ name, fill name text = text) ∧
      ∀ before after, text = before ++ "%PLAYER_NAME%" ++ after →
        IsFirst before.toList after.toList →
          ∀ name, fill name text = fill name before ++ name ++ fill name after := by
  obtain ⟨cut, hcut⟩ := exists_cut text.toList
  have htoList : (cut.map String.ofList).map String.toList = cut := by
    simp [List.map_map, Function.comp_def]
  refine ⟨cut.map String.ofList, by rwa [htoList], ?_, ?_, ?_, ?_, ?_, ?_, ?_⟩
  · intro others hothers
    rw [htoList]
    exact hcut.unique hothers
  · intro piece hmem
    obtain ⟨chars, hchars, rfl⟩ := List.mem_map.mp hmem
    show ¬ mark <:+: (String.ofList chars).toList
    rw [String.toList_ofList]
    exact hcut.markless chars hchars
  · intro name
    rw [fill, hcut.fillFrom_eq]
    refine String.toList_injective ?_
    rw [String.toList_ofList, String.toList_intercalate, htoList]
  · intro name
    have hlength := hcut.length_fillFrom name.toList
    rw [String.length_toList, String.length_toList] at hlength
    rw [fill, String.length_ofList, hlength, List.length_map]
    rfl
  · show String.ofList (fillFrom mark 0 text.toList) = text
    rw [hcut.fillFrom_mark, String.ofList_toList]
  · intro hnone name
    exact fill_of_markless name hnone
  · rintro before after rfl hfirst name
    rw [fill_of_markless name hfirst.markless, fill, fill, String.toList_append,
      String.toList_append]
    show String.ofList (fillFrom name.toList 0 (before.toList ++ mark ++ after.toList)) = _
    rw [hfirst.fillFrom_eq]
    simp [String.append_assoc]

/-- The places of two marks that share a character are one place, and the name `%`, which makes up
a mark with what follows it, is not replaced. -/
theorem fill_between_pieces_overlapping :
    IsFirst "".toList "PLAYER_NAME%".toList ∧
      fill "%" "%PLAYER_NAME%PLAYER_NAME%" = "%PLAYER_NAME%" := by
  have hfirst : IsFirst "".toList "PLAYER_NAME%".toList := fun _ _ _ => Nat.zero_le _
  obtain ⟨-, -, -, -, -, -, -, -, hsplit⟩ := fill_between_pieces "%PLAYER_NAME%PLAYER_NAME%"
  obtain ⟨-, -, -, -, -, -, -, hnone, -⟩ := fill_between_pieces "PLAYER_NAME%"
  refine ⟨hfirst, ?_⟩
  rw [hsplit "" "PLAYER_NAME%" rfl hfirst "%", hnone (by decide) "%"]
  rfl

end VisualNovel.Placeholder
