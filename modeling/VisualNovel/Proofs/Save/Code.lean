import Mathlib.Probability.Distributions.Uniform
import VisualNovel.Proofs.Store.Ids

/-!
# Codes are drawn fairly

A code of a given length takes as many draws as it has letters, one for each of them
(`generate_append`), and codes that are made one after another take their draws one after another
(`series_flatten`): no draw has a say in two codes.

The letters of the alphabet are all different, so the draw can be told from its letter as long as it
is below the size of the alphabet, and the draws from the code (`bijOn_generate`).  Hence all codes
of a length are equally likely if the draws are independent and all numbers below the size of the
alphabet are equally likely for each of them, and no other text ever comes out (`randomCode_apply`).
-/

namespace VisualNovel.SaveCode

variable {size : Nat} {draws : List Nat} {c : Char} {code : String}

/-! ## The alphabet -/

theorem length_alphabet : alphabet.length = 62 := rfl

theorem nodup_alphabet : alphabet.Nodup := by decide +kernel

theorem mem_alphabet_iff : c ∈ alphabet ↔ c.isAlphanum = true := by
  constructor
  · intro hmem
    have hall : alphabet.all Char.isAlphanum = true := by decide +kernel
    exact List.all_eq_true.mp hall c hmem
  · intro halphanum
    exact Text.of_ascii (fun c => c.isAlphanum = true → c ∈ alphabet) (by decide +kernel)
      (Text.toNat_lt_of_isAlphanum halphanum) halphanum

/-- The letter of a draw that is not beyond the alphabet. -/
theorem letter_of_lt {draw : Nat}
    (hlt : draw < alphabet.length) : letter draw = alphabet[draw] := by
  rw [letter, Nat.mod_eq_of_lt hlt, List.getD_eq_getElem?_getD, List.getElem?_eq_getElem hlt,
    Option.getD_some]

theorem idxOf_letter {draw : Nat} (hlt : draw < alphabet.length) :
    alphabet.idxOf (letter draw) = draw := by
  rw [letter_of_lt hlt]
  exact nodup_alphabet.idxOf_getElem draw hlt

theorem letter_idxOf (hmem : c ∈ alphabet) : letter (alphabet.idxOf c) = c := by
  have hlt : alphabet.idxOf c < alphabet.length := List.idxOf_lt_length_iff.mpr hmem
  rw [letter_of_lt hlt, List.getElem_idxOf]

/-! ## Codes and draws -/

/-- Is the text a code of the length? -/
structure IsCode (size : Nat) (code : String) : Prop where
  length_eq : code.length = size
  mem_alphabet : ∀ c ∈ code.toList, c ∈ alphabet

theorem isCode_iff :
    IsCode size code ↔ code.length = size ∧ code.toList.all alphabet.contains = true := by
  simp only [List.all_eq_true, List.contains_iff_mem]
  exact ⟨fun hcode => ⟨hcode.length_eq, hcode.mem_alphabet⟩, fun hcode => ⟨hcode.1, hcode.2⟩⟩

instance (size : Nat) (code : String) : Decidable (IsCode size code) :=
  decidable_of_iff _ isCode_iff.symm

/-- Are these the draws for a code of the length, none of them beyond the alphabet? -/
structure IsDrawing (size : Nat) (draws : List Nat) : Prop where
  length_eq : draws.length = size
  lt : ∀ draw ∈ draws, draw < alphabet.length

theorem isDrawing_succ_iff {first : Nat} :
    IsDrawing (size + 1) (first :: draws) ↔ first < alphabet.length ∧ IsDrawing size draws := by
  constructor
  · rintro ⟨hlength, hlt⟩
    obtain ⟨hfirst, hrest⟩ := List.forall_mem_cons.mp hlt
    exact ⟨hfirst, Nat.succ.inj hlength, hrest⟩
  · rintro ⟨hfirst, hlength, hrest⟩
    exact ⟨congrArg Nat.succ hlength, List.forall_mem_cons.mpr ⟨hfirst, hrest⟩⟩

/-- The draws for a code. -/
def drawing (code : String) : List Nat := code.toList.map alphabet.idxOf

theorem isDrawing_drawing (hcode : IsCode size code) : IsDrawing size (drawing code) := by
  refine ⟨?_, fun draw hmem => ?_⟩
  · rw [drawing, List.length_map, String.length_toList, hcode.length_eq]
  · obtain ⟨c, hletter, rfl⟩ := List.mem_map.mp hmem
    exact List.idxOf_lt_length_iff.mpr (hcode.mem_alphabet c hletter)

/-! ## One code -/

theorem letters_append (draws rest : List Nat) :
    letters draws.length (draws ++ rest) = (draws.map letter, rest) := by
  induction draws with
  | nil => rfl
  | cons first others ih =>
      rw [List.length_cons, letters]
      simp only [List.cons_append, draw, ih, List.map_cons]

/-- A code takes as many draws as it has letters. -/
theorem generate_append (draws rest : List Nat) :
    generate draws.length (draws ++ rest) = (String.ofList (draws.map letter), rest) := by
  rw [generate, letters_append]

theorem generate_snd (size : Nat) (draws : List Nat) :
    (generate size draws).2 = draws.drop size := by
  show (letters size draws).2 = draws.drop size
  induction size generalizing draws with
  | zero => rfl
  | succ size ih =>
      show (letters size (draw draws).2).2 = _
      rw [ih]
      cases draws with
      | nil => exact List.drop_nil
      | cons first rest => rfl

theorem isCode_generate (size : Nat) (draws : List Nat) : IsCode size (generate size draws).1 := by
  have hletters : (generate size draws).1.toList = (letters size draws).1 := String.toList_ofList
  refine ⟨?_, fun c hmem => ?_⟩
  · rw [← String.length_toList, hletters, length_letters]
  · rw [hletters] at hmem
    exact mem_alphabet_of_mem_letters hmem

theorem generate_of_drawing (hdrawing : IsDrawing size draws) :
    (generate size draws).1 = String.ofList (draws.map letter) := by
  have hgenerate := generate_append draws []
  rw [List.append_nil, hdrawing.length_eq] at hgenerate
  rw [hgenerate]

theorem drawing_generate (hdrawing : IsDrawing size draws) :
    drawing (generate size draws).1 = draws := by
  rw [generate_of_drawing hdrawing, drawing, String.toList_ofList, List.map_map]
  have hdraws : draws.map (alphabet.idxOf ∘ letter) = draws.map id :=
    List.map_congr_left fun draw hmem => idxOf_letter (hdrawing.lt draw hmem)
  rw [hdraws, List.map_id]

theorem generate_drawing (hcode : IsCode size code) : (generate size (drawing code)).1 = code := by
  rw [generate_of_drawing (isDrawing_drawing hcode), drawing, List.map_map, ← String.toList_inj,
    String.toList_ofList]
  have hletters : code.toList.map (letter ∘ alphabet.idxOf) = code.toList.map id :=
    List.map_congr_left fun c hmem => letter_idxOf (hcode.mem_alphabet c hmem)
  rw [hletters, List.map_id]

/-- Every code comes from one way of drawing it. -/
theorem bijOn_generate (size : Nat) :
    Set.BijOn (fun draws => (generate size draws).1) {draws | IsDrawing size draws}
      {code | IsCode size code} := by
  have hinverse : Set.InvOn drawing (fun draws => (generate size draws).1)
      {draws | IsDrawing size draws} {code | IsCode size code} :=
    ⟨fun _ hdrawing => drawing_generate hdrawing, fun _ hcode => generate_drawing hcode⟩
  exact hinverse.bijOn (fun draws _ => isCode_generate size draws)
    fun _ hcode => isDrawing_drawing hcode

-- beyond the alphabet the letters start over, and then the draws cannot be told from the code
example : generate 2 [0, 62] = generate 2 [62, 0] := by decide

/-! ## Codes one after another -/

/-- Codes of several lengths, made one after another. -/
def series (sizes : List Nat) : StateM (List Nat) (List String) :=
  sizes.mapM fun size => (fun draws => generate size draws : StateM (List Nat) String)

theorem run_series_cons (size : Nat) (sizes draws : List Nat) :
    (series (size :: sizes)).run draws =
      ((generate size draws).1 :: ((series sizes).run (generate size draws).2).1,
        ((series sizes).run (generate size draws).2).2) := by
  rw [series, List.mapM_cons]
  rfl

/-- Every code of a series comes from draws of its own, and these follow the draws for the code
before it. -/
theorem series_flatten (drawings : List (List Nat)) (rest : List Nat) :
    (series (drawings.map List.length)).run (drawings.flatten ++ rest) =
      (drawings.map fun draws => String.ofList (draws.map letter), rest) := by
  induction drawings with
  | nil => rfl
  | cons first others ih =>
      rw [List.map_cons, run_series_cons, List.flatten_cons, List.append_assoc, generate_append, ih]
      rfl

/-! ## Fair draws -/

/-- One draw, each number below the size of the alphabet being equally likely. -/
noncomputable def fairDraw : PMF Nat :=
  PMF.uniformOfFinset (Finset.range alphabet.length)
    (Finset.nonempty_range_iff.mpr (Nat.succ_ne_zero 61))

/-- Draws that have nothing to do with one another. -/
noncomputable def fairDraws : Nat → PMF (List Nat)
  | 0 => PMF.pure []
  | size + 1 => fairDraw.bind fun first => (fairDraws size).map (first :: ·)

/-- The code of a length that fair draws bring. -/
noncomputable def randomCode (size : Nat) : PMF String :=
  (fairDraws size).map fun draws => (generate size draws).1

theorem fairDraw_of_lt {draw : Nat} (hlt : draw < alphabet.length) :
    fairDraw draw = (62 : ENNReal)⁻¹ := by
  rw [fairDraw, PMF.uniformOfFinset_apply_of_mem _ (Finset.mem_range.mpr hlt), Finset.card_range,
    length_alphabet]
  rfl

theorem mem_support_fairDraw_iff {draw : Nat} :
    draw ∈ fairDraw.support ↔ draw < alphabet.length := by
  rw [fairDraw, PMF.mem_support_uniformOfFinset_iff, Finset.mem_range]

theorem mem_support_fairDraws_iff : draws ∈ (fairDraws size).support ↔ IsDrawing size draws := by
  induction size generalizing draws with
  | zero =>
      rw [fairDraws, PMF.mem_support_pure_iff]
      constructor
      · rintro rfl
        exact ⟨rfl, List.forall_mem_nil _⟩
      · rintro ⟨hlength, -⟩
        exact List.length_eq_zero_iff.mp hlength
  | succ size ih =>
      rw [fairDraws, PMF.mem_support_bind_iff]
      simp only [PMF.mem_support_map_iff, mem_support_fairDraw_iff, ih]
      constructor
      · rintro ⟨first, hfirst, others, hothers, rfl⟩
        exact isDrawing_succ_iff.mpr ⟨hfirst, hothers⟩
      · intro hdrawing
        cases draws with
        | nil => cases hdrawing.length_eq
        | cons first others =>
            obtain ⟨hfirst, hothers⟩ := isDrawing_succ_iff.mp hdrawing
            exact ⟨first, hfirst, others, hothers, rfl⟩

section

variable {α β : Type} {source : PMF α} {outcome : α}

/-- A value that can follow one outcome only is as likely as this outcome and then the value. -/
theorem bind_apply_of_only {next : α → PMF β} {value : β}
    (honly : ∀ other ∈ source.support, value ∈ (next other).support → other = outcome) :
    (source.bind next) value = source outcome * next outcome value := by
  rw [PMF.bind_apply, tsum_eq_single outcome]
  intro other hne
  by_cases hother : other ∈ source.support
  · rw [(PMF.apply_eq_zero_iff _ _).mpr fun hvalue => hne (honly other hother hvalue), mul_zero]
  · rw [(PMF.apply_eq_zero_iff _ _).mpr hother, zero_mul]

/-- A value that comes from one outcome only is as likely as this outcome. -/
theorem map_apply_of_injOn {f : α → β} (hinjective : Set.InjOn f source.support)
    (hmem : outcome ∈ source.support) : (source.map f) (f outcome) = source outcome := by
  have honly : ∀ other ∈ source.support, f outcome ∈ ((PMF.pure ∘ f) other).support →
      other = outcome := fun other hother hsame =>
    hinjective hother hmem ((PMF.mem_support_pure_iff _ _).mp hsame).symm
  rw [← PMF.bind_pure_comp, bind_apply_of_only honly, Function.comp_apply, PMF.pure_apply_self,
    mul_one]

end

theorem fairDraws_apply (hdrawing : IsDrawing size draws) :
    fairDraws size draws = ((62 : ENNReal) ^ size)⁻¹ := by
  induction size generalizing draws with
  | zero =>
      rw [List.length_eq_zero_iff.mp hdrawing.length_eq, fairDraws, PMF.pure_apply_self, pow_zero,
        inv_one]
  | succ size ih =>
      cases draws with
      | nil => cases hdrawing.length_eq
      | cons first others =>
          obtain ⟨hfirst, hothers⟩ := isDrawing_succ_iff.mp hdrawing
          have honly : ∀ other ∈ fairDraw.support,
              first :: others ∈ ((fairDraws size).map (other :: ·)).support → other = first := by
            intro other _ hmem
            obtain ⟨_, -, heq⟩ := PMF.mem_support_map_iff _ _ _ |>.mp hmem
            exact (List.cons.inj heq).1
          have hrest : ((fairDraws size).map (first :: ·)) (first :: others) =
              fairDraws size others :=
            map_apply_of_injOn List.cons_injective.injOn (mem_support_fairDraws_iff.mpr hothers)
          calc fairDraws (size + 1) (first :: others)
              = fairDraw first * fairDraws size others := by
                rw [fairDraws, bind_apply_of_only honly, hrest]
            _ = (62 : ENNReal)⁻¹ * ((62 : ENNReal) ^ size)⁻¹ := by
                rw [fairDraw_of_lt hfirst, ih hothers]
            _ = ((62 : ENNReal) ^ (size + 1))⁻¹ := by
                rw [pow_succ', ENNReal.mul_inv (Or.inl (by norm_num)) (Or.inl (by norm_num))]

/-- All codes of a length are equally likely, and nothing else comes out. -/
theorem randomCode_apply (size : Nat) (code : String) :
    randomCode size code = if IsCode size code then ((62 : ENNReal) ^ size)⁻¹ else 0 := by
  split_ifs with hcode
  · have hdrawing := isDrawing_drawing hcode
    have hinjective : Set.InjOn (fun draws => (generate size draws).1) (fairDraws size).support :=
      (bijOn_generate size).injOn.mono fun draws hmem => mem_support_fairDraws_iff.mp hmem
    have hsame := map_apply_of_injOn hinjective (mem_support_fairDraws_iff.mpr hdrawing)
    rw [generate_drawing hcode, fairDraws_apply hdrawing] at hsame
    exact hsame
  · rw [randomCode, PMF.apply_eq_zero_iff, PMF.mem_support_map_iff]
    rintro ⟨draws, -, rfl⟩
    exact hcode (isCode_generate size draws)

end VisualNovel.SaveCode
