import VisualNovel.Proofs.Json.Doubles
import VisualNovel.Proofs.Json.Strings
import VisualNovel.Record.Scalar

/-!
# Spellings of whole numbers

A whole number can be spelled in many ways: with white space around it, with a plus sign, with zeros
in front, with single underscores between its digits, and with a fraction of zeros.  Whatever the
spelling is, the number is read (`Spelling.lenient_eq`), if the digits after the zeros in front are
not too many.

A reader that is strict is asked first.  It knows the plain spelling only, and finds the others
malformed, so that they are cleaned then.
-/

namespace VisualNovel

/-! ## Trimming -/

/-- What begins and ends with other characters is left when white space is taken off. -/
theorem Text.trimmed_append {class? : Char → Bool} {before inner after : List Char}
    (hbefore : ∀ c ∈ before, class? c = true) (hafter : ∀ c ∈ after, class? c = true)
    (hfirst : ∀ c ∈ inner.head?, class? c = false) (hlast : ∀ c ∈ inner.getLast?, class? c = false)
    (hsome : inner ≠ []) : trimmed class? (before ++ inner ++ after) = inner := by
  have hdrop : ∀ {blank text : List Char}, (∀ c ∈ blank, class? c = true) → text ≠ [] →
      (∀ c ∈ text.head?, class? c = false) → (blank ++ text).dropWhile class? = text := by
    intro blank text hblank htext hhead
    obtain ⟨c, rest, rfl⟩ := List.exists_cons_of_ne_nil htext
    rw [List.dropWhile_append_of_pos hblank, List.dropWhile_cons_of_neg]
    rw [hhead c rfl]
    exact Bool.false_ne_true
  have hhead : ∀ c ∈ (inner ++ after).head?, class? c = false := by
    intro c hmem
    rw [List.head?_append_of_ne_nil _ hsome] at hmem
    exact hfirst c hmem
  rw [trimmed, List.append_assoc, hdrop hbefore (List.append_ne_nil_of_left_ne_nil hsome _) hhead,
    List.reverse_append, hdrop (fun c hmem => hafter c (List.mem_reverse.mp hmem))
      (List.reverse_ne_nil_iff.mpr hsome) (by rwa [List.head?_reverse]), List.reverse_reverse]

namespace Numeral

/-! ## Groups of digits -/

/-- Are these the digits of the text, with single underscores between some of them? -/
inductive Grouped : List Char → List Char → Prop
  | digit {c : Char} (hdigit : c.isDigit = true) : Grouped [c] [c]
  | next {c : Char} {text digits : List Char} (hdigit : c.isDigit = true)
      (hrest : Grouped text digits) : Grouped (c :: text) (c :: digits)
  | group {c : Char} {text digits : List Char} (hdigit : c.isDigit = true)
      (hrest : Grouped text digits) : Grouped (c :: '_' :: text) (c :: digits)

theorem ne_of_isDigit {c other : Char} (hdigit : c.isDigit = true)
    (hother : other.isDigit = false) : c ≠ other := by
  rintro rfl
  rw [hdigit] at hother
  cases hother

theorem bounds_of_isDigit {c : Char} (hdigit : c.isDigit = true) :
    48 ≤ c.toNat ∧ c.toNat ≤ 57 := by
  unfold Char.isDigit at hdigit
  rw [Bool.and_eq_true, decide_eq_true_eq, decide_eq_true_eq] at hdigit
  exact ⟨UInt32.le_iff_toNat_le.mp hdigit.1, UInt32.le_iff_toNat_le.mp hdigit.2⟩

theorem isWhiteSpace_of_isDigit {c : Char} (hdigit : c.isDigit = true) :
    Text.isWhiteSpace c = false := by
  have hbounds := bounds_of_isDigit hdigit
  simp only [Text.isWhiteSpace, Bool.or_eq_false_iff, Bool.and_eq_false_iff,
    decide_eq_false_iff_not, beq_eq_false_iff_ne]
  omega

theorem unit?_of_lt {c : Char} (hlt : c.toNat < Text.unitOffset) : Text.unit? c = none := by
  cases hunit : Text.unit? c with
  | none => rfl
  | some unit =>
      have hcode := (Text.of_unit?_eq_some hunit).2
      omega

theorem unit?_of_isDigit {c : Char} (hdigit : c.isDigit = true) : Text.unit? c = none := by
  have hbounds := bounds_of_isDigit hdigit
  have hplane : Text.unitOffset = 0xd0000 := rfl
  exact unit?_of_lt (by omega)

theorem unit?_of_isWhiteSpace {c : Char} (hwhite : Text.isWhiteSpace c = true) :
    Text.unit? c = none := by
  have hplane : Text.unitOffset = 0xd0000 := rfl
  refine unit?_of_lt (Nat.lt_of_not_le fun hle => ?_)
  have hblack : Text.isWhiteSpace c = false := by
    simp only [Text.isWhiteSpace, Bool.or_eq_false_iff, Bool.and_eq_false_iff,
      decide_eq_false_iff_not, beq_eq_false_iff_ne]
    omega
  rw [hblack] at hwhite
  cases hwhite

namespace Grouped

variable {text digits : List Char}

theorem head?_isDigit (hgrouped : Grouped text digits) :
    ∃ c rest, text = c :: rest ∧ c.isDigit = true := by
  cases hgrouped with
  | digit hdigit => exact ⟨_, _, rfl, hdigit⟩
  | next hdigit _ => exact ⟨_, _, rfl, hdigit⟩
  | group hdigit _ => exact ⟨_, _, rfl, hdigit⟩

theorem getLast?_isDigit (hgrouped : Grouped text digits) :
    ∀ c ∈ text.getLast?, c.isDigit = true := by
  induction hgrouped with
  | digit hdigit =>
      rintro c ⟨⟩
      exact hdigit
  | next _ hrest ih =>
      obtain ⟨first, rest, rfl, -⟩ := hrest.head?_isDigit
      rwa [List.getLast?_cons_cons]
  | group _ hrest ih =>
      obtain ⟨first, rest, rfl, -⟩ := hrest.head?_isDigit
      rwa [List.getLast?_cons_cons, List.getLast?_cons_cons]

theorem isDigit (hgrouped : Grouped text digits) : ∀ c ∈ digits, c.isDigit = true := by
  induction hgrouped with
  | digit hdigit => exact List.forall_mem_singleton.mpr hdigit
  | next hdigit _ ih => exact List.forall_mem_cons.mpr ⟨hdigit, ih⟩
  | group hdigit _ ih => exact List.forall_mem_cons.mpr ⟨hdigit, ih⟩

theorem mem_text (hgrouped : Grouped text digits) : ∀ c ∈ text, c.isDigit = true ∨ c = '_' := by
  induction hgrouped with
  | digit hdigit => exact List.forall_mem_singleton.mpr (.inl hdigit)
  | next hdigit _ ih => exact List.forall_mem_cons.mpr ⟨.inl hdigit, ih⟩
  | group hdigit _ ih =>
      exact List.forall_mem_cons.mpr ⟨.inl hdigit, List.forall_mem_cons.mpr ⟨.inr rfl, ih⟩⟩

theorem filter_eq (hgrouped : Grouped text digits) : text.filter (· != '_') = digits := by
  have hkeep : ∀ {c : Char} {rest : List Char}, c.isDigit = true →
      (c :: rest).filter (· != '_') = c :: rest.filter (· != '_') := fun hdigit =>
    List.filter_cons_of_pos (bne_iff_ne.mpr (ne_of_isDigit hdigit rfl))
  induction hgrouped with
  | digit hdigit => exact hkeep hdigit
  | next hdigit _ ih => rw [hkeep hdigit, ih]
  | group hdigit _ ih => rw [hkeep hdigit, List.filter_cons_of_neg (by decide), ih]

theorem hasUnderscores_eq (hgrouped : Grouped text digits) : hasUnderscores text = false := by
  have hskip : ∀ {c : Char} {rest : List Char}, c ≠ '_' →
      hasUnderscores (c :: rest) = hasUnderscores rest := by
    intro c rest hne
    cases rest <;> simp [hasUnderscores, hne]
  induction hgrouped with
  | digit => rfl
  | next hdigit _ ih => rw [hskip (ne_of_isDigit hdigit rfl), ih]
  | group hdigit hrest ih =>
      obtain ⟨first, rest, rfl, hfirst⟩ := hrest.head?_isDigit
      have hne : (first == '_') = false := beq_eq_false_iff_ne.mpr (ne_of_isDigit hfirst rfl)
      rw [hskip (ne_of_isDigit hdigit rfl), hasUnderscores, hne, Bool.and_false, ih]
      rfl

/-- Without its underscores, the text is its digits. -/
theorem getD_ungrouped? (hgrouped : Grouped text digits) :
    (ungrouped? text).getD text = digits := by
  obtain ⟨first, rest, htext, hfirst⟩ := hgrouped.head?_isDigit
  have hhead : (text.head? != some '_') = true := by
    rw [htext, List.head?_cons, bne_iff_ne, ne_eq, Option.some.injEq]
    exact ne_of_isDigit hfirst rfl
  have hlast : (text.getLast? != some '_') = true := by
    rw [bne_iff_ne]
    intro hunderscore
    have hdigit := hgrouped.getLast?_isDigit '_' hunderscore
    cases hdigit
  rw [ungrouped?, hhead, hlast, hgrouped.hasUnderscores_eq]
  by_cases hmem : '_' ∈ text
  · simp [hmem, hgrouped.filter_eq]
  · have hsame : text.filter (· != '_') = text := List.filter_eq_self.mpr fun c hc =>
      bne_iff_ne.mpr fun heq => hmem (heq ▸ hc)
    simp [hmem, ← hgrouped.filter_eq, hsame]

/-- The digits before the first underscore are the first digits. -/
theorem exists_run (hgrouped : Grouped text digits) :
    ∃ run rest, text = run ++ rest ∧ (∀ c ∈ run, c.isDigit = true) ∧ Stops rest ∧
      run.head? = digits.head? ∧ run.length ≤ digits.length ∧ (rest = [] → run = digits) := by
  induction hgrouped with
  | @digit c hdigit =>
      exact ⟨[c], [], rfl, List.forall_mem_singleton.mpr hdigit, by simp [Stops], rfl, le_rfl,
        fun _ => rfl⟩
  | @next c text digits hdigit _ ih =>
      obtain ⟨run, rest, rfl, hrun, hstops, -, hlength, hall⟩ := ih
      refine ⟨c :: run, rest, rfl, List.forall_mem_cons.mpr ⟨hdigit, hrun⟩, hstops, rfl,
        Nat.succ_le_succ hlength, fun hrest => ?_⟩
      rw [hall hrest]
  | @group c text digits hdigit _ _ =>
      exact ⟨[c], '_' :: text, rfl, List.forall_mem_singleton.mpr hdigit, stops_cons rfl _, rfl,
        Nat.succ_le_succ (Nat.zero_le _), nofun⟩

end Grouped

/-! ## Fractions of zeros -/

/-- A point and zeros, or nothing. -/
def emptyFraction : Nat → List Char
  | 0 => []
  | zeros + 1 => '.' :: List.replicate (zeros + 1) '0'

theorem mem_emptyFraction {zeros : Nat} {c : Char} (hmem : c ∈ emptyFraction zeros) :
    c = '.' ∨ c = '0' := by
  cases zeros with
  | zero => cases hmem
  | succ zeros => simpa [emptyFraction] using hmem

theorem stops_emptyFraction_append (zeros : Nat) {rest : List Char} (hstops : Stops rest) :
    Stops (emptyFraction zeros ++ rest) := by
  cases zeros with
  | zero => exact hstops
  | succ zeros => exact stops_cons rfl _

theorem withoutFraction_append {text : List Char} (htext : '.' ∉ text) (zeros : Nat) :
    withoutFraction (text ++ emptyFraction zeros) = text := by
  have hkeep : ∀ c ∈ text, (c != '.') = true := fun c hmem =>
    bne_iff_ne.mpr fun heq => htext (heq ▸ hmem)
  have hspan : (text ++ emptyFraction zeros).span (· != '.') = (text, emptyFraction zeros) := by
    rw [List.span_eq_takeWhile_dropWhile, List.takeWhile_append_of_pos hkeep,
      List.dropWhile_append_of_pos hkeep]
    cases zeros <;> simp [emptyFraction]
  rw [withoutFraction, hspan]
  cases zeros with
  | zero => exact List.append_nil _
  | succ zeros => simp [emptyFraction]

/-! ## Zeros in front -/

/-- Zeros in front of grouped digits are left out, with the underscores between them.  The last of
them stays if there is nothing else. -/
theorem Grouped.skip_eq {text digits : List Char} (hgrouped : Grouped text digits) (zeros : Nat)
    (last : Char) :
    ∃ kept significant skipped,
      withoutZeros?.skip last (text ++ emptyFraction zeros) = some (kept ++ emptyFraction zeros) ∧
        Grouped kept significant ∧ IsWhole significant ∧
          digits = List.replicate skipped '0' ++ significant := by
  -- what begins with another digit is kept as it is
  have hstay : ∀ {c : Char} {rest : List Char} {digits : List Char}, Grouped (c :: rest) digits →
      digits.head? = some c → c.isDigit = true → c ≠ '0' → ∀ last,
        ∃ kept significant skipped,
          withoutZeros?.skip last (c :: rest ++ emptyFraction zeros) =
              some (kept ++ emptyFraction zeros) ∧
            Grouped kept significant ∧ IsWhole significant ∧
              digits = List.replicate skipped '0' ++ significant := by
    intro c rest digits hgrouped hhead hdigit hzero last
    refine ⟨c :: rest, digits, 0, ?_, hgrouped, ⟨?_, hgrouped.isDigit, ?_⟩, rfl⟩
    · have hskip : ¬ (c = '0' ∨ c = '_') := not_or.mpr ⟨hzero, ne_of_isDigit hdigit rfl⟩
      rw [List.cons_append, withoutZeros?.skip, if_neg hskip, hdigit, Bool.true_or, if_pos rfl]
    · rintro rfl
      cases hhead
    · intro hzero'
      rw [hhead, Option.some.injEq] at hzero'
      exact absurd hzero' hzero
  induction hgrouped generalizing last with
  | @digit c hdigit =>
      by_cases hzero : c = '0'
      · subst hzero
        refine ⟨['0'], ['0'], 0, ?_, .digit hdigit, isWhole_zero, rfl⟩
        cases zeros <;> rfl
      · exact hstay (.digit hdigit) rfl hdigit hzero last
  | @next c text digits hdigit hrest ih =>
      by_cases hzero : c = '0'
      · subst hzero
        obtain ⟨kept, significant, skipped, hskip, hkept, hwhole, hdigits⟩ := ih '0'
        refine ⟨kept, significant, skipped + 1, hskip, hkept, hwhole, ?_⟩
        rw [hdigits]
        rfl
      · exact hstay (.next hdigit hrest) rfl hdigit hzero last
  | @group c text digits hdigit hrest ih =>
      by_cases hzero : c = '0'
      · subst hzero
        obtain ⟨kept, significant, skipped, hskip, hkept, hwhole, hdigits⟩ := ih '_'
        refine ⟨kept, significant, skipped + 1, hskip, hkept, hwhole, ?_⟩
        rw [hdigits]
        rfl
      · exact hstay (.group hdigit hrest) rfl hdigit hzero last

theorem withoutZeros?_of_isDigit {c : Char} (hdigit : c.isDigit = true) (rest : List Char) :
    withoutZeros? (c :: rest) = withoutZeros?.skip c (c :: rest) := by
  rw [withoutZeros?, withoutZeros?.skip]
  by_cases hzero : c = '0'
  · rw [if_pos hzero, if_pos (Or.inl hzero)]
  · rw [if_neg hzero, if_neg (not_or.mpr ⟨hzero, ne_of_isDigit hdigit rfl⟩)]
    simp [hdigit]

/-! ## Strict reading -/

/-- The sign of a number in its plain spelling. -/
def minus (negative : Bool) : List Char := if negative then ['-'] else []

/-- The number with a sign and a size. -/
def signed (negative : Bool) (size : Nat) : Int := if negative then -(size : Int) else size

theorem strict_of_not_digit {c : Char} (hdigit : c.isDigit = false) (hsign : c ≠ '-')
    (rest : List Char) : strict (c :: rest) = .malformed := by
  have hzero : c ≠ '0' := by
    rintro rfl
    cases hdigit
  have hspan : spanDigits (c :: rest) = ([], c :: rest) :=
    spanDigits_append (List.forall_mem_nil _) (stops_cons hdigit rest)
  simp [strict, hsign, hzero, hspan]

theorem strict_zero (negative : Bool) (rest : List Char) :
    strict (minus negative ++ '0' :: rest) = if rest = [] then .whole 0 else .malformed := by
  cases negative <;> cases rest <;> simp [strict, minus]

/-- Digits of which the first is no zero are read, unless they are too many or something follows. -/
theorem strict_digits (negative : Bool) {digits rest : List Char} {c : Char}
    (hhead : digits.head? = some c) (hzero : c ≠ '0')
    (hdigits : ∀ c ∈ digits, c.isDigit = true) (hstops : Stops rest) :
    strict (minus negative ++ (digits ++ rest)) =
      if digitLimit < digits.length + (minus negative).length then .tooLong
      else if rest = [] then .whole (signed negative (value digits)) else .malformed := by
  have hspan := spanDigits_append hdigits hstops
  obtain ⟨others, rfl⟩ : ∃ others, digits = c :: others := by
    cases digits with
    | nil => cases hhead
    | cons first others =>
        cases hhead
        exact ⟨others, rfl⟩
  have hsign : c ≠ '-' := ne_of_isDigit (hdigits c (List.mem_cons_self ..)) rfl
  rw [List.cons_append] at hspan ⊢
  cases negative <;> simp [strict, minus, signed, hzero, hsign, hspan]

theorem strict_of_isWhole (negative : Bool) {digits : List Char} (hwhole : IsWhole digits)
    (hshort : (digits.dropWhile (· = '0')).length + (minus negative).length ≤ digitLimit) :
    strict (minus negative ++ digits) = .whole (signed negative (value digits)) := by
  obtain ⟨c, others, rfl⟩ := List.exists_cons_of_ne_nil hwhole.nonempty
  by_cases hzero : c = '0'
  · subst hzero
    rw [hwhole.eq_zero rfl, strict_zero, if_pos rfl]
    cases negative <;> rfl
  · rw [List.dropWhile_cons_of_neg (by simpa using hzero)] at hshort
    have hstops : Stops [] := by simp [Stops]
    have hread := strict_digits negative rfl hzero hwhole.isDigit hstops
    rwa [List.append_nil, if_neg (Nat.not_lt.mpr hshort), if_pos rfl] at hread

/-! ## All spellings -/

/-- A spelling of a whole number: white space around a sign, if there is one, grouped digits, and a
fraction of so many zeros. -/
structure Spelling where
  before : List Char
  sign : List Char
  grouped : List Char
  digits : List Char
  zeros : Nat
  after : List Char
  before_blank : ∀ c ∈ before, Text.isWhiteSpace c = true
  sign_cases : sign = [] ∨ sign = ['+'] ∨ sign = ['-']
  isGrouped : Grouped grouped digits
  after_blank : ∀ c ∈ after, Text.isWhiteSpace c = true
  /-- Zeros in front do not count, and a minus sign does. -/
  short : (digits.dropWhile (· = '0')).length + (minus (sign = ['-'])).length ≤ digitLimit

namespace Spelling

/-- The text of a spelling. -/
def text (spelling : Spelling) : List Char :=
  spelling.before ++ (spelling.sign ++ (spelling.grouped ++ emptyFraction spelling.zeros)) ++
    spelling.after

/-- The number that is spelled. -/
def number (spelling : Spelling) : Int :=
  signed (spelling.sign = ['-']) (value spelling.digits)

variable (spelling : Spelling)

theorem trimmed_text : Text.trimmed Text.isWhiteSpace spelling.text =
    spelling.sign ++ (spelling.grouped ++ emptyFraction spelling.zeros) := by
  obtain ⟨c, rest, hgrouped, hdigit⟩ := spelling.isGrouped.head?_isDigit
  refine Text.trimmed_append spelling.before_blank spelling.after_blank ?_ ?_ ?_
  · rw [hgrouped]
    rcases spelling.sign_cases with hsign | hsign | hsign <;> rw [hsign]
    · rintro _ ⟨⟩
      exact isWhiteSpace_of_isDigit hdigit
    · rintro _ ⟨⟩
      decide
    · rintro _ ⟨⟩
      decide
  · have hlast := spelling.isGrouped.getLast?_isDigit
    have hsome : spelling.grouped ≠ [] := by
      rw [hgrouped]
      exact List.cons_ne_nil _ _
    rw [List.getLast?_append_of_ne_nil _ (List.append_ne_nil_of_left_ne_nil hsome _)]
    cases spelling.zeros with
    | zero =>
        rw [emptyFraction, List.append_nil]
        exact fun c hmem => isWhiteSpace_of_isDigit (hlast c hmem)
    | succ zeros =>
        rw [emptyFraction, List.getLast?_append_of_ne_nil _ (List.cons_ne_nil _ _)]
        intro c hmem
        have hzero : c ∈ emptyFraction (zeros + 1) := List.mem_of_getLast? hmem
        rcases mem_emptyFraction hzero with rfl | rfl <;> decide
  · rw [hgrouped]
    exact List.append_ne_nil_of_right_ne_nil _ (List.cons_ne_nil _ _)

theorem cleaned?_text : ∃ significant skipped,
    cleaned? spelling.text = some (minus (spelling.sign = ['-']) ++ significant) ∧
      IsWhole significant ∧ spelling.digits = List.replicate skipped '0' ++ significant := by
  obtain ⟨c, rest, hgrouped, hdigit⟩ := spelling.isGrouped.head?_isDigit
  obtain ⟨kept, significant, skipped, hskip, hkept, hwhole, hdigits⟩ :=
    spelling.isGrouped.skip_eq spelling.zeros c
  refine ⟨significant, skipped, ?_, hwhole, hdigits⟩
  have hpoint : '.' ∉ kept := fun hmem => by
    rcases hkept.mem_text _ hmem with hdigit | hunderscore
    · cases hdigit
    · cases hunderscore
  have hzeros : withoutZeros? (spelling.grouped ++ emptyFraction spelling.zeros) =
      some (kept ++ emptyFraction spelling.zeros) := by
    rw [hgrouped] at hskip ⊢
    rw [List.cons_append] at hskip ⊢
    rw [withoutZeros?_of_isDigit hdigit, hskip]
  have hplus : c ≠ '+' := ne_of_isDigit hdigit rfl
  have hminus : c ≠ '-' := ne_of_isDigit hdigit rfl
  have hcleaned : ((withoutZeros? (spelling.grouped ++ emptyFraction spelling.zeros)).map
      fun digits => (ungrouped? (withoutFraction digits)).getD (withoutFraction digits)) =
        some significant := by
    rw [hzeros, Option.map_some, withoutFraction_append hpoint, hkept.getD_ungrouped?]
  rw [hgrouped] at hcleaned
  rw [cleaned?, trimmed_text, hgrouped]
  rcases spelling.sign_cases with hsign | hsign | hsign <;> rw [hsign]
  · simpa [minus, hplus, hminus] using hcleaned
  · simpa [minus, hplus, hminus] using hcleaned
  · simpa [minus] using hcleaned

/-- A strict reader finds the number or nothing that is well formed, if the spelling begins with a
minus sign or a digit. -/
theorem strict_grouped (negative : Bool) {grouped digits after : List Char}
    (hgrouped : Grouped grouped digits) (hstops : Stops after)
    (hshort : (digits.dropWhile (· = '0')).length + (minus negative).length ≤ digitLimit) :
    strict (minus negative ++ (grouped ++ after)) = .malformed ∨
      strict (minus negative ++ (grouped ++ after)) = .whole (signed negative (value digits)) := by
  obtain ⟨c, others, rfl⟩ : ∃ c others, digits = c :: others := by
    cases hgrouped <;> exact ⟨_, _, rfl⟩
  obtain ⟨run, rest, rfl, hrun, hrest, hhead, hlength, hall⟩ := hgrouped.exists_run
  -- after a leading zero the strict reader takes nothing but the end
  by_cases hzero : c = '0'
  · subst hzero
    obtain ⟨more, rfl⟩ : ∃ more, run = '0' :: more := by
      cases run with
      | nil => cases hhead
      | cons first more =>
          cases hhead
          exact ⟨more, rfl⟩
    rw [List.cons_append, List.cons_append, strict_zero]
    split_ifs with hnothing
    · right
      obtain ⟨hmore, -⟩ := List.append_eq_nil_iff.mp hnothing
      obtain ⟨rfl, hrest'⟩ := List.append_eq_nil_iff.mp hmore
      rw [← hall hrest']
      cases negative <;> rfl
    · exact .inl rfl
  · have hstops' : Stops (rest ++ after) := by
      cases rest with
      | nil => exact hstops
      | cons first more => exact stops_cons (hrest first rfl) _
    rw [List.dropWhile_cons_of_neg (by simpa using hzero)] at hshort
    rw [List.append_assoc, strict_digits negative hhead hzero hrun hstops', if_neg (by omega)]
    split_ifs with hnothing
    · right
      rw [hall (List.append_eq_nil_iff.mp hnothing).1]
    · exact .inl rfl

theorem strict_text :
    strict spelling.text = .malformed ∨ strict spelling.text = .whole spelling.number := by
  have hwhite : ∀ {c : Char}, Text.isWhiteSpace c = true → c.isDigit = false := by
    intro c hwhite
    by_contra hdigit
    rw [isWhiteSpace_of_isDigit (eq_true_of_ne_false hdigit)] at hwhite
    cases hwhite
  -- neither white space nor a plus sign gets through the strict reader
  cases hbefore : spelling.before with
  | cons c rest =>
      have hblank := spelling.before_blank c (hbefore ▸ List.mem_cons_self ..)
      have hminus : c ≠ '-' := by
        rintro rfl
        cases hblank
      left
      rw [text, hbefore, List.cons_append, List.cons_append]
      exact strict_of_not_digit (hwhite hblank) hminus _
  | nil =>
      have hstops : Stops (emptyFraction spelling.zeros ++ spelling.after) := by
        refine stops_emptyFraction_append _ fun c hmem => hwhite (spelling.after_blank c ?_)
        exact List.mem_of_mem_head? hmem
      have hread := strict_grouped (spelling.sign = ['-']) spelling.isGrouped hstops spelling.short
      rw [text, number, hbefore, List.nil_append, List.append_assoc, List.append_assoc]
      rcases spelling.sign_cases with hsign | hsign | hsign
      · simpa [hsign, minus] using hread
      · left
        rw [hsign]
        exact strict_of_not_digit rfl (by decide) _
      · simpa [hsign, minus] using hread

/-- **The number of a spelling is read.** -/
theorem lenient_eq : lenient spelling.text = .whole spelling.number := by
  obtain ⟨significant, skipped, hcleaned, hwhole, hdigits⟩ := spelling.cleaned?_text
  rcases spelling.strict_text with hstrict | hstrict
  · have hshort := spelling.short
    have hvalue : value spelling.digits = value significant := by
      rw [hdigits, value_zeros_append]
    rw [hdigits, List.dropWhile_append_of_pos (by simp)] at hshort
    rw [lenient, hstrict, hcleaned]
    show (strict _) = _
    rw [strict_of_isWhole _ hwhole hshort, number, hvalue]
  · rw [lenient, hstrict]

theorem isEncodable_text : Text.isEncodable (String.ofList spelling.text) = true := by
  have hunit : ∀ c ∈ spelling.text, Text.unit? c = none := by
    intro c hmem
    rw [text, List.mem_append, List.mem_append, List.mem_append, List.mem_append] at hmem
    rcases hmem with (hbefore | hsign | hgrouped | hzeros) | hafter
    · exact unit?_of_isWhiteSpace (spelling.before_blank c hbefore)
    · rcases spelling.sign_cases with heq | heq | heq <;> rw [heq] at hsign
      · cases hsign
      · rw [List.mem_singleton.mp hsign]
        rfl
      · rw [List.mem_singleton.mp hsign]
        rfl
    · rcases spelling.isGrouped.mem_text c hgrouped with hdigit | rfl
      · exact unit?_of_isDigit hdigit
      · rfl
    · rcases mem_emptyFraction hzeros with rfl | rfl <;> rfl
    · exact unit?_of_isWhiteSpace (spelling.after_blank c hafter)
  rw [Text.isEncodable, String.toList_ofList, List.all_eq_true]
  intro c hmem
  rw [hunit c hmem]
  rfl

end Spelling

end Numeral

end VisualNovel
