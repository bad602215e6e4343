import Mathlib.Data.Char
import Std.Data.String.ToInt
import VisualNovel.Proofs.Json.Readings
import VisualNovel.Proofs.Record.Spelling
import VisualNovel.Proofs.Store.Lines

/-!
# Script lines in the order of their ids

The id of a script line is the numeral of its number, filled up with zeros to five places.  It is
still a numeral of this number (`DocumentId.toInt?_ofOrder`), so no two numbers have one id, and an
id is a key whatever the number is.

Documents are read in the order of the names of their files, which are texts.  Of two numerals with
equally many digits the one of the smaller number comes first, and among the numbers of at most five
digits this is so of all ids (`DocumentId.documentName_lt`).  Hence a script with such numbers is
read in their order, in whatever order it was saved (`Store.numbers_match_ids`).
-/

namespace VisualNovel

/-! ## Numerals with equally many digits -/

namespace Numeral

variable {first second : List Char}

theorem value_cons (c : Char) (digits : List Char) :
    value (c :: digits) = 10 ^ digits.length * (c.toNat - '0'.toNat) + value digits := by
  rw [value, Nat.ofDigitChars_cons, Nat.ofDigitChars_eq_ofDigitChars_zero, Nat.mul_zero,
    Nat.zero_add, value]

/-- Of two numerals with equally many digits the one of the smaller number comes first, whatever
follows them. -/
theorem append_lt_of_value_lt (hlength : first.length = second.length)
    (hdigits : ∀ c ∈ second, c.isDigit = true) (hlt : value first < value second)
    (rest others : List Char) : first ++ rest < second ++ others := by
  induction first generalizing second with
  | nil =>
      rw [List.length_nil, eq_comm, List.length_eq_zero_iff] at hlength
      subst hlength
      exact absurd hlt (lt_irrefl _)
  | cons c digits ih =>
      cases second with
      | nil => cases hlength
      | cons c' digits' =>
          have hsame : digits.length = digits'.length := Nat.succ.inj hlength
          obtain ⟨hdigit, hdigits'⟩ := List.forall_mem_cons.mp hdigits
          rw [value_cons, value_cons, hsame] at hlt
          rw [List.cons_append, List.cons_append, List.cons_lt_cons_iff]
          rcases lt_trichotomy c c' with hless | rfl | hgreater
          · exact Or.inl hless
          · exact Or.inr ⟨rfl, ih hsame hdigits' (by omega)⟩
          · -- all digits that follow are worth less than one at the first place
            exfalso
            have hvalue := value_lt hdigits'
            have hlow := (bounds_of_isDigit hdigit).1
            have hzero : '0'.toNat = 48 := rfl
            have hnat : c'.toNat < c.toNat := hgreater
            have hmul : 10 ^ digits'.length * (c'.toNat - '0'.toNat + 1) ≤
                10 ^ digits'.length * (c.toNat - '0'.toNat) :=
              Nat.mul_le_mul_left _ (by omega)
            rw [Nat.mul_succ] at hmul
            omega

end Numeral

namespace DocumentId

variable {number other : Int}

/-! ## The id as a numeral -/

theorem toNat?_filled (count size : Nat) :
    (String.ofList (List.replicate count '0' ++ Nat.toDigits 10 size)).toNat? = some size := by
  have hdigits : ∀ c ∈ (String.ofList (List.replicate count '0' ++ Nat.toDigits 10 size)).toList,
      c.isDigit = true := by
    intro c hmem
    rw [String.toList_ofList] at hmem
    exact isDigit_of_mem_filled hmem
  have hsome : String.ofList (List.replicate count '0' ++ Nat.toDigits 10 size) ≠ "" := by
    simp [Nat.toDigits_ne_nil]
  rw [String.toNat?_eq_some_ofDigitChars (String.isNat_of_isDigit hsome hdigits),
    String.toList_ofList, List.filter_eq_self.mpr, ← Numeral.value, value_replicate_append]
  intro c hmem
  rw [bne_iff_ne]
  exact Numeral.ne_of_isDigit (isDigit_of_mem_filled hmem) rfl

theorem toInt?_ofOrder (number : Int) : (ofOrder (.int number)).toInt? = some number := by
  have hfilled := zeroFilled_ofInt 5 number
  rw [← toList_ofOrder] at hfilled
  by_cases hsign : number < 0
  · rw [if_pos hsign] at hfilled
    have hid : ofOrder (.int number) = "-" ++ String.ofList (List.replicate
        (5 - (Numeral.ofInt number).length) '0' ++ Nat.toDigits 10 number.natAbs) := by
      rw [← String.toList_inj, hfilled, String.toList_append, String.toList_ofList,
        String.toList_ofList]
    rw [hid, String.toInt?_minus_append, toNat?_filled, Option.map_some, Option.some.injEq]
    omega
  · rw [if_neg hsign, List.nil_append] at hfilled
    have hid : ofOrder (.int number) = String.ofList (List.replicate
        (5 - (Numeral.ofInt number).length) '0' ++ Nat.toDigits 10 number.natAbs) := by
      rw [← String.toList_inj, hfilled, String.toList_ofList]
    rw [hid, String.toInt?_eq_some_of_toNat?_eq_some (toNat?_filled _ _), Option.some.injEq]
    omega

/-! ## The order of ids -/

theorem isDigit_ofOrder (hlow : 0 ≤ number) :
    ∀ c ∈ (ofOrder (.int number)).toList, c.isDigit = true := by
  intro c hmem
  rw [toList_ofOrder, zeroFilled_ofInt, if_neg (by omega), List.nil_append] at hmem
  exact isDigit_of_mem_filled hmem

theorem value_ofOrder (hlow : 0 ≤ number) :
    (Numeral.value (ofOrder (.int number)).toList : Int) = number := by
  rw [← number_of_digits (isDigit_ofOrder hlow), number_ofOrder]

theorem length_toDigits_le (hlow : 0 ≤ number) (hhigh : number ≤ 99999) :
    (Nat.toDigits 10 number.natAbs).length ≤ 5 :=
  (Nat.length_toDigits_le_iff (by decide) (by decide)).mpr (by omega)

theorem length_ofOrder_of_le (hlow : 0 ≤ number) (hhigh : number ≤ 99999) :
    (ofOrder (.int number)).length = 5 := by
  rw [length_ofOrder, Numeral.ofInt, if_neg (by omega), List.nil_append]
  exact max_eq_left (length_toDigits_le hlow hhigh)

/-- The files of lines with at most five digits come in the order of the numbers. -/
theorem documentName_lt (hlow : 0 ≤ number) (hlt : number < other) (hhigh : other ≤ 99999) :
    Store.documentName (ofOrder (.int number)) < Store.documentName (ofOrder (.int other)) := by
  have hlow' : 0 ≤ other := by omega
  have hlength : (ofOrder (.int number)).toList.length = (ofOrder (.int other)).toList.length := by
    rw [String.length_toList, String.length_toList, length_ofOrder_of_le hlow (by omega),
      length_ofOrder_of_le hlow' hhigh]
  have hvalue : Numeral.value (ofOrder (.int number)).toList <
      Numeral.value (ofOrder (.int other)).toList := by
    have hfirst := value_ofOrder hlow
    have hsecond := value_ofOrder hlow'
    omega
  show (Store.documentName _).toList < (Store.documentName _).toList
  rw [Store.toList_documentName, Store.toList_documentName]
  exact Numeral.append_lt_of_value_lt hlength (isDigit_ofOrder hlow') hvalue _ _

-- a sixth digit or a sign changes the order
example : Store.documentName (ofOrder (.int 100000)) < Store.documentName (ofOrder (.int 99999)) ∧
    Store.documentName (ofOrder (.int (-1))) < Store.documentName (ofOrder (.int (-2))) := by decide

end DocumentId

/-! ## Lines with at most five digits -/

/-- A script line that can be kept, with a number of at most five digits. -/
structure NumberedLine [Json.Room] where
  value : Json
  number : Int
  hasNumber : DocumentId.HasNumber value number
  low : 0 ≤ number
  high : number ≤ 99999
  /-- The text of the line tells all of it. -/
  exact : Json.IsExact value
  /-- There is room to write the line. -/
  stores : Json.Room.stores value = true
  /-- There is room to read it. -/
  shallow : value.nesting ≤ Json.Room.depth .collection

section

variable [Json.Room]

namespace NumberedLine

variable {lines : List NumberedLine}

/-- The line under its id. -/
def document (line : NumberedLine) : String × Json :=
  (DocumentId.ofOrder (.int line.number), line.value)

theorem identified (hdistinct : (lines.map number).Nodup) :
    Store.Identified (lines.map document) := by
  refine ⟨?_, ?_, ?_⟩
  · refine List.forall_mem_map.mpr fun line _ => ?_
    exact DocumentId.isKey_ofOrder line.number
  · refine List.forall_mem_map.mpr fun line _ => ?_
    show (DocumentId.ofOrder (.int line.number)).length + 5 ≤ FileTree.nameLimit
    rw [DocumentId.length_ofOrder_of_le line.low line.high]
    decide
  · have hids : (lines.map document).map Prod.fst =
        (lines.map number).map fun number => DocumentId.ofOrder (.int number) := by
      rw [List.map_map, List.map_map]
      rfl
    rw [hids]
    exact hdistinct.map fun number other heq => DocumentId.ofOrder_injective heq

theorem byName_document (hdistinct : (lines.map number).Nodup) :
    ∃ ordered : List NumberedLine, ordered.Perm lines ∧
      ordered.Pairwise (fun first second => first.number < second.number) ∧
        Store.byName (lines.map document) = ordered.map document := by
  obtain ⟨ordered, hperm, hordered⟩ := Store.byName_map document lines
  refine ⟨ordered, hperm, ?_, hordered⟩
  have hsorted : (ordered.map document).Pairwise fun first second =>
      Store.documentName first.1 ≤ Store.documentName second.1 := by
    rw [← hordered]
    exact pairwise_sorted_by (fun document : String × Json => Store.documentName document.1) _
  have hdifferent : (ordered.map number).Nodup := (hperm.map number).nodup_iff.mpr hdistinct
  rw [List.pairwise_map] at hsorted
  rw [List.nodup_iff_pairwise_ne, List.pairwise_map] at hdifferent
  refine hsorted.imp₂ ?_ hdifferent
  intro first second hle hne
  apply lt_of_le_of_ne _ hne
  by_contra hgreater
  exact String.not_le.mpr (DocumentId.documentName_lt second.low (by omega) first.high) hle

end NumberedLine

namespace Store

variable {store : Store} {root : Path} {place : Location} {tenant : String}

/-- A script with numbers of at most five digits is kept, and read in the order of the numbers. -/
theorem gives_scenario_in_order (hready : store.Ready root place)
    (htenant : Key.isKey tenant = true) (hshort : tenant.length ≤ FileTree.nameLimit)
    (hvacant : Vacant store.files place tenant "scenario") {lines : List NumberedLine}
    (hdistinct : (lines.map NumberedLine.number).Nodup) :
    ∃ (left : Store) (ordered : List NumberedLine),
      Gives (saveScenario (.str tenant) (.arr (lines.map NumberedLine.value))) store () left ∧
        Gives (scenario (.str tenant)) left (ordered.map NumberedLine.value) left ∧
        ordered.Perm lines ∧
        ordered.Pairwise fun first second => first.number < second.number := by
  have hidentified := NumberedLine.identified hdistinct
  obtain ⟨added, files, hsave, hgrows, -, hholds⟩ := gives_keep hready htenant hshort
    isFileName_scenario hvacant
    (List.forall_mem_map.mpr fun line _ => line.hasNumber.ofLine_eq) hidentified
    (List.forall_mem_map.mpr fun line _ => line.stores)
  have hready' := hready.grows hgrows
  have hread := gives_documents hready'.root_eq htenant hholds.directory
    (hready'.room_document htenant hshort isFileName_scenario) hholds.keeps hidentified
    (List.forall_mem_map.mpr fun line _ => line.exact)
    (List.forall_mem_map.mpr fun line _ => line.shallow)
  obtain ⟨ordered, hperm, hsorted, hordered⟩ := NumberedLine.byName_document hdistinct
  have hvalues : ∀ items : List NumberedLine,
      (items.map NumberedLine.document).map Prod.snd = items.map NumberedLine.value :=
    fun items => List.map_map ..
  rw [hordered, hvalues] at hread
  rw [hvalues] at hsave
  exact ⟨_, ordered, hsave, hread, hperm, hsorted⟩

/-- **Numbers and ids correspond, and up to five digits they come in the same order.**  An id tells
its number, so different numbers have different ids; and whatever the order is in which lines with
different numbers are saved, they are read in the order of the numbers. -/
theorem numbers_match_ids :
    (∀ number other : Int, DocumentId.ofOrder (.int number) = DocumentId.ofOrder (.int other) →
      number = other) ∧
    (∀ number : Int, Key.isKey (DocumentId.ofOrder (.int number)) = true ∧
      5 ≤ (DocumentId.ofOrder (.int number)).length ∧
      (DocumentId.ofOrder (.int number)).toInt? = some number) ∧
    ∀ (store : Store) (root : Path) (place : Location) (tenant : String),
      store.Ready root place → Key.isKey tenant = true → tenant.length ≤ FileTree.nameLimit →
      Vacant store.files place tenant "scenario" →
      ∀ lines : List NumberedLine, (lines.map NumberedLine.number).Nodup →
        ∃ (left : Store) (ordered : List NumberedLine),
          Gives (saveScenario (.str tenant) (.arr (lines.map NumberedLine.value))) store () left ∧
            Gives (scenario (.str tenant)) left (ordered.map NumberedLine.value) left ∧
            ordered.Perm lines ∧
            ordered.Pairwise fun first second => first.number < second.number := by
  refine ⟨fun number other heq => DocumentId.ofOrder_injective heq, fun number => ?_, ?_⟩
  · refine ⟨DocumentId.isKey_ofOrder number, ?_, DocumentId.toInt?_ofOrder number⟩
    rw [DocumentId.length_ofOrder]
    exact le_max_left _ _
  · intro store root place tenant hready htenant hshort hvacant lines hdistinct
    exact gives_scenario_in_order hready htenant hshort hvacant hdistinct

end Store

end

namespace Store

/-- The line that the narrator says under a number. -/
def narratedLine (number : Int) (hlow : 0 ≤ number) (hhigh : number ≤ 99999) : NumberedLine where
  value := numbered (.int number)
  number := number
  hasNumber := ⟨_, rfl, rfl⟩
  low := hlow
  high := hhigh
  exact := by
    have hdigits := (DocumentId.length_toDigits_le hlow hhigh).trans
      (by decide : 5 ≤ Numeral.digitLimit)
    have hnames : ["order", "command", "param1"].Nodup := by decide
    have hjoined : ∀ text ∈ ["order", "command", "text", "param1", "narrator"],
        Text.isJoined text = true := by decide +kernel
    simp only [List.forall_mem_cons] at hjoined
    obtain ⟨horder, hcommand, htext, hparam, hnarrator, -⟩ := hjoined
    exact ⟨hnames, horder, hdigits, hcommand, htext, hparam, hnarrator, trivial⟩
  stores := Json.Room.stores_of_nesting_le (show 1 ≤ 4 by decide)
  shallow := Nat.le_trans (show 1 ≤ 4 by decide) (Json.Room.four_le_depth _)

/-- A line without a number, which is number zero. -/
def zerothLine : NumberedLine where
  value := unnumbered "One"
  number := 0
  hasNumber := ⟨_, rfl, rfl⟩
  low := by decide
  high := by decide
  exact := Json.isExact_of_isPlain (by decide +kernel)
  stores := by decide
  shallow := by decide

/-- Three lines are read in the order of their numbers, and number -7 can be read off its id. -/
theorem numbers_match_ids_of_three :
    (DocumentId.ofOrder (.int (-7))).toInt? = some (-7) ∧
    ∃ left,
      Gives (saveScenario (.str "demo") (.arr [numbered (.int 10), unnumbered "One",
          numbered (.int 2)])) (newWith []) () left ∧
        Gives (scenario (.str "demo")) left
          [unnumbered "One", numbered (.int 2), numbered (.int 10)] left := by
  obtain ⟨-, hids, hscripts⟩ := numbers_match_ids
  refine ⟨(hids (-7)).2.2, ?_⟩
  let second := narratedLine 2 (by decide) (by decide)
  let tenth := narratedLine 10 (by decide) (by decide)
  obtain ⟨left, ordered, hsave, hread, hperm, hsorted⟩ := hscripts (newWith []) _ _ "demo"
    (ready_newWith []) (by decide) (by decide) (vacant_newWith "demo" _)
    [tenth, zerothLine, second] (by decide)
  have hrotated : ([tenth] ++ [zerothLine, second]).Perm ([zerothLine, second] ++ [tenth]) :=
    List.perm_append_comm
  have hincreasing : [zerothLine, second, tenth].Pairwise
      fun first second => first.number < second.number := by
    simp [zerothLine, second, tenth, narratedLine]
  obtain rfl := (hperm.trans hrotated).eq_of_pairwise
    (fun first second _ _ hlt hgt => absurd hlt (not_lt_of_gt hgt)) hsorted hincreasing
  exact ⟨left, hsave, hread⟩

end Store

end VisualNovel
