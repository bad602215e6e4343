import VisualNovel.Proofs.Record.Reading
import VisualNovel.Proofs.Record.Spelling
import VisualNovel.Proofs.Sorting
import VisualNovel.Script.Command

/-!
# The order of a script

A script is sorted by its numbers after its records were checked.  A record is valid
(`Command.IsRecord`) if its number is spelled in one of many ways and if its texts are texts or
missing; the first record that is not valid refuses the whole script.

Commands with equal numbers keep the order of their records.  So a sorted script is left as it is
when it is sorted again, and a script in two parts is merged from its sorted parts.
-/

namespace VisualNovel

namespace Command

/-! ## Valid records -/

/-- Does what is found count as the number?  Nothing, null and the empty text count as zero. -/
inductive CountsAs : Option Json → Int → Prop
  | missing : CountsAs none 0
  | null : CountsAs (some .null) 0
  | empty : CountsAs (some (.str "")) 0
  | whole (number : Int) : CountsAs (some (.num (.whole number))) number
  | truth (value : Bool) : CountsAs (some (.bool value)) (if value then 1 else 0)
  /-- A double without a fraction. -/
  | real {value : Binary64} {number : Int} (hwhole : value.toInt? = some number)
      (hlow : -Reader.wordBound < number) (hhigh : number < Reader.wordBound) :
      CountsAs (some (.num (.real value))) number
  /-- A text that contains a numeral. -/
  | text {text : String} {number : Int} (hencodable : Text.isEncodable text = true)
      (hnumeral : Numeral.lenient text.toList = .whole number) : CountsAs (some (.str text)) number

/-- Does what is found stand for the text?  Nothing and null stand for the empty one. -/
inductive StandsFor : Option Json → String → Prop
  | missing : StandsFor none ""
  | null : StandsFor (some .null) ""
  | text (text : String) : StandsFor (some (.str text)) text

/-- Is the value a record of the command? -/
inductive IsRecord : Json → Command → Prop
  | fields {fields : Fields} {command : Command}
      (horder : CountsAs (OrderedMap.at? "order" fields) command.order)
      (hkind : StandsFor (OrderedMap.at? "command" fields) command.kind)
      (hparam1 : StandsFor (OrderedMap.at? "param1" fields) command.param1)
      (hparam2 : StandsFor (OrderedMap.at? "param2" fields) command.param2)
      (hparam3 : StandsFor (OrderedMap.at? "param3" fields) command.param3) :
      IsRecord (.obj fields) command

theorem wholeOfReal_eq_accepted_iff {value : Binary64} {number : Int} :
    Reader.wholeOfReal value = .accepted number ↔
      value.toInt? = some number ∧ -Reader.wordBound < number ∧ number < Reader.wordBound := by
  cases value with
  | finite negative significand exponent =>
      rw [Reader.wholeOfReal, Binary64.isFinite, if_pos rfl]
      cases (Binary64.finite negative significand exponent).toInt? with
      | none => exact iff_of_false nofun nofun
      | some whole =>
          by_cases hbounds : -Reader.wordBound < whole ∧ whole < Reader.wordBound
          · simp only [if_pos hbounds, Checked.accepted.injEq, Option.some.injEq]
            constructor
            · rintro rfl
              exact ⟨rfl, hbounds⟩
            · exact And.left
          · simp only [if_neg hbounds, Option.some.injEq]
            refine iff_of_false nofun ?_
            rintro ⟨rfl, hwithin⟩
            exact hbounds hwithin
  | _ => exact iff_of_false nofun nofun

theorem wholeOfText_eq_accepted_iff {text : String} {number : Int} :
    (Reader.unicode text).andThen Reader.wholeOfText = .accepted number ↔
      Text.isEncodable text = true ∧ Numeral.lenient text.toList = .whole number := by
  rw [Reader.unicode]
  by_cases hencodable : Text.isEncodable text = true
  · rw [if_pos hencodable]
    show Reader.wholeOfText text = _ ↔ _
    rw [Reader.wholeOfText]
    cases Numeral.lenient text.toList <;> simp [hencodable, Checked.fault]
  · rw [if_neg hencodable]
    refine iff_of_false ?_ fun hboth => hencodable hboth.1
    rintro ⟨⟩

theorem readOrder_eq_accepted_iff {value : Json} {number : Int} :
    readOrder value = .accepted number ↔ CountsAs (some value) number := by
  cases value with
  | null =>
      constructor
      · rintro ⟨⟩
        exact .null
      · rintro ⟨⟩
        rfl
  | bool value =>
      constructor
      · rintro ⟨⟩
        exact .truth _
      · rintro ⟨⟩
        rfl
  | num value =>
      cases value with
      | whole value =>
          constructor
          · rintro ⟨⟩
            exact .whole _
          · rintro ⟨⟩
            rfl
      | real value =>
          show Reader.wholeOfReal value = _ ↔ _
          rw [wholeOfReal_eq_accepted_iff]
          constructor
          · rintro ⟨hwhole, hlow, hhigh⟩
            exact .real hwhole hlow hhigh
          · rintro (_ | _ | _ | _ | _ | ⟨hwhole, hlow, hhigh⟩)
            exact ⟨hwhole, hlow, hhigh⟩
  | str text =>
      by_cases hempty : text = ""
      · subst hempty
        constructor
        · rintro ⟨⟩
          exact .empty
        · rintro (_ | _ | _ | _ | _ | _ | ⟨-, hnumeral⟩)
          · rfl
          · cases hnumeral
      · have hread : readOrder (.str text) =
            (Reader.unicode text).andThen Reader.wholeOfText := by
          rw [readOrder]
          · rfl
          · rintro ⟨⟩
          · rintro ⟨⟩
            exact hempty rfl
        rw [hread, wholeOfText_eq_accepted_iff]
        constructor
        · rintro ⟨hencodable, hnumeral⟩
          exact .text hencodable hnumeral
        · rintro (_ | _ | _ | _ | _ | _ | ⟨hencodable, hnumeral⟩)
          · exact absurd rfl hempty
          · exact ⟨hencodable, hnumeral⟩
  | arr items => exact iff_of_false nofun nofun
  | obj fields => exact iff_of_false nofun nofun

theorem readText_eq_accepted_iff {value : Json} {text : String} :
    readText value = .accepted text ↔ StandsFor (some value) text := by
  cases value with
  | null =>
      constructor
      · rintro ⟨⟩
        exact .null
      · rintro ⟨⟩
        rfl
  | str found =>
      show Reader.text (.str found) = _ ↔ _
      rw [Reader.text_eq_accepted_iff]
      constructor
      · rintro ⟨⟩
        exact .text _
      · rintro ⟨⟩
        rfl
  | _ => exact iff_of_false nofun nofun

theorem optional_order_iff {fields : Fields} {number : Int} :
    Part.order.optional 0 readOrder fields = .accepted number ↔
      CountsAs (OrderedMap.at? "order" fields) number := by
  rw [← Field.value?_plain, Part.order]
  refine Field.optional_iff (fun number => ?_) readOrder_eq_accepted_iff
  constructor
  · rintro ⟨⟩
    rfl
  · rintro rfl
    exact .missing

theorem optional_text_iff {fields : Fields} {name text : String} :
    (Field.plain name).optional "" readText fields = .accepted text ↔
      StandsFor (OrderedMap.at? name fields) text := by
  rw [← Field.value?_plain]
  refine Field.optional_iff (fun text => ?_) readText_eq_accepted_iff
  constructor
  · rintro ⟨⟩
    rfl
  · rintro rfl
    exact .missing

/-- The values that are read as commands are the records of commands. -/
theorem read_eq_accepted_iff {value : Json} {command : Command} :
    read value = .accepted command ↔ IsRecord value command := by
  cases value with
  | obj fields =>
      show Command.mk <$> Part.order.optional 0 readOrder fields
        <*> (Field.plain "command").optional "" readText fields
        <*> (Field.plain "param1").optional "" readText fields
        <*> (Field.plain "param2").optional "" readText fields
        <*> (Field.plain "param3").optional "" readText fields = _ ↔ _
      simp only [Checked.seq_eq_accepted_iff, Checked.map_eq_accepted_iff, optional_order_iff,
        optional_text_iff]
      constructor
      · rintro ⟨_, param3, ⟨_, param2, ⟨_, param1, ⟨_, kind, ⟨order, horder, rfl⟩, hkind, rfl⟩,
          hparam1, rfl⟩, hparam2, rfl⟩, hparam3, rfl⟩
        exact ⟨horder, hkind, hparam1, hparam2, hparam3⟩
      · rintro ⟨horder, hkind, hparam1, hparam2, hparam3⟩
        exact ⟨_, _, ⟨_, _, ⟨_, _, ⟨_, _, ⟨_, horder, rfl⟩, hkind, rfl⟩, hparam1, rfl⟩, hparam2,
          rfl⟩, hparam3, rfl⟩
  | _ =>
      refine iff_of_false ?_ ?_
      · rintro ⟨⟩
      · rintro ⟨⟩

/-! ## Dumps -/

theorem toJson_eq (style : Dump) (command : Command) : command.toJson style = .obj
    [("order", .num (.whole command.order)), ("command", .str command.kind),
      ("param1", .str command.param1), ("param2", .str command.param2),
      ("param3", .str command.param3)] := by
  cases style with
  | mk wireNames absent =>
      cases wireNames <;> cases absent <;> rfl

theorem isRecord_toJson (style : Dump) (command : Command) :
    IsRecord (command.toJson style) command := by
  rw [toJson_eq]
  exact ⟨.whole _, .text _, .text _, .text _, .text _⟩

/-! ## Sorting -/

theorem sorted_perm (commands : List Command) : (sorted commands).Perm commands :=
  List.mergeSort_perm commands _

theorem pairwise_sorted (commands : List Command) :
    (sorted commands).Pairwise fun first second => first.order ≤ second.order :=
  pairwise_sorted_by order commands

theorem sorted_sorted (commands : List Command) : sorted (sorted commands) = sorted commands :=
  List.mergeSort_of_pairwise ((pairwise_sorted commands).imp decide_eq_true)

theorem scriptOf_commands (commands : List Command) :
    scriptOf (commands.map .command) = .ok (sorted commands) := by
  have hsources : (commands.map Source.command).mapM
      (fun source => (Source.read source).require "Command") = .ok commands := by
    induction commands with
    | nil => rfl
    | cons command rest ih =>
        rw [List.map_cons, List.mapM_cons, ih]
        rfl
  rw [scriptOf, hsources]
  rfl

theorem script_of_records {records : List Json} {commands : List Command}
    (hrecords : List.Forall₂ IsRecord records commands) :
    script (.arr records) = .ok (sorted commands) := by
  have hread : List.Forall₂ (fun record command => read record = .accepted command) records
      commands := hrecords.imp fun _ _ => read_eq_accepted_iff.mpr
  rw [script, Reader.collection_eq_ok_iff.mpr hread]
  rfl

theorem script_of_dumps (commands : List Command) (style : Dump) :
    script (.arr (commands.map (toJson style))) = .ok (sorted commands) :=
  script_of_records (List.forall₂_map_left_iff.mpr
    (List.forall₂_same.mpr fun command _ => isRecord_toJson style command))

theorem read_refused {value : Json} (hinvalid : ¬ ∃ command, IsRecord value command) :
    ∃ faults, read value = .refused faults := by
  cases hread : read value with
  | accepted command => exact absurd ⟨command, read_eq_accepted_iff.mp hread⟩ hinvalid
  | refused faults => exact ⟨faults, rfl⟩

/-- **The script of some records is their commands in a stable order, if all of them are valid.** -/
theorem script_sorts_records (records : List Json) :
    (∀ spelling : Numeral.Spelling,
      CountsAs (some (.str (String.ofList spelling.text))) spelling.number) ∧
    (∀ commands, List.Forall₂ IsRecord records commands →
      ∃ ordered, script (.arr records) = .ok ordered ∧ ordered.Perm commands ∧
        ordered.Pairwise (fun first second => first.order ≤ second.order) ∧
        (∀ number, ordered.filter (fun command => command.order = number) =
          commands.filter fun command => command.order = number) ∧
        scriptOf (ordered.map .command) = .ok ordered ∧
        ∀ style, script (.arr (ordered.map (toJson style))) = .ok ordered) ∧
    (∀ valid invalid rest, records = valid ++ invalid :: rest →
      (∀ record ∈ valid, ∃ command, IsRecord record command) →
      (¬ ∃ command, IsRecord invalid command) →
      ∃ faults, read invalid = .refused faults ∧
        script (.arr records) = .error (.invalid ⟨"Command", faults⟩)) ∧
    ∀ more, script (.arr (records ++ more)) = (do
      let first ← script (.arr records)
      let second ← script (.arr more)
      return first.merge second fun one other => one.order ≤ other.order) := by
  refine ⟨fun spelling => ?_, fun commands hrecords => ?_,
    fun valid invalid rest hsplit hvalid hinvalid => ?_, fun more => ?_⟩
  · refine .text spelling.isEncodable_text ?_
    rw [String.toList_ofList, spelling.lenient_eq]
  · refine ⟨sorted commands, script_of_records hrecords, sorted_perm commands,
      pairwise_sorted commands, filter_sorted_by order commands, ?_, fun style => ?_⟩
    · rw [scriptOf_commands, sorted_sorted]
    · rw [script_of_dumps, sorted_sorted]
  · obtain ⟨faults, hrefused⟩ := read_refused hinvalid
    have hread : ∀ record ∈ valid, ∃ command, read record = .accepted command := by
      intro record hmem
      obtain ⟨command, hrecord⟩ := hvalid record hmem
      exact ⟨command, read_eq_accepted_iff.mpr hrecord⟩
    refine ⟨faults, hrefused, ?_⟩
    rw [hsplit, script, Reader.collection_of_refused hread hrefused]
    rfl
  · rw [script, script, script, Reader.collection_append]
    cases read.collection "Command" (.arr records) with
    | error fault => rfl
    | ok first =>
        cases read.collection "Command" (.arr more) with
        | error fault => rfl
        | ok second => exact congrArg Except.ok (sorted_by_append order first second)

/-- Records with the numbers seven, zero, seven and zero. -/
def fourRecords : List Json :=
  [.obj [("order", .str " +0_7.0 "), ("command", .str "text")],
   .obj [("order", .null), ("command", .str "img_hide"), ("param1", .null)],
   .obj [("order", .num (.real (.ofInt 7)))],
   .obj []]

/-- Their commands, as the records come. -/
def fourCommands : List Command :=
  [{ order := 7, kind := "text" }, { kind := "img_hide" }, { order := 7 }, {}]

theorem fourRecords_valid : List.Forall₂ IsRecord fourRecords fourCommands :=
  .cons ⟨.text rfl (by decide +kernel), .text _, .missing, .missing, .missing⟩
    (.cons ⟨.null, .text _, .null, .missing, .missing⟩
      (.cons ⟨.real (by decide +kernel) (by decide) (by decide), .missing, .missing, .missing,
          .missing⟩
        (.cons ⟨.missing, .missing, .missing, .missing, .missing⟩ .nil)))

/-- Two commands of number seven keep their order, and null after an empty record refuses both. -/
theorem script_sorts_four_records :
    (∃ ordered, script (.arr fourRecords) = .ok ordered ∧ ordered.Perm fourCommands ∧
      ordered.filter (fun command => command.order = 7) =
        [{ order := 7, kind := "text" }, { order := 7 }]) ∧
    ∃ faults, script (.arr [.obj [], .null, .bool true]) =
      .error (.invalid ⟨"Command", faults⟩) := by
  constructor
  · obtain ⟨ordered, hscript, hperm, -, hfilter, -⟩ :=
      (script_sorts_records fourRecords).2.1 fourCommands fourRecords_valid
    exact ⟨ordered, hscript, hperm, hfilter 7⟩
  · have hvalid : ∀ record ∈ [Json.obj []], ∃ command, IsRecord record command :=
      List.forall_mem_singleton.mpr ⟨{}, .missing, .missing, .missing, .missing, .missing⟩
    obtain ⟨faults, -, hscript⟩ := (script_sorts_records [.obj [], .null, .bool true]).2.2.1
      [.obj []] .null [.bool true] rfl hvalid nofun
    exact ⟨faults, hscript⟩

end Command

end VisualNovel
