import VisualNovel.Proofs.Json.RoundTrip

/-!
# Values that are too deep

The reader goes into arrays and objects only so far.  An exact value that is deeper is refused, and
for this reason: whatever comes before the first part that is too deep is read, since it is exact
(`readText_tooDeep`).  The fault names what this part is, an array or an object (`excess?`).
-/

namespace VisualNovel.Json

variable {style : Style} {fuel depth : Nat}

/-! ## Depth by parts -/

theorem fieldsNesting_put (key : String) (value : Json) (fields : List (String × Json)) :
    fieldsNesting (OrderedMap.put key value fields) ≤
      max (fieldsNesting fields) (nesting value) := by
  refine fieldsNesting_le_iff.mpr fun field hmem => ?_
  rcases OrderedMap.mem_put hmem with rfl | hold
  · exact Nat.le_max_right _ _
  · exact Nat.le_trans (fieldsNesting_le_iff.mp le_rfl field hold) (Nat.le_max_left _ _)

/-! ## The first part that is too deep -/

mutual

/-- What the first part is that does not lie within `depth` arrays and objects, if there is one. -/
def excess? : Nat → Json → Option Container
  | _, .null | _, .bool _ | _, .num _ | _, .str _ => none
  | 0, .arr _ => some .array
  | 0, .obj _ => some .object
  | depth + 1, .arr items => itemsExcess? depth items
  | depth + 1, .obj fields => fieldsExcess? depth fields

/-- What the first such part is in the items of an array. -/
def itemsExcess? (depth : Nat) : List Json → Option Container
  | [] => none
  | item :: rest => (excess? depth item).or (itemsExcess? depth rest)

/-- What the first such part is in the values of an object. -/
def fieldsExcess? (depth : Nat) : List (String × Json) → Option Container
  | [] => none
  | (_, value) :: rest => (excess? depth value).or (fieldsExcess? depth rest)

end

mutual

theorem excess?_eq_none_iff : ∀ {depth : Nat} {value : Json},
    excess? depth value = none ↔ nesting value ≤ depth
  | _, .null | _, .bool _ | _, .num _ | _, .str _ => by simp only [excess?, nesting, Nat.zero_le]
  | 0, .arr _ | 0, .obj _ => by simp [excess?, nesting]
  | depth + 1, .arr _ => by
      rw [excess?, nesting, Nat.succ_le_succ_iff]
      exact itemsExcess?_eq_none_iff
  | depth + 1, .obj _ => by
      rw [excess?, nesting, Nat.succ_le_succ_iff]
      exact fieldsExcess?_eq_none_iff

theorem itemsExcess?_eq_none_iff : ∀ {depth : Nat} {items : List Json},
    itemsExcess? depth items = none ↔ itemsNesting items ≤ depth
  | _, [] => by simp [itemsExcess?, itemsNesting]
  | _, _ :: _ => by
      rw [itemsExcess?, Option.or_eq_none_iff, excess?_eq_none_iff, itemsExcess?_eq_none_iff,
        itemsNesting, Nat.max_le]

theorem fieldsExcess?_eq_none_iff : ∀ {depth : Nat} {fields : List (String × Json)},
    fieldsExcess? depth fields = none ↔ fieldsNesting fields ≤ depth
  | _, [] => by simp [fieldsExcess?, fieldsNesting]
  | _, (_, _) :: _ => by
      rw [fieldsExcess?, Option.or_eq_none_iff, excess?_eq_none_iff, fieldsExcess?_eq_none_iff,
        fieldsNesting, Nat.max_le]

end

theorem exists_excess {value : Json} (hdeep : depth < nesting value) :
    ∃ container, excess? depth value = some container :=
  Option.ne_none_iff_exists'.mp fun hnone =>
    absurd (excess?_eq_none_iff.mp hnone) (Nat.not_le_of_lt hdeep)

/-! ## Faults of parts -/

theorem readItems_error {text : List Char} {fault : ReadFault}
    (hitem : readValue fuel depth text = .error fault) :
    readItems (fuel + 1) depth text = .error fault := by
  simp only [readItems, hitem, bind, Except.bind]

theorem readFields_error {text afterKey afterColon : List Char} {key : String} {fault : ReadFault}
    (hkey : readString text = .ok (key, afterKey))
    (hcolon : skipBlanks afterKey = ':' :: afterColon)
    (hvalue : readValue fuel depth (skipBlanks afterColon) = .error fault) :
    readFields (fuel + 1) depth ('"' :: text) = .error fault := by
  simp only [readFields, hkey, bind, Except.bind, hcolon, hvalue]

/-! ## Going too deep -/

mutual

/-- An exact value that is too deep is refused. -/
theorem readValue_tooDeep : ∀ (value : Json) (fuel depth level : Nat) (rest : List Char)
    {container : Container}, IsExact value → excess? depth value = some container →
      2 * (render style level value).length ≤ fuel + 1 →
        readValue (fuel + 1) depth (render style level value ++ rest) =
          .error (.tooDeep container)
  | .null, _, _, _, _, _, _, hdeep, _ | .bool _, _, _, _, _, _, _, hdeep, _
  | .num _, _, _, _, _, _, _, hdeep, _ | .str _, _, _, _, _, _, _, hdeep, _ => nomatch hdeep
  | .arr [], _, 0, _, _, _, _, hdeep, _ | .arr (_ :: _), _, 0, _, _, _, _, hdeep, _
  | .obj [], _, 0, _, _, _, _, hdeep, _ | .obj (_ :: _), _, 0, _, _, _, _, hdeep, _ => by
      cases hdeep
      rfl
  | .arr (item :: items), fuel, depth + 1, level, rest, _, hexact, hdeep, hfuel => by
      simp only [render, List.length_cons, List.length_append] at hfuel
      simp only [render, List.cons_append, List.append_assoc]
      rw [readValue_array (skipBlanks_renderItems_ne (level + 1) item items _),
        readItems_tooDeep (item :: items) fuel depth (level + 1) _ hexact hdeep (by omega)]
      rfl
  | .obj ((key, value) :: fields), fuel, depth + 1, level, rest, _, hexact, hdeep, hfuel => by
      simp only [render, List.length_cons, List.length_append] at hfuel
      simp only [render, List.cons_append, List.append_assoc]
      rw [readValue_object (skipBlanks_renderFields_ne (level + 1) key value fields _),
        readFields_tooDeep ((key, value) :: fields) fuel depth (level + 1) _ hexact.2 hdeep
          (by omega)]
      rfl

theorem readItems_tooDeep : ∀ (items : List Json) (fuel depth level : Nat) (rest : List Char)
    {container : Container}, ItemsRegular (fun text => Text.isJoined text = true) items →
      itemsExcess? depth items = some container →
      2 * (renderItems style level items).length < fuel →
        readItems fuel depth (skipBlanks (renderItems style level items ++ rest)) =
          .error (.tooDeep container)
  | [], _, _, _, _, _, _, hdeep, _ => nomatch hdeep
  | item :: items, fuel, depth, level, rest, container, hexact, hdeep, hfuel => by
      simp only [renderItems_cons, List.length_append] at hfuel
      have hpos := length_render_pos style level item
      obtain ⟨fuel, rfl⟩ : ∃ left, fuel = left + 2 := ⟨fuel - 2, by omega⟩
      have henough : 2 * (render style level item).length ≤ fuel + 1 := by omega
      rw [skipBlanks_renderItems]
      rcases Option.or_eq_some_iff.mp hdeep with hitem | ⟨hshallow, hrest⟩
      · exact readItems_error (readValue_tooDeep item fuel depth level _ hexact.1 hitem henough)
      · -- this item is read, and one of those after it is too deep
        cases items with
        | nil => exact nomatch hrest
        | cons next items =>
            simp only [itemsAfter, List.length_cons] at hfuel
            have hread := readValue_render item fuel depth level
              (itemsAfter style level (next :: items) ++ rest) hexact.1
              (excess?_eq_none_iff.mp hshallow) henough (ends_of_closes rfl _)
            have hitems := readItems_tooDeep (next :: items) (fuel + 1) depth level rest hexact.2
              hrest (by omega)
            refine (readItems_more hread rfl).trans ?_
            exact congrArg (Except.map fun read => (item :: read.1, read.2)) hitems

theorem readFields_tooDeep : ∀ (fields : List (String × Json)) (fuel depth level : Nat)
    (rest : List Char) {container : Container},
      FieldsRegular (fun text => Text.isJoined text = true) fields →
      fieldsExcess? depth fields = some container →
      2 * (renderFields style level fields).length < fuel →
        readFields fuel depth (skipBlanks (renderFields style level fields ++ rest)) =
          .error (.tooDeep container)
  | [], _, _, _, _, _, _, hdeep, _ => nomatch hdeep
  | (key, value) :: fields, fuel, depth, level, rest, container, hexact, hdeep, hfuel => by
      obtain ⟨hkey, hvalue, hexact⟩ := hexact
      simp only [renderFields_cons, List.length_append] at hfuel
      have hpos := length_render_pos style level value
      obtain ⟨fuel, rfl⟩ : ∃ left, fuel = left + 2 := ⟨fuel - 2, by omega⟩
      have henough : 2 * (render style level value).length ≤ fuel + 1 := by omega
      have hname := readString_stringText style hkey (keySeparator style ++
        (render style level value ++ (fieldsAfter style level fields ++ rest)))
      obtain ⟨left, hcolon, hleft⟩ := skipBlanks_keySeparator style (render style level value ++
        (fieldsAfter style level fields ++ rest))
      rw [skipBlanks_render] at hleft
      rw [skipBlanks_renderFields]
      rcases Option.or_eq_some_iff.mp hdeep with hfield | ⟨hshallow, hrest⟩
      · refine readFields_error hname hcolon ?_
        rw [hleft]
        exact readValue_tooDeep value fuel depth level _ hvalue hfield henough
      · cases fields with
        | nil => exact nomatch hrest
        | cons next fields =>
            simp only [fieldsAfter, List.length_cons] at hfuel
            have hread := readValue_render value fuel depth level
              (fieldsAfter style level (next :: fields) ++ rest) hvalue
              (excess?_eq_none_iff.mp hshallow) henough (ends_of_closes rfl _)
            rw [← hleft] at hread
            have hfields := readFields_tooDeep (next :: fields) (fuel + 1) depth level rest hexact
              hrest (by omega)
            refine (readFields_more hname hcolon hread rfl).trans ?_
            exact congrArg (Except.map fun read => ((key, value) :: read.1, read.2)) hfields

end

/-- An exact value that is too deep is not read off its own text. -/
theorem readText_tooDeep {value : Json} {container : Container} (hexact : IsExact value)
    (hdeep : excess? depth value = some container) :
    readText depth (value.toText style).toList = .error (.tooDeep container) := by
  have hread := readValue_tooDeep value _ depth 0 [] hexact hdeep
    (Nat.le_succ_of_le (Nat.le_succ (2 * (render style 0 value).length)))
  have hskip : skipBlanks (render style 0 value ++ []) = render style 0 value ++ [] :=
    skipBlanks_render 0 value []
  rw [List.append_nil] at hread hskip
  rw [toText, String.toList_ofList, readText, hskip, hread]
  rfl

/-! ## Nested arrays -/

/-- An array in an array, this many times. -/
def nested : Nat → Json
  | 0 => .arr []
  | inner + 1 => .arr [nested inner]

theorem isExact_nested (inner : Nat) : IsExact (nested inner) := by
  induction inner with
  | zero => trivial
  | succ inner ih => exact ⟨ih, trivial⟩

theorem nesting_nested (inner : Nat) : nesting (nested inner) = inner + 1 := by
  induction inner with
  | zero => rfl
  | succ inner ih => rw [nested, nesting, itemsNesting, itemsNesting, ih, Nat.max_zero]

theorem excess?_nested {inner : Nat} (hdeep : depth ≤ inner) :
    excess? depth (nested inner) = some .array := by
  induction inner generalizing depth with
  | zero => rw [Nat.le_zero.mp hdeep, nested, excess?]
  | succ inner ih =>
      cases depth with
      | zero => rfl
      | succ depth =>
          rw [nested, excess?, itemsExcess?, ih (Nat.le_of_succ_le_succ hdeep), Option.some_or]

end VisualNovel.Json
