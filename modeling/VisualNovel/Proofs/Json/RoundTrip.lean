import VisualNovel.Proofs.Json.Doubles
import VisualNovel.Proofs.Json.Regular

/-!
# Values are read back

The text of a value is read as the value, in both forms in which it is written and with blanks
around it or not.  Three things can keep a value from coming back, and `IsExact` excludes them:
a key that an object has twice, a whole number with too many digits, and a pair of unpaired
units.  For values without doubles this can be computed (`isPlain`).  The reader also has to be
willing to go as deep as the value does (`nesting`).

A value is followed by something that is no part of it: `Numeral.Ends` says so of numerals, and
all other values say themselves where they end.
-/

namespace VisualNovel.Json

/-! ## Plain values -/

mutual

/-- Does the text of the value tell all of it? -/
def isPlain : Json → Bool
  | .num (.whole value) => (Nat.toDigits 10 value.natAbs).length ≤ Numeral.digitLimit
  | .num (.real _) => false
  | .str text => Text.isJoined text
  | .arr items => itemsPlain items
  | .obj fields => decide (fields.map Prod.fst).Nodup && fieldsPlain fields
  | _ => true

/-- Are all items of an array plain? -/
def itemsPlain : List Json → Bool
  | [] => true
  | item :: rest => isPlain item && itemsPlain rest

/-- Are the names and values of all fields of an object plain? -/
def fieldsPlain : List (String × Json) → Bool
  | [] => true
  | (name, value) :: rest => Text.isJoined name && isPlain value && fieldsPlain rest

end

theorem itemsPlain_iff {items : List Json} :
    itemsPlain items = true ↔ ∀ item ∈ items, isPlain item = true := by
  induction items with
  | nil => exact iff_of_true rfl (List.forall_mem_nil _)
  | cons first rest ih => rw [itemsPlain, Bool.and_eq_true, ih, List.forall_mem_cons]

theorem fieldsPlain_iff {fields : List (String × Json)} :
    fieldsPlain fields = true ↔
      ∀ field ∈ fields, Text.isJoined field.1 = true ∧ isPlain field.2 = true := by
  induction fields with
  | nil => exact iff_of_true rfl (List.forall_mem_nil _)
  | cons first rest ih =>
      obtain ⟨name, value⟩ := first
      rw [fieldsPlain, Bool.and_eq_true, Bool.and_eq_true, ih, List.forall_mem_cons]

theorem isPlain_obj_iff {fields : List (String × Json)} :
    isPlain (.obj fields) = true ↔ (OrderedMap.keys fields).Nodup ∧
      ∀ field ∈ fields, Text.isJoined field.1 = true ∧ isPlain field.2 = true := by
  rw [isPlain, Bool.and_eq_true, decide_eq_true_eq, fieldsPlain_iff]
  rfl

theorem isPlain_put {fields : List (String × Json)} {name : String} {value : Json}
    (hfields : isPlain (.obj fields) = true) (hname : Text.isJoined name = true)
    (hvalue : isPlain value = true) :
    isPlain (.obj (OrderedMap.put name value fields)) = true := by
  obtain ⟨hnodup, hplain⟩ := isPlain_obj_iff.mp hfields
  refine isPlain_obj_iff.mpr ⟨OrderedMap.nodup_keys_put hnodup _ _, ?_⟩
  intro field hmem
  rcases OrderedMap.mem_put hmem with rfl | hold
  · exact ⟨hname, hvalue⟩
  · exact hplain field hold

mutual

theorem isExact_of_isPlain : ∀ {value : Json}, isPlain value = true → IsExact value
  | .null, _ => trivial
  | .bool _, _ => trivial
  | .num (.whole _), hplain => by
      rw [isPlain, decide_eq_true_eq] at hplain
      exact hplain
  | .num (.real _), hplain => by cases hplain
  | .str _, hplain => hplain
  | .arr _, hplain => itemsExact_of_itemsPlain hplain
  | .obj _, hplain => by
      rw [isPlain, Bool.and_eq_true, decide_eq_true_eq] at hplain
      exact ⟨hplain.1, fieldsExact_of_fieldsPlain hplain.2⟩

theorem itemsExact_of_itemsPlain : ∀ {items : List Json}, itemsPlain items = true →
    ItemsRegular (fun text => Text.isJoined text = true) items
  | [], _ => trivial
  | _ :: _, hplain => by
      rw [itemsPlain, Bool.and_eq_true] at hplain
      exact ⟨isExact_of_isPlain hplain.1, itemsExact_of_itemsPlain hplain.2⟩

theorem fieldsExact_of_fieldsPlain : ∀ {fields : List (String × Json)}, fieldsPlain fields = true →
    FieldsRegular (fun text => Text.isJoined text = true) fields
  | [], _ => trivial
  | (_, _) :: _, hplain => by
      rw [fieldsPlain, Bool.and_eq_true, Bool.and_eq_true] at hplain
      exact ⟨hplain.1.1, isExact_of_isPlain hplain.1.2, fieldsExact_of_fieldsPlain hplain.2⟩

end

/-! ## Blanks -/

variable {style : Style}

theorem skipBlanks_lineBreak (level : Nat) (text : List Char) :
    skipBlanks (lineBreak style level ++ text) = skipBlanks text := by
  unfold lineBreak
  cases style.indent with
  | none => rfl
  | some width =>
      show skipBlanks (List.replicate (width * level) ' ' ++ text) = skipBlanks text
      exact List.dropWhile_append_of_pos fun c hmem => by simp [List.eq_of_mem_replicate hmem]

theorem skipBlanks_keySeparator (style : Style) (text : List Char) :
    ∃ left, skipBlanks (keySeparator style ++ text) = ':' :: left ∧
      skipBlanks left = skipBlanks text := by
  unfold keySeparator
  cases style.indent with
  | none => exact ⟨text, rfl, rfl⟩
  | some width => exact ⟨' ' :: text, rfl, rfl⟩

/-- Does the character begin something that is to be read? -/
def begins (c : Char) : Bool :=
  !(c = ' ' || c = '\t' || c = '\n' || c = '\r') && c ≠ ']' && c ≠ '\x7d'

theorem skipBlanks_of_begins {c : Char} (hbegins : begins c = true) (text : List Char) :
    skipBlanks (c :: text) = c :: text := by
  simp only [begins, Bool.and_eq_true, Bool.not_eq_true'] at hbegins
  rw [skipBlanks, List.dropWhile_cons, hbegins.1.1]
  rfl

/-- Is the character one of ASCII, and none of its controls? -/
def isVisible (c : Char) : Bool := 0x20 ≤ c.toNat && c.toNat < 0x7f

theorem isVisible_of_isDigit {c : Char} (hdigit : c.isDigit = true) : isVisible c = true := by
  rw [Char.isDigit, Bool.and_eq_true, decide_eq_true_eq, decide_eq_true_eq] at hdigit
  have hlow : 48 ≤ c.toNat := hdigit.1
  have hhigh : c.toNat ≤ 57 := hdigit.2
  rw [isVisible, Bool.and_eq_true, decide_eq_true_eq, decide_eq_true_eq]
  omega

theorem begins_of_isDigit {c : Char} (hdigit : c.isDigit = true) : begins c = true := by
  have hne : ∀ other : Char, other.isDigit = false → c ≠ other := by
    intro other hother heq
    rw [heq, hother] at hdigit
    cases hdigit
  simp [begins, hne ' ' rfl, hne '\t' rfl, hne '\n' rfl, hne '\r' rfl, hne ']' rfl,
    hne '\x7d' rfl]

/-- The text of a value begins with a character that begins something. -/
theorem render_eq_cons (style : Style) (level : Nat) (value : Json) :
    ∃ first others, render style level value = first :: others ∧ begins first = true ∧
      isVisible first = true := by
  cases value with
  | null => exact ⟨_, _, rfl, by decide⟩
  | bool value => cases value <;> exact ⟨_, _, rfl, by decide⟩
  | str text => exact ⟨_, _, rfl, by decide⟩
  | arr items => cases items <;> exact ⟨_, _, rfl, by decide⟩
  | obj fields => cases fields <;> exact ⟨_, _, rfl, by decide⟩
  | num value =>
      -- a numeral is a word, or digits after a sign or none
      have hsigned : ∀ (negative : Bool) (first : Char) (others : List Char),
          first.isDigit = true → ∃ initial rest,
            (if negative then ['-'] else []) ++ first :: others = initial :: rest ∧
              begins initial = true ∧ isVisible initial = true := by
        intro negative first others hdigit
        cases negative with
        | true => exact ⟨'-', first :: others, rfl, by decide⟩
        | false =>
            exact ⟨first, others, rfl, begins_of_isDigit hdigit, isVisible_of_isDigit hdigit⟩
      match value with
      | .whole value =>
          obtain ⟨first, others, hdigits, hdigit⟩ := Numeral.toDigits_eq_cons value.natAbs
          obtain ⟨initial, rest, htext, hinitial⟩ :=
            hsigned (decide (value < 0)) first others hdigit
          refine ⟨initial, rest, ?_, hinitial⟩
          rw [← htext, render, numberText, Numeral.ofInt, hdigits]
          simp only [decide_eq_true_eq]
      | .real .nan => exact ⟨_, _, rfl, by decide⟩
      | .real (.infinite negative) => cases negative <;> exact ⟨_, _, rfl, by decide⟩
      | .real (.finite negative significand exponent) =>
          obtain ⟨first, others, htext, hdigit, -⟩ :=
            toChars_finite numberLayout negative significand exponent
          rw [render, numberText, htext]
          exact hsigned negative first others hdigit

theorem length_render_pos (style : Style) (level : Nat) (value : Json) :
    0 < (render style level value).length := by
  obtain ⟨first, others, hrender, -⟩ := render_eq_cons style level value
  simp [hrender]

theorem skipBlanks_render (level : Nat) (value : Json) (text : List Char) :
    skipBlanks (render style level value ++ text) = render style level value ++ text := by
  obtain ⟨first, others, hrender, hbegins, -⟩ := render_eq_cons style level value
  rw [hrender, List.cons_append, skipBlanks_of_begins hbegins]

/-! ## What the reader does -/

variable {fuel depth : Nat}

theorem readValue_array {text : List Char} (hsome : ∀ others, skipBlanks text ≠ ']' :: others) :
    readValue (fuel + 1) (depth + 1) ('[' :: text) =
      (readItems fuel depth (skipBlanks text)).map fun read => (.arr read.1, read.2) := by
  rw [readValue, if_neg (Nat.succ_ne_zero depth)]
  split
  · rename_i others heq
    exact absurd heq (hsome others)
  · rfl

theorem readValue_object {text : List Char}
    (hsome : ∀ others, skipBlanks text ≠ '\x7d' :: others) :
    readValue (fuel + 1) (depth + 1) ('\x7b' :: text) =
      (readFields fuel depth (skipBlanks text)).map fun read =>
        (.obj (OrderedMap.ofPairs read.1), read.2) := by
  rw [readValue, if_neg (Nat.succ_ne_zero depth)]
  split
  · rename_i others heq
    exact absurd heq (hsome others)
  · rfl

theorem readItems_last {text left rest : List Char} {item : Json}
    (hitem : readValue fuel depth text = .ok (item, left)) (hend : skipBlanks left = ']' :: rest) :
    readItems (fuel + 1) depth text = .ok ([item], rest) := by
  rw [readItems, hitem]
  simp only [bind, Except.bind, hend]

theorem readItems_more {text left others : List Char} {item : Json}
    (hitem : readValue fuel depth text = .ok (item, left))
    (hcomma : skipBlanks left = ',' :: others) :
    readItems (fuel + 1) depth text =
      (readItems fuel depth (skipBlanks others)).map fun read => (item :: read.1, read.2) := by
  rw [readItems, hitem]
  simp only [bind, Except.bind, hcomma]
  cases readItems fuel depth (skipBlanks others) <;> rfl

theorem readFields_last {text afterKey afterColon left rest : List Char} {key : String}
    {value : Json} (hkey : readString text = .ok (key, afterKey))
    (hcolon : skipBlanks afterKey = ':' :: afterColon)
    (hvalue : readValue fuel depth (skipBlanks afterColon) = .ok (value, left))
    (hend : skipBlanks left = '\x7d' :: rest) :
    readFields (fuel + 1) depth ('"' :: text) = .ok ([(key, value)], rest) := by
  simp only [readFields, hkey, bind, Except.bind, hcolon, hvalue, hend]

theorem readFields_more {text afterKey afterColon left others : List Char} {key : String}
    {value : Json} (hkey : readString text = .ok (key, afterKey))
    (hcolon : skipBlanks afterKey = ':' :: afterColon)
    (hvalue : readValue fuel depth (skipBlanks afterColon) = .ok (value, left))
    (hcomma : skipBlanks left = ',' :: others) :
    readFields (fuel + 1) depth ('"' :: text) =
      (readFields fuel depth (skipBlanks others)).map fun read =>
        ((key, value) :: read.1, read.2) := by
  simp only [readFields, hkey, bind, Except.bind, hcolon, hvalue, hcomma]
  cases readFields fuel depth (skipBlanks others) <;> rfl

/-! ## Values -/

theorem ends_lineBreak (style : Style) (level : Nat) {c : Char} {rest : List Char}
    (hends : Numeral.Ends (c :: rest)) : Numeral.Ends (lineBreak style level ++ c :: rest) := by
  unfold lineBreak
  cases style.indent with
  | none => exact hends
  | some width =>
      intro first hfirst
      cases hfirst
      decide

/-- Is the character one that stands after a value? -/
def closes (c : Char) : Bool := c = ',' || c = ']' || c = '\x7d'

theorem closes_cases {c : Char} (hcloses : closes c = true) : c = ',' ∨ c = ']' ∨ c = '\x7d' := by
  simpa [closes, or_assoc] using hcloses

theorem ends_of_closes {c : Char} (hcloses : closes c = true) (rest : List Char) :
    Numeral.Ends (c :: rest) := by
  intro first hfirst
  cases hfirst
  rcases closes_cases hcloses with rfl | rfl | rfl <;> decide

/-- A break before the end of an array or object is left out. -/
theorem skipBlanks_of_closes {c : Char} (hcloses : closes c = true) (level : Nat)
    (rest : List Char) : skipBlanks (lineBreak style level ++ c :: rest) = c :: rest := by
  rw [skipBlanks_lineBreak]
  rcases closes_cases hcloses with rfl | rfl | rfl <;> rfl

/-- The text of an array after an item, with the items that are left. -/
def itemsAfter (style : Style) (level : Nat) : List Json → List Char
  | [] => []
  | item :: items => ',' :: renderItems style level (item :: items)

/-- The text of an object after a field, with the fields that are left. -/
def fieldsAfter (style : Style) (level : Nat) : List (String × Json) → List Char
  | [] => []
  | field :: fields => ',' :: renderFields style level (field :: fields)

theorem renderItems_cons (style : Style) (level : Nat) (item : Json) (items : List Json) :
    renderItems style level (item :: items) =
      lineBreak style level ++ (render style level item ++ itemsAfter style level items) := by
  cases items <;> simp [renderItems, itemsAfter]

theorem renderFields_cons (style : Style) (level : Nat) (key : String) (value : Json)
    (fields : List (String × Json)) :
    renderFields style level ((key, value) :: fields) =
      lineBreak style level ++ (stringText style key ++ (keySeparator style ++
        (render style level value ++ fieldsAfter style level fields))) := by
  cases fields <;> simp [renderFields, fieldsAfter]

/-- The items of an array begin, after a break, with the first one. -/
theorem skipBlanks_renderItems (level : Nat) (item : Json) (items : List Json)
    (text : List Char) :
    skipBlanks (renderItems style level (item :: items) ++ text) =
      render style level item ++ (itemsAfter style level items ++ text) := by
  rw [renderItems_cons, List.append_assoc, List.append_assoc, skipBlanks_lineBreak,
    skipBlanks_render]

/-- The fields of an object begin, after a break, with the first key. -/
theorem skipBlanks_renderFields (level : Nat) (key : String) (value : Json)
    (fields : List (String × Json)) (text : List Char) :
    skipBlanks (renderFields style level ((key, value) :: fields) ++ text) =
      '"' :: (key.toList.flatMap (stringChar style) ++ '"' :: (keySeparator style ++
        (render style level value ++ (fieldsAfter style level fields ++ text)))) := by
  rw [renderFields_cons]
  simp only [List.append_assoc, skipBlanks_lineBreak, stringText, List.cons_append,
    List.nil_append]
  rfl

theorem skipBlanks_renderItems_ne (level : Nat) (item : Json) (items : List Json)
    (text others : List Char) :
    skipBlanks (renderItems style level (item :: items) ++ text) ≠ ']' :: others := by
  obtain ⟨first, rest, hrender, hbegins, -⟩ := render_eq_cons style level item
  rw [skipBlanks_renderItems, hrender, List.cons_append]
  intro heq
  rw [(List.cons.inj heq).1] at hbegins
  cases hbegins

theorem skipBlanks_renderFields_ne (level : Nat) (key : String) (value : Json)
    (fields : List (String × Json)) (text others : List Char) :
    skipBlanks (renderFields style level ((key, value) :: fields) ++ text) ≠
      '\x7d' :: others := by
  rw [skipBlanks_renderFields]
  intro heq
  cases heq

theorem ends_itemsAfter (level : Nat) (items : List Json) {text : List Char}
    (hends : Numeral.Ends text) : Numeral.Ends (itemsAfter style level items ++ text) := by
  cases items with
  | nil => exact hends
  | cons item items => exact ends_of_closes rfl _

theorem ends_fieldsAfter (level : Nat) (fields : List (String × Json)) {text : List Char}
    (hends : Numeral.Ends text) : Numeral.Ends (fieldsAfter style level fields ++ text) := by
  cases fields with
  | nil => exact hends
  | cons field fields => exact ends_of_closes rfl _

mutual

/-- An exact value is read off the front of a text that begins with its own text. -/
theorem readValue_render : ∀ (value : Json) (fuel depth level : Nat) (rest : List Char),
    IsExact value → nesting value ≤ depth →
      2 * (render style level value).length ≤ fuel + 1 → Numeral.Ends rest →
        readValue (fuel + 1) depth (render style level value ++ rest) = .ok (value, rest)
  | .null, fuel, depth, level, rest, _, _, _, _ => rfl
  | .bool true, fuel, depth, level, rest, _, _, _, _ => rfl
  | .bool false, fuel, depth, level, rest, _, _, _, _ => rfl
  | .num (.real _), fuel, depth, level, rest, hexact, _, _, hends =>
      readValue_toChars fuel depth hexact hends
  | .num (.whole _), fuel, depth, level, rest, hexact, _, _, hends =>
      readValue_ofInt fuel depth hexact hends
  | .str text, fuel, depth, level, rest, hexact, _, _, _ => by
      have hread := readString_stringText style hexact rest
      rw [render, stringText, List.cons_append, List.append_assoc, List.singleton_append, readValue,
        hread]
      rfl
  | .arr [], fuel, depth, level, rest, _, hdepth, _, _ => by
      rw [nesting] at hdepth
      obtain ⟨depth, rfl⟩ : ∃ inner, depth = inner + 1 := ⟨depth - 1, by omega⟩
      rfl
  | .arr (item :: items), fuel, depth, level, rest, hexact, hdepth, hfuel, _ => by
      rw [nesting] at hdepth
      obtain ⟨depth, rfl⟩ : ∃ inner, depth = inner + 1 := ⟨depth - 1, by omega⟩
      simp only [render, List.length_cons, List.length_append] at hfuel
      simp only [render, List.cons_append, List.append_assoc, List.nil_append]
      rw [readValue_array (skipBlanks_renderItems_ne (level + 1) item items _),
        readItems_render (item :: items) fuel depth (level + 1) level rest
          (List.cons_ne_nil _ _) hexact (by omega) (by omega)]
      rfl
  | .obj [], fuel, depth, level, rest, _, hdepth, _, _ => by
      rw [nesting] at hdepth
      obtain ⟨depth, rfl⟩ : ∃ inner, depth = inner + 1 := ⟨depth - 1, by omega⟩
      rfl
  | .obj ((key, value) :: fields), fuel, depth, level, rest, hexact, hdepth, hfuel, _ => by
      obtain ⟨hnodup, hexact⟩ := hexact
      rw [nesting] at hdepth
      obtain ⟨depth, rfl⟩ : ∃ inner, depth = inner + 1 := ⟨depth - 1, by omega⟩
      simp only [render, List.length_cons, List.length_append] at hfuel
      simp only [render, List.cons_append, List.append_assoc, List.nil_append]
      -- no name is there twice, so no field takes the place of another one
      rw [readValue_object (skipBlanks_renderFields_ne (level + 1) key value fields _),
        readFields_render ((key, value) :: fields) fuel depth (level + 1) level rest
          (List.cons_ne_nil _ _) hexact (by omega) (by omega),
        Except.map, OrderedMap.ofPairs_of_nodup hnodup]

/-- The items of an array, at least one, are read up to the closing bracket. -/
theorem readItems_render : ∀ (items : List Json) (fuel depth level outer : Nat)
    (rest : List Char), items ≠ [] → ItemsRegular (fun text => Text.isJoined text = true) items →
      itemsNesting items ≤ depth →
      2 * (renderItems style level items).length < fuel →
        readItems fuel depth (skipBlanks (renderItems style level items ++
          (lineBreak style outer ++ ']' :: rest))) = .ok (items, rest)
  | [], _, _, _, _, _, hsome, _, _, _ => absurd rfl hsome
  | item :: items, fuel, depth, level, outer, rest, _, hexact, hdepth, hfuel => by
      rw [itemsNesting] at hdepth
      simp only [renderItems_cons, List.length_append] at hfuel
      -- an item has a text, so there is fuel for a step of its own
      have hpos := length_render_pos style level item
      obtain ⟨fuel, rfl⟩ : ∃ left, fuel = left + 2 := ⟨fuel - 2, by omega⟩
      have hcloses : closes ']' = true := rfl
      have hends := ends_lineBreak style outer (ends_of_closes hcloses rest)
      have hitem := readValue_render item fuel depth level
        (itemsAfter style level items ++ (lineBreak style outer ++ ']' :: rest)) hexact.1
        (Nat.le_trans (Nat.le_max_left ..) hdepth) (by omega) (ends_itemsAfter level items hends)
      rw [skipBlanks_renderItems]
      cases items with
      | nil => exact readItems_last hitem (skipBlanks_of_closes hcloses outer rest)
      | cons next items =>
          simp only [itemsAfter, List.length_cons] at hfuel
          have hitems := readItems_render (next :: items) (fuel + 1) depth level outer rest
            (List.cons_ne_nil _ _) hexact.2 (Nat.le_trans (Nat.le_max_right ..) hdepth) (by omega)
          refine (readItems_more hitem rfl).trans ?_
          exact congrArg (Except.map fun read => (item :: read.1, read.2)) hitems

/-- The fields of an object, at least one, are read up to the closing brace. -/
theorem readFields_render : ∀ (fields : List (String × Json)) (fuel depth level outer : Nat)
    (rest : List Char), fields ≠ [] →
      FieldsRegular (fun text => Text.isJoined text = true) fields →
      fieldsNesting fields ≤ depth →
      2 * (renderFields style level fields).length < fuel →
        readFields fuel depth (skipBlanks (renderFields style level fields ++
          (lineBreak style outer ++ '\x7d' :: rest))) = .ok (fields, rest)
  | [], _, _, _, _, _, hsome, _, _, _ => absurd rfl hsome
  | (key, value) :: fields, fuel, depth, level, outer, rest, _, hexact, hdepth, hfuel => by
      obtain ⟨hkey, hvalue, hexact⟩ := hexact
      rw [fieldsNesting] at hdepth
      simp only [renderFields_cons, List.length_append] at hfuel
      have hpos := length_render_pos style level value
      obtain ⟨fuel, rfl⟩ : ∃ left, fuel = left + 2 := ⟨fuel - 2, by omega⟩
      have hcloses : closes '\x7d' = true := rfl
      have hends := ends_lineBreak style outer (ends_of_closes hcloses rest)
      have hread := readValue_render value fuel depth level
        (fieldsAfter style level fields ++ (lineBreak style outer ++ '\x7d' :: rest)) hvalue
        (Nat.le_trans (Nat.le_max_left ..) hdepth) (by omega) (ends_fieldsAfter level fields hends)
      obtain ⟨left, hcolon, hleft⟩ := skipBlanks_keySeparator style (render style level value ++
        (fieldsAfter style level fields ++ (lineBreak style outer ++ '\x7d' :: rest)))
      rw [skipBlanks_render] at hleft
      rw [← hleft] at hread
      rw [skipBlanks_renderFields]
      cases fields with
      | nil =>
          exact readFields_last (readString_stringText style hkey _) hcolon hread
            (skipBlanks_of_closes hcloses outer rest)
      | cons next fields =>
          simp only [fieldsAfter, List.length_cons] at hfuel
          have hfields := readFields_render (next :: fields) (fuel + 1) depth level outer rest
            (List.cons_ne_nil _ _) hexact (Nat.le_trans (Nat.le_max_right ..) hdepth) (by omega)
          refine (readFields_more (readString_stringText style hkey _) hcolon hread rfl).trans ?_
          exact congrArg (Except.map fun read => ((key, value) :: read.1, read.2)) hfields

end

/-- An exact value is read off its own text. -/
theorem readText_toText {value : Json} (hexact : IsExact value) {depth : Nat}
    (hdepth : nesting value ≤ depth) : readText depth (value.toText style).toList = .ok value := by
  have hread := readValue_render value _ depth 0 [] hexact hdepth
    (Nat.le_succ_of_le (Nat.le_succ (2 * (render style 0 value).length))) Numeral.ends_nil
  rw [List.append_nil] at hread
  have hskip : skipBlanks (render style 0 value ++ []) = render style 0 value ++ [] :=
    skipBlanks_render 0 value []
  rw [List.append_nil] at hskip
  rw [toText, String.toList_ofList, readText, hskip, hread]
  rfl

end VisualNovel.Json
