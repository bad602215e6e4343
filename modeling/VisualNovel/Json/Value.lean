import VisualNovel.Number.Numeral
import VisualNovel.OrderedMap

/-!
# JSON values

Scripts, casts, saves, requests and replies are JSON.  Whole numbers are kept
apart from doubles, and an object keeps its keys in the order in which they came,
because documents are stored, listed and shown as they were given.

A value is *well formed* when no object in it has a key twice.
-/

namespace VisualNovel

/-- A JSON value. -/
inductive Json where
  | null
  | bool (value : Bool)
  | num (value : Number)
  | str (text : String)
  | arr (items : List Json)
  | obj (fields : List (String × Json))
  deriving Inhabited

namespace Json

/-- A whole number as a value. -/
def int (value : Int) : Json := .num (.whole value)

/-! ## Equality -/

mutual

/-- Are two values the same? -/
def same : Json → Json → Bool
  | .null, .null => true
  | .bool a, .bool b => a == b
  | .num a, .num b => a = b
  | .str a, .str b => a = b
  | .arr a, .arr b => sameItems a b
  | .obj a, .obj b => sameFields a b
  | _, _ => false

/-- Are two arrays the same, item by item? -/
def sameItems : List Json → List Json → Bool
  | [], [] => true
  | a :: as, b :: bs => same a b && sameItems as bs
  | _, _ => false

/-- Are two objects the same, in the order of their fields too? -/
def sameFields : List (String × Json) → List (String × Json) → Bool
  | [], [] => true
  | (key, a) :: as, (other, b) :: bs => key = other && same a b && sameFields as bs
  | _, _ => false

end

mutual

theorem same_iff : ∀ {a b : Json}, same a b = true ↔ a = b
  | .null, b => by cases b <;> simp [same]
  | .bool _, b => by cases b <;> simp [same]
  | .num _, b => by cases b <;> simp [same]
  | .str _, b => by cases b <;> simp [same]
  | .arr as, b => by
    cases b with
    | arr bs => simpa [same] using sameItems_iff
    | _ => simp [same]
  | .obj as, b => by
    cases b with
    | obj bs => simpa [same] using sameFields_iff
    | _ => simp [same]

theorem sameItems_iff : ∀ {as bs : List Json}, sameItems as bs = true ↔ as = bs
  | [], bs => by cases bs <;> simp [sameItems]
  | a :: as, bs => by
    cases bs with
    | nil => simp [sameItems]
    | cons b bs => simp [sameItems, @same_iff a b, @sameItems_iff as bs]

theorem sameFields_iff : ∀ {as bs : List (String × Json)}, sameFields as bs = true ↔ as = bs
  | [], bs => by cases bs <;> simp [sameFields]
  | (key, a) :: as, bs => by
    cases bs with
    | nil => simp [sameFields]
    | cons b bs =>
      obtain ⟨other, b⟩ := b
      simp [sameFields, @same_iff a b, @sameFields_iff as bs, and_assoc]

end

instance : DecidableEq Json := fun _ _ => decidable_of_iff _ same_iff

/-! ## Well-formed values -/

mutual

/-- Does no object in the value have a key twice? -/
def WellFormed : Json → Prop
  | .arr items => ItemsWellFormed items
  | .obj fields => (fields.map Prod.fst).Nodup ∧ FieldsWellFormed fields
  | _ => True

/-- Are all items of an array well formed? -/
def ItemsWellFormed : List Json → Prop
  | [] => True
  | item :: rest => WellFormed item ∧ ItemsWellFormed rest

/-- Are the values of all fields of an object well formed? -/
def FieldsWellFormed : List (String × Json) → Prop
  | [] => True
  | (_, value) :: rest => WellFormed value ∧ FieldsWellFormed rest

end

/-! ## Depth -/

mutual

/-- How many arrays and objects lie within one another. -/
def nesting : Json → Nat
  | .arr items => itemsNesting items + 1
  | .obj fields => fieldsNesting fields + 1
  | _ => 0

/-- How deep the deepest item of an array is. -/
def itemsNesting : List Json → Nat
  | [] => 0
  | item :: rest => max (nesting item) (itemsNesting rest)

/-- How deep the deepest value in an object is. -/
def fieldsNesting : List (String × Json) → Nat
  | [] => 0
  | (_, value) :: rest => max (nesting value) (fieldsNesting rest)

end

theorem itemsNesting_le_iff {items : List Json} {depth : Nat} :
    itemsNesting items ≤ depth ↔ ∀ item ∈ items, nesting item ≤ depth := by
  induction items with
  | nil => exact iff_of_true (Nat.zero_le _) (fun _ hmem => nomatch hmem)
  | cons first rest ih => rw [itemsNesting, Nat.max_le, ih, List.forall_mem_cons]

theorem fieldsNesting_le_iff {fields : List (String × Json)} {depth : Nat} :
    fieldsNesting fields ≤ depth ↔ ∀ field ∈ fields, nesting field.2 ≤ depth := by
  induction fields with
  | nil => exact iff_of_true (Nat.zero_le _) (fun _ hmem => nomatch hmem)
  | cons first rest ih =>
    obtain ⟨name, value⟩ := first
    rw [fieldsNesting, Nat.max_le, ih, List.forall_mem_cons]

theorem nesting_singleton (name : String) (value : Json) :
    nesting (.obj [(name, value)]) = nesting value + 1 := by
  rw [nesting, fieldsNesting, fieldsNesting, Nat.max_zero]

/-! ## Looking into a value -/

/-- Null, false, zero, the empty text and the empty containers are not truthy. -/
def isTruthy : Json → Bool
  | .null => false
  | .bool value => value
  | .num (.whole value) => value != 0
  | .num (.real value) => !value.isZero
  | .str text => !text.isEmpty
  | .arr items => !items.isEmpty
  | .obj fields => !fields.isEmpty

/-- The parts of a value that can be gone through one by one: the items of an array,
the characters of a text, the keys of an object. -/
def elements? : Json → Option (List Json)
  | .arr items => some items
  | .str text => some (text.toList.map fun c => .str (String.singleton c))
  | .obj fields => some (fields.map fun field => .str field.1)
  | _ => none

/-- The field of an object, if the value is an object that has it. -/
def field? (name : String) : Json → Option Json
  | .obj fields => OrderedMap.at? name fields
  | _ => none

end Json

end VisualNovel
