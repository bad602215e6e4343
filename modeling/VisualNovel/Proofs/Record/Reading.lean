import Mathlib.Data.List.Perm.Basic
import VisualNovel.Record.Refusal
import VisualNovel.Record.Scalar

/-!
# Reading records that are in order

The checks of records report every fault.  Here are the facts about records without one: a
field that is there is accepted if its value is, an optional field that is absent gets its
default, every text and every object is accepted, and a collection is accepted if all of its
records are.
-/

namespace VisualNovel

variable {α : Type} {fields : Fields}

@[simp] theorem Checked.within_accepted (step : Step) (value : α) :
    (accepted value).within step = accepted value := rfl

@[simp] theorem Checked.within_eq_accepted_iff {step : Step} {checked : Checked α} {value : α} :
    checked.within step = accepted value ↔ checked = accepted value := by
  cases checked <;> simp [within]

namespace Field

theorem find?_of_wire {field : Field} {value : Json}
    (hvalue : OrderedMap.at? field.wire fields = some value) :
    field.find? fields = some (field.wire, value) := by
  simp [find?, hvalue]

theorem find?_plain (fields : Fields) (name : String) :
    (plain name).find? fields = (OrderedMap.at? name fields).map fun value => (name, value) := by
  unfold find? plain
  cases OrderedMap.at? name fields <;> rfl

theorem required_of_find? {field : Field} {read : Reader α} {name : String} {value : Json}
    {result : α} (hfind : field.find? fields = some (name, value))
    (hread : read value = .accepted result) : field.required read fields = .accepted result := by
  simp [required, hfind, hread]

theorem optional_of_find? {field : Field} {absent : α} {read : Reader α} {name : String}
    {value : Json} {result : α} (hfind : field.find? fields = some (name, value))
    (hread : read value = .accepted result) :
    field.optional absent read fields = .accepted result := by
  simp [optional, hfind, hread]

theorem optional_of_absent {field : Field} {absent : α} {read : Reader α}
    (hfind : field.find? fields = none) : field.optional absent read fields = .accepted absent := by
  simp [optional, hfind]

/-- The value of a field, under the name that it has in messages or else under its own. -/
def value? (field : Field) (fields : Fields) : Option Json :=
  (OrderedMap.at? field.wire fields).or (OrderedMap.at? field.name fields)

theorem map_find? (field : Field) (fields : Fields) :
    (field.find? fields).map Prod.snd = field.value? fields := by
  unfold find? value?
  cases OrderedMap.at? field.wire fields with
  | some value => rfl
  | none => cases OrderedMap.at? field.name fields <;> rfl

theorem value?_plain (fields : Fields) (name : String) :
    (plain name).value? fields = OrderedMap.at? name fields := by
  rw [value?, plain]
  cases OrderedMap.at? name fields <;> rfl

theorem required_eq_accepted_iff {field : Field} {read : Reader α} {value : α} :
    field.required read fields = .accepted value ↔
      ∃ json, field.value? fields = some json ∧ read json = .accepted value := by
  rw [← map_find?, required]
  cases field.find? fields <;> simp

/-- A field that may be absent is accepted with its default, or with what its value is read as. -/
theorem optional_eq_accepted_iff {field : Field} {absent value : α} {read : Reader α} :
    field.optional absent read fields = .accepted value ↔
      (field.value? fields = none ∧ absent = value) ∨
        ∃ json, field.value? fields = some json ∧ read json = .accepted value := by
  rw [← map_find?, optional]
  cases field.find? fields <;> simp

/-- A relation that says what an absent value and a value are read as says so of a field. -/
theorem optional_iff {field : Field} {absent value : α} {read : Reader α}
    {means : Option Json → α → Prop} (habsent : ∀ value, means none value ↔ absent = value)
    (hread : ∀ {json value}, read json = .accepted value ↔ means (some json) value) :
    field.optional absent read fields = .accepted value ↔ means (field.value? fields) value := by
  rw [optional_eq_accepted_iff]
  cases field.value? fields with
  | none => simp [habsent]
  | some json => simp [hread]

end Field

namespace Reader

theorem text_eq_accepted_iff {value : Json} {text : String} :
    Reader.text value = .accepted text ↔ value = .str text := by
  cases value <;> simp [Reader.text, Checked.fault]

theorem natural_eq_accepted_iff {value : Json} {size : Nat} :
    natural value = .accepted size ↔ whole value = .accepted (size : Int) := by
  unfold natural
  cases hwhole : whole value with
  | refused faults => exact iff_of_false nofun nofun
  | accepted found =>
      cases found with
      | ofNat found =>
          show Checked.accepted found = .accepted size ↔ Checked.accepted (found : Int) = _
          simp only [Checked.accepted.injEq, Int.natCast_inj]
      | negSucc found => exact iff_of_false nofun nofun

theorem nullable_accepted_iff {read : Reader α} {value : Json} :
    (∃ result, read.nullable value = .accepted result) ↔
      value = .null ∨ ∃ result, read value = .accepted result := by
  cases value with
  | null => simp [nullable]
  | _ => simp [nullable, Checked.map_eq_accepted_iff]

theorem map_accepted (fields : Fields) : map Checked.accepted (.obj fields) = .accepted fields := by
  show entries Checked.accepted fields = _
  induction fields with
  | nil => rfl
  | cons field rest ih =>
      rw [entries, ih]
      rfl

theorem collection_of_accepted {β : Type} {read : Reader α} {value : β → Json} {result : β → α}
    {items : List β} (record : String)
    (hitems : ∀ item ∈ items, read (value item) = .accepted (result item)) :
    read.collection record (.arr (items.map value)) = .ok (items.map result) := by
  have hrequire : (items.map value).mapM (fun element => (read element).require record) =
      .ok (items.map result) := by
    induction items with
    | nil => rfl
    | cons item rest ih =>
        have hrest := ih fun other hother => hitems other (List.mem_cons_of_mem _ hother)
        rw [List.map_cons, List.mapM_cons, hitems item (List.mem_cons_self ..), hrest]
        rfl
  show ((items.map value).mapM fun element => (read element).require record).mapError _ = _
  rw [hrequire]
  rfl

/-- A collection is read if each of its records is. -/
theorem collection_eq_ok_iff {read : Reader α} {record : String} {values : List Json}
    {results : List α} : read.collection record (.arr values) = .ok results ↔
      List.Forall₂ (fun value result => read value = .accepted result) values results := by
  have hrequire : (values.mapM fun element => (read element).require record) = .ok results ↔
      List.Forall₂ (fun value result => read value = .accepted result) values results := by
    induction values generalizing results with
    | nil => cases results <;> simp [pure, Except.pure]
    | cons value rest ih =>
        rw [List.mapM_cons]
        cases results with
        | nil =>
            refine iff_of_false ?_ nofun
            cases read value <;>
              cases rest.mapM fun element => (read element).require record <;> exact nofun
        | cons result others =>
            rw [List.forall₂_cons, ← ih]
            cases read value <;>
              cases rest.mapM fun element => (read element).require record <;>
                simp [Checked.require, bind, Except.bind, pure, Except.pure]
  rw [← hrequire]
  show (values.mapM fun element => (read element).require record).mapError _ = _ ↔ _
  cases values.mapM fun element => (read element).require record <;> simp [Except.mapError]

theorem exists_forall₂_iff {β : Type} {holds : α → β → Prop} {items : List α} :
    (∃ results, List.Forall₂ holds items results) ↔
      ∀ item ∈ items, ∃ result, holds item result := by
  induction items with
  | nil => exact iff_of_true ⟨[], .nil⟩ (List.forall_mem_nil _)
  | cons item rest ih =>
      rw [List.forall_mem_cons, ← ih]
      constructor
      · rintro ⟨results, hall⟩
        obtain ⟨result, others, hitem, hrest, rfl⟩ := List.forall₂_cons_left_iff.mp hall
        exact ⟨⟨result, hitem⟩, others, hrest⟩
      · rintro ⟨⟨result, hitem⟩, results, hrest⟩
        exact ⟨result :: results, .cons hitem hrest⟩

/-- The elements of a value are read if it has some and each of them is a record. -/
theorem exists_collection_iff {read : Reader α} {record : String} {value : Json} :
    (∃ results, read.collection record value = .ok results) ↔
      ∃ elements, value.elements? = some elements ∧
        ∀ element ∈ elements, ∃ result, read element = .accepted result := by
  cases helements : value.elements? with
  | none =>
      have hfault : read.collection record value = .error .notIterable := by
        rw [collection, helements]
      rw [hfault]
      exact iff_of_false nofun nofun
  | some elements =>
      have hsame : read.collection record value = read.collection record (.arr elements) := by
        rw [collection, helements]
        rfl
      simp only [hsame, collection_eq_ok_iff, exists_forall₂_iff, Option.some.injEq,
        exists_eq_left']

/-- The first record that is refused refuses the whole collection. -/
theorem collection_of_refused {read : Reader α} {record : String} {valid rest : List Json}
    {invalid : Json} {faults : List Fault}
    (hvalid : ∀ value ∈ valid, ∃ result, read value = .accepted result)
    (hinvalid : read invalid = .refused faults) :
    read.collection record (.arr (valid ++ invalid :: rest)) =
      .error (.invalid ⟨record, faults⟩) := by
  have hrequire : ((valid ++ invalid :: rest).mapM fun value => (read value).require record) =
      .error ⟨record, faults⟩ := by
    induction valid with
    | nil =>
        rw [List.nil_append, List.mapM_cons, hinvalid]
        rfl
    | cons value others ih =>
        obtain ⟨result, hread⟩ := hvalid value (List.mem_cons_self ..)
        rw [List.cons_append, List.mapM_cons, hread,
          ih fun other hmem => hvalid other (List.mem_cons_of_mem _ hmem)]
        rfl
  show ((valid ++ invalid :: rest).mapM fun value => (read value).require record).mapError _ = _
  rw [hrequire]
  rfl

theorem collection_append {read : Reader α} {record : String} (values more : List Json) :
    read.collection record (.arr (values ++ more)) = (do
      let first ← read.collection record (.arr values)
      let second ← read.collection record (.arr more)
      return first ++ second) := by
  show ((values ++ more).mapM fun value => (read value).require record).mapError _ =
    ((values.mapM fun value => (read value).require record).mapError _).bind fun first =>
      ((more.mapM fun value => (read value).require record).mapError _).bind fun second =>
        .ok (first ++ second)
  rw [List.mapM_append]
  cases values.mapM fun value => (read value).require record with
  | error refusal => rfl
  | ok first => cases more.mapM fun value => (read value).require record <;> rfl

/-- If records are read, then they are read in any order. -/
theorem collection_perm {read : Reader α} {record : String} {values others : List Json}
    {results : List α} (hperm : others.Perm values)
    (hread : read.collection record (.arr values) = .ok results) :
    ∃ permuted, read.collection record (.arr others) = .ok permuted ∧ permuted.Perm results := by
  obtain ⟨permuted, hall, hresults⟩ :=
    List.perm_comp_forall₂ hperm (collection_eq_ok_iff.mp hread)
  exact ⟨permuted, collection_eq_ok_iff.mpr hall, hresults⟩

end Reader

end VisualNovel
