import VisualNovel.Gateway.Scripted
import VisualNovel.Proofs.Cast.Grouping
import VisualNovel.Proofs.Client.Gateways
import VisualNovel.Proofs.Script.Order

/-!
# Loading all of a catalog or nothing

Loading asks for the script and for the cast.  If one of the two calls fails, then loading fails in
the same way.  Otherwise both replies are objects, and all that can be wrong are the records in
them: there may be something else in their place, or one of them may not be valid.  Then the client
fails internally; if nothing is wrong, the catalog is made of all records
(`loadCatalog_all_or_nothing`).

What stands in the place of the records is gone through, whatever it is: an array by its items, an
object by its keys, and a text by its characters.
-/

namespace VisualNovel

/-! ## Going through a value -/

namespace Json

/-- Can the value not be gone through? -/
inductive Solid : Json → Prop
  | null : Solid .null
  | bool (value : Bool) : Solid (.bool value)
  | num (value : Number) : Solid (.num value)

/-- Is the element met when the value is gone through? -/
inductive Meets : Json → Json → Prop
  | item {items : List Json} {element : Json} (hmem : element ∈ items) : Meets (.arr items) element
  | key {fields : Fields} {field : String × Json} (hmem : field ∈ fields) :
      Meets (.obj fields) (.str field.1)
  | character {text : String} {c : Char} (hmem : c ∈ text.toList) :
      Meets (.str text) (.str (String.singleton c))

theorem solid_or_elements? (value : Json) : value.Solid ∧ value.elements? = none ∨
    ¬ value.Solid ∧ ∃ elements, value.elements? = some elements ∧
      ∀ element, value.Meets element ↔ element ∈ elements := by
  cases value with
  | null => exact .inl ⟨.null, rfl⟩
  | bool value => exact .inl ⟨.bool value, rfl⟩
  | num value => exact .inl ⟨.num value, rfl⟩
  | str text =>
      refine .inr ⟨nofun, _, rfl, fun element => ?_⟩
      rw [List.mem_map]
      constructor
      · rintro ⟨⟩
        exact ⟨_, ‹_›, rfl⟩
      · rintro ⟨c, hmem, rfl⟩
        exact .character hmem
  | arr items =>
      refine .inr ⟨nofun, _, rfl, fun element => ?_⟩
      constructor
      · rintro ⟨⟩
        assumption
      · exact .item
  | obj fields =>
      refine .inr ⟨nofun, _, rfl, fun element => ?_⟩
      rw [List.mem_map]
      constructor
      · rintro ⟨⟩
        exact ⟨_, ‹_›, rfl⟩
      · rintro ⟨field, hmem, rfl⟩
        exact .key hmem

end Json

/-! ## Records in a reply -/

section

variable {α : Type} {read : Reader α} {record name : String} {fields : Fields}

/-- What stands under the name, or no records. -/
def recordsUnder (name : String) (fields : Fields) : Json :=
  (OrderedMap.at? name fields).getD (.arr [])

/-- Is there something else under the name than valid records? -/
def Spoilt (name : String) (valid : Json → Prop) (fields : Fields) : Prop :=
  ∃ value, OrderedMap.at? name fields = some value ∧
    (value.Solid ∨ ∃ element, value.Meets element ∧ ¬ valid element)

/-- What is spoilt is not read, and everything else is. -/
theorem collection_fails_iff :
    (∃ fault, read.collection record (recordsUnder name fields) = .error fault) ↔
      Spoilt name (fun element => ∃ result, read element = .accepted result) fields := by
  have hfails : (∃ fault, read.collection record (recordsUnder name fields) = .error fault) ↔
      ¬ ∃ results, read.collection record (recordsUnder name fields) = .ok results := by
    cases read.collection record (recordsUnder name fields) <;> simp
  rw [hfails, Reader.exists_collection_iff, Spoilt, recordsUnder]
  cases OrderedMap.at? name fields with
  | none => simp [Json.elements?]
  | some value =>
      rcases value.solid_or_elements? with ⟨hsolid, hnone⟩ | ⟨hsolid, elements, hsome, hmeets⟩
      · simp [hsolid, hnone]
      · simp [hsolid, hsome, hmeets]

end

/-! ## Loading -/

variable {σ : Type} {gateway : Gateway σ} {world between left : σ} {tenant scenario : String}
  {script cast : Except ClientFault Json}

theorem catalogOfReplies_eq (lines records : Fields) :
    catalogOfReplies (.obj lines) (.obj records) =
      ((Command.script (recordsUnder "scenario" lines)).bind fun commands =>
        (Cast.ofCollection (recordsUnder "characters" records)).map fun cast =>
          (⟨commands, cast⟩ : Catalog)).mapError malformedRecords := by
  have hlines : replyField "scenario" (.arr []) (.obj lines) =
      .ok (recordsUnder "scenario" lines) := rfl
  have hrecords : replyField "characters" (.arr []) (.obj records) =
      .ok (recordsUnder "characters" records) := rfl
  rw [catalogOfReplies, hlines, hrecords]
  simp only [bind, Except.bind]
  cases Command.script (recordsUnder "scenario" lines) with
  | error fault => rfl
  | ok commands => cases Cast.ofCollection (recordsUnder "characters" records) <;> rfl

/-- Two objects make a catalog of all records in them, or there is an internal failure; there is one
if some records are not read. -/
theorem catalogOfReplies_outcome (lines records : Fields) :
    ((∃ commands characters,
        catalogOfReplies (.obj lines) (.obj records) = .ok ⟨commands, characters⟩ ∧
          Command.script (recordsUnder "scenario" lines) = .ok commands ∧
          Cast.ofCollection (recordsUnder "characters" records) = .ok characters) ∨
        ∃ failure, catalogOfReplies (.obj lines) (.obj records) = .error (.gateway failure) ∧
          failure.kind = .internal) ∧
      ((∃ failure, catalogOfReplies (.obj lines) (.obj records) = .error failure) ↔
        (∃ fault, Command.script (recordsUnder "scenario" lines) = .error fault) ∨
          ∃ fault, Cast.ofCollection (recordsUnder "characters" records) = .error fault) := by
  have hinternal : ∀ fault : CollectionFault, ∃ failure,
      malformedRecords fault = .gateway failure ∧ failure.kind = .internal :=
    fun fault => ⟨_, rfl, rfl⟩
  rw [catalogOfReplies_eq]
  cases Command.script (recordsUnder "scenario" lines) with
  | error fault =>
      obtain ⟨failure, hfailure, hkind⟩ := hinternal fault
      exact ⟨.inr ⟨failure, congrArg Except.error hfailure, hkind⟩,
        iff_of_true ⟨_, rfl⟩ (.inl ⟨fault, rfl⟩)⟩
  | ok commands =>
      cases Cast.ofCollection (recordsUnder "characters" records) with
      | error fault =>
          obtain ⟨failure, hfailure, hkind⟩ := hinternal fault
          exact ⟨.inr ⟨failure, congrArg Except.error hfailure, hkind⟩,
            iff_of_true ⟨_, rfl⟩ (.inr ⟨fault, rfl⟩)⟩
      | ok characters =>
          refine ⟨.inl ⟨commands, characters, rfl, rfl, rfl⟩, iff_of_false nofun ?_⟩
          rintro (⟨_, hfault⟩ | ⟨_, hfault⟩) <;> cases hfault

theorem script_fails_iff {lines : Fields} :
    (∃ fault, Command.script (recordsUnder "scenario" lines) = .error fault) ↔
      Spoilt "scenario" (fun line => ∃ command, Command.IsRecord line command) lines := by
  have hcollection := @collection_fails_iff _ Command.read "Command" "scenario" lines
  simp only [Command.read_eq_accepted_iff] at hcollection
  rw [← hcollection, Command.script]
  cases Command.read.collection "Command" (recordsUnder "scenario" lines) <;> simp [Except.map]

theorem cast_fails_iff {records : Fields} :
    (∃ fault, Cast.ofCollection (recordsUnder "characters" records) = .error fault) ↔
      Spoilt "characters" (fun record => ∃ found, CharacterRecord.IsRecord record found)
        records := by
  have hcollection :=
    @collection_fails_iff _ CharacterRecord.read "CharacterRecord" "characters" records
  simp only [CharacterRecord.read_eq_accepted_iff] at hcollection
  rw [← hcollection, Cast.ofCollection]
  cases CharacterRecord.read.collection "CharacterRecord" (recordsUnder "characters" records) <;>
    simp [Except.map]

/-- **A catalog is loaded whole or not at all.**  Both calls come to an object or to a failure of
the gateway.  If one of them fails, so does loading, with the failure of one of them.  Otherwise the
catalog is that of all records, or there is an internal failure: there is one if what stands in the
place of some records is spoilt, and only then. -/
theorem loadCatalog_all_or_nothing
    (hscript : (gateway.call "getScenario"
      (.obj [("tenantId", .str tenant), ("scenarioName", .str scenario)])).run world =
        (script, between))
    (hcast : (gateway.call "getCharacters" (.obj [("tenantId", .str tenant)])).run between =
      (cast, left))
    (hscriptOrderly : IsOrderly script) (hcastOrderly : IsOrderly cast) :
    ∃ outcome, (loadCatalog gateway tenant scenario).run world = (outcome, left) ∧
      ((∃ failure, script = .error failure ∨ cast = .error failure) →
        ∃ failure, outcome = .error (.gateway failure) ∧
          (script = .error (.gateway failure) ∨ cast = .error (.gateway failure))) ∧
      ∀ lines records, script = .ok (.obj lines) → cast = .ok (.obj records) →
        ((∃ commands characters, outcome = .ok ⟨commands, characters⟩ ∧
            Command.script (recordsUnder "scenario" lines) = .ok commands ∧
            Cast.ofCollection (recordsUnder "characters" records) = .ok characters) ∨
          ∃ failure, outcome = .error (.gateway failure) ∧ failure.kind = .internal) ∧
        ((∃ failure, outcome = .error failure) ↔
          Spoilt "scenario" (fun line => ∃ command, Command.IsRecord line command) lines ∨
            Spoilt "characters" (fun record => ∃ found, CharacterRecord.IsRecord record found)
              records) := by
  refine ⟨_, loadCatalog_of_calls hscript hcast, ?_, ?_⟩
  · rcases hscriptOrderly.cases with ⟨lines, rfl⟩ | ⟨failure, rfl⟩
    · rcases hcastOrderly.cases with ⟨records, rfl⟩ | ⟨failure, rfl⟩
      · rintro ⟨failure, hfailure | hfailure⟩ <;> cases hfailure
      · exact fun _ => ⟨failure, rfl, .inr rfl⟩
    · exact fun _ => ⟨failure, rfl, .inl rfl⟩
  · rintro lines records rfl rfl
    rw [← script_fails_iff, ← cast_fails_iff]
    exact catalogOfReplies_outcome lines records

/-- Replies with a text in the place of the script, and without a cast. -/
def Rehearsal.withText (text : String) : Rehearsal :=
  { replies := [("getScenario", [.ok (.obj [("scenario", .str text)])]),
      ("getCharacters", [.ok (.obj [])])] }

/-- A text in the place of the script is gone through: the empty one is no script line, and any
character is a bad one. -/
theorem loadCatalog_withText :
    (∃ catalog left,
      (loadCatalog Rehearsal.gateway "shop" "main").run (.withText "") = (.ok catalog, left)) ∧
    ∃ failure left,
      (loadCatalog Rehearsal.gateway "shop" "main").run (.withText "a") =
        (.error (.gateway failure), left) ∧ failure.kind = .internal := by
  constructor
  · obtain ⟨outcome, hrun, -, hobjects⟩ :=
      @loadCatalog_all_or_nothing _ Rehearsal.gateway (.withText "") _ _ "shop" "main" _ _ rfl rfl
        trivial trivial
    obtain ⟨houtcome | hfails, hiff⟩ := hobjects _ _ rfl rfl
    · obtain ⟨commands, characters, rfl, -⟩ := houtcome
      exact ⟨_, _, hrun⟩
    · obtain ⟨failure, hfailure, -⟩ := hfails
      rcases hiff.mp ⟨_, hfailure⟩ with ⟨value, hvalue, hspoilt⟩ | ⟨value, hvalue, -⟩
      · cases hvalue
        rcases hspoilt with hsolid | ⟨element, hmeets, -⟩
        · cases hsolid
        · cases hmeets with
          | character hmem => simp at hmem
      · cases hvalue
  · obtain ⟨outcome, hrun, -, hobjects⟩ :=
      @loadCatalog_all_or_nothing _ Rehearsal.gateway (.withText "a") _ _ "shop" "main" _ _ rfl rfl
        trivial trivial
    obtain ⟨⟨commands, characters, rfl, -⟩ | ⟨failure, rfl, hkind⟩, hiff⟩ := hobjects _ _ rfl rfl
    · have hspoilt : Spoilt "scenario" (fun line => ∃ command, Command.IsRecord line command)
          [("scenario", .str "a")] :=
        ⟨.str "a", rfl, .inr ⟨.str "a", @Json.Meets.character "a" 'a' (by decide), nofun⟩⟩
      obtain ⟨_, hfails⟩ := hiff.mpr (.inl hspoilt)
      cases hfails
    · exact ⟨failure, _, hrun, hkind⟩

end VisualNovel
