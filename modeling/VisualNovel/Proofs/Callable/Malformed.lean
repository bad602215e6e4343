import VisualNovel.Proofs.Callable.Parts
import VisualNovel.Proofs.Http.Task

/-!
# Malformed payloads

A payload is malformed for a callable (`Callable.Malformed`) if it is no record, if one of its
arguments does not fit or is not given, or if the tenant is no key.  These are exactly the payloads
of which the callable makes no task (`Callable.task?_eq_none_iff`), so a malformed payload is
turned away without a look at the store, and every other one is not.

The code of a save need not be a key.  No save has a code that is none, so it is not found.
-/

namespace VisualNovel

open Payload

namespace Checked

variable {α β : Type}

theorem accepted?_map (f : α → β) (x : Checked α) : (f <$> x).accepted? = x.accepted?.map f := by
  cases x <;> rfl

theorem accepted?_seq (f : Checked (α → β)) (x : Checked α) :
    (f <*> x).accepted? = f.accepted?.bind fun change => x.accepted?.map change := by
  cases f <;> cases x <;> rfl

end Checked

namespace Payload

variable {field : Field} {fields : Fields} {value : Json}

/-- The text that a value is. -/
def text? : Json → Option String
  | .str found => some found
  | _ => none

/-- The fields of an object. -/
def fields? : Json → Option Fields
  | .obj found => some found
  | _ => none

/-! ## Reading an argument -/

theorem text_of_fits
    (hfits : ∀ value, field.value? fields = some value → Kind.text.Fits value) :
    Payload.text field fields = .accepted ((field.value? fields).bind text?) := by
  rw [← Field.map_find?] at hfits ⊢
  rw [Payload.text, Field.optional]
  cases hfind : field.find? fields with
  | none => rfl
  | some found =>
      obtain ⟨name, value⟩ := found
      have hvalue := hfits value (by rw [hfind]; rfl)
      cases value with
      | null => rfl
      | str text => rfl
      | _ => exact hvalue.elim

theorem text_of_misfit (hvalue : field.value? fields = some value)
    (hmisfit : ¬ Kind.text.Fits value) :
    (Payload.text field fields).accepted? = none := by
  rw [← Field.map_find?] at hvalue
  obtain ⟨⟨name, found⟩, hfind, rfl⟩ := Option.map_eq_some_iff.mp hvalue
  rw [Payload.text, Field.optional, hfind]
  cases found with
  | null => exact absurd trivial hmisfit
  | str text => exact absurd trivial hmisfit
  | _ => rfl

theorem object_of_fits
    (hfits : ∀ value, field.value? fields = some value → Kind.object.Fits value) :
    Payload.object field fields = .accepted ((field.value? fields).bind fields?) := by
  rw [← Field.map_find?] at hfits ⊢
  rw [Payload.object, Field.optional]
  cases hfind : field.find? fields with
  | none => rfl
  | some found =>
      obtain ⟨name, value⟩ := found
      have hvalue := hfits value (by rw [hfind]; rfl)
      cases value with
      | null => rfl
      | obj entries =>
          simp only [Reader.nullable, Reader.map_accepted]
          rfl
      | _ => exact hvalue.elim

theorem object_of_misfit (hvalue : field.value? fields = some value)
    (hmisfit : ¬ Kind.object.Fits value) :
    (Payload.object field fields).accepted? = none := by
  rw [← Field.map_find?] at hvalue
  obtain ⟨⟨name, found⟩, hfind, rfl⟩ := Option.map_eq_some_iff.mp hvalue
  rw [Payload.object, Field.optional, hfind]
  cases found with
  | null => exact absurd trivial hmisfit
  | obj entries => exact absurd trivial hmisfit
  | _ => rfl

theorem argument?_text_eq_some_iff {text : String} :
    Callable.argument? ((field.value? fields).bind text?) = some text ↔
      field.value? fields = some (.str text) ∧ text ≠ "" := by
  constructor
  · intro hargument
    obtain ⟨value, hvalue, htext⟩ :=
      Option.bind_eq_some_iff.mp (Callable.of_argument? hargument)
    cases value with
    | str found =>
        cases htext
        refine ⟨hvalue, ?_⟩
        rintro rfl
        rw [hvalue] at hargument
        cases hargument
    | _ => cases htext
  · rintro ⟨hvalue, hne⟩
    rw [hvalue]
    exact Callable.argument?_of_ne hne

theorem argument?_text_eq_none_iff :
    Callable.argument? ((field.value? fields).bind text?) = none ↔
      ∀ value, field.value? fields = some value → ¬ Kind.text.Gives value := by
  rw [Option.eq_none_iff_forall_ne_some]
  constructor
  · intro hmissing value hvalue hgives
    cases value with
    | str text => exact hmissing text (argument?_text_eq_some_iff.mpr ⟨hvalue, hgives⟩)
    | _ => exact hgives
  · intro hnone text hargument
    obtain ⟨hvalue, hne⟩ := argument?_text_eq_some_iff.mp hargument
    exact hnone _ hvalue hne

theorem fields?_eq_none_iff :
    (field.value? fields).bind fields? = none ↔
      ∀ value, field.value? fields = some value → ¬ Kind.object.Gives value := by
  rw [Option.bind_eq_none_iff]
  refine forall₂_congr fun value _ => ?_
  cases value <;> simp [fields?, Kind.Gives]

end Payload

namespace Callable

/-! ## What is malformed -/

/-- Is there an argument that does not fit? -/
def Misfits (callable : Callable) (fields : Fields) : Prop :=
  ∃ argument ∈ callable.arguments, ∃ value,
    argument.field.value? fields = some value ∧ ¬ argument.kind.Fits value

/-- Is there an argument that is not given? -/
def Lacks (callable : Callable) (fields : Fields) : Prop :=
  ∃ argument ∈ callable.arguments, ∀ value,
    argument.field.value? fields = some value → ¬ argument.kind.Gives value

/-- Is the tenant a text that is no key? -/
def Misnames (fields : Fields) : Prop :=
  ∃ tenant, Part.tenant.value? fields = some (.str tenant) ∧ Key.isKey tenant = false

/-- Is the payload none that the callable can do something with? -/
def Malformed (callable : Callable) (payload : Json) : Prop :=
  match unwrapped payload with
  | .obj fields => callable.Misfits fields ∨ callable.Lacks fields ∨ Misnames fields
  | _ => True

theorem scenarioTask?_eq_none_iff {request : ScenarioRequest} :
    scenarioTask? request = none ↔ argument? request.tenant = none ∨
      argument? request.scenario = none ∨
        ∃ tenant, argument? request.tenant = some tenant ∧ Key.isKey tenant = false := by
  unfold scenarioTask?
  rcases argument? request.tenant with _ | tenant <;>
    rcases argument? request.scenario with _ | name <;> simp [Task.forTenant]

theorem charactersTask?_eq_none_iff {request : CharactersRequest} :
    charactersTask? request = none ↔ argument? request.tenant = none ∨
      ∃ tenant, argument? request.tenant = some tenant ∧ Key.isKey tenant = false := by
  unfold charactersTask?
  rcases argument? request.tenant with _ | tenant <;> simp [Task.forTenant]

theorem saveTask?_eq_none_iff {request : SaveRequest} :
    saveTask? request = none ↔ argument? request.tenant = none ∨ request.data = none ∨
      ∃ tenant, argument? request.tenant = some tenant ∧ Key.isKey tenant = false := by
  unfold saveTask?
  rcases argument? request.tenant with _ | tenant <;>
    rcases request.data with _ | data <;> simp [Task.forTenant]

theorem loadTask?_eq_none_iff {request : LoadRequest} :
    loadTask? request = none ↔ argument? request.tenant = none ∨ argument? request.code = none ∨
      ∃ tenant, argument? request.tenant = some tenant ∧ Key.isKey tenant = false := by
  unfold loadTask?
  rcases argument? request.tenant with _ | tenant <;>
    rcases argument? request.code with _ | code <;> simp [Task.forTenant]

section

variable {callable : Callable} {fields : Fields}

/-- If the tenant is given, then it is wrong if and only if it is no key. -/
theorem tenant_iff :
    (argument? ((Part.tenant.value? fields).bind text?) = none ∨
        ∃ tenant, argument? ((Part.tenant.value? fields).bind text?) = some tenant ∧
          Key.isKey tenant = false) ↔
      argument? ((Part.tenant.value? fields).bind text?) = none ∨ Misnames fields := by
  constructor
  · rintro (hnone | ⟨tenant, hsome, hkey⟩)
    · exact .inl hnone
    · exact .inr ⟨tenant, (argument?_text_eq_some_iff.mp hsome).1, hkey⟩
  · rintro (hnone | ⟨tenant, hvalue, hkey⟩)
    · exact .inl hnone
    · by_cases hempty : tenant = ""
      · subst hempty
        rw [hvalue]
        exact .inl rfl
      · exact .inr ⟨tenant, argument?_text_eq_some_iff.mpr ⟨hvalue, hempty⟩, hkey⟩

theorem lacks_of_two {first second : Argument} (harguments : callable.arguments = [first, second]) :
    callable.Lacks fields ↔
      (∀ value, first.field.value? fields = some value → ¬ first.kind.Gives value) ∨
        ∀ value, second.field.value? fields = some value → ¬ second.kind.Gives value := by
  rw [Lacks, harguments]
  simp only [List.mem_cons, List.not_mem_nil, or_false, exists_eq_or_imp, exists_eq_left]

theorem payload_of_unwrapped {α : Type} {read : Fields → Checked α} {payload : Json}
    (hpayload : unwrapped payload = .obj fields) : Reader.payload read payload = read fields := by
  rw [Reader.payload, hpayload, Reader.record]

theorem task?_of_misfits {payload : Json} (hpayload : unwrapped payload = .obj fields)
    (hmisfits : callable.Misfits fields) : callable.task? payload = none := by
  obtain ⟨argument, hmem, value, hvalue, hmisfit⟩ := hmisfits
  cases callable <;>
    simp only [arguments, List.mem_cons, List.not_mem_nil, or_false] at hmem <;>
    simp only [task?, ScenarioRequest.read, CharactersRequest.read, SaveRequest.read,
      LoadRequest.read, payload_of_unwrapped hpayload, Checked.accepted?_map,
      Checked.accepted?_seq]
  case getCharacters =>
    subst hmem
    rw [text_of_misfit hvalue hmisfit]
    rfl
  case saveGame =>
    rcases hmem with rfl | rfl
    · rw [text_of_misfit hvalue hmisfit]
      rfl
    · rw [object_of_misfit hvalue hmisfit]
      cases (Payload.text Part.tenant fields).accepted? <;> rfl
  all_goals
    rcases hmem with rfl | rfl
    · rw [text_of_misfit hvalue hmisfit]
      rfl
    · rw [text_of_misfit hvalue hmisfit]
      cases (Payload.text Part.tenant fields).accepted? <;> rfl

/-- If the arguments all fit, then it is for the callable to say which of them it misses. -/
theorem task?_of_fits {payload : Json} (hpayload : unwrapped payload = .obj fields)
    (hfits : ¬ callable.Misfits fields) :
    callable.task? payload = none ↔ callable.Lacks fields ∨ Misnames fields := by
  have hfit : ∀ argument ∈ callable.arguments, ∀ value,
      argument.field.value? fields = some value → argument.kind.Fits value := by
    intro argument hmem value hvalue
    by_contra hmisfit
    exact hfits ⟨argument, hmem, value, hvalue, hmisfit⟩
  have htenant := text_of_fits (hfit _ callable.tenant_mem_arguments)
  have hmiddle : ∀ {first second third other : Prop}, (first ∨ third ↔ first ∨ other) →
      (first ∨ second ∨ third ↔ (first ∨ second) ∨ other) := by tauto
  have hsecond : ∀ {first second : Argument}, second ∈ [first, second] :=
    List.mem_cons_of_mem _ (List.mem_singleton_self _)
  cases callable with
  | getScenario =>
      rw [task?, ScenarioRequest.read, payload_of_unwrapped hpayload, htenant,
        text_of_fits (hfit _ hsecond), lacks_of_two rfl,
        ← argument?_text_eq_none_iff, ← argument?_text_eq_none_iff]
      exact scenarioTask?_eq_none_iff.trans (hmiddle tenant_iff)
  | getCharacters =>
      have hlacks : getCharacters.Lacks fields ↔ ∀ value,
          Part.tenant.value? fields = some value → ¬ Kind.text.Gives value := by
        simp only [Lacks, arguments, List.mem_singleton, exists_eq_left]
      rw [task?, CharactersRequest.read, payload_of_unwrapped hpayload, htenant, hlacks,
        ← argument?_text_eq_none_iff]
      exact charactersTask?_eq_none_iff.trans tenant_iff
  | saveGame =>
      rw [task?, SaveRequest.read, payload_of_unwrapped hpayload, htenant,
        object_of_fits (hfit _ hsecond), lacks_of_two rfl,
        ← argument?_text_eq_none_iff, ← fields?_eq_none_iff]
      exact saveTask?_eq_none_iff.trans (hmiddle tenant_iff)
  | loadGame =>
      rw [task?, LoadRequest.read, payload_of_unwrapped hpayload, htenant,
        text_of_fits (hfit _ hsecond), lacks_of_two rfl,
        ← argument?_text_eq_none_iff, ← argument?_text_eq_none_iff]
      exact loadTask?_eq_none_iff.trans (hmiddle tenant_iff)

/-- The malformed payloads are those of which a callable makes no task. -/
theorem task?_eq_none_iff (callable : Callable) (payload : Json) :
    callable.task? payload = none ↔ callable.Malformed payload := by
  rw [Malformed]
  cases hpayload : unwrapped payload with
  | obj fields =>
      by_cases hmisfits : callable.Misfits fields
      · exact iff_of_true (task?_of_misfits hpayload hmisfits) (.inl hmisfits)
      · rw [task?_of_fits hpayload hmisfits]
        exact (or_iff_right hmisfits).symm
  | _ =>
      refine iff_of_true ?_ trivial
      cases callable <;>
        simp only [task?, ScenarioRequest.read, CharactersRequest.read, SaveRequest.read,
          LoadRequest.read, Reader.payload, hpayload] <;> rfl

/-- A malformed payload is turned away without a look at the store. -/
theorem serve_of_malformed [Json.Room] {payload : Json} (hmalformed : callable.Malformed payload) :
    ∃ reason, reason.kind = .invalidArgument ∧
      callable.serve payload = pure (.rejected reason) := by
  have hserved := callable.servedAs_task? payload
  rw [(callable.task?_eq_none_iff payload).mpr hmalformed] at hserved
  exact hserved

end

end Callable

end VisualNovel
