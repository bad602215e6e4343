import VisualNovel.Proofs.Http.Isolation
import VisualNovel.Proofs.Json.Bytes

/-!
# What the callables answer

A callable that does its task answers with an object, or tells that there is no such save
(`Task.yields_answer`).  All that it answers has been read from a file or is a code, so numbers in
it are numbers that a text can bring, and no object has a key twice.  The texts in it are another
matter: they may have unpaired units, and then the answer cannot be sent.
-/

namespace VisualNovel

open Json

namespace Store

variable [Room]

/-! ## Reading -/

theorem yields_readJson (place : Place) (path : Path) : Yields (readJson place path) IsTidy := by
  intro store value hvalue
  rw [result_readJson] at hvalue
  cases hcontent : store.files.readFile path with
  | error fault =>
      rw [hcontent] at hvalue
      cases hvalue
  | ok content =>
      cases hparse : parseFile place content with
      | error fault =>
          simp only [hcontent, hparse] at hvalue
          cases hvalue
      | ok found =>
          simp only [hcontent, hparse] at hvalue
          cases hvalue
          exact (readable_of_parseFile hparse).tidy

theorem yields_documents (tenant collection : Json) :
    Yields (Store.documents tenant collection) fun values => ∀ value ∈ values, IsTidy value := by
  refine (yields_true _).bind fun directory _ => (yields_true _).bind fun present _ => ?_
  split
  · exact (yields_true _).bind fun names _ => yields_mapM (fun _ => yields_readJson _ _) _
  · exact yields_pure (List.forall_mem_nil _)

theorem yields_document? (tenant collection id : Json) :
    Yields (Store.document? tenant collection id) fun found => ∀ value ∈ found, IsTidy value := by
  refine (yields_true _).bind fun directory _ => (yields_true _).bind fun key _ => ?_
  refine (yields_true _).bind fun present _ => ?_
  split
  · refine (yields_readJson _ _).bind fun value hvalue => yields_pure ?_
    rintro found hfound
    cases hfound
    exact hvalue
  · exact yields_pure fun value hvalue => by cases hvalue

theorem yields_save? (tenant code : Json) :
    Yields (Store.save? tenant code) fun found => ∀ value ∈ found, IsTidy value := by
  unfold Store.save?
  split
  · exact yields_document? _ _ _
  · exact yields_pure fun value hvalue => by cases hvalue
  · exact yields_throw _

end Store

open Store

/-! ## Answering -/

/-- Is this what becomes of a task that is done? -/
inductive Outcome.IsAnswer : Outcome → Prop
  | object {fields : Fields} (htidy : IsTidy (.obj fields)) : IsAnswer (.answered (.obj fields))
  | noSave : IsAnswer (.rejected .noSave)

theorem isAnswer_reply (name : String) {value : Json} (hvalue : IsTidy value) :
    (Callable.reply name value).IsAnswer :=
  .object (isRegular_singleton trivial hvalue)

/-- A task that is done gives an object, or there is no such save. -/
theorem Task.yields_answer [Room] (tenant : String) (task : Task) :
    Yields (task.action tenant) Outcome.IsAnswer := by
  cases task with
  | scenario =>
      refine (yields_documents _ _).bind fun lines hlines => yields_pure ?_
      exact isAnswer_reply _ (isRegular_arr_iff.mpr hlines)
  | characters =>
      refine (yields_documents _ _).bind fun records hrecords => yields_pure ?_
      exact isAnswer_reply _ (isRegular_arr_iff.mpr hrecords)
  | save data => exact (yields_true _).bind fun code _ => yields_pure (isAnswer_reply _ trivial)
  | load code =>
      refine (yields_save? _ _).bind fun found hfound => ?_
      split
      · exact yields_pure .noSave
      · exact yields_pure (isAnswer_reply _ (hfound _ rfl))
      · exact yields_pure .noSave

/-- What becomes of a payload: it is turned away for its arguments, or its task is done or fails. -/
theorem Callable.outcome_cases [Room] (callable : Callable) (payload : Json) (store : Store) :
    (callable.task? payload = none ∧
        ∃ reason, reason.kind = .invalidArgument ∧
          callable.serve payload = pure (.rejected reason)) ∨
      ((callable.serve payload).run store).1.IsAnswer ∨
        ∃ fault, ((callable.serve payload).run store).1 = .failed fault := by
  have hserved := callable.servedAs_task? payload
  cases htask : callable.task? payload with
  | none =>
      rw [htask] at hserved
      exact .inl ⟨rfl, hserved⟩
  | some made =>
      obtain ⟨tenant, task⟩ := made
      rw [htask] at hserved
      have hanswer := task.yields_answer tenant store
      rw [hserved, Callable.run_perform]
      cases hresult : (result (task.action tenant) store).1 with
      | ok outcome => exact .inr (.inl (hanswer outcome hresult))
      | error fault => exact .inr (.inr ⟨fault, rfl⟩)

end VisualNovel
