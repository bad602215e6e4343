import VisualNovel.Proofs.Http.Exchange
import VisualNovel.Proofs.Store.Confined

/-!
# The envelope of a payload

A payload may be posted as it is, or in an envelope, an object whose field `data` it is.  Both are
the same request (`Server.handle_envelope`): what stands next to `data` in the envelope does not
matter, and a field `data` of the payload itself does not either, since an envelope is opened only
once.  Only a bare payload with an object in its field `data` is taken for an envelope.

All this is about bodies that can be read.  An envelope is deeper than its payload, and whatever
stands next to `data` has to be read too, so an envelope can be refused though its payload would
not be (`Server.handle_unreadable_sibling`).
-/

namespace VisualNovel

open Json

namespace Json

variable {fields : Fields} {payload : Fields} {key : String}

theorem nesting_remove_le (key : String) (fields : Fields) :
    nesting (.obj (OrderedMap.remove key fields)) ≤ nesting (.obj fields) := by
  refine Nat.succ_le_succ (fieldsNesting_le_iff.mpr fun field hmem => ?_)
  exact fieldsNesting_le_iff.mp le_rfl field (List.mem_of_mem_filter hmem)

theorem isExact_remove (key : String) (hexact : IsExact (.obj fields)) :
    IsExact (.obj (OrderedMap.remove key fields)) := by
  obtain ⟨hnodup, hfields⟩ := isRegular_obj_iff.mp hexact
  refine isRegular_obj_iff.mpr ⟨?_, fun field hmem => hfields field (List.mem_of_mem_filter hmem)⟩
  exact hnodup.sublist (List.filter_sublist.map Prod.fst)

theorem nesting_lt_of_at? {value : Json} (hvalue : OrderedMap.at? key fields = some value) :
    nesting value < nesting (.obj fields) :=
  Nat.lt_succ_of_le (fieldsNesting_le_iff.mp le_rfl _ (OrderedMap.mem_of_at? hvalue))

end Json

theorem unwrapped_of_data {fields payload : Fields}
    (hdata : OrderedMap.at? "data" fields = some (.obj payload)) :
    unwrapped (.obj fields) = .obj payload := by
  rw [unwrapped, hdata]

theorem unwrapped_of_no_data {fields : Fields}
    (hdata : ∀ inner, OrderedMap.at? "data" fields ≠ some (.obj inner)) :
    unwrapped (.obj fields) = .obj fields := by
  rw [unwrapped]
  split
  · rename_i inner heq
    exact absurd heq (hdata inner)
  · rfl

namespace Callable

theorem argument_ne_data (callable : Callable) : ∀ argument ∈ callable.arguments,
    argument.field.wire ≠ "data" ∧ argument.field.name ≠ "data" := by
  cases callable <;> decide

theorem find?_remove_data {callable : Callable} {argument : Payload.Argument}
    (hmem : argument ∈ callable.arguments) (fields : Fields) :
    argument.field.find? (OrderedMap.remove "data" fields) = argument.field.find? fields :=
  Field.find?_remove (callable.argument_ne_data argument hmem).1
    (callable.argument_ne_data argument hmem).2 fields

variable {fields payload : Fields} {value : Json}

/-- A payload is served as it is without its field `data`, once it is out of the envelope. -/
theorem serve_of_unwrapped [Room] (callable : Callable)
    (hpayload : unwrapped value = .obj payload) :
    callable.serve value = callable.serve (.obj (OrderedMap.remove "data" payload)) := by
  have hbare : unwrapped (.obj (OrderedMap.remove "data" payload)) =
      .obj (OrderedMap.remove "data" payload) := by
    refine unwrapped_of_no_data fun inner hinner => ?_
    rw [OrderedMap.at?_remove, if_pos rfl] at hinner
    cases hinner
  exact callable.serve_congr hpayload hbare
    fun argument hmem => (find?_remove_data hmem payload).symm

end Callable

namespace Http

variable {server : Server} {url : Url} {callable : Callable} {fields payload : Fields}

/-- The envelope and the payload are the same request: what else is in the envelope does not
matter, the payload is taken as it is though it has a field `data`, and unless that is an object,
the payload can be posted bare. -/
theorem Server.handle_envelope [Room]
    (hroute : server.route? url.served = some (.callable callable))
    (hexact : IsExact (.obj fields)) (hshallow : nesting (.obj fields) ≤ Room.depth .body)
    (hdata : OrderedMap.at? "data" fields = some (.obj payload)) :
    server.handle (.post url (.obj fields)) =
        server.handle (.post url (.obj [("data", .obj payload)])) ∧
      server.handle (.post url (.obj fields)) =
        server.handle (.post url (.obj (OrderedMap.remove "data" payload))) ∧
      ((∀ inner, OrderedMap.at? "data" payload ≠ some (.obj inner)) →
        server.handle (.post url (.obj fields)) = server.handle (.post url (.obj payload))) := by
  have hexact' := isRegular_of_at? hexact hdata
  have hinner := nesting_lt_of_at? hdata
  have henvelope : IsExact (.obj [("data", .obj payload)]) :=
    isRegular_singleton (by decide) hexact'
  have henvelope' : nesting (.obj [("data", .obj payload)]) ≤ Room.depth .body := by
    rw [nesting_singleton]
    omega
  have hremoved := nesting_remove_le "data" payload
  have hsingle : OrderedMap.at? "data" [("data", Json.obj payload)] = some (.obj payload) := rfl
  -- all of them are read, so it is for the callable to tell them apart
  rw [handle_post_of_isExact server hroute hexact hshallow Json.noConfusion,
    handle_post_of_isExact server hroute henvelope henvelope' Json.noConfusion,
    handle_post_of_isExact server hroute (isExact_remove "data" hexact') (by omega)
      Json.noConfusion,
    handle_post_of_isExact server hroute hexact' (by omega) Json.noConfusion,
    callable.serve_of_unwrapped (unwrapped_of_data hdata),
    callable.serve_of_unwrapped (unwrapped_of_data hsingle)]
  refine ⟨rfl, rfl, fun hbare => ?_⟩
  rw [callable.serve_of_unwrapped (unwrapped_of_no_data hbare)]

/-- A payload of a shop that has a field `data` itself. -/
def noted : Fields := [("tenantId", .str "shop"), ("data", .str "note")]

/-- The payload in an envelope that names another tenant. -/
def misaddressed : Fields := [("tenantId", .str "other"), ("data", .obj noted)]

theorem Server.handle_misaddressed :
    (Server.mk none).handle (.post (shopUrl .getCharacters) (.obj misaddressed)) =
        (Server.mk none).handle (.post (shopUrl .getCharacters) (.obj [("data", .obj noted)])) ∧
      (Server.mk none).handle (.post (shopUrl .getCharacters) (.obj misaddressed)) =
        (Server.mk none).handle (.post (shopUrl .getCharacters)
          (.obj [("tenantId", .str "shop")])) ∧
      (Server.mk none).handle (.post (shopUrl .getCharacters) (.obj misaddressed)) =
        (Server.mk none).handle (.post (shopUrl .getCharacters) (.obj noted)) := by
  have hdata : OrderedMap.at? "data" misaddressed = some (.obj noted) := rfl
  obtain ⟨hsibling, honce, hbare⟩ := Server.handle_envelope
    (route?_shopUrl (Server.mk none) .getCharacters) (isExact_of_isPlain (by decide)) (by decide)
    hdata
  exact ⟨hsibling, honce, hbare fun inner hinner => by cases hinner⟩

/-- What stands next to the payload may keep the whole body from being read. -/
theorem Server.handle_unreadable_sibling :
    (Server.mk none).handle (.post (shopUrl .getCharacters)
        (.obj [("data", .obj []), ("x", nested 3000)])) ≠
      (Server.mk none).handle (.post (shopUrl .getCharacters) (.obj [("data", .obj [])])) := by
  have hroute := route?_shopUrl (Server.mk none) .getCharacters
  have hexact : IsExact (.obj [("data", .obj []), ("x", nested 3000)]) := by
    refine isRegular_obj_iff.mpr ⟨by decide, List.forall_mem_cons.mpr ⟨⟨by decide, ?_⟩,
      List.forall_mem_singleton.mpr ⟨by decide, isExact_nested 3000⟩⟩⟩
    exact isExact_of_isPlain (by decide)
  have hdeep : Room.depth .body < nesting (.obj [("data", .obj []), ("x", nested 3000)]) := by
    rw [nesting, fieldsNesting, fieldsNesting, nesting_nested]
    decide
  rw [handle_post_of_tooDeep _ hroute hexact hdeep,
    handle_post_of_isExact _ hroute (isExact_of_isPlain (by decide)) (by decide) Json.noConfusion]
  intro hsame
  have hresponse := congrArg (fun handle => (handle.run (Store.newWith [])).1.body.size) hsame
  revert hresponse
  decide +kernel

end Http

end VisualNovel
