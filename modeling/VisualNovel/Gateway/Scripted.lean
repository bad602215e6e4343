import VisualNovel.Gateway.Basic

/-!
# A gateway with prepared replies

For rehearsals there is a gateway that answers without a backend.  Every callable has its
own replies, which are given in their order; the last one is given again and again.  All
calls are written down.
-/

namespace VisualNovel

/-- The replies that are prepared, and the calls that were made. -/
structure Rehearsal where
  replies : OrderedMap String (List (Except GatewayFault Json)) := []
  calls : List (String × Json) := []

namespace Rehearsal

/-- The first reply of some, and those that are left. -/
def next : List (Except GatewayFault Json) →
    Option (Except GatewayFault Json × List (Except GatewayFault Json))
  | [] => none
  | [last] => some (last, [last])
  | first :: rest => some (first, rest)

/-- Answer a call. -/
def answer (name : String) (payload : Json) (rehearsal : Rehearsal) :
    Except GatewayFault Json × Rehearsal :=
  let noted := { rehearsal with calls := rehearsal.calls ++ [(name, payload)] }
  match next ((OrderedMap.at? name rehearsal.replies).getD []) with
  | none => (.error (.internal ("no stub response for " ++ name)), noted)
  | some (reply, left) =>
    (reply, { noted with replies := OrderedMap.put name left rehearsal.replies })

/-- The gateway with prepared replies. -/
def gateway : Gateway Rehearsal where
  call name payload := do
    let (reply, rehearsal) := answer name payload (← get)
    set rehearsal
    return reply.mapError .gateway

end Rehearsal

end VisualNovel
