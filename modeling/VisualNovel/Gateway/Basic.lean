import VisualNovel.Callable.Basic
import VisualNovel.Record.Refusal

/-!
# Gateways

A client reaches the callables through a gateway, which takes the name of a callable and
a payload and comes back with a reply or with a failure.  A failure of the gateway has a
kind; its message is passed on as the backend sent it, and need not be a text.  Other
faults are those of the client, which is not meant to get over them.

A gateway over a world `σ` may change it with every call.
-/

namespace VisualNovel

/-- Why a call fails. -/
structure GatewayFault where
  kind : ErrorKind
  message : Json
  /-- What was wrong with the reply, if the reply was at fault. -/
  cause : Option CollectionFault := none
  deriving DecidableEq

namespace GatewayFault

/-- A failure with a text as its message. -/
def told (kind : ErrorKind) (message : String) : GatewayFault :=
  { kind, message := .str message }

/-- A failure of the client or of the server itself. -/
def internal (message : String) : GatewayFault := told .internal message

end GatewayFault

/-- Why something that needs the backend fails. -/
inductive ClientFault where
  /-- The gateway failed, or the reply was at fault. -/
  | gateway (fault : GatewayFault)
  /-- The reply is no object. -/
  | notAnObject
  /-- The address of the backend is none. -/
  | badAddress
  /-- The address or the payload cannot be written. -/
  | unwritten (fault : Json.WriteFault)
  /-- The reply nests too deeply. -/
  | tooDeep (container : Json.Container)
  /-- What was to be sent is no valid record. -/
  | refused (refusal : Refusal)
  deriving DecidableEq

/-- A way to the callables. -/
structure Gateway (σ : Type) where
  call : String → Json → StateM σ (Except ClientFault Json)

/-- A gateway over a part of the world. -/
def Gateway.within {σ τ : Type} (part : σ → τ) (replace : τ → σ → σ) (gateway : Gateway τ) :
    Gateway σ where
  call name payload := do
    let world ← get
    let (reply, changed) := (gateway.call name payload).run (part world)
    set (replace changed world)
    return reply

end VisualNovel
