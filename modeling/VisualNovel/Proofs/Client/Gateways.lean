import VisualNovel.Client.Progress
import VisualNovel.Proofs.Save.Progress

/-!
# What a client relies on

A gateway need not lead to a server.  It is `Orderly` if a call comes to an object, or to a failure
of the gateway; then nothing that a client makes of the replies fails in any other way.

Two gateways, over worlds of their own, can take the place of each other for a part of the calls.
They do so from two worlds on if they give the same replies to every sequence of these calls
(`SameReplies`).  A program that makes no other calls comes to the same then: `Mirrors` says this of
single programs, and it is kept when programs are put together.
-/

namespace VisualNovel

/-! ## Orderly gateways -/

/-- Is the outcome of a call an object, or a failure of the gateway? -/
def IsOrderly : Except ClientFault Json → Prop
  | .ok (.obj _) => True
  | .error (.gateway _) => True
  | _ => False

section

variable {σ α β : Type} {gateway : Gateway σ}

/-- The replies to some calls, one after the other. -/
def Gateway.replies (gateway : Gateway σ) :
    List (String × Json) → σ → List (Except ClientFault Json)
  | [], _ => []
  | (name, payload) :: rest, world =>
    let (reply, changed) := (gateway.call name payload).run world
    reply :: gateway.replies rest changed

/-- Do all calls from the world on come to an object or to a failure of the gateway? -/
def Gateway.Orderly (gateway : Gateway σ) (world : σ) : Prop :=
  ∀ calls, ∀ reply ∈ gateway.replies calls world, IsOrderly reply

/-- Does the program come to a value of the kind in an orderly world, and leave such a world? -/
def ComesTo (gateway : Gateway σ) (program : StateM σ α) (holds : α → Prop) : Prop :=
  ∀ world, gateway.Orderly world →
    holds (program.run world).1 ∧ gateway.Orderly (program.run world).2

theorem comesTo_call (gateway : Gateway σ) (name : String) (payload : Json) :
    ComesTo gateway (gateway.call name payload) IsOrderly := by
  intro world horderly
  constructor
  · exact horderly [(name, payload)] _ (List.mem_cons_self ..)
  · intro calls reply hmem
    exact horderly ((name, payload) :: calls) reply (List.mem_cons_of_mem _ hmem)

variable {holds : α → Prop} {holds' : β → Prop}

theorem comesTo_pure {value : α} (hvalue : holds value) :
    ComesTo gateway (pure value : StateM σ α) holds :=
  fun _ horderly => ⟨hvalue, horderly⟩

theorem ComesTo.bind {program : StateM σ α} {next : α → StateM σ β}
    (hfirst : ComesTo gateway program holds)
    (hnext : ∀ value, holds value → ComesTo gateway (next value) holds') :
    ComesTo gateway (program >>= next) holds' := by
  intro world horderly
  obtain ⟨hvalue, hleft⟩ := hfirst world horderly
  exact hnext _ hvalue _ hleft

end

/-! ## Failures of a gateway -/

/-- Has nothing failed but the gateway? -/
def OnlyGatewayFails {α : Type} : Except ClientFault α → Prop
  | .ok _ => True
  | .error (.gateway _) => True
  | _ => False

section

variable {α β ε : Type} {reply : Except ClientFault Json}

theorem IsOrderly.cases (hreply : IsOrderly reply) :
    (∃ fields, reply = .ok (.obj fields)) ∨ ∃ fault, reply = .error (.gateway fault) := by
  rcases reply with fault | value
  · cases fault with
    | gateway fault => exact Or.inr ⟨fault, rfl⟩
    | _ => exact hreply.elim
  · cases value with
    | obj fields => exact Or.inl ⟨fields, rfl⟩
    | _ => exact hreply.elim

theorem OnlyGatewayFails.cases {outcome : Except ClientFault α} (honly : OnlyGatewayFails outcome) :
    (∃ value, outcome = .ok value) ∨ ∃ fault, outcome = .error (.gateway fault) := by
  rcases outcome with fault | value
  · cases fault with
    | gateway fault => exact Or.inr ⟨fault, rfl⟩
    | _ => exact honly.elim
  · exact Or.inl ⟨value, rfl⟩

theorem onlyGatewayFails_bind {outcome : Except ClientFault α} {next : α → Except ClientFault β}
    (houtcome : OnlyGatewayFails outcome) (hnext : ∀ value, OnlyGatewayFails (next value)) :
    OnlyGatewayFails (outcome >>= next) := by
  rcases houtcome.cases with ⟨value, rfl⟩ | ⟨fault, rfl⟩
  · exact hnext value
  · trivial

theorem onlyGatewayFails_mapError (outcome : Except ε α) (told : ε → GatewayFault) :
    OnlyGatewayFails (outcome.mapError fun error => ClientFault.gateway (told error)) := by
  cases outcome <;> trivial

theorem onlyGatewayFails_of_orderly {read : Json → Except ClientFault α} (hreply : IsOrderly reply)
    (hread : ∀ fields, OnlyGatewayFails (read (.obj fields))) :
    OnlyGatewayFails (reply.bind read) := by
  rcases hreply.cases with ⟨fields, rfl⟩ | ⟨fault, rfl⟩
  · exact hread fields
  · trivial

theorem onlyGatewayFails_codeOfReply (fields : Fields) :
    OnlyGatewayFails (codeOfReply (.obj fields)) := by
  show OnlyGatewayFails (if _ then _ else _)
  split <;> trivial

theorem onlyGatewayFails_saveOfReply (fields : Fields) :
    OnlyGatewayFails (saveOfReply (.obj fields)) := by
  rcases saveOfReply_cases fields with ⟨data, hdata, -⟩ | ⟨failure, hfailure, -⟩
  · rw [hdata]
    trivial
  · rw [hfailure]
    trivial

theorem onlyGatewayFails_catalogOfReplies (scenario characters : Fields) :
    OnlyGatewayFails (catalogOfReplies (.obj scenario) (.obj characters)) := by
  have hlines : OnlyGatewayFails (replyField "scenario" (.arr []) (.obj scenario)) := trivial
  have hrecords : OnlyGatewayFails (replyField "characters" (.arr []) (.obj characters)) := trivial
  refine onlyGatewayFails_bind hlines fun lines => ?_
  refine onlyGatewayFails_bind (onlyGatewayFails_mapError _ _) fun commands => ?_
  refine onlyGatewayFails_bind hrecords fun records => ?_
  exact onlyGatewayFails_bind (onlyGatewayFails_mapError _ _) fun cast => trivial

end

section

variable {σ : Type} {gateway : Gateway σ}

/-- Two replies are asked for, and if one of them is a failure, so is loading. -/
theorem loadCatalog_of_calls {tenant scenario : String} {world between left : σ}
    {script cast : Except ClientFault Json}
    (hscript : (gateway.call "getScenario"
      (.obj [("tenantId", .str tenant), ("scenarioName", .str scenario)])).run world =
        (script, between))
    (hcast : (gateway.call "getCharacters" (.obj [("tenantId", .str tenant)])).run between =
      (cast, left)) :
    (loadCatalog gateway tenant scenario).run world =
      (script.bind fun lines => cast.bind (catalogOfReplies lines), left) := by
  rw [loadCatalog, StateT.run_bind, hscript]
  show (gateway.call "getCharacters" _ >>= _).run between = _
  rw [StateT.run_bind, hcast]
  cases script <;> cases cast <;> rfl

theorem comesTo_loadCatalog (tenant scenario : String) :
    ComesTo gateway (loadCatalog gateway tenant scenario) OnlyGatewayFails := by
  refine (comesTo_call gateway "getScenario" _).bind fun lines hlines => ?_
  refine (comesTo_call gateway "getCharacters" _).bind fun records hrecords => ?_
  rcases hlines.cases with ⟨lines, rfl⟩ | ⟨fault, rfl⟩ <;>
    rcases hrecords.cases with ⟨records, rfl⟩ | ⟨fault, rfl⟩
  · exact comesTo_pure (onlyGatewayFails_catalogOfReplies lines records)
  all_goals exact comesTo_pure trivial

/-- Restoring gives the session at the place of a save, or the gateway fails. -/
inductive Restored (session : Session) : Except ClientFault (SaveData × Session) → Prop
  | restored (data : SaveData) : Restored session (.ok (data, session.resumedAt data))
  | failed (fault : GatewayFault) : Restored session (.error (.gateway fault))

theorem comesTo_restoreProgress (session : Session) (code : String) :
    ComesTo gateway (restoreProgress gateway session code) (Restored session) := by
  have hload : ComesTo gateway (loadProgress gateway session.tenant code) OnlyGatewayFails :=
    (comesTo_call gateway "loadGame" _).bind fun reply hreply =>
      comesTo_pure (onlyGatewayFails_of_orderly hreply onlyGatewayFails_saveOfReply)
  refine hload.bind fun outcome honly => ?_
  rcases honly.cases with ⟨data, rfl⟩ | ⟨fault, rfl⟩
  · exact comesTo_pure (.restored data)
  · exact comesTo_pure (.failed fault)

end

/-! ## Gateways that take the place of each other -/

section

variable {σ τ α β : Type}

/-- Do the gateways give the same replies to all calls but those of `saveGame`? -/
def SameReplies (gateway : Gateway σ) (other : Gateway τ) (world : σ) (world' : τ) : Prop :=
  ∀ calls : List (String × Json), (∀ call ∈ calls, call.1 ≠ "saveGame") →
    gateway.replies calls world = other.replies calls world'

/-- Do two programs come to the same in worlds that belong together, and do they leave such
worlds? -/
def Mirrors (together : σ → τ → Prop) (first : StateM σ α) (second : StateM τ α) : Prop :=
  ∀ world world', together world world' →
    (first.run world).1 = (second.run world').1 ∧
      together (first.run world).2 (second.run world').2

variable {together : σ → τ → Prop} {gateway : Gateway σ} {other : Gateway τ}

theorem mirrors_pure (value : α) :
    Mirrors together (pure value : StateM σ α) (pure value : StateM τ α) :=
  fun _ _ hworlds => ⟨rfl, hworlds⟩

theorem Mirrors.bind {first : StateM σ α} {second : StateM τ α} {next : α → StateM σ β}
    {next' : α → StateM τ β} (hfirst : Mirrors together first second)
    (hnext : ∀ value, Mirrors together (next value) (next' value)) :
    Mirrors together (first >>= next) (second >>= next') := by
  intro world world' hworlds
  obtain ⟨hvalue, hleft⟩ := hfirst world world' hworlds
  have hsecond : (second >>= next').run world' =
      (next' (first.run world).1).run (second.run world').2 := by
    rw [hvalue]
    rfl
  rw [hsecond]
  exact hnext (first.run world).1 _ _ hleft

/-- The same call leaves worlds that give the same replies. -/
theorem mirrors_call {name : String} (hname : name ≠ "saveGame") (payload : Json) :
    Mirrors (SameReplies gateway other) (gateway.call name payload) (other.call name payload) := by
  intro world world' hsame
  have hcall : ∀ rest : List (String × Json), (∀ call ∈ rest, call.1 ≠ "saveGame") →
      gateway.replies ((name, payload) :: rest) world =
        other.replies ((name, payload) :: rest) world' := fun rest hrest =>
    hsame _ (List.forall_mem_cons.mpr ⟨hname, hrest⟩)
  constructor
  · exact (List.cons.inj (hcall [] (by simp))).1
  · intro rest hrest
    exact (List.cons.inj (hcall rest hrest)).2

variable (hcall : ∀ name payload, name ≠ "saveGame" →
  Mirrors together (gateway.call name payload) (other.call name payload))
include hcall

theorem mirrors_loadCatalog (tenant scenario : String) :
    Mirrors together (loadCatalog gateway tenant scenario) (loadCatalog other tenant scenario) := by
  refine (hcall "getScenario" _ (by decide)).bind fun lines => ?_
  refine (hcall "getCharacters" _ (by decide)).bind fun records => ?_
  cases lines <;> cases records <;> exact mirrors_pure _

theorem mirrors_restoreProgress (session : Session) (code : String) :
    Mirrors together (restoreProgress gateway session code)
      (restoreProgress other session code) := by
  refine Mirrors.bind ?_ fun outcome => ?_
  · exact (hcall "loadGame" _ (by decide)).bind fun reply => mirrors_pure _
  · cases outcome <;> exact mirrors_pure _

end

end VisualNovel
