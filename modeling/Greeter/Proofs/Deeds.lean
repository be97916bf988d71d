import Greeter.Network.Basic
import Mathlib.Data.List.Basic
import Mathlib.Data.List.Induction
import Mathlib.Tactic.Common

/-! # What is done on a machine

Servers bind, run and are closed, and clients call, in any order (`Deed`). A deed adds the
socket that a bind returned, takes one away, changes one where it is, or does nothing
(`Network.effect_after`). So a few facts about where the sockets listen hold behind any row
of deeds (`Network.sound_afterAll`).
-/

namespace Greeter

/-- Something that is done on a machine. -/
inductive Deed where
  /-- A server binds what a configuration asks for. -/
  | bind (config : Config)
  /-- A server runs on the socket of the key. -/
  | run (key : Nat)
  /-- The socket of the key is closed, and the server on it ends. -/
  | close (key : Nat)
  /-- A client connects. -/
  | connect (called : Endpoint)
  /-- A client connects and sends some bytes. -/
  | request (called : Endpoint) (bytes : Bytes)
  deriving DecidableEq, Repr

namespace Network

/-- The network behind a deed. One that fails changes nothing. -/
def after (network : Network) : Deed → Network
  | .bind config =>
    match (Server.bind network.offers config).result with
    | .ok (_, next) => next
    | .error _ => network
  | .run key =>
    match network.socket? key with
    | none => network
    | some socket =>
      match (Server.run network.offers (socket, network)).result with
      | .ok () => network.serve key
      | .error _ => network
  | .close key => network.close key
  | .connect _ => network
  | .request called bytes =>
    match network.connect called with
    | .ok socket => (network.request socket bytes).1
    | .error _ => network

/-- Where each socket listens, by its key. -/
def places (network : Network) : List (Nat × Endpoint) :=
  network.sockets.map fun socket => (socket.key, socket.endpoint)

variable {network : Network}

/-- A change that leaves a socket where it is, and a server on it running. -/
structure Keeps (change : Socket → Socket) : Prop where
  key : ∀ socket, (change socket).key = socket.key
  endpoint : ∀ socket, (change socket).endpoint = socket.endpoint
  isServed : ∀ socket, socket.isServed = true → (change socket).isServed = true

/-- A change that keeps a socket where it is leaves all places as they are. -/
theorem places_modify (network : Network) (key : Nat) {change : Socket → Socket}
    (keeps : Keeps change) : (network.modify key change).places = network.places := by
  simp only [places, modify, List.map_map]
  refine List.map_congr_left fun socket _ => ?_
  simp only [Function.comp_apply]
  split
  · rw [keeps.key, keeps.endpoint]
  · rfl

/-- Closing takes away the place of the socket and no other. -/
theorem places_close (network : Network) (key : Nat) :
    (network.close key).places = network.places.filter (·.1 != key) := by
  simp only [places, close, List.filter_map]
  rfl

/-- The network with a new socket at an endpoint. -/
def opened (network : Network) (endpoint : Endpoint) : Network :=
  { network with
    sockets := network.sockets ++ [⟨network.nextKey, endpoint, false, []⟩]
    usedPorts := endpoint.port :: network.usedPorts
    nextKey := network.nextKey + 1 }

/-- A new socket adds its place at the end, under a key that no other has had. -/
theorem places_opened (network : Network) (endpoint : Endpoint) :
    (network.opened endpoint).places = network.places ++ [(network.nextKey, endpoint)] := by
  rw [places, opened, List.map_append]
  rfl

/-- A bind fails where the network has no place for it, and with the reason of the network. -/
theorem bind_result (network : Network) (config : Config) :
    (Server.bind network.offers config).result =
      (network.listen config.endpoint).mapError (.bind config.endpoint) := rfl

/-- A bind that returns leaves the network it returns with the socket. -/
theorem after_bind_of_ok {config : Config} {bound : Socket × Network}
    (result : (Server.bind network.offers config).result = .ok bound) :
    network.after (.bind config) = bound.2 := by
  simp only [after, result]

/-- A bind that fails leaves the network as it was. -/
theorem after_bind_of_error {config : Config} {error : ServerError}
    (result : (Server.bind network.offers config).result = .error error) :
    network.after (.bind config) = network := by
  simp only [after, result]

/-- A bind fails, or it returns a new socket. -/
theorem bind_cases (network : Network) (config : Config) :
    (∃ source, (Server.bind network.offers config).result =
      .error (.bind config.endpoint source)) ∨
    ∃ endpoint, network.placement? config.endpoint = some endpoint ∧
      (Server.bind network.offers config).result =
        .ok (⟨network.nextKey, endpoint, false, []⟩, network.opened endpoint) := by
  rw [bind_result]
  cases listened : network.listen config.endpoint with
  | error source => exact .inl ⟨source, rfl⟩
  | ok socket =>
      rw [listen] at listened
      split at listened
      · cases listened
      · split at listened
        · cases listened
        · next endpoint placed =>
          cases listened
          exact .inr ⟨endpoint, placed, rfl⟩

/-- Running on a socket that is not open changes nothing. -/
theorem serve_of_closed {key : Nat} (closed : network.socket? key = none) :
    network.serve key = network := by
  have elsewhere : ∀ socket ∈ network.sockets, socket.key ≠ key := by
    simpa [socket?] using closed
  have same : network.sockets.map (fun socket =>
      if socket.key = key then { socket with isServed := true, backlog := [] } else socket) =
        network.sockets := by
    refine (List.map_congr_left fun socket member => ?_).trans (List.map_id _)
    rw [if_neg (elsewhere socket member), id]
  rw [serve, modify, same]

/-- Running serves the socket of the key, if there is one. -/
theorem after_run (network : Network) (key : Nat) :
    network.after (.run key) = network.serve key := by
  cases found : network.socket? key with
  | none =>
      rw [serve_of_closed found]
      simp only [after, found]
  | some socket =>
      simp only [after, found]
      rfl

/-- What a deed can do. -/
inductive Effect (network : Network) : Deed → Network → Prop where
  /-- A bind returns a new socket. -/
  | opened {config : Config} {endpoint : Endpoint}
      (placed : network.placement? config.endpoint = some endpoint)
      (result : (Server.bind network.offers config).result =
        .ok (⟨network.nextKey, endpoint, false, []⟩, network.opened endpoint)) :
      Effect network (.bind config) (network.opened endpoint)
  /-- A socket is closed. -/
  | closed (key : Nat) : Effect network (.close key) (network.close key)
  /-- A socket changes where it is. -/
  | changed {deed : Deed} (key : Nat) {change : Socket → Socket}
      (closesNone : ∀ key, deed ≠ .close key) (keeps : Keeps change) :
      Effect network deed (network.modify key change)
  /-- Nothing changes. -/
  | nothing {deed : Deed} (closesNone : ∀ key, deed ≠ .close key) : Effect network deed network

/-- **What a deed does.** -/
theorem effect_after (network : Network) (deed : Deed) :
    network.Effect deed (network.after deed) := by
  cases deed with
  | bind config =>
      obtain ⟨source, result⟩ | ⟨endpoint, placed, result⟩ := network.bind_cases config
      · rw [after_bind_of_error result]
        exact .nothing nofun
      · rw [after_bind_of_ok result]
        exact .opened placed result
  | run key =>
      rw [after_run]
      exact .changed key nofun ⟨fun _ => rfl, fun _ => rfl, fun _ _ => rfl⟩
  | close key => exact .closed key
  | connect called => exact .nothing nofun
  | request called bytes =>
      rw [after]
      split
      · next socket reached =>
        rw [request]
        split
        · exact .nothing nofun
        · exact .changed socket.key nofun ⟨fun _ => rfl, fun _ => rfl, fun _ served => served⟩
      · exact .nothing nofun

/-- What holds of the places behind any row of deeds: the keys are all different and were
given out in order, no two sockets are in each other's way, and each has a port. -/
structure Sound (network : Network) : Prop where
  keys : network.places.Pairwise fun first second => first.1 ≠ second.1
  fresh : ∀ place ∈ network.places, place.1 < network.nextKey
  apart : network.places.Pairwise fun first second => first.2.conflicts second.2 = false
  ports : ∀ place ∈ network.places, place.2.port ≠ 0 ∧ place.2.port ∈ network.usedPorts

/-- A place for a new socket: at the host that is asked for, with a port, out of the way of
all others. -/
structure Placement (network : Network) (asked endpoint : Endpoint) : Prop where
  host : endpoint.host = asked.host
  port : endpoint.port ≠ 0
  apart : ∀ place ∈ network.places, place.2.conflicts endpoint = false

/-- No port that is given out on request is the port zero. -/
theorem ne_zero_of_mem_ephemeralPorts {port : UInt16} (member : port ∈ ephemeralPorts) :
    port ≠ 0 := by
  obtain ⟨index, below, rfl⟩ := List.mem_map.mp member
  have small := List.mem_range.mp below
  intro zero
  have value := congrArg UInt16.toNat zero
  rw [UInt16.toNat_ofNat'] at value
  simp only [UInt16.toNat_zero] at value
  omega

/-- A port that is given out is a port, and none that was used before. -/
theorem freshPort?_spec {port : UInt16} (found : network.freshPort? = some port) :
    port ≠ 0 ∧ port ∉ network.usedPorts := by
  rw [freshPort?] at found
  have unused := List.find?_some found
  exact ⟨ne_zero_of_mem_ephemeralPorts (List.mem_of_find?_eq_some found), by simpa using unused⟩

/-- What the network offers for a bind is a place that is still free. -/
theorem Sound.placement (sound : network.Sound) {asked endpoint : Endpoint}
    (found : network.placement? asked = some endpoint) : network.Placement asked endpoint := by
  rw [placement?] at found
  split at found
  · obtain ⟨port, isFresh, rfl⟩ := Option.map_eq_some_iff.mp found
    obtain ⟨nonzero, unused⟩ := freshPort?_spec isFresh
    refine ⟨rfl, nonzero, fun place member => ?_⟩
    -- Every socket has a port that was used, so none has the new one.
    have differs : place.2.port ≠ port := fun same =>
      unused (same ▸ (sound.ports place member).2)
    simp [Endpoint.conflicts, differs]
  · next explicit =>
    split at found
    · cases found
    · next free =>
      cases found
      refine ⟨rfl, explicit, fun place member => ?_⟩
      obtain ⟨socket, isOpen, rfl⟩ := List.mem_map.mp member
      rw [Bool.not_eq_true, List.any_eq_false] at free
      exact Bool.eq_false_iff.mpr (free socket isOpen)

/-- A new socket at a free place keeps the network sound: its key is new, and it is in nobody's
way. -/
theorem Sound.opened (sound : network.Sound) {asked endpoint : Endpoint}
    (placement : network.Placement asked endpoint) : (network.opened endpoint).Sound where
  keys := by
    rw [places_opened, List.pairwise_append]
    refine ⟨sound.keys, List.pairwise_singleton _ _, fun place member other isNew => ?_⟩
    rw [List.mem_singleton.mp isNew]
    exact Nat.ne_of_lt (sound.fresh place member)
  fresh := by
    rw [places_opened]
    intro place member
    obtain member | isNew := List.mem_append.mp member
    · exact Nat.lt_trans (sound.fresh place member) (Nat.lt_succ_self _)
    · rw [List.mem_singleton.mp isNew]
      exact Nat.lt_succ_self _
  apart := by
    rw [places_opened, List.pairwise_append]
    refine ⟨sound.apart, List.pairwise_singleton _ _, fun place member other isNew => ?_⟩
    rw [List.mem_singleton.mp isNew]
    exact placement.apart place member
  ports := by
    rw [places_opened]
    intro place member
    obtain member | isNew := List.mem_append.mp member
    · obtain ⟨nonzero, used⟩ := sound.ports place member
      exact ⟨nonzero, List.mem_cons_of_mem _ used⟩
    · rw [List.mem_singleton.mp isNew]
      exact ⟨placement.port, List.mem_cons_self⟩

/-- Closing only takes places away. -/
theorem Sound.close (sound : network.Sound) (key : Nat) : (network.close key).Sound where
  keys := by
    rw [places_close]
    exact sound.keys.filter _
  fresh := by
    rw [places_close]
    exact fun place member => sound.fresh place (List.mem_filter.mp member).1
  apart := by
    rw [places_close]
    exact sound.apart.filter _
  ports := by
    rw [places_close]
    exact fun place member => sound.ports place (List.mem_filter.mp member).1

/-- Changing a socket where it is touches no place. -/
theorem Sound.modify (sound : network.Sound) (key : Nat) {change : Socket → Socket}
    (keeps : Keeps change) : (network.modify key change).Sound where
  keys := by
    rw [places_modify network key keeps]
    exact sound.keys
  fresh := by
    rw [places_modify network key keeps]
    exact sound.fresh
  apart := by
    rw [places_modify network key keeps]
    exact sound.apart
  ports := by
    rw [places_modify network key keeps]
    exact sound.ports

/-- **Every deed keeps the network sound.** -/
theorem Sound.after (sound : network.Sound) (deed : Deed) : (network.after deed).Sound := by
  have effect := network.effect_after deed
  -- The cases of the effect take the place of those of the deed and its outcome.
  generalize network.after deed = next at effect
  cases effect with
  | opened placed => exact sound.opened (sound.placement placed)
  | closed key => exact sound.close key
  | changed key _ keeps => exact sound.modify key keeps
  | nothing => exact sound

end Network

end Greeter
