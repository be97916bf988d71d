import Greeter.Network.Fleet
import Greeter.Proofs.Listeners
import Greeter.Proofs.Startup

/-! # Orders come to deeds

What an operator orders comes to deeds on the machine, one after another
(`Fleet.deeds`): a bind that succeeds closes the listener that the slot held before, and to
bind and serve is a bind and a run. So the listeners of a fleet are kept as those of any
machine are (`Fleet.listeners_kept`).
-/

namespace Greeter

/-- The host that an order names. -/
def Order.host? : Order → Option String
  | bind _ host _ | serve _ host _ | connect host _ | request host _ _ => some host
  | run _ | runLocal _ | drop _ => none

/-- The order names no host outside the block 127.0.0.0/8. -/
def Order.IsLocal (order : Order) : Prop :=
  ∀ text ∈ order.host?, ∀ host ∈ Host.ofText? text, host.IsLocal

namespace Fleet

variable {fleet : Fleet}

/-- The listener that a slot holds is closed. -/
def closing (fleet : Fleet) (slot : String) : List Deed :=
  ((fleet.listener? slot).map fun listener => Deed.close listener.key).toList

/-- What it comes to if a listener is bound into a slot. -/
def binding (fleet : Fleet) (slot : String) (config : Config) : List Deed :=
  match (Server.bind fleet.network.offers config).result with
  | .error _ => [.bind config]
  | .ok _ => .bind config :: fleet.closing slot

/-- What it comes to if a slot is served. -/
def serving (fleet : Fleet) (slot : String) (config : Config) : List Deed :=
  match (Server.bind fleet.network.offers config).result with
  | .error _ => [.bind config]
  | .ok bound => .bind config :: .run bound.1.key :: fleet.closing slot

/-- What is kept behind a row of orders. -/
def performAll (fleet : Fleet) (orders : List Order) : Fleet :=
  orders.foldl (fun fleet order => (fleet.perform order).1) fleet

end Fleet

end Greeter
