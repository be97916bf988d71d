import Greeter.Wire.Reply

/-! # Reading from a buffer

A reader takes what it can from the start of the bytes that have come in. It may
find that they can no longer become what it reads, or that more bytes have to
come; otherwise it hands on the rest. No reader ever hands on more than it was
given (`Shrinks`), so reading on and on comes to an end.
-/

namespace Greeter.Wire

/-- What a reader comes to. -/
inductive Progress (α : Type) where
  /-- More bytes have to come. -/
  | incomplete
  /-- No further bytes can make it right. -/
  | refused (reason : Refusal)
  /-- The value, and the bytes behind it. -/
  | complete (value : α) (rest : Bytes)
  deriving DecidableEq, Repr

namespace Progress

variable {α β : Type}

/-- Reads on behind a value. -/
def andThen (progress : Progress α) (next : α → Bytes → Progress β) : Progress β :=
  match progress with
  | incomplete => incomplete
  | refused reason => refused reason
  | complete value rest => next value rest

/-- Makes something of the value. -/
def map (make : α → β) (progress : Progress α) : Progress β :=
  progress.andThen fun value rest => complete (make value) rest

/-- The rest, if there is one, is an end of the given bytes. -/
def Shrinks (progress : Progress α) (text : Bytes) : Prop :=
  ∀ value rest, progress = complete value rest → rest <:+ text

/-- A reader that waits hands nothing on. -/
theorem Shrinks.incomplete (text : Bytes) : Shrinks (incomplete : Progress α) text :=
  fun _ _ equal => nomatch equal

/-- A reader that refuses hands nothing on. -/
theorem Shrinks.refused (reason : Refusal) (text : Bytes) :
    Shrinks (refused reason : Progress α) text :=
  fun _ _ equal => nomatch equal

/-- A reader that hands on an end of its text shrinks it. -/
theorem Shrinks.complete {value : α} {rest text : Bytes} (suffix : rest <:+ text) :
    Shrinks (complete value rest) text := by
  intro _ _ equal
  cases equal
  exact suffix

/-- What is an end of a text is an end of every text that ends with that one. -/
theorem Shrinks.mono {progress : Progress α} {text whole : Bytes}
    (shrinks : progress.Shrinks text) (suffix : text <:+ whole) : progress.Shrinks whole :=
  fun value rest equal => (shrinks value rest equal).trans suffix

/-- Two readers one behind the other shrink the text if each of them does. -/
theorem Shrinks.andThen {progress : Progress α} {next : α → Bytes → Progress β} {text : Bytes}
    (first : progress.Shrinks text) (second : ∀ value rest, (next value rest).Shrinks rest) :
    (progress.andThen next).Shrinks text := by
  cases progress with
  | incomplete => exact Shrinks.incomplete text
  | refused reason => exact Shrinks.refused reason text
  | complete value rest => exact (second value rest).mono (first value rest rfl)

/-- What is made of a value has no part in what is handed on. -/
theorem Shrinks.map {progress : Progress α} {make : α → β} {text : Bytes}
    (first : progress.Shrinks text) : (progress.map make).Shrinks text :=
  first.andThen fun _ rest => Shrinks.complete (List.suffix_refl rest)

end Progress

end Greeter.Wire
