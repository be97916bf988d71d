import Greeter.Proofs.Conversation

/-! # Connections on their own

Steps on several connections come in any order. The answers on one of them are those
that its own steps get where nothing else happens (`Service.answersOn_eq_run`), so
neither the order in which the steps of different connections come nor anything done
on another connection changes them (`Service.connections_independent`).
-/

namespace Greeter

open Wire

/-- The steps on one connection, in order. -/
def stepsOn (number : Nat) (steps : List Step) : List Step :=
  steps.filter (·.connection == number)

theorem stepsOn_append (number : Nat) (first second : List Step) :
    stepsOn number (first ++ second) = stepsOn number first ++ stepsOn number second :=
  List.filter_append first second

/-- Steps on other connections are not among them. -/
theorem stepsOn_eq_nil {number : Nat} {steps : List Step}
    (elsewhere : ∀ step ∈ steps, step.connection ≠ number) : stepsOn number steps = [] := by
  rw [stepsOn, List.filter_eq_nil_iff]
  intro step member same
  exact elsewhere step member (beq_iff_eq.mp same)

/-- What is done on a connection, done by itself, are the steps on that connection. -/
theorem map_actionsOn (number : Nat) (steps : List Step) :
    (actionsOn number steps).map (fun action => ⟨number, action⟩) = stepsOn number steps := by
  rw [actionsOn, stepsOn, List.map_map]
  refine (List.map_congr_left ?_).trans (List.map_id _)
  intro step member
  obtain ⟨-, own⟩ := List.mem_filter.mp member
  rw [Function.comp_apply, ← beq_iff_eq.mp own]
  rfl

namespace Service

/-- Each step has one answer. -/
theorem length_run (service : Service) (steps : List Step) :
    (service.run steps).length = steps.length := by
  induction steps generalizing service with
  | nil => rfl
  | cons first rest ih => rw [run, List.length_cons, ih, List.length_cons]

/-- **A connection is answered as if it were alone.** -/
theorem answersOn_eq_run (service : Service) (number : Nat) (steps : List Step) :
    service.answersOn number steps = service.run (stepsOn number steps) := by
  rw [answersOn_eq, ← run_single, map_actionsOn]

/-- **Connections do not influence each other.** Every step has an answer, and those on
a connection are the answers that its steps get alone on a server of their own. So they
are the same however the steps of several connections are mixed, and with or without
anything that happens on others. -/
theorem connections_independent (number : Nat) (steps : List Step) :
    (idle.run steps).length = steps.length ∧
      idle.answersOn number steps = idle.run (stepsOn number steps) ∧
      (∀ others, stepsOn number others = stepsOn number steps →
        idle.answersOn number others = idle.answersOn number steps) ∧
      ∀ before between after, steps = before ++ between ++ after →
        (∀ step ∈ between, step.connection ≠ number) →
        idle.answersOn number steps = idle.answersOn number (before ++ after) := by
  refine ⟨idle.length_run steps, idle.answersOn_eq_run number steps, ?_, ?_⟩
  · intro others same
    rw [answersOn_eq_run, answersOn_eq_run, same]
  · rintro before between after rfl elsewhere
    rw [answersOn_eq_run, answersOn_eq_run, stepsOn_append, stepsOn_append, stepsOn_append,
      stepsOn_eq_nil elsewhere, List.append_nil]

/-- A request that is cut between two steps is answered alike before and behind what
another connection is refused for, and without it. -/
theorem connections_independent_cut :
    let start : Step := ⟨1, .send (Bytes.ofText "GET / HTTP")⟩
    let rest : Step := ⟨1, .send (Bytes.ofText "/1.1\r\n\r\n")⟩
    let refused : Step := ⟨2, .send (Bytes.ofText "no request\r\n\r\n")⟩
    stepsOn 1 [refused, start, rest] = stepsOn 1 [start, refused, rest] ∧
      (∀ step ∈ [refused], step.connection ≠ 1) ∧
      idle.answersOn 1 [refused, start, rest] = idle.answersOn 1 [start, refused, rest] ∧
      idle.answersOn 1 [start, refused, rest] = idle.answersOn 1 [start, rest] := by
  intro start rest refused
  obtain ⟨-, -, mixed, without⟩ := connections_independent 1 [start, refused, rest]
  have same : stepsOn 1 [refused, start, rest] = stepsOn 1 [start, refused, rest] := rfl
  have elsewhere : ∀ step ∈ [refused], step.connection ≠ 1 := by decide
  exact ⟨same, elsewhere, mixed _ same, without [start] [refused] [rest] rfl elsewhere⟩

end Service

end Greeter
