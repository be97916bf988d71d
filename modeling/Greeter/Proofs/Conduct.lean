import Greeter.Proofs.Accounting

/-! # The conduct of a connection

Whatever clients send, on however many connections and in whatever pieces, each
connection conducts itself in the same way (`Orderly`): greetings come back, then
perhaps one refusal, and then nothing; a request that is accepted leaves its two
lines in the log, and nothing else leaves any; a connection that has been closed
stays closed.
-/

namespace Greeter

open Wire

namespace Wire.Connection

/-- A connection that is not open is closed, since there are no other states. -/
theorem eq_closed_of_not_open {connection : Connection} (notOpen : connection.isOpen = false) :
    connection = closed := by
  cases connection with
  | sniffing seen => cases notOpen
  | reading unread => cases notOpen
  | closed => rfl

/-- Where an error is answered, the connection closes. -/
theorem settle_of_refusal {served : Served} {reason : Refusal}
    (refused : (settle served).2.refusal = some reason) : (settle served).1 = closed := by
  obtain ⟨exchanges, ending⟩ := served
  cases ending with
  | waiting unread => cases refused
  | refused reason => rfl
  | closed => rfl

theorem act_finish (connection : Connection) : (connection.act .finish).1 = closed := by
  cases connection <;> rfl

/-- A refusal closes the connection. -/
theorem act_of_refusal {connection : Connection} {action : Action} {reason : Refusal}
    (refused : (connection.act action).2.refusal = some reason) :
    (connection.act action).1 = closed := by
  cases action with
  | finish => exact act_finish connection
  | send bytes =>
      cases connection with
      | sniffing seen =>
          simp only [act, send] at refused ⊢
          split
          · rfl
          · next differs =>
            rw [if_neg differs] at refused
            split
            · next greets =>
              rw [if_pos greets] at refused
              cases refused
            · next goesOn =>
              rw [if_neg goesOn] at refused
              exact settle_of_refusal refused
      | reading unread => exact settle_of_refusal refused
      | closed => rfl

variable (connection : Connection) (actions : List Action)

theorem length_answers : (connection.answers actions).length = actions.length := by
  induction actions generalizing connection with
  | nil => rfl
  | cons action rest ih => rw [answers, List.length_cons, List.length_cons, ih]

/-- Behind a step that closes the connection, all steps are silent. -/
theorem answers_pairwise : (connection.answers actions).Pairwise fun earlier later =>
    earlier.isOpen = false → later = .silent := by
  induction actions generalizing connection with
  | nil => exact .nil
  | cons action rest ih =>
      rw [answers, List.pairwise_cons]
      refine ⟨?_, ih (connection.act action).1⟩
      intro later member closes
      rw [eq_closed_of_not_open closes, answers_closed, List.mem_map] at member
      obtain ⟨_, _, same⟩ := member
      exact same.symm

/-- Behind the end of the stream the connection is not open. -/
theorem answers_of_finish : ∀ pair ∈ actions.zip (connection.answers actions),
    pair.1 = .finish → pair.2.isOpen = false := by
  induction actions generalizing connection with
  | nil => nofun
  | cons action rest ih =>
      rw [answers, List.zip_cons_cons, List.forall_mem_cons]
      refine ⟨?_, ih (connection.act action).1⟩
      rintro rfl
      simp only [act_finish, isOpen]

/-- Behind the answer to an error the connection is not open. -/
theorem answers_of_refusal : ∀ answer ∈ connection.answers actions,
    answer.refusals ≠ [] → answer.isOpen = false := by
  induction actions generalizing connection with
  | nil => nofun
  | cons action rest ih =>
      rw [answers, List.forall_mem_cons]
      refine ⟨?_, ih (connection.act action).1⟩
      intro some
      cases refused : (connection.act action).2.refusal with
      | none => exact absurd (by rw [Answer.refusals, refused, Option.toList_none]) some
      | some reason =>
          rw [act_of_refusal refused]
          rfl

/-- A closed connection says nothing more. -/
theorem flatMap_answers_closed {α : Type} {part : Answer → List α} (nothing : part .silent = []) :
    (closed.answers actions).flatMap part = [] := by
  rw [answers_closed, List.flatMap_map, List.flatMap_eq_nil_iff]
  exact fun _ _ => nothing

/-- A refusal is the last thing that is sent back. -/
theorem answers_received (date : Bytes) :
    (connection.answers actions).flatMap (·.received date) =
      ((connection.answers actions).flatMap Answer.greetings).flatMap (·.text date) ++
        ((connection.answers actions).flatMap Answer.refusals).flatMap (·.text date) := by
  induction actions generalizing connection with
  | nil => rfl
  | cons action rest ih =>
      rw [answers, List.flatMap_cons, List.flatMap_cons, List.flatMap_cons, Answer.received_eq]
      cases refused : (connection.act action).2.refusal with
      | none =>
          have none : Answer.refusals ⟨(connection.act action).2,
              (connection.act action).1.isOpen⟩ = [] := by
            rw [Answer.refusals, refused, Option.toList_none]
          rw [none, ih, List.flatMap_nil, List.append_nil, List.nil_append, List.flatMap_append,
            List.append_assoc]
      | some reason =>
          -- Nothing comes back behind a refusal: all later steps are silent.
          rw [act_of_refusal refused, flatMap_answers_closed rest rfl,
            flatMap_answers_closed rest rfl, flatMap_answers_closed rest rfl, List.append_nil,
            List.append_nil, List.append_nil]

/-- A connection answers an error once at most, since it closes behind it. -/
theorem length_refusals_answers :
    ((connection.answers actions).flatMap Answer.refusals).length ≤ 1 := by
  induction actions generalizing connection with
  | nil => exact Nat.zero_le 1
  | cons action rest ih =>
      rw [answers, List.flatMap_cons, Answer.refusals]
      cases refused : (connection.act action).2.refusal with
      | none => exact ih (connection.act action).1
      | some reason =>
          rw [act_of_refusal refused, flatMap_answers_closed rest rfl, List.append_nil]
          exact Nat.le_refl 1

variable {connection} in
/-- What a connection accepts from now on goes on with its account. -/
theorem Accounts.answers {stream : Bytes} {earlier : List Request}
    (accounts : connection.Accounts stream earlier) :
    Holds (stream ++ sent actions)
      (earlier ++ (connection.answers actions).flatMap Answer.requests) := by
  induction actions generalizing connection stream earlier with
  | nil =>
      rw [sent, Connection.answers, List.flatMap_nil, List.flatMap_nil, List.append_nil,
        List.append_nil]
      exact accounts.holds
  | cons action rest ih =>
      have later := ih (act_accounts accounts action)
      rw [List.append_assoc, List.append_assoc] at later
      exact later

end Wire.Connection

/-- How a connection answers what happens on it. -/
structure Orderly (actions : List Action) (answers : List Answer) : Prop where
  length : answers.length = actions.length
  -- Greetings come back, one refusal behind them at most, and nothing behind that.
  received : ∀ date, answers.flatMap (·.received date) =
    (answers.flatMap Answer.greetings).flatMap (·.text date) ++
      (answers.flatMap Answer.refusals).flatMap (·.text date)
  spoken : ∀ greeting ∈ answers.flatMap Answer.greetings,
    greeting.version = .http10 ∨ greeting.version = .http11
  oneRefusal : (answers.flatMap Answer.refusals).length ≤ 1
  -- A refusal closes the connection, as does its client, and it stays closed.
  refusalCloses : ∀ answer ∈ answers, answer.refusals ≠ [] → answer.isOpen = false
  finishCloses : ∀ pair ∈ actions.zip answers, pair.1 = .finish → pair.2.isOpen = false
  staysClosed : answers.Pairwise fun earlier later => earlier.isOpen = false →
    later.isOpen = false ∧ (∀ date, later.received date = []) ∧ later.log .default = []
  -- The log holds two lines for each request that stands in what was sent.
  log : answers.flatMap (·.log .default) =
    (answers.flatMap Answer.requests).flatMap Request.logLines
  holds : Holds (sent actions) (answers.flatMap Answer.requests)
  -- The same in each step.
  stepReceived : ∀ answer ∈ answers, ∀ date, answer.received date =
    answer.greetings.flatMap (·.text date) ++ answer.refusals.flatMap (·.text date)
  stepLog : ∀ answer ∈ answers, answer.log .default = answer.requests.flatMap Request.logLines
  -- Where nobody asks for a tunnel, each request is greeted in its step.
  greeted : (∀ request ∈ answers.flatMap Answer.requests, request.method.isConnect = false) →
    ∀ answer ∈ answers, answer.greetings.map (·.withBody) =
      answer.requests.map fun request => !request.method.isHead

/-- A connection is orderly from its first byte on, whatever is done on it. -/
theorem Wire.Connection.answers_orderly (actions : List Action) :
    Orderly actions (fresh.answers actions) where
  length := fresh.length_answers actions
  received := fresh.answers_received actions
  spoken := by
    intro greeting member
    obtain ⟨answer, listed, greeted⟩ := List.mem_flatMap.mp member
    obtain ⟨request, accepted, same⟩ := Answer.version_of_mem_greetings greeted
    rw [same]
    exact (fresh_accounts.answers actions).spoken request
      (List.mem_flatMap.mpr ⟨answer, listed, accepted⟩)
  oneRefusal := fresh.length_refusals_answers actions
  refusalCloses := fresh.answers_of_refusal actions
  finishCloses := fresh.answers_of_finish actions
  staysClosed := by
    refine (fresh.answers_pairwise actions).imp fun silent closes => ?_
    rw [silent closes]
    exact ⟨rfl, fun _ => rfl, rfl⟩
  log := by
    rw [List.flatMap_assoc]
    exact List.flatMap_congr fun answer _ => answer.log_eq
  holds := fresh_accounts.answers actions
  stepReceived := fun answer _ => answer.received_eq
  stepLog := fun answer _ => answer.log_eq
  greeted := by
    intro noTunnel answer member
    have noTunnelHere : ∀ request ∈ answer.requests, request.method.isConnect = false :=
      fun request accepted => noTunnel request (List.mem_flatMap.mpr ⟨answer, member, accepted⟩)
    rw [Answer.greetings_eq noTunnelHere, Answer.requests, Transmission.requests, List.map_map,
      List.map_map]
    rfl

/-- **Every connection is orderly**, whatever happens on it and on the others. -/
theorem Service.answersOn_orderly (steps : List Step) (number : Nat) :
    Orderly (actionsOn number steps) (idle.answersOn number steps) := by
  rw [answersOn_eq]
  exact Connection.answers_orderly (actionsOn number steps)

end Greeter
