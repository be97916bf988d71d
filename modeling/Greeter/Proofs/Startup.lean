import Greeter.Server
import Mathlib.Tactic.Common

/-! # How a server starts

A server binds its endpoint and runs on the socket it got. Each of the three answers of
the operating system can be an error, and the error the server ends with tells which one
it was and keeps it (`Server.serve_classified`): one of binding names the endpoint, every
other is an error of serving. The endpoint that is told is the one that was bound.
-/

namespace Greeter

namespace Attempt

variable {First Second : Type} {first : Attempt First} {next : First → Attempt Second}

theorem andThen_of_ok {value : First} (done : first.result = .ok value) :
    first.andThen next = ⟨first.events ++ (next value).events, (next value).result⟩ := by
  rw [andThen, done]

theorem andThen_of_error {error : ServerError} (failed : first.result = .error error) :
    first.andThen next = ⟨first.events, .error error⟩ := by
  rw [andThen, failed]

/-- The error is that of the first attempt, or that of the second on the value of the
first. -/
theorem andThen_result_eq_error_iff {error : ServerError} :
    (first.andThen next).result = .error error ↔ first.result = .error error ∨
      ∃ value, first.result = .ok value ∧ (next value).result = .error error := by
  cases result : first.result with
  | error other =>
      rw [andThen_of_error result]
      constructor
      · intro failed
        cases failed
        exact .inl rfl
      · rintro (same | ⟨value, found, -⟩)
        · cases same
          rfl
        · cases found
  | ok value =>
      rw [andThen_of_ok result]
      constructor
      · exact fun failed => .inr ⟨value, rfl, failed⟩
      · rintro (same | ⟨other, found, failed⟩)
        · cases same
        · cases found
          exact failed

end Attempt

namespace Server

variable {Listener : Type} (sockets : Sockets Listener) (config : Config) (listener : Listener)

theorem bind_result_eq_ok_iff : (bind sockets config).result = .ok listener ↔
    sockets.bind config.endpoint = .ok listener := by
  rw [bind]
  cases sockets.bind config.endpoint <;> simp [Except.mapError]

/-- Binding fails with the error of the operating system and the endpoint. -/
theorem bind_result_eq_error_iff (error : ServerError) :
    (bind sockets config).result = .error error ↔ ∃ source,
      error = .bind config.endpoint source ∧ sockets.bind config.endpoint = .error source := by
  rw [bind]
  cases sockets.bind config.endpoint with
  | error source => simp [Except.mapError, eq_comm]
  | ok listener => simp [Except.mapError]

theorem run_of_named {bound : Endpoint} (named : sockets.localEndpoint listener = .ok bound) :
    run sockets listener =
      ⟨[.listening bound], (sockets.accept listener).mapError .serve⟩ := by
  rw [run, named]

theorem run_of_nameless {source : IoError}
    (nameless : sockets.localEndpoint listener = .error source) :
    run sockets listener = ⟨[], .error (.serve source)⟩ := by
  rw [run, nameless]

/-- Running fails with an error of the operating system alone: there is no endpoint to
tell, or no more connections can be accepted. -/
theorem run_result_eq_error_iff (error : ServerError) :
    (run sockets listener).result = .error error ↔ ∃ source, error = .serve source ∧
      (sockets.localEndpoint listener = .error source ∨ ∃ bound,
        sockets.localEndpoint listener = .ok bound ∧ sockets.accept listener = .error source) := by
  cases named : sockets.localEndpoint listener with
  | error source =>
      rw [run_of_nameless sockets listener named]
      simp [eq_comm]
  | ok bound =>
      rw [run_of_named sockets listener named]
      cases sockets.accept listener with
      | error source => simp [Except.mapError, eq_comm]
      | ok _ => simp [Except.mapError]

/-- An endpoint is told when it is known, and then once. -/
theorem run_events_eq_iff (bound : Endpoint) :
    (run sockets listener).events = [.listening bound] ↔
      sockets.localEndpoint listener = .ok bound := by
  cases named : sockets.localEndpoint listener with
  | error source =>
      rw [run_of_nameless sockets listener named]
      simp
  | ok other =>
      rw [run_of_named sockets listener named]
      simp

/-- At most one event comes of running, and it tells the bound address. -/
theorem run_events_cases :
    (run sockets listener).events = [] ∨
      ∃ bound, (run sockets listener).events = [.listening bound] := by
  cases named : sockets.localEndpoint listener with
  | error source => exact .inl (by rw [run_of_nameless sockets listener named])
  | ok bound => exact .inr ⟨bound, by rw [run_of_named sockets listener named]⟩

/-- What the operating system answers decides what is told on the way and how it ends. -/
structure Classified : Prop where
  -- Serving is binding, and then running on the socket that is bound.
  inTurn : ∀ listener, (bind sockets config).result = .ok listener →
    serve sockets config = ⟨(bind sockets config).events ++ (run sockets listener).events,
      (run sockets listener).result⟩
  unbound : ∀ error, (bind sockets config).result = .error error →
    serve sockets config = ⟨(bind sockets config).events, .error error⟩
  -- An error of binding names the endpoint of the configuration and nothing has been run.
  bindError : ∀ endpoint source, (serve sockets config).result = .error (.bind endpoint source) ↔
    endpoint = config.endpoint ∧ sockets.bind config.endpoint = .error source
  notRun : ∀ source, sockets.bind config.endpoint = .error source →
    (serve sockets config).events = [.binding config.endpoint] ∧
      ∀ other : Sockets Listener, other.bind config.endpoint = .error source →
        serve other config = serve sockets config
  -- Any other error comes from a socket that was bound, and is kept as it is.
  serveError : ∀ source, (serve sockets config).result = .error (.serve source) ↔
    ∃ listener, sockets.bind config.endpoint = .ok listener ∧
      (sockets.localEndpoint listener = .error source ∨ ∃ bound,
        sockets.localEndpoint listener = .ok bound ∧ sockets.accept listener = .error source)
  -- The endpoint that was bound is told once, behind the one that was asked for.
  told : ∀ bound,
    (serve sockets config).events = [.binding config.endpoint, .listening bound] ↔
      ∃ listener, sockets.bind config.endpoint = .ok listener ∧
        sockets.localEndpoint listener = .ok bound
  nothingElse : (serve sockets config).events = [.binding config.endpoint] ∨ ∃ bound,
    (serve sockets config).events = [.binding config.endpoint, .listening bound]
  -- Neither part reports the errors of the other.
  bindsOnly : ∀ source, (bind sockets config).result ≠ .error (.serve source)
  runsOnly : ∀ listener endpoint source,
    (run sockets listener).result ≠ .error (.bind endpoint source)

variable {sockets config} in
/-- Where binding fails, serving ends with the error that names the endpoint. -/
theorem serve_of_unbound {source : IoError}
    (unbound : sockets.bind config.endpoint = .error source) :
    serve sockets config = ⟨[.binding config.endpoint], .error (.bind config.endpoint source)⟩ :=
  Attempt.andThen_of_error
    ((bind_result_eq_error_iff sockets config _).mpr ⟨source, rfl, unbound⟩)

variable {sockets config} in
theorem serve_of_bound {listener : Listener} (bound : sockets.bind config.endpoint = .ok listener) :
    serve sockets config = ⟨.binding config.endpoint :: (run sockets listener).events,
      (run sockets listener).result⟩ :=
  Attempt.andThen_of_ok ((bind_result_eq_ok_iff sockets config listener).mpr bound)

/-- **Serving is binding and then running**, and an error tells where it arose. -/
theorem serve_classified : Classified sockets config where
  inTurn listener bound := Attempt.andThen_of_ok bound
  unbound error failed := Attempt.andThen_of_error failed
  bindError := by
    intro endpoint source
    rw [serve, Attempt.andThen_result_eq_error_iff, bind_result_eq_error_iff]
    constructor
    · rintro (⟨other, same, failed⟩ | ⟨listener, -, failed⟩)
      · cases same
        exact ⟨rfl, failed⟩
      · obtain ⟨other, differs, -⟩ := (run_result_eq_error_iff sockets listener _).mp failed
        cases differs
    · rintro ⟨rfl, failed⟩
      exact .inl ⟨source, rfl, failed⟩
  notRun := by
    intro source unbound
    refine ⟨by rw [serve_of_unbound unbound], fun other alsoUnbound => ?_⟩
    rw [serve_of_unbound unbound, serve_of_unbound alsoUnbound]
  serveError := by
    intro source
    rw [serve, Attempt.andThen_result_eq_error_iff, bind_result_eq_error_iff]
    simp only [bind_result_eq_ok_iff, run_result_eq_error_iff]
    constructor
    · rintro (⟨other, differs, -⟩ | ⟨listener, bound, other, same, failed⟩)
      · cases differs
      · cases same
        exact ⟨listener, bound, failed⟩
    · rintro ⟨listener, bound, failed⟩
      exact .inr ⟨listener, bound, source, rfl, failed⟩
  told := by
    intro endpoint
    cases bound : sockets.bind config.endpoint with
    | error source =>
        rw [serve_of_unbound bound]
        simp
    | ok listener =>
        rw [serve_of_bound bound]
        simp [run_events_eq_iff]
  nothingElse := by
    cases bound : sockets.bind config.endpoint with
    | error source => exact .inl (by rw [serve_of_unbound bound])
    | ok listener =>
        rw [serve_of_bound bound]
        obtain silent | ⟨endpoint, tells⟩ := run_events_cases sockets listener
        · exact .inl (by rw [silent])
        · exact .inr ⟨endpoint, by rw [tells]⟩
  bindsOnly := by
    intro source failed
    obtain ⟨other, differs, -⟩ := (bind_result_eq_error_iff sockets config _).mp failed
    cases differs
  runsOnly := by
    intro listener endpoint source failed
    obtain ⟨other, differs, -⟩ := (run_result_eq_error_iff sockets listener _).mp failed
    cases differs

end Server

end Greeter
