import Greeter.Log.Line
import Greeter.Service
import Mathlib.Data.List.Basic
import Mathlib.Tactic.Common

/-! # What is seen of a connection

A client sees the bytes it receives and whether its connection is open; the
operator sees the lines of the log. `Answer.received` and `Answer.log` give both
for one step. The answers on one connection are those of the connection alone
(`Service.answersOn_eq`), whatever happens on the others, and a connection that
is closed stays silent (`Wire.Connection.answers_closed`).
-/

namespace Greeter

open Wire

/-- The bytes that the client receives in a step, with the date in each reply. -/
def Answer.received (answer : Answer) (date : Bytes) : Bytes := answer.transmission.render date

/-- The lines of the log of a step. -/
def Answer.log (answer : Answer) (filter : Log.Filter) : List Log.Line :=
  filter.lines? answer.transmission.events

/-- The answer of a connection that is closed. -/
def Answer.silent : Answer := ⟨.silent, false⟩

/-- The answers of a connection to what happens on it. -/
def Wire.Connection.answers (connection : Connection) : List Action → List Answer
  | [] => []
  | action :: rest =>
    ⟨(connection.act action).2, (connection.act action).1.isOpen⟩ ::
      answers (connection.act action).1 rest

/-- The bytes that come in with an action. -/
def Action.bytes : Action → Bytes
  | send bytes => bytes
  | finish => []

/-- All bytes sent in a row of actions. -/
def sent (actions : List Action) : Bytes := actions.flatMap Action.bytes

/-- What happens on the connection of a number. -/
def actionsOn (number : Nat) (steps : List Step) : List Action :=
  (steps.filter (·.connection == number)).map (·.action)

/-- The answers to what happens on the connection of a number. -/
def Service.answersOn (service : Service) (number : Nat) (steps : List Step) : List Answer :=
  ((steps.zip (service.run steps)).filter (·.1.connection == number)).map (·.2)

/-- What can be told about a greeting before it is sent. -/
structure Wire.Greeting where
  version : Version
  keepAlive : Bool
  withBody : Bool
  deriving DecidableEq, Repr

namespace Wire

/-- The text of a greeting: a complete response with status 200. -/
def Greeting.text (greeting : Greeting) (date : Bytes) : Bytes :=
  Bytes.ofText greeting.version.text ++
    Bytes.ofText " 200 OK\r\ncontent-type: text/plain; charset=utf-8\r\ncontent-length: 13\r\n" ++
    Reply.persistence greeting.version greeting.keepAlive ++
    Bytes.ofText "date: " ++ date ++ Bytes.ofText "\r\n\r\n" ++
    if greeting.withBody then Bytes.ofText "Hello, RS144!" else []

/-- The text of a refusal: a complete response with an error of the client and no
body. -/
def Refusal.text (reason : Refusal) (date : Bytes) : Bytes :=
  Bytes.ofText "HTTP/1.1 " ++ Bytes.ofText reason.status ++
    Bytes.ofText "\r\nconnection: close\r\ncontent-length: 0\r\ndate: " ++ date ++
    Bytes.ofText "\r\n\r\n"

/-- The greeting that answers an exchange, unless a tunnel was asked for. -/
def Exchange.greeting (exchange : Exchange) : Greeting :=
  ⟨exchange.request.version, exchange.keepAlive, !exchange.request.method.isHead⟩

/-- The greeting that an exchange comes to: none for a client that asks for a
tunnel. -/
def Exchange.greeting? (exchange : Exchange) : Option Greeting :=
  if exchange.request.method.isConnect then none else some exchange.greeting

end Wire

/-- The requests accepted in a transmission. -/
def Wire.Transmission.requests (transmission : Transmission) : List Request :=
  transmission.exchanges.map (·.request)

/-- The two lines of the log about a request: both name its method, its target
and its version. -/
def Request.logLines (request : Request) : List Log.Line :=
  [⟨.started (.ofRequest request), true⟩, ⟨.finished (.ofRequest request) 200, true⟩]

namespace Answer

/-- The requests that were accepted in a step. -/
def requests (answer : Answer) : List Request := answer.transmission.requests

/-- The greetings that a client received in a step. -/
def greetings (answer : Answer) : List Greeting :=
  answer.transmission.exchanges.filterMap Exchange.greeting?

/-- The errors that a client received in a step: none or one. -/
def refusals (answer : Answer) : List Refusal := answer.transmission.refusal.toList

end Answer

/-- All routes lead to the same greeting. -/
theorem Router.respond_eq (request : Request) :
    Router.respond request = Response.ofText greeting := by
  rw [Router.respond]
  cases Route.ofPath request.uri.path <;> rfl

namespace Wire.Reply

/-- The line with the date ends the head of a response. -/
theorem line_date (date : Bytes) : line (Bytes.ofText "date") date ++ Bytes.lineEnd =
    Bytes.ofText "date: " ++ date ++ Bytes.ofText "\r\n\r\n" := by
  have name : Bytes.ofText "date: " = Bytes.ofText "date" ++ Bytes.ofText ": " := by decide
  have ending : Bytes.ofText "\r\n\r\n" = Bytes.lineEnd ++ Bytes.lineEnd := by decide
  rw [line, name, ending]
  simp only [List.append_assoc]

/-- How a greeting reads on the wire. -/
theorem render_answer (date : Bytes) (version : Version) (keepAlive withBody : Bool) :
    render date (.answer version keepAlive withBody (Response.ofText greeting)) =
      Greeting.text ⟨version, keepAlive, withBody⟩ date := by
  have fixed : [Bytes.space] ++ Bytes.ofText (toString (Response.ofText greeting).status) ++
      [Bytes.space] ++ Bytes.ofText (reason (Response.ofText greeting).status) ++
      Bytes.lineEnd ++
      (Response.ofText greeting).headers.flatMap (fun header => line header.1 header.2) =
      Bytes.ofText
        " 200 OK\r\ncontent-type: text/plain; charset=utf-8\r\ncontent-length: 13\r\n" := by
    decide
  have body : (Response.ofText greeting).body = Bytes.ofText "Hello, RS144!" := rfl
  have grouped : render date (.answer version keepAlive withBody (Response.ofText greeting)) =
      Bytes.ofText version.text ++
      ([Bytes.space] ++ Bytes.ofText (toString (Response.ofText greeting).status) ++
        [Bytes.space] ++ Bytes.ofText (reason (Response.ofText greeting).status) ++
        Bytes.lineEnd ++
        (Response.ofText greeting).headers.flatMap (fun header => line header.1 header.2)) ++
      persistence version keepAlive ++ (line (Bytes.ofText "date") date ++ Bytes.lineEnd) ++
      (if withBody then (Response.ofText greeting).body else []) := by
    simp only [render, List.append_assoc]
  rw [grouped, fixed, line_date, body, Greeting.text]
  simp only [List.append_assoc]

/-- How an error reads on the wire. -/
theorem render_refusal (date : Bytes) (reason : Refusal) :
    render date (.refusal reason) = reason.text date := by
  have start : Bytes.ofText Version.http11.text ++ [Bytes.space] = Bytes.ofText "HTTP/1.1 " := by
    decide
  have fixed : Bytes.lineEnd ++ line (Bytes.ofText "connection") (Bytes.ofText "close") ++
      line (Bytes.ofText "content-length") (Bytes.ofText "0") ++ Bytes.ofText "date: " =
      Bytes.ofText "\r\nconnection: close\r\ncontent-length: 0\r\ndate: " := by
    decide
  have grouped : render date (.refusal reason) = Bytes.ofText Version.http11.text ++
      [Bytes.space] ++ Bytes.ofText reason.status ++ (Bytes.lineEnd ++
        line (Bytes.ofText "connection") (Bytes.ofText "close") ++
        line (Bytes.ofText "content-length") (Bytes.ofText "0")) ++
      (line (Bytes.ofText "date") date ++ Bytes.lineEnd) := by
    simp only [render, List.append_assoc]
  rw [grouped, line_date, start, Refusal.text, ← fixed]
  simp only [List.append_assoc]

end Wire.Reply

namespace Wire.Exchange

/-- What a client receives of an exchange is its greeting, unless there is none. -/
theorem render_reply? (exchange : Exchange) (date : Bytes) :
    exchange.reply?.map (Reply.render date) = exchange.greeting?.map (·.text date) := by
  rw [reply?, greeting?]
  split
  · rfl
  · rw [Option.map_some, Option.map_some, Router.respond_eq, Reply.render_answer, greeting]

end Wire.Exchange

namespace Answer

/-- **What a client receives in a step** is greetings, and perhaps a refusal
behind them. -/
theorem received_eq (answer : Answer) (date : Bytes) :
    answer.received date = answer.greetings.flatMap (·.text date) ++
      answer.refusals.flatMap (·.text date) := by
  rw [received, Transmission.render, Transmission.replies, List.flatMap_append, refusals]
  congr 1
  · rw [greetings]
    induction answer.transmission.exchanges with
    | nil => rfl
    | cons exchange rest ih =>
        have same := exchange.render_reply? date
        cases replied : exchange.reply? with
        | none =>
            rw [replied, Option.map_none, eq_comm, Option.map_eq_none_iff] at same
            rw [List.filterMap_cons_none replied, List.filterMap_cons_none same, ih]
        | some reply =>
            rw [replied, Option.map_some, eq_comm, Option.map_eq_some_iff] at same
            obtain ⟨greeting, greeted, same⟩ := same
            rw [List.filterMap_cons_some replied, List.filterMap_cons_some greeted,
              List.flatMap_cons, List.flatMap_cons, ih, same]
  · cases answer.transmission.refusal with
    | none => rfl
    | some reason => simp [Reply.render_refusal]

/-- Where nobody asks for a tunnel, each request is greeted. -/
theorem greetings_eq {answer : Answer}
    (noTunnel : ∀ request ∈ answer.requests, request.method.isConnect = false) :
    answer.greetings = answer.transmission.exchanges.map Exchange.greeting := by
  rw [greetings, List.filterMap_eq_map_iff_forall_eq_some]
  intro exchange member
  have sent := noTunnel exchange.request (List.mem_map_of_mem member)
  rw [Exchange.greeting?, sent, if_neg Bool.false_ne_true]

/-- A greeting is in the version of a request that was accepted. -/
theorem version_of_mem_greetings {answer : Answer} {greeting : Greeting}
    (member : greeting ∈ answer.greetings) :
    ∃ request ∈ answer.requests, greeting.version = request.version := by
  obtain ⟨exchange, listed, greeted⟩ := List.mem_filterMap.mp member
  refine ⟨exchange.request, List.mem_map_of_mem listed, ?_⟩
  rw [Exchange.greeting?] at greeted
  split at greeted
  · cases greeted
  · cases greeted
    rfl

end Answer

namespace Log.Filter

theorem default_showsSpan : Filter.default.showsSpan = true := by decide

/-- The usual filter shows that a request has come in. -/
theorem default_shows_started (span : Span) : Filter.default.shows (.started span) = true := by
  have line : Filter.default.admitsLine
      ⟨"tower_http::trace::on_request".toList, .debug, ["message".toList]⟩ = true := by
    decide
  rw [shows, Bool.or_eq_true]
  exact .inl line

/-- The usual filter shows that a request has been answered. -/
theorem default_shows_finished (span : Span) (status : Nat) :
    Filter.default.shows (.finished span status) = true := by
  have line : Filter.default.admitsLine ⟨"tower_http::trace::on_response".toList, .debug,
      ["message".toList, "latency".toList, "status".toList, "response_headers".toList]⟩ =
        true := by decide
  rw [shows, Bool.or_eq_true]
  exact .inl line

theorem lines?_append (filter : Filter) (first second : List Event) :
    filter.lines? (first ++ second) = filter.lines? first ++ filter.lines? second := by
  rw [lines?, List.filter_append, List.map_append, lines?, lines?]

/-- The usual filter keeps both lines of a request. -/
theorem default_lines?_events (request : Request) :
    Filter.default.lines? (Router.events request) = request.logLines := by
  rw [Router.events, Router.respond_eq, lines?, List.filter_cons_of_pos (default_shows_started _),
    List.filter_cons_of_pos (default_shows_finished _ _), List.filter_nil, default_showsSpan]
  rfl

end Log.Filter

namespace Answer

/-- The log of a step holds the lines of the requests that were accepted, and
nothing else. -/
theorem log_eq (answer : Answer) :
    answer.log .default = answer.requests.flatMap Request.logLines := by
  rw [log, Transmission.events, requests, Transmission.requests]
  induction answer.transmission.exchanges with
  | nil => rfl
  | cons exchange rest ih =>
      rw [List.flatMap_cons, Log.Filter.lines?_append, ih, Exchange.events,
        Log.Filter.default_lines?_events, List.map_cons, List.flatMap_cons]

end Answer

namespace Service

theorem connection_update_self (service : Service) (number : Nat) (connection : Connection) :
    (service.update number connection).connection number = connection := by
  rw [update, Service.connection, List.lookup_cons, beq_self_eq_true]
  rfl

/-- Taking one entry off a row leaves the others where they are. -/
theorem lookup_filter_ne (entries : List (Nat × Connection)) {first second : Nat}
    (differs : second ≠ first) :
    (entries.filter fun entry => entry.1 != first).lookup second = entries.lookup second := by
  induction entries with
  | nil => rfl
  | cons entry rest ih =>
      obtain ⟨number, connection⟩ := entry
      by_cases same : number = first
      · subst same
        rw [List.filter_cons_of_neg (by simp), ih, List.lookup_cons, beq_false_of_ne differs]
      · rw [List.filter_cons_of_pos (by simpa using same), List.lookup_cons, List.lookup_cons, ih]

/-- Updating one connection leaves the others as they are. -/
theorem connection_update_of_ne (service : Service) {first second : Nat}
    (connection : Connection) (differs : second ≠ first) :
    (service.update first connection).connection second = service.connection second := by
  rw [update, Service.connection, List.lookup_cons, beq_false_of_ne differs, Service.connection]
  exact congrArg (·.getD Connection.fresh) (lookup_filter_ne service.connections differs)

/-- **Connections are served each on its own**: the answers on a connection are
those that it gives to its own steps. -/
theorem answersOn_eq (service : Service) (number : Nat) (steps : List Step) :
    service.answersOn number steps =
      (service.connection number).answers (actionsOn number steps) := by
  induction steps generalizing service with
  | nil => rfl
  | cons first rest ih =>
      have behind := ih (service.step first).1
      rw [answersOn, run, List.zip_cons_cons]
      by_cases own : first.connection = number
      · subst own
        rw [List.filter_cons_of_pos (by simp), List.map_cons, ← answersOn, behind, actionsOn,
          actionsOn, List.filter_cons_of_pos (by simp), List.map_cons, Connection.answers, step]
        simp only [connection_update_self]
      · have other : number ≠ first.connection := fun equal => own equal.symm
        rw [List.filter_cons_of_neg (by simpa using own), ← answersOn, behind, actionsOn, actionsOn,
          List.filter_cons_of_neg (by simpa using own), step]
        simp only [connection_update_of_ne service _ other]

/-- Steps on a single connection are answered by that connection. -/
theorem run_single (service : Service) (number : Nat) (actions : List Action) :
    service.run (actions.map fun action => ⟨number, action⟩) =
      (service.connection number).answers actions := by
  induction actions generalizing service with
  | nil => rfl
  | cons action rest ih =>
      rw [List.map_cons, run, Connection.answers, step]
      simp only [ih, connection_update_self]

/-- The first step on a connection is answered by a fresh one, and what else happens on
it by what the step leaves. -/
theorem answersOn_send (number : Nat) (bytes : Bytes) (later : List Step) :
    idle.answersOn number (⟨number, .send bytes⟩ :: later) =
      ⟨(Connection.fresh.send bytes).2, (Connection.fresh.send bytes).1.isOpen⟩ ::
        (Connection.fresh.send bytes).1.answers (actionsOn number later) := by
  rw [answersOn_eq, actionsOn, List.filter_cons_of_pos (by simp), List.map_cons, Connection.answers]
  rfl

theorem run_send (number : Nat) (bytes : Bytes) : idle.run [⟨number, .send bytes⟩] =
    [⟨(Connection.fresh.send bytes).2, (Connection.fresh.send bytes).1.isOpen⟩] := rfl

end Service

namespace Wire.Connection

theorem act_closed (action : Action) : closed.act action = (closed, .silent) := by
  cases action <;> rfl

/-- **A closed connection stays silent.** -/
theorem answers_closed (actions : List Action) :
    closed.answers actions = actions.map fun _ => Answer.silent := by
  induction actions with
  | nil => rfl
  | cons action rest ih =>
      rw [answers, act_closed, ih]
      rfl

end Wire.Connection

end Greeter
