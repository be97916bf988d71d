import Greeter.Proofs.Conversation
import Greeter.Proofs.FirstBytes

/-! # A request alone on a connection

A well-formed request that is all that is sent on a connection comes to one
exchange (`Request.WellFormed.alone`). The router gets the same request if it is
given the parts without a wire between them
(`Request.WellFormed.toRequest_parts`), so what is sent back and logged is what
the router says about it, unless a tunnel is asked for: the log calls that
answered, but nothing is sent back.
-/

namespace Greeter

open Wire

namespace Request

variable {request : Request}

/-- The parts from which the router can be given the request directly. -/
def parts (request : Request) : RequestParts where
  method := request.method.token
  uri := request.uri.render
  version := request.version
  headers := request.headers.map fun header => (header.name, header.value)
  body := request.body

/-- The headers of a request are read from its parts, if their names are not too long. -/
theorem readHeaders_parts
    (short : ∀ header ∈ request.headers, header.name.length ≤ Header.maxNameLength) :
    request.parts.readHeaders = .ok request.headers := by
  rw [RequestParts.readHeaders, parts]
  dsimp only
  generalize request.headers = headers at short
  induction headers with
  | nil => rfl
  | cons header headers ih =>
      have first : (Header.ofBytes header.name header.value).mapError RequestError.ofHeader =
          .ok header := by
        rw [Header.ofBytes_self (short header (by simp))]
        rfl
      have others := ih fun other member => short other (by simp [member])
      rw [List.map_cons, List.mapM_cons]
      dsimp only at others ⊢
      rw [first, ok_bind, others, ok_bind]
      rfl

/-- The router is given a well-formed request as it is. -/
theorem WellFormed.toRequest_parts (formed : request.WellFormed) :
    request.parts.toRequest = .ok request := by
  have method : request.parts.readMethod = .ok request.method := by
    rw [RequestParts.readMethod, parts, Method.ofBytes?_token]
  have uri : request.parts.readUri = .ok request.uri := by
    rw [RequestParts.readUri, parts, Uri.ofBytes_render formed.target formed.limits.target]
    rfl
  rw [RequestParts.toRequest, method, ok_bind, uri, ok_bind,
    readHeaders_parts formed.limits.names, ok_bind]
  rfl

/-- The head of a request that is all that has come in is served as a whole, even
if its first bytes are read before the others. -/
theorem Readable.receive_take (readable : request.Readable) {count : Nat}
    (few : count < Ending.maxHead) :
    (Served.ofBytes (request.headText.take count)).receive (request.headText.drop count) =
      Served.ofBytes request.headText := by
  by_cases short : count < request.headText.length
  · exact Served.receive_take_of_headText readable (List.prefix_refl _) short few
  · rw [List.take_of_length_le (Nat.le_of_not_lt short),
      List.drop_of_length_le (Nat.le_of_not_lt short), Served.receive_nil]

/-- A head that is all that is sent on a connection is served as a whole. -/
theorem Readable.send_headText (readable : request.Readable) :
    Connection.fresh.send request.headText =
      Connection.settle (Served.ofBytes request.headText) := by
  rw [Connection.send_fresh readable (List.prefix_refl _), readable.receive_take (by decide)]

/-- **A request alone on a connection** comes to one exchange, whatever it asks
for. -/
theorem WellFormed.alone (formed : request.WellFormed) (bodyless : request.body = [])
    (number : Nat) :
    Service.idle.run [⟨number, .send request.text⟩] =
      [⟨⟨[request.exchange], none⟩, !request.method.isConnect && request.persists⟩] := by
  have stream : request.text = request.headText := by rw [text, bodyless, List.append_nil]
  have served := formed.served []
  rw [List.append_nil, bodyless] at served
  rw [Service.run_send, stream, formed.send_headText, served]
  cases request.method.isConnect with
  | true => rfl
  | false =>
      cases request.persists with
      | true =>
          rw [List.drop_nil, Served.ofBytes_nil]
          rfl
      | false => rfl

/-- The client receives the response that the router has for the request, and nothing if the
request asks for a tunnel. -/
theorem received_exchange (request : Request) (isOpen : Bool) (date : Bytes) :
    (⟨⟨[request.exchange], none⟩, isOpen⟩ : Answer).received date =
      if request.method.isConnect then []
      else Reply.render date (.answer request.version request.persists (!request.method.isHead)
        (Router.respond request)) := by
  have reply : request.exchange.reply? = if request.method.isConnect then none
      else some (.answer request.version request.persists (!request.method.isHead)
        (Router.respond request)) := rfl
  rw [Answer.received, Transmission.render, Transmission.replies, Option.toList_none,
    List.map_nil, List.append_nil]
  cases tunnel : request.method.isConnect with
  | true =>
      rw [tunnel, if_pos rfl] at reply
      rw [List.filterMap_cons_none reply]
      rfl
  | false =>
      rw [tunnel, if_neg Bool.false_ne_true] at reply
      rw [List.filterMap_cons_some reply, List.filterMap_nil, List.flatMap_singleton]
      rfl

end Request

/-- A response is never empty. -/
theorem Wire.Reply.render_respond_ne_nil (date : Bytes) (version : Version)
    (keepAlive withBody : Bool) (request : Request) :
    render date (.answer version keepAlive withBody (Router.respond request)) ≠ [] := by
  rw [Router.respond_eq, render_answer, Greeting.text]
  intro empty
  simp only [List.append_eq_nil_iff] at empty
  exact absurd empty.1.1.1.1.1.2 (by decide)

/-- What the client receives is a response with status 200, without its body if
only the head was asked for, and nothing else. -/
def Answer.Greets (answer : Answer) (request : Request) (response : Response) : Prop :=
  response.status = 200 ∧ ∀ date, answer.received date = Reply.render date
    (.answer request.version (request.version != .http10) (!request.method.isHead) response)

/-- **A request is greeted as the router greets it**, if and only if it does not
ask for a tunnel. The log says the same of both. -/
theorem Request.WellFormed.greeted_iff {request : Request} (formed : request.WellFormed)
    (bodyless : request.body = []) (noConnection : request.Lacks "connection") (number : Nat) :
    ∃ routed answer, request.parts.toRequest = .ok routed ∧
      Service.idle.run [⟨number, .send request.text⟩] = [answer] ∧
      (∀ filter : Log.Filter, answer.log filter = filter.lines? (Router.events routed)) ∧
      (answer.Greets request (Router.respond routed) ↔ request.method.isConnect = false) ∧
      (request.method.isConnect = true →
        answer.isOpen = false ∧ ∀ date, answer.received date = []) := by
  have received := received_exchange request (!request.method.isConnect && request.persists)
  refine ⟨request, _, formed.toRequest_parts, formed.alone bodyless number, fun _ => rfl, ?_, ?_⟩
  · constructor
    · intro greets
      cases tunnel : request.method.isConnect with
      | false => rfl
      | true =>
          have same := greets.2 []
          rw [received, tunnel, if_pos rfl] at same
          exact absurd same.symm (Reply.render_respond_ne_nil _ _ _ _ _)
    · intro noTunnel
      refine ⟨by rw [Router.respond_eq]; rfl, fun date => ?_⟩
      rw [received, noTunnel, if_neg Bool.false_ne_true, persists_of_lacks noConnection]
  · intro tunnel
    refine ⟨by rw [tunnel]; rfl, fun date => ?_⟩
    rw [received, if_pos tunnel]

/-- A request for the head of a page, by a client of version 1.0. -/
def Request.headOfPage : Request where
  method := ⟨Method.head, by decide, by decide⟩
  uri := .origin (Bytes.ofText "/a") (some (Bytes.ofText "b=%20"))
  version := .http10
  headers := [⟨Bytes.ofText "Host", Bytes.ofText "c", by decide, by decide, by decide⟩]
  body := []

/-- The head of a page is greeted. -/
theorem Request.headOfPage_greeted :
    headOfPage.WellFormed ∧ headOfPage.body = [] ∧ headOfPage.Lacks "connection" ∧
      ∃ routed answer, headOfPage.parts.toRequest = .ok routed ∧
        Service.idle.run [⟨7, .send headOfPage.text⟩] = [answer] ∧
        (∀ filter : Log.Filter, answer.log filter = filter.lines? (Router.events routed)) ∧
        answer.Greets headOfPage (Router.respond routed) := by
  have lacks (name : String)
      (other : Bytes.sameLetters (Bytes.ofText "Host") (Bytes.ofText name) = false) :
      headOfPage.Lacks name := by
    rw [Lacks, headOfPage, List.forall_mem_singleton]
    exact other
  have formed : headOfPage.WellFormed := {
    target := by decide
    version := .inl rfl
    sized := ⟨lacks _ (by decide), .inl ⟨lacks _ (by decide), rfl⟩⟩
    headers := by decide
    limits := .of_short (by decide) rfl }
  have noConnection := lacks "connection" (by decide)
  obtain ⟨routed, answer, direct, run, log, greeted, _⟩ :=
    formed.greeted_iff rfl noConnection 7
  exact ⟨formed, rfl, noConnection, routed, answer, direct, run, log, greeted.mpr (by decide)⟩

/-- A request for a tunnel. -/
def Request.tunnel : Request := forRoot ⟨Method.connect, by decide, by decide⟩

/-- The log calls a request for a tunnel answered with status 200. Its client
receives nothing. -/
theorem Request.tunnel_unanswered :
    tunnel.WellFormed ∧ tunnel.text = Bytes.ofText "CONNECT / HTTP/1.1\r\n\r\n" ∧
      ∃ answer, Service.idle.run [⟨0, .send tunnel.text⟩] = [answer] ∧
        answer.log .default = [⟨.started (.ofRequest tunnel), true⟩,
          ⟨.finished (.ofRequest tunnel) 200, true⟩] ∧
        (∀ date, answer.received date = []) ∧
        ¬ answer.Greets tunnel (Router.respond tunnel) := by
  have formed : tunnel.WellFormed := forRoot_wellFormed (by decide)
  have nothing (isOpen : Bool) (date : Bytes) :
      (⟨⟨[tunnel.exchange], none⟩, isOpen⟩ : Answer).received date = [] := by
    rw [received_exchange, if_pos (by decide)]
  refine ⟨formed, by decide, _, formed.alone rfl 0, ?_, nothing _, fun greets => ?_⟩
  · rw [Answer.log_eq]
    rfl
  · have same := greets.2 []
    rw [nothing] at same
    exact absurd same.symm (Reply.render_respond_ne_nil _ _ _ _ _)

end Greeter
