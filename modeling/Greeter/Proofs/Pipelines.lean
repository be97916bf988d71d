import Greeter.Proofs.Conversation
import Greeter.Proofs.FirstBytes

/-! # Requests one behind another

A client may send requests without waiting for answers. A buffer that holds some of
them comes to one exchange each, in order, up to the first behind which the
connection closes (`Request.upToClose`, `Request.served_texts`). A buffer that is
cut inside the head of a request comes to the requests before it, and its last bytes
wait (`Request.exists_cut`, `Request.Begins.served`). On a connection that waits,
the step that brings the rest of a request comes to that request, however the bytes
were cut before (`Wire.Connection.send_waits`).
-/

namespace Greeter.Request

open Wire

/-- A request of version 1.1 behind which the connection stays open. -/
structure Lasting (request : Request) : Prop extends request.WellFormed where
  http11 : request.version = .http11
  noConnection : request.Lacks "connection"
  noTunnel : request.method.isConnect = false

/-- Requests as a client writes them one behind another. -/
def texts (requests : List Request) : Bytes := requests.flatMap text

/-- Less than the head of the first of the requests, and nothing where there is
none. -/
def Begins (requests : List Request) (start : Bytes) : Prop :=
  match requests with
  | [] => start = []
  | next :: _ => start <+: next.headText ∧ start.length < next.headText.length

theorem headText_starts_texts (first : Request) (others : List Request) (rest : Bytes) :
    first.headText <+: texts (first :: others) ++ rest := by
  rw [texts, List.flatMap_cons, text, List.append_assoc, List.append_assoc]
  exact List.prefix_append _ _

theorem texts_append (first second : List Request) :
    texts (first ++ second) = texts first ++ texts second := List.flatMap_append

theorem Lasting.persists {request : Request} (lasting : request.Lasting) :
    request.persists = true := by
  rw [persists_of_lacks lasting.noConnection, lasting.http11]
  rfl

/-- A request for the root that has a short method and asks for no tunnel is lasting. -/
theorem forRoot_lasting {method : Method} (short : method.token.length ≤ 1000)
    (noTunnel : method.isConnect = false) : (forRoot method).Lasting where
  toWellFormed := forRoot_wellFormed short
  http11 := rfl
  noConnection := lacks_of_noHeaders rfl _
  noTunnel := noTunnel

/-- Whether the connection stays open behind the request. -/
def stays (request : Request) : Bool := !request.method.isConnect && request.persists

/-- The requests that are served: all up to the first behind which the connection
closes. -/
def upToClose : List Request → List Request
  | [] => []
  | request :: rest => if request.stays then request :: upToClose rest else [request]

theorem Lasting.stays {request : Request} (lasting : request.Lasting) : request.stays = true := by
  rw [Request.stays, lasting.noTunnel, lasting.persists]
  rfl

/-- Behind requests that the connection outlasts, the serving goes on. -/
theorem upToClose_append {before : List Request} (stay : before.all stays = true)
    (later : List Request) : upToClose (before ++ later) = before ++ upToClose later := by
  induction before with
  | nil => rfl
  | cons request rest ih =>
      rw [List.all_cons, Bool.and_eq_true] at stay
      rw [List.cons_append, upToClose, if_pos stay.1, ih stay.2, List.cons_append]

/-- Behind a request that closes the connection, nothing is served. -/
theorem upToClose_append_of_closes {before : List Request} (closes : before.all stays = false)
    (later : List Request) : upToClose (before ++ later) = upToClose before := by
  induction before with
  | nil => cases closes
  | cons request rest ih =>
      rw [List.cons_append, upToClose, upToClose]
      by_cases stay : request.stays = true
      · rw [List.all_cons, stay, Bool.true_and] at closes
        rw [if_pos stay, if_pos stay, ih closes]
      · rw [if_neg stay, if_neg stay]

theorem upToClose_eq_self {requests : List Request} (stay : requests.all stays = true) :
    upToClose requests = requests := by
  have whole := upToClose_append stay []
  rwa [List.append_nil, upToClose, List.append_nil] at whole

/-- All requests are served, or all up to one behind which the connection closes. -/
theorem upToClose_cases (requests : List Request) :
    requests.all stays = true ∨ ∃ before last later, requests = before ++ last :: later ∧
      before.all stays = true ∧ last.stays = false ∧ upToClose requests = before ++ [last] := by
  induction requests with
  | nil => exact .inl rfl
  | cons request rest ih =>
      rw [upToClose, List.all_cons]
      cases stay : request.stays with
      | false => exact .inr ⟨[], request, rest, rfl, rfl, stay, rfl⟩
      | true =>
          rcases ih with all | ⟨before, last, later, rfl, allBefore, closes, found⟩
          · exact .inl (by rw [all, Bool.true_and])
          · refine .inr ⟨request :: before, last, later, rfl, ?_, closes, ?_⟩
            · rw [List.all_cons, stay, allBefore, Bool.true_and]
            · rw [if_pos rfl, found, List.cons_append]

/-- The requests that are served are the first ones. -/
theorem upToClose_isPrefix (requests : List Request) : upToClose requests <+: requests := by
  rcases upToClose_cases requests with stay | ⟨before, last, later, listed, -, -, found⟩
  · exact ⟨[], by rw [List.append_nil, upToClose_eq_self stay]⟩
  · rw [found, listed]
    exact ⟨later, List.append_assoc before [last] later⟩

/-- The connection stays open behind all served requests but the last. -/
theorem all_stays_of_earlier (requests : List Request) :
    (requests.take ((upToClose requests).length - 1)).all stays = true := by
  rcases upToClose_cases requests with stay | ⟨before, last, later, listed, stay, -, found⟩
  · rw [List.all_eq_true] at stay ⊢
    exact fun request member => stay request (List.mem_of_mem_take member)
  · rw [found, List.length_append, List.length_singleton, Nat.add_sub_cancel, listed,
      List.take_left, stay]

/-- The requests that are served are no longer than all together. -/
theorem length_texts_upToClose_le (requests : List Request) :
    (texts (upToClose requests)).length ≤ (texts requests).length := by
  obtain ⟨later, whole⟩ := upToClose_isPrefix requests
  have length := congrArg (fun all => (texts all).length) whole
  simp only [texts_append, List.length_append] at length
  exact Nat.le.intro length

/-- A well-formed request at the start of a buffer is answered, and what stands
behind its text is served as a buffer of its own if the connection stays open. -/
theorem WellFormed.served_text {request : Request} (formed : request.WellFormed) (rest : Bytes) :
    Served.ofBytes (request.text ++ rest) =
      if request.stays then
        ⟨request.exchange :: (Served.ofBytes rest).exchanges, (Served.ofBytes rest).ending⟩
      else ⟨[request.exchange], .closed⟩ := by
  have whole : ¬ (request.body ++ rest).length < request.body.length := by
    rw [List.length_append]
    omega
  rw [text, List.append_assoc, formed.served, stays]
  cases tunnel : request.method.isConnect with
  | true => rfl
  | false =>
      cases persists : request.persists with
      | true =>
          simp only [whole, Bool.not_true, Bool.or_self, decide_false, Bool.false_eq_true,
            ↓reduceIte, Bool.not_false, Bool.and_self, List.drop_left]
      | false => rfl

/-- **Requests one behind another** come to one exchange each, up to the first
behind which the connection closes. If it stays open behind all of them, the rest is
served as a buffer of its own. -/
theorem served_texts {requests : List Request}
    (formed : ∀ request ∈ requests, request.WellFormed) (rest : Bytes) :
    Served.ofBytes (texts requests ++ rest) =
      if requests.all stays then
        ⟨requests.map exchange ++ (Served.ofBytes rest).exchanges, (Served.ofBytes rest).ending⟩
      else ⟨(upToClose requests).map exchange, .closed⟩ := by
  induction requests with
  | nil => rfl
  | cons request requests ih =>
      have behind := ih fun other member => formed other (List.mem_cons_of_mem request member)
      rw [texts, List.flatMap_cons, List.append_assoc,
        (formed request List.mem_cons_self).served_text, upToClose, List.all_cons]
      rw [texts] at behind
      by_cases stay : request.stays = true
      · rw [if_pos stay, behind, if_pos stay, stay, Bool.true_and]
        by_cases all : requests.all stays = true
        · rw [if_pos all, if_pos all]
          rfl
        · rw [if_neg all, if_neg all]
          rfl
      · rw [if_neg stay, if_neg stay, Bool.eq_false_iff.mpr stay, Bool.false_and,
          if_neg Bool.false_ne_true]
        rfl

theorem all_stays_of_lasting {requests : List Request}
    (lasting : ∀ request ∈ requests, request.Lasting) : requests.all stays = true := by
  rw [List.all_eq_true]
  exact fun request member => (lasting request member).stays

/-- Behind requests that the connection outlasts, the rest is served as a buffer of
its own. -/
theorem served_texts_of_lasting {requests : List Request}
    (lasting : ∀ request ∈ requests, request.Lasting) (rest : Bytes) :
    Served.ofBytes (texts requests ++ rest) =
      ⟨requests.map exchange ++ (Served.ofBytes rest).exchanges, (Served.ofBytes rest).ending⟩ := by
  rw [served_texts fun request member => (lasting request member).toWellFormed,
    if_pos (all_stays_of_lasting lasting)]

/-- The start of a head is neither judged nor too long to wait for. -/
theorem Begins.waits {requests : List Request} {start : Bytes}
    (formed : ∀ request ∈ requests, request.WellFormed) (begins : Begins requests start) :
    Head.read start = .incomplete ∧ start.length < Ending.maxHead := by
  cases requests with
  | nil =>
      rw [show start = [] from begins]
      exact ⟨rfl, by decide⟩
  | cons next others =>
      have limits := (formed next (by simp)).limits.head
      exact ⟨(formed next (by simp)).read_start begins.1 begins.2,
        Nat.lt_of_lt_of_le begins.2 limits⟩

/-- What begins the requests begins those that are served, since the first one always is. -/
theorem Begins.upToClose {requests : List Request} {start : Bytes}
    (begins : Begins requests start) : Begins (upToClose requests) start := by
  cases requests with
  | nil => exact begins
  | cons next others =>
      rw [Request.upToClose]
      split
      · exact begins
      · exact begins

/-- Where a head has only begun, nothing is served and its start is kept. -/
theorem Begins.served {requests : List Request} {start : Bytes}
    (formed : ∀ request ∈ requests, request.WellFormed) (begins : Begins requests start) :
    Served.ofBytes start = ⟨[], .waiting start⟩ := by
  obtain ⟨incomplete, short⟩ := begins.waits formed
  exact Served.ofBytes_of_waits incomplete short

/-- A start of a row of requests ends inside the head of one of them, if no body
reaches beyond it. -/
theorem exists_cut {requests : List Request} {stream : Bytes}
    (inHeads : ∀ request ∈ requests,
      request.body = [] ∨ stream.length < request.headText.length)
    (starts : stream <+: texts requests) :
    ∃ before later start, requests = before ++ later ∧ stream = texts before ++ start ∧
      Begins later start := by
  induction requests generalizing stream with
  | nil =>
      refine ⟨[], [], [], rfl, ?_, rfl⟩
      exact List.prefix_nil.mp starts
  | cons request requests ih =>
      rw [texts, List.flatMap_cons] at starts
      by_cases whole : request.text.length ≤ stream.length
      · obtain ⟨rest, rfl⟩ :=
          List.prefix_of_prefix_length_le (List.prefix_append _ _) starts whole
        rw [List.prefix_append_right_inj] at starts
        have inHeadsRest : ∀ other ∈ requests,
            other.body = [] ∨ rest.length < other.headText.length := by
          intro other member
          refine (inHeads other (by simp [member])).imp id fun short => ?_
          rw [List.length_append] at short
          omega
        obtain ⟨before, later, start, split, same, begins⟩ := ih inHeadsRest starts
        refine ⟨request :: before, later, start, by rw [split]; rfl, ?_, begins⟩
        rw [same, texts, texts, List.flatMap_cons, List.append_assoc]
      · refine ⟨[], request :: requests, stream, rfl, rfl, ?_⟩
        have short : stream.length < request.headText.length := by
          rcases inHeads request (by simp) with empty | short
          · rw [text, empty, List.append_nil] at whole
            exact Nat.lt_of_not_le whole
          · exact short
        refine ⟨List.prefix_of_prefix_length_le starts ?_ (Nat.le_of_lt short), short⟩
        rw [text, List.append_assoc]
        exact List.prefix_append _ _

/-- A row of requests that is cut inside a head comes to the requests before the
head, and what has come in of it waits if the connection stays open. -/
theorem served_cut {before later : List Request} {start : Bytes}
    (formed : ∀ request ∈ before ++ later, request.WellFormed) (begins : Begins later start) :
    Served.ofBytes (texts before ++ start) =
      ⟨(upToClose before).map exchange,
        if before.all stays then .waiting start else .closed⟩ := by
  rw [List.forall_mem_append] at formed
  rw [served_texts formed.1, begins.served formed.2]
  by_cases stay : before.all stays = true
  · rw [if_pos stay, if_pos stay, upToClose_eq_self stay, List.append_nil]
  · rw [if_neg stay, if_neg stay]

/-- A start of a row of requests has a whole head at its start, or none at all. -/
theorem seen_of_prefix {requests : List Request} {stream : Bytes}
    (formed : ∀ request ∈ requests, request.WellFormed) (starts : stream <+: texts requests) :
    Head.read stream = .incomplete ∨
      ∃ request : Request, request.Readable ∧ request.headText <+: stream := by
  cases requests with
  | nil =>
      rw [List.prefix_nil.mp starts]
      exact .inl rfl
  | cons first others =>
      have firstFormed := formed first (by simp)
      have head := headText_starts_texts first others []
      rw [List.append_nil] at head
      by_cases short : stream.length < first.headText.length
      · have begins := List.prefix_of_prefix_length_le starts head (Nat.le_of_lt short)
        exact .inl (firstFormed.read_start begins short)
      · have asks := List.prefix_of_prefix_length_le head starts (Nat.le_of_not_lt short)
        exact .inr ⟨first, firstFormed.toReadable, asks⟩

end Greeter.Request

namespace Greeter.Wire

open Request

/-- A row of requests may be read in two goes, if no body reaches beyond the
first. -/
theorem Served.receive_take {requests : List Request} {stream : Bytes} {count : Nat}
    (formed : ∀ request ∈ requests, request.WellFormed)
    (inHeads : ∀ request ∈ requests, request.body = [] ∨ count < request.headText.length)
    (starts : stream <+: texts requests) :
    (ofBytes (stream.take count)).receive (stream.drop count) = ofBytes stream := by
  have inHeadsTaken : ∀ request ∈ requests,
      request.body = [] ∨ (stream.take count).length < request.headText.length := by
    intro request member
    refine (inHeads request member).imp id fun short => ?_
    rw [List.length_take]
    omega
  obtain ⟨before, later, start, rfl, taken, begins⟩ :=
    exists_cut inHeadsTaken ((List.take_prefix count stream).trans starts)
  have served := served_cut formed begins
  rw [List.forall_mem_append] at formed
  by_cases stay : before.all stays = true
  · have behind : start ++ stream.drop count <+: texts later := by
      rw [← List.take_append_drop count stream, taken, List.append_assoc, texts_append,
        List.prefix_append_right_inj] at starts
      exact starts
    have seen := seen_of_prefix formed.2 behind
    rw [if_pos stay, ← taken] at served
    rw [receive_eq_ofBytes (by rw [served]) seen, List.take_append_drop]
  · -- The connection has closed behind one of the requests: the rest is lost either way.
    have whole : ofBytes stream = ⟨(upToClose before).map exchange, .closed⟩ := by
      rw [← List.take_append_drop count stream, taken, List.append_assoc, served_texts formed.1,
        if_neg stay]
    rw [if_neg stay, ← taken] at served
    rw [receive, served, whole]

namespace Connection

/-- The connection is open, and the given bytes wait on it. -/
def Waits (connection : Connection) (unread : Bytes) : Prop :=
  match connection with
  | sniffing seen => seen = unread ∧ seen <+: preface ∧ seen.length < preface.length
  | reading waiting => waiting = unread
  | closed => False

/-- Bytes that may become the greeting of HTTP/2 hold no request. -/
theorem eq_nil_of_greets {requests : List Request} {rest : Bytes}
    (formed : ∀ request ∈ requests, request.WellFormed)
    (greets : texts requests ++ rest <+: preface) : requests = [] := by
  cases requests with
  | nil => rfl
  | cons first others =>
      have asks := headText_starts_texts first others rest
      exact absurd greets
        (not_prefix_preface_of_headText (formed first (by simp)).toReadable asks)

/-- A connection that waits for a head is open. -/
theorem Waits.isOpen {connection : Connection} {unread : Bytes}
    (waits : connection.Waits unread) : connection.isOpen = true := by
  cases connection with
  | sniffing seen => rfl
  | reading waiting => rfl
  | closed => exact waits.elim

/-- The bytes that wait on a connection behind some requests: those that have come in
of the next one, unless the connection has closed. -/
def Follows (connection : Connection) (before : List Request) (unread : Bytes) : Prop :=
  if before.all stays then connection.Waits unread else connection = closed

/-- What has been judged is served, and leaves the connection waiting or closed. -/
theorem settle_follows {before : List Request} {unread : Bytes} {served : Served}
    (same : served = ⟨(upToClose before).map exchange,
      if before.all stays then .waiting unread else .closed⟩) :
    (settle served).1.Follows before unread ∧
      (settle served).2 = ⟨(upToClose before).map exchange, none⟩ := by
  subst same
  rw [Follows]
  by_cases stay : before.all stays = true
  · rw [if_pos stay, if_pos stay]
    exact ⟨rfl, rfl⟩
  · rw [if_neg stay, if_neg stay]
    exact ⟨rfl, rfl⟩

/-- **A step comes to the requests that it completes.** On a connection on which
a start of some requests waits, the bytes that go on with them come to the
requests whose last byte they bring. If the connection stays open behind all of
these, what has come in of the next one waits; if not, it closes behind the first
request that it does not outlast. -/
theorem send_waits {connection : Connection} {requests : List Request} {start piece : Bytes}
    (formed : ∀ request ∈ requests, request.WellFormed)
    (bodyless : ∀ request ∈ requests, request.body = [])
    (waits : connection.Waits start) (begins : Begins requests start)
    (starts : start ++ piece <+: texts requests) :
    ∃ before later unread, requests = before ++ later ∧
      start ++ piece = texts before ++ unread ∧ Begins later unread ∧
      (connection.send piece).1.Follows before unread ∧
      (connection.send piece).2 = ⟨(upToClose before).map exchange, none⟩ := by
  have inHeads (stream : Bytes) : ∀ request ∈ requests,
      request.body = [] ∨ stream.length < request.headText.length :=
    fun request member => .inl (bodyless request member)
  have seen := seen_of_prefix formed starts
  obtain ⟨before, later, unread, rfl, same, begun⟩ := exists_cut (inHeads _) starts
  have served := served_cut formed begun
  rw [← same] at served
  cases connection with
  | closed => exact waits.elim
  | reading waiting =>
      obtain rfl : waiting = start := waits
      refine ⟨before, later, unread, rfl, same, begun, ?_⟩
      rw [send, Served.ofRead_eq_ofBytes (begins.waits formed).1 seen]
      exact settle_follows served
  | sniffing sniffed =>
      obtain ⟨rfl, -, short⟩ := waits
      have notPreface := not_preface_of_seen seen
      by_cases greets : sniffed ++ piece <+: preface
      · -- No head is whole yet, so all that has come in goes on waiting.
        obtain rfl : before = [] := eq_nil_of_greets
          (fun request member => formed request (List.mem_append_left later member))
          (same ▸ greets)
        obtain rfl : sniffed ++ piece = unread := same
        have shortStill := length_lt_of_greets notPreface greets
        refine ⟨[], later, sniffed ++ piece, rfl, rfl, begun, ?_⟩
        rw [send_greets (Nat.le_of_lt short) notPreface greets]
        exact ⟨⟨rfl, greets, shortStill⟩, rfl⟩
      · refine ⟨before, later, unread, rfl, same, begun, ?_⟩
        rw [send_judged (Nat.le_of_lt short) notPreface greets,
          Served.receive_take formed (fun request member => .inl (bodyless request member)) starts]
        exact settle_follows served

end Connection

end Greeter.Wire

namespace Greeter

open Wire Request

/-- The response to a request. -/
def Request.response (request : Request) (date : Bytes) : Bytes :=
  request.exchange.greeting.text date

/-- The response to a request behind which the connection stays open. -/
def Request.greetingText (request : Request) (date : Bytes) : Bytes :=
  Greeting.text ⟨.http11, true, !request.method.isHead⟩ date

/-- A request of version 1.1 behind which the connection stays open is told neither
that it stays nor that it closes. -/
theorem Request.response_eq_greetingText {request : Request} (http11 : request.version = .http11)
    (persists : request.persists = true) (date : Bytes) :
    request.response date = request.greetingText date := by
  rw [response, Exchange.greeting, exchange, offWire, persists, http11, greetingText]

/-- The client receives one response for each of the requests, and the log says that
each was answered, in their order. -/
structure Answer.Serves (answer : Answer) (requests : List Request) : Prop where
  received : ∀ date, answer.received date = requests.flatMap (·.greetingText date)
  log : answer.log .default = requests.flatMap logLines

/-- The answer to a step in which each of the requests is accepted. -/
def Answer.toAll (requests : List Request) (isOpen : Bool) : Answer :=
  ⟨⟨requests.map exchange, none⟩, isOpen⟩

/-- The client receives the responses to the accepted requests, one behind another. -/
theorem Answer.toAll_received {row : List Request}
    (noTunnel : ∀ request ∈ row, request.method.isConnect = false) (isOpen : Bool)
    (date : Bytes) : (toAll row isOpen).received date = row.flatMap (·.response date) := by
  have accepted : ∀ request ∈ (toAll row isOpen).requests, request.method.isConnect = false := by
    intro request member
    obtain ⟨_, listed, rfl⟩ := List.mem_map.mp member
    obtain ⟨sent, among, rfl⟩ := List.mem_map.mp listed
    exact noTunnel sent among
  rw [received_eq, greetings_eq accepted, toAll, refusals, Option.toList_none, List.flatMap_nil,
    List.append_nil, List.map_map, List.flatMap_map]
  rfl

theorem Answer.toAll_log (row : List Request) (isOpen : Bool) :
    (toAll row isOpen).log .default = row.flatMap logLines := by
  rw [log_eq, requests, Transmission.requests, toAll, List.map_map, List.flatMap_map]
  rfl

/-- Requests of version 1.1 that keep the connection open get the same greeting. -/
theorem Answer.toAll_serves_of_persists {row : List Request}
    (noTunnel : ∀ request ∈ row, request.method.isConnect = false)
    (plain : ∀ request ∈ row, request.version = .http11 ∧ request.persists = true)
    (isOpen : Bool) : (toAll row isOpen).Serves row where
  received date := by
    rw [toAll_received noTunnel]
    exact List.flatMap_congr fun request member =>
      response_eq_greetingText (plain request member).1 (plain request member).2 date
  log := toAll_log row isOpen

/-- Lasting requests get the same greeting. -/
theorem Answer.toAll_serves {row : List Request}
    (lasting : ∀ request ∈ row, request.Lasting) (isOpen : Bool) : (toAll row isOpen).Serves row :=
  toAll_serves_of_persists (fun request member => (lasting request member).noTunnel)
    (fun request member => ⟨(lasting request member).http11, (lasting request member).persists⟩)
    isOpen

end Greeter
