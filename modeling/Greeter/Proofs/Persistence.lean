import Greeter.Proofs.Cuts
import Greeter.Proofs.Limits

/-! # Announced persistence

A response announces whether the connection stays open behind it, by its version and
its header lines (`Bytes.Announces`). The server decides that when it reads the head
of a request. What it announces is what it decided (`Request.announces_response_iff`),
and what it does: all requests up to the first whose response announces no more are
answered, however the stream is cut, and nothing behind them is
(`Request.kept_as_announced`).
-/

namespace Greeter

open Wire

namespace Bytes

/-- The lines of the head of a response, each with its carriage return. -/
def headLines (response : Bytes) : List Bytes :=
  (response.splitOn lf).takeWhile (· ≠ [cr])

/-- The response announces that the connection stays open: in version 1.1 unless it
says that it closes, and in version 1.0 if it says that it is kept. -/
def Announces (response : Bytes) : Prop :=
  ofText "HTTP/1.1 " <+: response ∧ ofText "connection: close\r" ∉ headLines response ∨
    ofText "HTTP/1.0 " <+: response ∧ ofText "connection: keep-alive\r" ∈ headLines response

/-- The first line ends at the first line feed, and the head goes on behind it. -/
theorem headLines_append_cons {line : Bytes} (whole : lf ∉ line) (text : line ≠ [cr])
    (rest : Bytes) : headLines (line ++ lf :: rest) = line :: headLines rest := by
  rw [headLines, List.splitOn_append_cons_self_of_not_mem whole,
    List.takeWhile_cons_of_pos (by simpa using text), headLines]

theorem headLines_end (rest : Bytes) : headLines (cr :: lf :: rest) = [] := by
  have first := List.splitOn_append_cons_self_of_not_mem (by decide : lf ∉ [cr]) rest
  rw [List.singleton_append] at first
  rw [headLines, first, List.takeWhile_cons_of_neg (by decide)]

end Bytes

namespace Wire.Greeting

/-- What a greeting says about the connection, as lines. -/
def persistenceLines (version : Version) (keepAlive : Bool) : List Bytes :=
  match version, keepAlive with
  | .http10, true => [Bytes.ofText "connection: keep-alive\r"]
  | .http10, false => []
  | _, true => []
  | _, false => [Bytes.ofText "connection: close\r"]

/-- Behind the lines about the connection the head goes on. -/
theorem headLines_persistence (version : Version) (keepAlive : Bool) (rest : Bytes) :
    Bytes.headLines (Reply.persistence version keepAlive ++ rest) =
      persistenceLines version keepAlive ++ Bytes.headLines rest := by
  have keep : Reply.line (Bytes.ofText "connection") (Bytes.ofText "keep-alive") =
      Bytes.ofText "connection: keep-alive\r" ++ [Bytes.lf] := by decide
  have close : Reply.line (Bytes.ofText "connection") (Bytes.ofText "close") =
      Bytes.ofText "connection: close\r" ++ [Bytes.lf] := by decide
  have keepLine := Bytes.headLines_append_cons
    (by decide : Bytes.lf ∉ Bytes.ofText "connection: keep-alive\r") (by decide) rest
  have closeLine := Bytes.headLines_append_cons
    (by decide : Bytes.lf ∉ Bytes.ofText "connection: close\r") (by decide) rest
  cases version <;> cases keepAlive <;>
    simp only [Reply.persistence, persistenceLines, keep, close, List.append_assoc,
      List.singleton_append, List.nil_append, keepLine, closeLine]

/-- The lines of a greeting: the status, the two headers of the body, what is said about the
connection, and the date. -/
theorem headLines_text (greeting : Greeting) {date : Bytes} (plain : Bytes.lf ∉ date) :
    Bytes.headLines (greeting.text date) =
      [Bytes.ofText greeting.version.text ++ Bytes.ofText " 200 OK\r",
        Bytes.ofText "content-type: text/plain; charset=utf-8\r",
        Bytes.ofText "content-length: 13\r"] ++
      persistenceLines greeting.version greeting.keepAlive ++
      [Bytes.ofText "date: " ++ date ++ [Bytes.cr]] := by
  have lines : greeting.text date =
      (Bytes.ofText greeting.version.text ++ Bytes.ofText " 200 OK\r") ++ Bytes.lf ::
        (Bytes.ofText "content-type: text/plain; charset=utf-8\r" ++ Bytes.lf ::
          (Bytes.ofText "content-length: 13\r" ++ Bytes.lf ::
            (Reply.persistence greeting.version greeting.keepAlive ++
              ((Bytes.ofText "date: " ++ date ++ [Bytes.cr]) ++ Bytes.lf ::
                (Bytes.cr :: Bytes.lf ::
                  if greeting.withBody then Bytes.ofText "Hello, RS144!" else []))))) := by
    have fixed : Bytes.ofText
        " 200 OK\r\ncontent-type: text/plain; charset=utf-8\r\ncontent-length: 13\r\n" =
        Bytes.ofText " 200 OK\r" ++ Bytes.lf ::
          (Bytes.ofText "content-type: text/plain; charset=utf-8\r" ++ Bytes.lf ::
            (Bytes.ofText "content-length: 13\r" ++ [Bytes.lf])) := by decide
    have ending : Bytes.ofText "\r\n\r\n" = [Bytes.cr, Bytes.lf, Bytes.cr, Bytes.lf] := by decide
    rw [text, fixed, ending]
    simp only [List.append_assoc, List.cons_append, List.nil_append]
  have status : Bytes.lf ∉ Bytes.ofText greeting.version.text ++ Bytes.ofText " 200 OK\r" ∧
      Bytes.ofText greeting.version.text ++ Bytes.ofText " 200 OK\r" ≠ [Bytes.cr] := by
    cases greeting.version <;> decide
  have dateLine : Bytes.lf ∉ Bytes.ofText "date: " ++ date ++ [Bytes.cr] := by
    rw [List.mem_append, List.mem_append]
    rintro ((name | value) | ending)
    · exact absurd name (by decide)
    · exact plain value
    · exact absurd ending (by decide)
  have dated : Bytes.ofText "date: " ++ date ++ [Bytes.cr] ≠ [Bytes.cr] := by
    intro same
    exact absurd (List.cons.inj same).1 (by decide)
  rw [lines, Bytes.headLines_append_cons status.1 status.2,
    Bytes.headLines_append_cons (by decide) (by decide),
    Bytes.headLines_append_cons (by decide) (by decide), headLines_persistence,
    Bytes.headLines_append_cons dateLine dated, Bytes.headLines_end]
  rfl

/-- A greeting starts with its version. -/
theorem version_text (greeting : Greeting) (date : Bytes) :
    Bytes.ofText greeting.version.text ++ [Bytes.space] <+: greeting.text date := by
  rw [text]
  simp only [List.append_assoc]
  exact (List.prefix_append_right_inj _).mpr (List.prefix_append [Bytes.space] _)

/-- A greeting starts with no version but its own. -/
theorem version_text_iff (greeting : Greeting) (version : Version) (date : Bytes) :
    Bytes.ofText version.text ++ [Bytes.space] <+: greeting.text date ↔
      greeting.version = version := by
  have starts := greeting.version_text date
  constructor
  · intro other
    have same : Bytes.ofText version.text ++ [Bytes.space] =
        Bytes.ofText greeting.version.text ++ [Bytes.space] := by
      apply List.IsPrefix.eq_of_length
      · refine List.prefix_of_prefix_length_le other starts ?_
        cases version <;> cases greeting.version <;> decide
      · cases version <;> cases greeting.version <;> decide
    revert same
    cases version <;> cases greeting.version <;> decide
  · rintro rfl
    exact starts

/-- All that a greeting says about the connection is in lines of its own. -/
theorem mem_headLines_text_iff (greeting : Greeting) {date : Bytes} (plain : Bytes.lf ∉ date)
    {line : Bytes} (starts : Bytes.ofText "connection: " <+: line) :
    line ∈ Bytes.headLines (greeting.text date) ↔
      line ∈ persistenceLines greeting.version greeting.keepAlive := by
  -- No other line of the head starts with the name of that header.
  have differs (other : Bytes) (unlike : ¬ Bytes.ofText "connection: " <+: other) :
      line ≠ other := by
    rintro rfl
    exact unlike starts
  have status := differs (Bytes.ofText greeting.version.text ++ Bytes.ofText " 200 OK\r")
    (by cases greeting.version <;> decide)
  have type := differs (Bytes.ofText "content-type: text/plain; charset=utf-8\r") (by decide)
  have length := differs (Bytes.ofText "content-length: 13\r") (by decide)
  have dated := differs (Bytes.ofText "date: " ++ date ++ [Bytes.cr]) <| by
    rw [List.append_assoc]
    intro same
    rcases List.prefix_or_prefix_of_prefix same (List.prefix_append (Bytes.ofText "date: ") _)
      with longer | longer
    · exact absurd longer (by decide)
    · exact absurd longer (by decide)
  simp only [headLines_text greeting plain, List.mem_append, List.mem_cons, List.not_mem_nil,
    status, type, length, dated, or_false, false_or]

/-- A greeting announces that the connection stays open if that was decided. -/
theorem announces_text_iff (greeting : Greeting)
    (spoken : greeting.version = .http10 ∨ greeting.version = .http11) {date : Bytes}
    (plain : Bytes.lf ∉ date) :
    (greeting.text date).Announces ↔ greeting.keepAlive = true := by
  have http11 : Bytes.ofText "HTTP/1.1 " <+: greeting.text date ↔ greeting.version = .http11 :=
    greeting.version_text_iff .http11 date
  have http10 : Bytes.ofText "HTTP/1.0 " <+: greeting.text date ↔ greeting.version = .http10 :=
    greeting.version_text_iff .http10 date
  rw [Bytes.Announces, http11, http10, mem_headLines_text_iff greeting plain (by decide),
    mem_headLines_text_iff greeting plain (by decide)]
  rcases spoken with version | version <;> rw [version] <;>
    cases greeting.keepAlive <;> decide

end Wire.Greeting

/-- The answer to a step in which the client receives one response for each of the
requests, and the log says that each was answered, in their order. -/
structure Answer.Responds (answer : Answer) (requests : List Request) : Prop where
  received : ∀ date, answer.received date = requests.flatMap (·.response date)
  log : answer.log .default = requests.flatMap Request.logLines

/-- A row of accepted requests gets one response for each, if none asks for a tunnel. -/
theorem Answer.toAll_responds {row : List Request}
    (noTunnel : ∀ request ∈ row, request.method.isConnect = false) (isOpen : Bool) :
    (toAll row isOpen).Responds row where
  received := toAll_received noTunnel isOpen
  log := toAll_log row isOpen

namespace Request

theorem version_response (request : Request) (date : Bytes) :
    Bytes.ofText request.version.text ++ [Bytes.space] <+: request.response date :=
  request.exchange.greeting.version_text date

/-- Whatever the date is, the response says that the connection stays open. -/
def AnnouncesOpen (request : Request) : Prop :=
  ∀ date, Bytes.lf ∉ date → (request.response date).Announces

/-- Whatever the date is, the response says that the connection is closed. -/
def AnnouncesClose (request : Request) : Prop :=
  ∀ date, Bytes.lf ∉ date → ¬ (request.response date).Announces

/-- **What a response announces is what was decided** about the connection. -/
theorem announces_response_iff {request : Request}
    (spoken : request.version = .http10 ∨ request.version = .http11) {date : Bytes}
    (plain : Bytes.lf ∉ date) : (request.response date).Announces ↔ request.persists = true :=
  request.exchange.greeting.announces_text_iff spoken plain

/-- If the connection stays open behind a request, the response says so. -/
theorem announcesOpen_of_stays {request : Request} (formed : request.WellFormed)
    (stay : request.stays = true) : request.AnnouncesOpen := by
  intro date plain
  rw [stays, Bool.and_eq_true] at stay
  exact (announces_response_iff formed.version plain).mpr stay.2

/-- If the connection closes behind a request, the response says so. -/
theorem announcesClose_of_closes {request : Request} (formed : request.WellFormed)
    (noTunnel : request.method.isConnect = false) (closes : request.stays = false) :
    request.AnnouncesClose := by
  intro date plain announces
  rw [stays, noTunnel, (announces_response_iff formed.version plain).mp announces] at closes
  cases closes

/-- Step by step, the requests that are served get their responses as their last bytes arrive. -/
theorem answersTo_responds {requests : List Request}
    (noTunnel : ∀ request ∈ requests, request.method.isConnect = false) (count : Nat)
    (pieces : List Bytes) : List.Forall₂ Answer.Responds (answersTo requests count pieces)
      (arrivals (upToClose requests) count pieces) := by
  induction pieces generalizing count with
  | nil => exact .nil
  | cons piece rest ih =>
      refine .cons (Answer.toAll_responds (fun request member => noTunnel request ?_) _) (ih _)
      exact (upToClose_isPrefix requests).subset
        ((wholeWithin_isPrefix _ _).subset (List.mem_of_mem_drop member))

/-- Whether the connection is open behind a step depends on how many bytes have arrived by then. -/
theorem answersTo_map_isOpen (requests : List Request) (count : Nat) (pieces : List Bytes) :
    (answersTo requests count pieces).map (·.isOpen) =
      (totals count pieces).map (opensBehind requests) := by
  induction pieces generalizing count with
  | nil => rfl
  | cons piece rest ih =>
      rw [answersTo_cons, List.map_cons, ih]
      rfl

/-- So many requests of a stream are served, as the responses to them announce. Each is
answered in the step that brings its last byte, in its version, and all but the last
response announce that the connection stays open. If the last one does as well, no
request is left and the connection is open. Otherwise it is closed from the step on
that brings the last byte of the last request. -/
structure KeptAsAnnounced (requests : List Request) (pieces : List Bytes)
    (answers : List Answer) (count : Nat) : Prop where
  atMost : count ≤ requests.length
  responds : List.Forall₂ Answer.Responds answers (arrivals (requests.take count) 0 pieces)
  arrive : (arrivals (requests.take count) 0 pieces).flatten = requests.take count
  versions : ∀ request ∈ requests.take count, ∀ date,
    Bytes.ofText request.version.text ++ [Bytes.space] <+: request.response date
  earlier : ∀ request ∈ requests.take (count - 1), request.AnnouncesOpen
  ending :
    (count = requests.length ∧ (∀ request ∈ requests, request.AnnouncesOpen) ∧
      ∀ answer ∈ answers, answer.isOpen = true) ∨
    (∃ last, (requests.take count).getLast? = some last ∧ last.AnnouncesClose) ∧
      answers.map (·.isOpen) = (totals 0 pieces).map fun total =>
        decide (total < (texts (requests.take count)).length)

/-- **The connection is kept as the responses announce**, however the stream is cut. It stays
open behind each response that says so, and the first one that says otherwise is the last. -/
theorem kept_as_announced {requests : List Request} {pieces : List Bytes}
    (formed : ∀ request ∈ requests, request.WellFormed)
    (bodyless : ∀ request ∈ requests, request.body = [])
    (noTunnel : ∀ request ∈ requests, request.method.isConnect = false)
    (cut : pieces.flatten = texts requests) (number : Nat) :
    ∃ count, KeptAsAnnounced requests pieces
      (Service.idle.run (pieces.map fun piece => ⟨number, .send piece⟩)) count := by
  -- Those that are served are the first ones; how many is what has to be found.
  have served := List.prefix_iff_eq_take.mp (upToClose_isPrefix requests)
  have long : (texts (upToClose requests)).length ≤ pieces.flatten.length := by
    rw [cut]
    exact length_texts_upToClose_le requests
  rw [run_stream formed bodyless cut]
  refine ⟨(upToClose requests).length, (upToClose_isPrefix requests).length_le, ?_, ?_,
    fun request _ => request.version_response, ?_, ?_⟩
  · rw [← served]
    exact answersTo_responds noTunnel 0 pieces
  · rw [← served]
    exact arrivals_flatten_of_le long
  · intro request member
    have stay := List.all_eq_true.mp (all_stays_of_earlier requests) request member
    exact announcesOpen_of_stays (formed request (List.mem_of_mem_take member)) stay
  · rcases upToClose_cases requests with stay | ⟨before, last, later, listed, -, closes, found⟩
    · refine .inl ⟨?_, fun request member => ?_, ?_⟩
      · rw [upToClose_eq_self stay]
      · exact announcesOpen_of_stays (formed request member)
          (List.all_eq_true.mp stay request member)
      · rw [answersTo_of_stays stay]
        exact List.forall_mem_map.mpr fun _ _ => rfl
    · have member : last ∈ requests := by simp [listed]
      have closesAll : requests.all stays = false := by
        rw [listed, List.all_append, List.all_cons, closes, Bool.false_and, Bool.and_false]
      refine .inr ⟨⟨last, ?_, ?_⟩, ?_⟩
      · rw [← served, found, List.getLast?_concat]
      · exact announcesClose_of_closes (formed last member) (noTunnel last member) closes
      · rw [answersTo_map_isOpen, ← served]
        refine List.map_congr_left fun total _ => ?_
        rw [opensBehind_eq, closesAll, Bool.false_or]

/-- A header about the connection. -/
def aboutConnection (value : Bytes) (valid : value.all ByteClass.fieldText.has = true) :
    Header := ⟨Bytes.ofText "Connection", value, by decide, by decide, valid⟩

/-- A request of version 1.0 that asks for the connection to be kept. -/
def keptOpen : Request where
  method := ⟨Bytes.ofText "OPTIONS", by decide, by decide⟩
  uri := .origin [Uri.slash] none
  version := .http10
  headers := [aboutConnection (Bytes.ofText "Keep-Alive") (by decide)]
  body := []

/-- A request of version 1.1 that asks for the connection to be kept and to be
closed. -/
def closing : Request where
  method := ⟨Bytes.ofText "OPTIONS", by decide, by decide⟩
  uri := .origin [Uri.slash] none
  version := .http11
  headers := [aboutConnection (Bytes.ofText "keep-alive") (by decide),
    aboutConnection (Bytes.ofText "x, Close") (by decide)]
  body := []

theorem keptOpen_wellFormed : keptOpen.WellFormed where
  target := rfl
  version := .inl rfl
  headers := by decide
  sized := by
    refine ⟨?_, .inl ⟨?_, rfl⟩⟩ <;> rw [Lacks, keptOpen, List.forall_mem_singleton] <;> decide
  limits := .of_short (by decide) rfl

theorem closing_wellFormed : closing.WellFormed where
  target := rfl
  version := .inr rfl
  headers := by decide
  sized := by
    refine ⟨?_, .inl ⟨?_, rfl⟩⟩ <;>
      rw [Lacks, closing, List.forall_mem_cons, List.forall_mem_singleton] <;> decide
  limits := .of_short (by decide) rfl

/-- A stream of both versions, cut inside a header and inside the end of a line. -/
theorem kept_as_announced_mixed :
    let page := forRoot ⟨Bytes.ofText "GET", by decide, by decide⟩
    let requests := [keptOpen, page, closing, page]
    let pieces := [Bytes.ofText "OPTIONS / HTTP/1.0\r\nConnection: Keep-Al",
      Bytes.ofText
        "ive\r\n\r\nGET / HTTP/1.1\r\n\r\nOPTIONS / HTTP/1.1\r\nConnection: keep-alive\r\n",
      Bytes.ofText "Connection: x, Close\r\n\r", Bytes.ofText "\nGET / HTTP/1.1\r\n\r\n"]
    (∀ request ∈ requests, request.WellFormed) ∧ (∀ request ∈ requests, request.body = []) ∧
      (∀ request ∈ requests, request.method.isConnect = false) ∧
      pieces.flatten = texts requests ∧
      ∃ count, KeptAsAnnounced requests pieces
        (Service.idle.run (pieces.map fun piece => ⟨7, .send piece⟩)) count := by
  intro page requests pieces
  have formed : ∀ request ∈ requests, request.WellFormed := by
    have plain : page.WellFormed := forRoot_wellFormed (by decide)
    rw [List.forall_mem_cons, List.forall_mem_cons, List.forall_mem_cons,
      List.forall_mem_singleton]
    exact ⟨keptOpen_wellFormed, plain, closing_wellFormed, plain⟩
  have bodyless : ∀ request ∈ requests, request.body = [] := by decide
  have noTunnel : ∀ request ∈ requests, request.method.isConnect = false := by decide
  have cut : pieces.flatten = texts requests := by decide +kernel
  exact ⟨formed, bodyless, noTunnel, cut, kept_as_announced formed bodyless noTunnel cut 7⟩

/-- A request with more headers than are allowed. -/
def manyConnections : Request where
  method := ⟨Bytes.ofText "OPTIONS", by decide, by decide⟩
  uri := .origin [Uri.slash] none
  version := .http11
  headers := List.replicate (Head.maxFields + 1)
    (aboutConnection (Bytes.ofText "keep-alive") (by decide))
  body := []

/-- A request that has too many headers is refused, so that no number of requests is
served as announced. -/
theorem manyConnections_refused :
    manyConnections.uri.isPlain = true ∧ manyConnections.version = .http11 ∧
      manyConnections.method.isConnect = false ∧ manyConnections.body = [] ∧
      (∀ name ∈ ["content-length", "transfer-encoding", "expect", "upgrade"],
        manyConnections.Lacks name) ∧
      ∀ count, ¬ KeptAsAnnounced [manyConnections] [texts [manyConnections]]
        (Service.idle.run [⟨0, .send (texts [manyConnections])⟩]) count := by
  have many : Head.maxFields < manyConnections.headers.length := by
    rw [manyConnections, List.length_replicate]
    exact Nat.lt_succ_self _
  have asks : manyConnections.headText <+: texts [manyConnections] := by
    rw [texts, List.flatMap_singleton]
    exact List.prefix_append _ _
  have sent := send_of_many_headers rfl (.inr rfl) many asks
  refine ⟨rfl, rfl, rfl, rfl, ?_, ?_⟩
  · intro name listed header member
    obtain ⟨-, rfl⟩ := List.mem_replicate.mp member
    revert name
    decide
  · rw [Service.run_send, sent]
    intro count kept
    obtain ⟨row, rows, responds, none, listed⟩ := List.forall₂_cons_left_iff.mp kept.responds
    have log := responds.log
    rw [Answer.log_eq] at log
    have empty : row = [] := by
      cases row with
      | nil => rfl
      | cons request rest => cases log
    have arrive := kept.arrive
    rw [listed, List.forall₂_nil_left_iff.mp none, empty] at arrive
    rcases kept.ending with ⟨-, -, isOpen⟩ | ⟨⟨last, found, -⟩, -⟩
    · cases isOpen _ (List.mem_singleton_self _)
    · rw [← arrive] at found
      cases found

end Request

end Greeter
