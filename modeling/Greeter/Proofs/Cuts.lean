import Greeter.Proofs.Pipelines
import Greeter.Proofs.SingleRequests
import Mathlib.Data.List.Forall2

/-! # Cutting the stream

Requests without bodies are sent one behind another, cut into pieces anywhere:
inside a method, between a carriage return and its line feed, or behind several
requests at once. Each is answered in the step that brings its last byte
(`arrivals`, `Wire.Connection.answers_pieces`), and with the answer that it gets
alone on a connection (`Request.Lasting.alone`).
-/

namespace Greeter

open Wire

/-- The requests that are whole within so many bytes of their stream. -/
def wholeWithin (count : Nat) : List Request → List Request
  | [] => []
  | request :: rest =>
    if request.text.length ≤ count then request :: wholeWithin (count - request.text.length) rest
    else []

/-- The requests whose last byte comes with each piece of their stream, behind so
many bytes that have come before. -/
def arrivals (requests : List Request) (count : Nat) : List Bytes → List (List Request)
  | [] => []
  | piece :: rest =>
    (wholeWithin (count + piece.length) requests).drop (wholeWithin count requests).length ::
      arrivals requests (count + piece.length) rest

namespace Request

theorem headText_ne_nil (request : Request) : request.headText ≠ [] := by
  obtain ⟨before, ends⟩ := request.headText_ends
  rw [ends]
  exact List.append_ne_nil_of_right_ne_nil before (List.cons_ne_nil _ _)

/-- A row of requests begins with no bytes at all. -/
theorem begins_nil (requests : List Request) : Begins requests [] := by
  cases requests with
  | nil => rfl
  | cons next others =>
      exact ⟨List.nil_prefix, List.length_pos_of_ne_nil next.headText_ne_nil⟩

end Request

open Request

/-- Nothing of a request that has begun is whole. -/
theorem wholeWithin_begins {requests : List Request} {start : Bytes}
    (begins : Begins requests start) : wholeWithin start.length requests = [] := by
  cases requests with
  | nil => rfl
  | cons next others =>
      have short : ¬ next.text.length ≤ start.length := by
        have shorter := begins.2
        rw [text, List.length_append]
        omega
      exact if_neg short

/-- Requests that are whole are whole before those behind them. -/
theorem wholeWithin_append (before later : List Request) (count : Nat) :
    wholeWithin ((texts before).length + count) (before ++ later) =
      before ++ wholeWithin count later := by
  induction before with
  | nil => rw [texts, List.flatMap_nil, List.length_nil, Nat.zero_add, List.nil_append,
      List.nil_append]
  | cons request rest ih =>
      have length : (texts (request :: rest)).length + count =
          request.text.length + ((texts rest).length + count) := by
        rw [texts, List.flatMap_cons, List.length_append, Nat.add_assoc]
        rfl
      rw [List.cons_append, wholeWithin, length, if_pos (Nat.le_add_right _ _),
        Nat.add_sub_cancel_left, ih, List.cons_append]

/-- The requests that are whole within the first bytes are the first of the row. -/
theorem wholeWithin_isPrefix (count : Nat) (requests : List Request) :
    wholeWithin count requests <+: requests := by
  induction requests generalizing count with
  | nil => exact List.prefix_refl _
  | cons request rest ih =>
      rw [wholeWithin]
      by_cases fits : request.text.length ≤ count
      · rw [if_pos fits, List.prefix_cons_inj]
        exact ih _
      · rw [if_neg fits]
        exact List.nil_prefix

/-- All requests are whole within a text that is as long as theirs. -/
theorem wholeWithin_eq_self {requests : List Request} {count : Nat}
    (long : (texts requests).length ≤ count) : wholeWithin count requests = requests := by
  have all := wholeWithin_append requests [] (count - (texts requests).length)
  rwa [List.append_nil, Nat.add_sub_cancel' long, wholeWithin, List.append_nil] at all

/-- What is whole stays whole when more bytes come. -/
theorem wholeWithin_grows (requests : List Request) (count more : Nat) :
    wholeWithin count requests <+: wholeWithin (count + more) requests := by
  induction requests generalizing count with
  | nil => exact List.prefix_refl _
  | cons request rest ih =>
      by_cases fits : request.text.length ≤ count
      · have fitsStill : request.text.length ≤ count + more := Nat.le_add_right_of_le fits
        rw [wholeWithin, wholeWithin, if_pos fits, if_pos fitsStill, Nat.sub_add_comm fits,
          List.prefix_cons_inj]
        exact ih (count - request.text.length)
      · rw [wholeWithin, if_neg fits]
        exact List.nil_prefix

/-- Every request that becomes whole arrives once. -/
theorem wholeWithin_append_arrivals (requests : List Request) (count : Nat)
    (pieces : List Bytes) :
    wholeWithin count requests ++ (arrivals requests count pieces).flatten =
      wholeWithin (count + pieces.flatten.length) requests := by
  induction pieces generalizing count with
  | nil => rw [arrivals, List.flatten_nil, List.append_nil, List.flatten_nil]; rfl
  | cons piece rest ih =>
      have grows := List.prefix_iff_eq_append.mp (wholeWithin_grows requests count piece.length)
      rw [arrivals, List.flatten_cons, ← List.append_assoc, grows, ih, List.flatten_cons,
        List.length_append, Nat.add_assoc]

/-- Requests that become whole with the pieces all arrive, in order. -/
theorem arrivals_flatten_of_le {requests : List Request} {pieces : List Bytes}
    (long : (texts requests).length ≤ pieces.flatten.length) :
    (arrivals requests 0 pieces).flatten = requests := by
  have all := wholeWithin_append_arrivals requests 0 pieces
  have noneYet : wholeWithin 0 requests = [] := wholeWithin_begins (begins_nil requests)
  rwa [noneYet, List.nil_append, Nat.zero_add, wholeWithin_eq_self long] at all

/-- All requests of a stream arrive, in order. -/
theorem arrivals_flatten {requests : List Request} {pieces : List Bytes}
    (cut : pieces.flatten = texts requests) : (arrivals requests 0 pieces).flatten = requests := by
  refine arrivals_flatten_of_le ?_
  rw [cut]

/-- Whether the connection stays open behind all requests that are whole within so
many bytes. -/
def opensBehind (requests : List Request) (count : Nat) : Bool :=
  (wholeWithin count requests).all stays

/-- How many bytes have come with each of the pieces and before it, behind so many
bytes that have come before all of them. -/
def totals (count : Nat) : List Bytes → List Nat
  | [] => []
  | piece :: rest => (count + piece.length) :: totals (count + piece.length) rest

/-- The answers to the pieces of a stream, behind so many bytes that have come before:
to each piece, an answer to the requests that arrive with it, up to the first behind
which the connection closes. -/
def answersTo (requests : List Request) (count : Nat) (pieces : List Bytes) : List Answer :=
  List.zipWith (fun row total => .toAll row (opensBehind requests total))
    (arrivals (upToClose requests) count pieces) (totals count pieces)

/-- The first piece is answered with the requests that became whole with it, and the other
pieces with what follows. -/
theorem answersTo_cons (requests : List Request) (count : Nat) (piece : Bytes)
    (pieces : List Bytes) :
    answersTo requests count (piece :: pieces) =
      .toAll ((wholeWithin (count + piece.length) (upToClose requests)).drop
          (wholeWithin count (upToClose requests)).length)
        (opensBehind requests (count + piece.length)) ::
        answersTo requests (count + piece.length) pieces := rfl

/-- Requests that keep the connection open leave the decision to those behind them. -/
theorem opensBehind_append {before : List Request} (stay : before.all stays = true)
    (later : List Request) (count : Nat) :
    opensBehind (before ++ later) ((texts before).length + count) = opensBehind later count := by
  rw [opensBehind, wholeWithin_append, List.all_append, stay, Bool.true_and, opensBehind]

/-- The connection is open until all of the first request that it does not outlast has
come in. -/
theorem opensBehind_eq (requests : List Request) (count : Nat) :
    opensBehind requests count =
      (requests.all stays || decide (count < (texts (upToClose requests)).length)) := by
  induction requests generalizing count with
  | nil => rfl
  | cons request rest ih =>
      rw [opensBehind, wholeWithin, upToClose, List.all_cons]
      by_cases stay : request.stays = true
      · have length : (texts (request :: upToClose rest)).length =
            request.text.length + (texts (upToClose rest)).length := by
          rw [texts, List.flatMap_cons, List.length_append]
          rfl
        rw [if_pos stay, stay, Bool.true_and, length]
        by_cases fits : request.text.length ≤ count
        · have behind := ih (count - request.text.length)
          rw [opensBehind] at behind
          rw [if_pos fits, List.all_cons, stay, Bool.true_and, behind]
          congr 2
          exact propext (by omega)
        · have early : count < request.text.length + (texts (upToClose rest)).length := by omega
          rw [if_neg fits, decide_eq_true early, Bool.or_true]
          rfl
      · have length : (texts [request]).length = request.text.length := by
          rw [texts, List.flatMap_singleton]
        rw [if_neg stay, Bool.eq_false_iff.mpr stay, Bool.false_and, Bool.false_or, length]
        by_cases fits : request.text.length ≤ count
        · rw [if_pos fits, List.all_cons, Bool.eq_false_iff.mpr stay, Bool.false_and,
            decide_eq_false (Nat.not_lt.mpr fits)]
        · rw [if_neg fits, decide_eq_true (Nat.lt_of_not_le fits)]
          rfl

/-- Requests behind which the connection stays open go before what the pieces are
answered with. -/
theorem answersTo_append {before : List Request} (stay : before.all stays = true)
    (later : List Request) (count : Nat) (pieces : List Bytes) :
    answersTo (before ++ later) ((texts before).length + count) pieces =
      answersTo later count pieces := by
  induction pieces generalizing count with
  | nil => rfl
  | cons piece rest ih =>
      rw [answersTo_cons, answersTo_cons, Nat.add_assoc, upToClose_append stay,
        wholeWithin_append, wholeWithin_append, List.length_append, List.drop_length_add_append,
        opensBehind_append stay, ih]

/-- Pieces that come to a connection that has closed behind one of the requests are
lost. -/
theorem answers_closed_pieces {requests : List Request} {count : Nat}
    (closes : requests.all stays = false)
    (late : (texts (upToClose requests)).length ≤ count) (pieces : List Bytes) :
    Connection.closed.answers (pieces.map .send) = answersTo requests count pieces := by
  induction pieces generalizing count with
  | nil => rfl
  | cons piece rest ih =>
      have lateStill : (texts (upToClose requests)).length ≤ count + piece.length :=
        Nat.le_add_right_of_le late
      have isOpen : opensBehind requests (count + piece.length) = false := by
        rw [opensBehind_eq, closes, Bool.false_or, decide_eq_false (Nat.not_lt.mpr lateStill)]
      rw [answersTo_cons, wholeWithin_eq_self late, wholeWithin_eq_self lateStill, isOpen,
        List.drop_length, ← ih lateStill]
      rfl

/-- **What a run of steps comes to**: the requests that arrive with each piece are
answered in its step, up to the first behind which the connection closes, as long as
the pieces go on with the requests that the connection waits for. -/
theorem Wire.Connection.answers_pieces {connection : Connection} {requests : List Request}
    {start : Bytes} {pieces : List Bytes} (formed : ∀ request ∈ requests, request.WellFormed)
    (bodyless : ∀ request ∈ requests, request.body = []) (waits : connection.Waits start)
    (begins : Begins requests start) (goesOn : start ++ pieces.flatten <+: texts requests) :
    connection.answers (pieces.map .send) = answersTo requests start.length pieces := by
  induction pieces generalizing connection requests start with
  | nil => rfl
  | cons piece rest ih =>
      rw [List.flatten_cons, ← List.append_assoc] at goesOn
      have starts : start ++ piece <+: texts requests := (List.prefix_append _ _).trans goesOn
      -- The piece brings the last bytes of the requests `now`, and `unread` of the next.
      obtain ⟨now, others, unread, rfl, same, begun, follows, sent⟩ :=
        connection.send_waits formed bodyless waits begins starts
      rw [List.forall_mem_append] at formed bodyless
      have count : start.length + piece.length = (texts now).length + unread.length := by
        rw [← List.length_append, same, List.length_append]
      have noneYet : wholeWithin start.length (upToClose (now ++ others)) = [] :=
        wholeWithin_begins begins.upToClose
      rw [List.map_cons, answers, act, sent, answersTo_cons, noneYet, List.length_nil,
        List.drop_zero, count, Answer.toAll]
      rw [Follows] at follows
      by_cases stay : now.all stays = true
      · rw [if_pos stay] at follows
        have goesOnStill : unread ++ rest.flatten <+: texts others := by
          rw [same, List.append_assoc, texts_append, List.prefix_append_right_inj] at goesOn
          exact goesOn
        have isOpen : opensBehind others unread.length = true := by
          rw [opensBehind, wholeWithin_begins begun, List.all_nil]
        rw [follows.isOpen, ih formed.2 bodyless.2 follows begun goesOnStill,
          upToClose_append stay, upToClose_eq_self stay, wholeWithin_append,
          wholeWithin_begins begun.upToClose, List.append_nil, opensBehind_append stay, isOpen,
          answersTo_append stay]
      · rw [if_neg stay] at follows
        have closes := Bool.eq_false_iff.mpr stay
        have allClose : (now ++ others).all stays = false := by
          rw [List.all_append, closes, Bool.false_and]
        have late : (texts (upToClose (now ++ others))).length ≤
            (texts now).length + unread.length := by
          rw [upToClose_append_of_closes closes]
          exact Nat.le_add_right_of_le (length_texts_upToClose_le now)
        rw [follows, answers_closed_pieces allClose late, wholeWithin_eq_self late,
          upToClose_append_of_closes closes, opensBehind_eq, allClose, Bool.false_or,
          upToClose_append_of_closes closes]
        rw [upToClose_append_of_closes closes] at late
        rw [decide_eq_false (Nat.not_lt.mpr late)]
        rfl

namespace Request

/-- A request that keeps its connection open is answered alone as it would be in a row. -/
theorem Lasting.alone {request : Request} (lasting : request.Lasting)
    (bodyless : request.body = []) (number : Nat) :
    Service.idle.run [⟨number, .send request.text⟩] = [.toAll [request] true] := by
  rw [lasting.toWellFormed.alone bodyless, lasting.noTunnel, lasting.persists]
  rfl

/-- Alone it is answered with its own greeting. -/
theorem Lasting.received_alone {request : Request} (lasting : request.Lasting)
    (bodyless : request.body = []) (number : Nat) (date : Bytes) :
    (Service.idle.run [⟨number, .send request.text⟩]).flatMap (·.received date) =
      request.greetingText date := by
  have serves := Answer.toAll_serves (List.forall_mem_singleton.mpr lasting) true
  rw [lasting.alone bodyless, List.flatMap_singleton, serves.received, List.flatMap_singleton]

/-- The pieces of a stream are answered on a connection of their own. -/
theorem run_stream {requests : List Request} {pieces : List Bytes}
    (formed : ∀ request ∈ requests, request.WellFormed)
    (bodyless : ∀ request ∈ requests, request.body = [])
    (cut : pieces.flatten = texts requests) (number : Nat) :
    Service.idle.run (pieces.map fun piece => ⟨number, .send piece⟩) =
      answersTo requests 0 pieces := by
  have single := Service.run_single .idle number (pieces.map .send)
  rw [List.map_map] at single
  have waits : Connection.fresh.Waits [] := ⟨rfl, List.nil_prefix, by decide⟩
  have starts : [] ++ pieces.flatten <+: texts requests :=
    ⟨[], by rw [List.append_nil, List.nil_append, cut]⟩
  exact single.trans (Connection.answers_pieces formed bodyless waits (begins_nil requests) starts)

/-- Where the connection outlasts every request, it is open behind every piece. -/
theorem answersTo_of_stays {requests : List Request} (stay : requests.all stays = true)
    (count : Nat) (pieces : List Bytes) :
    answersTo requests count pieces =
      (arrivals requests count pieces).map fun row => .toAll row true := by
  induction pieces generalizing count with
  | nil => rfl
  | cons piece rest ih =>
      rw [answersTo_cons, arrivals, List.map_cons, ih, upToClose_eq_self stay, opensBehind_eq,
        stay, Bool.true_or]

/-- Each request is answered in the step in which its last byte arrives. -/
theorem run_pieces {requests : List Request} {pieces : List Bytes}
    (lasting : ∀ request ∈ requests, request.Lasting)
    (bodyless : ∀ request ∈ requests, request.body = [])
    (cut : pieces.flatten = texts requests) (number : Nat) :
    Service.idle.run (pieces.map fun piece => ⟨number, .send piece⟩) =
      (arrivals requests 0 pieces).map fun row => .toAll row true := by
  have formed : ∀ request ∈ requests, request.WellFormed :=
    fun request member => (lasting request member).toWellFormed
  rw [run_stream formed bodyless cut, answersTo_of_stays (all_stays_of_lasting lasting)]

/-- **Cutting the stream does not change the service.** However the stream of some
requests is cut into pieces, each step serves the requests whose last byte it
brings. All together, each request gets what it gets alone on a connection, and
the connection stays open all the time. -/
theorem served_on_arrival {requests : List Request} {pieces : List Bytes}
    (lasting : ∀ request ∈ requests, request.Lasting)
    (bodyless : ∀ request ∈ requests, request.body = [])
    (cut : pieces.flatten = texts requests) (number : Nat) :
    let answers := Service.idle.run (pieces.map fun piece => ⟨number, .send piece⟩)
    List.Forall₂ Answer.Serves answers (arrivals requests 0 pieces) ∧
      (∀ answer ∈ answers, answer.isOpen = true) ∧
      ∀ date, answers.flatMap (·.received date) = requests.flatMap fun request =>
        (Service.idle.run [⟨number, .send request.text⟩]).flatMap (·.received date) := by
  intro answers
  have answered : answers = (arrivals requests 0 pieces).map fun row => .toAll row true :=
    run_pieces lasting bodyless cut number
  have all : (arrivals requests 0 pieces).flatten = requests := arrivals_flatten cut
  have serves : ∀ row ∈ arrivals requests 0 pieces, (Answer.toAll row true).Serves row := by
    intro row listed
    refine Answer.toAll_serves (fun request member => lasting request ?_) true
    exact all ▸ List.mem_flatten.mpr ⟨row, listed, member⟩
  refine ⟨?_, ?_, fun date => ?_⟩
  · rw [answered, List.forall₂_map_left_iff]
    exact List.forall₂_same.mpr serves
  · rw [answered]
    intro answer member
    obtain ⟨row, _, rfl⟩ := List.mem_map.mp member
    rfl
  · calc answers.flatMap (·.received date)
        = (arrivals requests 0 pieces).flatMap fun row => row.flatMap (·.greetingText date) := by
          rw [answered, List.flatMap_map]
          exact List.flatMap_congr fun row listed => (serves row listed).received date
      _ = requests.flatMap (·.greetingText date) := by
          rw [← List.flatMap_assoc, List.flatMap_id', all]
      _ = _ := (List.flatMap_congr fun request member =>
          (lasting request member).received_alone (bodyless request member) number date).symm

/-- Requests for a page and for its head, cut inside a method and inside the end of
a line: the last piece brings the last byte of both. -/
theorem served_on_arrival_head :
    let page := forRoot ⟨Bytes.ofText "GET", by decide, by decide⟩
    let head := forRoot ⟨Method.head, by decide, by decide⟩
    let pieces := [Bytes.ofText "GE", Bytes.ofText "T / HTTP/1.1\r\n\r",
      Bytes.ofText "\nHEAD / HTTP/1.1\r\n\r\n"]
    let answers := Service.idle.run (pieces.map fun piece => ⟨5, .send piece⟩)
    (∀ request ∈ [page, head], request.Lasting) ∧ pieces.flatten = texts [page, head] ∧
      List.Forall₂ Answer.Serves answers [[], [], [page, head]] ∧
      ∀ answer ∈ answers, answer.isOpen = true := by
  intro page head pieces answers
  have lasting : ∀ request ∈ [page, head], request.Lasting := by
    rw [List.forall_mem_cons, List.forall_mem_singleton]
    exact ⟨forRoot_lasting (by decide) (by decide), forRoot_lasting (by decide) (by decide)⟩
  have bodyless : ∀ request ∈ [page, head], request.body = [] := by decide
  have cut : pieces.flatten = texts [page, head] := by decide
  have arrived : arrivals [page, head] 0 pieces = [[], [], [page, head]] := by decide
  obtain ⟨serves, isOpen, -⟩ := served_on_arrival lasting bodyless cut 5
  rw [arrived] at serves
  exact ⟨lasting, cut, serves, isOpen⟩

end Request

end Greeter
