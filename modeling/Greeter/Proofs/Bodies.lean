import Greeter.Proofs.Pipelines
import Greeter.Proofs.SingleRequests

/-! # Bodies that nobody reads

The handler never reads a body. Whatever the body of a request spells, exactly as
many bytes of it are skipped as its head gives, and the next request is looked for
behind them (`Wire.Connection.send_texts`). If some of the body is not there when
its request is answered, the connection closes, so that bytes of a body are never
taken for a request (`Wire.Connection.send_texts_cut`).
-/

namespace Greeter

open Wire

namespace Request

variable {request : Request}

/-- A head that gives the length of a body is longer than the greeting of HTTP/2. -/
theorem WellFormed.long_or_bodyless (formed : request.WellFormed) :
    request.body = [] ∨ preface.length < request.headText.length := by
  rcases formed.sized.length with ⟨-, empty⟩ | ⟨header, once, -⟩
  · exact .inl empty
  · right
    have listed : header ∈ request.headers.filter (·.isNamed (Bytes.ofText "content-length")) := by
      rw [once]
      exact List.mem_singleton_self header
    obtain ⟨member, named⟩ := List.mem_filter.mp listed
    have name : header.name.length = 14 := length_of_isNamed named
    have long := length_headText_of_header member
    have greeting : preface.length = 24 := by decide
    omega

end Request

namespace Wire.Connection

open Request

/-- What is sent first on a connection is served as a whole, if the heads of the
requests in it are not cut by the first read. -/
theorem send_first {first : Request} {others : List Request} {stream : Bytes}
    (formed : ∀ request ∈ first :: others, request.WellFormed)
    (starts : stream <+: texts (first :: others)) (asks : first.headText <+: stream) :
    fresh.send stream = settle (Served.ofBytes stream) := by
  have inHeads : ∀ request ∈ first :: others,
      request.body = [] ∨ preface.length < request.headText.length :=
    fun request member => (formed request member).long_or_bodyless
  rw [send_fresh (formed first List.mem_cons_self).toReadable asks,
    Served.receive_take formed inHeads starts]

/-- All of the requests are accepted if all of their bodies are there. -/
theorem send_texts {requests : List Request}
    (lasting : ∀ request ∈ requests, request.Lasting) :
    ∃ next, next.isOpen = true ∧
      fresh.send (texts requests) = (next, ⟨requests.map exchange, none⟩) := by
  cases requests with
  | nil => exact ⟨fresh, rfl, rfl⟩
  | cons first others =>
      have formed : ∀ request ∈ first :: others, request.WellFormed :=
        fun request member => (lasting request member).toWellFormed
      have asks := headText_starts_texts first others []
      have served := served_texts_of_lasting lasting []
      rw [List.append_nil] at asks
      rw [List.append_nil, Served.ofBytes_nil, List.append_nil] at served
      refine ⟨reading [], rfl, ?_⟩
      rw [send_first formed (List.prefix_refl _) asks, served]
      rfl

/-- All of the requests are accepted if some of the last body is missing, and the
connection closes. -/
theorem send_texts_cut {earlier : List Request} {last : Request} {count : Nat}
    (lasting : ∀ request ∈ earlier ++ [last], request.Lasting) (cut : count < last.body.length) :
    fresh.send (texts earlier ++ (last.headText ++ last.body.take count)) =
      (closed, ⟨(earlier ++ [last]).map exchange, none⟩) := by
  have formed : ∀ request ∈ earlier ++ [last], request.WellFormed :=
    fun request member => (lasting request member).toWellFormed
  have lastFormed : last.WellFormed := formed last (by simp)
  have short : (last.body.take count).length < last.body.length := by
    rw [List.length_take]
    omega
  have ended : Served.ofBytes (last.headText ++ last.body.take count) =
      ⟨[last.exchange], .closed⟩ := by
    rw [lastFormed.served, if_pos (by rw [decide_eq_true short, Bool.or_true])]
  have earlierLasting : ∀ request ∈ earlier, request.Lasting :=
    fun request member => lasting request (by simp [member])
  have served := served_texts_of_lasting earlierLasting (last.headText ++ last.body.take count)
  rw [ended] at served
  have starts : texts earlier ++ (last.headText ++ last.body.take count) <+:
      texts (earlier ++ [last]) := by
    rw [texts_append, List.prefix_append_right_inj, texts, List.flatMap_singleton, text,
      List.prefix_append_right_inj]
    exact List.take_prefix count last.body
  have sent : fresh.send (texts earlier ++ (last.headText ++ last.body.take count)) =
      settle (Served.ofBytes (texts earlier ++ (last.headText ++ last.body.take count))) := by
    cases earlier with
    | nil => exact send_first formed starts (List.prefix_append _ _)
    | cons first others => exact send_first formed starts (headText_starts_texts first others _)
  rw [sent, served, List.map_append, List.map_singleton]
  rfl

end Wire.Connection

namespace Request

/-- **Bodies are never taken for requests.** Whatever their bodies spell, requests
that are sent at once are answered one by one, and the connection stays open. If
some of the last body is missing, all of them are answered still, and the
connection closes: whatever is sent then, nothing more is answered or logged. -/
theorem bodies_unread {requests : List Request}
    (lasting : ∀ request ∈ requests, request.Lasting) (number : Nat) :
    (∃ answer, Service.idle.run [⟨number, .send (texts requests)⟩] = [answer] ∧
      answer.Serves requests ∧ answer.isOpen = true) ∧
    ∀ earlier last count later, requests = earlier ++ [last] → count < last.body.length →
      ∃ answer others, Service.idle.answersOn number
          (⟨number, .send (texts earlier ++ (last.headText ++ last.body.take count))⟩ :: later) =
            answer :: others ∧
        answer.Serves requests ∧ answer.isOpen = false ∧
        ∀ other ∈ others, (∀ date, other.received date = []) ∧ other.log .default = [] ∧
          other.isOpen = false := by
  constructor
  · obtain ⟨next, isOpen, sent⟩ := Connection.send_texts lasting
    refine ⟨.toAll requests true, ?_, Answer.toAll_serves lasting true, rfl⟩
    rw [Service.run_send, sent, isOpen]
    rfl
  · rintro earlier last count later rfl cut
    have sent := Connection.send_texts_cut lasting cut
    refine ⟨.toAll (earlier ++ [last]) false, (actionsOn number later).map fun _ => .silent, ?_,
      Answer.toAll_serves lasting false, rfl, ?_⟩
    · rw [Service.answersOn_eq, actionsOn, List.filter_cons_of_pos (by simp), List.map_cons,
        Connection.answers, Connection.act]
      have idle : Service.idle.connection number = .fresh := rfl
      rw [idle, sent, Connection.answers_closed]
      rfl
    · intro other member
      obtain ⟨_, _, rfl⟩ := List.mem_map.mp member
      exact ⟨fun _ => rfl, rfl, rfl⟩

/-- A request whose body spells another one. -/
def withRequestInside : Request where
  method := ⟨Bytes.ofText "POST", by decide, by decide⟩
  uri := .origin [Uri.slash] none
  version := .http11
  headers :=
    [⟨Bytes.ofText "Content-Length", Bytes.ofText "018", by decide, by decide, by decide⟩]
  body := Bytes.ofText "GET / HTTP/1.1\r\n\r\n"

/-- A zero in front does not change a length. -/
theorem writesDecimal_018 : Bytes.WritesDecimal (Bytes.trim (Bytes.ofText "018")) 18 := by
  have trimmed : Bytes.trim (Bytes.ofText "018") = [0x30, 0x31, 0x38] := by decide
  rw [trimmed]
  refine ⟨List.cons_ne_nil _ _, ?_, rfl⟩
  rw [List.forall_mem_cons, List.forall_mem_cons, List.forall_mem_singleton]
  decide

/-- A body that looks like a request makes its own request no worse. -/
theorem withRequestInside_lasting : withRequestInside.Lasting where
  target := by decide
  version := .inr rfl
  headers := by decide
  sized := {
    noCoding := by
      rw [Lacks, withRequestInside, List.forall_mem_singleton]
      decide
    length := .inr ⟨_, rfl, writesDecimal_018⟩ }
  limits := ⟨by decide, by decide, by decide, by decide⟩
  http11 := rfl
  noConnection := by
    rw [Lacks, withRequestInside, List.forall_mem_singleton]
    decide
  noTunnel := by decide

/-- The request inside a body is not answered, be the body there as a whole, or in
part and followed by the rest. -/
theorem bodies_unread_inside :
    let page := forRoot ⟨Bytes.ofText "GET", by decide, by decide⟩
    (∀ request ∈ [page, withRequestInside], request.Lasting) ∧
      (∃ answer, Service.idle.run [⟨1, .send (texts [page, withRequestInside])⟩] = [answer] ∧
        answer.Serves [page, withRequestInside] ∧ answer.isOpen = true) ∧
      ∃ answer others, Service.idle.answersOn 1
          [⟨1, .send (texts [page] ++
              (withRequestInside.headText ++ withRequestInside.body.take 4))⟩,
            ⟨1, .send withRequestInside.body⟩] = answer :: others ∧
        answer.Serves [page, withRequestInside] ∧ answer.isOpen = false ∧
        ∀ other ∈ others, (∀ date, other.received date = []) ∧ other.log .default = [] ∧
          other.isOpen = false := by
  intro page
  have lasting : ∀ request ∈ [page, withRequestInside], request.Lasting := by
    rw [List.forall_mem_cons, List.forall_mem_singleton]
    exact ⟨forRoot_lasting (by decide) (by decide), withRequestInside_lasting⟩
  obtain ⟨whole, cut⟩ := bodies_unread lasting 1
  exact ⟨lasting, whole, cut [page] withRequestInside 4 _ rfl (by decide)⟩

/-- A target that is too long is refused, whatever else the request says. -/
theorem Readable.send_of_long_target {request : Request} (readable : request.Readable)
    (long : Head.maxTarget < request.uri.render.length)
    (fits : request.headText.length ≤ Ending.maxHead) :
    Connection.fresh.send request.headText = (.closed, ⟨[], some .uriTooLong⟩) := by
  have found := readable.read []
  have denied : request.head.accept = .error .uriTooLong := by
    rw [Head.accept]
    exact if_pos long
  rw [List.append_nil] at found
  rw [readable.send_headText, Served.ofBytes_of_error found fits denied]
  rfl

/-- A request for a target that is too long. -/
def longTarget : Request where
  method := ⟨Bytes.ofText "GET", by decide, by decide⟩
  uri := .origin (Uri.slash :: .replicate Head.maxTarget 0x61) none
  version := .http11
  headers := []
  body := []

/-- A request that is too large is refused and not logged, although its body ends
where its head says. -/
theorem longTarget_refused :
    longTarget.Readable ∧ longTarget.Sized ∧ longTarget.version = .http11 ∧
      longTarget.Lacks "connection" ∧ longTarget.method.isConnect = false ∧
      ∃ answer, Service.idle.run [⟨0, .send (texts [longTarget])⟩] = [answer] ∧
        answer.isOpen = false ∧ ¬ answer.Serves [longTarget] := by
  have letters :
      (List.replicate Head.maxTarget (0x61 : UInt8)).all ByteClass.pathText.has = true := by
    rw [List.all_replicate, if_neg (by decide)]
    decide
  have readable : longTarget.Readable := {
    target := by
      rw [longTarget, Uri.isPlain, List.all_cons, letters]
      rfl
    version := .inr rfl
    headers := by decide }
  have size : longTarget.uri.render.length = Head.maxTarget + 1 := by
    rw [longTarget, Uri.render, Uri.renderQuery, List.append_nil, List.length_cons,
      List.length_replicate]
  have sent : Service.idle.run [⟨0, .send (texts [longTarget])⟩] =
      [⟨⟨[], some .uriTooLong⟩, false⟩] := by
    have stream : texts [longTarget] = longTarget.headText := by
      rw [texts, List.flatMap_singleton, text, longTarget, List.append_nil]
    have fits : longTarget.headText.length ≤ Ending.maxHead := by
      rw [headText]
      simp only [List.length_append, size]
      decide
    rw [Service.run_send, stream, readable.send_of_long_target (by rw [size]; decide) fits]
    rfl
  have lacks := lacks_of_noHeaders (rfl : longTarget.headers = [])
  have sized : longTarget.Sized := ⟨lacks _, .inl ⟨lacks _, rfl⟩⟩
  refine ⟨readable, sized, rfl, lacks _, by decide, _, sent, rfl, ?_⟩
  intro serves
  have log := serves.log
  rw [Answer.log_eq] at log
  cases log

end Request

end Greeter
