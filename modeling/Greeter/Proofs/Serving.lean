import Greeter.Proofs.Acceptance
import Greeter.Proofs.Steady

/-! # Serving what has come in

What comes of a buffer does not depend on how much of it was there when its
first requests were served (`Served.ofBytes_append`): the bytes that wait are
those behind the last request, and more bytes are served as if they had been
there from the start. A well-formed request at the start of a buffer is answered
alone, and the rest is served as a buffer of its own (`Request.WellFormed.served`).
-/

namespace Greeter.Wire

namespace Served

/-- Behind a head that is not whole, nothing is served. -/
theorem ofBytes_of_incomplete {unread : Bytes} (found : Head.read unread = .incomplete) :
    ofBytes unread = ⟨[], .ofIncomplete unread⟩ := by
  rw [ofBytes]
  split
  · rfl
  · next other => rw [found] at other; cases other
  · next other => rw [found] at other; cases other

/-- A request that is accepted is answered, and what stands behind it is served
if the connection stays open and all of the body is there. -/
theorem ofBytes_of_complete {unread rest : Bytes} {head : Head} {request : Request}
    {framing : Framing} (found : Head.read unread = .complete head rest)
    (fits : unread.length - rest.length ≤ Ending.maxHead)
    (accepted : head.accept = .ok (request, framing)) :
    ofBytes unread =
      if request.method.isConnect || !framing.keepAlive then
        ⟨[⟨request, framing.keepAlive⟩], .closed⟩
      else
        match framing.body.skip? rest with
        | none => ⟨[⟨request, framing.keepAlive⟩], .closed⟩
        | some next =>
          ⟨⟨request, framing.keepAlive⟩ :: (ofBytes next).exchanges, (ofBytes next).ending⟩ := by
  rw [ofBytes]
  split
  · next other => rw [found] at other; cases other
  · next other => rw [found] at other; cases other
  · next other =>
    rw [found] at other
    cases other
    rw [if_neg (Nat.not_lt.mpr fits)]
    split
    · next other => rw [accepted] at other; cases other
    · next other =>
      rw [accepted] at other
      cases other
      dsimp only
      split
      · rfl
      · split
        · next missing => rw [missing]
        · next behind => rw [behind]

/-- Behind a head that is refused, nothing is served. -/
theorem ofBytes_of_refused {unread : Bytes} {reason : Refusal}
    (found : Head.read unread = .refused reason) :
    ofBytes unread = ⟨[], .ofInvalid unread reason⟩ := by
  rw [ofBytes]
  split
  · next other => rw [found] at other; cases other
  · next other =>
    rw [found] at other
    cases other
    rfl
  · next other => rw [found] at other; cases other

/-- A request that is not accepted is refused, with all that stands behind it. -/
theorem ofBytes_of_error {unread rest : Bytes} {head : Head} {reason : Refusal}
    (found : Head.read unread = .complete head rest)
    (fits : unread.length - rest.length ≤ Ending.maxHead)
    (denied : head.accept = .error reason) : ofBytes unread = ⟨[], .refused reason⟩ := by
  rw [ofBytes]
  split
  · next other => rw [found] at other; cases other
  · next other => rw [found] at other; cases other
  · next other =>
    rw [found] at other
    cases other
    rw [if_neg (Nat.not_lt.mpr fits)]
    split
    · next other =>
      rw [denied] at other
      cases other
      rfl
    · next other => rw [denied] at other; cases other

/-- Bytes that wait hold no whole head, and are fewer than a head may have. -/
theorem incomplete_of_waiting {unread waiting : Bytes}
    (ended : (ofBytes unread).ending = .waiting waiting) :
    Head.read waiting = .incomplete ∧ waiting.length < Ending.maxHead := by
  fun_induction ofBytes unread with
  | case1 unread found =>
      simp only [Ending.ofIncomplete] at ended
      split at ended
      · cases ended
      · next short =>
        cases ended
        exact ⟨found, Nat.lt_of_not_le short⟩
  | case2 unread reason =>
      simp only [Ending.ofInvalid] at ended
      split at ended <;> cases ended
  | case3 => cases ended
  | case4 => cases ended
  | case5 => cases ended
  | case6 => cases ended
  | case7 _ _ _ _ _ _ _ _ _ _ _ _ _ ih => exact ih ended

/-- **Bytes that come later are served as if they had been there from the start**:
behind the requests that were served, the bytes that wait are served with
them. -/
theorem ofBytes_append {unread waiting : Bytes}
    (ended : (ofBytes unread).ending = .waiting waiting) (more : Bytes) :
    ofBytes (unread ++ more) =
      ⟨(ofBytes unread).exchanges ++ (ofBytes (waiting ++ more)).exchanges,
        (ofBytes (waiting ++ more)).ending⟩ := by
  fun_induction ofBytes unread with
  | case1 unread found =>
      simp only [Ending.ofIncomplete] at ended
      split at ended
      · cases ended
      · cases ended
        rfl
  | case2 unread reason =>
      simp only [Ending.ofInvalid] at ended
      split at ended <;> cases ended
  | case3 => cases ended
  | case4 => cases ended
  | case5 => cases ended
  | case6 => cases ended
  | case7 unread head rest found fits request framing accepted _ stays next behind _ ih =>
      have steady := Head.read_steady unread more (by rw [found]; rintro ⟨⟩)
      rw [found] at steady
      rw [ofBytes_of_complete steady _ accepted, if_neg stays, BodyLength.skip?_append behind more]
      · simp only [ih ended, List.cons_append]
        rfl
      · rw [List.length_append, List.length_append]
        omega

end Served

/-- An empty line ends the head, whatever stands around it. -/
theorem endsHead_append (before behind : Bytes) :
    endsHead (before ++ (Bytes.cr :: Bytes.lf :: Bytes.cr :: Bytes.lf :: behind)) = true := by
  induction before with
  | nil => rfl
  | cons first rest ih => rw [List.cons_append, endsHead, ih, Bool.or_true]

end Greeter.Wire

namespace Greeter.Request

open Wire

/-- The lines of headers, with the end of a line before them, end a line. -/
theorem lines_end (headers : List Header) : ∃ before, Bytes.lineEnd ++
    headers.flatMap (fun header => Reply.line header.name header.value) =
      before ++ Bytes.lineEnd := by
  induction headers with
  | nil => exact ⟨[], rfl⟩
  | cons header headers ih =>
      obtain ⟨before, same⟩ := ih
      refine ⟨Bytes.lineEnd ++ (header.name ++ Bytes.ofText ": " ++ header.value) ++ before, ?_⟩
      rw [List.flatMap_cons, List.append_assoc _ before, ← same, Reply.line]
      simp only [List.append_assoc]

/-- The head of a request ends with an empty line. -/
theorem headText_ends (request : Request) : ∃ before,
    request.headText = before ++ [Bytes.cr, Bytes.lf, Bytes.cr, Bytes.lf] := by
  obtain ⟨before, same⟩ := lines_end request.headers
  refine ⟨request.method.token ++ [Bytes.space] ++ request.uri.render ++ [Bytes.space] ++
    Bytes.ofText request.version.text ++ before, ?_⟩
  have lines : request.headText = request.method.token ++ [Bytes.space] ++ request.uri.render ++
      [Bytes.space] ++ Bytes.ofText request.version.text ++ (Bytes.lineEnd ++
        request.headers.flatMap (fun header => Reply.line header.name header.value)) ++
      Bytes.lineEnd := by
    simp only [headText, List.append_assoc]
  rw [lines, same]
  simp only [List.append_assoc]
  rfl

/-- The exchange that a well-formed request comes to. -/
def exchange (request : Request) : Exchange := ⟨request.offWire, request.persists⟩

variable {request : Request}

/-- A readable request is read up to the end of its head. -/
theorem Readable.read (readable : request.Readable) (rest : Bytes) :
    Head.read (request.headText ++ rest) = .complete request.head rest :=
  Head.read_headText (Uri.target_render readable.target).1 (Uri.target_render readable.target).2
    readable.version readable.headers rest

/-- A head that has not come in whole is not judged. -/
theorem Readable.read_start (readable : request.Readable) {start : Bytes}
    (starts : start <+: request.headText) (short : start.length < request.headText.length) :
    Head.read start = .incomplete := by
  obtain ⟨more, whole⟩ := starts
  have read : Head.read (start ++ more) = .complete request.head [] := by
    rw [whole]
    simpa using readable.read []
  have missing : more ≠ [] := by
    rintro rfl
    rw [← whole, List.append_nil] at short
    exact Nat.lt_irrefl _ short
  exact Head.read_steady.eq_incomplete_of_append read missing

/-- A request at the start of a buffer that is accepted with some framing is
answered, and the rest is served behind its body. -/
theorem Readable.served {framing : Framing} (readable : request.Readable)
    (fits : request.headText.length ≤ Ending.maxHead)
    (accepted : request.head.accept = .ok (request.offWire, framing)) (rest : Bytes) :
    Served.ofBytes (request.headText ++ rest) =
      if request.method.isConnect || !framing.keepAlive then
        ⟨[⟨request.offWire, framing.keepAlive⟩], .closed⟩
      else
        match framing.body.skip? rest with
        | none => ⟨[⟨request.offWire, framing.keepAlive⟩], .closed⟩
        | some next =>
          ⟨⟨request.offWire, framing.keepAlive⟩ :: (Served.ofBytes next).exchanges,
            (Served.ofBytes next).ending⟩ := by
  refine Served.ofBytes_of_complete (readable.read rest) ?_ accepted
  rw [List.length_append, Nat.add_sub_cancel]
  exact fits

/-- **A well-formed request at the start of a buffer** is answered. The rest is
served behind its body, unless the connection closes or some of the body is not
there. -/
theorem WellFormed.served (formed : request.WellFormed) (rest : Bytes) :
    Served.ofBytes (request.headText ++ rest) =
      if request.method.isConnect || !request.persists || rest.length < request.body.length then
        ⟨[request.exchange], .closed⟩
      else
        ⟨request.exchange :: (Served.ofBytes (rest.drop request.body.length)).exchanges,
          (Served.ofBytes (rest.drop request.body.length)).ending⟩ := by
  rw [formed.toReadable.served formed.limits.head (Head.accept_head formed)]
  simp only [BodyLength.skip?]
  by_cases closes : (request.method.isConnect || !request.persists) = true
  · simp only [closes, ↓reduceIte, Bool.true_or]
    rfl
  · by_cases missing : rest.length < request.body.length
    · simp only [closes, missing, Bool.false_eq_true, ↓reduceIte, decide_true, Bool.or_true]
      rfl
    · simp only [closes, missing, Bool.false_eq_true, ↓reduceIte, decide_false, Bool.or_false]
      rfl

end Greeter.Request

namespace Greeter.Wire.Served

/-- Bytes that wait are looked at again when the end of a head comes in. -/
theorem ofRead_of_headText {request : Request} {unread new : Bytes}
    (asks : request.headText <+: unread ++ new)
    (shorter : unread.length < request.headText.length) :
    ofRead unread new = ofBytes (unread ++ new) := by
  rw [ofRead]
  refine if_pos (.inr ?_)
  obtain ⟨more, whole⟩ := asks
  obtain ⟨before, ends⟩ := request.headText_ends
  rw [ends, List.length_append] at shorter
  simp only [List.length_cons, List.length_nil] at shorter
  rw [← whole, ends, List.append_assoc, List.drop_append_of_le_length (by omega)]
  exact endsHead_append _ _

/-- Bytes that wait are looked at again if the head they start comes in whole. -/
theorem ofRead_eq_ofBytes {unread new : Bytes} (waits : Head.read unread = .incomplete)
    (seen : Head.read (unread ++ new) = .incomplete ∨
      ∃ request : Request, request.Readable ∧ request.headText <+: unread ++ new) :
    ofRead unread new = ofBytes (unread ++ new) := by
  rcases seen with incomplete | ⟨request, readable, asks⟩
  · rw [ofRead]
    split
    · rfl
    · exact (ofBytes_of_incomplete incomplete).symm
  · refine ofRead_of_headText asks ?_
    by_contra long
    have starts : request.headText <+: unread :=
      List.prefix_of_prefix_length_le asks (List.prefix_append unread new) (Nat.le_of_not_lt long)
    obtain ⟨behind, same⟩ := starts
    rw [← same, readable.read behind] at waits
    cases waits

theorem ofBytes_of_waits {unread : Bytes} (waits : Head.read unread = .incomplete)
    (short : unread.length < Ending.maxHead) : ofBytes unread = ⟨[], .waiting unread⟩ := by
  rw [ofBytes_of_incomplete waits, Ending.ofIncomplete, if_neg (Nat.not_le.mpr short)]

theorem ofBytes_nil : ofBytes [] = ⟨[], .waiting []⟩ := ofBytes_of_waits rfl (by decide)

theorem receive_nil (unread : Bytes) : (ofBytes unread).receive [] = ofBytes unread := by
  rw [receive]
  split
  · next waiting ended =>
    obtain ⟨incomplete, short⟩ := incomplete_of_waiting ended
    have read : ofRead waiting [] = ⟨[], .waiting waiting⟩ := by
      rw [ofRead_eq_ofBytes incomplete (.inl (by rwa [List.append_nil])), List.append_nil,
        ofBytes_of_waits incomplete short]
    rw [read]
    dsimp only
    rw [List.append_nil, ← ended]
  · rfl

/-- Bytes that come behind others are served with them, if the head they end is
seen. -/
theorem receive_eq_ofBytes {unread new waiting : Bytes}
    (ended : (ofBytes unread).ending = .waiting waiting)
    (seen : Head.read (waiting ++ new) = .incomplete ∨
      ∃ request : Request, request.Readable ∧ request.headText <+: waiting ++ new) :
    (ofBytes unread).receive new = ofBytes (unread ++ new) := by
  rw [receive, ended, ofBytes_append ended new]
  simp only [ofRead_eq_ofBytes (incomplete_of_waiting ended).1 seen]

/-- What starts with a head may be read in two goes, the first of which ends inside
the head. -/
theorem receive_take_of_headText {request : Request} {stream : Bytes} {count : Nat}
    (readable : request.Readable) (asks : request.headText <+: stream)
    (short : count < request.headText.length) (few : count < Ending.maxHead) :
    (ofBytes (stream.take count)).receive (stream.drop count) = ofBytes stream := by
  have taken : (stream.take count).length ≤ count := List.length_take_le count stream
  have starts : stream.take count <+: request.headText :=
    List.prefix_of_prefix_length_le (List.take_prefix count stream) asks (by omega)
  have waits := ofBytes_of_waits (readable.read_start starts (by omega)) (by omega)
  have seen : request.headText <+: stream.take count ++ stream.drop count := by
    rwa [List.take_append_drop]
  rw [receive_eq_ofBytes (by rw [waits]) (.inr ⟨request, readable, seen⟩), List.take_append_drop]

end Greeter.Wire.Served
