import Greeter.Proofs.FirstBytes

/-! # Heads that are too large

The server takes heads up to a size. A head with more than a hundred header fields is
refused, and its connection closes, whatever else the head says and whatever stands
behind it (`Request.send_of_many_headers`).
-/

namespace Greeter

open Wire

namespace Request

variable {request : Request} {stream text : Bytes}

/-- A head has five times as many bytes as headers, or more. -/
theorem length_headers_le (request : Request) :
    5 * request.headers.length ≤ request.headText.length := by
  -- A line has a name of one byte at least, a colon, a space and the end of the line.
  have lines : ∀ headers : List Header, 5 * headers.length ≤
      (headers.flatMap fun header => Reply.line header.name header.value).length := by
    intro headers
    induction headers with
    | nil => exact Nat.le_refl 0
    | cons header headers ih =>
        have name : 0 < header.name.length := List.length_pos_of_ne_nil header.nonempty
        have separator : (Bytes.ofText ": ").length = 2 := by decide
        have lineEnd : Bytes.lineEnd.length = 2 := rfl
        rw [List.flatMap_cons, List.length_append, Reply.line]
        simp only [List.length_append, List.length_cons]
        omega
  have all := lines request.headers
  rw [headText]
  simp only [List.length_append]
  omega

/-- The start of a stream that asks for something, and does not greet a server of
HTTP/2, is refused for the reason for which it is no head. -/
theorem ofInvalid_of_headText (asks : request.headText <+: stream)
    (notPreface : ¬ preface <+: stream) (nonempty : text ≠ []) (within : text <+: stream)
    (reason : Refusal) : Ending.ofInvalid text reason = .refused reason := by
  obtain ⟨first, others, named⟩ := List.exists_cons_of_ne_nil request.method.nonempty
  obtain ⟨notReturn, notFeed⟩ := Head.ne_lineEnd_of_token
    (List.all_eq_true.mp request.method.isToken first (by simp [named]))
  obtain ⟨start, rest, rfl⟩ := List.exists_cons_of_ne_nil nonempty
  obtain rfl : start = first := by
    rw [headText, named] at asks
    rcases List.prefix_or_prefix_of_prefix asks within with longer | longer
    · exact (List.cons_prefix_cons.mp longer).1.symm
    · exact (List.cons_prefix_cons.mp longer).1
  have kept : ((start :: rest).dropWhile fun byte => byte == Bytes.cr || byte == Bytes.lf) =
      start :: rest := by
    rw [List.dropWhile_cons_of_neg]
    simp [notReturn, notFeed]
  have notGreeting : greetsHttp2 (start :: rest) = false := by
    rw [greetsHttp2, kept, Bool.eq_false_iff]
    exact fun greets => notPreface ((List.isPrefixOf_iff_prefix.mp greets).trans within)
  rw [Ending.ofInvalid, notGreeting]
  rfl

/-- A stream that is refused is refused as well when it is read in two goes, the first
of which ends inside the head. -/
theorem receive_take_of_refused {reason : Refusal} {count : Nat}
    (asks : request.headText <+: stream) (found : Head.read stream = .refused reason)
    (notPreface : ¬ preface <+: stream) (positive : 0 < count)
    (short : count < request.headText.length) (few : count < Ending.maxHead) :
    (Served.ofBytes (stream.take count)).receive (stream.drop count) =
      ⟨[], .refused reason⟩ := by
  have taken : (stream.take count).length = count :=
    List.length_take_of_le (Nat.le_trans (Nat.le_of_lt short) asks.length_le)
  -- Either the first go waits, and the second looks at the whole stream, or the first
  -- one has refused already, for the same reason.
  by_cases undecided : Head.read (stream.take count) = .incomplete
  · have nonempty : stream ≠ [] := by
      rintro rfl
      rw [List.take_nil, List.length_nil] at taken
      omega
    have looked : Served.ofRead (stream.take count) (stream.drop count) =
        Served.ofBytes stream := by
      rw [Served.ofRead_of_headText (by rwa [List.take_append_drop]) (by rwa [taken]),
        List.take_append_drop]
    rw [Served.ofBytes_of_waits undecided (by rwa [taken]), Served.receive]
    simp only [looked, Served.ofBytes_of_refused found,
      ofInvalid_of_headText asks notPreface nonempty (List.prefix_refl _), List.append_nil]
  · have steady := Head.read_steady _ (stream.drop count) undecided
    rw [List.take_append_drop, found] at steady
    cases start : Head.read (stream.take count) with
    | incomplete => exact absurd start undecided
    | complete head rest => rw [start] at steady; cases steady
    | refused other =>
        rw [start] at steady
        cases steady
        have nonempty : stream.take count ≠ [] := List.ne_nil_of_length_pos (by omega)
        rw [Served.ofBytes_of_refused start,
          ofInvalid_of_headText asks notPreface nonempty (List.take_prefix _ _)]
        rfl

/-- **Too many header fields are refused**, with all that stands behind them. -/
theorem send_of_many_headers (plain : request.uri.isPlain = true)
    (spoken : request.version = .http10 ∨ request.version = .http11)
    (many : Head.maxFields < request.headers.length) (asks : request.headText <+: stream) :
    Connection.fresh.send stream = (.closed, ⟨[], some .headersTooLarge⟩) := by
  obtain ⟨nonempty, members⟩ := Uri.target_render plain
  have found : Head.read stream = .refused .headersTooLarge := by
    obtain ⟨rest, rfl⟩ := asks
    exact Head.read_headText_of_many nonempty members spoken many rest
  have notPreface : ¬ preface <+: stream := by
    rintro ⟨more, rfl⟩
    rw [Head.read_preface] at found
    cases found
  have greeting : preface.length = 24 := by decide
  have long : preface.length < request.headText.length := by
    have bytes := request.length_headers_le
    have fields : Head.maxFields = 100 := rfl
    omega
  have notGreeting : ¬ stream <+: preface := by
    intro greets
    have atMost := greets.length_le
    have atLeast := asks.length_le
    omega
  have none : ([] : Bytes).length ≤ preface.length := Nat.zero_le _
  have judged := Connection.send_judged none notPreface notGreeting
  rw [List.nil_append] at judged
  rw [Connection.fresh, judged, receive_take_of_refused asks found notPreface (by decide) long
    (by decide)]
  rfl

end Request

end Greeter
