import Greeter.Proofs.Serving
import Greeter.Wire.Connection

/-! # The first bytes of a connection

A connection waits as long as its first bytes may become the greeting of HTTP/2.
No request starts with that greeting, so a well-formed request is always judged:
its first bytes in a read of their own, and then all of them
(`Wire.Connection.send_judged`).
-/

namespace Greeter.Wire

/-- The greeting of HTTP/2 is no head: its version is not spoken. -/
theorem Head.read_preface (more : Bytes) : read (preface ++ more) = .refused .badRequest := by
  have parts : preface = Bytes.ofText "PRI" ++ Bytes.space :: (Bytes.ofText "*" ++
      Bytes.space :: (Bytes.ofText "HTTP/2." ++ Bytes.ofText "0\r\n\r\nSM\r\n\r\n")) := by decide
  have written : preface ++ more = Bytes.ofText "PRI" ++ Bytes.space :: (Bytes.ofText "*" ++
      Bytes.space :: (Bytes.ofText "HTTP/2." ++ (Bytes.ofText "0\r\n\r\nSM\r\n\r\n" ++ more))) := by
    rw [parts]
    simp only [List.append_assoc, List.cons_append]
  have method := readMethod_token ⟨Bytes.ofText "PRI", by decide, by decide⟩
  have version : readVersion (Bytes.ofText "HTTP/2." ++
      (Bytes.ofText "0\r\n\r\nSM\r\n\r\n" ++ more)) = .refused .badRequest :=
    readVersion_eq_refused (List.prefix_append _ _) (by decide) (by decide)
  rw [written, read, skipLineEnds_token (by decide) (by decide)]
  simp only [Progress.andThen, method]
  rw [readAfterMethod, readTarget_append (by decide) (by decide)]
  simp only [Progress.andThen, version]

/-- No stream starts with both a well-formed head and the greeting of HTTP/2. -/
theorem not_preface_of_headText {request : Request} {stream : Bytes}
    (readable : request.Readable) (asks : request.headText <+: stream) : ¬ preface <+: stream := by
  rintro ⟨more, rfl⟩
  obtain ⟨rest, same⟩ := asks
  have read := Head.read_preface more
  rw [← same, readable.read rest] at read
  cases read

/-- Nor does such a stream end inside of the greeting. -/
theorem not_prefix_preface_of_headText {request : Request} {stream : Bytes}
    (readable : request.Readable) (asks : request.headText <+: stream) : ¬ stream <+: preface :=
  fun starts => not_preface_of_headText readable (asks.trans starts) (List.prefix_refl preface)

/-- What starts with a head, or may still become one, does not greet a server of
HTTP/2. -/
theorem not_preface_of_seen {stream : Bytes}
    (seen : Head.read stream = .incomplete ∨
      ∃ request : Request, request.Readable ∧ request.headText <+: stream) :
    ¬ preface <+: stream := by
  rcases seen with incomplete | ⟨request, readable, asks⟩
  · rintro ⟨more, rfl⟩
    rw [Head.read_preface] at incomplete
    cases incomplete
  · exact not_preface_of_headText readable asks

/-- What starts the greeting and does not hold all of it is shorter than it. -/
theorem length_lt_of_greets {stream : Bytes} (notPreface : ¬ preface <+: stream)
    (greets : stream <+: preface) : stream.length < preface.length := by
  refine Nat.lt_of_le_of_ne greets.length_le fun equal => ?_
  exact notPreface (greets.eq_of_length equal ▸ List.prefix_refl preface)

namespace Connection

/-- What a connection makes of its first bytes depends on all of them together. -/
theorem send_sniffing {seen : Bytes} (short : seen.length ≤ preface.length) (bytes : Bytes) :
    (sniffing seen).send bytes =
      let start := (seen ++ bytes).take preface.length
      if start = preface then (closed, .silent)
      else if start.isPrefixOf preface then (sniffing start, .silent)
      else settle ((Served.ofBytes start).receive ((seen ++ bytes).drop preface.length)) := by
  have taken : seen ++ bytes.take (preface.length - seen.length) =
      (seen ++ bytes).take preface.length := by
    rw [List.take_append, List.take_of_length_le short]
  have dropped : bytes.drop (preface.length - seen.length) =
      (seen ++ bytes).drop preface.length := by
    rw [List.drop_append, List.drop_of_length_le short, List.nil_append]
  have judged : Served.ofRead [] ((seen ++ bytes).take preface.length) =
      Served.ofBytes ((seen ++ bytes).take preface.length) := by
    rw [Served.ofRead, if_pos (.inl rfl), List.nil_append]
  simp only [send, taken, dropped, judged]

/-- While what has come in may become the greeting of HTTP/2, nothing is answered. -/
theorem send_greets {seen bytes : Bytes} (short : seen.length ≤ preface.length)
    (notPreface : ¬ preface <+: seen ++ bytes) (greets : seen ++ bytes <+: preface) :
    (sniffing seen).send bytes = (sniffing (seen ++ bytes), .silent) := by
  have whole : (seen ++ bytes).take preface.length = seen ++ bytes :=
    List.take_of_length_le greets.length_le
  have differs : seen ++ bytes ≠ preface := fun equal =>
    notPreface (equal ▸ List.prefix_refl preface)
  rw [send_sniffing short, whole]
  dsimp only
  rw [if_neg differs, if_pos (List.isPrefixOf_iff_prefix.mpr greets)]

/-- Bytes that differ from the greeting of HTTP/2 are judged: as many as it is
long at first, and then the others with them. -/
theorem send_judged {seen bytes : Bytes} (short : seen.length ≤ preface.length)
    (notPreface : ¬ preface <+: seen ++ bytes) (notGreeting : ¬ seen ++ bytes <+: preface) :
    (sniffing seen).send bytes =
      settle ((Served.ofBytes ((seen ++ bytes).take preface.length)).receive
        ((seen ++ bytes).drop preface.length)) := by
  rw [send_sniffing short]
  generalize seen ++ bytes = stream at *
  have differs : stream.take preface.length ≠ preface := by
    intro equal
    apply notPreface
    rw [← equal]
    exact List.take_prefix _ _
  have goesOn : ¬ (stream.take preface.length).isPrefixOf preface := by
    intro greets
    rw [List.isPrefixOf_iff_prefix] at greets
    rcases Nat.le_total stream.length preface.length with few | many
    · rw [List.take_of_length_le few] at greets
      exact notGreeting greets
    · exact differs (greets.eq_of_length (by rw [List.length_take]; omega))
  dsimp only
  rw [if_neg differs, if_neg goesOn]

/-- A request that comes first on a connection is judged at once. -/
theorem send_fresh {request : Request} {stream : Bytes} (readable : request.Readable)
    (asks : request.headText <+: stream) :
    fresh.send stream = settle ((Served.ofBytes (stream.take preface.length)).receive
      (stream.drop preface.length)) := by
  have none : ([] : Bytes).length ≤ preface.length := Nat.zero_le _
  have judged := send_judged none (not_preface_of_headText readable asks)
    (not_prefix_preface_of_headText readable asks)
  rwa [List.nil_append] at judged

end Connection

end Greeter.Wire
