import Greeter.Proofs.Limits
import Greeter.Proofs.Pipelines

/-! # Bodies in chunks

A body may come in chunks, each behind its size in hexadecimal digits, and end with an
empty one. The handler never reads it. A body of one chunk at most is skipped, however
its size is spelled (`Wire.Chunk.skipAll?_bodyText`); behind the request of any other
the connection closes. Either way nothing in a chunk is ever taken for a request
(`Request.chunks_unread`).
-/

namespace Greeter

open Wire

namespace Bytes

/-- What a hexadecimal digit is worth. -/
def hexValue (byte : UInt8) : Nat :=
  if byte ≤ 0x39 then byte.toNat - 0x30
  else if byte ≤ 0x46 then byte.toNat - 0x37
  else byte.toNat - 0x57

/-- The text writes the number in hexadecimal digits of either case, perhaps with
zeros before it. -/
def WritesHex (text : Bytes) (number : Nat) : Prop :=
  text ≠ [] ∧ text.all ByteClass.hexDigit.has = true ∧
    Nat.ofDigits 16 (text.reverse.map hexValue) = number

/-- A hexadecimal digit is worth its value in either case. -/
theorem digit?_hex {byte : UInt8} (digit : ByteClass.hexDigit.has byte = true) :
    Numeral.digit? 16 byte.toNat = some (hexValue byte) := by
  have worth : ∀ byte, ByteClass.hexDigit.has byte = true →
      Numeral.digit? 16 byte.toNat = some (hexValue byte) := by
    apply forall_byte
    decide +kernel
  exact worth byte digit

/-- A hexadecimal number is read if it is below the limit, and is not read otherwise. -/
theorem number?_of_writesHex {text : Bytes} {number limit : Nat} (written : text.WritesHex number)
    (room : 0 < limit) :
    number? 16 limit text = if number < limit then some number else none := by
  obtain ⟨nonempty, digits, rfl⟩ := written
  rw [List.all_eq_true] at digits
  exact number?_eq (by decide) room nonempty fun byte member => digit?_hex (digits byte member)

end Bytes

/-- A chunk of a body as a client writes it. -/
structure Wire.Chunk where
  size : Bytes
  data : Bytes
  nonempty : data ≠ []
  isSize : size.WritesHex data.length

namespace Wire.Chunk

/-- A chunk on the wire: the line with its size, and its data with the end of a line
behind them. -/
def text (chunk : Chunk) : Bytes :=
  chunk.size ++ Bytes.lineEnd ++ chunk.data ++ Bytes.lineEnd

/-- A body on the wire: its chunks, and the empty one that ends it. -/
def bodyText (chunks : List Chunk) : Bytes :=
  chunks.flatMap text ++ Bytes.ofText "0\r\n\r\n"

/-- Whether the server skips a body that is there: it has one chunk at most, whose
size is within the limit. -/
def skips (chunks : List Chunk) : Bool :=
  chunks.length ≤ 1 && chunks.all fun chunk => chunk.data.length < sizeLimit

theorem bodyText_cons_append (chunk : Chunk) (chunks : List Chunk) (rest : Bytes) :
    bodyText (chunk :: chunks) ++ rest = chunk.text ++ (bodyText chunks ++ rest) := by
  simp only [bodyText, List.flatMap_cons, List.append_assoc]

theorem length_data_ne_zero (chunk : Chunk) : chunk.data.length ≠ 0 := by
  intro empty
  exact chunk.nonempty (List.length_eq_zero_iff.mp empty)

theorem skipLineEnd?_lineEnd (rest : Bytes) : skipLineEnd? (Bytes.lineEnd ++ rest) = some rest :=
  rfl

/-- The size of a chunk is read in any of its spellings, if it fits into 64 bits. -/
theorem readSize?_of_writesHex {size : Bytes} {number : Nat} (written : size.WritesHex number)
    (rest : Bytes) :
    readSize? (size ++ (Bytes.lineEnd ++ rest)) =
      if number < sizeLimit then some (number, rest) else none := by
  obtain ⟨taken, dropped⟩ := ByteClass.span_append_cons written.2.1
    (by decide : ByteClass.hexDigit.has Bytes.cr = false) (Bytes.lf :: rest)
  have line : size ++ (Bytes.lineEnd ++ rest) = size ++ Bytes.cr :: Bytes.lf :: rest := rfl
  rw [readSize?, line, taken, dropped, Bytes.number?_of_writesHex written (by decide)]
  by_cases below : number < sizeLimit
  · rw [if_pos below, if_pos below]
    rfl
  · rw [if_neg below, if_neg below]
    rfl

/-- A chunk tells the length of its data, and the data stand behind it. -/
theorem readSize?_text (chunk : Chunk) (rest : Bytes) :
    readSize? (chunk.text ++ rest) =
      if chunk.data.length < sizeLimit then
        some (chunk.data.length, chunk.data ++ (Bytes.lineEnd ++ rest))
      else none := by
  have parts : chunk.text ++ rest =
      chunk.size ++ (Bytes.lineEnd ++ (chunk.data ++ (Bytes.lineEnd ++ rest))) := by
    simp only [text, List.append_assoc]
  rw [parts, readSize?_of_writesHex chunk.isSize]

/-- The chunk that ends a body has size zero. -/
theorem readSize?_last (rest : Bytes) :
    readSize? (Bytes.ofText "0\r\n\r\n" ++ rest) = some (0, Bytes.lineEnd ++ rest) := by
  have written : (Bytes.ofText "0").WritesHex 0 := ⟨by decide, by decide, by decide⟩
  have lines : Bytes.ofText "0\r\n\r\n" ++ rest =
      Bytes.ofText "0" ++ (Bytes.lineEnd ++ (Bytes.lineEnd ++ rest)) := rfl
  rw [lines, readSize?_of_writesHex written, if_pos (by decide)]

/-- Behind a chunk of data, only the empty chunk is looked for. -/
theorem skipAll?_text (chunk : Chunk) (rest : Bytes) :
    skipAll? (chunk.text ++ rest) =
      if chunk.data.length < sizeLimit then
        (readSize? rest).bind fun last => if last.1 = 0 then skipTrailer? last.2 else none
      else none := by
  have there : ¬ (chunk.data ++ (Bytes.lineEnd ++ rest)).length < chunk.data.length := by
    rw [List.length_append]
    omega
  rw [skipAll?, readSize?_text]
  by_cases below : chunk.data.length < sizeLimit
  · rw [if_pos below, if_pos below]
    simp only [Option.bind_eq_bind, Option.bind_some, chunk.length_data_ne_zero, ↓reduceIte, there,
      List.drop_left, skipLineEnd?_lineEnd]
  · rw [if_neg below, if_neg below]
    rfl

/-- **Bodies in chunks are skipped whole or not at all.** What stands behind a body is
found if it has one chunk at most, of whatever data. -/
theorem skipAll?_bodyText (chunks : List Chunk) (rest : Bytes) :
    skipAll? (bodyText chunks ++ rest) = if skips chunks then some rest else none := by
  match chunks with
  | [] =>
      rw [bodyText, List.flatMap_nil, List.nil_append, skipAll?, readSize?_last]
      rfl
  | [only] =>
      rw [bodyText_cons_append, skipAll?_text, bodyText, List.flatMap_nil, List.nil_append,
        readSize?_last]
      by_cases below : only.data.length < sizeLimit
      · have skipped : skips [only] = true := by simp [skips, below]
        rw [if_pos below, if_pos skipped]
        rfl
      · have stuck : skips [only] = false := by simp [skips, below]
        rw [if_neg below, stuck, if_neg Bool.false_ne_true]
  -- The size of the second chunk stands where that of the empty one is looked for.
  | first :: second :: others =>
      have stuck : skips (first :: second :: others) = false := by simp [skips]
      rw [bodyText_cons_append, skipAll?_text, bodyText_cons_append, readSize?_text, stuck,
        if_neg Bool.false_ne_true]
      by_cases below : second.data.length < sizeLimit
      · rw [if_pos below, Option.bind_some, if_neg second.length_data_ne_zero, ite_self]
      · rw [if_neg below, Option.bind_none, ite_self]

end Wire.Chunk

namespace Request

/-- A request of version 1.1 whose body comes in the given chunks, as its only header
about the body says. -/
structure Chunked (request : Request) (chunks : List Chunk) : Prop extends request.Readable where
  fits : request.HeadFits
  http11 : request.version = .http11
  noConnection : request.Lacks "connection"
  noTunnel : request.method.isConnect = false
  framing : ∃ header, request.headers.filter Header.frames = [header] ∧
    header.isNamed (Bytes.ofText "transfer-encoding") = true ∧
    header.value.trim = Bytes.ofText "chunked"
  body : request.body = Chunk.bodyText chunks

variable {request : Request} {chunks : List Chunk}

theorem Chunked.persists (chunked : request.Chunked chunks) : request.persists = true := by
  rw [persists_of_lacks chunked.noConnection, chunked.http11]
  rfl

/-- The fields of a request with a body in chunks say so, and say nothing else about the body. -/
theorem Chunked.ofFields (chunked : request.Chunked chunks) :
    Framing.ofFields request.version request.head.fields = .ok ⟨.chunked, request.persists⟩ := by
  obtain ⟨header, once, named, coding⟩ := chunked.framing
  -- This header alone says something about the body; the others only count for what
  -- they ask of the connection.
  have next (close keep : Bool) :
      Framing.Scan.next .http11 ⟨none, none, false, close, keep⟩ header.trimmed.field =
        .ok ⟨some true, none, false, close, keep⟩ := by
    have ends : Framing.endsChunked (Bytes.ofText "chunked") = true := by decide
    rw [Header.isNamed] at named
    simp only [Framing.Scan.next, Header.field, Header.trimmed, named, coding, ends, ↓reduceIte,
      reduceCtorEq]
  have framed := Framing.foldlM_next_framed once next
  rw [Framing.ofFields, Framing.head_fields, chunked.http11, framed, ok_bind, Request.persists,
    chunked.http11]
  simp only [Framing.Scan.finish, Bool.not_false, Bool.and_true]

/-- A request in chunks at the start of a buffer is answered. What stands behind its
body is served if the body is skipped; otherwise the connection closes. -/
theorem Chunked.served (chunked : request.Chunked chunks) (rest : Bytes) :
    Served.ofBytes (request.text ++ rest) =
      if Chunk.skips chunks then
        ⟨request.exchange :: (Served.ofBytes rest).exchanges, (Served.ofBytes rest).ending⟩
      else ⟨[request.exchange], .closed⟩ := by
  have accepted := Head.accept_head_of_framing chunked.toReadable chunked.fits chunked.ofFields
  have stays : ¬ (request.method.isConnect || !request.persists) = true := by
    rw [chunked.noTunnel, chunked.persists]
    exact Bool.false_ne_true
  rw [text, List.append_assoc, chunked.toReadable.served chunked.fits.size accepted, if_neg stays,
    chunked.body]
  simp only [BodyLength.skip?, Chunk.skipAll?_bodyText]
  by_cases skipped : Chunk.skips chunks = true
  · rw [if_pos skipped, if_pos skipped]
    rfl
  · rw [if_neg skipped, if_neg skipped]
    rfl

/-- A head that announces a body in chunks is longer than the greeting of HTTP/2. -/
theorem Chunked.long (chunked : request.Chunked chunks) :
    preface.length < request.headText.length := by
  obtain ⟨header, once, named, -⟩ := chunked.framing
  have listed : header ∈ request.headers.filter Header.frames := by
    rw [once]
    exact List.mem_singleton_self header
  have atLeast := length_headText_of_header (List.mem_of_mem_filter listed)
  have name : header.name.length = 17 := length_of_isNamed named
  have greeting : preface.length = 24 := by decide
  omega

/-- So it is served at once when it comes first on a connection. -/
theorem Chunked.send (chunked : request.Chunked chunks) (rest : Bytes) :
    Connection.fresh.send (request.text ++ rest) =
      Connection.settle (Served.ofBytes (request.text ++ rest)) := by
  have asks : request.headText <+: request.text ++ rest := by
    rw [text, List.append_assoc]
    exact List.prefix_append _ _
  rw [Connection.send_fresh chunked.toReadable asks,
    Served.receive_take_of_headText chunked.toReadable asks chunked.long (by decide)]

/-- **Chunks are never taken for requests.** Behind a request whose body comes in
chunks, whatever they spell and however their sizes are written, the next request is
answered if the body is skipped, and the connection stays open. Otherwise the
connection closes behind the first answer: whatever is sent then, nothing more is
answered or logged. -/
theorem chunks_unread {first second : Request} {chunks : List Chunk}
    (chunked : first.Chunked chunks) (lasting : second.Lasting) (number : Nat)
    (later : List Step) :
    ∃ answer others, Service.idle.answersOn number
        (⟨number, .send (first.headText ++ Chunk.bodyText chunks ++ second.text)⟩ :: later) =
          answer :: others ∧
      ((Chunk.skips chunks = true ∧ answer.Serves [first, second] ∧ answer.isOpen = true) ∨
        (Chunk.skips chunks = false ∧ answer.Serves [first] ∧ answer.isOpen = false ∧
          ∀ other ∈ others, (∀ date, other.received date = []) ∧ other.log .default = [] ∧
            other.isOpen = false)) := by
  have stream : first.headText ++ Chunk.bodyText chunks = first.text := by
    rw [text, chunked.body]
  have plainFirst : first.version = .http11 ∧ first.persists = true :=
    ⟨chunked.http11, chunked.persists⟩
  have plainSecond : second.version = .http11 ∧ second.persists = true :=
    ⟨lasting.http11, lasting.persists⟩
  rw [stream, Service.answersOn_send, chunked.send, chunked.served]
  cases skipped : Chunk.skips chunks with
  | true =>
      have behind := lasting.toWellFormed.served_text []
      rw [List.append_nil, if_pos lasting.stays, Served.ofBytes_nil] at behind
      rw [if_pos rfl, behind]
      refine ⟨.toAll [first, second] true, _, rfl, .inl ⟨rfl, ?_, rfl⟩⟩
      refine Answer.toAll_serves_of_persists ?_ ?_ true
      · rw [List.forall_mem_cons, List.forall_mem_singleton]
        exact ⟨chunked.noTunnel, lasting.noTunnel⟩
      · rw [List.forall_mem_cons, List.forall_mem_singleton]
        exact ⟨plainFirst, plainSecond⟩
  | false =>
      rw [if_neg Bool.false_ne_true]
      refine ⟨.toAll [first] false, _, rfl, .inr ⟨rfl, ?_, rfl, ?_⟩⟩
      · exact Answer.toAll_serves_of_persists (List.forall_mem_singleton.mpr chunked.noTunnel)
          (List.forall_mem_singleton.mpr plainFirst) false
      · intro other member
        rw [Connection.settle, Connection.answers_closed] at member
        obtain ⟨_, _, rfl⟩ := List.mem_map.mp member
        exact ⟨fun _ => rfl, rfl, rfl⟩

/-- A request that sends its body in these chunks and is otherwise plain. -/
def inChunks (chunks : List Chunk) : Request where
  method := ⟨Bytes.ofText "PUT", by decide, by decide⟩
  uri := .origin [Uri.slash] none
  version := .http11
  headers := [⟨Bytes.ofText "Transfer-Encoding", Bytes.ofText "chunked", by decide, by decide,
    by decide⟩]
  body := Chunk.bodyText chunks

/-- Any chunks can be sent. -/
theorem inChunks_chunked (chunks : List Chunk) : (inChunks chunks).Chunked chunks where
  target := rfl
  version := .inr rfl
  headers := by
    show 1 ≤ Head.maxFields
    decide
  fits := {
    names := by
      rw [inChunks, List.forall_mem_singleton]
      decide
    target := by
      show (Uri.origin [Uri.slash] none).render.length ≤ Head.maxTarget
      decide
    size := by
      show (inChunks []).headText.length ≤ Ending.maxHead
      decide }
  http11 := rfl
  noConnection := by
    rw [Lacks, inChunks, List.forall_mem_singleton]
    decide
  noTunnel := rfl
  framing := by
    refine ⟨_, rfl, ?_, ?_⟩
    · decide
    · decide
  body := rfl

/-- A chunk that spells a request, with a zero before its size. -/
def requestChunk : Chunk where
  size := Bytes.ofText "012"
  data := Bytes.ofText "GET / HTTP/1.1\r\n\r\n"
  nonempty := by decide
  isSize := ⟨by decide, by decide, by decide⟩

/-- The request inside a chunk is not answered, be the body skipped or not. -/
theorem chunks_unread_inside :
    let page := forRoot ⟨Bytes.ofText "GET", by decide, by decide⟩
    let once := inChunks [requestChunk]
    let twice := inChunks [requestChunk, requestChunk]
    once.Chunked [requestChunk] ∧ twice.Chunked [requestChunk, requestChunk] ∧ page.Lasting ∧
      (∃ answer others, Service.idle.answersOn 1
          [⟨1, .send (once.headText ++ Chunk.bodyText [requestChunk] ++ page.text)⟩] =
            answer :: others ∧
        answer.Serves [once, page] ∧ answer.isOpen = true) ∧
      ∃ answer others, Service.idle.answersOn 1
          [⟨1, .send (twice.headText ++ Chunk.bodyText [requestChunk, requestChunk] ++
              page.text)⟩, ⟨1, .send page.text⟩] = answer :: others ∧
        answer.Serves [twice] ∧ answer.isOpen = false ∧
        ∀ other ∈ others, (∀ date, other.received date = []) ∧ other.log .default = [] ∧
          other.isOpen = false := by
  intro page once twice
  have lasting : page.Lasting := forRoot_lasting (by decide) (by decide)
  have chunkedOnce : once.Chunked [requestChunk] := inChunks_chunked _
  have chunkedTwice : twice.Chunked [requestChunk, requestChunk] := inChunks_chunked _
  refine ⟨chunkedOnce, chunkedTwice, lasting, ?_, ?_⟩
  · obtain ⟨answer, others, answered, served | closed⟩ := chunks_unread chunkedOnce lasting 1 []
    · exact ⟨answer, others, answered, served.2⟩
    · exact absurd closed.1 (by decide)
  · obtain ⟨answer, others, answered, served | closed⟩ :=
      chunks_unread chunkedTwice lasting 1 [⟨1, .send page.text⟩]
    · exact absurd served.1 (by decide)
    · exact ⟨answer, others, answered, closed.2⟩

/-- A request in chunks, of none, that has more headers than are allowed. -/
def manyHeaders : Request where
  method := ⟨Bytes.ofText "PUT", by decide, by decide⟩
  uri := .origin [Uri.slash] none
  version := .http11
  headers := List.replicate Head.maxFields
      ⟨Bytes.ofText "a", [], by decide, by decide, by decide⟩ ++
    [⟨Bytes.ofText "transfer-encoding", Bytes.ofText "chunked", by decide, by decide, by decide⟩]
  body := Chunk.bodyText []

/-- A request in chunks that has too many headers is refused and not logged, as is the
one behind it. -/
theorem manyHeaders_refused :
    let page := forRoot ⟨Bytes.ofText "GET", by decide, by decide⟩
    manyHeaders.uri.isPlain = true ∧ manyHeaders.version = .http11 ∧
      manyHeaders.method.isConnect = false ∧
      (∀ name ∈ ["connection", "expect", "upgrade"], manyHeaders.Lacks name) ∧
      (∃ header, manyHeaders.headers.filter Header.frames = [header] ∧
        header.isNamed (Bytes.ofText "transfer-encoding") = true ∧
        header.value.trim = Bytes.ofText "chunked") ∧
      page.Lasting ∧
      ∃ answer, Service.idle.answersOn 0
          [⟨0, .send (manyHeaders.headText ++ Chunk.bodyText [] ++ page.text)⟩] = [answer] ∧
        answer.isOpen = false ∧ ¬ answer.Serves [manyHeaders, page] ∧
        ¬ answer.Serves [manyHeaders] := by
  intro page
  have asks : manyHeaders.headText <+: manyHeaders.headText ++ Chunk.bodyText [] ++ page.text := by
    rw [List.append_assoc]
    exact List.prefix_append _ _
  have many : Head.maxFields < manyHeaders.headers.length := by
    rw [manyHeaders]
    decide
  have sent := send_of_many_headers rfl (.inr rfl) many asks
  refine ⟨rfl, rfl, rfl, ?_, ⟨_, rfl, ?_, ?_⟩, forRoot_lasting (by decide) (by decide),
    ⟨⟨[], some .headersTooLarge⟩, false⟩, ?_, rfl, ?_, ?_⟩
  · intro name listed header member
    rw [manyHeaders, List.mem_append, List.mem_replicate, List.mem_singleton] at member
    obtain ⟨-, rfl⟩ | rfl := member <;> revert name <;> decide
  · decide
  · decide
  · rw [Service.answersOn_send, sent]
    rfl
  · intro serves
    have log := serves.log
    rw [Answer.log_eq] at log
    cases log
  · intro serves
    have log := serves.log
    rw [Answer.log_eq] at log
    cases log

end Request

end Greeter
