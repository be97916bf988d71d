import Greeter.Proofs.Numerals
import Greeter.Proofs.PlainTargets
import Greeter.Wire.Served

/-! # Requests that are accepted

A request is well formed if it can be read (`Request.Readable`), its fields say
how long its body is (`Request.Sized`) and nothing in it is larger than the
server allows (`Request.WithinLimits`). Such a request is accepted off the wire
(`Wire.Head.accept_head`), and its `Connection` fields and its version alone
decide whether the connection stays open (`Request.persists`).
-/

namespace Greeter

namespace Bytes

/-- The text writes the number in decimal digits, perhaps with zeros before it. -/
def WritesDecimal (text : Bytes) (number : Nat) : Prop :=
  text ≠ [] ∧ (∀ byte ∈ text, 0x30 ≤ byte ∧ byte ≤ 0x39) ∧
    Nat.ofDigits 10 (text.reverse.map fun byte => byte.toNat - 0x30) = number

/-- A decimal digit is worth its distance from zero. -/
theorem digit?_decimal {byte : UInt8} (digit : 0x30 ≤ byte ∧ byte ≤ 0x39) :
    Numeral.digit? 10 byte.toNat = some (byte.toNat - 0x30) := by
  obtain ⟨least, most⟩ := digit
  have least : 48 ≤ byte.toNat := UInt8.le_iff_toNat_le.mp least
  have most : byte.toNat ≤ 57 := UInt8.le_iff_toNat_le.mp most
  simp only [Numeral.digit?, least, most, and_self, ↓reduceIte, Option.filter_some,
    decide_eq_true_eq]
  exact if_pos (by omega)

/-- A number below the limit is read from any of its decimal spellings. -/
theorem number?_of_writesDecimal {text : Bytes} {number limit : Nat}
    (written : text.WritesDecimal number) (below : number < limit) :
    number? 10 limit text = some number := by
  obtain ⟨nonempty, digits, rfl⟩ := written
  rw [number?_eq (by decide) (Nat.zero_lt_of_lt below) nonempty
    fun byte member => digit?_decimal (digits byte member), if_pos below]

end Bytes

open Wire

theorem ok_bind {ε α β : Type} (value : α) (next : α → Except ε β) :
    (Except.ok value >>= next) = next value := rfl

namespace Header

/-- The header is a `Connection` field that asks to close. -/
def asksToClose (header : Header) : Bool :=
  header.isNamed (Bytes.ofText "connection") &&
    Framing.mentions header.value.trim (Bytes.ofText "close")

/-- The header is a `Connection` field that asks to keep the connection. -/
def asksToKeep (header : Header) : Bool :=
  header.isNamed (Bytes.ofText "connection") &&
    Framing.mentions header.value.trim (Bytes.ofText "keep-alive")

/-- A header whose name is not too long passes the checks that its parts have to pass again. -/
theorem ofBytes_self {header : Header} (short : header.name.length ≤ maxNameLength) :
    ofBytes header.name header.value = .ok header := by
  rw [ofBytes, dif_pos ⟨header.nonempty, header.isToken, short⟩, dif_pos header.isFieldText]

end Header

namespace Request

/-- No header has the name. -/
def Lacks (request : Request) (name : String) : Prop :=
  ∀ header ∈ request.headers, header.isNamed (Bytes.ofText name) = false

/-- Where there are no headers, none has the name. -/
theorem lacks_of_noHeaders {request : Request} (none : request.headers = []) (name : String) :
    request.Lacks name := by
  rw [Lacks, none]
  exact List.forall_mem_nil _

/-- The headers tell the length of the body, and tell it once: there is none where
no length is given, and otherwise the length is written in decimal. -/
structure Sized (request : Request) : Prop where
  noCoding : request.Lacks "transfer-encoding"
  length : request.Lacks "content-length" ∧ request.body = [] ∨
    ∃ header, request.headers.filter (·.isNamed (Bytes.ofText "content-length")) = [header] ∧
      header.value.trim.WritesDecimal request.body.length

/-- The head of the request is read off the wire as it was written. -/
structure Readable (request : Request) : Prop where
  target : request.uri.isPlain = true
  version : request.version = .http10 ∨ request.version = .http11
  headers : request.headers.length ≤ Head.maxFields

/-- Nothing in the request is larger than the server allows. -/
structure WithinLimits (request : Request) : Prop where
  names : ∀ header ∈ request.headers, header.name.length ≤ Header.maxNameLength
  target : request.uri.render.length ≤ Head.maxTarget
  head : request.headText.length ≤ Ending.maxHead
  body : request.body.length ≤ Framing.maxLength

/-- The head of the request is not larger than the server allows. -/
structure HeadFits (request : Request) : Prop where
  names : ∀ header ∈ request.headers, header.name.length ≤ Header.maxNameLength
  target : request.uri.render.length ≤ Head.maxTarget
  size : request.headText.length ≤ Ending.maxHead

theorem WithinLimits.headFits {request : Request} (limits : request.WithinLimits) :
    request.HeadFits := ⟨limits.names, limits.target, limits.head⟩

/-- A request without a body is within the limits if its head is not longer than the
target alone may be. -/
theorem WithinLimits.of_short {request : Request}
    (short : request.headText.length ≤ Head.maxTarget) (bodyless : request.body = []) :
    request.WithinLimits where
  names := by
    intro header member
    obtain ⟨before, behind, listed⟩ := List.append_of_mem member
    rw [headText, listed, List.flatMap_append, List.flatMap_cons, Reply.line] at short
    simp only [List.length_append] at short
    have small : Head.maxTarget ≤ Header.maxNameLength := by decide
    omega
  target := by
    rw [headText] at short
    simp only [List.length_append] at short
    omega
  head := Nat.le_trans short (by decide)
  body := by
    rw [bodyless]
    exact Nat.zero_le _

/-- The request can be written on the wire and is accepted off it. -/
structure WellFormed (request : Request) : Prop extends request.Readable where
  sized : request.Sized
  limits : request.WithinLimits

/-- A request for the root that says nothing else. -/
def forRoot (method : Method) : Request := ⟨method, .origin [Uri.slash] none, .http11, [], []⟩

/-- A request for the root is well formed with any method of a sensible length. -/
theorem forRoot_wellFormed {method : Method} (short : method.token.length ≤ 1000) :
    (forRoot method).WellFormed where
  target := rfl
  version := .inr rfl
  headers := Nat.zero_le _
  sized := ⟨lacks_of_noHeaders rfl _, .inl ⟨lacks_of_noHeaders rfl _, rfl⟩⟩
  limits := by
    refine .of_short ?_ rfl
    have version : (Bytes.ofText Version.http11.text).length = 8 := by decide
    have room : Head.maxTarget = 65534 := rfl
    rw [headText, forRoot, Uri.render, Uri.renderQuery, List.flatMap_nil, room]
    simp only [List.length_append, List.length_cons, List.length_nil, version]
    omega

/-- Whether the connection stays open behind the request: a request to close is
never overruled, and only in version 1.0 does the connection have to be kept on
request. -/
def persists (request : Request) : Bool :=
  !request.headers.any Header.asksToClose &&
    (request.version != .http10 || request.headers.any Header.asksToKeep)

/-- Without a `Connection` field the version alone decides. -/
theorem persists_of_lacks {request : Request} (lacks : request.Lacks "connection") :
    request.persists = (request.version != .http10) := by
  have noClose : request.headers.any Header.asksToClose = false := by
    rw [List.any_eq_false]
    intro header member
    rw [Header.asksToClose, lacks header member, Bool.false_and]
    exact Bool.false_ne_true
  have noKeep : request.headers.any Header.asksToKeep = false := by
    rw [List.any_eq_false]
    intro header member
    rw [Header.asksToKeep, lacks header member, Bool.false_and]
    exact Bool.false_ne_true
  rw [persists, noClose, noKeep, Bool.or_false, Bool.not_false, Bool.true_and]

end Request

/-- Whether a header says something about the body. -/
def Header.frames (header : Header) : Bool :=
  header.isNamed (Bytes.ofText "transfer-encoding") ||
    header.isNamed (Bytes.ofText "content-length")

/-- A header that says something about the body asks nothing of the connection. -/
theorem Header.asksNothing_of_frames {header : Header} (frames : header.frames = true) :
    header.asksToClose = false ∧ header.asksToKeep = false := by
  have unnamed : header.isNamed (Bytes.ofText "connection") = false := by
    rw [Header.frames, Bool.or_eq_true] at frames
    rcases frames with named | named
    all_goals
      rw [Header.isNamed, Bytes.sameLetters, beq_iff_eq] at named
      rw [Header.isNamed, Bytes.sameLetters, named]
      decide
  simp only [Header.asksToClose, Header.asksToKeep, unnamed, Bool.false_and, and_self]

namespace Wire.Framing

/-- Headers that say nothing about the body only ask to close or to keep the
connection. -/
theorem foldlM_next_headers (version : Version) {headers : List Header}
    (unframed : ∀ header ∈ headers, header.frames = false) (scan : Scan) :
    (headers.map (·.trimmed.field)).foldlM (Scan.next version) scan = .ok { scan with
      close := scan.close || headers.any Header.asksToClose
      keep := scan.keep || headers.any Header.asksToKeep } := by
  induction headers generalizing scan with
  | nil => simp only [List.map_nil, List.foldlM_nil, List.any_nil, Bool.or_false]; rfl
  | cons header headers ih =>
      obtain ⟨coding, length⟩ := Bool.or_eq_false_iff.mp (unframed header List.mem_cons_self)
      have next : Scan.next version scan header.trimmed.field = .ok { scan with
          close := scan.close || header.asksToClose
          keep := scan.keep || header.asksToKeep } := by
        rw [Header.isNamed] at coding length
        simp only [Scan.next, Header.field, Header.trimmed, coding, length, Bool.false_eq_true,
          ↓reduceIte, Header.asksToClose, Header.asksToKeep, Header.isNamed]
        by_cases named : header.name.sameLetters (Bytes.ofText "connection") = true
        · simp only [named, ↓reduceIte, Bool.true_and]
        · simp only [named, Bool.false_eq_true, ↓reduceIte, Bool.false_and, Bool.or_false]
      have rest := ih (fun other member => unframed other (List.mem_cons_of_mem header member))
        { scan with
          close := scan.close || header.asksToClose
          keep := scan.keep || header.asksToKeep }
      rw [List.map_cons, List.foldlM_cons, next]
      refine Eq.trans rest ?_
      simp only [List.any_cons, Bool.or_assoc]

/-- Where one header alone says something about the body, that is what is known of
the body in the end, beside what the other headers ask of the connection. -/
theorem foldlM_next_framed {version : Version} {headers : List Header} {header : Header}
    {chunked : Option Bool} {length : Option Nat} {hasLength : Bool}
    (once : headers.filter Header.frames = [header])
    (next : ∀ close keep, Scan.next version ⟨none, none, false, close, keep⟩ header.trimmed.field =
      .ok ⟨chunked, length, hasLength, close, keep⟩) :
    (headers.map (·.trimmed.field)).foldlM (Scan.next version) .start =
      .ok ⟨chunked, length, hasLength, headers.any Header.asksToClose,
        headers.any Header.asksToKeep⟩ := by
  obtain ⟨before, after, listed, noneBefore, frames, noneAfter⟩ :=
    List.filter_eq_cons_iff.mp once
  rw [List.filter_eq_nil_iff] at noneAfter
  obtain ⟨noClose, noKeep⟩ := Header.asksNothing_of_frames frames
  have first := foldlM_next_headers version
    (fun other member => Bool.eq_false_iff.mpr (noneBefore other member)) .start
  have rest := foldlM_next_headers version
    (fun other member => Bool.eq_false_iff.mpr (noneAfter other member))
    ⟨chunked, length, hasLength, before.any Header.asksToClose, before.any Header.asksToKeep⟩
  rw [listed, List.map_append, List.map_cons, List.foldlM_append, first, ok_bind, List.foldlM_cons]
  simp only [Scan.start, Bool.false_or, next, ok_bind]
  rw [rest]
  simp only [List.any_append, List.any_cons, noClose, noKeep, Bool.false_or]

/-- A content length is taken down where nothing else is known of the body. -/
theorem next_contentLength {version : Version} {header : Header} {length : Nat}
    (notCoding : header.isNamed (Bytes.ofText "transfer-encoding") = false)
    (named : header.isNamed (Bytes.ofText "content-length") = true)
    (written : header.value.trim.WritesDecimal length) (fits : length ≤ maxLength)
    (close keep : Bool) :
    Scan.next version ⟨none, none, false, close, keep⟩ header.trimmed.field =
      .ok ⟨none, some length, true, close, keep⟩ := by
  rw [Header.isNamed] at notCoding named
  have number := Bytes.number?_of_writesDecimal written
    (Nat.lt_of_le_of_lt fits (by decide : maxLength < lengthLimit))
  simp only [Scan.next, Header.field, Header.trimmed, notCoding, named, Bool.false_eq_true,
    ↓reduceIte, Scan.withLength, Option.isSome_none, number]
  exact if_neg (Nat.not_lt.mpr fits)

/-- The fields in the head are those of the request, without the blanks around their values. -/
theorem head_fields (request : Request) :
    request.head.fields = request.headers.map (·.trimmed.field) := by
  simp only [Request.head, Request.offWire, List.map_map]
  rfl

/-- A request that says how long its body is tells the server this length, and with it whether
to keep the connection. -/
theorem ofFields_head {request : Request} (sized : request.Sized)
    (fits : request.body.length ≤ maxLength) :
    ofFields request.version request.head.fields =
      .ok ⟨.sized request.body.length, request.persists⟩ := by
  obtain ⟨noCoding, length⟩ := sized
  rw [ofFields, head_fields]
  rcases length with ⟨noLength, empty⟩ | ⟨header, once, written⟩
  · have unframed : ∀ header ∈ request.headers, header.frames = false :=
      fun header member => Bool.or_eq_false_iff.mpr ⟨noCoding header member, noLength header member⟩
    rw [foldlM_next_headers request.version unframed, empty]
    simp only [Scan.start, Bool.false_or]
    rfl
  · have listed : header ∈ request.headers.filter (·.isNamed (Bytes.ofText "content-length")) := by
      rw [once]
      exact List.mem_singleton_self header
    obtain ⟨member, named⟩ := List.mem_filter.mp listed
    have framedOnce : request.headers.filter Header.frames = [header] := by
      rw [← once]
      refine List.filter_congr fun other among => ?_
      rw [Header.frames, noCoding other among, Bool.false_or]
    rw [foldlM_next_framed framedOnce
      (next_contentLength (noCoding header member) named written fits)]
    rfl

end Wire.Framing

namespace Wire.Head

/-- Each field of a head passes as the header it was written from. -/
theorem mapM_ofBytes_field {headers : List Header}
    (short : ∀ header ∈ headers, header.name.length ≤ Header.maxNameLength) :
    (headers.map Header.field).mapM (fun field => Header.ofBytes field.name field.value) =
      .ok headers := by
  induction headers with
  | nil => rfl
  | cons header headers ih =>
      have first : Header.ofBytes header.field.name header.field.value = .ok header :=
        Header.ofBytes_self (short header (by simp))
      rw [List.map_cons, List.mapM_cons, first, ok_bind,
        ih fun header member => short header (by simp [member]), ok_bind]
      rfl

/-- A head that can be read and is not too large is accepted as the router gets it,
if its fields make sense of the body. -/
theorem accept_head_of_framing {request : Request} {framing : Framing}
    (readable : request.Readable) (fits : request.HeadFits)
    (framed : Framing.ofFields request.version request.head.fields = .ok framing) :
    request.head.accept = .ok (request.offWire, framing) := by
  have short : ∀ header ∈ request.offWire.headers,
      header.name.length ≤ Header.maxNameLength := by
    intro header member
    obtain ⟨sent, listed, rfl⟩ := List.mem_map.mp member
    exact fits.names sent listed
  have headers : (request.head.fields.mapM fun field => Header.ofBytes field.name field.value) =
      .ok request.offWire.headers := mapM_ofBytes_field short
  have target : Uri.ofBytes request.head.target = .ok request.uri :=
    Uri.ofBytes_render readable.target fits.target
  have notLong : ¬ maxTarget < request.head.target.length := Nat.not_lt.mpr fits.target
  have framing : Framing.ofFields request.head.version request.head.fields = .ok framing := framed
  simp only [accept, notLong, ↓reduceIte, headers, target, framing]
  rfl

/-- **Well-formed requests are accepted** as the router gets them, with the
length of their body and the decision about the connection. -/
theorem accept_head {request : Request} (formed : request.WellFormed) :
    request.head.accept =
      .ok (request.offWire, ⟨.sized request.body.length, request.persists⟩) :=
  accept_head_of_framing formed.toReadable formed.limits.headFits
    (Framing.ofFields_head formed.sized formed.limits.body)

end Wire.Head

end Greeter
