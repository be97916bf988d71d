import Greeter.Proofs.Separators
import Greeter.Wire.Framing
import Mathlib.Data.List.Basic

/-! # Requests as clients write them

`Request.headText` is the head of a request on the wire: the request line, one
line for each header, and an empty line. Reading it back gives the parts of the
request, with the blanks around each value gone, and whatever stands behind the
head as the rest (`Wire.Head.read_headText`).
-/

namespace Greeter

namespace ByteClass

/-- Each interval of the first class lies within one of the second. -/
def within (small large : ByteClass) : Bool :=
  small.all fun inner => large.any fun outer => outer.1 ≤ inner.1 && inner.2 ≤ outer.2

/-- A byte of a class is one of any larger class. -/
theorem has_of_within {small large : ByteClass} (inside : small.within large = true)
    {byte : UInt8} (member : small.has byte = true) : large.has byte = true := by
  simp only [within, has, List.all_eq_true, List.any_eq_true, Bool.and_eq_true,
    decide_eq_true_eq] at inside member ⊢
  obtain ⟨inner, listed, least, most⟩ := member
  obtain ⟨outer, around, below, above⟩ := inside inner listed
  exact ⟨outer, around, UInt8.le_trans below least, UInt8.le_trans most above⟩

theorem all_of_within {small large : ByteClass} (inside : small.within large = true)
    {text : Bytes} (members : text.all small.has = true) : text.all large.has = true := by
  rw [List.all_eq_true] at members ⊢
  exact fun byte member => has_of_within inside (members byte member)

/-- A byte outside a class is not met in a row of bytes of the class. -/
theorem notMem_of_all {keep : ByteClass} {text : Bytes} (members : text.all keep.has = true)
    {byte : UInt8} (other : keep.has byte = false) : byte ∉ text := by
  intro member
  rw [List.all_eq_true.mp members byte member] at other
  cases other

/-- A row of bytes of a class is taken off what follows it. -/
theorem span_append_cons {keep : ByteClass} {text : Bytes} (members : text.all keep.has = true)
    {byte : UInt8} (other : keep.has byte = false) (rest : Bytes) :
    (text ++ byte :: rest).takeWhile keep.has = text ∧
      (text ++ byte :: rest).dropWhile keep.has = byte :: rest := by
  apply span_eq_iff.mpr
  refine ⟨rfl, members, ?_⟩
  rintro _ ⟨⟩
  exact other

end ByteClass

namespace Bytes

/-- What holds of the bytes of all codes holds of every byte. -/
theorem forall_byte {holds : UInt8 → Prop} (codes : ∀ code < 256, holds (UInt8.ofNat code))
    (byte : UInt8) : holds byte := by
  have own := codes byte.toNat byte.toNat_lt
  rwa [UInt8.ofNat_toNat] at own

theorem trim_subset (text : Bytes) : text.trim ⊆ text := by
  intro byte member
  rw [trim, List.mem_reverse] at member
  have kept := (List.dropWhile_sublist _).subset member
  rw [List.mem_reverse] at kept
  exact (List.dropWhile_sublist _).subset kept

theorem all_trim {text : Bytes} {keep : UInt8 → Bool} (members : text.all keep = true) :
    text.trim.all keep = true := by
  rw [List.all_eq_true] at members ⊢
  exact fun byte member => members byte (trim_subset text member)

theorem length_of_sameLetters {first second : Bytes} (same : first.sameLetters second = true) :
    first.length = second.length := by
  rw [sameLetters, beq_iff_eq] at same
  simpa only [List.length_map] using congrArg List.length same

/-- The space before a value is trimmed with the blanks of the value. -/
theorem trim_cons_space (text : Bytes) : trim (space :: text) = trim text := by
  rw [trim, List.dropWhile_cons_of_pos (by decide), trim]

end Bytes

theorem Method.ofBytes?_token (method : Method) : Method.ofBytes? method.token = some method := by
  rw [Method.ofBytes?, dif_pos ⟨method.nonempty, method.isToken⟩]

/-- The header as it comes off the wire: without the blanks around its value. -/
def Header.trimmed (header : Header) : Header where
  name := header.name
  value := header.value.trim
  nonempty := header.nonempty
  isToken := header.isToken
  isFieldText := Bytes.all_trim header.isFieldText

/-- The header as a line of a head. -/
def Header.field (header : Header) : Wire.Field := ⟨header.name, header.value⟩

namespace Request

/-- The head of a request as a client writes it. -/
def headText (request : Request) : Bytes :=
  request.method.token ++ [Bytes.space] ++ request.uri.render ++ [Bytes.space] ++
    Bytes.ofText request.version.text ++ Bytes.lineEnd ++
    request.headers.flatMap (fun header => Wire.Reply.line header.name header.value) ++
    Bytes.lineEnd

/-- A request as a client writes it: the head, and the body behind it. -/
def text (request : Request) : Bytes := request.headText ++ request.body

/-- The request as it comes off the wire. The body stays unread. -/
def offWire (request : Request) : Request :=
  { request with headers := request.headers.map Header.trimmed, body := [] }

/-- The head that is read off the wire. -/
def head (request : Request) : Wire.Head where
  method := request.method
  target := request.uri.render
  version := request.version
  fields := request.offWire.headers.map Header.field

end Request

namespace Wire.Head

theorem readMethod_token (method : Method) (rest : Bytes) :
    readMethod (method.token ++ Bytes.space :: rest) = .complete method rest := by
  obtain ⟨taken, dropped⟩ := ByteClass.span_append_cons method.isToken
    (by decide : ByteClass.token.has Bytes.space = false) rest
  simp only [readMethod, dropped, taken, ↓reduceIte, Method.ofBytes?_token]

/-- A target is read up to the space behind it. -/
theorem readTarget_append {target : Bytes} (nonempty : target ≠ [])
    (members : target.all ByteClass.target.has = true) (rest : Bytes) :
    readTarget (target ++ Bytes.space :: rest) = .complete target rest := by
  obtain ⟨taken, dropped⟩ := ByteClass.span_append_cons members
    (by decide : ByteClass.target.has Bytes.space = false) rest
  simp only [readTarget, dropped, taken, nonempty, ne_eq, not_false_eq_true, and_self, ↓reduceIte]

/-- A version of the protocol is read where it stands. -/
theorem readVersion_text {version : Version} (spoken : version = .http10 ∨ version = .http11)
    (rest : Bytes) :
    readVersion (Bytes.ofText version.text ++ rest) = .complete version rest := by
  have long : (Bytes.ofText version.text).length = 8 := by rcases spoken with rfl | rfl <;> decide
  have found : (Bytes.ofText version.text ++ rest).take 8 = Bytes.ofText version.text :=
    List.take_left' long
  have behind : (Bytes.ofText version.text ++ rest).drop 8 = rest := List.drop_left' long
  rw [readVersion, found, behind, if_neg (by omega)]
  rcases spoken with rfl | rfl
  · exact if_pos rfl
  · exact (if_neg (by decide)).trans (if_pos rfl)

/-- A token does not start like the end of a line. -/
theorem ne_lineEnd_of_token {byte : UInt8} (member : ByteClass.token.has byte = true) :
    byte ≠ Bytes.cr ∧ byte ≠ Bytes.lf := by
  constructor
  · rintro rfl
    exact absurd member (by decide)
  · rintro rfl
    exact absurd member (by decide)

/-- No line end stands in front of a token. -/
theorem skipLineEnds_token {token : Bytes} (nonempty : token ≠ [])
    (members : token.all ByteClass.token.has = true) (rest : Bytes) :
    skipLineEnds (token ++ rest) = .complete () (token ++ rest) := by
  cases token with
  | nil => exact absurd rfl nonempty
  | cons first others =>
      obtain ⟨notReturn, notFeed⟩ :=
        ne_lineEnd_of_token (List.all_eq_true.mp members first (by simp))
      rw [List.cons_append, skipLineEnds.eq_def]
      exact (if_neg notFeed).trans (if_neg notReturn)

/-- The line of a header is read as the header without blanks around its value. -/
theorem readField_line (header : Header) (rest : Bytes) :
    readField (Reply.line header.name header.value ++ rest) =
      .complete header.trimmed.field rest := by
  have written : Reply.line header.name header.value ++ rest = header.name ++
      colon :: ((Bytes.space :: header.value) ++ Bytes.cr :: Bytes.lf :: rest) := by
    simp only [Reply.line, List.append_assoc]
    rfl
  have isFieldText : (Bytes.space :: header.value).all ByteClass.fieldText.has = true := by
    rw [List.all_cons, header.isFieldText]
    decide
  obtain ⟨nameTaken, nameDropped⟩ := ByteClass.span_append_cons header.isToken
    (by decide : ByteClass.token.has colon = false)
    ((Bytes.space :: header.value) ++ Bytes.cr :: Bytes.lf :: rest)
  obtain ⟨valueTaken, valueDropped⟩ := ByteClass.span_append_cons isFieldText
    (by decide : ByteClass.fieldText.has Bytes.cr = false) (Bytes.lf :: rest)
  rw [written]
  simp only [readField, nameDropped, nameTaken, valueDropped, valueTaken, header.nonempty,
    ne_eq, not_false_eq_true, and_self, ↓reduceIte, Bytes.trim_cons_space]
  rfl

/-- A header is not taken for the end of the head. -/
theorem readFieldOrEnd_line (header : Header) (rest : Bytes) :
    readFieldOrEnd (Reply.line header.name header.value ++ rest) =
      .complete (some header.trimmed.field) rest := by
  have read := readField_line header rest
  obtain ⟨first, others, named⟩ := List.exists_cons_of_ne_nil header.nonempty
  obtain ⟨notReturn, notFeed⟩ := ne_lineEnd_of_token
    (List.all_eq_true.mp header.isToken first (by simp [named]))
  have starts : Reply.line header.name header.value ++ rest =
      first :: (others ++ (Bytes.ofText ": " ++ header.value ++ Bytes.lineEnd ++ rest)) := by
    simp only [Reply.line, named, List.append_assoc, List.cons_append]
  rw [starts] at read ⊢
  simp only [readFieldOrEnd, notReturn, notFeed, or_self, ↓reduceIte, read]
  rfl

/-- Header lines are read up to the empty line, if there is room for all of them. -/
theorem readFields_lines {headers : List Header} {room : Nat} (fits : headers.length ≤ room)
    (rest : Bytes) :
    readFields room (headers.flatMap (fun header => Reply.line header.name header.value) ++
        (Bytes.lineEnd ++ rest)) =
      .complete (headers.map (·.trimmed.field)) rest := by
  induction headers generalizing room with
  | nil => cases room <;> rfl
  | cons header headers ih =>
      cases room with
      | zero => exact absurd fits (Nat.not_succ_le_zero _)
      | succ room =>
          rw [List.flatMap_cons, List.append_assoc, readFields, readFieldOrEnd_line]
          simp only [Progress.andThen]
          rw [ih (Nat.le_of_succ_le_succ fits)]
          rfl

/-- A head has no more than the greatest number of fields. -/
theorem readFields_of_many {headers : List Header} {room : Nat} (many : room < headers.length)
    (rest : Bytes) :
    readFields room (headers.flatMap (fun header => Reply.line header.name header.value) ++ rest) =
      .refused .headersTooLarge := by
  induction headers generalizing room with
  | nil => exact absurd many (Nat.not_lt_zero room)
  | cons header headers ih =>
      cases room with
      | zero =>
          rw [List.flatMap_cons, List.append_assoc, readFields, readFieldOrEnd_line]
          rfl
      | succ room =>
          rw [List.flatMap_cons, List.append_assoc, readFields, readFieldOrEnd_line]
          simp only [Progress.andThen]
          rw [ih (Nat.lt_of_succ_lt_succ many)]
          rfl

/-- The request line is read as it was written, and the fields behind it. -/
theorem read_requestLine {request : Request} (nonempty : request.uri.render ≠ [])
    (members : request.uri.render.all ByteClass.target.has = true)
    (spoken : request.version = .http10 ∨ request.version = .http11) (rest : Bytes) :
    read (request.headText ++ rest) =
      (readFields maxFields (request.headers.flatMap
        (fun header => Reply.line header.name header.value) ++ (Bytes.lineEnd ++ rest))).map
          fun fields => ⟨request.method, request.uri.render, request.version, fields⟩ := by
  have written : request.headText ++ rest = request.method.token ++ Bytes.space ::
      (request.uri.render ++ Bytes.space :: (Bytes.ofText request.version.text ++
        (Bytes.lineEnd ++ (request.headers.flatMap
          (fun header => Reply.line header.name header.value) ++ (Bytes.lineEnd ++ rest))))) := by
    simp only [Request.headText, List.append_assoc, List.cons_append, List.nil_append]
  have lineEnded (behind : Bytes) : readLineEnd (Bytes.lineEnd ++ behind) = .complete () behind :=
    rfl
  rw [written, read, skipLineEnds_token request.method.nonempty request.method.isToken]
  simp only [Progress.andThen, readMethod_token]
  rw [readAfterMethod, readTarget_append nonempty members]
  simp only [Progress.andThen, readVersion_text spoken, lineEnded]

/-- **Heads are read as they were written.** What is read is the head of the
request without the blanks around its values, and the rest is what stands
behind it. -/
theorem read_headText {request : Request} (nonempty : request.uri.render ≠ [])
    (members : request.uri.render.all ByteClass.target.has = true)
    (spoken : request.version = .http10 ∨ request.version = .http11)
    (few : request.headers.length ≤ maxFields) (rest : Bytes) :
    read (request.headText ++ rest) = .complete request.head rest := by
  rw [read_requestLine nonempty members spoken, readFields_lines few]
  simp only [Progress.map, Progress.andThen, Request.head, Request.offWire, List.map_map]
  rfl

/-- A head with too many fields is refused, whatever stands behind it. -/
theorem read_headText_of_many {request : Request} (nonempty : request.uri.render ≠ [])
    (members : request.uri.render.all ByteClass.target.has = true)
    (spoken : request.version = .http10 ∨ request.version = .http11)
    (many : maxFields < request.headers.length) (rest : Bytes) :
    read (request.headText ++ rest) = .refused .headersTooLarge := by
  rw [read_requestLine nonempty members spoken, readFields_of_many many]
  rfl

end Wire.Head

namespace Request

theorem length_of_isNamed {header : Header} {name : Bytes} (named : header.isNamed name = true) :
    header.name.length = name.length := Bytes.length_of_sameLetters named

/-- Behind the name of a header, its line takes four bytes without the value, and the
rest of the head takes fourteen bytes at least. -/
theorem length_headText_of_header {request : Request} {header : Header}
    (member : header ∈ request.headers) :
    header.name.length + 18 ≤ request.headText.length := by
  obtain ⟨before, behind, split⟩ := List.append_of_mem member
  have version : 8 ≤ (Bytes.ofText request.version.text).length := by
    cases request.version <;> decide
  have lineEnd : Bytes.lineEnd.length = 2 := rfl
  have separator : (Bytes.ofText ": ").length = 2 := by decide
  rw [headText, split, List.flatMap_append, List.flatMap_cons, Wire.Reply.line]
  simp only [List.length_append, List.length_singleton]
  omega

end Request

end Greeter
