import Greeter.Wire.Progress

/-! # Heads of requests

The head of a request is a line with method, target and version, then one line
for each header field, then an empty line. Lines end with a line feed, which a
carriage return may precede; empty lines before the head are skipped. `Head.read`
takes one head from the start of a buffer.
-/

namespace Greeter.Wire

/-- The colon behind the name of a field. -/
abbrev colon : UInt8 := 0x3a

/-- A header field as it was sent, without the blanks around its value. -/
structure Field where
  name : Bytes
  value : Bytes
  deriving DecidableEq, Repr

/-- The head of a request as it was sent. -/
structure Head where
  method : Method
  target : Bytes
  version : Version
  fields : List Field
  deriving DecidableEq, Repr

namespace Head

/-- The most header fields a head may have. -/
def maxFields : Nat := 100

/-- Skips the ends of empty lines. Something has to follow them. -/
def skipLineEnds : Bytes → Progress Unit
  | [] => .incomplete
  | first :: rest =>
    if first = Bytes.lf then skipLineEnds rest
    else if first = Bytes.cr then
      match rest with
      | [] => .incomplete
      | second :: rest =>
        if second = Bytes.lf then skipLineEnds rest else .refused .badRequest
    else .complete () (first :: rest)

/-- Reads the end of a line. -/
def readLineEnd : Bytes → Progress Unit
  | [] => .incomplete
  | first :: rest =>
    if first = Bytes.lf then .complete () rest
    else if first = Bytes.cr then
      match rest with
      | [] => .incomplete
      | second :: rest =>
        if second = Bytes.lf then .complete () rest else .refused .badRequest
    else .refused .badRequest

/-- Reads a method and the single space behind it. -/
def readMethod (text : Bytes) : Progress Method :=
  match text.dropWhile ByteClass.token.has with
  | [] => .incomplete
  | byte :: rest =>
    if byte = Bytes.space then
      match Method.ofBytes? (text.takeWhile ByteClass.token.has) with
      | some method => .complete method rest
      | none => .refused .badRequest
    else .refused .badRequest

/-- Reads a target and the single space behind it. -/
def readTarget (text : Bytes) : Progress Bytes :=
  match text.dropWhile ByteClass.target.has with
  | [] => .incomplete
  | byte :: rest =>
    let target := text.takeWhile ByteClass.target.has
    if byte = Bytes.space ∧ target ≠ [] then .complete target rest
    else .refused .badRequest

/-- Reads a version: 1.0 or 1.1, written in eight bytes. Fewer bytes are refused
as soon as they cannot become one of the two. -/
def readVersion (text : Bytes) : Progress Version :=
  let found := text.take 8
  if found.length < 8 then
    if found.isPrefixOf (Bytes.ofText "HTTP/1.") then .incomplete else .refused .badRequest
  else if found = Bytes.ofText Version.http10.text then .complete .http10 (text.drop 8)
  else if found = Bytes.ofText Version.http11.text then .complete .http11 (text.drop 8)
  else .refused .badRequest

/-- Reads the line of a field: a token, the colon right behind it, and a value up
to the end of the line. -/
def readField (text : Bytes) : Progress Field :=
  match text.dropWhile ByteClass.token.has with
  | [] => .incomplete
  | byte :: rest =>
    let name := text.takeWhile ByteClass.token.has
    if name ≠ [] ∧ byte = colon then
      (readLineEnd (rest.dropWhile ByteClass.fieldText.has)).map fun _ =>
        ⟨name, Bytes.trim (rest.takeWhile ByteClass.fieldText.has)⟩
    else .refused .badRequest

/-- Reads the line of a field, or the empty line behind the last one. -/
def readFieldOrEnd (text : Bytes) : Progress (Option Field) :=
  match text with
  | [] => .incomplete
  | first :: _ =>
    if first = Bytes.cr ∨ first = Bytes.lf then (readLineEnd text).map fun _ => none
    else (readField text).map some

/-- Reads the fields up to and with the empty line, as long as there is room for
them. -/
def readFields : (room : Nat) → Bytes → Progress (List Field)
  | 0, text =>
    (readFieldOrEnd text).andThen fun found rest =>
      match found with
      | none => .complete [] rest
      | some _ => .refused .headersTooLarge
  | room + 1, text =>
    (readFieldOrEnd text).andThen fun found rest =>
      match found with
      | none => .complete [] rest
      | some field => (readFields room rest).map (field :: ·)

/-- Reads what follows the method. -/
def readAfterMethod (method : Method) (text : Bytes) : Progress Head :=
  (readTarget text).andThen fun target rest =>
    (readVersion rest).andThen fun version rest =>
      (readLineEnd rest).andThen fun _ rest =>
        (readFields maxFields rest).map fun fields => ⟨method, target, version, fields⟩

/-- Reads one head. -/
def read (text : Bytes) : Progress Head :=
  (skipLineEnds text).andThen fun _ rest =>
    (readMethod rest).andThen readAfterMethod

/-- Empty lines come off the front. -/
theorem skipLineEnds_shrinks (text : Bytes) : (skipLineEnds text).Shrinks text := by
  fun_induction skipLineEnds text with
  | case1 => exact .incomplete _
  | case2 rest ih => exact ih.mono (List.suffix_cons _ _)
  | case3 => exact .incomplete _
  | case4 _ rest ih => exact (ih.mono (List.suffix_cons _ _)).mono (List.suffix_cons _ _)
  | case5 => exact .refused _ _
  | case6 => exact .complete (List.suffix_refl _)

/-- So does the end of a line, in either spelling. -/
theorem readLineEnd_shrinks (text : Bytes) : (readLineEnd text).Shrinks text := by
  fun_cases readLineEnd text with
  | case1 => exact .incomplete _
  | case2 rest => exact .complete (List.suffix_cons _ _)
  | case3 => exact .incomplete _
  | case4 _ rest => exact .complete ((List.suffix_cons _ _).trans (List.suffix_cons _ _))
  | case5 => exact .refused _ _
  | case6 => exact .refused _ _

/-- What follows the first byte that a reader stops at is an end of the text. -/
theorem rest_suffix_of_dropWhile {text rest : Bytes} {byte : UInt8} {keep : UInt8 → Bool}
    (dropped : text.dropWhile keep = byte :: rest) : rest <:+ text :=
  (List.suffix_cons byte rest).trans (dropped ▸ List.dropWhile_suffix keep)

/-- A target comes off the front, with the space behind it. -/
theorem readTarget_shrinks (text : Bytes) : (readTarget text).Shrinks text := by
  unfold readTarget
  split
  · exact .incomplete _
  · next dropped =>
    dsimp only
    split
    · exact .complete (rest_suffix_of_dropWhile dropped)
    · exact .refused _ _

/-- A version comes off the front; it is eight bytes long. -/
theorem readVersion_shrinks (text : Bytes) : (readVersion text).Shrinks text := by
  unfold readVersion
  dsimp only
  split
  · split
    · exact .incomplete _
    · exact .refused _ _
  · split
    · exact .complete (List.drop_suffix _ _)
    · split
      · exact .complete (List.drop_suffix _ _)
      · exact .refused _ _

/-- A field comes off the front, with the end of its line. -/
theorem readField_shrinks (text : Bytes) : (readField text).Shrinks text := by
  unfold readField
  split
  · exact .incomplete _
  · next dropped =>
    dsimp only
    split
    · exact ((readLineEnd_shrinks _).map.mono (List.dropWhile_suffix _)).mono
        (rest_suffix_of_dropWhile dropped)
    · exact .refused _ _

/-- So does the line at which the fields end. -/
theorem readFieldOrEnd_shrinks (text : Bytes) : (readFieldOrEnd text).Shrinks text := by
  unfold readFieldOrEnd
  split
  · exact .incomplete _
  · split
    · exact (readLineEnd_shrinks _).map
    · exact (readField_shrinks _).map

/-- Reading fields on and on never leads back to bytes that have been read. -/
theorem readFields_shrinks (room : Nat) (text : Bytes) : (readFields room text).Shrinks text := by
  induction room generalizing text with
  | zero =>
    refine (readFieldOrEnd_shrinks text).andThen fun found rest => ?_
    cases found with
    | none => exact .complete (List.suffix_refl _)
    | some _ => exact .refused _ _
  | succ room ih =>
    refine (readFieldOrEnd_shrinks text).andThen fun found rest => ?_
    cases found with
    | none => exact .complete (List.suffix_refl _)
    | some _ => exact (ih rest).map

/-- All that follows the method comes off the front, part by part. -/
theorem readAfterMethod_shrinks (method : Method) (text : Bytes) :
    (readAfterMethod method text).Shrinks text :=
  (readTarget_shrinks text).andThen fun _ rest => (readVersion_shrinks rest).andThen fun _ rest =>
    (readLineEnd_shrinks rest).andThen fun _ rest => (readFields_shrinks maxFields rest).map

/-- A method takes a byte at least. -/
theorem readMethod_rest_length_lt {text rest : Bytes} {method : Method}
    (found : readMethod text = .complete method rest) : rest.length < text.length := by
  unfold readMethod at found
  split at found
  · cases found
  · next byte behind dropped =>
    split at found
    · split at found
      · cases found
        have suffix : (byte :: rest) <:+ text := dropped ▸ List.dropWhile_suffix _
        exact Nat.lt_of_succ_le suffix.length_le
      · cases found
    · cases found

/-- A head takes a byte at least. -/
theorem read_rest_length_lt {text rest : Bytes} {head : Head}
    (found : read text = .complete head rest) : rest.length < text.length := by
  unfold read at found
  cases skipped : skipLineEnds text with
  | incomplete => simp [skipped, Progress.andThen] at found
  | refused reason => simp [skipped, Progress.andThen] at found
  | complete _ behind =>
    simp only [skipped, Progress.andThen] at found
    cases named : readMethod behind with
    | incomplete => simp [named] at found
    | refused reason => simp [named] at found
    | complete method after =>
      simp only [named] at found
      have first := (skipLineEnds_shrinks text _ _ skipped).length_le
      have second := readMethod_rest_length_lt named
      have third := (readAfterMethod_shrinks method after _ _ found).length_le
      omega

end Head

end Greeter.Wire
