import Greeter.Wire.Framing

/-! # Bodies

The handler leaves the body of a request unread. The server takes it off the
buffer, so that the next request is found behind it, but only if all of it is
there already: of a body in chunks no more than one chunk of data, and the empty
chunk that ends it. `BodyLength.skip?` gives what follows such a body.
-/

namespace Greeter.Wire

namespace Chunk

/-- Chunk sizes from here on do not fit into 64 bits. -/
def sizeLimit : Nat := UInt64.size

/-- The mark before the extension of a chunk. -/
abbrev semicolon : UInt8 := 0x3b

/-- Skips the extension of a chunk, if there is one. -/
def skipExtension (text : Bytes) : Bytes :=
  match text with
  | [] => []
  | first :: rest =>
    if first = semicolon then rest.dropWhile fun byte => byte != Bytes.cr && byte != Bytes.lf
    else text

/-- Takes the end of a line off the buffer. -/
def skipLineEnd? (text : Bytes) : Option Bytes :=
  if text.take 2 = Bytes.lineEnd then some (text.drop 2) else none

/-- Reads the size of a chunk, in hexadecimal digits on a line of its own. -/
def readSize? (text : Bytes) : Option (Nat × Bytes) := do
  let size ← Bytes.number? 16 sizeLimit (text.takeWhile ByteClass.hexDigit.has)
  let behind := (text.dropWhile ByteClass.hexDigit.has).dropWhile ByteClass.blank.has
  let rest ← skipLineEnd? (skipExtension behind)
  return (size, rest)

/-- Cuts a text behind its first empty line. `seen` is what stands before the
text, backwards. -/
def cutAtEmptyLine? (seen : Bytes) : Bytes → Option (Bytes × Bytes)
  | [] => none
  | first :: rest =>
    let seen := first :: seen
    if seen.take 4 = [Bytes.lf, Bytes.cr, Bytes.lf, Bytes.cr] then some (seen.reverse, rest)
    else cutAtEmptyLine? seen rest

/-- Skips what follows the empty chunk: the end of the body, before which there
may be header fields. -/
def skipTrailer? (text : Bytes) : Option Bytes :=
  match skipLineEnd? text with
  | some rest => some rest
  | none => do
    let (trailer, rest) ← cutAtEmptyLine? [] text
    match Head.readFields Head.maxFields trailer with
    | .complete _ _ => some rest
    | _ => none

/-- Skips a body in chunks, of which the first may hold data. -/
def skipAll? (text : Bytes) : Option Bytes := do
  let (size, data) ← readSize? text
  if size = 0 then skipTrailer? data
  else if data.length < size then none
  else
    let behind ← skipLineEnd? (data.drop size)
    let (last, rest) ← readSize? behind
    if last = 0 then skipTrailer? rest else none

end Chunk

/-- What follows a body, if all of the body is in the buffer. -/
def BodyLength.skip? : BodyLength → Bytes → Option Bytes
  | sized length, text => if text.length < length then none else some (text.drop length)
  | chunked, text => Chunk.skipAll? text

namespace Chunk

/-- The end of a line is taken off the front of the buffer. -/
theorem skipLineEnd?_suffix {text rest : Bytes} (found : skipLineEnd? text = some rest) :
    rest <:+ text := by
  unfold skipLineEnd? at found
  split at found
  · cases found
    exact List.drop_suffix _ _
  · cases found

/-- What follows an extension is an end of what the extension stands in. -/
theorem skipExtension_suffix (text : Bytes) : skipExtension text <:+ text := by
  fun_cases skipExtension text with
  | case1 => exact List.suffix_refl _
  | case2 rest => exact (List.dropWhile_suffix _).trans (List.suffix_cons _ _)
  | case3 => exact List.suffix_refl _

/-- What follows the size of a chunk is an end of the text that the size starts. -/
theorem readSize?_suffix {text rest : Bytes} {size : Nat}
    (found : readSize? text = some (size, rest)) : rest <:+ text := by
  simp only [readSize?, Option.bind_eq_bind, Option.bind_eq_some_iff, Option.pure_def,
    Option.some.injEq, Prod.mk.injEq] at found
  obtain ⟨_, _, behind, skipped, _, rfl⟩ := found
  exact ((skipLineEnd?_suffix skipped).trans (skipExtension_suffix _)).trans
    ((List.dropWhile_suffix _).trans (List.dropWhile_suffix _))

/-- What follows the first empty line is an end of the text, whatever has been seen before it. -/
theorem cutAtEmptyLine?_suffix {seen text cut rest : Bytes}
    (found : cutAtEmptyLine? seen text = some (cut, rest)) : rest <:+ text := by
  induction text generalizing seen with
  | nil => cases found
  | cons first behind ih =>
    simp only [cutAtEmptyLine?] at found
    split at found
    · cases found
      exact List.suffix_cons _ _
    · exact (ih found).trans (List.suffix_cons _ _)

/-- The fields behind the last chunk come off the front of the buffer, with the line that ends
them. -/
theorem skipTrailer?_suffix {text rest : Bytes} (found : skipTrailer? text = some rest) :
    rest <:+ text := by
  unfold skipTrailer? at found
  split at found
  · next skipped =>
    cases found
    exact skipLineEnd?_suffix skipped
  · simp only [Option.bind_eq_bind, Option.bind_eq_some_iff] at found
    obtain ⟨⟨trailer, behind⟩, cut, found⟩ := found
    dsimp only at found
    split at found
    · cases found
      exact cutAtEmptyLine?_suffix cut
    · cases found

/-- A body in chunks comes off the front of the buffer, chunk by chunk. -/
theorem skipAll?_suffix {text rest : Bytes} (found : skipAll? text = some rest) :
    rest <:+ text := by
  simp only [skipAll?, Option.bind_eq_bind, Option.bind_eq_some_iff] at found
  obtain ⟨⟨size, data⟩, sized, found⟩ := found
  have first := readSize?_suffix sized
  dsimp only at found
  split at found
  · exact (skipTrailer?_suffix found).trans first
  · split at found
    · cases found
    · simp only [Option.bind_eq_some_iff] at found
      obtain ⟨behind, skipped, ⟨last, after⟩, sizedLast, found⟩ := found
      dsimp only at found
      split at found
      · exact (skipTrailer?_suffix found).trans <| (readSize?_suffix sizedLast).trans <|
          (skipLineEnd?_suffix skipped).trans <| (List.drop_suffix _ _).trans first
      · cases found

end Chunk

/-- What follows a body is an end of the buffer. -/
theorem BodyLength.skip?_suffix {body : BodyLength} {text rest : Bytes}
    (found : body.skip? text = some rest) : rest <:+ text := by
  cases body with
  | sized length =>
    simp only [skip?] at found
    split at found
    · cases found
    · cases found
      exact List.drop_suffix _ _
  | chunked => exact Chunk.skipAll?_suffix found

end Greeter.Wire
