import Greeter.Proofs.RequestText

/-! # Texts in bytes

Bytes are read as the text that they are the UTF-8 form of, and as nothing if there is none
(`Bytes.toText?_eq_some_iff`). Texts one behind another are a text, and no two texts have
the same bytes.
-/

namespace Greeter

namespace Bytes

/-- ASCII is a part of UTF-8. -/
theorem isText_of_ascii {text : Bytes} (ascii : text.all ByteClass.ascii.has = true) :
    text.isText = true := by
  have codes : ∀ code < 128, String.utf8EncodeChar (Char.ofNat code) = [UInt8.ofNat code] := by
    decide
  have encoded : ∀ byte ∈ text, String.utf8EncodeChar (Char.ofNat byte.toNat) = [byte] := by
    intro byte member
    have low : byte.toNat < 128 := by
      have := List.all_eq_true.mp ascii byte member
      simp only [ByteClass.has, ByteClass.ascii, List.any_cons, List.any_nil, Bool.or_false,
        Bool.and_eq_true, decide_eq_true_eq, UInt8.le_iff_toNat_le] at this
      exact Nat.lt_succ_of_le this.2
    rw [codes byte.toNat low, UInt8.ofNat_toNat]
  have written : (text.map fun byte => Char.ofNat byte.toNat).flatMap String.utf8EncodeChar =
      text := by
    rw [List.flatMap_map, List.flatMap_congr encoded, List.flatMap_singleton']
  have valid : ByteArray.IsValidUTF8 ⟨text.toArray⟩ := by
    refine ⟨text.map fun byte => Char.ofNat byte.toNat, ?_⟩
    rw [List.utf8Encode, written]
    exact ByteArray.ext List.data_toByteArray.symm
  simp only [isText, toText?, String.fromUTF8?, valid, ↓reduceDIte, Option.isSome_some]

theorem ofChars_append (first second : List Char) :
    ofChars (first ++ second) = ofChars first ++ ofChars second := List.flatMap_append

theorem toByteArray_ofText (text : String) : (ofText text).toByteArray = text.toByteArray := by
  rw [ofText, ofChars, ← List.utf8Encode, String.utf8Encode_toList]

/-- Bytes are read as the text that they are the UTF-8 form of. -/
theorem toText?_eq_some_iff {bytes : Bytes} {text : String} :
    bytes.toText? = some text ↔ bytes = ofText text := by
  have whole : ByteArray.mk bytes.toArray = bytes.toByteArray :=
    ByteArray.ext List.data_toByteArray.symm
  rw [toText?, String.fromUTF8?, whole]
  constructor
  · intro found
    split at found
    · next valid =>
      cases found
      exact List.toByteArray_inj.mp (toByteArray_ofText (String.fromUTF8 _ valid)).symm
    · cases found
  · rintro rfl
    rw [dif_pos (by rw [toByteArray_ofText]; exact text.isValidUTF8)]
    exact congrArg some (String.toByteArray_inj.mp (toByteArray_ofText text))

/-- No two texts have the same UTF-8 form. -/
theorem ofChars_inj {first second : List Char} :
    ofChars first = ofChars second ↔ first = second := by
  constructor
  · intro same
    have own (characters : List Char) :
        (ofChars characters).toText? = some (String.ofList characters) :=
      toText?_eq_some_iff.mpr (by rw [ofText, String.toList_ofList])
    have found := own first
    rw [same, own second] at found
    exact (String.ofList_inj.mp (Option.some.inj found)).symm
  · exact congrArg ofChars

end Bytes

end Greeter
