import Greeter.Wire.Body
import Mathlib.Data.List.Basic
import Mathlib.Tactic.Common

/-! # Readers decided by what they have read

A reader that has come to something on the bytes so far comes to the same thing
when more bytes stand behind them; only the rest grows (`Progress.Steady`). All
readers of heads are steady, and so are those that skip a body: a request is
found in the same place wherever the bytes of its connection are cut. It follows
that a proper start of a head is never judged before the head is whole
(`Progress.Steady.eq_incomplete_of_append`).
-/

namespace Greeter.Wire

/-- A text that is cut at its first byte outside a class is cut there whatever
stands behind it. -/
theorem dropWhile_append_of_eq_cons {text rest : Bytes} {byte : UInt8} {keep : UInt8 → Bool}
    (dropped : text.dropWhile keep = byte :: rest) (more : Bytes) :
    (text ++ more).dropWhile keep = byte :: (rest ++ more) ∧
      (text ++ more).takeWhile keep = text.takeWhile keep := by
  induction text with
  | nil => cases dropped
  | cons first behind ih =>
      by_cases kept : keep first = true
      · rw [List.dropWhile_cons_of_pos kept] at dropped
        obtain ⟨dropRest, takeRest⟩ := ih dropped
        rw [List.cons_append, List.dropWhile_cons_of_pos kept, List.takeWhile_cons_of_pos kept,
          List.takeWhile_cons_of_pos kept]
        exact ⟨dropRest, congrArg (first :: ·) takeRest⟩
      · rw [List.dropWhile_cons_of_neg kept] at dropped
        cases dropped
        rw [List.cons_append, List.dropWhile_cons_of_neg kept, List.takeWhile_cons_of_neg kept,
          List.takeWhile_cons_of_neg kept]
        exact ⟨rfl, rfl⟩

namespace Progress

variable {α β : Type}

/-- What a reader comes to with more bytes behind those that have decided it. -/
def extend (more : Bytes) : Progress α → Progress α
  | incomplete => incomplete
  | refused reason => refused reason
  | complete value rest => complete value (rest ++ more)

/-- Once the reader has come to something, more bytes change nothing but the
rest. -/
def Steady (read : Bytes → Progress α) : Prop :=
  ∀ text more, read text ≠ incomplete → read (text ++ more) = (read text).extend more

/-- Two steady readers, one behind the other, are a steady reader. -/
theorem Steady.andThen {read : Bytes → Progress α} {next : α → Bytes → Progress β}
    (first : Steady read) (second : ∀ value, Steady (next value)) :
    Steady fun text => (read text).andThen next := by
  intro text more decided
  cases found : read text with
  | incomplete => exact absurd (by simp only [found, Progress.andThen]) decided
  | refused reason =>
      have same := first text more (by rw [found]; rintro ⟨⟩)
      simp only [same, found, extend, Progress.andThen]
  | complete value rest =>
      have same := first text more (by rw [found]; rintro ⟨⟩)
      simp only [found, Progress.andThen] at decided
      simp only [same, found, extend, Progress.andThen]
      exact second value rest more decided

/-- A steady reader stays steady, whatever is made of its value. -/
theorem Steady.map {read : Bytes → Progress α} (first : Steady read) (make : α → β) :
    Steady fun text => (read text).map make :=
  first.andThen fun _ _ _ _ => rfl

/-- A steady reader that takes all of a text finds any shorter start of it
incomplete. -/
theorem Steady.eq_incomplete_of_append {read : Bytes → Progress α} (steady : Steady read)
    {start more : Bytes} {value : α} (whole : read (start ++ more) = complete value [])
    (short : more ≠ []) : read start = incomplete := by
  by_contra decided
  have same := steady start more decided
  rw [whole] at same
  cases found : read start with
  | incomplete => exact decided found
  | refused reason => rw [found] at same; cases same
  | complete first rest =>
      rw [found] at same
      simp only [extend, complete.injEq] at same
      exact short (List.append_eq_nil_iff.mp same.2.symm).2

end Progress

namespace Head

open Progress

/-- The empty lines in front of a head end at the first byte of another kind. -/
theorem skipLineEnds_steady : Steady skipLineEnds := by
  intro text more decided
  fun_induction skipLineEnds text with
  | case1 => exact absurd rfl decided
  | case2 rest ih =>
      rw [List.cons_append, skipLineEnds.eq_def]
      exact (if_pos rfl).trans (ih decided)
  | case3 => exact absurd rfl decided
  | case4 rest notFeed ih =>
      rw [List.cons_append, skipLineEnds.eq_def]
      exact (if_neg notFeed).trans ((if_pos rfl).trans ((if_pos rfl).trans (ih decided)))
  | case5 second rest other notFeed =>
      rw [List.cons_append, skipLineEnds.eq_def]
      exact (if_neg notFeed).trans ((if_pos rfl).trans (if_neg other))
  | case6 first rest notFeed notReturn =>
      rw [List.cons_append, skipLineEnds.eq_def]
      exact (if_neg notFeed).trans (if_neg notReturn)

theorem readLineEnd_steady : Steady readLineEnd := by
  intro text more decided
  fun_cases readLineEnd text with
  | case1 => exact absurd rfl decided
  | case2 rest => rfl
  | case3 => exact absurd rfl decided
  | case4 _ rest => rfl
  | case5 second rest other notFeed =>
      simp only [List.cons_append, readLineEnd, notFeed, other, ↓reduceIte, extend]
  | case6 first rest notFeed notReturn => exact (if_neg notFeed).trans (if_neg notReturn)

/-- A method is known once the space behind it is there. -/
theorem readMethod_steady : Steady readMethod := by
  intro text more decided
  cases dropped : text.dropWhile ByteClass.token.has with
  | nil => exact absurd (by simp only [readMethod, dropped]) decided
  | cons byte rest =>
      obtain ⟨droppedMore, taken⟩ := dropWhile_append_of_eq_cons dropped more
      simp only [readMethod, dropped, droppedMore, taken]
      split
      · cases Method.ofBytes? (text.takeWhile ByteClass.token.has) <;> rfl
      · rfl

theorem readTarget_steady : Steady readTarget := by
  intro text more decided
  cases dropped : text.dropWhile ByteClass.target.has with
  | nil => exact absurd (by simp only [readTarget, dropped]) decided
  | cons byte rest =>
      obtain ⟨droppedMore, taken⟩ := dropWhile_append_of_eq_cons dropped more
      simp only [readTarget, dropped, droppedMore, taken]
      split <;> rfl

/-- No version is read where fewer than eight bytes already differ from the
common start of both. -/
theorem readVersion_eq_refused {start text : Bytes} (starts : start <+: text)
    (short : start.length < 8) (differs : ¬ start <+: Bytes.ofText "HTTP/1.") :
    readVersion text = .refused .badRequest := by
  have startsFound : start <+: text.take 8 :=
    List.prefix_take_iff.mpr ⟨starts, by omega⟩
  have notWritten : ∀ version, (Bytes.ofText version).take 7 = Bytes.ofText "HTTP/1." →
      text.take 8 ≠ Bytes.ofText version := by
    intro version common same
    apply differs
    rw [← common]
    exact List.prefix_take_iff.mpr ⟨same ▸ startsFound, by omega⟩
  have notStart : (text.take 8).isPrefixOf (Bytes.ofText "HTTP/1.") = false := by
    rw [Bool.eq_false_iff]
    exact fun whole => differs (startsFound.trans (List.isPrefixOf_iff_prefix.mp whole))
  have not10 := notWritten Version.http10.text (by decide)
  have not11 := notWritten Version.http11.text (by decide)
  simp only [readVersion, notStart, not10, not11, Bool.false_eq_true, ↓reduceIte, ite_self]

theorem readVersion_steady : Steady readVersion := by
  intro text more decided
  by_cases short : text.length < 8
  · have differs : ¬ text <+: Bytes.ofText "HTTP/1." := by
      intro starts
      apply decided
      have whole : text.take 8 = text := List.take_of_length_le (by omega)
      simp only [readVersion, whole, short, List.isPrefixOf_iff_prefix.mpr starts, ↓reduceIte]
    rw [readVersion_eq_refused (List.prefix_append text more) short differs,
      readVersion_eq_refused (List.prefix_refl text) short differs]
    rfl
  · have same : (text ++ more).take 8 = text.take 8 := List.take_append_of_le_length (by omega)
    have behind : (text ++ more).drop 8 = text.drop 8 ++ more :=
      List.drop_append_of_le_length (by omega)
    have long : ¬ (text.take 8).length < 8 := by rw [List.length_take]; omega
    simp only [readVersion, same, behind, long, ↓reduceIte]
    split
    · rfl
    · split <;> rfl

theorem readField_steady : Steady readField := by
  intro text more decided
  cases dropped : text.dropWhile ByteClass.token.has with
  | nil => exact absurd (by simp only [readField, dropped]) decided
  | cons byte rest =>
      obtain ⟨droppedMore, taken⟩ := dropWhile_append_of_eq_cons dropped more
      simp only [readField, dropped] at decided
      simp only [readField, dropped, droppedMore, taken]
      split
      · next named =>
        rw [if_pos named] at decided
        cases value : rest.dropWhile ByteClass.fieldText.has with
        | nil =>
            exact absurd (by simp only [value, readLineEnd, Progress.map, Progress.andThen]) decided
        | cons ending behind =>
            obtain ⟨valueMore, valueTaken⟩ := dropWhile_append_of_eq_cons value more
            rw [value] at decided
            rw [valueMore, valueTaken]
            exact (readLineEnd_steady.map _) (ending :: behind) more decided
      · rfl

/-- A header, or the end of the headers, is known once the end of its line is there. -/
theorem readFieldOrEnd_steady : Steady readFieldOrEnd := by
  intro text more decided
  cases text with
  | nil => exact absurd rfl decided
  | cons first rest =>
      simp only [readFieldOrEnd] at decided
      simp only [readFieldOrEnd, List.cons_append]
      split
      · next ending =>
        rw [if_pos ending] at decided
        exact readLineEnd_steady.map _ (first :: rest) more decided
      · next ending =>
        rw [if_neg ending] at decided
        exact readField_steady.map _ (first :: rest) more decided

theorem readFields_steady (room : Nat) : Steady (readFields room) := by
  induction room with
  | zero =>
      refine readFieldOrEnd_steady.andThen fun found => ?_
      cases found with
      | none => exact fun _ _ _ => rfl
      | some _ => exact fun _ _ _ => rfl
  | succ room ih =>
      refine readFieldOrEnd_steady.andThen fun found => ?_
      cases found with
      | none => exact fun _ _ _ => rfl
      | some field => exact ih.map _

theorem readAfterMethod_steady (method : Method) : Steady (readAfterMethod method) :=
  readTarget_steady.andThen fun _ => readVersion_steady.andThen fun _ =>
    readLineEnd_steady.andThen fun _ => (readFields_steady maxFields).map _

/-- A head that is whole, or can no longer become one, is judged alike whatever
comes behind it. -/
theorem read_steady : Steady read :=
  skipLineEnds_steady.andThen fun _ => readMethod_steady.andThen readAfterMethod_steady

end Head

namespace Chunk

/-- Behind a line end, more bytes change nothing. -/
theorem skipLineEnd?_append {text rest : Bytes} (found : skipLineEnd? text = some rest)
    (more : Bytes) : skipLineEnd? (text ++ more) = some (rest ++ more) := by
  unfold skipLineEnd? at found
  split at found
  · next ending =>
    cases found
    have long : 2 ≤ text.length := by
      have := congrArg List.length ending
      simp only [List.length_take, List.length_cons, List.length_nil] at this
      omega
    rw [skipLineEnd?, List.take_append_of_le_length long, if_pos ending,
      List.drop_append_of_le_length long]
  · cases found

/-- Behind an extension that is followed by the end of its line, more bytes
change nothing. -/
theorem skipLineEnd?_skipExtension_append {text rest : Bytes}
    (found : skipLineEnd? (skipExtension text) = some rest) (more : Bytes) :
    skipLineEnd? (skipExtension (text ++ more)) = some (rest ++ more) := by
  have extended : skipExtension (text ++ more) = skipExtension text ++ more := by
    cases text with
    | nil => cases found
    | cons first behind =>
        simp only [skipExtension, List.cons_append] at found ⊢
        split
        · next marked =>
          rw [if_pos marked] at found
          cases dropped : behind.dropWhile fun byte => byte != Bytes.cr && byte != Bytes.lf with
          | nil => rw [dropped] at found; cases found
          | cons byte after => exact (dropWhile_append_of_eq_cons dropped more).1
        · rfl
  rw [extended]
  exact skipLineEnd?_append found more

/-- Behind the size of a chunk, more bytes change nothing. -/
theorem readSize?_append {text rest : Bytes} {size : Nat}
    (found : readSize? text = some (size, rest)) (more : Bytes) :
    readSize? (text ++ more) = some (size, rest ++ more) := by
  simp only [readSize?, Option.bind_eq_bind, Option.bind_eq_some_iff, Option.pure_def,
    Option.some.injEq, Prod.mk.injEq] at found ⊢
  obtain ⟨number, read, behind, skipped, rfl, rfl⟩ := found
  cases dropped : text.dropWhile ByteClass.hexDigit.has with
  | nil => rw [dropped] at skipped; cases skipped
  | cons byte after =>
      obtain ⟨droppedMore, taken⟩ := dropWhile_append_of_eq_cons dropped more
      rw [dropped] at skipped
      rw [droppedMore, taken]
      cases blanks : (byte :: after).dropWhile ByteClass.blank.has with
      | nil => rw [blanks] at skipped; cases skipped
      | cons second rest =>
          rw [blanks] at skipped
          rw [← List.cons_append, (dropWhile_append_of_eq_cons blanks more).1]
          exact ⟨number, read, behind ++ more, skipLineEnd?_skipExtension_append skipped more,
            rfl, rfl⟩

theorem cutAtEmptyLine?_append {seen text cut rest : Bytes}
    (found : cutAtEmptyLine? seen text = some (cut, rest)) (more : Bytes) :
    cutAtEmptyLine? seen (text ++ more) = some (cut, rest ++ more) := by
  induction text generalizing seen with
  | nil => cases found
  | cons first behind ih =>
      simp only [cutAtEmptyLine?, List.cons_append] at found ⊢
      split
      · next ending =>
        rw [if_pos ending] at found
        cases found
        rfl
      · next ending =>
        rw [if_neg ending] at found
        exact ih found

/-- An empty line takes four bytes, those before it included. -/
theorem length_of_cutAtEmptyLine? {seen text cut rest : Bytes}
    (found : cutAtEmptyLine? seen text = some (cut, rest)) :
    4 ≤ seen.length + text.length := by
  induction text generalizing seen with
  | nil => cases found
  | cons first behind ih =>
      simp only [cutAtEmptyLine?] at found
      split at found
      · next ending =>
        have := congrArg List.length ending
        simp only [List.length_take, List.length_cons, List.length_nil] at this ⊢
        omega
      · have := ih found
        simp only [List.length_cons] at this ⊢
        omega

theorem skipTrailer?_append {text rest : Bytes} (found : skipTrailer? text = some rest)
    (more : Bytes) : skipTrailer? (text ++ more) = some (rest ++ more) := by
  unfold skipTrailer? at found ⊢
  cases ended : skipLineEnd? text with
  | some behind =>
      rw [ended] at found
      cases found
      rw [skipLineEnd?_append ended more]
  | none =>
      rw [ended] at found
      simp only [Option.bind_eq_bind, Option.bind_eq_some_iff] at found
      obtain ⟨⟨trailer, behind⟩, cut, found⟩ := found
      have long := length_of_cutAtEmptyLine? cut
      have notEnded : skipLineEnd? (text ++ more) = none := by
        simp only [skipLineEnd?, ite_eq_right_iff, reduceCtorEq, imp_false] at ended ⊢
        rwa [List.take_append_of_le_length (by simpa using Nat.le_trans (by decide) long)]
      rw [notEnded]
      simp only [cutAtEmptyLine?_append cut more, Option.bind_eq_bind, Option.bind_some]
      dsimp only at found
      split at found
      · next trailing =>
        cases found
        rfl
      · cases found

/-- Behind a body in chunks, more bytes change nothing. -/
theorem skipAll?_append {text rest : Bytes} (found : skipAll? text = some rest)
    (more : Bytes) : skipAll? (text ++ more) = some (rest ++ more) := by
  simp only [skipAll?, Option.bind_eq_bind, Option.bind_eq_some_iff] at found ⊢
  obtain ⟨⟨size, data⟩, sized, found⟩ := found
  refine ⟨(size, data ++ more), readSize?_append sized more, ?_⟩
  dsimp only at found ⊢
  split
  · next empty =>
    rw [if_pos empty] at found
    exact skipTrailer?_append found more
  · next empty =>
    rw [if_neg empty] at found
    split at found
    · cases found
    · next enough =>
      simp only [Option.bind_eq_some_iff] at found
      obtain ⟨behind, ended, ⟨last, after⟩, sizedLast, found⟩ := found
      rw [if_neg (by rw [List.length_append]; omega),
        List.drop_append_of_le_length (Nat.le_of_not_lt enough), skipLineEnd?_append ended more]
      simp only [Option.bind_some, readSize?_append sizedLast more]
      dsimp only at found
      split
      · next final =>
        rw [if_pos final] at found
        exact skipTrailer?_append found more
      · next final => rw [if_neg final] at found; cases found

end Chunk

/-- A body that is there whole ends where it does whatever comes behind it. -/
theorem BodyLength.skip?_append {body : BodyLength} {text rest : Bytes}
    (found : body.skip? text = some rest) (more : Bytes) :
    body.skip? (text ++ more) = some (rest ++ more) := by
  cases body with
  | sized length =>
      simp only [skip?] at found ⊢
      split at found
      · cases found
      · next enough =>
        cases found
        rw [if_neg (by rw [List.length_append]; omega),
          List.drop_append_of_le_length (Nat.le_of_not_lt enough)]
  | chunked => exact Chunk.skipAll?_append found more

end Greeter.Wire
