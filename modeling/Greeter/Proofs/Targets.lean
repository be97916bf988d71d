import Greeter.Proofs.Separators
import Greeter.Proofs.TextBytes
import Greeter.Uri.Parser
import Mathlib.Data.List.TakeWhile

/-! # The parts of a target

What is found of each part of a target is told by the bytes of the part alone: a path and a
query are what stands before the first hash (`Uri.readPath_eq_ok_iff`), an authority ends
with the first byte that can end it (`Uri.readAuthority_eq_ok_iff`), and a scheme stands
before a colon and two slashes (`Uri.cutScheme_append`, `Uri.exists_of_cutScheme`).
-/

namespace Greeter

/-- A row of checks succeeds only if each of them does. -/
theorem exists_of_bind_eq_ok {ε α β : Type} {check : Except ε α} {next : α → Except ε β}
    {result : β} (found : check >>= next = .ok result) :
    ∃ value, check = .ok value ∧ next value = .ok result := by
  cases check with
  | error reason => cases found
  | ok value => exact ⟨value, rfl, found⟩

namespace Bytes

theorem isText_append {first second : Bytes} (isText : first.isText = true)
    (otherIsText : second.isText = true) : (first ++ second).isText = true := by
  obtain ⟨text, found⟩ := Option.isSome_iff_exists.mp isText
  obtain ⟨other, otherFound⟩ := Option.isSome_iff_exists.mp otherIsText
  have both : (first ++ second).toText? = some (text ++ other) := by
    rw [toText?_eq_some_iff.mp found, toText?_eq_some_iff.mp otherFound, toText?_eq_some_iff,
      ofText, ofText, ofText, String.toList_append, ofChars_append]
  rw [Bytes.isText, both, Option.isSome_some]

theorem toNat_lower (byte : UInt8) : (lower byte).toNat =
    if 0x41 ≤ byte.toNat ∧ byte.toNat ≤ 0x5a then byte.toNat + 0x20 else byte.toNat := by
  simp only [lower, Bool.and_eq_true, decide_eq_true_eq, UInt8.le_iff_toNat_le]
  change (if 0x41 ≤ byte.toNat ∧ byte.toNat ≤ 0x5a then _ else _ : UInt8).toNat = _
  split
  · rw [UInt8.toNat_add]
    change (byte.toNat + 0x20) % 256 = _
    omega
  · rfl

/-- Lower case leaves a byte among the characters of a scheme, or outside of them. -/
theorem has_scheme_lower (byte : UInt8) :
    ByteClass.scheme.has (lower byte) = ByteClass.scheme.has byte := by
  rw [Bool.eq_iff_iff]
  simp only [ByteClass.has, ByteClass.scheme, List.any_cons, List.any_nil, Bool.or_false,
    Bool.or_eq_true, Bool.and_eq_true, decide_eq_true_eq, UInt8.le_iff_toNat_le, toNat_lower,
    UInt8.reduceToNat]
  split <;> omega

/-- Only letters have another case. -/
theorem eq_of_lower_eq {byte mark : UInt8} (isMark : mark ∈ Uri.schemeEnd)
    (same : lower byte = mark) : byte = mark := by
  have codes := congrArg UInt8.toNat same
  rw [toNat_lower] at codes
  apply UInt8.toNat_inj.mp
  have : mark.toNat = 0x3a ∨ mark.toNat = 0x2f := by
    simp only [Uri.schemeEnd, List.mem_cons, List.not_mem_nil, or_false] at isMark
    rcases isMark with rfl | rfl | rfl
    · exact .inl rfl
    · exact .inr rfl
    · exact .inr rfl
  split at codes <;> omega

end Bytes

namespace Uri

section Path

variable {text path : Bytes} {query : Option Bytes}

/-- A path and a query, each in its characters, that are a text together. -/
structure IsPath (path : Bytes) (query : Option Bytes) : Prop where
  pathBytes : path.all ByteClass.path.has = true
  queryBytes : query.all (·.all ByteClass.query.has) = true
  isText : (path ++ renderQuery query).isText = true

/-- What holds for the question mark and for the bytes of a query holds for the query as it is
printed. -/
theorem all_renderQuery {keep : UInt8 → Bool} (mark : keep questionMark = true)
    (members : query.all (·.all keep) = true) : (renderQuery query).all keep = true := by
  cases query with
  | none => rfl
  | some query =>
      rw [Option.all_some] at members
      rw [renderQuery, List.all_cons, mark, members, Bool.true_and]

/-- What stands behind a mark together with the mark, or nothing. -/
def fromMark (mark : UInt8) : Option Bytes → Bytes
  | none => []
  | some behind => mark :: behind

theorem renderQuery_eq_fromMark (query : Option Bytes) :
    renderQuery query = fromMark questionMark query := by
  cases query <;> rfl

/-- A text is cut at its first mark, if it has one. -/
theorem eq_append_fromMark_iff {mark : UInt8} {before : Bytes} {behind : Option Bytes} :
    text = before ++ fromMark mark behind ∧ mark ∉ before ↔
      text.takeWhile (· != mark) = before ∧ (text.dropWhile (· != mark)).tail? = behind := by
  constructor
  · rintro ⟨written, unmarked⟩
    have noMark : before.all (· != mark) = true := List.all_eq_true.mpr fun item member =>
      bne_iff_ne.mpr (ne_of_mem_of_not_mem member unmarked)
    have starts : ∀ item ∈ (fromMark mark behind).head?, (item != mark) = false := by
      cases behind with
      | none => simp [fromMark]
      | some behind => simp [fromMark]
    obtain ⟨taken, dropped⟩ := span_eq_iff.mpr ⟨written, noMark, starts⟩
    refine ⟨taken, ?_⟩
    rw [dropped]
    cases behind <;> rfl
  · rintro ⟨taken, rfl⟩
    obtain ⟨split, noMark, starts⟩ := span_eq_iff.mp ⟨taken, rfl⟩
    refine ⟨?_, fun member => absurd (List.all_eq_true.mp noMark mark member) (by simp)⟩
    cases dropped : text.dropWhile (· != mark) with
    | nil => rwa [dropped] at split
    | cons item rest =>
        rw [dropped] at split starts
        obtain rfl : item = mark := by simpa using starts item rfl
        exact split

theorem eq_takeWhile_append (mark : UInt8) (text : Bytes) :
    text = text.takeWhile (· != mark) ++ fromMark mark (text.dropWhile (· != mark)).tail? ∧
      mark ∉ text.takeWhile (· != mark) :=
  eq_append_fromMark_iff.mpr ⟨rfl, rfl⟩

theorem IsPath.questionMark_notMem (isPath : IsPath path query) : questionMark ∉ path :=
  ByteClass.notMem_of_all isPath.pathBytes (by decide)

/-- What stands before the first hash is a path and a query. -/
theorem readPath_eq_ok_iff : readPath text = .ok (path, query) ↔
    text.takeWhile (· != hash) = path ++ renderQuery query ∧ IsPath path query := by
  unfold readPath
  dsimp only
  constructor
  · intro found
    split at found
    · next valid =>
      simp only [Bool.and_eq_true] at valid
      obtain ⟨⟨pathBytes, queryBytes⟩, isText⟩ := valid
      obtain ⟨rfl, rfl⟩ := Prod.mk.inj (Except.ok.inj found)
      obtain ⟨written, -⟩ := eq_takeWhile_append questionMark (text.takeWhile (· != hash))
      rw [← renderQuery_eq_fromMark] at written
      exact ⟨written, pathBytes, queryBytes, written ▸ isText⟩
    · cases found
  · rintro ⟨written, isPath⟩
    have split := written
    rw [renderQuery_eq_fromMark] at split
    obtain ⟨taken, dropped⟩ := eq_append_fromMark_iff.mp ⟨split, isPath.questionMark_notMem⟩
    rw [taken, dropped, if_pos]
    rw [isPath.pathBytes, isPath.queryBytes, written, isPath.isText]
    rfl

/-- There is one reason to refuse a path. -/
theorem eq_invalidCharacter_of_readPath {reason : UriError}
    (refused : readPath text = .error reason) : reason = .invalidCharacter := by
  unfold readPath at refused
  dsimp only at refused
  split at refused
  · cases refused
  · exact (Except.error.inj refused).symm

/-- Neither a path nor a query holds a hash. -/
theorem IsPath.hash_notMem (isPath : IsPath path query) : hash ∉ path ++ renderQuery query := by
  rw [List.mem_append, not_or]
  refine ⟨ByteClass.notMem_of_all isPath.pathBytes (by decide), ?_⟩
  have queryBytes := isPath.queryBytes
  cases query with
  | none => exact List.not_mem_nil
  | some query =>
      rw [renderQuery, List.mem_cons, not_or]
      exact ⟨by decide, ByteClass.notMem_of_all queryBytes (by decide)⟩

/-- There is nothing to drop where no fragment follows. -/
theorem IsPath.takeWhile_eq_self (isPath : IsPath path query) :
    (path ++ renderQuery query).takeWhile (· != hash) = path ++ renderQuery query := by
  have whole : path ++ renderQuery query = path ++ renderQuery query ++ fromMark hash none :=
    (List.append_nil _).symm
  exact (eq_append_fromMark_iff.mp ⟨whole, isPath.hash_notMem⟩).1

/-- Where there is no path, the slash stands for it. -/
theorem IsPath.slash (isPath : IsPath [] query) : IsPath [slash] query where
  pathBytes := by decide
  queryBytes := isPath.queryBytes
  isText := Bytes.isText_append (Bytes.isText_of_ascii (by decide)) isPath.isText

end Path

section Authority

variable {text name rest : Bytes}

/-- A whole authority: its brackets are closed, a single colon is left, no percent sign is
left, and a host stands behind the user. -/
structure IsAuthority (name : Bytes) : Prop where
  unended : name.all (fun byte => !ByteClass.authorityEnd.has byte) = true
  whole : ∃ scan, name.foldlM AuthorityScan.next AuthorityScan.start = .ok scan ∧
    scan.isWhole = true
  host : name.getLast? ≠ some 0x40

/-- An authority ends at the first slash, question mark or hash. -/
theorem readAuthority_eq_ok_iff : readAuthority text = .ok (name, rest) ↔
    text ≠ [] ∧ text = name ++ rest ∧ IsAuthority name ∧
      ∀ byte ∈ rest.head?, ByteClass.authorityEnd.has byte = true := by
  unfold readAuthority
  dsimp only
  constructor
  · intro found
    split at found
    · cases found
    next nonempty =>
    split at found
    · cases found
    next scan scanned =>
    split at found
    · next valid =>
      rw [Bool.and_eq_true, bne_iff_ne] at valid
      obtain ⟨taken, dropped⟩ := Prod.mk.inj (Except.ok.inj found)
      obtain ⟨written, unended, ends⟩ := span_eq_iff.mp ⟨taken, dropped⟩
      rw [taken] at scanned valid
      refine ⟨nonempty, written, ⟨unended, ⟨scan, scanned, valid.1⟩, valid.2⟩, ?_⟩
      exact fun byte starts => by simpa using ends byte starts
    · cases found
  · rintro ⟨nonempty, written, ⟨unended, ⟨scan, scanned, whole⟩, host⟩, ends⟩
    obtain ⟨taken, dropped⟩ := span_eq_iff.mpr
      ⟨written, unended, fun byte starts => by simpa using ends byte starts⟩
    rw [if_neg nonempty, taken, dropped, scanned]
    dsimp only
    rw [if_pos]
    rw [whole, Bool.true_and, bne_iff_ne]
    exact host

end Authority

section Scheme

variable {text written name behind : Bytes}

/-- The canonical form of a scheme: the two schemes of HTTP in lower case. -/
def canonicalScheme (written : Bytes) : Bytes :=
  if written.sameLetters (Bytes.ofText "http") then Bytes.ofText "http"
  else if written.sameLetters (Bytes.ofText "https") then Bytes.ofText "https"
  else written

/-- A scheme in its characters that is not too long. -/
structure IsScheme (scheme : Bytes) : Prop where
  schemeBytes : scheme.all ByteClass.scheme.has = true
  short : scheme.length ≤ maxSchemeLength

/-- The canonical form of a scheme is a scheme. -/
theorem IsScheme.canonicalScheme (isScheme : IsScheme written) :
    IsScheme (canonicalScheme written) := by
  unfold Uri.canonicalScheme
  split
  · exact ⟨by decide, by decide⟩
  · split
    · exact ⟨by decide, by decide⟩
    · exact isScheme

/-- The canonical form of a scheme is its own. -/
theorem canonicalScheme_canonicalScheme (written : Bytes) :
    canonicalScheme (canonicalScheme written) = canonicalScheme written := by
  by_cases http : written.sameLetters (Bytes.ofText "http") = true
  · rw [canonicalScheme.eq_def written, if_pos http]
    decide
  · by_cases https : written.sameLetters (Bytes.ofText "https") = true
    · rw [canonicalScheme.eq_def written, if_neg http, if_pos https]
      decide
    · have unchanged : canonicalScheme written = written := by
        rw [canonicalScheme, if_neg http, if_neg https]
      rw [unchanged, unchanged]

/-- A name in any case has the characters of a scheme if it has them in one. -/
theorem all_scheme_of_sameLetters (same : written.sameLetters name = true)
    (members : name.all ByteClass.scheme.has = true) :
    written.all ByteClass.scheme.has = true := by
  have lowered (text : Bytes) : (text.map Bytes.lower).all ByteClass.scheme.has =
      text.all ByteClass.scheme.has := by
    rw [List.all_map]
    exact congrArg text.all (funext Bytes.has_scheme_lower)
  rw [Bytes.sameLetters, beq_iff_eq] at same
  rw [← lowered, same, lowered, members]

/-- A text starts like a known scheme if that scheme stands there in some case. -/
theorem sameLetters_take_iff {size : Nat} (length : name.length + 3 = size) :
    Bytes.sameLetters (text.take size) (name ++ schemeEnd) = true ↔
      ∃ written behind, text = written ++ (schemeEnd ++ behind) ∧
        Bytes.sameLetters written name = true := by
  constructor
  · intro same
    rw [Bytes.sameLetters, beq_iff_eq, List.map_append] at same
    obtain ⟨written, marks, split, letters, ends⟩ := List.map_eq_append_iff.mp same
    have isEnd : marks = schemeEnd := by
      have fixed : marks.map Bytes.lower = marks := by
        refine (List.map_congr_left fun byte member => ?_).trans marks.map_id
        have isMark : Bytes.lower byte ∈ schemeEnd := by
          have listed := List.mem_map_of_mem (f := Bytes.lower) member
          rwa [ends] at listed
        exact (Bytes.eq_of_lower_eq isMark rfl).symm
      rw [← fixed, ends]
      decide
    refine ⟨written, text.drop size, ?_, beq_iff_eq.mpr letters⟩
    rw [← isEnd, ← List.append_assoc, ← split, List.take_append_drop]
  · rintro ⟨written, behind, rfl, letters⟩
    have taken : (written ++ (schemeEnd ++ behind)).take size = written ++ schemeEnd := by
      rw [← List.append_assoc]
      apply List.take_left'
      rw [List.length_append, Bytes.length_of_sameLetters letters, ← length]
      rfl
    rw [Bytes.sameLetters, beq_iff_eq] at letters ⊢
    rw [taken, List.map_append, List.map_append, letters]

/-- What stands before the colon alone says whether a text starts like a known scheme. -/
theorem startsLike_iff {size : Nat} (length : name.length + 3 = size)
    (named : name.all ByteClass.scheme.has = true)
    (members : written.all ByteClass.scheme.has = true) :
    Bytes.sameLetters ((written ++ (schemeEnd ++ behind)).take size) (name ++ schemeEnd) = true ↔
      Bytes.sameLetters written name = true := by
  have noColon {text : Bytes} (members : text.all ByteClass.scheme.has = true) : 0x3a ∉ text :=
    ByteClass.notMem_of_all members (by decide)
  rw [sameLetters_take_iff length]
  constructor
  · rintro ⟨other, more, same, letters⟩
    have otherMembers := all_scheme_of_sameLetters letters named
    obtain ⟨rfl, -⟩ := (append_mark_inj rfl (noColon members) (noColon otherMembers)).mp same
    exact letters
  · intro letters
    exact ⟨written, behind, rfl, letters⟩

/-- A scheme is split from what follows it, if it is not too long. -/
theorem cutScheme_append (members : written.all ByteClass.scheme.has = true)
    (long : 3 < (written ++ (schemeEnd ++ behind)).length) :
    cutScheme (written ++ (schemeEnd ++ behind)) =
      if maxSchemeLength < written.length then .error .schemeTooLong
      else .ok (some (canonicalScheme written, behind)) := by
  have dropped {size : Nat} (length : written.length + 3 = size) :
      (written ++ (schemeEnd ++ behind)).drop size = behind := by
    rw [← List.append_assoc]
    apply List.drop_left'
    rw [List.length_append, ← length]
    rfl
  -- The known schemes are looked for first, at the start of the text. What stands before the
  -- colon decides about them as well, so the three tests come to one.
  have likeHttp : Bytes.sameLetters ((written ++ (schemeEnd ++ behind)).take 7)
      (Bytes.ofText "http" ++ schemeEnd) = true ↔ _ :=
    startsLike_iff (by decide) (by decide) members
  have likeHttps : Bytes.sameLetters ((written ++ (schemeEnd ++ behind)).take 8)
      (Bytes.ofText "https" ++ schemeEnd) = true ↔ _ :=
    startsLike_iff (by decide) (by decide) members
  rw [cutScheme, canonicalScheme]
  dsimp only
  by_cases http : written.sameLetters (Bytes.ofText "http") = true
  · have length : written.length = 4 := Bytes.length_of_sameLetters http
    rw [if_pos (likeHttp.mpr http), if_pos http, dropped (by omega), if_neg]
    rw [length]
    decide
  rw [if_neg (mt likeHttp.mp http), if_neg http]
  by_cases https : written.sameLetters (Bytes.ofText "https") = true
  · have length : written.length = 5 := Bytes.length_of_sameLetters https
    rw [if_pos (likeHttps.mpr https), if_pos https, dropped (by omega), if_neg]
    rw [length]
    decide
  obtain ⟨taken, rest⟩ := ByteClass.span_append_cons members
    (by decide : ByteClass.scheme.has 0x3a = false) (slash :: slash :: behind)
  have apart : written ++ (schemeEnd ++ behind) = written ++ 0x3a :: slash :: slash :: behind := rfl
  rw [if_neg (mt likeHttps.mp https), if_neg https, if_neg (Nat.not_le.mpr long), apart, taken,
    rest]
  rfl

/-- Where no slash is, no scheme is cut off. -/
theorem cutScheme_of_notMem (noSlash : slash ∉ text) : cutScheme text = .ok none := by
  have notLike {size : Nat} (name : Bytes) (length : name.length + 3 = size) :
      ¬Bytes.sameLetters (text.take size) (name ++ schemeEnd) = true := by
    rw [sameLetters_take_iff length]
    rintro ⟨written, behind, rfl, -⟩
    exact noSlash (by simp)
  rw [cutScheme]
  dsimp only
  rw [if_neg (notLike _ (by decide)), if_neg (notLike _ (by decide))]
  split
  · rfl
  · rw [if_neg]
    intro ends
    have member : slash ∈ (text.dropWhile ByteClass.scheme.has).take 3 := by rw [ends]; decide
    exact noSlash ((List.dropWhile_sublist _).subset (List.mem_of_mem_take member))

/-- A scheme that is cut off stands in front of its mark. -/
theorem split_of_cutScheme {found : Bytes × Bytes} (cut : cutScheme text = .ok (some found)) :
    ∃ written more, text = written ++ (schemeEnd ++ more) ∧
      written.all ByteClass.scheme.has = true ∧ 3 < text.length := by
  have known {size : Nat} {name : Bytes} (length : name.length + 3 = size) (nonempty : name ≠ [])
      (named : name.all ByteClass.scheme.has = true)
      (like : Bytes.sameLetters (text.take size) (name ++ schemeEnd) = true) :
      ∃ written more, text = written ++ (schemeEnd ++ more) ∧
        written.all ByteClass.scheme.has = true ∧ 3 < text.length := by
    obtain ⟨written, more, rfl, letters⟩ := (sameLetters_take_iff length).mp like
    refine ⟨written, more, rfl, all_scheme_of_sameLetters letters named, ?_⟩
    have some := List.length_pos_iff.mpr nonempty
    rw [List.length_append, List.length_append, Bytes.length_of_sameLetters letters]
    simp only [List.length_cons, List.length_nil]
    omega
  rw [cutScheme] at cut
  dsimp only at cut
  split at cut
  · next like => exact known (by decide) (by decide) (by decide) like
  split at cut
  · next like => exact known (by decide) (by decide) (by decide) like
  split at cut
  · cases cut
  next long =>
  split at cut
  · next ends =>
    refine ⟨text.takeWhile ByteClass.scheme.has, (text.dropWhile ByteClass.scheme.has).drop 3, ?_,
      List.all_takeWhile, Nat.not_le.mp long⟩
    rw [← ends, List.take_append_drop, List.takeWhile_append_dropWhile]
  · cases cut

/-- A scheme is split off in canonical form. -/
theorem exists_of_cutScheme {scheme : Bytes}
    (found : cutScheme text = .ok (some (scheme, behind))) :
    ∃ written, text = written ++ (schemeEnd ++ behind) ∧ IsScheme written ∧
      scheme = canonicalScheme written := by
  obtain ⟨written, more, rfl, members, long⟩ := split_of_cutScheme found
  rw [cutScheme_append members long] at found
  split at found
  · cases found
  · next short =>
    cases found
    exact ⟨written, rfl, ⟨members, Nat.not_lt.mp short⟩, rfl⟩

end Scheme

end Uri

end Greeter
