import Greeter.Proofs.Targets

/-! # The forms of a target

A target is a path on the server, the asterisk, an authority alone, or an authority behind
a scheme with whatever follows it (`Uri.Spells`). The reader takes the texts of these forms,
up to the greatest length, and no others (`Uri.ofBytes_eq_ok_iff`).
-/

namespace Greeter

namespace Uri

/-- The text is a way to write the target. Behind the path and the query stands nothing, or a
fragment that begins with a hash. -/
inductive Spells : Bytes → Uri → Prop
  | origin {text path : Bytes} {query : Option Bytes} (starts : text.head? = some slash)
      (kept : text.takeWhile (· != hash) = path ++ renderQuery query)
      (isPath : IsPath path query) : Spells text (.origin path query)
  | asterisk : Spells [star] .asterisk
  | authority {name : Bytes} (isAuthority : IsAuthority name) (nonempty : name ≠ [])
      (notStar : name ≠ [star]) : Spells name (.authority name)
  | absolute {scheme name rest path : Bytes} {query : Option Bytes} (isScheme : IsScheme scheme)
      (isAuthority : IsAuthority name) (nonempty : name ≠ [])
      (ends : ∀ byte ∈ rest.head?, ByteClass.authorityEnd.has byte = true)
      (kept : rest.takeWhile (· != hash) = path ++ renderQuery query)
      (isPath : IsPath path query) :
      Spells (scheme ++ (schemeEnd ++ (name ++ rest)))
        (.absolute (canonicalScheme scheme) name (if path = [] then [slash] else path) query)

theorem IsAuthority.slash_notMem {name : Bytes} (isAuthority : IsAuthority name) :
    slash ∉ name := by
  intro member
  exact absurd (List.all_eq_true.mp isAuthority.unended slash member) (by decide)

theorem IsScheme.slash_notMem {scheme : Bytes} (isScheme : IsScheme scheme) : slash ∉ scheme :=
  ByteClass.notMem_of_all isScheme.schemeBytes (by decide)

section Cases

variable {text : Bytes}

/-- A target that starts with a slash is a path. -/
theorem ofBytes_of_slash (short : text.length ≤ maxLength) (starts : text.head? = some slash) :
    ofBytes text = (readPath text).map fun found => .origin found.1 found.2 := by
  rw [ofBytes.eq_def, if_neg (Nat.not_lt.mpr short)]
  cases text with
  | nil => cases starts
  | cons first rest =>
      cases starts
      cases rest with
      | nil => decide
      | cons second rest =>
          dsimp only
          rw [if_pos rfl]
          cases readPath (slash :: second :: rest) <;> rfl

/-- A target of several bytes that does not start with a slash is read in full. -/
theorem ofBytes_of_head_ne (short : text.length ≤ maxLength) (long : 1 < text.length)
    (other : text.head? ≠ some slash) : ofBytes text = readFull text := by
  rw [ofBytes.eq_def, if_neg (Nat.not_lt.mpr short)]
  match text, long, other with
  | first :: second :: rest, _, other =>
      dsimp only
      rw [if_neg]
      rintro rfl
      exact other rfl

end Cases

section Found

variable {text : Bytes} {uri : Uri}

/-- A target of one byte is a way to write what it is read as. -/
theorem spells_of_readSingle {byte : UInt8} (found : readSingle byte = .ok uri) :
    Spells [byte] uri := by
  rw [readSingle] at found
  split at found
  · next isSlash =>
    cases found
    subst isSlash
    exact .origin rfl rfl ⟨by decide, rfl, Bytes.isText_of_ascii (by decide)⟩
  split at found
  · next isStar =>
    cases found
    subst isStar
    exact .asterisk
  next notSlash notStar =>
  cases read : readAuthority [byte] with
  | error reason => rw [read] at found; cases found
  | ok parts =>
      obtain ⟨name, rest⟩ := parts
      obtain ⟨-, written, isAuthority, -⟩ := readAuthority_eq_ok_iff.mp read
      rw [read] at found
      dsimp only at found
      split at found
      · next none =>
        cases found
        rw [none, List.append_nil] at written
        subst written
        exact .authority isAuthority (List.cons_ne_nil byte []) (mt List.head_eq_of_cons_eq notStar)
      · cases found

/-- A target that is read in full is a way to write what it is read as. -/
theorem spells_of_readFull (long : 1 < text.length) (found : readFull text = .ok uri) :
    Spells text uri := by
  obtain ⟨cut, isCut, found⟩ := exists_of_bind_eq_ok found
  cases cut with
  | none =>
      obtain ⟨⟨name, rest⟩, isName, found⟩ := exists_of_bind_eq_ok found
      obtain ⟨nonempty, written, isAuthority, -⟩ := readAuthority_eq_ok_iff.mp isName
      dsimp only at found
      split at found
      · next none =>
        cases found
        rw [none, List.append_nil] at written
        subst written
        refine .authority isAuthority nonempty ?_
        -- The asterisk alone would pass for an authority, but never comes here.
        rintro rfl
        exact absurd long (by decide)
      · cases found
  | some parts =>
      obtain ⟨scheme, behind⟩ := parts
      obtain ⟨written, isText, isScheme, isCanonical⟩ := exists_of_cutScheme isCut
      obtain ⟨⟨name, rest⟩, isName, found⟩ := exists_of_bind_eq_ok found
      obtain ⟨-, isBehind, isAuthority, ends⟩ := readAuthority_eq_ok_iff.mp isName
      dsimp only at found
      split at found
      · cases found
      next named =>
      obtain ⟨⟨path, query⟩, read, found⟩ := exists_of_bind_eq_ok found
      obtain ⟨kept, isPath⟩ := readPath_eq_ok_iff.mp read
      cases found
      rw [isText, isBehind, isCanonical]
      exact .absolute isScheme isAuthority named ends kept isPath

theorem length_le_of_ofBytes (found : ofBytes text = .ok uri) : text.length ≤ maxLength := by
  by_contra tooLong
  rw [ofBytes.eq_def, if_pos (Nat.not_le.mp tooLong)] at found
  cases found

/-- What is read is spelled by the text. -/
theorem spells_of_ofBytes (found : ofBytes text = .ok uri) : Spells text uri := by
  have short := length_le_of_ofBytes found
  by_cases starts : text.head? = some slash
  · rw [ofBytes_of_slash short starts] at found
    cases read : readPath text with
    | error reason => rw [read] at found; cases found
    | ok parts =>
        obtain ⟨path, query⟩ := parts
        obtain ⟨kept, isPath⟩ := readPath_eq_ok_iff.mp read
        rw [read] at found
        cases found
        exact .origin starts kept isPath
  · by_cases long : 1 < text.length
    · rw [ofBytes_of_head_ne short long starts] at found
      exact spells_of_readFull long found
    · rw [ofBytes.eq_def, if_neg (Nat.not_lt.mpr short)] at found
      match text, long, found with
      | [byte], _, found => exact spells_of_readSingle found
      | _ :: _ :: rest, short, _ => exact absurd (Nat.le_add_left 2 rest.length) short

end Found

section Read

variable {scheme name rest path : Bytes} {query : Option Bytes}

theorem readAuthority_self (isAuthority : IsAuthority name) (nonempty : name ≠ []) :
    readAuthority name = .ok (name, []) := by
  refine readAuthority_eq_ok_iff.mpr ⟨nonempty, (List.append_nil name).symm, isAuthority, ?_⟩
  rintro _ ⟨⟩

theorem readFull_authority (isAuthority : IsAuthority name) (nonempty : name ≠ []) :
    readFull name = .ok (.authority name) := by
  rw [readFull, cutScheme_of_notMem isAuthority.slash_notMem]
  change (readAuthority name >>= _) = _
  rw [readAuthority_self isAuthority nonempty]
  rfl

/-- An authority alone is read as itself, unless it is the asterisk or too long. -/
theorem ofBytes_authority (isAuthority : IsAuthority name) (nonempty : name ≠ [])
    (notStar : name ≠ [star]) (short : name.length ≤ maxLength) :
    ofBytes name = .ok (.authority name) := by
  have noSlash := isAuthority.slash_notMem
  by_cases long : 1 < name.length
  · rw [ofBytes_of_head_ne short long, readFull_authority isAuthority nonempty]
    exact fun starts => noSlash (List.mem_of_mem_head? starts)
  · obtain ⟨byte, rfl⟩ := List.length_eq_one_iff.mp
      (le_antisymm (Nat.not_lt.mp long) (List.length_pos_iff.mpr nonempty))
    have notSlash : byte ≠ slash := fun same => noSlash (by rw [same]; exact List.mem_cons_self)
    have notStar : byte ≠ star := fun same => notStar (by rw [same])
    rw [ofBytes.eq_def, if_neg (Nat.not_lt.mpr short)]
    dsimp only
    rw [readSingle, if_neg notSlash, if_neg notStar, readAuthority_self isAuthority nonempty]
    rfl

/-- An absolute target is longer than the mark behind its scheme. -/
theorem three_lt_length_absolute (nonempty : name ≠ []) :
    3 < (scheme ++ (schemeEnd ++ (name ++ rest))).length := by
  have := List.length_pos_iff.mpr nonempty
  simp only [List.length_append, List.length_cons, List.length_nil]
  omega

/-- An absolute target is read part by part. -/
theorem readFull_absolute (isScheme : IsScheme scheme) (isAuthority : IsAuthority name)
    (nonempty : name ≠ [])
    (ends : ∀ byte ∈ rest.head?, ByteClass.authorityEnd.has byte = true)
    (kept : rest.takeWhile (· != hash) = path ++ renderQuery query) (isPath : IsPath path query) :
    readFull (scheme ++ (schemeEnd ++ (name ++ rest))) = .ok
      (.absolute (canonicalScheme scheme) name (if path = [] then [slash] else path) query) := by
  have named : readAuthority (name ++ rest) = .ok (name, rest) :=
    readAuthority_eq_ok_iff.mpr
      ⟨List.append_ne_nil_of_left_ne_nil nonempty rest, rfl, isAuthority, ends⟩
  rw [readFull, cutScheme_append isScheme.schemeBytes (three_lt_length_absolute nonempty),
    if_neg (Nat.not_lt.mpr isScheme.short)]
  change (readAuthority _ >>= _) = _
  rw [named]
  change (if name = [] then _ else _) = _
  rw [if_neg nonempty, readPath_eq_ok_iff.mpr ⟨kept, isPath⟩]
  rfl

/-- A scheme holds no slash, and behind the empty one stands a colon. -/
theorem head?_absolute_ne (noSlash : slash ∉ scheme) :
    (scheme ++ (schemeEnd ++ rest)).head? ≠ some slash := by
  intro starts
  cases scheme with
  | nil => cases starts
  | cons first others =>
      cases starts
      exact noSlash List.mem_cons_self

variable {text : Bytes} {uri : Uri}

/-- A text is read as the target that it spells. -/
theorem Spells.ofBytes (spells : Spells text uri) (short : text.length ≤ maxLength) :
    Uri.ofBytes text = .ok uri := by
  cases spells with
  | origin starts kept isPath =>
      rw [ofBytes_of_slash short starts, readPath_eq_ok_iff.mpr ⟨kept, isPath⟩]
      rfl
  | asterisk => rfl
  | authority isAuthority nonempty notStar =>
      exact ofBytes_authority isAuthority nonempty notStar short
  | absolute isScheme isAuthority nonempty ends kept isPath =>
      rw [ofBytes_of_head_ne short (Nat.lt_trans (by decide) (three_lt_length_absolute nonempty))
        (head?_absolute_ne isScheme.slash_notMem),
        readFull_absolute isScheme isAuthority nonempty ends kept isPath]

/-- **The reader takes the targets that are spelled right**, if they are not too long. -/
theorem ofBytes_eq_ok_iff :
    Uri.ofBytes text = .ok uri ↔ text.length ≤ maxLength ∧ Spells text uri :=
  ⟨fun found => ⟨length_le_of_ofBytes found, spells_of_ofBytes found⟩,
    fun spelled => spelled.2.ofBytes spelled.1⟩

end Read

end Uri

end Greeter
