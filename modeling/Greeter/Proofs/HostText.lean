import Greeter.Address.Endpoint
import Greeter.Proofs.RequestText
import Greeter.Proofs.Separators
import Greeter.Proofs.WrittenNumbers

/-! # Texts of hosts

The text of a host is read back as that host (`Host.ofChars?_chars`). For IPv4 each octet
is a piece between points. For IPv6 the gap in the text falls on the run of zero groups
that was left out, whatever its place and length, and the groups on both sides of it are
the pieces between colons; an address that holds an IPv4 address ends with the text of
that one.
-/

namespace Greeter

namespace Ipv4

/-- The characters of an IPv4 address. -/
def alphabet : List Char := '.' :: Numeral.digits 10

/-- An IPv4 address is digits and points. -/
theorem chars_subset (address : Ipv4) : address.chars ⊆ alphabet := by
  intro character member
  rcases eq_or_mem_of_mem_intercalate member with rfl | ⟨piece, listed, inside⟩
  · exact List.mem_cons_self
  · obtain ⟨octet, -, rfl⟩ := List.mem_map.mp listed
    exact List.mem_cons_of_mem '.' (Numeral.toDigits_subset (by decide) octet.toNat inside)

theorem octet?_toDigits (octet : UInt8) : octet? (Nat.toDigits 10 octet.toNat) = some octet := by
  revert octet
  apply Bytes.forall_byte
  decide +kernel

/-- An IPv4 address is read back from its text. -/
theorem ofChars?_chars (address : Ipv4) : ofChars? address.chars = some address := by
  have whole : ∀ piece ∈ address.octets.map fun octet => Nat.toDigits 10 octet.toNat,
      '.' ∉ piece := by
    intro piece member
    obtain ⟨octet, -, rfl⟩ := List.mem_map.mp member
    exact fun point => absurd (Numeral.toDigits_subset (by decide) octet.toNat point) (by decide)
  rw [ofChars?, chars, pieces_intercalate whole (by simp [octets])]
  simp only [octets, List.map_cons, List.map_nil, octet?_toDigits]

/-- What holds a colon is no octet. -/
theorem octet?_eq_none_of_mem {text : List Char} (colon : ':' ∈ text) : octet? text = none := by
  unfold octet?
  split
  · rw [Numeral.read?_eq_none_of_mem (List.mem_map_of_mem colon) (by decide)]
    rfl
  · rfl

/-- No IPv4 address has a colon in its text. -/
theorem ofChars?_eq_none_of_mem {text : List Char} (colon : ':' ∈ text) :
    ofChars? text = none := by
  -- The colon is in one of the pieces between the points, and that one is no octet.
  have unread : none ∈ (pieces '.' text).map octet? := by
    have joined : ['.'].intercalate (pieces '.' text) = text := by
      rw [pieces_eq_splitOn, List.intercalate_splitOn]
    rw [← joined] at colon
    rcases eq_or_mem_of_mem_intercalate colon with point | ⟨piece, listed, inside⟩
    · exact absurd point (by decide)
    · exact List.mem_map.mpr ⟨piece, listed, octet?_eq_none_of_mem inside⟩
  rw [ofChars?]
  split
  · next found =>
    rw [found] at unread
    simp at unread
  · rfl

/-- Two groups are put together again from the octets they fall into. -/
theorem groups_ofGroups (high low : UInt16) : (ofGroups high low).groups = [high, low] := by
  have rejoined (group : UInt16) :
      (group >>> 8).toUInt8.toUInt16 <<< 8 ||| group.toUInt8.toUInt16 = group := by
    apply UInt16.toNat_inj.mp
    have small : group.toNat < 65536 := group.toNat_lt
    have upper : group.toNat / 256 < 256 := by omega
    have room : group.toNat / 256 * 256 < 65536 := by omega
    have lower : group.toNat % 256 < 2 ^ 8 := Nat.mod_lt _ (by decide)
    have shifted := Nat.shiftLeft_add_eq_or_of_lt lower (group.toNat / 256)
    simp only [Nat.shiftLeft_eq, Nat.reducePow] at shifted
    simp only [UInt16.toNat_or, UInt16.toNat_shiftLeft, UInt16.toNat_shiftRight,
      UInt8.toNat_toUInt16, UInt16.toNat_toUInt8, UInt16.reduceToNat, Nat.reduceMod,
      Nat.shiftRight_eq_div_pow, Nat.shiftLeft_eq, Nat.reducePow, Nat.mod_eq_of_lt upper,
      Nat.mod_eq_of_lt room]
    omega
  rw [groups, ofGroups, rejoined, rejoined]

end Ipv4

namespace Ipv6

/-- How a group is written. -/
def groupChars (group : UInt16) : List Char := Nat.toDigits 16 group.toNat

theorem joined_eq (groups : List UInt16) :
    joined groups = [':'].intercalate (groups.map groupChars) := rfl

theorem joined_singleton (group : UInt16) : joined [group] = groupChars group :=
  List.intercalate_singleton

theorem joined_cons {rest : List UInt16} (nonempty : rest ≠ []) (group : UInt16) :
    joined (group :: rest) = groupChars group ++ ':' :: joined rest := by
  rw [joined_eq, List.map_cons, List.intercalate_cons_of_ne_nil (by simpa using nonempty),
    List.append_assoc, List.singleton_append, joined_eq]

theorem groupChars_subset (group : UInt16) : groupChars group ⊆ Numeral.digits 16 :=
  Numeral.toDigits_subset (by decide) group.toNat

theorem colon_notMem_groupChars (group : UInt16) : ':' ∉ groupChars group :=
  fun colon => absurd (groupChars_subset group colon) (by decide)

/-- A group is read back from its digits, of which there are no more than four. -/
theorem group?_groupChars (group : UInt16) : group? (groupChars group) = some group := by
  have short : (groupChars group).length ≤ 4 :=
    (Nat.length_toDigits_le_iff (by decide) (by decide)).mpr group.toNat_lt
  rw [group?, if_pos short, groupChars,
    Numeral.read?_toDigits (by decide) (by decide) group.toNat_lt, Option.map_some,
    UInt16.ofNat_toNat]

/-- No group has a point in its text. -/
theorem group?_eq_none_of_mem {text : List Char} (point : '.' ∈ text) : group? text = none := by
  unfold group?
  split
  · rw [Numeral.read?_eq_none_of_mem (List.mem_map_of_mem point) (by decide)]
    rfl
  · rfl

/-- Groups are read back from their texts, whether or not a dotted tail is allowed. -/
theorem groups?_groupChars (dottedTail : Bool) (groups : List UInt16) :
    groups? dottedTail (groups.map groupChars) = some groups := by
  induction groups with
  | nil => rfl
  | cons group groups ih =>
      cases groups with
      | nil =>
          rw [List.map_singleton, groups?, group?_groupChars]
      | cons second groups =>
          rw [List.map_cons] at ih ⊢
          rw [List.map_cons, groups?, group?_groupChars, ih]
          · rfl
          · simp

/-- The pieces between the colons are the texts of the groups. -/
theorem pieces_joined {groups : List UInt16} (nonempty : groups ≠ []) :
    pieces ':' (joined groups) = groups.map groupChars := by
  apply pieces_intercalate
  · intro piece member
    obtain ⟨group, -, rfl⟩ := List.mem_map.mp member
    exact colon_notMem_groupChars group
  · simpa using nonempty

/-- The text of groups starts with a digit. -/
theorem exists_joined_eq_cons {groups : List UInt16} (nonempty : groups ≠ []) :
    ∃ digit rest, joined groups = digit :: rest ∧ digit ≠ ':' := by
  obtain ⟨group, others, rfl⟩ := List.exists_cons_of_ne_nil nonempty
  have digits : groupChars group ≠ [] := Nat.toDigits_ne_nil
  obtain ⟨digit, digits, written⟩ := List.exists_cons_of_ne_nil digits
  have noColon : digit ≠ ':' := by
    rintro rfl
    exact colon_notMem_groupChars group (by rw [written]; exact List.mem_cons_self)
  cases others with
  | nil => exact ⟨digit, digits, (joined_singleton group).trans written, noColon⟩
  | cons second others =>
      rw [joined_cons (List.cons_ne_nil second others), written]
      exact ⟨digit, _, rfl, noColon⟩

/-- What stands on one side of the gap is read back, also where there is nothing. -/
theorem side?_joined (dottedTail : Bool) (groups : List UInt16) :
    side? dottedTail (joined groups) = some groups := by
  by_cases empty : groups = []
  · subst groups
    rfl
  · obtain ⟨digit, rest, written, -⟩ := exists_joined_eq_cons empty
    have nonempty : joined groups ≠ [] := written ▸ List.cons_ne_nil digit rest
    rw [side?, if_neg nonempty, pieces_joined empty, groups?_groupChars]

/-- The gap is looked for behind a character that does not begin it. -/
theorem cutAtGap_cons {character : Char} {rest : List Char}
    (single : character ≠ ':' ∨ rest.head? ≠ some ':') : cutAtGap (character :: rest) =
      (cutAtGap rest).map fun (before, after) => (character :: before, after) := by
  rw [cutAtGap]
  rintro after rfl rfl
  rcases single with other | other <;> exact other rfl

/-- The gap is looked for behind a text without a colon. -/
theorem cutAtGap_append {word : List Char} (noColon : ':' ∉ word) (rest : List Char) :
    cutAtGap (word ++ rest) =
      (cutAtGap rest).map fun (before, after) => (word ++ before, after) := by
  induction word with
  | nil => simp
  | cons character word ih =>
      rw [List.mem_cons, not_or] at noColon
      rw [List.cons_append, cutAtGap_cons (.inl (Ne.symm noColon.1)), ih noColon.2, Option.map_map]
      rfl

/-- There is no gap in the text of groups, nor at its end. -/
theorem cutAtGap_joined_append (groups : List UInt16) (rest : List Char) :
    cutAtGap (joined groups ++ rest) =
      (cutAtGap rest).map fun (before, after) => (joined groups ++ before, after) := by
  induction groups with
  | nil => simp [joined]
  | cons group groups ih =>
      by_cases last : groups = []
      · subst groups
        rw [joined_singleton]
        exact cutAtGap_append (colon_notMem_groupChars group) rest
      · obtain ⟨digit, digits, written, noColon⟩ := exists_joined_eq_cons last
        rw [joined_cons last, List.append_assoc, cutAtGap_append (colon_notMem_groupChars group),
          List.cons_append, cutAtGap_cons (.inr (by simpa [written] using noColon)), ih]
        simp only [Option.map_map, Function.comp_def, List.append_assoc, List.cons_append]

/-- So many groups from a position on are zero. -/
def IsZeroRun (groups : List UInt16) (run : Nat × Nat) : Prop :=
  groups = groups.take run.1 ++ (List.replicate run.2 0 ++ groups.drop (run.1 + run.2))

/-- The zeros counted from a place are a run that stands there. -/
theorem isZeroRun_zerosFrom (groups : List UInt16) (position : Nat) :
    IsZeroRun groups (position, zerosFrom groups position) := by
  have zeros : (groups.drop position).takeWhile (· == 0) =
      List.replicate (zerosFrom groups position) 0 := by
    apply List.eq_replicate_of_mem
    intro group member
    have := List.all_eq_true.mp (List.all_takeWhile (l := groups.drop position)) group member
    exact eq_of_beq this
  have behind := List.prefix_iff_eq_append.mp
    (List.takeWhile_prefix (l := groups.drop position) (· == 0))
  rw [zeros, List.length_replicate, List.drop_drop] at behind
  unfold IsZeroRun
  rw [behind, List.take_append_drop]

/-- What an address leaves out at its longest run of zero groups are zero groups. -/
theorem isZeroRun_longestZeros (groups : List UInt16) :
    IsZeroRun groups (longestZeros groups) := by
  refine List.foldlRecOn (motive := IsZeroRun groups) _ _ ?_ ?_
  · simp [IsZeroRun]
  · intro best isRun position _
    split
    · exact isZeroRun_zerosFrom groups position
    · exact isRun

/-- An address that holds an IPv4 address ends with its two groups, behind the groups of the
block. -/
theorem groups_of_mapped? {address : Ipv6} {inner : Ipv4} (holds : address.mapped? = some inner) :
    address.groups = [0, 0, 0, 0, 0, 0xffff] ++ inner.groups := by
  unfold mapped? at holds
  split at holds
  · next high low groups =>
    obtain rfl := Option.some.inj holds
    rw [groups, Ipv4.groups_ofGroups]
    rfl
  · cases holds

/-- A text with a gap is read as the address that has zero groups in the gap. -/
theorem ofChars?_of_cut {address : Ipv6} {text before after : List Char}
    {left right : List UInt16} {zeros : Nat} (cut : cutAtGap text = some (before, after))
    (leftSide : side? false before = some left) (rightSide : side? true after = some right)
    (parts : address.groups = left ++ (List.replicate zeros 0 ++ right)) (gap : 1 ≤ zeros) :
    ofChars? text = some address := by
  have whole := address.length_groups
  rw [parts, List.length_append, List.length_append, List.length_replicate] at whole
  have room : left.length + right.length ≤ 7 := by omega
  have missing : 8 - (left.length + right.length) = zeros := by omega
  rw [ofChars?, cut]
  simp only [leftSide, rightSide, Option.bind_eq_bind, Option.bind_some, room, ↓reduceDIte,
    missing, List.append_assoc, ← parts]

/-- Joined groups around a gap are read as the address that has zeros in the gap. -/
theorem ofChars?_gap {address : Ipv6} {left right : List UInt16} {zeros : Nat}
    (parts : address.groups = left ++ (List.replicate zeros 0 ++ right)) (gap : 1 ≤ zeros) :
    ofChars? (joined left ++ ':' :: ':' :: joined right) = some address := by
  refine ofChars?_of_cut ?_ (side?_joined false left) (side?_joined true right) parts gap
  rw [cutAtGap_joined_append, cutAtGap, Option.map_some]
  exact congrArg (fun before => some (before, joined right)) (List.append_nil (joined left))

/-- Without a gap an address is read back group by group. -/
theorem ofChars?_joined (address : Ipv6) : ofChars? (joined address.groups) = some address := by
  have nonempty : address.groups ≠ [] :=
    List.ne_nil_of_length_pos (by rw [address.length_groups]; decide)
  have noGap := cutAtGap_joined_append address.groups []
  rw [List.append_nil, cutAtGap, Option.map_none] at noGap
  rw [ofChars?, noGap]
  simp only [pieces_joined nonempty, groups?_groupChars, Option.bind_eq_bind, Option.bind_some,
    address.length_groups, ↓reduceDIte]

/-- An address that holds an IPv4 address is read back from the text that ends with it. -/
theorem ofChars?_mapped {address : Ipv6} {inner : Ipv4} (holds : address.mapped? = some inner) :
    ofChars? ([':', ':', 'f', 'f', 'f', 'f', ':'] ++ inner.chars) = some address := by
  have point : '.' ∈ inner.chars := by
    rw [Ipv4.chars, Ipv4.octets, List.map_cons, List.map_cons, List.intercalate_cons_cons]
    simp
  have noColon : ':' ∉ inner.chars :=
    fun colon => absurd (inner.chars_subset colon) (by decide)
  have found : pieces ':' (['f', 'f', 'f', 'f'] ++ ':' :: inner.chars) =
      [['f', 'f', 'f', 'f'], inner.chars] := by
    rw [pieces_eq_splitOn, List.splitOn_append_cons_self_of_not_mem (by decide),
      List.splitOn_eq_singleton noColon]
  have tail : side? true (['f', 'f', 'f', 'f'] ++ ':' :: inner.chars) =
      some (0xffff :: inner.groups) := by
    have first : group? ['f', 'f', 'f', 'f'] = some 0xffff := by decide
    rw [side?, if_neg (by simp), found]
    simp only [groups?, first, group?_eq_none_of_mem point, Ipv4.ofChars?_chars, ↓reduceIte,
      Option.map_some, Option.bind_eq_bind, Option.bind_some, Option.pure_def]
  have parts : address.groups = [] ++ (List.replicate 5 0 ++ 0xffff :: inner.groups) :=
    groups_of_mapped? holds
  exact ofChars?_of_cut rfl rfl tail parts (by decide)

/-- An IPv6 address is read back from its text. -/
theorem ofChars?_chars (address : Ipv6) : ofChars? address.chars = some address := by
  unfold chars
  cases holds : address.mapped? with
  | some inner => exact ofChars?_mapped holds
  | none =>
      have isRun := isZeroRun_longestZeros address.groups
      dsimp only
      split
      · next long =>
        rw [List.append_assoc]
        exact ofChars?_gap isRun (by omega)
      · exact ofChars?_joined address

/-- No IPv6 address is written without a colon. -/
theorem colon_mem_chars (address : Ipv6) : ':' ∈ address.chars := by
  unfold chars
  split
  · simp
  · dsimp only
    split
    · simp
    · obtain ⟨first, rest, groups⟩ :=
        List.exists_cons_of_length_eq_add_one address.length_groups
      have more : rest ≠ [] := by
        rintro rfl
        exact absurd (groups ▸ address.length_groups) (by simp)
      rw [groups, joined_cons more]
      simp

end Ipv6

/-- A host is read back from its text. -/
theorem Host.ofChars?_chars (host : Host) : ofChars? host.chars = some host := by
  cases host with
  | v4 address =>
      rw [chars, ofChars?, address.ofChars?_chars]
  | v6 address =>
      rw [chars, ofChars?, Ipv4.ofChars?_eq_none_of_mem address.colon_mem_chars,
        address.ofChars?_chars, Option.map_some]

end Greeter
