import Greeter.Proofs.EndpointText

/-! # Canonical texts of IPv6 hosts

Reading a text back does not tell which of its spellings a host is printed in. An address is
printed in one that its groups determine (`Ipv6.IsCanonical`): the gap is the first of its
longest runs of zero groups, if there is one of two or more, all other groups are in
hexadecimal, and an address of the block for IPv4 ends with one. The search for the run
looks at each place once, and no run that it has passed is longer than the one it
holds (`Ipv6.Leads`).
-/

namespace Greeter

/-- An IPv4 address is its four octets in decimal, with points between them. -/
theorem Ipv4.writesRow_chars (address : Ipv4) :
    Numeral.WritesRow 10 '.' (address.octets.map UInt8.toNat) address.chars := by
  have row : Numeral.WritesRow 10 '.' (address.octets.map UInt8.toNat)
      (['.'].intercalate ((address.octets.map UInt8.toNat).map (Nat.toDigits 10))) :=
    Numeral.writesRow_toDigits (by decide) (by decide) '.' _
  rwa [List.map_map] at row

namespace Ipv6

/-- A run of zero groups that goes on in neither direction. -/
structure ZeroRun (groups : List UInt16) where
  before : List UInt16
  length : Nat
  after : List UInt16
  split : groups = before ++ (List.replicate length 0 ++ after)
  positive : 0 < length
  notBefore : before.getLast? ≠ some 0
  notAfter : after.head? ≠ some 0

/-- The run has two groups at least, and it is the first of the longest runs. -/
structure ZeroRun.IsLeftOut {groups : List UInt16} (run : ZeroRun groups) : Prop where
  long : 2 ≤ run.length
  longest : ∀ other : ZeroRun groups, other.length ≤ run.length
  first : ∀ other : ZeroRun groups, other.before.length < run.before.length →
    other.length < run.length

/-- The groups that the addresses of the block for IPv4 start with. -/
def mappedPrefix : List UInt16 := [0, 0, 0, 0, 0, 0xffff]

/-- The groups as numbers. -/
def numbers (groups : List UInt16) : List Nat := groups.map UInt16.toNat

/-- How an address is to be written. -/
structure IsCanonical (address : Ipv6) (text : List Char) : Prop where
  /-- There is a gap if two adjacent groups are zero, and only then. -/
  gap_iff : ¬ mappedPrefix <+: address.groups →
    ([':', ':'] <:+: text ↔ [0, 0] <:+: address.groups)
  /-- The gap stands for the first of the longest runs, and the other groups for themselves. -/
  gap : ¬ mappedPrefix <+: address.groups → ∀ left right, text = left ++ ':' :: ':' :: right →
    ∃ run : ZeroRun address.groups, run.IsLeftOut ∧
      Numeral.WritesRow 16 ':' (numbers run.before) left ∧
      Numeral.WritesRow 16 ':' (numbers run.after) right
  /-- Without a gap all groups stand for themselves. -/
  noGap : ¬ mappedPrefix <+: address.groups → ¬ [0, 0] <:+: address.groups →
    Numeral.WritesRow 16 ':' (numbers address.groups) text
  /-- In the block for IPv4 the last two groups are written as four octets. -/
  mapped : ∀ high low, address.groups = mappedPrefix ++ [high, low] →
    ∃ octets, text = "::ffff:".toList ++ octets ∧ Numeral.WritesRow 10 '.'
      [high.toNat / 256, high.toNat % 256, low.toNat / 256, low.toNat % 256] octets
  /-- Outside of it there are no octets. -/
  notMapped : ¬ mappedPrefix <+: address.groups → '.' ∉ text

section Search

variable {groups : List UInt16}

/-- The zeros counted from a place are those that stand there and those that follow. -/
theorem zerosFrom_append (before : List UInt16) (length : Nat) (after : List UInt16) :
    zerosFrom (before ++ (List.replicate length 0 ++ after)) before.length =
      length + zerosFrom after 0 := by
  rw [zerosFrom, List.drop_left, List.takeWhile_append_of_pos (by simp), List.length_append,
    List.length_replicate, zerosFrom, List.drop_zero]

theorem zerosFrom_of_length_le {position : Nat} (behind : groups.length ≤ position) :
    zerosFrom groups position = 0 := by
  rw [zerosFrom, List.drop_eq_nil_of_le behind, List.takeWhile_nil, List.length_nil]

/-- At the start of a run the zeros counted are the whole run. -/
theorem ZeroRun.zerosFrom_eq (run : ZeroRun groups) :
    zerosFrom groups run.before.length = run.length := by
  obtain ⟨before, length, after, rfl, -, -, notAfter⟩ := run
  have ends : zerosFrom after 0 = 0 := by
    rw [zerosFrom, List.drop_zero]
    cases after with
    | nil => rfl
    | cons first rest =>
        rw [List.head?_cons, ne_eq, Option.some.injEq] at notAfter
        rw [List.takeWhile_cons_of_neg (by simpa using notAfter), List.length_nil]
  rw [zerosFrom_append, ends, Nat.add_zero]

/-- Of the runs at the first places none is longer than the best one, and those before it
are shorter. -/
structure Leads (groups : List UInt16) (places : Nat) (best : Nat × Nat) : Prop where
  most : ∀ position < places, zerosFrom groups position ≤ best.2
  before : ∀ position < best.1, zerosFrom groups position < best.2

/-- One more place is looked at. -/
theorem Leads.step {places : Nat} {best : Nat × Nat} (leads : Leads groups places best) :
    Leads groups (places + 1)
      (if best.2 < zerosFrom groups places then (places, zerosFrom groups places) else best) := by
  split
  · next longer =>
    refine ⟨fun position below => ?_, fun position below => ?_⟩
    · rcases Nat.lt_succ_iff_lt_or_eq.mp below with passed | rfl
      · exact Nat.le_of_lt (Nat.lt_of_le_of_lt (leads.most position passed) longer)
      · exact Nat.le_refl _
    · exact Nat.lt_of_le_of_lt (leads.most position below) longer
  · next notLonger =>
    refine ⟨fun position below => ?_, leads.before⟩
    rcases Nat.lt_succ_iff_lt_or_eq.mp below with passed | rfl
    · exact leads.most position passed
    · exact Nat.not_lt.mp notLonger

/-- **The search finds the first of the longest runs.** -/
theorem leads_longestZeros (groups : List UInt16) :
    Leads groups groups.length (longestZeros groups) := by
  suffices found : ∀ places, Leads groups places ((List.range places).foldl (fun best position =>
      if best.2 < zerosFrom groups position then (position, zerosFrom groups position)
      else best) (0, 0)) from found groups.length
  intro places
  induction places with
  | zero => exact ⟨nofun, nofun⟩
  | succ places ih =>
      rw [List.range_succ, List.foldl_concat]
      exact ih.step

/-- No place in the address has more zeros in a row than the search finds. -/
theorem zerosFrom_le_longestZeros (groups : List UInt16) (position : Nat) :
    zerosFrom groups position ≤ (longestZeros groups).2 := by
  rcases Nat.lt_or_ge position groups.length with inside | behind
  · exact (leads_longestZeros groups).most position inside
  · rw [zerosFrom_of_length_le behind]
    exact Nat.zero_le _

/-- Zeros in a row are no more than the search finds. -/
theorem length_le_longestZeros {before after : List UInt16} {length : Nat}
    (zeros : groups = before ++ (List.replicate length 0 ++ after)) :
    length ≤ (longestZeros groups).2 := by
  have found := zerosFrom_le_longestZeros groups before.length
  conv_lhs at found => rw [zeros, zerosFrom_append]
  omega

/-- What the search finds goes on in neither direction. -/
theorem exists_leftOut (long : 2 ≤ (longestZeros groups).2) :
    ∃ run : ZeroRun groups, run.IsLeftOut ∧ run.before = groups.take (longestZeros groups).1 ∧
      run.after = groups.drop ((longestZeros groups).1 + (longestZeros groups).2) := by
  have leads := leads_longestZeros groups
  have split := isZeroRun_longestZeros groups
  have bound {before after : List UInt16} {length : Nat}
      (zeros : groups = before ++ (List.replicate length 0 ++ after)) :=
    length_le_longestZeros zeros
  generalize longestZeros groups = best at long leads split bound ⊢
  obtain ⟨start, length⟩ := best
  dsimp only at long split ⊢
  refine ⟨⟨_, length, _, split, by omega, ?_, ?_⟩, ⟨long, ?_, ?_⟩, rfl, rfl⟩
  · intro zero
    obtain ⟨front, ends⟩ := List.getLast?_eq_some_iff.mp zero
    have longer : groups = front ++ (List.replicate (length + 1) 0 ++
        groups.drop (start + length)) := by
      rw [List.replicate_succ, List.cons_append, List.append_cons, ← ends]
      exact split
    exact absurd (bound longer) (by simp)
  · intro zero
    obtain ⟨rest, starts⟩ := List.head?_eq_some_iff.mp zero
    have longer : groups = groups.take start ++ (List.replicate (length + 1) 0 ++ rest) := by
      rw [List.replicate_succ', List.append_assoc, List.singleton_append, ← starts]
      exact split
    exact absurd (bound longer) (by simp)
  · exact fun other => bound other.split
  · intro other before
    rw [← other.zerosFrom_eq]
    exact leads.before _ (Nat.lt_of_lt_of_le before (List.length_take_le start groups))

/-- The search finds two groups at least where two adjacent ones are zero. -/
theorem two_le_longestZeros_iff : 2 ≤ (longestZeros groups).2 ↔ [0, 0] <:+: groups := by
  constructor
  · intro long
    obtain ⟨run, leftOut, -⟩ := exists_leftOut long
    obtain ⟨more, length⟩ := Nat.exists_eq_add_of_le leftOut.long
    refine ⟨run.before, List.replicate more 0 ++ run.after, ?_⟩
    conv_rhs => rw [run.split, length, List.replicate_add]
    simp
  · rintro ⟨before, after, rfl⟩
    exact length_le_longestZeros (List.append_assoc before [0, 0] after)

end Search

section Gap

variable {text left right before after : List Char}

/-- A text is cut at a gap wherever it has one. -/
theorem cutAtGap_eq_none_iff : cutAtGap text = none ↔ ¬ [':', ':'] <:+: text := by
  fun_induction cutAtGap text with
  | case1 after => simpa using List.infix_append [] [':', ':'] after
  | case2 character rest notGap ih =>
      have notHere : ¬ [':', ':'] <+: character :: rest := by
        rintro ⟨behind, same⟩
        obtain ⟨rfl, rfl⟩ := List.cons.inj same
        exact notGap behind rfl rfl
      rw [Option.map_eq_none_iff, ih, List.infix_cons_iff, not_or, and_iff_right notHere]
  | case3 => simp

/-- Where there is no other gap before one and none behind it, a text has no other. -/
theorem gap_unique (same : left ++ ':' :: ':' :: right = before ++ ':' :: ':' :: after)
    (first : ¬ [':', ':'] <:+: before ++ [':']) (last : ¬ [':', ':'] <:+: ':' :: after) :
    left = before ∧ right = after := by
  obtain ⟨between, rfl, split⟩ | ⟨between, rfl, split⟩ := List.append_eq_append_iff.mp same
  · -- Otherwise the first gap would touch the other one or stand before it.
    match between with
    | [] => simpa using split
    | [_] =>
        obtain ⟨rfl, -⟩ := List.cons.inj split
        exact absurd ⟨left, [], by simp⟩ first
    | _ :: _ :: rest =>
        obtain ⟨rfl, behind⟩ := List.cons.inj split
        obtain ⟨rfl, -⟩ := List.cons.inj behind
        exact absurd ⟨left, rest ++ [':'], by simp⟩ first
  · match between with
    | [] => simpa using split.symm
    | _ :: rest =>
        obtain ⟨-, behind⟩ := List.cons.inj split
        exact absurd ⟨rest, right, by simp [behind]⟩ last

/-- The text of groups has no gap, also with a colon at either end. -/
theorem noGap_joined (groups : List UInt16) :
    ¬ [':', ':'] <:+: joined groups ++ [':'] ∧ ¬ [':', ':'] <:+: ':' :: joined groups := by
  rw [← cutAtGap_eq_none_iff, ← cutAtGap_eq_none_iff]
  have uncut : cutAtGap (joined groups) = none := by
    have uncut := cutAtGap_joined_append groups []
    rwa [List.append_nil, cutAtGap, Option.map_none] at uncut
  constructor
  · exact cutAtGap_joined_append groups [':']
  · by_cases empty : groups = []
    · subst groups
      rfl
    · obtain ⟨digit, rest, written, noColon⟩ := exists_joined_eq_cons empty
      rw [cutAtGap_cons (.inr (by simpa [written] using noColon)), uncut, Option.map_none]

end Gap

/-- Groups are joined in hexadecimal, in order and without leading zeros. -/
theorem writesRow_joined (groups : List UInt16) :
    Numeral.WritesRow 16 ':' (numbers groups) (joined groups) := by
  have row : Numeral.WritesRow 16 ':' (numbers groups)
      ([':'].intercalate ((numbers groups).map (Nat.toDigits 16))) :=
    Numeral.writesRow_toDigits (by decide) (by decide) ':' (numbers groups)
  rwa [numbers, List.map_map] at row

/-- A point stands only between octets. -/
theorem point_notMem_joined (groups : List UInt16) : '.' ∉ joined groups :=
  fun point => absurd (joined_subset_digits groups point) (by decide)

section Blocks

variable {address : Ipv6} {high low : UInt16}

/-- The last two groups of an address in the block are the IPv4 address it holds. -/
theorem mapped?_of_groups (block : address.groups = mappedPrefix ++ [high, low]) :
    address.mapped? = some (Ipv4.ofGroups high low) := by
  rw [mapped?, block]
  rfl

/-- An address outside of the block holds no IPv4 address. -/
theorem mapped?_eq_none (outside : ¬ mappedPrefix <+: address.groups) :
    address.mapped? = none := by
  rw [Option.eq_none_iff_forall_ne_some]
  intro inner holds
  exact outside ⟨inner.groups, (groups_of_mapped? holds).symm⟩

/-- The octets of two groups are the upper and the lower half of each. -/
theorem octets_ofGroups : (Ipv4.ofGroups high low).octets.map UInt8.toNat =
    [high.toNat / 256, high.toNat % 256, low.toNat / 256, low.toNat % 256] := by
  have small (group : UInt16) : group.toNat / 256 < 256 := by
    have := group.toNat_lt
    omega
  simp [Ipv4.ofGroups, Ipv4.octets, Nat.shiftRight_eq_div_pow, Nat.mod_eq_of_lt (small _)]

/-- Where no two adjacent groups are zero, all groups are printed. -/
theorem chars_of_noGap (outside : address.mapped? = none)
    (short : ¬ [0, 0] <:+: address.groups) : address.chars = joined address.groups := by
  rw [← two_le_longestZeros_iff] at short
  rw [chars, outside]
  exact if_neg short

/-- Where two adjacent groups are zero, the first of the longest runs is left out. -/
theorem chars_of_gap (outside : address.mapped? = none) (long : [0, 0] <:+: address.groups) :
    ∃ run : ZeroRun address.groups, run.IsLeftOut ∧
      address.chars = joined run.before ++ ':' :: ':' :: joined run.after := by
  rw [← two_le_longestZeros_iff] at long
  obtain ⟨run, leftOut, before, after⟩ := exists_leftOut long
  refine ⟨run, leftOut, ?_⟩
  rw [chars, outside, before, after]
  exact (if_pos long).trans (List.append_assoc _ [':', ':'] _)

end Blocks

/-- An address is printed with a gap if and only if two adjacent groups are zero. -/
theorem gap_infix_chars_iff {address : Ipv6} (outside : address.mapped? = none) :
    [':', ':'] <:+: address.chars ↔ [0, 0] <:+: address.groups := by
  constructor
  · intro hasGap
    by_contra short
    rw [chars_of_noGap outside short] at hasGap
    exact (noGap_joined address.groups).1 (hasGap.trans (List.prefix_append _ _).isInfix)
  · intro adjacent
    obtain ⟨run, -, written⟩ := chars_of_gap outside adjacent
    exact ⟨joined run.before, joined run.after, by simp [written]⟩

/-- **An address is printed in its canonical text.** -/
theorem isCanonical_chars (address : Ipv6) : IsCanonical address address.chars where
  gap_iff := fun outside => gap_infix_chars_iff (mapped?_eq_none outside)
  gap := by
    intro outside left right cut
    have adjacent := (gap_infix_chars_iff (mapped?_eq_none outside)).mp
      ⟨left, right, by simp [cut]⟩
    obtain ⟨run, leftOut, written⟩ := chars_of_gap (mapped?_eq_none outside) adjacent
    obtain ⟨rfl, rfl⟩ := gap_unique (cut.symm.trans written) (noGap_joined run.before).1
      (noGap_joined run.after).2
    exact ⟨run, leftOut, writesRow_joined run.before, writesRow_joined run.after⟩
  noGap := by
    intro outside short
    rw [chars_of_noGap (mapped?_eq_none outside) short]
    exact writesRow_joined address.groups
  mapped := by
    intro high low block
    refine ⟨(Ipv4.ofGroups high low).chars, ?_, ?_⟩
    · rw [chars, mapped?_of_groups block]
      rfl
    · rw [← octets_ofGroups]
      exact Ipv4.writesRow_chars _
  notMapped := by
    intro outside
    by_cases adjacent : [0, 0] <:+: address.groups
    · obtain ⟨run, -, written⟩ := chars_of_gap (mapped?_eq_none outside) adjacent
      simp [written, point_notMem_joined]
    · rw [chars_of_noGap (mapped?_eq_none outside) adjacent]
      exact point_notMem_joined address.groups

section Unique

variable {groups : List UInt16} {address : Ipv6} {text other : List Char}

/-- At most one run can be left out. -/
theorem ZeroRun.IsLeftOut.unique {run another : ZeroRun groups} (leftOut : run.IsLeftOut)
    (alsoLeftOut : another.IsLeftOut) :
    run.before = another.before ∧ run.after = another.after := by
  have lengths : run.length = another.length :=
    Nat.le_antisymm (alsoLeftOut.longest run) (leftOut.longest another)
  have places : run.before.length = another.before.length := by
    rcases Nat.lt_trichotomy run.before.length another.before.length with less | same | more
    · exact absurd lengths (Nat.ne_of_lt (alsoLeftOut.first run less))
    · exact same
    · exact absurd lengths (Nat.ne_of_gt (leftOut.first another more))
  have splits := run.split.symm.trans another.split
  obtain ⟨before, rest⟩ := List.append_inj splits places
  rw [lengths] at rest
  exact ⟨before, List.append_cancel_left rest⟩

/-- **An address has one canonical text.** -/
theorem IsCanonical.unique (canonical : address.IsCanonical text)
    (alsoCanonical : address.IsCanonical other) : text = other := by
  have sameRow {base : Nat} {separator : Char} {numbers : List Nat} {first second : List Char}
      (several : 1 < base) (small : base ≤ 16)
      (writes : Numeral.WritesRow base separator numbers first)
      (alsoWrites : Numeral.WritesRow base separator numbers second) : first = second :=
    (writes.eq_intercalate several small).trans (alsoWrites.eq_intercalate several small).symm
  by_cases block : mappedPrefix <+: address.groups
  · obtain ⟨rest, split⟩ := block
    have two : rest.length = 2 := by
      have whole := address.length_groups
      rw [← split, List.length_append] at whole
      exact Nat.add_left_cancel whole
    obtain ⟨high, low, rfl⟩ := List.length_eq_two.mp two
    obtain ⟨octets, rfl, written⟩ := canonical.mapped high low split.symm
    obtain ⟨others, rfl, alsoWritten⟩ := alsoCanonical.mapped high low split.symm
    rw [sameRow (by decide) (by decide) written alsoWritten]
  · by_cases adjacent : [0, 0] <:+: address.groups
    · obtain ⟨left, right, cut⟩ := (canonical.gap_iff block).mpr adjacent
      obtain ⟨otherLeft, otherRight, otherCut⟩ := (alsoCanonical.gap_iff block).mpr adjacent
      rw [List.append_assoc] at cut otherCut
      obtain ⟨run, leftOut, before, after⟩ := canonical.gap block left right cut.symm
      obtain ⟨another, alsoLeftOut, otherBefore, otherAfter⟩ :=
        alsoCanonical.gap block otherLeft otherRight otherCut.symm
      obtain ⟨sameBefore, sameAfter⟩ := leftOut.unique alsoLeftOut
      rw [sameBefore] at before
      rw [sameAfter] at after
      rw [← cut, ← otherCut, sameRow (by decide) (by decide) before otherBefore,
        sameRow (by decide) (by decide) after otherAfter]
    · exact sameRow (by decide) (by decide) (canonical.noGap block adjacent)
        (alsoCanonical.noGap block adjacent)

end Unique

end Ipv6

/-- **Wherever an IPv6 host is printed, it is printed in its canonical text**, of which it has
one: in the text of its endpoint, in a configuration with its fields named, and in the error
where it cannot be bound, as the operator reads it and with its parts named. -/
theorem Config.printed_canonically (address : Ipv6) (port : UInt16) (source : IoError) :
    ∃ text, address.IsCanonical text ∧ (∀ other, address.IsCanonical other → other = text) ∧
      let config : Config := ⟨.v6 address, port⟩
      let failed : ServerError := .bind config.endpoint source
      config.endpoint.chars = '[' :: text ++ "]:".toList ++ Nat.toDigits 10 port.toNat ∧
      config.debugChars = "ServerConfig \x7b host: ".toList ++ text ++ ", port: ".toList ++
        Nat.toDigits 10 port.toNat ++ " \x7d".toList ∧
      failed.messageChars = "failed to bind ".toList ++ config.endpoint.chars ++ ": ".toList ++
        source.messageChars ∧
      failed.debugChars = "Bind \x7b addr: ".toList ++ config.endpoint.chars ++
        ", source: ".toList ++ source.debugChars ++ " \x7d".toList := by
  have canonical := address.isCanonical_chars
  refine ⟨address.chars, canonical, fun _ other => other.unique canonical, ?_, rfl, rfl, rfl⟩
  exact (List.append_assoc ('[' :: address.chars) "]:".toList _).symm

/-- Of two runs of the same length the first is left out. A single zero is not. -/
example : (⟨.v6 ⟨[0, 1, 0, 0, 0x20, 0, 0, 0xfa], rfl⟩, 80⟩ : Config).endpoint.chars =
    "[0:1::20:0:0:fa]:80".toList := by decide +kernel

end Greeter
