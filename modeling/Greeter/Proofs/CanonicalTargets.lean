import Greeter.Proofs.TargetForms

/-! # Canonical targets

A target in canonical form has its scheme as it is printed, and a path wherever there is a
scheme. What is read has canonical form (`Uri.canonical_of_ofBytes`), and the text of a
target in canonical form is read as that target (`Uri.Canonical.ofBytes_render`), so the text
in the log stands for the target. It holds no blank and no control character
(`Uri.Canonical.target_render`).
-/

namespace Greeter

namespace Uri

/-- The form in which a target is printed. -/
def Canonical : Uri → Prop
  | origin path query => path.head? = some slash ∧ IsPath path query
  | asterisk => True
  | authority name => IsAuthority name ∧ name ≠ [] ∧ name ≠ [star]
  | absolute scheme name path query =>
    (IsScheme scheme ∧ canonicalScheme scheme = scheme) ∧ (IsAuthority name ∧ name ≠ []) ∧
      path.head? = some slash ∧ IsPath path query

section Forms

variable {text path : Bytes} {query : Option Bytes}

/-- A path that is not empty starts with the first byte of the text it is cut from. -/
theorem head?_path (kept : text.takeWhile (· != hash) = path ++ renderQuery query)
    (nonempty : path ≠ []) : path.head? = text.head? := by
  conv_rhs => rw [← List.takeWhile_append_dropWhile (p := (· != hash)) (l := text)]
  rw [kept, List.append_assoc, List.head?_append_of_ne_nil path nonempty]

/-- The slash at the start of a text is kept, and so it is the start of a path. -/
theorem head?_path_of_slash (starts : text.head? = some slash)
    (kept : text.takeWhile (· != hash) = path ++ renderQuery query) : path.head? = some slash := by
  rw [head?_path kept, starts]
  -- What is kept is more than a query behind its mark.
  rintro rfl
  obtain ⟨rest, rfl⟩ := List.head?_eq_some_iff.mp starts
  rw [List.takeWhile_cons_of_pos (by decide)] at kept
  cases query <;> cases kept

/-- Of the bytes that end an authority, a path starts with the slash alone. -/
theorem head?_of_ends (nonempty : path ≠ []) (isPath : IsPath path query)
    (ends : ∀ byte ∈ path.head?, ByteClass.authorityEnd.has byte = true) :
    path.head? = some slash := by
  have isSlash : ∀ byte, ByteClass.authorityEnd.has byte = true →
      ByteClass.path.has byte = true → byte = slash := by
    apply Bytes.forall_byte
    decide +kernel
  cases path with
  | nil => exact absurd rfl nonempty
  | cons first rest =>
      have listed := List.all_eq_true.mp isPath.pathBytes first List.mem_cons_self
      rw [isSlash first (ends first rfl) listed, List.head?_cons]

/-- What a text spells has canonical form. -/
theorem Spells.canonical {uri : Uri} (spells : Spells text uri) : uri.Canonical := by
  cases spells with
  | origin starts kept isPath => exact ⟨head?_path_of_slash starts kept, isPath⟩
  | asterisk => trivial
  | authority isAuthority nonempty notStar => exact ⟨isAuthority, nonempty, notStar⟩
  | @absolute scheme name rest path query isScheme isAuthority nonempty ends kept isPath =>
      refine ⟨⟨isScheme.canonicalScheme, canonicalScheme_canonicalScheme scheme⟩,
        ⟨isAuthority, nonempty⟩, ?_⟩
      by_cases none : path = []
      · subst none
        exact ⟨rfl, isPath.slash⟩
      · rw [if_neg none]
        refine ⟨head?_of_ends none isPath ?_, isPath⟩
        rwa [head?_path kept none]

/-- **What is read has canonical form.** -/
theorem canonical_of_ofBytes {uri : Uri} (found : ofBytes text = .ok uri) : uri.Canonical :=
  (spells_of_ofBytes found).canonical

end Forms

section Parts

variable {scheme name path : Bytes} {query : Option Bytes}

/-- A byte that the scan of an authority accepts may stand in a target. -/
theorem AuthorityScan.target_of_next {scan after : AuthorityScan} {byte : UInt8}
    (found : scan.next byte = .ok after) : ByteClass.target.has byte = true := by
  by_cases mark : byte ∈ [0x3a, 0x5b, 0x5d, 0x40, 0x25]
  · have marks : [0x3a, 0x5b, 0x5d, 0x40, 0x25].all ByteClass.target.has = true := by decide
    exact List.all_eq_true.mp marks byte mark
  · simp only [List.mem_cons, List.not_mem_nil, or_false, not_or] at mark
    obtain ⟨colon, opening, closing, atSign, percent⟩ := mark
    rw [next, if_neg colon, if_neg opening, if_neg closing, if_neg atSign, if_neg percent] at found
    split at found
    · next listed => exact ByteClass.has_of_within (by decide) listed
    · cases found

/-- So all bytes of an authority that the scan accepts may stand in a target. -/
theorem AuthorityScan.target_of_foldlM {scan after : AuthorityScan}
    (found : name.foldlM next scan = .ok after) : name.all ByteClass.target.has = true := by
  induction name generalizing scan with
  | nil => rfl
  | cons byte name ih =>
      rw [List.foldlM_cons] at found
      obtain ⟨between, first, others⟩ := exists_of_bind_eq_ok found
      rw [List.all_cons, target_of_next first, ih others, Bool.true_and]

/-- An authority holds only bytes that may stand in a target. -/
theorem IsAuthority.target (isAuthority : IsAuthority name) :
    name.all ByteClass.target.has = true := by
  obtain ⟨scan, scanned, -⟩ := isAuthority.whole
  exact AuthorityScan.target_of_foldlM scanned

/-- A path and a query hold only bytes that may stand in a target. -/
theorem IsPath.target (isPath : IsPath path query) :
    (path ++ renderQuery query).all ByteClass.target.has = true := by
  rw [List.all_append, ByteClass.all_of_within (by decide) isPath.pathBytes, Bool.true_and]
  apply all_renderQuery (by decide)
  have queryBytes := isPath.queryBytes
  cases query with
  | none => rfl
  | some query => exact ByteClass.all_of_within (by decide) queryBytes

end Parts

namespace Canonical

variable {uri : Uri}

/-- A target in canonical form is spelled as it is printed. -/
theorem spells_render (canonical : uri.Canonical) : Spells uri.render uri := by
  cases uri with
  | asterisk => exact .asterisk
  | origin path query =>
      obtain ⟨starts, isPath⟩ := canonical
      refine .origin ?_ isPath.takeWhile_eq_self isPath
      rw [render, List.head?_append, starts, Option.some_or]
  | authority name =>
      obtain ⟨isAuthority, nonempty, notStar⟩ := canonical
      exact .authority isAuthority nonempty notStar
  | absolute scheme name path query =>
      obtain ⟨⟨isScheme, fixed⟩, ⟨isAuthority, nonempty⟩, starts, isPath⟩ := canonical
      have named : path ≠ [] := by
        rintro rfl
        cases starts
      have ends : ∀ byte ∈ (path ++ renderQuery query).head?,
          ByteClass.authorityEnd.has byte = true := by
        rw [List.head?_append, starts, Option.some_or]
        rintro _ ⟨⟩
        decide
      have spells :=
        Spells.absolute isScheme isAuthority nonempty ends isPath.takeWhile_eq_self isPath
      rw [fixed, if_neg named] at spells
      simpa only [render, List.append_assoc] using spells

/-- **A canonical text stands for its target.** -/
theorem ofBytes_render (canonical : uri.Canonical) (short : uri.render.length ≤ maxLength) :
    ofBytes uri.render = .ok uri :=
  canonical.spells_render.ofBytes short

/-- A canonical text holds no blank and no control character. -/
theorem target_render (canonical : uri.Canonical) :
    uri.render ≠ [] ∧ uri.render.all ByteClass.target.has = true := by
  cases uri with
  | asterisk => decide
  | origin path query =>
      obtain ⟨starts, isPath⟩ := canonical
      refine ⟨?_, isPath.target⟩
      intro empty
      rw [(List.append_eq_nil_iff.mp empty).1] at starts
      cases starts
  | authority name =>
      obtain ⟨isAuthority, nonempty, -⟩ := canonical
      exact ⟨nonempty, isAuthority.target⟩
  | absolute scheme name path query =>
      obtain ⟨⟨isScheme, -⟩, ⟨isAuthority, -⟩, -, isPath⟩ := canonical
      have schemeBytes : scheme.all ByteClass.target.has = true :=
        ByteClass.all_of_within (by decide) isScheme.schemeBytes
      have marks : schemeEnd.all ByteClass.target.has = true := by decide
      constructor
      · simp [render]
      · rw [render, List.append_assoc _ path, List.all_append, List.all_append, List.all_append,
          schemeBytes, marks, isAuthority.target, isPath.target]
        rfl

end Canonical

end Uri

end Greeter
