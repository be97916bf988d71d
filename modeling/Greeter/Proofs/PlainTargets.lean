import Greeter.Proofs.CanonicalTargets

/-! # Plain targets

The targets that ask this server for something: a path with an optional query,
in the characters that the standard of URIs gives to them, or the asterisk. Each
is read as what it says, and printed in the log as it was written
(`Uri.ofBytes_render`).
-/

namespace Greeter

namespace ByteClass

/-- The characters of a path: unreserved characters and sub-delimiters, the
colon and the at sign, the percent sign of an escape, and the slash. -/
def pathText : ByteClass :=
  [(0x21, 0x21), (0x24, 0x3b), (0x3d, 0x3d), (0x40, 0x5a), (0x5f, 0x5f), (0x61, 0x7a),
   (0x7e, 0x7e)]

/-- The characters of a query: those of a path, and the question mark. -/
def queryText : ByteClass := (0x3f, 0x3f) :: pathText

end ByteClass

namespace Uri

/-- A target in the characters of the standard: a path and an optional query, or
the asterisk. Percent signs may stand anywhere. -/
def isPlain : Uri → Bool
  | origin path query =>
    path.head? == some slash && path.all ByteClass.pathText.has &&
      query.all (·.all ByteClass.queryText.has)
  | asterisk => true
  | _ => false

/-- A plain target is in canonical form. -/
theorem canonical_of_isPlain {uri : Uri} (plain : uri.isPlain = true) : uri.Canonical := by
  cases uri with
  | asterisk => trivial
  | authority name => cases plain
  | absolute scheme name path query => cases plain
  | origin path query =>
      simp only [isPlain, Bool.and_eq_true, beq_iff_eq] at plain
      obtain ⟨⟨starts, pathText⟩, queryText⟩ := plain
      have queryIn (large : ByteClass) (inside : ByteClass.queryText.within large = true) :
          query.all (·.all large.has) = true := by
        cases query with
        | none => rfl
        | some query => exact ByteClass.all_of_within inside queryText
      have ascii : (path ++ renderQuery query).all ByteClass.ascii.has = true := by
        rw [List.all_append, ByteClass.all_of_within (by decide) pathText, Bool.true_and]
        exact all_renderQuery (by decide) (queryIn _ (by decide))
      exact ⟨starts, ByteClass.all_of_within (by decide) pathText, queryIn _ (by decide),
        Bytes.isText_of_ascii ascii⟩

/-- Plain targets are read as what they say. -/
theorem ofBytes_render {uri : Uri} (plain : uri.isPlain = true)
    (short : uri.render.length ≤ maxLength) : ofBytes uri.render = .ok uri :=
  (canonical_of_isPlain plain).ofBytes_render short

/-- A plain target is printed as a text that a request line can hold. -/
theorem target_render {uri : Uri} (plain : uri.isPlain = true) :
    uri.render ≠ [] ∧ uri.render.all ByteClass.target.has = true :=
  (canonical_of_isPlain plain).target_render

end Uri

end Greeter
