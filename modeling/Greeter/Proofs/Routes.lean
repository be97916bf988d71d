import Greeter.Proofs.CanonicalTargets
import Greeter.Router

/-! # Paths and routes

The text of a target tells what kind of path the router sees: none for an authority alone,
the asterisk for the asterisk, and one that starts with a slash for all else
(`Uri.Spells.path_cases`). Every path belongs to one route, and the router takes that one
(`Route.ofPath_eq_iff`). So the root and the longer paths are served by the two patterns, and
the fallback is there for authorities and the asterisk (`Uri.one_route_takes`).
-/

namespace Greeter

/-- An authority ends at a slash, a question mark or a hash. -/
theorem ByteClass.has_authorityEnd_iff (byte : UInt8) : authorityEnd.has byte = true ↔
    byte = Uri.slash ∨ byte = Uri.questionMark ∨ byte = Uri.hash := by
  revert byte
  apply Bytes.forall_byte
  decide +kernel

namespace Uri

/-- The text starts with a scheme, a colon and two slashes. The scheme may be empty. -/
def HasScheme (text : Bytes) : Prop :=
  ∃ scheme behind, text = scheme ++ (schemeEnd ++ behind) ∧
    scheme.all ByteClass.scheme.has = true

/-- An authority alone: neither a path nor the asterisk, and nothing behind a scheme. -/
structure IsBare (text : Bytes) : Prop where
  pathless : text.head? ≠ some slash
  notStar : text ≠ [star]
  schemeless : ¬HasScheme text

section Spelled

variable {text : Bytes} {uri : Uri}

/-- An authority has neither a path nor a scheme in front of it. -/
theorem IsAuthority.isBare (isAuthority : IsAuthority text) (notStar : text ≠ [star]) :
    IsBare text where
  pathless := fun starts => isAuthority.slash_notMem (List.mem_of_mem_head? starts)
  notStar := notStar
  schemeless := by
    rintro ⟨scheme, behind, rfl, -⟩
    exact isAuthority.slash_notMem (by simp)

/-- **The text tells the kind of path.** -/
theorem Spells.path_cases (spells : Spells text uri) :
    (IsBare text ∧ uri.path = []) ∨ (text = [star] ∧ uri.path = [star]) ∨
      (¬IsBare text ∧ text ≠ [star] ∧ uri.path.head? = some slash) := by
  have canonical := spells.canonical
  cases spells with
  | authority isAuthority nonempty notStar => exact .inl ⟨isAuthority.isBare notStar, rfl⟩
  | asterisk => exact .inr (.inl ⟨rfl, rfl⟩)
  | origin starts kept isPath =>
      refine .inr (.inr ⟨fun bare => bare.pathless starts, ?_, canonical.1⟩)
      rintro rfl
      cases starts
  | absolute isScheme isAuthority nonempty ends kept isPath =>
      refine .inr (.inr ⟨fun bare => ?_, fun isStar => ?_, canonical.2.2.1⟩)
      · exact bare.schemeless ⟨_, _, rfl, isScheme.schemeBytes⟩
      · have long := congrArg List.length isStar
        simp only [List.length_append, List.length_cons, List.length_nil] at long
        omega

/-- A path is empty if and only if the target is an authority alone. -/
theorem Spells.path_eq_nil_iff (spells : Spells text uri) : uri.path = [] ↔ IsBare text := by
  rcases spells.path_cases with ⟨bare, none⟩ | ⟨rfl, isStar⟩ | ⟨notBare, -, starts⟩
  · exact ⟨fun _ => bare, fun _ => none⟩
  · rw [isStar]
    exact ⟨nofun, fun bare => absurd rfl bare.notStar⟩
  · refine ⟨fun none => ?_, fun bare => absurd bare notBare⟩
    rw [none] at starts
    cases starts

theorem Spells.path_eq_star_iff (spells : Spells text uri) :
    uri.path = [star] ↔ text = [star] := by
  rcases spells.path_cases with ⟨bare, none⟩ | ⟨rfl, isStar⟩ | ⟨-, notStar, starts⟩
  · rw [none]
    exact ⟨nofun, fun isStar => absurd isStar bare.notStar⟩
  · exact ⟨fun _ => rfl, fun _ => isStar⟩
  · refine ⟨fun isStar => ?_, fun isStar => absurd isStar notStar⟩
    rw [isStar] at starts
    cases starts

/-- All paths but the empty one and the asterisk start with a slash. -/
theorem Spells.head?_path_eq_slash_iff (spells : Spells text uri) :
    uri.path.head? = some slash ↔ uri.path ≠ [] ∧ uri.path ≠ [star] := by
  constructor
  · intro starts
    constructor
    · intro none
      rw [none] at starts
      cases starts
    · intro isStar
      rw [isStar] at starts
      cases starts
  · rintro ⟨some, notStar⟩
    rcases spells.path_cases with ⟨-, none⟩ | ⟨-, isStar⟩ | ⟨-, -, starts⟩
    · exact absurd none some
    · exact absurd isStar notStar
    · exact starts

/-- Behind a scheme, an authority that no path follows has the root as its path. -/
theorem Spells.path_eq_slash {scheme name rest : Bytes} (spells : Spells text uri)
    (written : text = scheme ++ (schemeEnd ++ (name ++ rest)))
    (schemeBytes : scheme.all ByteClass.scheme.has = true)
    (unended : name.all (fun byte => !ByteClass.authorityEnd.has byte) = true)
    (ends : ∀ byte ∈ rest.head?, ByteClass.authorityEnd.has byte = true)
    (pathless : rest.head? ≠ some slash) : uri.path = [slash] := by
  have noSlash : slash ∉ scheme := ByteClass.notMem_of_all schemeBytes (by decide)
  have noColon {scheme : Bytes} (members : scheme.all ByteClass.scheme.has = true) :
      0x3a ∉ scheme := ByteClass.notMem_of_all members (by decide)
  cases spells with
  | origin starts kept isPath =>
      rw [written] at starts
      exact absurd starts (head?_absolute_ne noSlash)
  | asterisk =>
      have long := congrArg List.length written
      simp only [List.length_append, List.length_cons, List.length_nil] at long
      omega
  | authority isAuthority nonempty notStar =>
      exact absurd (by rw [written]; simp) isAuthority.slash_notMem
  | absolute isScheme isAuthority nonempty otherEnds kept isPath =>
      obtain ⟨-, behind⟩ := (append_mark_inj rfl (noColon isScheme.schemeBytes)
        (noColon schemeBytes)).mp written
      -- Both authorities end where the first byte stands that can end one.
      obtain ⟨-, dropped⟩ := span_eq_iff.mpr
        ⟨rfl, isAuthority.unended, fun byte starts => by simpa using otherEnds byte starts⟩
      obtain ⟨-, alsoDropped⟩ := span_eq_iff.mpr
        ⟨behind, unended, fun byte starts => by simpa using ends byte starts⟩
      obtain rfl := dropped.symm.trans alsoDropped
      refine if_pos ?_
      by_contra some
      have same := head?_path kept some
      exact pathless (same ▸ head?_of_ends some isPath (same ▸ ends))

end Spelled

end Uri

namespace Route

/-- The pattern that a route is declared with. The fallback has none. -/
def pattern? : Route → Option Bytes
  | root => some (Bytes.ofText "/")
  | wildcard => some (Bytes.ofText "/*path")
  | fallback => none

/-- The paths of a pattern. A star and the name behind it stand for any text but the empty one;
a pattern without a star stands for itself. -/
def Matches (pattern path : Bytes) : Prop :=
  if Uri.star ∈ pattern then
    ∃ rest, rest ≠ [] ∧ path = pattern.takeWhile (· != Uri.star) ++ rest
  else path = pattern

/-- The paths of a route: those of its pattern, and without one those of no pattern at all. -/
def Takes (route : Route) (path : Bytes) : Prop :=
  match route.pattern? with
  | some pattern => Matches pattern path
  | none => ∀ other pattern, pattern? other = some pattern → ¬Matches pattern path

variable {path : Bytes}

theorem takes_root_iff : root.Takes path ↔ path = [Uri.slash] := by
  have plain : Uri.star ∉ Bytes.ofText "/" := by decide
  have text : Bytes.ofText "/" = [Uri.slash] := by decide
  change Matches _ _ ↔ _
  rw [Matches, if_neg plain, text]

/-- The wildcard takes the paths that have something behind their slash. -/
theorem takes_wildcard_iff :
    wildcard.Takes path ↔ ∃ rest, rest ≠ [] ∧ path = Uri.slash :: rest := by
  have starred : Uri.star ∈ Bytes.ofText "/*path" := by decide
  have text : (Bytes.ofText "/*path").takeWhile (· != Uri.star) = [Uri.slash] := by decide
  change Matches _ _ ↔ _
  rw [Matches, if_pos starred, text]
  rfl

/-- The fallback takes what neither pattern takes. -/
theorem takes_fallback_iff :
    fallback.Takes path ↔ ¬root.Takes path ∧ ¬wildcard.Takes path := by
  constructor
  · intro takes
    exact ⟨takes root _ rfl, takes wildcard _ rfl⟩
  · rintro ⟨notRoot, notWildcard⟩ other pattern declared
    cases other with
    | root => cases declared; exact notRoot
    | wildcard => cases declared; exact notWildcard
    | fallback => cases declared

/-- Every path is one of the route that is chosen for it. -/
theorem takes_ofPath (path : Bytes) : (ofPath path).Takes path := by
  unfold ofPath
  cases path with
  | nil =>
      rw [takes_fallback_iff, takes_root_iff, takes_wildcard_iff]
      exact ⟨nofun, nofun⟩
  | cons first rest =>
      dsimp only
      split
      · next other =>
        rw [takes_fallback_iff, takes_root_iff, takes_wildcard_iff]
        constructor
        · exact fun isRoot => other (List.cons.inj isRoot).1
        · rintro ⟨_, -, longer⟩
          exact other (List.cons.inj longer).1
      next starts =>
      rw [ne_eq, not_not] at starts
      subst starts
      split
      · next none => rw [takes_root_iff, none]
      · next some => exact takes_wildcard_iff.mpr ⟨rest, some, rfl⟩

/-- **The router takes the route that a path belongs to.** -/
theorem ofPath_eq_iff {route : Route} : ofPath path = route ↔ route.Takes path := by
  constructor
  · rintro rfl
    exact takes_ofPath path
  intro takes
  cases route with
  | root =>
      rw [takes_root_iff.mp takes]
      rfl
  | wildcard =>
      obtain ⟨rest, some, rfl⟩ := takes_wildcard_iff.mp takes
      rw [ofPath, if_neg (not_not.mpr rfl), if_neg some]
  | fallback =>
      obtain ⟨notRoot, notWildcard⟩ := takes_fallback_iff.mp takes
      have chosen := takes_ofPath path
      cases found : ofPath path with
      | root => rw [found] at chosen; exact absurd chosen notRoot
      | wildcard => rw [found] at chosen; exact absurd chosen notWildcard
      | fallback => rfl

/-- The wildcard takes the paths that start with a slash and are longer than it. -/
theorem takes_wildcard_iff_longer :
    wildcard.Takes path ↔ path.head? = some Uri.slash ∧ 1 < path.length := by
  rw [takes_wildcard_iff]
  constructor
  · rintro ⟨rest, some, rfl⟩
    exact ⟨rfl, Nat.succ_lt_succ (List.length_pos_iff.mpr some)⟩
  · rintro ⟨starts, long⟩
    obtain ⟨rest, rfl⟩ := List.head?_eq_some_iff.mp starts
    exact ⟨rest, List.length_pos_iff.mp (Nat.lt_of_succ_lt_succ long), rfl⟩

/-- The two patterns take the paths that start with a slash. -/
theorem takes_fallback_iff_head? : fallback.Takes path ↔ path.head? ≠ some Uri.slash := by
  rw [takes_fallback_iff, takes_root_iff, takes_wildcard_iff, ← not_or, not_iff_not,
    List.head?_eq_some_iff]
  constructor
  · rintro (rfl | ⟨rest, -, longer⟩)
    · exact ⟨[], rfl⟩
    · exact ⟨rest, longer⟩
  · rintro ⟨rest, rfl⟩
    by_cases none : rest = []
    · exact .inl (by rw [none])
    · exact .inr ⟨rest, none, rfl⟩

end Route

/-- **One route for every target.** The path of a target that is read is empty for an
authority alone, the asterisk for the asterisk, and starts with a slash otherwise; it is the
root where nothing, a query or a fragment follows an authority behind a scheme. So each path
belongs to one of the three routes, and the router takes this one: the first pattern takes the
root, the second all longer paths, and the fallback the authorities and the asterisk, which
are what the patterns alone leave out. -/
theorem Uri.one_route_takes {text : Bytes} {uri : Uri} (found : ofBytes text = .ok uri) :
    ((uri.path = [] ↔ IsBare text) ∧ (uri.path = [star] ↔ text = [star]) ∧
      (uri.path ≠ [] → uri.path ≠ [star] → uri.path.head? = some slash) ∧
      ∀ scheme name rest, text = scheme ++ (schemeEnd ++ (name ++ rest)) →
        scheme.all ByteClass.scheme.has = true →
        (∀ byte ∈ name, byte ≠ slash ∧ byte ≠ questionMark ∧ byte ≠ hash) →
        (rest = [] ∨ rest.head? = some questionMark ∨ rest.head? = some hash) →
          uri.path = [slash]) ∧
    (∃! route : Route, route.Takes uri.path) ∧
    (∀ route, Route.ofPath uri.path = route ↔ route.Takes uri.path) ∧
    (∀ request : Request, request.uri = uri →
      Router.respond request = (Route.ofPath uri.path).handle) ∧
    (Route.root.Takes uri.path ↔ uri.path = [slash]) ∧
    (Route.wildcard.Takes uri.path ↔ uri.path.head? = some slash ∧ 1 < uri.path.length) ∧
    (Route.fallback.Takes uri.path ↔ uri.path = [] ∨ uri.path = [star]) ∧
    ((∀ route : Route, route ≠ .fallback → ¬route.Takes uri.path) ↔
      IsBare text ∨ text = [star]) := by
  have spells := spells_of_ofBytes found
  have left : Route.fallback.Takes uri.path ↔ uri.path = [] ∨ uri.path = [star] := by
    rw [Route.takes_fallback_iff_head?, ne_eq, spells.head?_path_eq_slash_iff, not_and_or,
      not_not, not_not]
  refine ⟨⟨spells.path_eq_nil_iff, spells.path_eq_star_iff,
      fun some notStar => spells.head?_path_eq_slash_iff.mpr ⟨some, notStar⟩, ?_⟩, ?_,
    fun _ => Route.ofPath_eq_iff, ?_, Route.takes_root_iff, Route.takes_wildcard_iff_longer, left,
    ?_⟩
  · intro scheme name rest written schemeBytes unended pathless
    have ends : rest.head? ≠ some slash ∧
        ∀ byte ∈ rest.head?, ByteClass.authorityEnd.has byte = true := by
      rcases pathless with rfl | starts | starts
      · exact ⟨nofun, nofun⟩
      · rw [starts]
        exact ⟨by decide, by rintro _ ⟨⟩; decide⟩
      · rw [starts]
        exact ⟨by decide, by rintro _ ⟨⟩; decide⟩
    refine spells.path_eq_slash written schemeBytes (List.all_eq_true.mpr ?_) ends.2 ends.1
    intro byte member
    rw [Bool.not_eq_true', ← Bool.not_eq_true, ByteClass.has_authorityEnd_iff, not_or, not_or]
    exact unended byte member
  · refine ⟨Route.ofPath uri.path, Route.takes_ofPath uri.path, fun route takes => ?_⟩
    exact (Route.ofPath_eq_iff.mpr takes).symm
  · rintro request rfl
    rfl
  · rw [← spells.path_eq_nil_iff, ← spells.path_eq_star_iff, ← left, Route.takes_fallback_iff]
    constructor
    · exact fun none => ⟨none .root nofun, none .wildcard nofun⟩
    · rintro ⟨notRoot, notWildcard⟩ route declared
      cases route with
      | root => exact notRoot
      | wildcard => exact notWildcard
      | fallback => exact absurd rfl declared

/-- A scheme in capitals with a query right behind the authority, and a host with a port. -/
theorem Uri.one_route_takes_query :
    let text := Bytes.ofText "HTTP://h?q"
    let uri := absolute (Bytes.ofText "http") (Bytes.ofText "h") [slash] (some (Bytes.ofText "q"))
    let bare := Bytes.ofText "h:80"
    ofBytes text = .ok uri ∧ Route.root.Takes uri.path ∧ ¬IsBare text ∧
      ofBytes bare = .ok (.authority bare) ∧ IsBare bare ∧
      ∀ route : Route, route ≠ .fallback → ¬route.Takes [] := by
  intro text uri bare
  have found : ofBytes text = .ok uri := by decide +kernel
  have bareFound : ofBytes bare = .ok (.authority bare) := by decide +kernel
  obtain ⟨⟨nil, -⟩, -, -, -, takesRoot, -⟩ := one_route_takes found
  obtain ⟨⟨bareNil, -⟩, -, -, -, -, -, -, unmatched⟩ := one_route_takes bareFound
  have isBare : IsBare bare := bareNil.mp rfl
  exact ⟨found, takesRoot.mpr rfl, mt nil.mpr nofun, bareFound, isBare,
    unmatched.mpr (.inl isBare)⟩

end Greeter
