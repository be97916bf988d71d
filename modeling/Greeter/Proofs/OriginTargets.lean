import Greeter.Proofs.Admission
import Greeter.Proofs.CanonicalTargets

/-! # Targets that are paths

A target that starts with a slash falls into a path, a query and a fragment
(`Uri.Splits`), in one way. The bytes of the path and of the query say whether it is taken
(`Uri.WellWritten`), and the fragment says nothing: the request is greeted, and logged with
what stands before the first hash, or it is refused for a character that has no place there
(`RequestParts.greeted_iff_wellWritten`).
-/

namespace Greeter

namespace Uri

/-- How a text falls apart: a fragment follows the first hash, and a query the first question
mark that stands before it. -/
structure Splits (text path : Bytes) (query fragment : Option Bytes) : Prop where
  written : text = path ++ renderQuery query ++ fromMark hash fragment
  markless : questionMark ∉ path
  hashless : hash ∉ path ++ renderQuery query

/-- What may stand in a path: no space, no control character of ASCII, and none of these
marks. -/
def isPathByte (byte : UInt8) : Bool :=
  0x20 < byte && byte != 0x7f && !"#<>?`".toList.contains (Char.ofNat byte.toNat)

/-- What may stand in a query: all that may stand in a path but the double quote, and also the
question mark and the backquote. -/
def isQueryByte (byte : UInt8) : Bool :=
  0x20 < byte && byte != 0x7f && !"\"#<>".toList.contains (Char.ofNat byte.toNat)

/-- Every byte may stand where it does, and the whole is the UTF-8 form of a text. -/
structure WellWritten (path : Bytes) (query : Option Bytes) : Prop where
  pathBytes : ∀ byte ∈ path, isPathByte byte = true
  queryBytes : ∀ text ∈ query, ∀ byte ∈ text, isQueryByte byte = true
  isText : ∃ text : String, path ++ renderQuery query = Bytes.ofText text

variable {text path otherPath : Bytes} {query otherQuery fragment otherFragment : Option Bytes}

theorem has_path (byte : UInt8) : ByteClass.path.has byte = isPathByte byte := by
  revert byte
  apply Bytes.forall_byte
  decide +kernel

theorem has_query (byte : UInt8) : ByteClass.query.has byte = isQueryByte byte := by
  revert byte
  apply Bytes.forall_byte
  decide +kernel

/-- A path and a query are read if and only if they are well written. -/
theorem isPath_iff_wellWritten : IsPath path query ↔ WellWritten path query := by
  have queries : query.all (·.all ByteClass.query.has) = true ↔
      ∀ text ∈ query, ∀ byte ∈ text, isQueryByte byte = true := by
    cases query with
    | none => simp
    | some query => simp [has_query]
  have texts : (path ++ renderQuery query).isText = true ↔
      ∃ text : String, path ++ renderQuery query = Bytes.ofText text := by
    rw [Bytes.isText, Option.isSome_iff_exists]
    simp only [Bytes.toText?_eq_some_iff]
  constructor
  · rintro ⟨pathBytes, queryBytes, isText⟩
    refine ⟨fun byte member => ?_, queries.mp queryBytes, texts.mp isText⟩
    rw [← has_path, List.all_eq_true.mp pathBytes byte member]
  · rintro ⟨pathBytes, queryBytes, isText⟩
    refine ⟨List.all_eq_true.mpr fun byte member => ?_, queries.mpr queryBytes, texts.mpr isText⟩
    rw [has_path, pathBytes byte member]

/-- A path and a query are known by what they are written as. -/
theorem append_renderQuery_inj (markless : questionMark ∉ path)
    (otherMarkless : questionMark ∉ otherPath)
    (same : path ++ renderQuery query = otherPath ++ renderQuery otherQuery) :
    path = otherPath ∧ query = otherQuery := by
  rw [renderQuery_eq_fromMark, renderQuery_eq_fromMark] at same
  obtain ⟨taken, dropped⟩ := eq_append_fromMark_iff.mp ⟨rfl, markless⟩
  obtain ⟨otherTaken, otherDropped⟩ := eq_append_fromMark_iff.mp ⟨same, otherMarkless⟩
  exact ⟨taken.symm.trans otherTaken, dropped.symm.trans otherDropped⟩

/-- Every text falls apart. -/
theorem exists_splits (text : Bytes) : ∃ path query fragment, Splits text path query fragment := by
  have cut (mark : UInt8) (text : Bytes) :
      ∃ before behind, text = before ++ fromMark mark behind ∧ mark ∉ before :=
    ⟨_, _, eq_takeWhile_append mark text⟩
  obtain ⟨kept, fragment, written, hashless⟩ := cut hash text
  obtain ⟨path, query, rfl, markless⟩ := cut questionMark kept
  rw [← renderQuery_eq_fromMark] at written hashless
  exact ⟨path, query, fragment, written, markless, hashless⟩

namespace Splits

/-- What is kept of the text is the path and the query, without the fragment. -/
theorem kept (splits : Splits text path query fragment) :
    text.takeWhile (· != hash) = path ++ renderQuery query :=
  (eq_append_fromMark_iff.mp ⟨splits.written, splits.hashless⟩).1

/-- A text falls apart in one way. -/
theorem unique (splits : Splits text path query fragment)
    (other : Splits text otherPath otherQuery otherFragment) :
    otherPath = path ∧ otherQuery = query ∧ otherFragment = fragment := by
  obtain ⟨-, dropped⟩ := eq_append_fromMark_iff.mp ⟨splits.written, splits.hashless⟩
  obtain ⟨-, otherDropped⟩ := eq_append_fromMark_iff.mp ⟨other.written, other.hashless⟩
  obtain ⟨paths, queries⟩ := append_renderQuery_inj other.markless splits.markless
    (other.kept.symm.trans splits.kept)
  exact ⟨paths, queries, otherDropped.symm.trans dropped⟩

/-- A text with another fragment falls apart into the same path and query. -/
theorem replaceFragment (splits : Splits text path query fragment)
    (otherFragment : Option Bytes) :
    Splits (path ++ renderQuery query ++ fromMark hash otherFragment) path query otherFragment :=
  ⟨rfl, splits.markless, splits.hashless⟩

section Read

variable (splits : Splits text path query fragment)
include splits

theorem head?_of_slash (starts : text.head? = some slash) (otherFragment : Option Bytes) :
    (path ++ renderQuery query ++ fromMark hash otherFragment).head? = some slash := by
  rw [List.append_assoc, List.head?_append, head?_path_of_slash starts splits.kept, Option.some_or]

variable (starts : text.head? = some slash) (short : text.length ≤ maxLength)
include starts short

/-- What is well written is taken as the path and the query that it falls into. -/
theorem ofBytes_of_wellWritten (wellWritten : WellWritten path query) :
    ofBytes text = .ok (.origin path query) :=
  (Spells.origin starts splits.kept (isPath_iff_wellWritten.mpr wellWritten)).ofBytes short

/-- There is one reason to refuse a path. -/
theorem ofBytes_of_not_wellWritten (notWritten : ¬WellWritten path query) :
    ofBytes text = .error .invalidCharacter := by
  rw [ofBytes_of_slash short starts]
  cases read : readPath text with
  | error reason =>
      rw [eq_invalidCharacter_of_readPath read]
      rfl
  | ok found =>
      obtain ⟨found, isPath⟩ := readPath_eq_ok_iff.mp read
      obtain ⟨rfl, rfl⟩ := append_renderQuery_inj splits.markless isPath.questionMark_notMem
        (splits.kept.symm.trans found)
      exact absurd (isPath_iff_wellWritten.mp isPath) notWritten

/-- What the fragment holds has no part in what is read. -/
theorem ofBytes_replaceFragment {otherFragment : Option Bytes}
    (otherShort : (path ++ renderQuery query ++ fromMark hash otherFragment).length ≤ maxLength) :
    ofBytes (path ++ renderQuery query ++ fromMark hash otherFragment) = ofBytes text := by
  have other := splits.replaceFragment otherFragment
  have otherStarts := splits.head?_of_slash starts otherFragment
  by_cases wellWritten : WellWritten path query
  · rw [other.ofBytes_of_wellWritten otherStarts otherShort wellWritten,
      splits.ofBytes_of_wellWritten starts short wellWritten]
  · rw [other.ofBytes_of_not_wellWritten otherStarts otherShort wellWritten,
      splits.ofBytes_of_not_wellWritten starts short wellWritten]

end Read

end Splits

end Uri

namespace RequestParts

variable {parts : RequestParts} {uri : Uri} {reason : UriError}

/-- Where the method and the target are taken, only the headers can be at fault. -/
theorem faults_of_ofBytes_ok (named : parts.method.IsToken)
    (found : Uri.ofBytes parts.uri = .ok uri) :
    parts.faults = parts.headers.flatMap Header.faults := by
  rw [faults, methodFaults, if_pos named, uriFaults, found]
  rfl

/-- A target that is not taken is the reason of the refusal, and nothing is logged. -/
theorem routed_of_ofBytes_error (named : parts.method.IsToken)
    (refused : Uri.ofBytes parts.uri = .error reason) (filter : Log.Filter) (latency : Bytes) :
    parts.routed filter latency = ⟨.error (.uri reason), []⟩ := by
  apply routed_of_fault
  rw [faults, methodFaults, if_pos named, uriFaults, refused]
  rfl

/-- A target that is taken is greeted, and logged as it is printed. -/
theorem routed_of_ofBytes_ok (named : parts.method.IsToken)
    (headers : parts.headers.flatMap Header.faults = []) (found : Uri.ofBytes parts.uri = .ok uri)
    (filter : Log.Filter) (latency : Bytes) :
    (parts.routed filter latency).result = .ok .greeting ∧
      parts.routed .default latency =
        ⟨.ok .greeting, Log.Span.lines parts.method uri.render parts.version latency⟩ := by
  obtain ⟨request, accepted, method, target, version⟩ :=
    exists_of_faultless ((faults_of_ofBytes_ok named found).trans headers)
  obtain rfl : request.uri = uri := Except.ok.inj (target.symm.trans found)
  rw [routed_of_accepted accepted, routed_default_of_accepted accepted, method, version]
  exact ⟨rfl, rfl⟩

/-- **Which paths are greeted.** A target that starts with a slash and is not too long falls
into a path, a query and a fragment in one way. A request for it is greeted if and only if
path and query are well written, and the log shows the two as they were sent. Otherwise it is
refused for a wrong character, and leaves no line. With another fragment in its place, be it
text or not, the request gets the same answer and leaves the same lines. -/
theorem greeted_iff_wellWritten {text : Bytes} (starts : text.head? = some Uri.slash)
    (short : text.length ≤ 65534) :
    ∃ path query fragment, Uri.Splits text path query fragment ∧
      (∀ otherPath otherQuery otherFragment,
        Uri.Splits text otherPath otherQuery otherFragment →
          otherPath = path ∧ otherQuery = query ∧ otherFragment = fragment) ∧
      UriError.invalidCharacter.message = "invalid uri character" ∧
      ∀ parts : RequestParts, parts.uri = text → parts.method.IsToken → ∀ filter latency,
        (parts.headers.flatMap Header.faults = [] →
          ((parts.routed filter latency).result = .ok .greeting ↔ Uri.WellWritten path query) ∧
          (Uri.WellWritten path query → parts.routed .default latency = ⟨.ok .greeting,
            Log.Span.lines parts.method (path ++ Uri.renderQuery query) parts.version latency⟩)) ∧
        (¬Uri.WellWritten path query →
          parts.routed filter latency = ⟨.error (.uri .invalidCharacter), []⟩) ∧
        ∀ behind, (path ++ Uri.renderQuery query ++ Uri.hash :: behind).length ≤ 65534 →
          { parts with uri := path ++ Uri.renderQuery query ++ Uri.hash :: behind }.routed filter
            latency = parts.routed filter latency := by
  obtain ⟨path, query, fragment, splits⟩ := Uri.exists_splits text
  refine ⟨path, query, fragment, splits, fun _ _ _ other => splits.unique other, rfl, ?_⟩
  rintro parts rfl named filter latency
  have refused (notWritten : ¬Uri.WellWritten path query) :
      parts.routed filter latency = ⟨.error (.uri .invalidCharacter), []⟩ :=
    routed_of_ofBytes_error named (splits.ofBytes_of_not_wellWritten starts short notWritten)
      filter latency
  refine ⟨fun headers => ?_, refused, ?_⟩
  · have greeted (wellWritten : Uri.WellWritten path query) :=
      routed_of_ofBytes_ok named headers
        (splits.ofBytes_of_wellWritten starts short wellWritten) filter latency
    refine ⟨⟨fun isGreeted => ?_, fun wellWritten => (greeted wellWritten).1⟩,
      fun wellWritten => (greeted wellWritten).2⟩
    by_contra notWritten
    rw [refused notWritten] at isGreeted
    cases isGreeted
  · intro behind otherShort
    have same : Uri.ofBytes (path ++ Uri.renderQuery query ++ Uri.fromMark Uri.hash (some behind)) =
        Uri.ofBytes parts.uri := splits.ofBytes_replaceFragment starts short otherShort
    exact routed_of_ofBytes_eq same filter latency

/-- A second question mark and a backquote in the query, and a fragment that is no text; and a
backquote in the path. -/
theorem greeted_iff_wellWritten_marks :
    let text := Bytes.ofText "/a?b?`#" ++ [0xff]
    let wrong := Bytes.ofText "/`?b#a"
    let parts : RequestParts := ⟨Bytes.ofText "GET", text, .http11, [], []⟩
    text.head? = some Uri.slash ∧ text.length ≤ 65534 ∧ parts.method.IsToken ∧
      parts.headers.flatMap Header.faults = [] ∧
      parts.routed .default (Bytes.ofText "0") = ⟨.ok .greeting,
        Log.Span.lines parts.method (Bytes.ofText "/a?b?`") parts.version (Bytes.ofText "0")⟩ ∧
      { parts with uri := wrong }.routed .default (Bytes.ofText "0") =
        ⟨.error (.uri .invalidCharacter), []⟩ := by
  intro text wrong parts
  have named : parts.method.IsToken := by decide +kernel
  have starts : text.head? = some Uri.slash := by decide
  have short : text.length ≤ 65534 := by decide
  obtain ⟨path, query, fragment, -, unique, -, routed⟩ := greeted_iff_wellWritten starts short
  obtain ⟨rfl, rfl, rfl⟩ := unique (Bytes.ofText "/a") (some (Bytes.ofText "b?`")) (some [0xff])
    ⟨by decide, by decide, by decide⟩
  obtain ⟨greeted, -, -⟩ := routed parts rfl named .default (Bytes.ofText "0")
  have wrongStarts : wrong.head? = some Uri.slash := by decide
  have wrongShort : wrong.length ≤ 65534 := by decide
  obtain ⟨wrongPath, wrongQuery, wrongFragment, -, unique, -, routed⟩ :=
    greeted_iff_wellWritten wrongStarts wrongShort
  obtain ⟨rfl, rfl, rfl⟩ := unique (Bytes.ofText "/`") (some (Bytes.ofText "b"))
    (some (Bytes.ofText "a")) ⟨by decide, by decide, by decide⟩
  obtain ⟨-, refused, -⟩ := routed { parts with uri := wrong } rfl named .default (Bytes.ofText "0")
  refine ⟨starts, short, named, rfl, (greeted rfl).2 ⟨?_, ?_, ?_⟩, refused ?_⟩
  · decide +kernel
  · decide +kernel
  · exact ⟨"/a?b?`", by decide⟩
  · exact fun wellWritten => absurd (wellWritten.pathBytes 0x60 (by decide)) (by decide)

end RequestParts

end Greeter
