import Greeter.Proofs.Admission
import Greeter.Proofs.CanonicalTargets
import Greeter.Proofs.WrittenNumbers

/-! # The lines about requests

The two lines that a request leaves in the log tell what the client asked for. Nothing that
a client sends puts a control character into a line, or a space into the method or the
target, so a line is the line of one method, one target and one version alone
(`RequestParts.log_lines_unambiguous`). The target in a line can be sent again: it is read as
the target that was read before (`Uri.replayed_as_printed`).
-/

namespace Greeter

/-- What may stand in a line of the log: everything but the control characters of ASCII. -/
def ByteClass.printed : ByteClass := [(0x20, 0xff)]

/-- What may stand in a request line is no control character. -/
theorem ByteClass.le_of_printed {text : Bytes} (members : text.all printed.has = true) :
    ∀ byte ∈ text, 0x20 ≤ byte := by
  intro byte member
  have listed := List.all_eq_true.mp members byte member
  simp only [has, printed, List.any_cons, List.any_nil, Bool.or_false, Bool.and_eq_true,
    decide_eq_true_eq] at listed
  exact listed.1

/-- A number is printed in digits. -/
theorem Bytes.printed_number (number : Nat) :
    (ofText (toString number)).all ByteClass.printed.has = true := by
  have digits : (Numeral.digits 10).all (fun digit =>
      (String.utf8EncodeChar digit).all ByteClass.printed.has) = true := by decide
  rw [ofText, ofChars, Nat.toString_eq_repr, Nat.toList_repr, List.all_flatMap, List.all_eq_true]
  intro digit written
  exact List.all_eq_true.mp digits digit (Numeral.toDigits_subset (by decide) number written)

theorem Method.space_notMem (method : Method) : Bytes.space ∉ method.token :=
  ByteClass.notMem_of_all method.isToken (by decide)

theorem Uri.Canonical.space_notMem {uri : Uri} (canonical : uri.Canonical) :
    Bytes.space ∉ uri.render :=
  ByteClass.notMem_of_all canonical.target_render.2 (by decide)

theorem Version.brace_notMem (version : Version) : 0x7d ∉ Bytes.ofText version.text := by
  cases version <;> decide

/-- Different versions have different names. -/
theorem Version.text_inj {version other : Version}
    (same : Bytes.ofText version.text = Bytes.ofText other.text) : version = other := by
  have texts : ∀ version ∈ all, ∀ other ∈ all,
      Bytes.ofText version.text = Bytes.ofText other.text → version = other := by decide
  have listed (version : Version) : version ∈ all := by cases version <;> decide
  exact texts version (listed version) other (listed other) same

namespace Log.Span

variable {method uri otherMethod otherUri rest otherRest : Bytes} {version otherVersion : Version}

/-- The start of a line tells the method, the target and the version, whatever follows. -/
theorem text_append_inj (noSpace : Bytes.space ∉ method) (otherNoSpace : Bytes.space ∉ otherMethod)
    (whole : Bytes.space ∉ uri) (otherWhole : Bytes.space ∉ otherUri) :
    text method uri version ++ rest = text otherMethod otherUri otherVersion ++ otherRest ↔
      method = otherMethod ∧ uri = otherUri ∧ version = otherVersion ∧ rest = otherRest := by
  simp only [text, List.append_assoc, List.append_cancel_left_eq]
  rw [append_mark_inj (by decide) noSpace otherNoSpace,
    append_mark_inj (by decide) whole otherWhole,
    append_mark_inj (by decide) version.brace_notMem otherVersion.brace_notMem]
  refine and_congr_right fun _ => and_congr_right fun _ => and_congr_left fun _ => ?_
  exact ⟨Version.text_inj, fun same => by rw [same]⟩

/-- A line about a request starts with the text of its span. -/
theorem exists_of_mem_lines {line latency : Bytes}
    (member : line ∈ lines method uri version latency) :
    ∃ rest, line = Bytes.ofText "DEBUG " ++ (text method uri version ++ rest) := by
  simp only [lines, List.mem_cons, List.not_mem_nil, or_false] at member
  rcases member with started | finished
  · exact ⟨_, started.trans (List.append_assoc ..)⟩
  · simp only [List.append_assoc] at finished
    exact ⟨_, finished⟩

/-- A line of the log is printed without control characters if its method and its target are. -/
theorem printed_text (isToken : method.all ByteClass.token.has = true)
    (isTarget : uri.all ByteClass.target.has = true) :
    (text method uri version).all ByteClass.printed.has = true := by
  have start : (Bytes.ofText "request\x7bmethod=").all ByteClass.printed.has = true := by decide
  have behindMethod : (Bytes.ofText " uri=").all ByteClass.printed.has = true := by decide
  have behindUri : (Bytes.ofText " version=").all ByteClass.printed.has = true := by decide
  have named : (Bytes.ofText version.text).all ByteClass.printed.has = true := by
    cases version <;> decide
  have ending : (Bytes.ofText "\x7d: ").all ByteClass.printed.has = true := by decide
  have token : method.all ByteClass.printed.has = true :=
    ByteClass.all_of_within (by decide) isToken
  have target : uri.all ByteClass.printed.has = true :=
    ByteClass.all_of_within (by decide) isTarget
  simp only [text, List.all_append, start, token, behindMethod, target, behindUri, named, ending,
    Bool.and_self]

/-- Where method, target and latency hold no control character, neither line does. -/
theorem printed_of_mem_lines {line latency : Bytes}
    (isToken : method.all ByteClass.token.has = true)
    (isTarget : uri.all ByteClass.target.has = true)
    (isPrinted : latency.all ByteClass.printed.has = true)
    (member : line ∈ lines method uri version latency) :
    line.all ByteClass.printed.has = true := by
  have span : (text method uri version).all ByteClass.printed.has = true :=
    printed_text isToken isTarget
  have level : (Bytes.ofText "DEBUG ").all ByteClass.printed.has = true := by decide
  have started : (Bytes.ofText "tower_http::trace::on_request: started processing request").all
      ByteClass.printed.has = true := by decide +kernel
  have finished :
      (Bytes.ofText "tower_http::trace::on_response: finished processing request latency=").all
        ByteClass.printed.has = true := by decide +kernel
  have status : (Bytes.ofText " ms status=200").all ByteClass.printed.has = true := by decide
  simp only [lines, List.mem_cons, List.not_mem_nil, or_false] at member
  rcases member with rfl | rfl
  · simp only [List.all_append, level, span, started, Bool.and_self]
  · simp only [List.all_append, level, span, finished, isPrinted, status, Bool.and_self]

end Log.Span

namespace RequestParts

/-- The log of a request that took so many milliseconds, under the usual filter. -/
def log (parts : RequestParts) (milliseconds : Nat) : List Bytes :=
  (parts.routed .default (Bytes.ofText (toString milliseconds))).log

variable {parts : RequestParts} {request : Request}

theorem log_eq_lines (accepted : parts.toRequest = .ok request) (milliseconds : Nat) :
    parts.log milliseconds = Log.Span.lines request.method.token request.uri.render
      request.version (Bytes.ofText (toString milliseconds)) := by
  rw [log, routed_default_of_accepted accepted]

/-- **A line of the log belongs to one request.** An accepted request leaves two lines.
Neither holds a control character of ASCII, and neither the method nor the target in them
holds a space. So where another request leaves one of these lines, be it the first or the
second, it has the same method, the same printed target and the same version. -/
theorem log_lines_unambiguous (accepted : parts.toRequest = .ok request) (milliseconds : Nat) :
    (∃ started finished, parts.log milliseconds = [started, finished]) ∧
    parts.log milliseconds = Log.Span.lines parts.method request.uri.render parts.version
      (Bytes.ofText (toString milliseconds)) ∧
    (∀ line ∈ parts.log milliseconds, ∀ byte ∈ line, 0x20 ≤ byte) ∧
    Bytes.space ∉ parts.method ∧ Bytes.space ∉ request.uri.render ∧
    ∀ (other : RequestParts) (otherRequest : Request) (otherMilliseconds : Nat),
      other.toRequest = .ok otherRequest → ∀ line ∈ parts.log milliseconds,
        line ∈ other.log otherMilliseconds → other.method = parts.method ∧
          otherRequest.uri.render = request.uri.render ∧ other.version = parts.version := by
  have lines := log_eq_lines accepted milliseconds
  obtain ⟨method, uri, version⟩ := parts_of_toRequest accepted
  have canonical := Uri.canonical_of_ofBytes uri
  rw [← method, ← version]
  refine ⟨⟨_, _, lines⟩, lines, ?_, request.method.space_notMem, canonical.space_notMem, ?_⟩
  · intro line member
    rw [lines] at member
    apply ByteClass.le_of_printed
    exact Log.Span.printed_of_mem_lines request.method.isToken canonical.target_render.2
      (Bytes.printed_number milliseconds) member
  · intro other otherRequest otherMilliseconds otherAccepted line member otherMember
    obtain ⟨otherMethod, otherUri, otherVersion⟩ := parts_of_toRequest otherAccepted
    rw [lines] at member
    rw [log_eq_lines otherAccepted] at otherMember
    obtain ⟨rest, rfl⟩ := Log.Span.exists_of_mem_lines otherMember
    obtain ⟨otherRest, same⟩ := Log.Span.exists_of_mem_lines member
    obtain ⟨methods, uris, versions, -⟩ := (Log.Span.text_append_inj
      otherRequest.method.space_notMem request.method.space_notMem
      (Uri.canonical_of_ofBytes otherUri).space_notMem canonical.space_notMem).mp
        (List.append_cancel_left same)
    exact ⟨by rw [← otherMethod, methods], uris, by rw [← otherVersion, versions]⟩

/-- Two requests that differ in a fragment with a space in it, in a header and in the body. -/
theorem log_lines_unambiguous_fragment :
    let parts : RequestParts := ⟨Bytes.ofText "GET", Bytes.ofText "/a?b#c d", .http11, [], []⟩
    let other : RequestParts := ⟨Bytes.ofText "GET", Bytes.ofText "/a?b", .http11,
      [(Bytes.ofText "accept", Bytes.ofText "*/*")], Bytes.ofText "nobody reads this"⟩
    let started := Bytes.ofText ("DEBUG request\x7bmethod=GET uri=/a?b version=HTTP/1.1\x7d: " ++
      "tower_http::trace::on_request: started processing request")
    ∃ request otherRequest, parts.toRequest = .ok request ∧ other.toRequest = .ok otherRequest ∧
      started ∈ parts.log 3 ∧ started ∈ other.log 5 ∧ (∀ byte ∈ started, 0x20 ≤ byte) ∧
      Bytes.space ∉ request.uri.render ∧ otherRequest.uri.render = request.uri.render := by
  intro parts other started
  let get : Method := ⟨Bytes.ofText "GET", by decide, by decide⟩
  let uri : Uri := .origin (Bytes.ofText "/a") (some (Bytes.ofText "b"))
  have accepted : parts.toRequest = .ok ⟨get, uri, .http11, [], []⟩ := by decide +kernel
  have otherAccepted : other.toRequest = .ok ⟨get, uri, .http11,
      [⟨Bytes.ofText "accept", Bytes.ofText "*/*", by decide, by decide, by decide⟩],
      Bytes.ofText "nobody reads this"⟩ := by decide +kernel
  have line : started = Bytes.ofText "DEBUG " ++ Log.Span.text (Bytes.ofText "GET")
      (Bytes.ofText "/a?b") .http11 ++
        Bytes.ofText "tower_http::trace::on_request: started processing request" := by
    decide +kernel
  have member : started ∈ parts.log 3 := by
    rw [line, log_eq_lines accepted]
    exact List.mem_cons_self
  have otherMember : started ∈ other.log 5 := by
    rw [line, log_eq_lines otherAccepted]
    exact List.mem_cons_self
  obtain ⟨-, -, printed, -, whole, unambiguous⟩ := log_lines_unambiguous accepted 3
  exact ⟨_, _, accepted, otherAccepted, member, otherMember, printed started member, whole,
    (unambiguous other _ 5 otherAccepted started member otherMember).2.1⟩

end RequestParts

namespace Uri

/-- **The printed target stands for the target.** It is read again as the same target, and
so a request with the printed target in the place of its own is the same request for the
router: it takes the same route and leaves the same lines in the log. -/
theorem replayed_as_printed {text : Bytes} {uri : Uri} (found : ofBytes text = .ok uri)
    (short : uri.render.length ≤ 65534) : ofBytes uri.render = .ok uri ∧
      ∀ parts : RequestParts, parts.uri = text →
        { parts with uri := uri.render }.toRequest = parts.toRequest ∧
        ∀ filter latency, { parts with uri := uri.render }.routed filter latency =
          parts.routed filter latency := by
  have again : ofBytes uri.render = .ok uri := (canonical_of_ofBytes found).ofBytes_render short
  refine ⟨again, ?_⟩
  rintro parts rfl
  have same : { parts with uri := uri.render }.toRequest = parts.toRequest := by
    unfold RequestParts.toRequest RequestParts.readUri
    rw [found, again]
    rfl
  refine ⟨same, fun filter latency => ?_⟩
  rw [RequestParts.routed, same, RequestParts.routed]

/-- A scheme in capitals, no path, and a fragment that is not a text. -/
theorem replayed_as_printed_http :
    let text := Bytes.ofText "HTTP://h?q#" ++ [0xff]
    let uri := absolute (Bytes.ofText "http") (Bytes.ofText "h") [slash] (some (Bytes.ofText "q"))
    let parts : RequestParts := ⟨Bytes.ofText "GET", text, .http11, [], []⟩
    ofBytes text = .ok uri ∧ uri.render = Bytes.ofText "http://h/?q" ∧
      ofBytes (Bytes.ofText "http://h/?q") = .ok uri ∧
      ∀ filter latency, { parts with uri := Bytes.ofText "http://h/?q" }.routed filter latency =
        parts.routed filter latency := by
  intro text uri parts
  have found : ofBytes text = .ok uri := by decide +kernel
  have printed : uri.render = Bytes.ofText "http://h/?q" := by decide
  obtain ⟨again, replayed⟩ := replayed_as_printed found (by decide)
  rw [printed] at again replayed
  exact ⟨found, printed, again, (replayed parts rfl).2⟩

end Uri

end Greeter
