import Greeter.Proofs.Conversation
import Greeter.Proofs.Targets

/-! # What the router admits

Requests that are given to the router directly are checked part by part: the method,
the target, then each header with its name before its value. All that is wrong with the
parts is a list of faults (`RequestParts.faults`), and the first of them is what the
caller reads. A request without faults is greeted and logged, on whichever route
(`RequestParts.greeted_or_first_fault`).
-/

namespace Greeter

/-- The check ends with the first of the faults, or with a value if there is none. -/
def Reports {ε α : Type} (check : Except ε α) : List ε → Prop
  | [] => ∃ value, check = .ok value
  | first :: _ => check = .error first

namespace Reports

variable {ε α β : Type}

/-- Where a check is followed by another, the faults of the first come first. -/
theorem bind {check : Except ε α} {next : α → Except ε β} {faults more : List ε}
    (reports : Reports check faults) (goesOn : ∀ value, Reports (next value) more) :
    Reports (check >>= next) (faults ++ more) := by
  cases faults with
  | nil =>
      obtain ⟨value, rfl⟩ := reports
      exact goesOn value
  | cons first others =>
      obtain rfl : check = .error first := reports
      rfl

/-- A check of every item reports the faults of all items, in order. -/
theorem mapM {check : α → Except ε β} {faults : α → List ε}
    (each : ∀ item, Reports (check item) (faults item)) (items : List α) :
    Reports (items.mapM check) (items.flatMap faults) := by
  induction items with
  | nil => exact ⟨[], rfl⟩
  | cons item items ih =>
      rw [List.mapM_cons, List.flatMap_cons]
      apply bind (each item)
      intro value
      rw [← List.append_nil (items.flatMap faults)]
      apply bind ih
      intro values
      exact ⟨value :: values, rfl⟩

end Reports

namespace Bytes

/-- Letters, digits and the marks that may stand in a name. -/
def isTokenByte (byte : UInt8) : Bool :=
  (Char.ofNat byte.toNat).isAlphanum || "!#$%&'*+-.^_`|~".toList.contains (Char.ofNat byte.toNat)

/-- One character of a token at least, and nothing else. -/
def IsToken (text : Bytes) : Prop := text ≠ [] ∧ ∀ byte ∈ text, isTokenByte byte = true

/-- No control character but tabs. -/
def IsFieldText (text : Bytes) : Prop := ∀ byte ∈ text, byte = 0x09 ∨ 0x20 ≤ byte ∧ byte ≠ 0x7f

instance (text : Bytes) : Decidable text.IsToken := inferInstanceAs (Decidable (_ ∧ _))

instance (text : Bytes) : Decidable text.IsFieldText :=
  inferInstanceAs (Decidable (∀ byte ∈ text, byte = 0x09 ∨ 0x20 ≤ byte ∧ byte ≠ 0x7f))

-- A statement about one byte is decided by going through all of them.
theorem has_token (byte : UInt8) : ByteClass.token.has byte = isTokenByte byte := by
  revert byte
  apply forall_byte
  decide +kernel

/-- The bytes that the readers of values let through are the tab and all printable ones. -/
theorem has_fieldText_iff (byte : UInt8) :
    ByteClass.fieldText.has byte = true ↔ byte = 0x09 ∨ 0x20 ≤ byte ∧ byte ≠ 0x7f := by
  revert byte
  apply forall_byte
  decide +kernel

theorem isToken_iff (text : Bytes) :
    text.IsToken ↔ text ≠ [] ∧ text.all ByteClass.token.has = true := by
  simp only [IsToken, List.all_eq_true, has_token]

theorem isFieldText_iff (text : Bytes) :
    text.IsFieldText ↔ text.all ByteClass.fieldText.has = true := by
  simp only [IsFieldText, List.all_eq_true, has_fieldText_iff]

end Bytes

/-- All that is wrong with a header, the name before the value. -/
def Header.faults (header : Bytes × Bytes) : List RequestError :=
  (if header.1.IsToken ∧ header.1.length ≤ 65535 then [] else [.headerName]) ++
    if header.2.IsFieldText then [] else [.headerValue]

/-- The check of a header reports its name before its value. -/
theorem Header.reports_ofBytes (header : Bytes × Bytes) :
    Reports ((Header.ofBytes header.1 header.2).mapError .ofHeader) (Header.faults header) := by
  obtain ⟨name, value⟩ := header
  have valid : name.IsToken ∧ name.length ≤ 65535 ↔
      name ≠ [] ∧ name.all ByteClass.token.has = true ∧ name.length ≤ maxNameLength := by
    rw [Bytes.isToken_iff, and_assoc, maxNameLength]
  rw [faults, Header.ofBytes]
  by_cases named : name.IsToken ∧ name.length ≤ 65535
  · rw [if_pos named, dif_pos (valid.mp named), List.nil_append]
    by_cases valued : value.IsFieldText
    · rw [if_pos valued, dif_pos ((Bytes.isFieldText_iff value).mp valued)]
      exact ⟨_, rfl⟩
    · rw [if_neg valued, dif_neg (mt (Bytes.isFieldText_iff value).mpr valued)]
      rfl
  · rw [if_neg named, dif_neg (mt valid.mpr named)]
    rfl

namespace RequestParts

/-- The faults of a method: it is no token. -/
def methodFaults (parts : RequestParts) : List RequestError :=
  if parts.method.IsToken then [] else [.method]

/-- The faults of a target: the one that its reader finds. -/
def uriFaults (parts : RequestParts) : List RequestError :=
  match Uri.ofBytes parts.uri with
  | .ok _ => []
  | .error reason => [.uri reason]

/-- All that is wrong with the parts, in the order of the checks: the method, the
target, and the headers one after another. -/
def faults (parts : RequestParts) : List RequestError :=
  parts.methodFaults ++ (parts.uriFaults ++ parts.headers.flatMap Header.faults)

variable (parts : RequestParts)

/-- The check of the method reports its fault. -/
theorem reports_readMethod : Reports parts.readMethod parts.methodFaults := by
  rw [readMethod, methodFaults, Method.ofBytes?]
  by_cases named : parts.method.IsToken
  · rw [if_pos named, dif_pos ((Bytes.isToken_iff parts.method).mp named)]
    exact ⟨_, rfl⟩
  · rw [if_neg named, dif_neg (mt (Bytes.isToken_iff parts.method).mpr named)]
    rfl

/-- The check of the target reports its fault. -/
theorem reports_readUri : Reports parts.readUri parts.uriFaults := by
  rw [readUri, uriFaults]
  cases Uri.ofBytes parts.uri with
  | ok uri => exact ⟨uri, rfl⟩
  | error reason => rfl

/-- The check of the headers reports the faults of all of them, in order. -/
theorem reports_readHeaders :
    Reports parts.readHeaders (parts.headers.flatMap Header.faults) :=
  Reports.mapM Header.reports_ofBytes parts.headers

/-- **The first fault is reported**, and a request without faults is accepted. -/
theorem reports_toRequest : Reports parts.toRequest parts.faults := by
  unfold toRequest faults
  apply parts.reports_readMethod.bind
  intro method
  apply parts.reports_readUri.bind
  intro uri
  rw [← List.append_nil (parts.headers.flatMap Header.faults)]
  apply parts.reports_readHeaders.bind
  intro headers
  exact ⟨_, rfl⟩

variable {parts}

/-- An accepted request has the method, the target and the version that were asked for. -/
theorem parts_of_toRequest {request : Request} (accepted : parts.toRequest = .ok request) :
    request.method.token = parts.method ∧ Uri.ofBytes parts.uri = .ok request.uri ∧
      request.version = parts.version := by
  obtain ⟨method, isMethod, accepted⟩ := exists_of_bind_eq_ok accepted
  obtain ⟨uri, isUri, accepted⟩ := exists_of_bind_eq_ok accepted
  obtain ⟨headers, -, made⟩ := exists_of_bind_eq_ok accepted
  obtain rfl := Except.ok.inj made
  refine ⟨?_, ?_, rfl⟩
  · by_cases named : parts.method ≠ [] ∧ parts.method.all ByteClass.token.has = true
    · rw [readMethod, Method.ofBytes?, dif_pos named] at isMethod
      cases isMethod
      rfl
    · rw [readMethod, Method.ofBytes?, dif_neg named] at isMethod
      cases isMethod
  · rw [readUri] at isUri
    cases found : Uri.ofBytes parts.uri with
    | error reason => rw [found] at isUri; cases isUri
    | ok target => rw [found] at isUri; cases isUri; rfl

end RequestParts

/-- The response that everyone gets. -/
def Response.greeting : Response where
  status := 200
  version := .http11
  headers := [(Bytes.ofText "content-type", Bytes.ofText "text/plain; charset=utf-8"),
    (Bytes.ofText "content-length", Bytes.ofText "13")]
  body := Bytes.ofText "Hello, RS144!"

/-- There is one answer, whatever is asked. -/
theorem Router.respond_eq_greeting (request : Request) :
    Router.respond request = Response.greeting := by
  rw [Router.respond_eq]
  decide

/-- The router has two events to tell of each request. -/
theorem Router.events_eq (request : Request) : Router.events request =
    [.started (.ofRequest request), .finished (.ofRequest request) 200] := by
  rw [Router.events, Router.respond_eq]
  rfl

namespace Log

/-- What the log says about a request, before each line about it. -/
def Span.text (method uri : Bytes) (version : Version) : Bytes :=
  Bytes.ofText "request\x7bmethod=" ++ method ++ Bytes.ofText " uri=" ++ uri ++
    Bytes.ofText " version=" ++ Bytes.ofText version.text ++ Bytes.ofText "\x7d: "

/-- The two lines that the usual filter leaves of a request. -/
def Span.lines (method uri : Bytes) (version : Version) (latency : Bytes) : List Bytes :=
  [Bytes.ofText "DEBUG " ++ text method uri version ++
      Bytes.ofText "tower_http::trace::on_request: started processing request",
    Bytes.ofText "DEBUG " ++ text method uri version ++
      Bytes.ofText "tower_http::trace::on_response: finished processing request latency=" ++
      latency ++ Bytes.ofText " ms status=200"]

/-- A span without colours is the text of its values. -/
theorem Style.plain_span (span : Span) :
    Style.plain.span span = Span.text span.method.token span.uri.render span.version := by
  have start : Bytes.ofText "request\x7bmethod=" = Bytes.ofChars Span.name ++
      Bytes.ofText "\x7b" ++ Bytes.ofChars "method".toList ++ Bytes.ofText "=" := by decide
  have uri : Bytes.ofText " uri=" =
      [Bytes.space] ++ Bytes.ofChars "uri".toList ++ Bytes.ofText "=" := by decide
  have version : Bytes.ofText " version=" =
      [Bytes.space] ++ Bytes.ofChars "version".toList ++ Bytes.ofText "=" := by decide
  have ending : Bytes.ofText "\x7d: " =
      Bytes.ofText "\x7d" ++ Bytes.ofText ":" ++ [Bytes.space] := by decide
  rw [Span.text, start, uri, version, ending]
  simp only [Style.span, bold, dim, paint, values, value, italic, Span.values, List.map_cons,
    List.map_nil, List.intercalate, List.intersperse, List.flatten_cons, List.flatten_nil,
    List.append_assoc, List.append_nil]

/-- How the line about a request that has come in reads. -/
theorem Line.render_started (request : Request) (latency : Bytes) :
    (⟨.started (.ofRequest request), true⟩ : Line).render .plain ⟨none, latency⟩ =
      Bytes.ofText "DEBUG " ++ Span.text request.method.token request.uri.render request.version ++
        Bytes.ofText "tower_http::trace::on_request: started processing request" := by
  have parts : (⟨.started (.ofRequest request), true⟩ : Line).render .plain ⟨none, latency⟩ =
      [] ++ Bytes.ofText "DEBUG" ++ [Bytes.space] ++ Style.plain.span (.ofRequest request) ++
        (Bytes.ofChars "tower_http::trace::on_request".toList ++ Bytes.ofText ":") ++
        [Bytes.space] ++ Bytes.ofText "started processing request" ++ [] := rfl
  have level : Bytes.ofText "DEBUG " = Bytes.ofText "DEBUG" ++ [Bytes.space] := by decide
  have message : Bytes.ofText "tower_http::trace::on_request: started processing request" =
      Bytes.ofChars "tower_http::trace::on_request".toList ++ Bytes.ofText ":" ++ [Bytes.space] ++
        Bytes.ofText "started processing request" := by decide +kernel
  rw [parts, List.nil_append, Style.plain_span, level, message, List.append_nil]
  simp only [Span.ofRequest, List.append_assoc]

/-- How the line about a request that has been answered reads. -/
theorem Line.render_finished (request : Request) (latency : Bytes) :
    (⟨.finished (.ofRequest request) 200, true⟩ : Line).render .plain ⟨none, latency⟩ =
      Bytes.ofText "DEBUG " ++ Span.text request.method.token request.uri.render request.version ++
        Bytes.ofText "tower_http::trace::on_response: finished processing request latency=" ++
        latency ++ Bytes.ofText " ms status=200" := by
  have parts :
      (⟨.finished (.ofRequest request) 200, true⟩ : Line).render .plain ⟨none, latency⟩ =
      [] ++ Bytes.ofText "DEBUG" ++ [Bytes.space] ++ Style.plain.span (.ofRequest request) ++
        (Bytes.ofChars "tower_http::trace::on_response".toList ++ Bytes.ofText ":") ++
        [Bytes.space] ++ Bytes.ofText "finished processing request" ++
        [Style.plain.value ("latency".toList, latency ++ Bytes.ofText " ms"),
          Style.plain.value ("status".toList, Bytes.ofText (toString 200))].flatMap
            (Bytes.space :: ·) := rfl
  have level : Bytes.ofText "DEBUG " = Bytes.ofText "DEBUG" ++ [Bytes.space] := by decide
  have message :
      Bytes.ofText "tower_http::trace::on_response: finished processing request latency=" =
        Bytes.ofChars "tower_http::trace::on_response".toList ++ Bytes.ofText ":" ++
          [Bytes.space] ++ Bytes.ofText "finished processing request" ++ [Bytes.space] ++
          Bytes.ofChars "latency".toList ++ Bytes.ofText "=" := by decide +kernel
  have status : Bytes.ofText " ms status=200" = Bytes.ofText " ms" ++ [Bytes.space] ++
      Bytes.ofChars "status".toList ++ Bytes.ofText "=" ++ Bytes.ofText (toString 200) := by decide
  rw [parts, List.nil_append, Style.plain_span, level, message, status]
  simp only [Span.ofRequest, List.flatMap_cons, List.flatMap_nil, Style.value, Style.italic,
    Style.dim, Style.paint, List.append_nil, List.append_assoc, List.cons_append, List.nil_append]

variable {first second : Span}

/-- What a filter asks of a request is asked of the values in its span. -/
theorem Filter.shows_congr (filter : Filter) (same : first.values = second.values) :
    filter.shows (.started first) = filter.shows (.started second) ∧
      ∀ status, filter.shows (.finished first status) = filter.shows (.finished second status) := by
  have inside (level : Level) :
      filter.admitsInside first level = filter.admitsInside second level := by
    simp only [admitsInside, Directive.fitsValues, same]
  constructor
  · unfold shows
    exact congrArg _ (inside _)
  · intro status
    unfold shows
    exact congrArg _ (inside _)

/-- Lines about requests of the same text are the same. -/
theorem Line.render_congr (same : first.values = second.values) (showsSpan : Bool)
    (style : Style) (stamp : Stamp) :
    (⟨.started first, showsSpan⟩ : Line).render style stamp =
        (⟨.started second, showsSpan⟩ : Line).render style stamp ∧
      ∀ status, (⟨.finished first status, showsSpan⟩ : Line).render style stamp =
        (⟨.finished second status, showsSpan⟩ : Line).render style stamp := by
  have span : style.span first = style.span second := by rw [Style.span, same, Style.span]
  cases showsSpan with
  | false => exact ⟨rfl, fun _ => rfl⟩
  | true =>
      constructor
      · simp only [render, span?, ↓reduceIte, Event.span?, span]
        rfl
      · intro status
        simp only [render, span?, ↓reduceIte, Event.span?, span]
        rfl

/-- The text of the log of some events. How long a request took is read off a clock. -/
def Filter.texts (filter : Filter) (latency : Bytes) (events : List Event) : List Bytes :=
  (filter.lines? events).map (·.render .plain ⟨none, latency⟩)

/-- Requests with the same values in their spans leave the same text in the log. -/
theorem Filter.texts_congr (filter : Filter) (same : first.values = second.values)
    (latency : Bytes) (status : Nat) :
    filter.texts latency [.started first, .finished first status] =
      filter.texts latency [.started second, .finished second status] := by
  obtain ⟨showsStart, showsEnd⟩ := filter.shows_congr same
  obtain ⟨start, finish⟩ := Line.render_congr same filter.showsSpan .plain ⟨none, latency⟩
  simp only [texts, lines?, List.filter_cons, showsStart, showsEnd, List.filter_nil]
  split <;> split <;> simp only [List.map_cons, List.map_nil, start, finish]

end Log

namespace RequestParts

/-- What the router makes of the parts: the response, or the reason why there is no
request, and the text of the log. -/
structure Routed where
  result : Except RequestError Response
  log : List Bytes

/-- The parts are given to the router. -/
def routed (parts : RequestParts) (filter : Log.Filter) (latency : Bytes) : Routed :=
  match parts.toRequest with
  | .error reason => ⟨.error reason, []⟩
  | .ok request =>
    ⟨.ok (Router.respond request), filter.texts latency (Router.events request)⟩

variable {parts : RequestParts}

/-- A request with faults is answered with the first of them, and leaves no line. -/
theorem routed_of_fault {first : RequestError} {others : List RequestError}
    (found : parts.faults = first :: others) (filter : Log.Filter) (latency : Bytes) :
    parts.routed filter latency = ⟨.error first, []⟩ := by
  have refused := parts.reports_toRequest
  rw [found, Reports] at refused
  rw [routed, refused]

/-- A request without faults is accepted, and with the parts that were asked for. -/
theorem exists_of_faultless (none : parts.faults = []) : ∃ request,
    parts.toRequest = .ok request ∧ request.method.token = parts.method ∧
      Uri.ofBytes parts.uri = .ok request.uri ∧ request.version = parts.version := by
  have reports := parts.reports_toRequest
  rw [none] at reports
  obtain ⟨request, accepted⟩ := reports
  exact ⟨request, accepted, parts_of_toRequest accepted⟩

/-- An accepted request is greeted, and its two events pass through the filter. -/
theorem routed_of_accepted {request : Request} (accepted : parts.toRequest = .ok request)
    (filter : Log.Filter) (latency : Bytes) : parts.routed filter latency =
      ⟨.ok .greeting, filter.texts latency [.started (.ofRequest request),
        .finished (.ofRequest request) 200]⟩ := by
  rw [routed, accepted]
  dsimp only
  rw [Router.events_eq, Router.respond_eq_greeting]

/-- Under the usual filter an accepted request leaves both of its lines. -/
theorem routed_default_of_accepted {request : Request} (accepted : parts.toRequest = .ok request)
    (latency : Bytes) : parts.routed .default latency =
      ⟨.ok .greeting, Log.Span.lines request.method.token request.uri.render request.version
        latency⟩ := by
  rw [routed_of_accepted accepted, Log.Filter.texts, ← Router.events_eq,
    Log.Filter.default_lines?_events, Request.logLines, List.map_cons, List.map_singleton,
    Log.Line.render_started, Log.Line.render_finished, Log.Span.lines]

/-- Two targets that are read alike make the same request. -/
theorem toRequest_of_ofBytes_eq {text : Bytes} (same : Uri.ofBytes text = Uri.ofBytes parts.uri) :
    { parts with uri := text }.toRequest = parts.toRequest := by
  unfold toRequest readUri
  rw [same]
  rfl

/-- Two targets that are read alike are answered alike and leave the same lines. -/
theorem routed_of_ofBytes_eq {text : Bytes} (same : Uri.ofBytes text = Uri.ofBytes parts.uri)
    (filter : Log.Filter) (latency : Bytes) :
    { parts with uri := text }.routed filter latency = parts.routed filter latency := by
  rw [routed, toRequest_of_ofBytes_eq same, routed]

/-- **Every request is greeted.** A request without faults gets the greeting and two lines
in the log, which tell its method, its target and its version. Any other gets the first
fault, and leaves no line. So all accepted requests get the same response, and those that
agree in method, target and version leave the same lines, whatever the filter. -/
theorem greeted_or_first_fault (parts : RequestParts) (latency : Bytes) :
    (parts.faults = [] → ∃ uri, Uri.ofBytes parts.uri = .ok uri ∧
      parts.routed .default latency =
        ⟨.ok .greeting, Log.Span.lines parts.method uri.render parts.version latency⟩) ∧
    (∀ filter first others, parts.faults = first :: others →
      parts.routed filter latency = ⟨.error first, []⟩) ∧
    ∀ filter (other : RequestParts), parts.faults = [] → other.faults = [] →
      (other.routed filter latency).result = (parts.routed filter latency).result ∧
      ∀ uri otherUri, Uri.ofBytes parts.uri = .ok uri → Uri.ofBytes other.uri = .ok otherUri →
        other.method = parts.method → other.version = parts.version →
        otherUri.render = uri.render →
        other.routed filter latency = parts.routed filter latency := by
  refine ⟨?_, fun filter _ _ found => routed_of_fault found filter latency, ?_⟩
  · intro none
    obtain ⟨request, accepted, method, uri, version⟩ := exists_of_faultless none
    refine ⟨request.uri, uri, ?_⟩
    rw [routed_of_accepted accepted, Log.Filter.texts, ← Router.events_eq,
      Log.Filter.default_lines?_events, Request.logLines, List.map_cons, List.map_singleton,
      Log.Line.render_started, Log.Line.render_finished, method, version, Log.Span.lines]
  · intro filter other none otherNone
    obtain ⟨request, accepted, method, target, version⟩ := exists_of_faultless none
    obtain ⟨otherRequest, otherAccepted, otherMethod, otherTarget, otherVersion⟩ :=
      exists_of_faultless otherNone
    rw [routed_of_accepted accepted, routed_of_accepted otherAccepted]
    refine ⟨rfl, ?_⟩
    intro uri otherUri found otherFound sameMethod sameVersion printed
    obtain rfl : request.uri = uri := Except.ok.inj (target.symm.trans found)
    obtain rfl : otherRequest.uri = otherUri := Except.ok.inj (otherTarget.symm.trans otherFound)
    have same : (Log.Span.ofRequest otherRequest).values = (Log.Span.ofRequest request).values := by
      simp only [Log.Span.values, Log.Span.ofRequest, otherMethod, method, sameMethod,
        otherVersion, version, sameVersion, printed]
    rw [filter.texts_congr same]

/-- Two requests for the server as a whole that differ in all but what is logged, and one
of which nothing is right. -/
theorem greeted_or_first_fault_asterisk :
    let plain : RequestParts := ⟨Bytes.ofText "OPTIONS", Bytes.ofText "*", .http2, [], []⟩
    let full : RequestParts := { plain with
      headers := [(Bytes.ofText "accept", Bytes.ofText "text/html")]
      body := Bytes.ofText "nobody reads this" }
    let wrong : RequestParts := { plain with
      method := Bytes.ofText "G T"
      uri := []
      headers := [(Bytes.ofText "a b", [0x00])] }
    plain.faults = [] ∧ full.faults = [] ∧
      wrong.faults = [.method, .uri .empty, .headerName, .headerValue] ∧
      (∃ uri, plain.routed .default (Bytes.ofText "0") = ⟨.ok .greeting,
        Log.Span.lines plain.method uri plain.version (Bytes.ofText "0")⟩) ∧
      full.routed .default (Bytes.ofText "0") = plain.routed .default (Bytes.ofText "0") ∧
      wrong.routed .default (Bytes.ofText "0") = ⟨.error .method, []⟩ := by
  intro plain full wrong
  have none : plain.faults = [] := by decide +kernel
  have fullNone : full.faults = [] := by decide +kernel
  have found : wrong.faults = [.method, .uri .empty, .headerName, .headerValue] := by
    decide +kernel
  obtain ⟨greeted, -, alike⟩ := greeted_or_first_fault plain (Bytes.ofText "0")
  obtain ⟨uri, -, routed⟩ := greeted none
  obtain ⟨-, fault, -⟩ := greeted_or_first_fault wrong (Bytes.ofText "0")
  exact ⟨none, fullNone, found, ⟨uri.render, routed⟩,
    (alike .default full none fullNone).2 .asterisk .asterisk rfl rfl rfl rfl rfl,
    fault .default _ _ found⟩

end RequestParts

end Greeter
