import Greeter.Proofs.Admission
import Greeter.Proofs.Enabling
import Greeter.Proofs.SingleRequests
import Mathlib.Data.List.Forall2

/-! # What a filter changes

The filter of the log has no part in the service: clients receive the same under any two
filters. It takes text away from the log and changes nothing else: the lines are those of
the usual filter, in order, some left out and some without the context of their request
(`Log.Thins`). Directives that name targets and levels alone say which: three targets of
the program decide about the two lines and about the context (`Log.filtering_removes_text`).
-/

namespace Greeter

open Wire

namespace Request

/-- What tells the request in a line about it, before the target of the line. -/
def context (request : Request) : Bytes :=
  Log.Span.text request.method.token request.uri.render request.version

/-- The line about a request that has come in, with or without what tells the request. -/
def startedText (request : Request) (withContext : Bool) : Bytes :=
  Bytes.ofText "DEBUG " ++ (if withContext then request.context else []) ++
    Bytes.ofText "tower_http::trace::on_request: started processing request"

/-- The line about a request that has been answered, with or without what tells the request. -/
def finishedText (request : Request) (withContext : Bool) (latency : Bytes) : Bytes :=
  Bytes.ofText "DEBUG " ++ (if withContext then request.context else []) ++
    (Bytes.ofText "tower_http::trace::on_response: finished processing request latency=" ++
      latency ++ Bytes.ofText " ms status=200")

/-- The lines about a request, as far as they are kept. -/
def logText (request : Request) (started finished withContext : Bool) (latency : Bytes) :
    List Bytes :=
  (if started then [request.startedText withContext] else []) ++
    if finished then [request.finishedText withContext latency] else []

end Request

namespace Log

variable (request : Request) (withContext : Bool) (latency : Bytes)

/-- A line about a request reads the same without the context of the request. -/
theorem Line.render_without_context {event : Event} {said : Bytes}
    (inside : event.span? = some (.ofRequest request)) (debug : event.callsite.level = .debug)
    (full : (⟨event, true⟩ : Line).render .plain ⟨none, latency⟩ =
      Bytes.ofText "DEBUG " ++ request.context ++ said) :
    (⟨event, false⟩ : Line).render .plain ⟨none, latency⟩ = Bytes.ofText "DEBUG " ++ said := by
  have level : Bytes.ofText "DEBUG " = Bytes.ofText Level.debug.name ++ [Bytes.space] := by decide
  have context : Style.plain.span (.ofRequest request) = request.context := Style.plain_span _
  simp only [render, span?, inside, debug, level, context, ↓reduceIte, List.nil_append,
    List.append_assoc, List.append_cancel_left_eq, Bool.false_eq_true, Style.paint] at full ⊢
  exact full

/-- The line of a request that has come in reads as it should, whether the span is shown or not. -/
theorem Line.render_started_eq :
    (⟨.started (.ofRequest request), withContext⟩ : Line).render .plain ⟨none, latency⟩ =
      request.startedText withContext := by
  have full := render_started request latency
  cases withContext with
  | true => exact full
  | false =>
      rw [render_without_context request latency rfl rfl full, Request.startedText,
        if_neg Bool.false_ne_true, List.append_nil]

/-- So does the line of a request that has been answered. -/
theorem Line.render_finished_eq :
    (⟨.finished (.ofRequest request) 200, withContext⟩ : Line).render .plain ⟨none, latency⟩ =
      request.finishedText withContext latency := by
  have full := render_finished request latency
  rw [List.append_assoc, List.append_assoc, ← List.append_assoc _ latency] at full
  cases withContext with
  | true => exact full
  | false =>
      rw [render_without_context request latency rfl rfl full, Request.finishedText,
        if_neg Bool.false_ne_true, List.append_nil]

/-- **The log of a request under any filter** holds its lines as far as they are kept. -/
theorem Filter.texts_events (filter : Filter) : filter.texts latency (Router.events request) =
    request.logText (filter.shows (.started (.ofRequest request)))
      (filter.shows (.finished (.ofRequest request) 200)) filter.showsSpan latency := by
  rw [Router.events_eq, texts, lines?, List.filter_cons, List.filter_cons, List.filter_nil,
    Request.logText]
  cases filter.shows (.started (.ofRequest request)) <;>
    cases filter.shows (.finished (.ofRequest request) 200) <;>
    simp only [Bool.false_eq_true, ↓reduceIte, List.map_cons, List.map_nil, Line.render_started_eq,
      Line.render_finished_eq, List.nil_append, List.append_nil, List.singleton_append]

theorem Filter.default_texts_events :
    Filter.default.texts latency (Router.events request) =
      request.logText true true true latency := by
  rw [texts_events, default_shows_started, default_shows_finished, default_showsSpan]

theorem Filter.texts_append (filter : Filter) (first second : List Event) :
    filter.texts latency (first ++ second) =
      filter.texts latency first ++ filter.texts latency second := by
  rw [texts, lines?_append, List.map_append, texts, texts]

/-- The log of a row of exchanges is that of its requests, one behind the other. -/
theorem Filter.texts_exchanges (filter : Filter) (exchanges : List Exchange) :
    filter.texts latency (exchanges.flatMap Exchange.events) =
      (exchanges.map (·.request)).flatMap fun request =>
        filter.texts latency (Router.events request) := by
  induction exchanges with
  | nil => rfl
  | cons exchange rest ih =>
      rw [List.flatMap_cons, texts_append, ih, List.map_cons, List.flatMap_cons, Exchange.events]

/-- The line is the other one, or it is the other one without the context of one of the
requests. -/
def Thins (requests : List Request) (line full : Bytes) : Prop :=
  line = full ∨ ∃ request ∈ requests, ∃ said,
    full = Bytes.ofText "DEBUG " ++ request.context ++ said ∧
      line = Bytes.ofText "DEBUG " ++ said

variable {requests : List Request} {request : Request}

/-- The line of a request that has come in is the full one, or that one without its context. -/
theorem thins_startedText (member : request ∈ requests) (withContext : Bool) :
    Thins requests (request.startedText withContext) (request.startedText true) := by
  cases withContext with
  | true => exact .inl rfl
  | false =>
      refine .inr ⟨request, member, _, rfl, ?_⟩
      rw [Request.startedText, if_neg Bool.false_ne_true, List.append_nil]

/-- So is the line of a request that has been answered. -/
theorem thins_finishedText (member : request ∈ requests) (withContext : Bool) (latency : Bytes) :
    Thins requests (request.finishedText withContext latency)
      (request.finishedText true latency) := by
  cases withContext with
  | true => exact .inl rfl
  | false =>
      refine .inr ⟨request, member, _, rfl, ?_⟩
      rw [Request.finishedText, if_neg Bool.false_ne_true, List.append_nil]

/-- The lines that are kept of a request are its full lines, some left out and some thinned. -/
theorem thins_logText (member : request ∈ requests) (started finished withContext : Bool)
    (latency : Bytes) : List.SublistForall₂ (Thins requests)
      (request.logText started finished withContext latency)
      (request.logText true true true latency) := by
  have first := thins_startedText member withContext
  have second := thins_finishedText member withContext latency
  cases started <;> cases finished
  · exact .nil
  · exact .cons_right (.cons second .nil)
  · exact .cons first .nil
  · exact .cons first (.cons second .nil)

/-- Thinning one row and thinning the row behind it thins both together. -/
theorem sublistForall₂_append {α : Type} {relation : α → α → Prop} {some more all others : List α}
    (first : List.SublistForall₂ relation some all)
    (second : List.SublistForall₂ relation more others) :
    List.SublistForall₂ relation (some ++ more) (all ++ others) := by
  rw [List.sublistForall₂_iff] at first second ⊢
  obtain ⟨chosen, related, isSublist⟩ := first
  obtain ⟨alsoChosen, alsoRelated, alsoSublist⟩ := second
  exact ⟨chosen ++ alsoChosen, List.rel_append related alsoRelated, isSublist.append alsoSublist⟩

/-- **The lines about requests are those of the usual filter**, some left out and some
without their context. -/
theorem Filter.thins_default (filter : Filter) (latency : Bytes) (requests : List Request) :
    List.SublistForall₂ (Thins requests)
      (requests.flatMap fun request => filter.texts latency (Router.events request))
      (requests.flatMap fun request => Filter.default.texts latency (Router.events request)) := by
  -- The requests that a line may lose its context to stay the same in the induction.
  suffices listed : ∀ some ⊆ requests, List.SublistForall₂ (Thins requests)
      (some.flatMap fun request => filter.texts latency (Router.events request))
      (some.flatMap fun request => Filter.default.texts latency (Router.events request)) from
    listed requests (List.Subset.refl requests)
  intro some
  induction some with
  | nil => exact fun _ => .nil
  | cons request rest ih =>
      intro among
      obtain ⟨member, others⟩ := List.cons_subset.mp among
      rw [List.flatMap_cons, List.flatMap_cons, texts_events, default_texts_events]
      exact sublistForall₂_append (thins_logText member _ _ _ latency) (ih others)

/-- Under directives for targets alone every request leaves the same of its lines. -/
theorem Filter.texts_events_of_isPlain {directives : List Directive}
    (plain : ∀ directive ∈ directives, directive.IsPlain) {started finished withContext : Bool}
    (starts : started = true ↔
      EnablesTarget directives "tower_http::trace::on_request".toList .debug)
    (finishes : finished = true ↔
      EnablesTarget directives "tower_http::trace::on_response".toList .debug)
    (shown : withContext = true ↔
      EnablesTarget directives "tower_http::trace::make_span".toList .debug)
    (request : Request) (latency : Bytes) :
    (ofDirectives directives).texts latency (Router.events request) =
      request.logText started finished withContext latency := by
  have first : (ofDirectives directives).shows (.started (.ofRequest request)) = started :=
    Bool.eq_iff_iff.mpr ((shows_iff_of_isPlain plain _).trans starts.symm)
  have second : (ofDirectives directives).shows (.finished (.ofRequest request) 200) = finished :=
    Bool.eq_iff_iff.mpr ((shows_iff_of_isPlain plain _).trans finishes.symm)
  have context : (ofDirectives directives).showsSpan = withContext :=
    Bool.eq_iff_iff.mpr ((showsSpan_iff_of_isPlain plain).trans shown.symm)
  rw [texts_events, first, second, context]

end Log

/-- What is seen of a step: what the client receives, whether its connection is open behind
the step, and the text of the log. -/
structure Seen where
  received : Bytes
  isOpen : Bool
  log : List Bytes

/-- What a client and an operator see of an answer. -/
def Answer.seen (answer : Answer) (filter : Log.Filter) (date latency : Bytes) : Seen :=
  ⟨answer.received date, answer.isOpen, filter.texts latency answer.transmission.events⟩

/-- The log of a step is the log of the requests accepted in it. -/
theorem Answer.log_seen (answer : Answer) (filter : Log.Filter) (date latency : Bytes) :
    (answer.seen filter date latency).log =
      answer.requests.flatMap fun request => filter.texts latency (Router.events request) :=
  filter.texts_exchanges latency answer.transmission.exchanges

namespace RequestParts

/-- The request that the parts make, if they make one. -/
def accepted (parts : RequestParts) : List Request := parts.toRequest.toOption.toList

variable (parts : RequestParts) (filter : Log.Filter) (latency : Bytes)

/-- The filter has no part in what the router returns. -/
theorem result_routed :
    (parts.routed filter latency).result = parts.toRequest.map Router.respond := by
  rw [routed]
  cases parts.toRequest <;> rfl

/-- The log of a request to the router is that of the request it makes, if it makes one. -/
theorem log_routed : (parts.routed filter latency).log =
    parts.accepted.flatMap fun request => filter.texts latency (Router.events request) := by
  rw [routed, accepted]
  cases parts.toRequest with
  | error reason => rfl
  | ok request =>
      exact (List.flatMap_singleton (fun request => filter.texts latency (Router.events request))
        request).symm

end RequestParts

/-- **Filtering changes the log alone, and only takes text away from it.** Whatever is asked
of the router or sent to the server, clients get the same under any two filters. The lines
are those of the usual filter, some left out and some without the context of their request.
Under directives for targets alone, the target of each of the two lines decides about that
line, and the target of the span about the context. -/
theorem Log.filtering_removes_text (requests : List RequestParts) (steps : List Step)
    (date latency : Bytes) :
    (∀ first second : Filter,
      (requests.map (·.routed first latency)).map (·.result) =
        (requests.map (·.routed second latency)).map (·.result) ∧
      ((Service.idle.run steps).map (·.seen first date latency)).map
          (fun seen => (seen.received, seen.isOpen)) =
        ((Service.idle.run steps).map (·.seen second date latency)).map
          fun seen => (seen.received, seen.isOpen)) ∧
    (∀ filter : Filter,
      (∀ parts ∈ requests, List.SublistForall₂ (Thins parts.accepted)
        (parts.routed filter latency).log (parts.routed .default latency).log) ∧
      ∀ answer ∈ Service.idle.run steps, List.SublistForall₂ (Thins answer.requests)
        (answer.seen filter date latency).log (answer.seen .default date latency).log) ∧
    ∀ directives : List Directive, (∀ directive ∈ directives, directive.IsPlain) →
      ∃ started finished withContext : Bool,
        (started = true ↔
          EnablesTarget directives "tower_http::trace::on_request".toList .debug) ∧
        (finished = true ↔
          EnablesTarget directives "tower_http::trace::on_response".toList .debug) ∧
        (withContext = true ↔
          EnablesTarget directives "tower_http::trace::make_span".toList .debug) ∧
        (∀ parts ∈ requests, (parts.routed (.ofDirectives directives) latency).log =
          parts.accepted.flatMap (·.logText started finished withContext latency)) ∧
        ∀ answer ∈ Service.idle.run steps,
          (answer.seen (.ofDirectives directives) date latency).log =
            answer.requests.flatMap (·.logText started finished withContext latency) := by
  refine ⟨fun first second => ⟨?_, ?_⟩, fun filter => ⟨?_, ?_⟩, fun directives plain => ?_⟩
  · simp only [List.map_map, Function.comp_def, RequestParts.result_routed]
  · simp only [List.map_map, Function.comp_def, Answer.seen]
  · intro parts _
    rw [parts.log_routed, parts.log_routed]
    exact filter.thins_default latency parts.accepted
  · intro answer _
    rw [answer.log_seen, answer.log_seen]
    exact filter.thins_default latency answer.requests
  · -- The three answers depend on the directives alone, so they are chosen once for all requests.
    classical
    refine ⟨_, _, _, decide_eq_true_iff, decide_eq_true_iff, decide_eq_true_iff, ?_, ?_⟩
    · intro parts _
      rw [parts.log_routed]
      exact List.flatMap_congr fun request _ => Filter.texts_events_of_isPlain plain
        decide_eq_true_iff decide_eq_true_iff decide_eq_true_iff request latency
    · intro answer _
      rw [answer.log_seen]
      exact List.flatMap_congr fun request _ => Filter.texts_events_of_isPlain plain
        decide_eq_true_iff decide_eq_true_iff decide_eq_true_iff request latency

/-- A filter that shows requests when they come in, and neither their context nor their
answers. -/
theorem Log.filtering_removes_text_incoming :
    let directives : List Directive :=
      [⟨"tower_http::trace::on_request".toList, none, none, .debug⟩]
    let get : Request := .forRoot ⟨Bytes.ofText "GET", by decide, by decide⟩
    Directive.listOfText? "tower_http::trace::on_request=debug" = some directives ∧
      (∀ directive ∈ directives, directive.IsPlain) ∧
      ∃ answer, Service.idle.run [⟨0, .send get.text⟩] = [answer] ∧
        (answer.seen (.ofDirectives directives) [] []).log =
          [Bytes.ofText "DEBUG tower_http::trace::on_request: started processing request"] := by
  intro directives get
  have plain : ∀ directive ∈ directives, directive.IsPlain :=
    List.forall_mem_singleton.mpr ⟨rfl, rfl⟩
  have formed : get.WellFormed := Request.forRoot_wellFormed (by decide)
  have run := formed.alone rfl 0
  obtain ⟨-, -, byTarget⟩ := filtering_removes_text [] [⟨0, .send get.text⟩] [] []
  obtain ⟨started, finished, withContext, starts, finishes, shown, -, log⟩ :=
    byTarget directives plain
  have chosen {target : List Char} (enabled : EnablesTarget directives target .debug) :
      "tower_http::trace::on_request".toList <+: target := by
    obtain ⟨chosen, earlier, later, listed, fits, -⟩ := enabled
    have member : chosen ∈ directives := by rw [listed]; simp
    rw [List.mem_singleton.mp member] at fits
    exact fits
  have first : started = true := starts.mpr
    ⟨_, [], [], rfl, List.prefix_refl _, nofun, nofun, by decide⟩
  have second : finished = false :=
    Bool.eq_false_iff.mpr fun kept => absurd (chosen (finishes.mp kept)) (by decide)
  have context : withContext = false :=
    Bool.eq_false_iff.mpr fun kept => absurd (chosen (shown.mp kept)) (by decide)
  refine ⟨by decide +kernel, plain, _, run, ?_⟩
  rw [log _ (by rw [run]; exact List.mem_singleton_self _), first, second, context]
  decide +kernel

end Greeter
