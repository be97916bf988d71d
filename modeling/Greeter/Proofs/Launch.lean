import Greeter.Program
import Greeter.Proofs.Enabling
import Greeter.Proofs.Startup
import Greeter.Proofs.TextBytes
import Mathlib.Data.List.Forall2

/-! # A launch that fails

The program ends with status 1 where its endpoint cannot be bound, and its log holds at
most two lines: the endpoint that was to be bound, and the error. The directives in force
say which are written. They are those of the environment, if every one of them can be
read, and otherwise those used unless told otherwise (`Program.run_of_unbound`).
-/

namespace Greeter

/-- A row is read if every item is, each on its own. -/
theorem mapM_eq_some_iff {α β : Type} {read : α → Option β} {items : List α} {found : List β} :
    items.mapM read = some found ↔
      List.Forall₂ (fun item value => read item = some value) items found := by
  induction items generalizing found with
  | nil => simp [eq_comm]
  | cons item items ih =>
      simp only [List.mapM_cons, Option.bind_eq_bind, Option.bind_eq_some_iff, Option.pure_def,
        Option.some.injEq, ih, List.forall₂_cons_left_iff]
      constructor
      · rintro ⟨value, first, values, others, rfl⟩
        exact ⟨value, values, first, others, rfl⟩
      · rintro ⟨value, values, first, others, rfl⟩
        exact ⟨value, first, values, others, rfl⟩

/-- A row is not read if a single item is not. -/
theorem mapM_eq_none_iff {α β : Type} {read : α → Option β} {items : List α} :
    items.mapM read = none ↔ ∃ item ∈ items, read item = none := by
  induction items with
  | nil => simp
  | cons item items ih =>
      simp only [List.mapM_cons, Option.bind_eq_bind, List.mem_cons, exists_eq_or_imp, ← ih]
      cases read item with
      | none => simp
      | some value => cases items.mapM read <;> simp

namespace Log

/-- The text lists the directives: each stands between two commas or at an end, and nothing
else does but empty pieces. -/
def Directive.Lists (text : String) (directives : List Directive) : Prop :=
  List.Forall₂ (fun piece directive => ofChars? piece = some directive)
    ((pieces ',' text.toList).filter (· ≠ [])) directives

/-- The directives used unless told otherwise. -/
def Directive.usual : List Directive :=
  [⟨"hello_server".toList, none, none, .info⟩, ⟨"tower_http".toList, none, none, .debug⟩]

namespace Filter

variable {text : String}

/-- If every directive of the environment can be read, they are in force. -/
theorem ofEnvironment_of_lists {directives : List Directive}
    (lists : Directive.Lists text directives) :
    ofEnvironment (some (Bytes.ofText text)) = ofDirectives directives := by
  have isText : (Bytes.ofText text).toText? = some text := Bytes.toText?_eq_some_iff.mpr rfl
  have found : Directive.listOfText? text = some directives := mapM_eq_some_iff.mpr lists
  simp only [ofEnvironment, Option.bind_some, isText, ofText?, found, Option.map_some,
    Option.getD_some]

/-- A single directive that cannot be read puts the usual ones in force. -/
theorem ofEnvironment_of_unreadable {piece : List Char} (listed : piece ∈ pieces ',' text.toList)
    (nonempty : piece ≠ []) (unreadable : Directive.ofChars? piece = none) :
    ofEnvironment (some (Bytes.ofText text)) = ofDirectives Directive.usual := by
  have isText : (Bytes.ofText text).toText? = some text := Bytes.toText?_eq_some_iff.mpr rfl
  have spoiled : Directive.listOfText? text = none := mapM_eq_none_iff.mpr
    ⟨piece, List.mem_filter.mpr ⟨listed, decide_eq_true nonempty⟩, unreadable⟩
  simp only [ofEnvironment, Option.bind_some, isText, ofText?, spoiled, Option.map_none,
    Option.getD_none]
  rfl

/-- What is no text puts the usual directives in force. -/
theorem ofEnvironment_of_no_text {bytes : Bytes} (noText : ∀ text, bytes ≠ Bytes.ofText text) :
    ofEnvironment (some bytes) = ofDirectives Directive.usual := by
  have unread : bytes.toText? = none := Option.eq_none_iff_forall_ne_some.mpr fun text found =>
    noText text (Bytes.toText?_eq_some_iff.mp found)
  simp only [ofEnvironment, Option.bind_some, unread, Option.bind_none, Option.getD_none]
  rfl

end Filter

end Log

namespace Program

open Log

/-- The line about the endpoint that is to be bound. -/
def bindingText : Bytes :=
  Bytes.ofText "DEBUG hello_server::server: binding listener addr=127.0.0.1:8080"

/-- The line about the error that ends the program. -/
def failedText (source : IoError) : Bytes :=
  Bytes.ofText "ERROR hello_server: failed to bind 127.0.0.1:8080: " ++
    Bytes.ofChars source.messageChars

section Lines

variable (showsSpan : Bool) (latency : Bytes)

/-- The line about the endpoint has no span, so it reads the same whether spans are shown or not. -/
theorem render_binding :
    (⟨.binding Config.default.endpoint, showsSpan⟩ : Line).render .plain ⟨none, latency⟩ =
      bindingText := by
  have parts :
      (⟨.binding Config.default.endpoint, showsSpan⟩ : Line).render .plain ⟨none, latency⟩ =
        (⟨.binding Config.default.endpoint, false⟩ : Line).render .plain ⟨none, []⟩ := by
    cases showsSpan <;> rfl
  rw [parts]
  decide +kernel

/-- Neither has the line about the error. -/
theorem render_failed (error : ServerError) :
    (⟨.failed error, showsSpan⟩ : Line).render .plain ⟨none, latency⟩ =
      Bytes.ofText "ERROR hello_server: " ++ Bytes.ofChars error.messageChars := by
  have parts : (⟨.failed error, showsSpan⟩ : Line).render .plain ⟨none, latency⟩ =
      [] ++ Bytes.ofText Level.error.name ++ [Bytes.space] ++ [] ++
        (Bytes.ofChars "hello_server".toList ++ Bytes.ofText ":") ++ [Bytes.space] ++
        Bytes.ofChars error.messageChars ++ [] := by
    cases showsSpan <;> rfl
  have start : Bytes.ofText "ERROR hello_server: " = Bytes.ofText Level.error.name ++
      [Bytes.space] ++ (Bytes.ofChars "hello_server".toList ++ Bytes.ofText ":") ++
        [Bytes.space] := by
    decide +kernel
  rw [parts, start, List.nil_append, List.append_nil, List.append_nil]

/-- The error about the endpoint is the one that a failed launch tells. -/
theorem ofChars_messageChars (source : IoError) :
    Bytes.ofText "ERROR hello_server: " ++
        Bytes.ofChars (ServerError.bind Config.default.endpoint source).messageChars =
      failedText source := by
  have message : (ServerError.bind Config.default.endpoint source).messageChars =
      "failed to bind ".toList ++ Config.default.endpoint.chars ++ ": ".toList ++
        source.messageChars := rfl
  have start : Bytes.ofText "ERROR hello_server: failed to bind 127.0.0.1:8080: " =
      Bytes.ofText "ERROR hello_server: " ++ Bytes.ofChars ("failed to bind ".toList ++
        Config.default.endpoint.chars ++ ": ".toList) := by
    decide +kernel
  rw [message, Bytes.ofChars_append, failedText, start]
  exact (List.append_assoc _ _ _).symm

end Lines

variable {Listener : Type} {sockets : Sockets Listener} {source : IoError}

/-- What the program does where its endpoint cannot be bound. -/
theorem run_eq_of_unbound (unbound : sockets.bind Config.default.endpoint = .error source)
    (environment : Environment) : run sockets environment =
      ⟨1, (Filter.ofEnvironment environment.filter).lines?
        [.binding Config.default.endpoint, .failed (.bind Config.default.endpoint source)]⟩ := by
  rw [run, Server.serve_of_unbound unbound]
  rfl

/-- A launch that fails leaves at most two lines, and each is kept if the directives in force
enable it. -/
theorem texts_of_unbound (directives : List Directive) (source : IoError) (latency : Bytes) :
    ∃ binding failed : Bool,
      (binding = true ↔ Enables directives
        ⟨"hello_server::server".toList, .debug, ["message".toList, "addr".toList]⟩) ∧
      (failed = true ↔ Enables directives ⟨"hello_server".toList, .error, ["message".toList]⟩) ∧
      ((Filter.ofDirectives directives).lines? [.binding Config.default.endpoint,
        .failed (.bind Config.default.endpoint source)]).map (·.render .plain ⟨none, latency⟩) =
        (if binding then [bindingText] else []) ++ if failed then [failedText source] else [] := by
  have shows_iff (event : Event) (noSpan : event.span? = none) :
      (Filter.ofDirectives directives).shows event = true ↔
        Enables directives event.callsite := by
    rw [Filter.shows, noSpan, Option.any_none, Bool.or_false, Filter.admitsLine_iff]
  refine ⟨(Filter.ofDirectives directives).shows (.binding Config.default.endpoint),
    (Filter.ofDirectives directives).shows (.failed (.bind Config.default.endpoint source)),
    shows_iff _ rfl, shows_iff _ rfl, ?_⟩
  rw [Filter.lines?, List.filter_cons, List.filter_cons, List.filter_nil]
  split <;> split <;>
    simp only [List.map_cons, List.map_nil, render_binding, render_failed, ofChars_messageChars,
      List.nil_append, List.append_nil, List.singleton_append]

/-- The usual directives keep the error and leave the endpoint out. -/
theorem texts_usual (source : IoError) (latency : Bytes) :
    ((Filter.ofDirectives Directive.usual).lines? [.binding Config.default.endpoint,
        .failed (.bind Config.default.endpoint source)]).map (·.render .plain ⟨none, latency⟩) =
      [failedText source] := by
  obtain ⟨binding, failed, starts, ends, texts⟩ := texts_of_unbound Directive.usual source latency
  have first : binding = false := by
    rw [Bool.eq_false_iff, ne_eq, starts, ← Filter.admitsLine_iff]
    decide
  have second : failed = true := by
    rw [ends, ← Filter.admitsLine_iff]
    decide
  rw [texts, first, second]
  rfl

/-- **A launch that fails** ends with status 1, whatever the arguments, and tells why as far
as the directives in force let it. If every directive of the environment can be read they
are in force, and nothing else is. If there are none, or what there is is no text, or a
single one of them cannot be read, the usual ones are, and the log is the error. -/
theorem run_of_unbound (unbound : sockets.bind Config.default.endpoint = .error source)
    (environment : Environment) (latency : Bytes) :
    (run sockets environment).exitStatus = 1 ∧
    (∀ text directives, environment.filter = some (Bytes.ofText text) →
      Directive.Lists text directives →
        Filter.ofEnvironment environment.filter = .ofDirectives directives ∧
        ∃ binding failed : Bool,
          (binding = true ↔ Enables directives
            ⟨"hello_server::server".toList, .debug, ["message".toList, "addr".toList]⟩) ∧
          (failed = true ↔
            Enables directives ⟨"hello_server".toList, .error, ["message".toList]⟩) ∧
          (run sockets environment).lines.map (·.render .plain ⟨none, latency⟩) =
            (if binding then [bindingText] else []) ++
              if failed then [failedText source] else []) ∧
    ((environment.filter = none ∨
        (∃ bytes, environment.filter = some bytes ∧ ∀ text, bytes ≠ Bytes.ofText text) ∨
        ∃ text, environment.filter = some (Bytes.ofText text) ∧
          ∃ piece ∈ pieces ',' text.toList, piece ≠ [] ∧ Directive.ofChars? piece = none) →
      Filter.ofEnvironment environment.filter = .ofDirectives Directive.usual ∧
      (run sockets environment).lines.map (·.render .plain ⟨none, latency⟩) =
        [failedText source]) := by
  rw [run_eq_of_unbound unbound environment]
  refine ⟨rfl, ?_, ?_⟩
  · intro text directives isSet lists
    have inForce : Filter.ofEnvironment environment.filter = .ofDirectives directives := by
      rw [isSet, Filter.ofEnvironment_of_lists lists]
    rw [inForce]
    exact ⟨rfl, texts_of_unbound directives source latency⟩
  · intro unread
    have inForce :
        Filter.ofEnvironment environment.filter = .ofDirectives Directive.usual := by
      obtain unset | ⟨bytes, isSet, noText⟩ | ⟨text, isSet, piece, listed, nonempty, unreadable⟩ :=
        unread
      · rw [unset]
        rfl
      · rw [isSet, Filter.ofEnvironment_of_no_text noText]
      · rw [isSet, Filter.ofEnvironment_of_unreadable listed nonempty unreadable]
    rw [inForce]
    exact ⟨rfl, texts_usual source latency⟩

/-- The endpoint is taken. A directive whose target starts the name of one part of the
program shows the line of this part alone; one bad directive among good ones shows the
error. -/
theorem run_of_unbound_taken :
    let taken : Sockets Unit :=
      ⟨fun _ => .error (.system SystemCode.addressInUse), fun _ => .ok Config.default.endpoint,
        fun _ => .ok ()⟩
    let environment (filter : String) : Environment :=
      ⟨some (Bytes.ofText filter), none, ["--help"]⟩
    let texts (filter : String) : List Bytes :=
      (run taken (environment filter)).lines.map (·.render .plain ⟨none, []⟩)
    taken.bind Config.default.endpoint = .error (.system 98) ∧
      Directive.Lists "hello_server::s"
        [⟨"hello_server::s".toList, none, none, .trace⟩] ∧
      texts "hello_server::s" = [bindingText] ∧
      "=".toList ∈ pieces ',' "hello_server=trace,=,info".toList ∧
      Directive.ofChars? "=".toList = none ∧
      texts "hello_server=trace,=,info" =
        [Bytes.ofText ("ERROR hello_server: failed to bind 127.0.0.1:8080: " ++
          "Address already in use (os error 98)")] := by
  intro taken environment texts
  have unbound : taken.bind Config.default.endpoint = .error (.system 98) := rfl
  have lists : Directive.Lists "hello_server::s"
      [⟨"hello_server::s".toList, none, none, .trace⟩] := .cons (by decide +kernel) .nil
  have listed : "=".toList ∈ pieces ',' "hello_server=trace,=,info".toList := by decide +kernel
  have unreadable : Directive.ofChars? "=".toList = none := by decide +kernel
  obtain ⟨-, asked, -⟩ := run_of_unbound unbound (environment "hello_server::s") []
  obtain ⟨-, binding, failed, starts, ends, shown⟩ := asked _ _ rfl lists
  have first : binding = true := by
    rw [starts, ← Filter.admitsLine_iff]
    decide
  have second : failed = false := by
    rw [Bool.eq_false_iff, ne_eq, ends, ← Filter.admitsLine_iff]
    decide
  obtain ⟨-, -, otherwise⟩ := run_of_unbound unbound (environment "hello_server=trace,=,info") []
  obtain ⟨-, spoiled⟩ := otherwise
    (.inr (.inr ⟨_, rfl, _, listed, by decide, unreadable⟩))
  refine ⟨unbound, lists, ?_, listed, unreadable, ?_⟩
  · rw [first, second] at shown
    exact shown
  · exact spoiled.trans (by decide +kernel)

end Program

end Greeter
