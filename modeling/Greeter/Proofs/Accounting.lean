import Greeter.Proofs.Conversation
import Greeter.Proofs.Steady

/-! # Accepted requests stand in the stream

Whatever a client sends, the requests that a connection has accepted stand in the
bytes sent on it one behind another, from the first byte on, each with its whole
body before the next (`Wire.Reads`, `Wire.Holds`). Bytes that are refused and
heads that are not whole are no requests. What has been read stays read when
more bytes come in, so that each step of a connection goes on with the same
account of its stream (`Wire.Connection.act_accounts`).
-/

namespace Greeter

open Wire

namespace Wire

variable {text rest more : Bytes} {request : Request} {framing : Framing}
  {earlier later : List Request}

/-- A request that the server accepts stands at the start of a text. -/
def Starts (text : Bytes) (request : Request) (framing : Framing) (rest : Bytes) : Prop :=
  ∃ head, Head.read text = .complete head rest ∧
    text.length - rest.length ≤ Ending.maxHead ∧ head.accept = .ok (request, framing)

/-- A request that has been accepted is accepted as well when more bytes follow. -/
theorem Starts.append (starts : Starts text request framing rest) (more : Bytes) :
    Starts (text ++ more) request framing (rest ++ more) := by
  obtain ⟨head, found, fits, accepted⟩ := starts
  have steady := Head.read_steady text more (by rw [found]; rintro ⟨⟩)
  rw [found] at steady
  refine ⟨head, steady, ?_, accepted⟩
  rw [List.length_append, List.length_append]
  omega

namespace Progress

variable {α β : Type}

/-- Two readers in a row come to an end if and only if both do, one behind the other. -/
theorem andThen_eq_complete {progress : Progress α} {next : α → Bytes → Progress β} {value : β} :
    progress.andThen next = complete value rest ↔
      ∃ first behind, progress = complete first behind ∧
        next first behind = complete value rest := by
  cases progress with
  | incomplete => exact ⟨nofun, nofun⟩
  | refused reason => exact ⟨nofun, nofun⟩
  | complete first behind =>
      constructor
      · intro found
        exact ⟨first, behind, rfl, found⟩
      · rintro ⟨_, _, same, found⟩
        cases same
        exact found

end Progress

namespace Head

/-- A version that is read is one of the two that are spoken. -/
theorem readVersion_spoken {version : Version} (found : readVersion text = .complete version rest) :
    version = .http10 ∨ version = .http11 := by
  unfold readVersion at found
  dsimp only at found
  split at found
  · split at found <;> cases found
  · split at found
    · cases found
      exact .inl rfl
    · split at found
      · cases found
        exact .inr rfl
      · cases found

/-- No other version is ever read off the wire. -/
theorem read_spoken {head : Head} (found : read text = .complete head rest) :
    head.version = .http10 ∨ head.version = .http11 := by
  rw [read, Progress.andThen_eq_complete] at found
  obtain ⟨_, _, _, found⟩ := found
  rw [Progress.andThen_eq_complete] at found
  obtain ⟨_, _, _, found⟩ := found
  rw [readAfterMethod, Progress.andThen_eq_complete] at found
  obtain ⟨_, _, _, found⟩ := found
  rw [Progress.andThen_eq_complete] at found
  obtain ⟨_, _, versioned, found⟩ := found
  rw [Progress.andThen_eq_complete] at found
  obtain ⟨_, _, _, found⟩ := found
  rw [Progress.map, Progress.andThen_eq_complete] at found
  obtain ⟨_, _, _, found⟩ := found
  cases found
  exact readVersion_spoken versioned

/-- A head is accepted in the version it names. -/
theorem accept_version {head : Head} (accepted : head.accept = .ok (request, framing)) :
    request.version = head.version := by
  unfold accept at accepted
  split at accepted
  · cases accepted
  · split at accepted
    · cases accepted
    · split at accepted
      · cases accepted
      · split at accepted
        · cases accepted
        · cases accepted
          rfl

end Head

/-- A request at the start of a text speaks version 1.0 or 1.1. -/
theorem Starts.spoken (starts : Starts text request framing rest) :
    request.version = .http10 ∨ request.version = .http11 := by
  obtain ⟨head, found, _, accepted⟩ := starts
  rw [Head.accept_version accepted]
  exact Head.read_spoken found

/-- The text holds the requests from its start, each with its whole body behind
it, and the rest behind them. -/
inductive Reads : Bytes → List Request → Bytes → Prop where
  | done (text : Bytes) : Reads text [] text
  | next {text rest behind last : Bytes} {request : Request} {framing : Framing}
      {requests : List Request} (starts : Starts text request framing rest)
      (skipped : framing.body.skip? rest = some behind) (others : Reads behind requests last) :
      Reads text (request :: requests) last

namespace Reads

/-- What has been read stays read when more bytes come in; they stand behind the rest. -/
theorem append (reads : Reads text earlier rest) (more : Bytes) :
    Reads (text ++ more) earlier (rest ++ more) := by
  induction reads with
  | done text => exact .done (text ++ more)
  | next starts skipped _ ih =>
      exact .next (starts.append more) (BodyLength.skip?_append skipped more) ih

/-- Requests that stand behind what has been read stand behind the requests read before. -/
theorem trans {last : Bytes} (first : Reads text earlier rest)
    (second : Reads rest later last) : Reads text (earlier ++ later) last := by
  induction first with
  | done text => exact second
  | next starts skipped _ ih => exact .next starts skipped (ih second)

/-- No request is read in any other version than 1.0 and 1.1. -/
theorem spoken (reads : Reads text earlier rest) :
    ∀ request ∈ earlier, request.version = .http10 ∨ request.version = .http11 := by
  induction reads with
  | done text => nofun
  | next starts _ _ ih => exact List.forall_mem_cons.mpr ⟨starts.spoken, ih⟩

end Reads

/-- The text holds the requests from its start. Behind the last one, which may be
there without its body, stands anything. -/
inductive Holds (text : Bytes) : List Request → Prop where
  | whole {requests : List Request} {rest : Bytes} (reads : Reads text requests rest) :
      Holds text requests
  | upTo {requests : List Request} {rest behind : Bytes} {last : Request} {framing : Framing}
      (reads : Reads text requests rest) (starts : Starts rest last framing behind) :
      Holds text (requests ++ [last])

namespace Holds

/-- More bytes take no request away, not even the last one without its body. -/
theorem append (holds : Holds text earlier) (more : Bytes) : Holds (text ++ more) earlier := by
  cases holds with
  | whole reads => exact .whole (reads.append more)
  | upTo reads starts => exact .upTo (reads.append more) (starts.append more)

/-- All requests that a text holds speak version 1.0 or 1.1. -/
theorem spoken (holds : Holds text earlier) :
    ∀ request ∈ earlier, request.version = .http10 ∨ request.version = .http11 := by
  cases holds with
  | whole reads => exact reads.spoken
  | upTo reads starts =>
      rw [List.forall_mem_append, List.forall_mem_singleton]
      exact ⟨reads.spoken, starts.spoken⟩

end Holds

/-- A text holds what it is read to hold and then what the rest holds. -/
theorem Reads.holds (first : Reads text earlier rest) (second : Holds rest later) :
    Holds text (earlier ++ later) := by
  cases second with
  | whole reads => exact .whole (first.trans reads)
  | upTo reads starts =>
      rw [← List.append_assoc]
      exact .upTo (first.trans reads) starts

namespace Served

/-- The requests that have been served, in the order of their answers. -/
def requests (served : Served) : List Request := served.exchanges.map (·.request)

/-- What comes of a buffer is an account of the text: it holds the requests, and
what waits is the rest of the text behind them. -/
def Accounts (served : Served) (text : Bytes) : Prop :=
  match served.ending with
  | .waiting rest => Reads text served.requests rest
  | _ => Holds text served.requests

variable {served : Served}

/-- An account of the rest goes on with the account of the text before it. -/
theorem Accounts.behind (exchanges : List Exchange)
    (reads : Reads text (exchanges.map (·.request)) rest) (accounts : served.Accounts rest) :
    (⟨exchanges ++ served.exchanges, served.ending⟩ : Served).Accounts text := by
  obtain ⟨others, ending⟩ := served
  cases ending with
  | waiting unread =>
      rw [Accounts, requests, List.map_append]
      exact reads.trans accounts
  | refused reason =>
      rw [Accounts, requests, List.map_append]
      exact reads.holds accounts
  | closed =>
      rw [Accounts, requests, List.map_append]
      exact reads.holds accounts

/-- A head that is not whole is no request, and the bytes wait where they are. -/
theorem accounts_ofIncomplete (text : Bytes) :
    (⟨[], .ofIncomplete text⟩ : Served).Accounts text := by
  unfold Ending.ofIncomplete
  split
  · exact Holds.whole (.done text)
  · exact Reads.done text

/-- **Serving a buffer accounts for it.** -/
theorem ofBytes_accounts (text : Bytes) : (ofBytes text).Accounts text := by
  fun_induction ofBytes text with
  | case1 text found => exact accounts_ofIncomplete text
  | case2 text reason =>
      unfold Ending.ofInvalid
      split <;> exact Holds.whole (.done text)
  | case3 text => exact Holds.whole (.done text)
  | case4 text => exact Holds.whole (.done text)
  | case5 text head rest found fits request framing accepted exchange closes =>
      exact Holds.upTo (.done text) ⟨head, found, Nat.le_of_not_lt fits, accepted⟩
  | case6 text head rest found fits request framing accepted exchange stays missing =>
      exact Holds.upTo (.done text) ⟨head, found, Nat.le_of_not_lt fits, accepted⟩
  | case7 text head rest found fits request framing accepted exchange stays next behind served ih =>
      have starts : Starts text request framing rest :=
        ⟨head, found, Nat.le_of_not_lt fits, accepted⟩
      exact ih.behind [exchange] (.next starts behind (.done next))

/-- Serving the unread bytes together with new ones accounts for both. -/
theorem ofRead_accounts (unread new : Bytes) :
    (ofRead unread new).Accounts (unread ++ new) := by
  unfold ofRead
  dsimp only
  split
  · exact ofBytes_accounts (unread ++ new)
  · exact accounts_ofIncomplete (unread ++ new)

/-- New bytes extend the account of what has been served before. -/
theorem receive_accounts (accounts : served.Accounts text) (new : Bytes) :
    (served.receive new).Accounts (text ++ new) := by
  obtain ⟨exchanges, ending⟩ := served
  cases ending with
  | waiting unread =>
      exact (ofRead_accounts unread new).behind exchanges (Reads.append accounts new)
  | refused reason => exact Holds.append accounts new
  | closed => exact Holds.append accounts new

end Served

namespace Connection

/-- The state of a connection is an account of what has been sent on it: the
stream holds the requests accepted so far, and what waits is the rest of it. -/
def Accounts (connection : Connection) (stream : Bytes) (requests : List Request) : Prop :=
  match connection with
  | sniffing unread => Reads stream requests unread
  | reading unread => Reads stream requests unread
  | closed => Holds stream requests

variable {connection : Connection} {stream : Bytes}

/-- Whatever state a connection is in, the stream holds the requests it has accepted. -/
theorem Accounts.holds (accounts : connection.Accounts stream earlier) : Holds stream earlier := by
  cases connection with
  | sniffing unread => exact .whole accounts
  | reading unread => exact .whole accounts
  | closed => exact accounts

/-- A connection that says nothing goes on with the account it had. -/
theorem Accounts.silent (accounts : connection.Accounts stream earlier) :
    connection.Accounts stream (earlier ++ Transmission.silent.requests) := by
  rwa [show Transmission.silent.requests = [] from rfl, List.append_nil]

/-- Closing keeps the requests in the account and drops what waits. -/
theorem Accounts.close (accounts : connection.Accounts stream earlier) :
    closed.Accounts stream earlier := accounts.holds

theorem fresh_accounts : fresh.Accounts [] [] := Reads.done []

/-- What a connection becomes after serving accounts for the served requests behind the earlier
ones. -/
theorem settle_accounts {unread : Bytes} {served : Served}
    (reads : Reads stream earlier unread) (accounts : served.Accounts unread) :
    (settle served).1.Accounts stream (earlier ++ (settle served).2.requests) := by
  obtain ⟨exchanges, ending⟩ := served
  cases ending with
  | waiting rest => exact reads.trans accounts
  | refused reason => exact reads.holds accounts
  | closed => exact reads.holds accounts

/-- A connection that still waits for the greeting of HTTP/2 has looked at all
that was sent. -/
theorem take_of_greets {unread bytes : Bytes}
    (differs : unread ++ bytes.take (preface.length - unread.length) ≠ preface)
    (greets : unread ++ bytes.take (preface.length - unread.length) <+: preface) :
    bytes.take (preface.length - unread.length) = bytes := by
  by_contra cut
  have long : preface.length - unread.length < bytes.length := by
    by_contra short
    exact cut (List.take_of_length_le (Nat.le_of_not_lt short))
  apply differs
  apply greets.eq_of_length
  have atMost := greets.length_le
  rw [List.length_append, List.length_take] at atMost ⊢
  omega

/-- Bytes that come in on a closed connection change nothing about its account. -/
theorem Accounts.append (accounts : connection.Accounts stream earlier) (bytes : Bytes) :
    closed.Accounts (stream ++ bytes) earlier := accounts.holds.append bytes

/-- Sending accounts for the bytes sent, also while the greeting of HTTP/2 may still come. -/
theorem send_accounts (accounts : connection.Accounts stream earlier) (bytes : Bytes) :
    (connection.send bytes).1.Accounts (stream ++ bytes)
      (earlier ++ (connection.send bytes).2.requests) := by
  cases connection with
  | sniffing unread =>
      have reads : Reads (stream ++ bytes) earlier (unread ++ bytes) := Reads.append accounts bytes
      unfold send
      dsimp only
      split
      · exact (accounts.append bytes).silent
      · next differs =>
        split
        · next greets =>
          rw [take_of_greets differs (List.isPrefixOf_iff_prefix.mp greets)]
          have waits : (sniffing (unread ++ bytes)).Accounts (stream ++ bytes) earlier := reads
          exact waits.silent
        · have served := Served.receive_accounts
            (Served.ofRead_accounts [] (unread ++ bytes.take (preface.length - unread.length)))
            (bytes.drop (preface.length - unread.length))
          rw [List.nil_append, List.append_assoc, List.take_append_drop] at served
          exact settle_accounts reads served
  | reading unread =>
      exact settle_accounts (Reads.append accounts bytes) (Served.ofRead_accounts unread bytes)
  | closed => exact (accounts.append bytes).silent

/-- The end of the stream adds no bytes. Where the greeting of HTTP/2 was waited for, what was
kept is served at last. -/
theorem finish_accounts (accounts : connection.Accounts stream earlier) :
    connection.finish.1.Accounts stream (earlier ++ connection.finish.2.requests) := by
  cases connection with
  | sniffing unread =>
      unfold finish
      dsimp only
      split
      · exact (settle_accounts accounts (Served.ofBytes_accounts unread)).holds
      · exact accounts.close.silent
  | reading unread => exact accounts.close.silent
  | closed => exact accounts.silent

end Connection

end Wire

/-- **Each step goes on with the account**: what a connection has accepted stands
in what has been sent on it. -/
theorem Wire.Connection.act_accounts {connection : Connection} {stream : Bytes}
    {earlier : List Request} (accounts : connection.Accounts stream earlier) (action : Action) :
    (connection.act action).1.Accounts (stream ++ action.bytes)
      (earlier ++ (connection.act action).2.requests) := by
  cases action with
  | send bytes => exact send_accounts accounts bytes
  | finish =>
      rw [Action.bytes, List.append_nil]
      exact finish_accounts accounts

end Greeter
