import Greeter.Config
import Greeter.Log.Event
import Greeter.Proofs.HostText
import Greeter.Proofs.TextBytes

/-! # Texts of endpoints

The text of an endpoint tells its host from its port: no host is written with a bracket,
and none of IPv4 with a colon. Since hosts are read back from their texts, two endpoints
have the same text only if they are the same (`Endpoint.chars_inj`), and wherever the
program tells an endpoint it tells its configuration (`Config.told_apart`).
-/

namespace Greeter

namespace Ipv6

/-- The characters of an IPv6 address. -/
def alphabet : List Char := ':' :: '.' :: Numeral.digits 16

/-- Joined groups hold digits and colons. -/
theorem joined_subset_digits (groups : List UInt16) :
    joined groups ⊆ ':' :: Numeral.digits 16 := by
  intro character member
  rcases eq_or_mem_of_mem_intercalate member with rfl | ⟨piece, listed, inside⟩
  · exact List.mem_cons_self
  · obtain ⟨group, -, rfl⟩ := List.mem_map.mp listed
    exact List.mem_cons_of_mem ':' (groupChars_subset group inside)

/-- Joined groups hold characters of an IPv6 address. -/
theorem joined_subset (groups : List UInt16) : joined groups ⊆ alphabet :=
  List.Subset.trans (joined_subset_digits groups)
    (List.cons_subset_cons ':' (List.subset_cons_self '.' _))

/-- No other character stands in an IPv6 address, whether or not it holds an IPv4 address. -/
theorem chars_subset (address : Ipv6) : address.chars ⊆ alphabet := by
  unfold chars
  split
  · next inner _ =>
    apply List.append_subset.mpr
    exact ⟨by decide, List.Subset.trans inner.chars_subset (by decide)⟩
  · dsimp only
    split
    · apply List.append_subset.mpr
      refine ⟨List.append_subset.mpr ⟨joined_subset _, by decide⟩, joined_subset _⟩
    · exact joined_subset address.groups

end Ipv6

/-- Hosts with one text are one host, since each is read back from its text. -/
theorem Host.chars_inj {first second : Host} : first.chars = second.chars ↔ first = second := by
  constructor
  · intro same
    have found := ofChars?_chars first
    rw [same, ofChars?_chars second] at found
    exact (Option.some.inj found).symm
  · exact congrArg chars

namespace Endpoint

/-- The characters of an endpoint. -/
def alphabet : List Char := '[' :: ']' :: Ipv6.alphabet

/-- A port and the colon before it could stand in an IPv6 address as well. -/
theorem port_subset (port : UInt16) : ':' :: Nat.toDigits 10 port.toNat ⊆ Ipv6.alphabet := by
  apply List.cons_subset.mpr
  refine ⟨List.mem_cons_self, ?_⟩
  exact List.Subset.trans (Numeral.toDigits_subset (by decide) port.toNat) (by decide)

/-- So could all of an IPv4 endpoint: it is the brackets that tell an IPv6 endpoint. -/
theorem chars_v4_subset (address : Ipv4) (port : UInt16) :
    (⟨.v4 address, port⟩ : Endpoint).chars ⊆ Ipv6.alphabet := by
  apply List.append_subset.mpr
  exact ⟨List.Subset.trans address.chars_subset (by decide), port_subset port⟩

theorem chars_v6 (address : Ipv6) (port : UInt16) : (⟨.v6 address, port⟩ : Endpoint).chars =
    '[' :: (address.chars ++ ']' :: ':' :: Nat.toDigits 10 port.toNat) := rfl

/-- In an endpoint stands no character that is not of its alphabet. -/
theorem chars_subset (endpoint : Endpoint) : endpoint.chars ⊆ alphabet := by
  obtain ⟨host, port⟩ := endpoint
  cases host with
  | v4 address => exact List.Subset.trans (chars_v4_subset address port) (by decide)
  | v6 address =>
      have text := List.append_subset.mpr
        ⟨List.subset_cons_of_subset ']' address.chars_subset,
          List.cons_subset_cons ']' (port_subset port)⟩
      rw [chars_v6]
      exact List.cons_subset_cons '[' text

theorem colon_notMem_port (port : UInt16) : ':' ∉ Nat.toDigits 10 port.toNat :=
  fun colon => absurd (Numeral.toDigits_subset (by decide) port.toNat colon) (by decide)

/-- An endpoint is told apart from all others by its text. -/
theorem chars_inj {first second : Endpoint} : first.chars = second.chars ↔ first = second := by
  refine ⟨?_, congrArg chars⟩
  intro same
  obtain ⟨host, port⟩ := first
  obtain ⟨other, otherPort⟩ := second
  have noBracket {address : Ipv4} {port : UInt16} :
      '[' ∉ (⟨.v4 address, port⟩ : Endpoint).chars :=
    fun bracket => absurd (chars_v4_subset address port bracket) (by decide)
  -- The port begins at the only colon, or behind the closing bracket.
  suffices parts : host.chars = other.chars ∧
      Nat.toDigits 10 port.toNat = Nat.toDigits 10 otherPort.toNat by
    obtain rfl := Host.chars_inj.mp parts.1
    obtain rfl := UInt16.toNat_inj.mp (Numeral.toDigits_inj (by decide) (by decide) parts.2)
    rfl
  cases host with
  | v4 address =>
      cases other with
      | v4 second =>
          have noColon : ':' ∉ address.chars :=
            fun colon => absurd (address.chars_subset colon) (by decide)
          have parts := (List.append_cons_inj_of_notMem noColon (colon_notMem_port port)).mp same
          exact ⟨parts.1, parts.2.2⟩
      | v6 second =>
          rw [chars_v6] at same
          exact absurd (same ▸ List.mem_cons_self) noBracket
  | v6 address =>
      cases other with
      | v4 second =>
          rw [chars_v6] at same
          exact absurd (same ▸ List.mem_cons_self) noBracket
      | v6 second =>
          have noEnd : ']' ∉ address.chars :=
            fun bracket => absurd (address.chars_subset bracket) (by decide)
          have noEndBehind : ']' ∉ ':' :: Nat.toDigits 10 port.toNat :=
            fun bracket => absurd (port_subset port bracket) (by decide)
          rw [chars_v6, chars_v6] at same
          have parts := (List.append_cons_inj_of_notMem noEnd noEndBehind).mp
            (List.cons.inj same).2
          exact ⟨parts.1, (List.cons.inj parts.2.2).2⟩

end Endpoint

/-- The error about a failed bind names the endpoint, then the reason. -/
theorem ServerError.messageChars_bind (endpoint : Endpoint) (source : IoError) :
    (bind endpoint source).messageChars =
      "failed to bind ".toList ++ (endpoint.chars ++ (": ".toList ++ source.messageChars)) := by
  have parts : (bind endpoint source).messageChars =
      "failed to bind ".toList ++ endpoint.chars ++ ": ".toList ++ source.messageChars := rfl
  rw [parts, List.append_assoc, List.append_assoc]

namespace Config

variable {config other : Config}

/-- A configuration is the endpoint it asks for. -/
theorem endpoint_inj : config.endpoint = other.endpoint ↔ config = other := by
  constructor
  · intro same
    obtain ⟨hosts, ports⟩ := Endpoint.mk.inj same
    cases config
    cases other
    exact congrArg₂ mk hosts ports
  · exact congrArg endpoint

/-- The line about the endpoint that is to be bound tells the configuration. -/
theorem binding_values_inj (latency : Bytes) :
    (Log.Event.binding config.endpoint).values latency =
      (Log.Event.binding other.endpoint).values latency ↔ config = other := by
  simp only [Log.Event.values, List.cons.injEq, Prod.mk.injEq, and_true, true_and,
    Bytes.ofChars_inj, Endpoint.chars_inj, endpoint_inj]

/-- The line about the endpoint that is listened on tells the configuration. -/
theorem listening_message_inj : (Log.Event.listening config.endpoint).message =
    (Log.Event.listening other.endpoint).message ↔ config = other := by
  rw [Log.Event.message, Log.Event.message, List.append_cancel_left_eq, Bytes.ofChars_inj,
    Endpoint.chars_inj, endpoint_inj]

/-- The error about a failed bind tells the configuration. -/
theorem bind_message_inj (source : IoError) : (ServerError.bind config.endpoint source).message =
    (ServerError.bind other.endpoint source).message ↔ config = other := by
  rw [ServerError.message, ServerError.message, String.ofList_inj,
    ServerError.messageChars_bind, ServerError.messageChars_bind, List.append_cancel_left_eq,
    List.append_cancel_right_eq, Endpoint.chars_inj, endpoint_inj]

/-- **A configuration is told by the text of its endpoint**, and so by each line that holds
that text: the one about the endpoint that is to be bound, the one about the endpoint that
is listened on, and the error where it cannot be bound. Every host is read back from its
text, so a configuration stays the same when its host is printed and read again; an IPv4
address and the IPv6 address that holds it have different texts. -/
theorem told_apart :
    (∀ config other : Config,
      (toString config.endpoint = toString other.endpoint ↔ config = other) ∧
      (∀ latency, (Log.Event.binding config.endpoint).values latency =
        (Log.Event.binding other.endpoint).values latency ↔ config = other) ∧
      ((Log.Event.listening config.endpoint).message =
        (Log.Event.listening other.endpoint).message ↔ config = other) ∧
      ∀ source, (ServerError.bind config.endpoint source).message =
        (ServerError.bind other.endpoint source).message ↔ config = other) ∧
    (∀ host, Host.ofText? (toString host) = some host) ∧
    (∀ text host port, Host.ofText? text = some host →
      (Host.ofText? (toString host)).map (mk · port) = (Host.ofText? text).map (mk · port)) ∧
    ∀ inner outer, outer.mapped? = some inner →
      toString (Host.v4 inner) ≠ toString (Host.v6 outer) ∧
      ∀ port otherPort, toString (mk (.v4 inner) port).endpoint ≠
        toString (mk (.v6 outer) otherPort).endpoint := by
  have readBack (host : Host) : Host.ofText? (toString host) = some host := by
    have written : (toString host).toList = host.chars := String.toList_ofList
    rw [Host.ofText?, written, Host.ofChars?_chars]
  have sameHost {first second : Host} : toString first = toString second ↔ first = second :=
    String.ofList_inj.trans Host.chars_inj
  have sameText {first second : Endpoint} : toString first = toString second ↔ first = second :=
    String.ofList_inj.trans Endpoint.chars_inj
  refine ⟨?_, readBack, ?_, ?_⟩
  · intro config other
    exact ⟨sameText.trans endpoint_inj, binding_values_inj, listening_message_inj,
      bind_message_inj⟩
  · intro text host port found
    rw [readBack, found]
  · intro inner outer _
    constructor
    · intro same
      cases sameHost.mp same
    · intro port otherPort same
      cases endpoint_inj.mp (sameText.mp same)

/-- An address in capitals, with a gap that is not the longest, and one that holds an IPv4
address. -/
theorem told_apart_mapped :
    let written : Ipv6 := ⟨[0x20, 0, 0, 1, 0, 0, 0, 0xa], rfl⟩
    let inner : Ipv4 := ⟨10, 0, 0, 255⟩
    let outer : Ipv6 := ⟨[0, 0, 0, 0, 0, 0xffff, 0xa00, 0xff], rfl⟩
    Host.ofText? "20::1:0:0:0:A" = some (.v6 written) ∧
      toString (Host.v6 written) = "20:0:0:1::a" ∧
      (Host.ofText? "20:0:0:1::a").map (mk · 80) = some ⟨.v6 written, 80⟩ ∧
      outer.mapped? = some inner ∧ toString (Host.v6 outer) = "::ffff:10.0.0.255" ∧
      toString (Host.v4 inner) ≠ toString (Host.v6 outer) := by
  intro written inner outer
  have found : Host.ofText? "20::1:0:0:0:A" = some (.v6 written) := by decide +kernel
  have printed : toString (Host.v6 written) = "20:0:0:1::a" := by decide +kernel
  have holds : outer.mapped? = some inner := by decide +kernel
  obtain ⟨-, -, again, apart⟩ := told_apart
  have same := again _ _ 80 found
  rw [printed, found] at same
  exact ⟨found, printed, same, holds, by decide +kernel, (apart inner outer holds).1⟩

end Config

end Greeter
