import Qsox.HostPort
import Qsox.IpAddress

/-! Endpoints: an address and a port. `SocketAddress::toString` puts IPv6
addresses in square brackets, and both parsers ask for them;
`SocketAddressV6::toString` leaves them out. -/

namespace Qsox

open StringView HostPort

structure SocketAddressV4 where
  address : Ipv4Address
  port : UInt16
  deriving DecidableEq, Repr

structure SocketAddressV6 where
  address : Ipv6Address
  port : UInt16
  deriving DecidableEq, Repr

structure SocketAddress where
  address : IpAddress
  port : UInt16
  deriving DecidableEq, Repr

inductive SocketAddressV4ParseError
  | missingOctets
  | trailingData
  | invalidOctet
  | missingPort
  | invalidPort
  deriving DecidableEq, Repr

inductive SocketAddressV6ParseError
  | invalidStructure
  | invalidAddress
  | missingPort
  | invalidPort
  deriving DecidableEq, Repr

inductive SocketAddressParseError
  | invalidAddress
  | missingPort
  | invalidPort
  deriving DecidableEq, Repr

namespace SocketAddressV4

def fromIpv4Error : Ipv4ParseError → SocketAddressV4ParseError
  | .missingOctets => .missingOctets
  | .trailingData => .trailingData
  | .invalidOctet => .invalidOctet

def parse (str : Text) : Except SocketAddressV4ParseError SocketAddressV4 :=
  match splitPort str with
  | none => .error .missingPort
  | some (addressPart, portPart) =>
    match Ipv4Address.parse addressPart with
    | .error e => .error (fromIpv4Error e)
    | .ok address =>
      match readPort portPart with
      | none => .error .invalidPort
      | some port => .ok ⟨address, port⟩

def toString (a : SocketAddressV4) : Text :=
  a.address.toString ++ ':' :: Nat.toDigits 10 a.port.toNat

end SocketAddressV4

namespace SocketAddressV6

def fromIpError : Ipv6ParseError → SocketAddressV6ParseError
  | .unspecified => .invalidAddress

def parse (pton : InetPton) (str : Text) : Except SocketAddressV6ParseError SocketAddressV6 :=
  match splitPort str with
  | none => .error .missingPort
  | some (addressPart, portPart) =>
    match stripBrackets addressPart with
    | none => .error .invalidStructure
    | some inner =>
      match Ipv6Address.parse pton inner with
      | .error e => .error (fromIpError e)
      | .ok address =>
        match readPort portPart with
        | none => .error .invalidPort
        | some port => .ok ⟨address, port⟩

def toString (a : SocketAddressV6) : Text :=
  a.address.toString ++ ':' :: Nat.toDigits 10 a.port.toNat

end SocketAddressV6

namespace SocketAddress

def ofV4 (a : SocketAddressV4) : SocketAddress := ⟨.v4 a.address, a.port⟩

def ofV6 (a : SocketAddressV6) : SocketAddress := ⟨.v6 a.address, a.port⟩

def isV4 (a : SocketAddress) : Bool :=
  match a.address with
  | .v4 _ => true
  | .v6 _ => false

def toString (a : SocketAddress) : Text :=
  match a.address with
  | .v4 address => address.toString ++ ':' :: Nat.toDigits 10 a.port.toNat
  | .v6 address => '[' :: (address.toString ++ [']']) ++ ':' :: Nat.toDigits 10 a.port.toNat

def parseAddress (pton : InetPton) (addressPart : Text) : Except SocketAddressParseError IpAddress :=
  match stripBrackets addressPart with
  | some inner =>
    match Ipv6Address.parse pton inner with
    | .error _ => .error .invalidAddress
    | .ok address => .ok (.v6 address)
  | none =>
    match Ipv4Address.parse addressPart with
    | .error _ => .error .invalidAddress
    | .ok address => .ok (.v4 address)

def parse (pton : InetPton) (str : Text) : Except SocketAddressParseError SocketAddress :=
  match splitPort str with
  | none => .error .missingPort
  | some (addressPart, portPart) =>
    match parseAddress pton addressPart with
    | .error e => .error e
    | .ok outAddr =>
      match readPort portPart with
      | none => .error .invalidPort
      | some port => .ok ⟨outAddr, port⟩

end SocketAddress

theorem Ipv4Address.toString_ne_nil (a : Ipv4Address) : a.toString ≠ [] := by
  rw [Ipv4Address.toString_eq]
  simp [Ipv4Address.dotted]

theorem Ipv4Address.head_toString (a : Ipv4Address) : a.toString.head? ≠ some '[' := by
  obtain ⟨c, rest, head, digit⟩ := Ipv4Address.head_of_parse (Ipv4Address.parse_toString a)
  rw [head, List.head?_cons, ne_eq, Option.some.injEq]
  rintro rfl
  cases digit

theorem Ipv6Address.toString_ne_nil (a : Ipv6Address) : a.toString ≠ [] :=
  (Ipv6Address.toString_isText true a).ne_nil

theorem Ipv6Address.bracket_not_mem_toString (a : Ipv6Address) : '[' ∉ a.toString :=
  (Ipv6Address.toString_isText true a).not_mem (by decide) (by decide) (by decide)

theorem Ipv6Address.head_toString (a : Ipv6Address) : a.toString.head? ≠ some '[' :=
  fun h => a.bracket_not_mem_toString (List.mem_of_mem_head? h)

namespace SocketAddressV4

theorem toString_eq_generic (b : SocketAddressV4) :
    b.toString = (SocketAddress.ofV4 b).toString := rfl

@[simp] theorem parse_toString (b : SocketAddressV4) : parse b.toString = .ok b := by
  rw [parse, toString, splitPort_decimal (Ipv4Address.toString_ne_nil _)]
  simp only [Ipv4Address.parse_toString, readPort_decimal]

theorem parse_bracket (s : Text) (b : SocketAddressV4) : parse ('[' :: s) ≠ .ok b := by
  intro h
  unfold parse at h
  split at h
  · cases h
  · rename_i addressPart portPart split
    obtain ⟨text, address_ne, -, -⟩ := splitPort_eq_some_iff.mp split
    cases accepted : Ipv4Address.parse addressPart with
    | error e => simp [accepted] at h
    | ok a =>
      obtain ⟨c, rest, rfl, digit⟩ := Ipv4Address.head_of_parse accepted
      obtain ⟨rfl, -⟩ := List.cons.inj text
      cases digit

end SocketAddressV4

namespace SocketAddressV6

theorem parse_eq_ok {pton : InetPton} {s : Text} {b : SocketAddressV6}
    (h : parse pton s = .ok b) :
    ∃ inner portPart, s = '[' :: (inner ++ [']']) ++ ':' :: portPart ∧ ':' ∉ portPart ∧
      Ipv6Address.parse pton inner = .ok b.address := by
  unfold parse at h
  split at h
  · cases h
  · rename_i addressPart portPart split
    obtain ⟨rfl, -, -, clean⟩ := splitPort_eq_some_iff.mp split
    cases strip : stripBrackets addressPart with
    | none => simp [strip] at h
    | some inner =>
      cases accepted : Ipv6Address.parse pton inner with
      | error e => simp [strip, accepted] at h
      | ok address =>
        simp only [strip, accepted] at h
        cases port : readPort portPart with
        | none => simp [port] at h
        | some p =>
          simp only [port, Except.ok.injEq] at h
          obtain rfl := h
          exact ⟨inner, portPart, by rw [stripBrackets_eq_some_iff.mp strip], clean, accepted⟩

/-- The printed text has no brackets, so the parser of the same class refuses it
and the generic class prints another text. -/
theorem printed_without_brackets (pton : InetPton) (a : SocketAddressV6) :
    parse pton a.toString = .error .invalidStructure ∧
      a.toString ≠ (SocketAddress.ofV6 a).toString := by
  constructor
  · rw [parse, toString, splitPort_decimal (Ipv6Address.toString_ne_nil _)]
    simp only [stripBrackets_of_head (Ipv6Address.head_toString _)]
  · intro same
    have head : a.toString.head? = some '[' := by
      rw [same]
      rfl
    rw [toString, List.head?_append_of_ne_nil _ (Ipv6Address.toString_ne_nil _)] at head
    exact Ipv6Address.head_toString _ head

theorem loopback_http_refused :
    parse (inetPton false) (toString ⟨⟨#v[0, 0, 0, 0, 0, 0, 0, 0, 0, 0, 0, 0, 0, 0, 0, 1]⟩, 80⟩) ≠
        .ok ⟨⟨#v[0, 0, 0, 0, 0, 0, 0, 0, 0, 0, 0, 0, 0, 0, 0, 1]⟩, 80⟩ ∧
      toString ⟨⟨#v[0, 0, 0, 0, 0, 0, 0, 0, 0, 0, 0, 0, 0, 0, 0, 1]⟩, 80⟩ = "::1:80".toList := by
  decide

end SocketAddressV6

namespace SocketAddress

@[simp] theorem parse_toString {z : Bool} {pton : InetPton} (reads : ReadsRfc4291 z pton)
    (a : SocketAddress) : parse pton a.toString = .ok a := by
  obtain ⟨address, port⟩ := a
  cases address with
  | v4 address =>
    simp only [parse, toString, splitPort_decimal (Ipv4Address.toString_ne_nil _), parseAddress,
      stripBrackets_of_head (Ipv4Address.head_toString _), Ipv4Address.parse_toString,
      readPort_decimal]
  | v6 address =>
    have bracketed : '[' :: (address.toString ++ [']']) ≠ [] := List.cons_ne_nil _ _
    simp only [parse, toString, splitPort_decimal bracketed, parseAddress, stripBrackets_brackets,
      Ipv6Address.parse_toString reads, readPort_decimal]

/-- Endpoints of either family are read back; for IPv4 the specific class agrees. -/
theorem endpoint_text_reads_back {z : Bool} {pton : InetPton} (reads : ReadsRfc4291 z pton) :
    (∀ a : SocketAddress, parse pton a.toString = .ok a) ∧
      ∀ b : SocketAddressV4, SocketAddressV4.parse b.toString = .ok b ∧
        b.toString = (ofV4 b).toString :=
  ⟨parse_toString reads, fun b =>
    ⟨SocketAddressV4.parse_toString b, SocketAddressV4.toString_eq_generic b⟩⟩

theorem documentation_endpoint_reads_back :
    parse (inetPton false)
        (toString ⟨.v6 ⟨#v[0x20, 1, 0xd, 0xb8, 0, 0, 0, 0, 0, 0, 0, 0, 0, 0, 0, 0]⟩, 443⟩) =
      .ok ⟨.v6 ⟨#v[0x20, 1, 0xd, 0xb8, 0, 0, 0, 0, 0, 0, 0, 0, 0, 0, 0, 0]⟩, 443⟩ :=
  (endpoint_text_reads_back (inetPton_reads false)).1
    ⟨.v6 ⟨#v[0x20, 1, 0xd, 0xb8, 0, 0, 0, 0, 0, 0, 0, 0, 0, 0, 0, 0]⟩, 443⟩

theorem ipv4_parse_of_brackets {s inner : Text} (h : stripBrackets s = some inner) :
    ∃ e, Ipv4Address.parse s = .error e := by
  cases accepted : Ipv4Address.parse s with
  | error e => exact ⟨e, rfl⟩
  | ok a =>
    obtain ⟨c, rest, rfl, digit⟩ := Ipv4Address.head_of_parse accepted
    have head : (c :: rest).head? ≠ some '[' := by
      intro bracket
      obtain rfl := Option.some.inj bracket
      cases digit
    rw [stripBrackets_of_head head] at h
    cases h

/-- The answers that the generic parser, the IPv4 parser and the IPv6 parser give
to the same text: the IPv6 parser stops at the missing brackets where the IPv4
parser has something to read, and the IPv4 parser at the octets of bracketed text. -/
inductive Together : Except SocketAddressParseError SocketAddress →
    Except SocketAddressV4ParseError SocketAddressV4 →
    Except SocketAddressV6ParseError SocketAddressV6 → Prop
  | noPort : Together (.error .missingPort) (.error .missingPort) (.error .missingPort)
  | v4 (b : SocketAddressV4) : Together (.ok (ofV4 b)) (.ok b) (.error .invalidStructure)
  | v4Port : Together (.error .invalidPort) (.error .invalidPort) (.error .invalidStructure)
  | v4Address (e : Ipv4ParseError) :
      Together (.error .invalidAddress) (.error (SocketAddressV4.fromIpv4Error e))
        (.error .invalidStructure)
  | v6 (b : SocketAddressV6) (e : Ipv4ParseError) :
      Together (.ok (ofV6 b)) (.error (SocketAddressV4.fromIpv4Error e)) (.ok b)
  | v6Port (e : Ipv4ParseError) :
      Together (.error .invalidPort) (.error (SocketAddressV4.fromIpv4Error e))
        (.error .invalidPort)
  | v6Address (e : Ipv4ParseError) :
      Together (.error .invalidAddress) (.error (SocketAddressV4.fromIpv4Error e))
        (.error .invalidAddress)

theorem parse_together (pton : InetPton) (s : Text) :
    Together (parse pton s) (SocketAddressV4.parse s) (SocketAddressV6.parse pton s) := by
  unfold parse SocketAddressV4.parse SocketAddressV6.parse
  cases splitPort s with
  | none => exact .noPort
  | some parts =>
    obtain ⟨addressPart, portPart⟩ := parts
    cases strip : stripBrackets addressPart with
    | none =>
      cases v4 : Ipv4Address.parse addressPart with
      | error e =>
        simp only [parseAddress, strip, v4]
        exact .v4Address e
      | ok address =>
        simp only [parseAddress, strip, v4]
        cases readPort portPart with
        | none => exact .v4Port
        | some port => exact .v4 ⟨address, port⟩
    | some inner =>
      obtain ⟨e, refused⟩ := ipv4_parse_of_brackets strip
      cases v6 : Ipv6Address.parse pton inner with
      | error _ =>
        simp only [parseAddress, strip, refused, v6]
        exact .v6Address e
      | ok address =>
        simp only [parseAddress, strip, refused, v6]
        cases readPort portPart with
        | none => exact .v6Port e
        | some port => exact .v6 ⟨address, port⟩ e

section
variable {r : Except SocketAddressParseError SocketAddress}
  {r4 : Except SocketAddressV4ParseError SocketAddressV4}
  {r6 : Except SocketAddressV6ParseError SocketAddressV6}

theorem Together.ok_v4_iff (h : Together r r4 r6) (b : SocketAddressV4) :
    r = .ok (ofV4 b) ↔ r4 = .ok b := by
  cases h with
  | v4 b' =>
    obtain ⟨address, port⟩ := b
    obtain ⟨address', port'⟩ := b'
    simp [ofV4]
  | v6 b' e => simp [ofV4, ofV6]
  | _ => simp

theorem Together.ok_v6_iff (h : Together r r4 r6) (b : SocketAddressV6) :
    r = .ok (ofV6 b) ↔ r6 = .ok b := by
  cases h with
  | v4 b' => simp [ofV4, ofV6]
  | v6 b' e =>
    obtain ⟨address, port⟩ := b
    obtain ⟨address', port'⟩ := b'
    simp [ofV6]
  | _ => simp

theorem Together.not_both (h : Together r r4 r6) (b : SocketAddressV4) (b' : SocketAddressV6) :
    ¬ (r4 = .ok b ∧ r6 = .ok b') := by
  cases h with
  | _ => simp

theorem Together.missingPort_iff (h : Together r r4 r6) :
    r = .error .missingPort ↔ r4 = .error .missingPort ∧ r6 = .error .missingPort := by
  cases h with
  | _ => simp

theorem Together.invalidPort_iff (h : Together r r4 r6) :
    r = .error .invalidPort ↔ r4 = .error .invalidPort ∨ r6 = .error .invalidPort := by
  cases h with
  | v4Address e | v6 _ e | v6Port e | v6Address e =>
    cases e <;> simp [SocketAddressV4.fromIpv4Error]
  | _ => simp

theorem Together.invalidAddress_iff (h : Together r r4 r6) :
    r = .error .invalidAddress ↔
      (r4 = .error .missingOctets ∨ r4 = .error .trailingData ∨ r4 = .error .invalidOctet) ∧
      (r6 = .error .invalidStructure ∨ r6 = .error .invalidAddress) := by
  cases h with
  | v4Address e | v6 _ e | v6Port e | v6Address e =>
    cases e <;> simp [SocketAddressV4.fromIpv4Error]
  | _ => simp

end

/-- The generic parser is the union of the two, and its errors are theirs. -/
theorem parse_is_union (pton : InetPton) (s : Text) :
    (∀ b, parse pton s = .ok (ofV4 b) ↔ SocketAddressV4.parse s = .ok b) ∧
    (∀ b, parse pton s = .ok (ofV6 b) ↔ SocketAddressV6.parse pton s = .ok b) ∧
    (∀ b b', ¬ (SocketAddressV4.parse s = .ok b ∧ SocketAddressV6.parse pton s = .ok b')) ∧
    (parse pton s = .error .missingPort ↔
      SocketAddressV4.parse s = .error .missingPort ∧
      SocketAddressV6.parse pton s = .error .missingPort) ∧
    (parse pton s = .error .invalidPort ↔
      SocketAddressV4.parse s = .error .invalidPort ∨
      SocketAddressV6.parse pton s = .error .invalidPort) ∧
    (parse pton s = .error .invalidAddress ↔
      (SocketAddressV4.parse s = .error .missingOctets ∨
        SocketAddressV4.parse s = .error .trailingData ∨
        SocketAddressV4.parse s = .error .invalidOctet) ∧
      (SocketAddressV6.parse pton s = .error .invalidStructure ∨
        SocketAddressV6.parse pton s = .error .invalidAddress)) := by
  have together := parse_together pton s
  exact ⟨together.ok_v4_iff, together.ok_v6_iff, together.not_both, together.missingPort_iff,
    together.invalidPort_iff, together.invalidAddress_iff⟩

/-- A text whose initial part, up to a terminator, is IPv6 text. -/
def IsCutShort (z : Bool) (x : Text) : Prop :=
  '\x00' ∈ x ∧ ∃ a : Ipv6Address, Rfc4291.IsText z (Ipv6Address.cString x) a.octets.toList

/-- Every address read from the text has the whole text as its spelling, also
when the text stands between the brackets of an endpoint. -/
def ReadsWhole (z : Bool) (pton : InetPton) (x : Text) : Prop :=
  (∀ a, Ipv6Address.parse pton x = .ok a → Rfc4291.IsText z x a.octets.toList) ∧
  ∀ portText : Text,
    (∀ b, SocketAddressV6.parse pton ('[' :: (x ++ [']']) ++ ':' :: portText) = .ok b →
      Rfc4291.IsText z x b.address.octets.toList) ∧
    ∀ b, parse pton ('[' :: (x ++ [']']) ++ ':' :: portText) = .ok b →
      ∃ address, b.address = .v6 address ∧ Rfc4291.IsText z x address.octets.toList

theorem bracketed_eq {x inner portText portPart : Text} (clean : ':' ∉ portPart)
    (same : '[' :: (x ++ [']']) ++ ':' :: portText =
      '[' :: (inner ++ [']']) ++ ':' :: portPart) :
    inner = x ∨ ∃ more, inner = x ++ ']' :: more := by
  have tails : x ++ ']' :: ':' :: portText = inner ++ ']' :: ':' :: portPart := by
    simpa using same
  rcases List.append_eq_append_iff.mp tails with ⟨more, rfl, rest⟩ | ⟨more, rfl, rest⟩
  · cases more with
    | nil => exact .inl (List.append_nil x)
    | cons c more =>
      obtain ⟨rfl, -⟩ := List.cons.inj rest
      exact .inr ⟨more, rfl⟩
  · -- The colon of the text would stand in the port.
    match more with
    | [] => exact .inl (List.append_nil inner).symm
    | [c] => simp at rest
    | c :: c' :: more =>
      obtain ⟨-, -, rfl⟩ : ']' = c ∧ ':' = c' ∧ portPart = more ++ ']' :: ':' :: portText := by
        simpa using rest
      exact absurd clean (by simp)

section
variable {z : Bool} {pton : InetPton} (reads : ReadsRfc4291 z pton)
include reads

theorem isText_of_parse_more {x inner : Text} {a : Ipv6Address}
    (accepted : Ipv6Address.parse pton inner = .ok a)
    (longer : inner = x ∨ ∃ more, inner = x ++ ']' :: more) (whole : ¬ IsCutShort z x) :
    Rfc4291.IsText z x a.octets.toList := by
  have text := (Ipv6Address.parse_eq_ok_iff reads).mp accepted
  rcases longer with rfl | ⟨more, rfl⟩
  · by_cases nul : '\x00' ∈ inner
    · exact absurd ⟨nul, a, text⟩ whole
    · rwa [Ipv6Address.cString_eq_self nul] at text
  · by_cases nul : '\x00' ∈ x
    · rw [Ipv6Address.cString_append_of_mem nul] at text
      exact absurd ⟨nul, a, text⟩ whole
    · -- The closing bracket would be part of the address.
      rw [Ipv6Address.cString_append nul] at text
      have bracket : ']' ∉ x ++ Ipv6Address.cString (']' :: more) :=
        text.not_mem (by decide) (by decide) (by decide)
      exact absurd bracket (by simp [Ipv6Address.cString])

theorem isText_of_parse_v6 {x portText : Text} {b : SocketAddressV6}
    (accepted : SocketAddressV6.parse pton ('[' :: (x ++ [']']) ++ ':' :: portText) = .ok b)
    (whole : ¬ IsCutShort z x) : Rfc4291.IsText z x b.address.octets.toList := by
  obtain ⟨inner, portPart, same, clean, read⟩ := SocketAddressV6.parse_eq_ok accepted
  exact isText_of_parse_more reads read (bracketed_eq clean same) whole

theorem isText_of_parse {x portText : Text} {b : SocketAddress}
    (accepted : parse pton ('[' :: (x ++ [']']) ++ ':' :: portText) = .ok b)
    (whole : ¬ IsCutShort z x) :
    ∃ address, b.address = .v6 address ∧ Rfc4291.IsText z x address.octets.toList := by
  have together := parse_together pton ('[' :: (x ++ [']']) ++ ':' :: portText)
  obtain ⟨address, port⟩ := b
  cases address with
  | v4 address =>
    exact absurd ((together.ok_v4_iff ⟨address, port⟩).mp accepted)
      (SocketAddressV4.parse_bracket _ _)
  | v6 address =>
    have read := (together.ok_v6_iff ⟨address, port⟩).mp accepted
    exact ⟨address, rfl, isText_of_parse_v6 reads read whole⟩

/-- The three parsers consume the whole text unless it is cut short by a
terminator behind IPv6 text. -/
theorem readsWhole_iff (x : Text) : ReadsWhole z pton x ↔ ¬ IsCutShort z x := by
  constructor
  · intro whole short
    obtain ⟨nul, a, text⟩ := short
    have accepted := (Ipv6Address.parse_eq_ok_iff reads).mpr text
    exact Ipv6Address.nul_not_mem (whole.1 a accepted) nul
  · intro whole
    refine ⟨fun a accepted => isText_of_parse_more reads accepted (.inl rfl) whole,
      fun portText => ⟨fun b accepted => ?_, fun b accepted => ?_⟩⟩
    · exact isText_of_parse_v6 reads accepted whole
    · exact isText_of_parse reads accepted whole

end

theorem loopback_reads_whole : ReadsWhole false (inetPton false) "::1".toList :=
  (readsWhole_iff (inetPton_reads false) "::1".toList).mpr fun short =>
    absurd short.1 (by decide)

theorem junk_behind_terminator_read :
    Ipv6Address.parse (inetPton false) "::1\x00junk".toList =
        .ok ⟨#v[0, 0, 0, 0, 0, 0, 0, 0, 0, 0, 0, 0, 0, 0, 0, 1]⟩ ∧
      SocketAddressV6.parse (inetPton false) "[::1\x00junk]:80".toList =
        .ok ⟨⟨#v[0, 0, 0, 0, 0, 0, 0, 0, 0, 0, 0, 0, 0, 0, 0, 1]⟩, 80⟩ ∧
      parse (inetPton false) "[::1\x00junk]:80".toList =
        .ok ⟨.v6 ⟨#v[0, 0, 0, 0, 0, 0, 0, 0, 0, 0, 0, 0, 0, 0, 0, 1]⟩, 80⟩ ∧
      ¬ ReadsWhole false (inetPton false) "::1\x00junk".toList := by
  have read : Ipv6Address.parse (inetPton false) "::1\x00junk".toList =
      .ok ⟨#v[0, 0, 0, 0, 0, 0, 0, 0, 0, 0, 0, 0, 0, 0, 0, 1]⟩ := by decide
  refine ⟨read, by decide, by decide, fun whole => ?_⟩
  exact Ipv6Address.nul_not_mem (whole.1 _ read) (by decide)

end SocketAddress
end Qsox
