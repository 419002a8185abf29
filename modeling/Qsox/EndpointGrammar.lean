import Qsox.Ipv4Verdict
import Qsox.SocketAddress

/-! Endpoint texts. What the three parsers answer to a text, errors included, is told over
a grammar of hosts and ports. -/

namespace Qsox

open StringView HostPort

structure CutAt (s host port : Text) : Prop where
  text : s = host ++ ':' :: port
  host_ne_nil : host ≠ []
  port_ne_nil : port ≠ []
  clean : ':' ∉ port

/-- Decimal digits, leading zeros included. -/
structure SpellsPort (t : Text) (port : UInt16) : Prop where
  ne_nil : t ≠ []
  digits : ∀ c ∈ t, c.isDigit = true
  value : Numeral.value t = port.toNat

/-- The answers, in the order in which a text is examined. -/
inductive EndpointAnswer {ε α β : Type} (Spells : Text → α → Prop) (Fails : Text → ε → Prop)
    (missingPort invalidPort : ε) (made : α → UInt16 → β) (s : Text) : Except ε β → Prop
  | missingPort (lacks : LacksPart s) :
      EndpointAnswer Spells Fails missingPort invalidPort made s (.error missingPort)
  | host {host portPart : Text} {e : ε} (cut : CutAt s host portPart) (fails : Fails host e) :
      EndpointAnswer Spells Fails missingPort invalidPort made s (.error e)
  | invalidPort {host portPart : Text} {a : α} (cut : CutAt s host portPart)
      (spells : Spells host a) (unread : ∀ port, ¬ SpellsPort portPart port) :
      EndpointAnswer Spells Fails missingPort invalidPort made s (.error invalidPort)
  | ok {host portPart : Text} {a : α} {port : UInt16} (cut : CutAt s host portPart)
      (spells : Spells host a) (spellsPort : SpellsPort portPart port) :
      EndpointAnswer Spells Fails missingPort invalidPort made s (.ok (made a port))

theorem cutAt_iff {s host port : Text} : splitPort s = some (host, port) ↔ CutAt s host port := by
  rw [splitPort_eq_some_iff]
  exact ⟨fun ⟨text, host_ne, port_ne, clean⟩ => ⟨text, host_ne, port_ne, clean⟩,
    fun cut => ⟨cut.text, cut.host_ne_nil, cut.port_ne_nil, cut.clean⟩⟩

theorem spellsPort_iff {t : Text} {port : UInt16} : readPort t = some port ↔ SpellsPort t port := by
  rw [readPort_eq_some_iff]
  exact ⟨fun ⟨ne_nil, digits, value⟩ => ⟨ne_nil, digits, value⟩,
    fun spells => ⟨spells.ne_nil, spells.digits, spells.value⟩⟩

section
variable {ε α β : Type} {Spells : Text → α → Prop} {Fails : Text → ε → Prop}
  {missingPort invalidPort : ε} {made : α → UInt16 → β}

/-- What the parsers have in common, with the reader of the host part. -/
def readEndpoint (readHost : Text → Except ε α) (missingPort invalidPort : ε)
    (made : α → UInt16 → β) (str : Text) : Except ε β :=
  match splitPort str with
  | none => .error missingPort
  | some (addressPart, portPart) =>
    match readHost addressPart with
    | .error e => .error e
    | .ok address =>
      match readPort portPart with
      | none => .error invalidPort
      | some port => .ok (made address port)

theorem readEndpoint_eq_iff {readHost : Text → Except ε α}
    (ok : ∀ t a, readHost t = .ok a ↔ Spells t a)
    (error : ∀ t e, readHost t = .error e ↔ Fails t e) (s : Text) (r : Except ε β) :
    readEndpoint readHost missingPort invalidPort made s = r ↔
      EndpointAnswer Spells Fails missingPort invalidPort made s r := by
  constructor
  · rintro rfl
    unfold readEndpoint
    cases split : splitPort s with
    | none => exact .missingPort (splitPort_eq_none_iff.mp split)
    | some parts =>
      obtain ⟨host, portPart⟩ := parts
      have cut := cutAt_iff.mp split
      cases read : readHost host with
      | error e =>
        simp only [read]
        exact .host cut ((error host e).mp read)
      | ok a =>
        have spells := (ok host a).mp read
        cases port : readPort portPart with
        | none =>
          simp only [read, port]
          refine .invalidPort cut spells fun n spelled => ?_
          rw [spellsPort_iff.mpr spelled] at port
          cases port
        | some n =>
          simp only [read, port]
          exact .ok cut spells (spellsPort_iff.mp port)
  · intro answer
    cases answer with
    | missingPort lacks => rw [readEndpoint, splitPort_eq_none_iff.mpr lacks]
    | host cut fails =>
      rw [readEndpoint, cutAt_iff.mpr cut]
      simp only [(error _ _).mpr fails]
    | @invalidPort host portPart a cut spells unread =>
      have port : readPort portPart = none :=
        Option.eq_none_iff_forall_ne_some.mpr fun n read => unread n (spellsPort_iff.mp read)
      rw [readEndpoint, cutAt_iff.mpr cut]
      simp only [(ok _ _).mpr spells, port]
    | ok cut spells spellsPort =>
      rw [readEndpoint, cutAt_iff.mpr cut]
      simp only [(ok _ _).mpr spells, spellsPort_iff.mpr spellsPort]

end

namespace Ipv4Address

structure SpellsQuad (host : Text) (a : Ipv4Address) : Prop where
  four : (fields host).length = 4
  octets : ∀ i : Fin 4, ∃ f, (fields host)[i.val]? = some f ∧ BeginsWithOctet f ∧
    Numeral.value (Numeral.digits f) = (a.octets.get i).toNat

/-- The first field that cannot be passed, or fields behind the fourth. -/
inductive QuadFails (host : Text) : Ipv4ParseError → Prop
  | missingOctets {i : ℕ} (stops : StopsAt 3 (fields host) i)
      (early : EndsEarly 3 (fields host) i) : QuadFails host .missingOctets
  | invalidOctet {i : ℕ} (stops : StopsAt 3 (fields host) i)
      (in_time : ¬ EndsEarly 3 (fields host) i) : QuadFails host .invalidOctet
  | trailingData (passes : ∀ i, ¬ StopsAt 3 (fields host) i) (more : 4 < (fields host).length) :
      QuadFails host .trailingData

theorem SpellsQuad.passes {host : Text} {a : Ipv4Address} (h : SpellsQuad host a) (i : ℕ) :
    ¬ StopsAt 3 (fields host) i := by
  intro stops
  obtain ⟨f, found, stopped⟩ := stops.stopped
  obtain ⟨g, there, begins, -⟩ := h.octets ⟨i, Nat.lt_succ_of_le stops.inside⟩
  obtain rfl : f = g := Option.some.inj (found.symm.trans there)
  rcases stopped with ⟨last, early⟩ | no_octet
  · rw [h.four] at last
    omega
  · exact no_octet begins

theorem parse_eq_ok_iff_spells {host : Text} {a : Ipv4Address} :
    parse host = .ok a ↔ SpellsQuad host a := by
  constructor
  · intro read
    obtain ⟨four, numbers⟩ := numbers_of_parse read
    obtain ⟨f₀, f₁, f₂, f₃, ⟨text, good⟩, -⟩ := fields_of_parse read
    refine ⟨four, fun i => ?_⟩
    obtain ⟨f, found, value⟩ := numbers i
    have among : f ∈ [f₀, f₁, f₂, f₃] := by
      rw [text, fields_dotted fun f there => (good f there).1] at found
      exact List.mem_of_getElem? found
    exact ⟨f, found, (good f among).2, value⟩
  · intro spells
    obtain ⟨-, checked⟩ := checkFields_of_passes (fields_ne_nil host) spells.passes
    rw [spells.four, if_neg (Nat.lt_irrefl 4), ← parse_checks] at checked
    cases read : parse host with
    | error e =>
      rw [read] at checked
      cases checked
    | ok b =>
      have same (i : Fin 4) : b.octets.get i = a.octets.get i := by
        obtain ⟨f, found, value⟩ := (numbers_of_parse read).2 i
        obtain ⟨g, there, -, spelled⟩ := spells.octets i
        obtain rfl : f = g := Option.some.inj (found.symm.trans there)
        exact UInt8.toNat_inj.mp (value.symm.trans spelled)
      obtain ⟨octets⟩ := a
      obtain ⟨octets'⟩ := b
      have octets_eq : octets' = octets := Vector.ext fun i small => same ⟨i, small⟩
      rw [octets_eq]

theorem parse_eq_error_iff_fails {host : Text} {e : Ipv4ParseError} :
    parse host = .error e ↔ QuadFails host e := by
  constructor
  · intro refused
    have checked : checkFields 3 (fields host) = .error e := by rw [← parse_checks, refused]; rfl
    by_cases stopped : ∃ i, StopsAt 3 (fields host) i
    · obtain ⟨i, stops⟩ := stopped
      have told := checked.symm.trans (checkFields_of_stopsAt stops)
      split_ifs at told with early
      · obtain rfl := Except.error.inj told
        exact .missingOctets stops early
      · obtain rfl := Except.error.inj told
        exact .invalidOctet stops early
    · have passes := not_exists.mp stopped
      have told := checked.symm.trans (checkFields_of_passes (fields_ne_nil host) passes).2
      split_ifs at told with more
      obtain rfl := Except.error.inj told
      exact .trailingData passes more
  · intro fails
    cases fails with
    | missingOctets stops early =>
      have checked := checkFields_of_stopsAt stops
      rw [if_pos early] at checked
      exact parse_eq_error checked
    | invalidOctet stops in_time =>
      have checked := checkFields_of_stopsAt stops
      rw [if_neg in_time] at checked
      exact parse_eq_error checked
    | trailingData passes more =>
      have checked := (checkFields_of_passes (fields_ne_nil host) passes).2
      rw [if_pos more] at checked
      exact parse_eq_error checked

end Ipv4Address

namespace Ipv6Address

def SpellsBracketed (z : Bool) (host : Text) (a : Ipv6Address) : Prop :=
  ∃ inner, host = '[' :: (inner ++ [']']) ∧ Rfc4291.IsText z (cString inner) a.octets.toList

/-- No brackets, or no IPv6 text in them. -/
inductive BracketedFails (z : Bool) (host : Text) : SocketAddressV6ParseError → Prop
  | invalidStructure (bare : ∀ inner, host ≠ '[' :: (inner ++ [']'])) :
      BracketedFails z host .invalidStructure
  | invalidAddress {inner : Text} (bracketed : host = '[' :: (inner ++ [']']))
      (unread : ∀ a, ¬ SpellsBracketed z host a) : BracketedFails z host .invalidAddress

section
variable {z : Bool} {pton : InetPton} (reads : ReadsRfc4291 z pton)
include reads

theorem spellsBracketed_iff {inner : Text} {a : Ipv6Address} :
    SpellsBracketed z ('[' :: (inner ++ [']'])) a ↔ parse pton inner = .ok a := by
  rw [parse_eq_ok_iff reads]
  constructor
  · rintro ⟨inner', same, text⟩
    have stripped := stripBrackets_eq_some_iff.mpr same
    obtain rfl := Option.some.inj ((stripBrackets_brackets inner).symm.trans stripped)
    exact text
  · intro text
    exact ⟨inner, rfl, text⟩

theorem unread_of_parse_error {inner : Text} {e : Ipv6ParseError}
    (refused : parse pton inner = .error e) (a : Ipv6Address) :
    ¬ SpellsBracketed z ('[' :: (inner ++ [']'])) a := by
  rw [spellsBracketed_iff reads, refused]
  exact nofun

end
end Ipv6Address

theorem stripBrackets_eq_none_iff {s : Text} :
    stripBrackets s = none ↔ ∀ inner, s ≠ '[' :: (inner ++ [']']) := by
  simp only [Option.eq_none_iff_forall_ne_some, ne_eq, stripBrackets_eq_some_iff]

namespace SocketAddressV4

def readHost (host : Text) : Except SocketAddressV4ParseError Ipv4Address :=
  match Ipv4Address.parse host with
  | .error e => .error (fromIpv4Error e)
  | .ok address => .ok address

theorem parse_eq_readEndpoint (s : Text) :
    parse s = readEndpoint readHost .missingPort .invalidPort mk s := by
  unfold parse readEndpoint readHost
  cases splitPort s with
  | none => rfl
  | some parts =>
    obtain ⟨host, portPart⟩ := parts
    simp only []
    cases Ipv4Address.parse host <;> rfl

end SocketAddressV4

namespace SocketAddressV6

def readHost (pton : InetPton) (host : Text) : Except SocketAddressV6ParseError Ipv6Address :=
  match stripBrackets host with
  | none => .error .invalidStructure
  | some inner =>
    match Ipv6Address.parse pton inner with
    | .error e => .error (fromIpError e)
    | .ok address => .ok address

theorem parse_eq_readEndpoint (pton : InetPton) (s : Text) :
    parse pton s = readEndpoint (readHost pton) .missingPort .invalidPort mk s := by
  unfold parse readEndpoint readHost
  cases splitPort s with
  | none => rfl
  | some parts =>
    obtain ⟨host, portPart⟩ := parts
    simp only []
    cases stripBrackets host with
    | none => rfl
    | some inner =>
      simp only []
      cases Ipv6Address.parse pton inner <;> rfl

end SocketAddressV6

theorem SocketAddress.parse_eq_readEndpoint (pton : InetPton) (s : Text) :
    parse pton s = readEndpoint (parseAddress pton) .missingPort .invalidPort mk s := by
  unfold parse readEndpoint
  cases splitPort s with
  | none => rfl
  | some parts =>
    obtain ⟨host, portPart⟩ := parts
    simp only []
    cases parseAddress pton host <;> rfl

def SpellsHost (z : Bool) (host : Text) : IpAddress → Prop
  | .v4 a => Ipv4Address.SpellsQuad host a
  | .v6 a => Ipv6Address.SpellsBracketed z host a

abbrev AnswersV4 : Text → Except SocketAddressV4ParseError SocketAddressV4 → Prop :=
  EndpointAnswer Ipv4Address.SpellsQuad
    (fun host e => ∃ fault, Ipv4Address.QuadFails host fault ∧
      e = SocketAddressV4.fromIpv4Error fault)
    .missingPort .invalidPort SocketAddressV4.mk

abbrev AnswersV6 (z : Bool) : Text → Except SocketAddressV6ParseError SocketAddressV6 → Prop :=
  EndpointAnswer (Ipv6Address.SpellsBracketed z) (Ipv6Address.BracketedFails z) .missingPort
    .invalidPort SocketAddressV6.mk

abbrev AnswersEither (z : Bool) : Text → Except SocketAddressParseError SocketAddress → Prop :=
  EndpointAnswer (SpellsHost z) (fun host e => e = .invalidAddress ∧ ∀ a, ¬ SpellsHost z host a)
    .missingPort .invalidPort SocketAddress.mk

section
variable {z : Bool} {pton : InetPton} (reads : ReadsRfc4291 z pton)

theorem answersV4_iff (s : Text) (r : Except SocketAddressV4ParseError SocketAddressV4) :
    SocketAddressV4.parse s = r ↔ AnswersV4 s r := by
  rw [SocketAddressV4.parse_eq_readEndpoint]
  refine readEndpoint_eq_iff (fun host a => ?_) (fun host e => ?_) s r
  · rw [← Ipv4Address.parse_eq_ok_iff_spells, SocketAddressV4.readHost]
    cases Ipv4Address.parse host <;> simp
  · simp only [← Ipv4Address.parse_eq_error_iff_fails, SocketAddressV4.readHost]
    cases Ipv4Address.parse host <;> simp [eq_comm]

include reads in
theorem answersV6_iff (s : Text) (r : Except SocketAddressV6ParseError SocketAddressV6) :
    SocketAddressV6.parse pton s = r ↔ AnswersV6 z s r := by
  rw [SocketAddressV6.parse_eq_readEndpoint]
  refine readEndpoint_eq_iff (fun host a => ?_) (fun host e => ?_) s r
  · rw [SocketAddressV6.readHost]
    cases strip : stripBrackets host with
    | none =>
      refine iff_of_false nofun fun spells => ?_
      obtain ⟨inner, bracketed, -⟩ := spells
      exact stripBrackets_eq_none_iff.mp strip inner bracketed
    | some inner =>
      obtain rfl := stripBrackets_eq_some_iff.mp strip
      rw [Ipv6Address.spellsBracketed_iff reads]
      simp only []
      cases Ipv6Address.parse pton inner <;> simp
  · rw [SocketAddressV6.readHost]
    cases strip : stripBrackets host with
    | none =>
      have bare := stripBrackets_eq_none_iff.mp strip
      constructor
      · intro told
        obtain rfl := Except.error.inj told
        exact .invalidStructure bare
      · intro fails
        cases fails with
        | invalidStructure => rfl
        | invalidAddress bracketed => exact absurd bracketed (bare _)
    | some inner =>
      obtain rfl := stripBrackets_eq_some_iff.mp strip
      simp only []
      cases read : Ipv6Address.parse pton inner with
      | error fault =>
        constructor
        · intro told
          obtain rfl := Except.error.inj told
          exact .invalidAddress rfl (Ipv6Address.unread_of_parse_error reads read)
        · intro fails
          cases fails with
          | invalidStructure bare => exact absurd rfl (bare inner)
          | invalidAddress => rfl
      | ok a =>
        refine iff_of_false nofun fun fails => ?_
        have spells := (Ipv6Address.spellsBracketed_iff reads).mpr read
        cases fails with
        | invalidStructure bare => exact absurd rfl (bare inner)
        | invalidAddress _ unread => exact unread a spells

include reads in
theorem parseAddress_eq_ok_iff (host : Text) (a : IpAddress) :
    SocketAddress.parseAddress pton host = .ok a ↔ SpellsHost z host a := by
  rw [SocketAddress.parseAddress]
  cases strip : stripBrackets host with
  | none =>
    have bare := stripBrackets_eq_none_iff.mp strip
    simp only []
    cases a with
    | v4 a =>
      rw [SpellsHost, ← Ipv4Address.parse_eq_ok_iff_spells]
      cases Ipv4Address.parse host <;> simp
    | v6 a =>
      refine iff_of_false (fun told => ?_) fun spells => ?_
      · cases read : Ipv4Address.parse host with
        | error e => simp [read] at told
        | ok b => simp [read] at told
      · obtain ⟨inner, bracketed, -⟩ := spells
        exact bare inner bracketed
  | some inner =>
    obtain ⟨e, refused⟩ := SocketAddress.ipv4_parse_of_brackets strip
    obtain rfl := stripBrackets_eq_some_iff.mp strip
    simp only []
    cases a with
    | v4 a =>
      rw [SpellsHost, ← Ipv4Address.parse_eq_ok_iff_spells, refused]
      cases Ipv6Address.parse pton inner <;> simp
    | v6 a =>
      rw [SpellsHost, Ipv6Address.spellsBracketed_iff reads]
      cases Ipv6Address.parse pton inner <;> simp

include reads in
theorem parseAddress_eq_error_iff (host : Text) (e : SocketAddressParseError) :
    SocketAddress.parseAddress pton host = .error e ↔
      e = .invalidAddress ∧ ∀ a, ¬ SpellsHost z host a := by
  simp only [← parseAddress_eq_ok_iff reads]
  have refusal (fault : SocketAddressParseError)
      (told : SocketAddress.parseAddress pton host = .error fault) : fault = .invalidAddress := by
    rw [SocketAddress.parseAddress] at told
    split at told <;> split at told
    all_goals first | exact (Except.error.inj told).symm | cases told
  cases told : SocketAddress.parseAddress pton host with
  | error fault =>
    obtain rfl := refusal fault told
    simp [eq_comm]
  | ok a => simp

include reads in
/-- Every text is answered as the grammar says, by each of the three parsers. -/
theorem endpoints_answered (s : Text) :
    (∀ r, SocketAddressV4.parse s = r ↔ AnswersV4 s r) ∧
      (∀ r, SocketAddressV6.parse pton s = r ↔ AnswersV6 z s r) ∧
      ∀ r, SocketAddress.parse pton s = r ↔ AnswersEither z s r := by
  refine ⟨answersV4_iff s, answersV6_iff reads s, fun r => ?_⟩
  rw [SocketAddress.parse_eq_readEndpoint]
  exact readEndpoint_eq_iff (parseAddress_eq_ok_iff reads) (parseAddress_eq_error_iff reads) s r

end

theorem loopback_endpoints_answered :
    AnswersEither false "[::1]:080".toList
        (.ok ⟨.v6 ⟨#v[0, 0, 0, 0, 0, 0, 0, 0, 0, 0, 0, 0, 0, 0, 0, 1]⟩, 80⟩) ∧
      AnswersV4 "127.0.0.1:65536".toList (.error .invalidPort) ∧
      AnswersV6 false "::1:80".toList (.error .invalidStructure) :=
  ⟨((endpoints_answered (inetPton_reads false) _).2.2 _).mp (by decide),
    ((endpoints_answered (inetPton_reads false) _).1 _).mp (by decide),
    ((endpoints_answered (inetPton_reads false) _).2.1 _).mp (by decide)⟩

end Qsox
