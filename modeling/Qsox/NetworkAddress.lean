import Qsox.Resolver
import Qsox.SocketAddress

/-! `NetworkAddress`: a host name kept as text, and a port. Resolving tries the
two literal parsers before the resolver, so what matters is which texts each of
them takes. -/

namespace Qsox

open StringView HostPort Resolver

structure NetworkAddress where
  host : Text
  port : UInt16
  deriving DecidableEq, Repr

inductive NetworkAddressParseError
  | missingPort
  | invalidPort
  deriving DecidableEq, Repr

namespace NetworkAddress

def ofSocketAddress (a : SocketAddress) : NetworkAddress := ⟨a.address.toString, a.port⟩

def toString (n : NetworkAddress) : Text :=
  n.host ++ ':' :: Nat.toDigits 10 n.port.toNat

def parse (str : Text) : Except NetworkAddressParseError NetworkAddress :=
  match splitPort str with
  | none => .error .missingPort
  | some (host, portStr) =>
    match readPort portStr with
    | none => .error .invalidPort
    | some port => .ok ⟨host, port⟩

section
variable {σ : Type} (pton : InetPton) (lookup : Gai σ) (n : NetworkAddress)

def resolveV4 : StateM (Dns σ) (Except Resolver.Error SocketAddressV4) :=
  match Ipv4Address.parse n.host with
  | .ok addr => pure (.ok ⟨addr, n.port⟩)
  | .error _ => do
    let res ← resolveIpv4 lookup n.host 0
    return res.map fun addr => ⟨addr, n.port⟩

def resolveV6 : StateM (Dns σ) (Except Resolver.Error SocketAddressV6) :=
  match Ipv6Address.parse pton n.host with
  | .ok addr => pure (.ok ⟨addr, n.port⟩)
  | .error _ => do
    let res ← resolveIpv6 lookup n.host 0
    return res.map fun addr => ⟨addr, n.port⟩

/-- IPv4 first, then IPv6, then whatever the resolver has. -/
def resolve : StateM (Dns σ) (Except Resolver.Error SocketAddress) :=
  match Ipv4Address.parse n.host with
  | .ok addr => pure (.ok (.ofV4 ⟨addr, n.port⟩))
  | .error _ =>
    match Ipv6Address.parse pton n.host with
    | .ok addr => pure (.ok (.ofV6 ⟨addr, n.port⟩))
    | .error _ => do
      let res ← Resolver.resolve lookup n.host 0
      return res.map fun addr => ⟨addr, n.port⟩

end

theorem parse_append {host : Text} (ne_nil : host ≠ []) (port : UInt16) :
    parse (host ++ ':' :: Nat.toDigits 10 port.toNat) = .ok ⟨host, port⟩ := by
  rw [parse, splitPort_decimal ne_nil]
  simp only [readPort_decimal]

def IsHostPort (s host : Text) (port : UInt16) : Prop :=
  host ≠ [] ∧ ∃ digits, s = host ++ ':' :: digits ∧ digits ≠ [] ∧
    (∀ c ∈ digits, c.isDigit = true) ∧ Numeral.value digits = port.toNat

theorem parse_eq_ok_iff {s host : Text} {port : UInt16} :
    parse s = .ok ⟨host, port⟩ ↔ IsHostPort s host port := by
  constructor
  · intro h
    unfold parse at h
    cases split : splitPort s with
    | none =>
      rw [split] at h
      cases h
    | some parts =>
      obtain ⟨hostPart, portPart⟩ := parts
      rw [split] at h
      cases read : readPort portPart with
      | none =>
        simp only [read] at h
        cases h
      | some value =>
        simp only [read] at h
        cases h
        obtain ⟨rfl, ne_nil, -, -⟩ := splitPort_eq_some_iff.mp split
        exact ⟨ne_nil, portPart, rfl, readPort_eq_some_iff.mp read⟩
  · rintro ⟨host_ne, digits, rfl, ne_nil, all, valued⟩
    have clean : ':' ∉ digits := by
      intro colon
      have digit := all ':' colon
      cases digit
    rw [parse, splitPort_append host_ne ne_nil clean]
    simp only [readPort_eq_some_iff.mpr ⟨ne_nil, all, valued⟩]

theorem parse_eq_missingPort_iff {s : Text} : parse s = .error .missingPort ↔ LacksPart s := by
  rw [← splitPort_eq_none_iff, parse]
  cases splitPort s with
  | none => simp
  | some parts =>
    obtain ⟨host, portPart⟩ := parts
    cases read : readPort portPart with
    | none => simp [read]
    | some port => simp [read]

/-- A text is read exactly if it is a host, a colon and a port; the first error is
about the last colon, the other one about everything else. -/
theorem parse_exactly (s : Text) :
    (∀ host port, parse s = .ok ⟨host, port⟩ ↔ IsHostPort s host port) ∧
      (parse s = .error .missingPort ↔ LacksPart s) ∧
      (parse s = .error .invalidPort ↔ ¬ LacksPart s ∧ ∀ host port, ¬ IsHostPort s host port) ∧
      ∀ n : NetworkAddress, n.host ≠ [] → parse n.toString = .ok n := by
  refine ⟨fun _ _ => parse_eq_ok_iff, parse_eq_missingPort_iff, ?_, ?_⟩
  · rw [← parse_eq_missingPort_iff]
    simp only [← parse_eq_ok_iff]
    cases parse s with
    | ok n => exact iff_of_false nofun fun others => others.2 n.host n.port rfl
    | error e => cases e <;> simp
  · intro n ne_nil
    exact parse_append ne_nil n.port

theorem colons_read_back :
    parse (toString ⟨"fe80::1:80".toList, 443⟩) = .ok ⟨"fe80::1:80".toList, 443⟩ :=
  (parse_exactly []).2.2.2 _ (by decide)

section
variable {σ : Type} {pton : InetPton} (lookup : Gai σ) {host : Text} (port : UInt16)

theorem resolve_ipv4 {addr : Ipv4Address} (h : Ipv4Address.parse host = .ok addr) (dns : Dns σ) :
    resolve pton lookup ⟨host, port⟩ dns = (.ok (.ofV4 ⟨addr, port⟩), dns) := by
  rw [resolve, h]
  rfl

theorem resolve_ipv6 {addr : Ipv6Address} {e : Ipv4ParseError}
    (refused : Ipv4Address.parse host = .error e) (h : Ipv6Address.parse pton host = .ok addr)
    (dns : Dns σ) : resolve pton lookup ⟨host, port⟩ dns = (.ok (.ofV6 ⟨addr, port⟩), dns) := by
  rw [resolve, refused, h]
  rfl

theorem resolve_name {e : Ipv4ParseError} {e' : Ipv6ParseError}
    (refused : Ipv4Address.parse host = .error e)
    (refused' : Ipv6Address.parse pton host = .error e') :
    Begins (.lookup host afInet 0) (resolve pton lookup ⟨host, port⟩) := by
  rw [resolve, refused, refused']
  apply Begins.bind (Begins.resolve lookup host 0)
  intro res
  exact Grows.pure _

end

def ResolvesUnasked (pton : InetPton) (n : NetworkAddress) (a : SocketAddress) : Prop :=
  ∀ (σ : Type) (lookup : Gai σ) (dns : Dns σ), resolve pton lookup n dns = (.ok a, dns)

section
variable {pton : InetPton} {host : Text} {port : UInt16}

theorem not_resolvesUnasked_of_name {e : Ipv4ParseError} {e' : Ipv6ParseError}
    (refused : Ipv4Address.parse host = .error e)
    (refused' : Ipv6Address.parse pton host = .error e') (a : SocketAddress) :
    ¬ ResolvesUnasked pton ⟨host, port⟩ a := by
  intro unasked
  have answer := unasked Unit (fun _ _ _ world => (.error .noData, world)) ⟨(), []⟩
  exact (resolve_name _ port refused refused').ne ⟨(), []⟩ (congrArg Prod.snd answer)

theorem resolvesUnasked_ipv6_iff {addr : Ipv6Address}
    (h : Ipv6Address.parse pton host = .ok addr) :
    ResolvesUnasked pton ⟨host, port⟩ (.ofV6 ⟨addr, port⟩) ↔
      ∃ e, Ipv4Address.parse host = .error e := by
  constructor
  · intro unasked
    cases accepted : Ipv4Address.parse host with
    | error e => exact ⟨e, rfl⟩
    | ok v4 =>
      have answer := unasked Unit (fun _ _ _ world => (.error .noData, world)) ⟨(), []⟩
      rw [resolve_ipv4 _ port accepted] at answer
      cases answer
  · rintro ⟨e, refused⟩ σ lookup dns
    exact resolve_ipv6 lookup port refused h dns

end

theorem resolveV4_ofSocketAddress {σ : Type} (lookup : Gai σ) (b : SocketAddressV4) (dns : Dns σ) :
    resolveV4 lookup (ofSocketAddress (.ofV4 b)) dns = (.ok b, dns) := by
  have read : Ipv4Address.parse (ofSocketAddress (.ofV4 b)).host = .ok b.address :=
    Ipv4Address.parse_toString b.address
  rw [resolveV4, read]
  rfl

section
variable {z : Bool} {pton : InetPton} (reads : ReadsRfc4291 z pton)
include reads

theorem resolvesUnasked_ofSocketAddress (a : SocketAddress) :
    ResolvesUnasked pton (ofSocketAddress a) a := by
  obtain ⟨address, port⟩ := a
  cases address with
  | v4 address =>
    intro σ lookup dns
    exact resolve_ipv4 lookup port (Ipv4Address.parse_toString address) dns
  | v6 address =>
    exact (resolvesUnasked_ipv6_iff (Ipv6Address.parse_toString reads address)).mpr
      (Ipv6Address.ipv4_parse_toString_eq_error address)

theorem resolveV6_ofSocketAddress {σ : Type} (lookup : Gai σ) (b : SocketAddressV6) (dns : Dns σ) :
    resolveV6 pton lookup (ofSocketAddress (.ofV6 b)) dns = (.ok b, dns) := by
  have read : Ipv6Address.parse pton (ofSocketAddress (.ofV6 b)).host = .ok b.address :=
    Ipv6Address.parse_toString reads b.address
  rw [resolveV6, read]
  rfl

/-- An endpoint kept as text comes back from all three functions, and the
resolver is asked nothing. -/
theorem endpoint_resolves_unasked :
    (∀ a : SocketAddress, ResolvesUnasked pton (ofSocketAddress a) a) ∧
      ∀ (σ : Type) (lookup : Gai σ) (dns : Dns σ),
        (∀ b : SocketAddressV4, resolveV4 lookup (ofSocketAddress (.ofV4 b)) dns = (.ok b, dns)) ∧
        ∀ b : SocketAddressV6,
          resolveV6 pton lookup (ofSocketAddress (.ofV6 b)) dns = (.ok b, dns) :=
  ⟨resolvesUnasked_ofSocketAddress reads, fun _ lookup dns =>
    ⟨fun b => resolveV4_ofSocketAddress lookup b dns,
      fun b => resolveV6_ofSocketAddress reads lookup b dns⟩⟩

end

theorem documentation_host_resolves_unasked :
    ResolvesUnasked (inetPton false)
      (ofSocketAddress ⟨.v6 ⟨#v[0x20, 1, 0xd, 0xb8, 0, 0, 0, 0, 0, 0, 0, 0, 0, 0, 0, 0]⟩, 443⟩)
      ⟨.v6 ⟨#v[0x20, 1, 0xd, 0xb8, 0, 0, 0, 0, 0, 0, 0, 0, 0, 0, 0, 0]⟩, 443⟩ :=
  (endpoint_resolves_unasked (inetPton_reads false)).1
    ⟨.v6 ⟨#v[0x20, 1, 0xd, 0xb8, 0, 0, 0, 0, 0, 0, 0, 0, 0, 0, 0, 0]⟩, 443⟩

section
variable {σ : Type} {pton : InetPton} (answers : Text → ℤ → Except Resolver.Error (List AddrInfo))
  {n : NetworkAddress}

theorem resolveV4_literal {addr : Ipv4Address} (h : Ipv4Address.parse n.host = .ok addr) :
    Yields (resolveV4 (answering answers : Gai σ) n) (.ok ⟨addr, n.port⟩) := by
  rw [resolveV4, h]
  exact Yields.pure _

theorem resolveV4_name {e : Ipv4ParseError} (h : Ipv4Address.parse n.host = .error e) :
    Yields (resolveV4 (answering answers : Gai σ) n)
      ((pick afInet ipv4OfSockAddr (answers n.host afInet)).map fun addr => ⟨addr, n.port⟩) := by
  rw [resolveV4, h]
  exact Yields.bind (Yields.findAndConvert answers _ _ _ _) (Yields.pure _)

theorem resolveV6_literal {addr : Ipv6Address} (h : Ipv6Address.parse pton n.host = .ok addr) :
    Yields (resolveV6 pton (answering answers : Gai σ) n) (.ok ⟨addr, n.port⟩) := by
  rw [resolveV6, h]
  exact Yields.pure _

theorem resolveV6_name {e : Ipv6ParseError} (h : Ipv6Address.parse pton n.host = .error e) :
    Yields (resolveV6 pton (answering answers : Gai σ) n)
      ((pick afInet6 ipv6OfSockAddr (answers n.host afInet6)).map fun addr => ⟨addr, n.port⟩) := by
  rw [resolveV6, h]
  exact Yields.bind (Yields.findAndConvert answers _ _ _ _) (Yields.pure _)

theorem resolve_literal_ipv4 {addr : Ipv4Address} (h : Ipv4Address.parse n.host = .ok addr) :
    Yields (resolve pton (answering answers : Gai σ) n) (.ok (.ofV4 ⟨addr, n.port⟩)) := by
  intro dns
  exact congrArg Prod.fst (resolve_ipv4 _ n.port h dns)

theorem resolve_literal_ipv6 {addr : Ipv6Address} {e : Ipv4ParseError}
    (refused : Ipv4Address.parse n.host = .error e) (h : Ipv6Address.parse pton n.host = .ok addr) :
    Yields (resolve pton (answering answers : Gai σ) n) (.ok (.ofV6 ⟨addr, n.port⟩)) := by
  intro dns
  exact congrArg Prod.fst (resolve_ipv6 _ n.port refused h dns)

theorem resolve_of_name {e : Ipv4ParseError} {e' : Ipv6ParseError}
    (refused : Ipv4Address.parse n.host = .error e)
    (refused' : Ipv6Address.parse pton n.host = .error e') :
    Yields (resolve pton (answering answers : Gai σ) n)
      ((firstOf IpAddress.v4 IpAddress.v6 (pick afInet ipv4OfSockAddr (answers n.host afInet))
        (pick afInet6 ipv6OfSockAddr (answers n.host afInet6))).map
          fun addr => ⟨addr, n.port⟩) := by
  rw [resolve, refused, refused']
  exact Yields.bind (Yields.resolve answers n.host 0) (Yields.pure _)

end

structure Agree (pton : InetPton) (n : NetworkAddress)
    (r4 : Except Resolver.Error SocketAddressV4) (r6 : Except Resolver.Error SocketAddressV6)
    (r : Except Resolver.Error SocketAddress) : Prop where
  unless_ipv6 : (∀ a, Ipv6Address.parse pton n.host ≠ .ok a) →
    r = firstOf SocketAddress.ofV4 SocketAddress.ofV6 r4 r6
  ipv6 : (∃ a, Ipv6Address.parse pton n.host = .ok a) →
    (∀ a, Ipv4Address.parse n.host ≠ .ok a) → r = r6.map SocketAddress.ofV6
  port_v4 : ∀ b, r4 = .ok b → b.port = n.port
  port_v6 : ∀ b, r6 = .ok b → b.port = n.port
  port : ∀ b, r = .ok b → b.port = n.port

theorem map_eq_ok_iff {α β : Type} {f : α → β} {x : Except Resolver.Error α} {b : β} :
    x.map f = .ok b ↔ ∃ a, x = .ok a ∧ f a = b := by
  cases x with
  | error e => simp [Except.map]
  | ok a => simp [Except.map]

theorem firstOf_map (port : UInt16) (x : Except Resolver.Error Ipv4Address)
    (y : Except Resolver.Error Ipv6Address) :
    (firstOf IpAddress.v4 IpAddress.v6 x y).map (fun addr => SocketAddress.mk addr port) =
      firstOf SocketAddress.ofV4 SocketAddress.ofV6 (x.map fun addr => ⟨addr, port⟩)
        (y.map fun addr => ⟨addr, port⟩) := by
  cases x with
  | ok addr => rfl
  | error e =>
    cases y with
    | ok addr => rfl
    | error e' => rfl

section
variable {σ : Type} (pton : InetPton) (answers : Text → ℤ → Except Resolver.Error (List AddrInfo))
  (n : NetworkAddress)

theorem port_resolveV4 (dns : Dns σ) (b : SocketAddressV4)
    (h : (resolveV4 (answering answers) n dns).1 = .ok b) : b.port = n.port := by
  cases h4 : Ipv4Address.parse n.host with
  | ok addr =>
    rw [resolveV4_literal answers h4 dns, Except.ok.injEq] at h
    rw [← h]
  | error e =>
    rw [resolveV4_name answers h4 dns, map_eq_ok_iff] at h
    obtain ⟨addr, -, same⟩ := h
    rw [← same]

theorem port_resolveV6 (dns : Dns σ) (b : SocketAddressV6)
    (h : (resolveV6 pton (answering answers) n dns).1 = .ok b) : b.port = n.port := by
  cases h6 : Ipv6Address.parse pton n.host with
  | ok addr =>
    rw [resolveV6_literal answers h6 dns, Except.ok.injEq] at h
    rw [← h]
  | error e =>
    rw [resolveV6_name answers h6 dns, map_eq_ok_iff] at h
    obtain ⟨addr, -, same⟩ := h
    rw [← same]

theorem port_resolve (dns : Dns σ) (b : SocketAddress)
    (h : (resolve pton (answering answers) n dns).1 = .ok b) : b.port = n.port := by
  cases h4 : Ipv4Address.parse n.host with
  | ok addr =>
    rw [resolve_literal_ipv4 answers h4 dns, Except.ok.injEq] at h
    rw [← h]
    rfl
  | error e =>
    cases h6 : Ipv6Address.parse pton n.host with
    | ok addr =>
      rw [resolve_literal_ipv6 answers h4 h6 dns, Except.ok.injEq] at h
      rw [← h]
      rfl
    | error e' =>
      rw [resolve_of_name answers h4 h6 dns, map_eq_ok_iff] at h
      obtain ⟨addr, -, same⟩ := h
      rw [← same]

variable {pton n}

theorem resolve_eq_firstOf (h6 : ∀ a, Ipv6Address.parse pton n.host ≠ .ok a)
    (dns4 dns6 dns : Dns σ) :
    (resolve pton (answering answers) n dns).1 =
      firstOf SocketAddress.ofV4 SocketAddress.ofV6 (resolveV4 (answering answers) n dns4).1
        (resolveV6 pton (answering answers) n dns6).1 := by
  cases h4 : Ipv4Address.parse n.host with
  | ok addr =>
    rw [resolve_literal_ipv4 answers h4 dns, resolveV4_literal answers h4 dns4]
    rfl
  | error e =>
    cases refused : Ipv6Address.parse pton n.host with
    | ok addr => exact absurd refused (h6 addr)
    | error e' =>
      rw [resolve_of_name answers h4 refused dns, resolveV4_name answers h4 dns4,
        resolveV6_name answers refused dns6, firstOf_map]

theorem resolve_eq_resolveV6 {addr : Ipv6Address} (h6 : Ipv6Address.parse pton n.host = .ok addr)
    (h4 : ∀ a, Ipv4Address.parse n.host ≠ .ok a) (dns6 dns : Dns σ) :
    (resolve pton (answering answers) n dns).1 =
      (resolveV6 pton (answering answers) n dns6).1.map SocketAddress.ofV6 := by
  cases refused : Ipv4Address.parse n.host with
  | ok a => exact absurd refused (h4 a)
  | error e =>
    rw [resolve_literal_ipv6 answers refused h6 dns, resolveV6_literal answers h6 dns6]
    rfl

end

/-- With a deterministic resolver the three functions agree, whatever it was
asked before. -/
theorem entry_points_agree {σ : Type} (pton : InetPton)
    (answers : Text → ℤ → Except Resolver.Error (List AddrInfo)) (n : NetworkAddress)
    (dns4 dns6 dns : Dns σ) :
    Agree pton n (resolveV4 (answering answers) n dns4).1
      (resolveV6 pton (answering answers) n dns6).1
      (resolve pton (answering answers) n dns).1 where
  unless_ipv6 h6 := resolve_eq_firstOf answers h6 dns4 dns6 dns
  ipv6 h6 h4 := by
    obtain ⟨addr, read⟩ := h6
    exact resolve_eq_resolveV6 answers read h4 dns6 dns
  port_v4 := port_resolveV4 answers n dns4
  port_v6 := port_resolveV6 pton answers n dns6
  port := port_resolve pton answers n dns

/-- IPv6 text keeps its meaning in every place where the IPv4 parser is tried
first exactly when it is not four fields that begin with octets. Without a
terminator inside, that is a matter of the embedded dotted quad and of the first
group. -/
theorem ipv6_text_keeps_meaning_iff {z : Bool} {pton : InetPton} (reads : ReadsRfc4291 z pton)
    {s : Text} {a : Ipv6Address} (h : Ipv6Address.parse pton s = .ok a) :
    (((∃ e, Ipv4Address.parse s = .error e) ∧ IpAddress.parse pton s = .ok (.v6 a) ∧
        ∀ p : UInt16, ResolvesUnasked pton ⟨s, p⟩ (.ofV6 ⟨a, p⟩)) ↔
      ¬ Ipv4Address.IsQuadLike s) ∧
    ('\x00' ∉ s →
      (Ipv4Address.IsQuadLike s ↔ '.' ∈ s ∧ Ipv4Address.BeginsWithOctet s)) := by
  constructor
  · rw [← IpAddress.ipv4_parse_error_iff]
    constructor
    · intro meaning
      exact meaning.1
    · intro refused
      obtain ⟨e, he⟩ := refused
      have not_ok : ∀ v4, Ipv4Address.parse s ≠ .ok v4 := by
        intro v4 ok
        rw [he] at ok
        cases ok
      exact ⟨⟨e, he⟩, IpAddress.parse_of_ipv4_error not_ok h,
        fun p => (resolvesUnasked_ipv6_iff h).mpr ⟨e, he⟩⟩
  · intro whole
    exact IpAddress.isQuadLike_iff_of_isText (Ipv6Address.isText_of_parse reads h whole)

theorem mixed_text_taken_by_ipv4 :
    Ipv6Address.parse (inetPton false) "1::2.3.4.5".toList =
        .ok ⟨#v[0, 1, 0, 0, 0, 0, 0, 0, 0, 0, 0, 0, 2, 3, 4, 5]⟩ ∧
      Ipv4Address.parse "1::2.3.4.5".toList = .ok (.ofOctets 1 3 4 5) ∧
      IpAddress.parse (inetPton false) "1::2.3.4.5".toList = .ok (.v4 (.ofOctets 1 3 4 5)) ∧
      ¬ ResolvesUnasked (inetPton false) ⟨"1::2.3.4.5".toList, 80⟩
        (.ofV6 ⟨⟨#v[0, 1, 0, 0, 0, 0, 0, 0, 0, 0, 0, 0, 2, 3, 4, 5]⟩, 80⟩) := by
  have accepted : Ipv4Address.parse "1::2.3.4.5".toList = .ok (.ofOctets 1 3 4 5) := by decide
  have read : Ipv6Address.parse (inetPton false) "1::2.3.4.5".toList =
      .ok ⟨#v[0, 1, 0, 0, 0, 0, 0, 0, 0, 0, 0, 0, 2, 3, 4, 5]⟩ := by decide
  refine ⟨read, accepted, by decide, ?_⟩
  rw [resolvesUnasked_ipv6_iff read, accepted]
  rintro ⟨e, refused⟩
  cases refused

theorem mapped_text_keeps_meaning :
    IpAddress.parse (inetPton false) "::ffff:1.2.3.4".toList =
      .ok (.v6 ⟨#v[0, 0, 0, 0, 0, 0, 0, 0, 0, 0, 0xff, 0xff, 1, 2, 3, 4]⟩) := by
  have read : Ipv6Address.parse (inetPton false) "::ffff:1.2.3.4".toList =
      .ok ⟨#v[0, 0, 0, 0, 0, 0, 0, 0, 0, 0, 0xff, 0xff, 1, 2, 3, 4]⟩ := by decide
  have both := ipv6_text_keeps_meaning_iff (inetPton_reads false) read
  have not_quad : ¬ Ipv4Address.IsQuadLike "::ffff:1.2.3.4".toList := by
    rw [both.2 (by decide)]
    unfold Ipv4Address.BeginsWithOctet
    decide
  exact (both.1.mpr not_quad).2.1

/-- The printed endpoint, parsed as `host:port`, resolves to the endpoint. -/
def ParsedTextResolves (pton : InetPton) (a : SocketAddress) : Prop :=
  ∃ n, parse a.toString = .ok n ∧ ResolvesUnasked pton n a

/-- The text `host:port` made of an endpoint parses back to the endpoint. -/
def HostPortTextReadsBack (pton : InetPton) (a : SocketAddress) : Prop :=
  SocketAddress.parse pton (ofSocketAddress a).toString = .ok a

theorem not_hostPortTextReadsBack_v6 (pton : InetPton) (address : Ipv6Address) (port : UInt16) :
    ¬ HostPortTextReadsBack pton ⟨.v6 address, port⟩ := by
  intro back
  have text : (ofSocketAddress ⟨.v6 address, port⟩).toString =
      address.toString ++ ':' :: Nat.toDigits 10 port.toNat := rfl
  obtain ⟨e, refused⟩ := Ipv6Address.ipv4_parse_toString_eq_error address
  rw [HostPortTextReadsBack, text, SocketAddress.parse,
    splitPort_decimal (Ipv6Address.toString_ne_nil _)] at back
  simp only [SocketAddress.parseAddress, stripBrackets_of_head (Ipv6Address.head_toString _),
    refused] at back
  cases back

section
variable {z : Bool} {pton : InetPton} (reads : ReadsRfc4291 z pton)
include reads

theorem interchangeable_v4 (address : Ipv4Address) (port : UInt16) :
    ParsedTextResolves pton ⟨.v4 address, port⟩ ∧
      HostPortTextReadsBack pton ⟨.v4 address, port⟩ :=
  ⟨⟨ofSocketAddress ⟨.v4 address, port⟩, parse_append (Ipv4Address.toString_ne_nil address) port,
    resolvesUnasked_ofSocketAddress reads ⟨.v4 address, port⟩⟩,
    SocketAddress.parse_toString reads ⟨.v4 address, port⟩⟩

theorem ipv6_parse_brackets (a : Ipv6Address) :
    ∃ e, Ipv6Address.parse pton ('[' :: (a.toString ++ [']'])) = .error e := by
  cases h : Ipv6Address.parse pton ('[' :: (a.toString ++ [']'])) with
  | error e => exact ⟨e, rfl⟩
  | ok b =>
    have nul := Ipv6Address.nul_not_mem (Ipv6Address.toString_isText z a)
    have text := Ipv6Address.isText_of_parse reads h (by simp [nul])
    exact absurd List.mem_cons_self (text.not_mem (by decide) (by decide) (by decide))

theorem not_parsedTextResolves_v6 (address : Ipv6Address) (port : UInt16) :
    ¬ ParsedTextResolves pton ⟨.v6 address, port⟩ := by
  rintro ⟨n, parsed, unasked⟩
  obtain ⟨e', refused'⟩ := ipv6_parse_brackets reads address
  have text : (SocketAddress.mk (.v6 address) port).toString =
      ('[' :: (address.toString ++ [']'])) ++ ':' :: Nat.toDigits 10 port.toNat := rfl
  rw [text, parse_append (List.cons_ne_nil _ _)] at parsed
  obtain rfl := Except.ok.inj parsed
  cases accepted : Ipv4Address.parse ('[' :: (address.toString ++ [']'])) with
  | error e => exact not_resolvesUnasked_of_name accepted refused' _ unasked
  | ok v4 =>
    obtain ⟨c, rest, head, digit⟩ := Ipv4Address.head_of_parse accepted
    obtain ⟨rfl, -⟩ := List.cons.inj head
    cases digit

/-- Each direction works for the IPv4 endpoints and for no other. -/
theorem texts_interchangeable_iff (a : SocketAddress) :
    (ParsedTextResolves pton a ∧ HostPortTextReadsBack pton a ↔ a.isV4 = true) ∧
      (ParsedTextResolves pton a ↔ a.isV4 = true) ∧
      (HostPortTextReadsBack pton a ↔ a.isV4 = true) := by
  obtain ⟨address, port⟩ := a
  cases address with
  | v4 address =>
    have both := interchangeable_v4 reads address port
    simp [SocketAddress.isV4, both]
  | v6 address =>
    simp [SocketAddress.isV4, not_parsedTextResolves_v6 reads,
      not_hostPortTextReadsBack_v6]

end

theorem ipv4_texts_interchangeable :
    ParsedTextResolves (inetPton false) ⟨.v4 (.ofOctets 1 1 1 1), 53⟩ ∧
      HostPortTextReadsBack (inetPton false) ⟨.v4 (.ofOctets 1 1 1 1), 53⟩ :=
  (texts_interchangeable_iff (inetPton_reads false) ⟨.v4 (.ofOctets 1 1 1 1), 53⟩).1.mpr rfl

theorem loopback_texts_differ :
    ¬ ParsedTextResolves (inetPton false)
        ⟨.v6 ⟨#v[0, 0, 0, 0, 0, 0, 0, 0, 0, 0, 0, 0, 0, 0, 0, 1]⟩, 80⟩ ∧
      ¬ HostPortTextReadsBack (inetPton false)
        ⟨.v6 ⟨#v[0, 0, 0, 0, 0, 0, 0, 0, 0, 0, 0, 0, 0, 0, 0, 1]⟩, 80⟩ :=
  ⟨not_parsedTextResolves_v6 (inetPton_reads false) _ _,
    not_hostPortTextReadsBack_v6 (inetPton false) _ _⟩

end NetworkAddress
end Qsox
