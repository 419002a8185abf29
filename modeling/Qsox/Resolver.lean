import Qsox.IpAddress
import Qsox.Util

/-! The resolver over an arbitrary `gai`: a function of the host name, the family,
the timeout and a world of its own. Every lookup, every entry looked at and the
release of the list are recorded. Addresses are read from the bytes of the
entry's `sockaddr`, with the Linux layout. -/

namespace Qsox

open StringView

namespace Ipv4Address

def fromBits (bits : UInt32) : Ipv4Address :=
  ofOctets ((bits >>> 24) &&& 0xff).toUInt8 ((bits >>> 16) &&& 0xff).toUInt8
    ((bits >>> 8) &&& 0xff).toUInt8 (bits &&& 0xff).toUInt8

@[simp] theorem fromBits_byteswap32_load32 (b₀ b₁ b₂ b₃ : UInt8) :
    fromBits (Util.byteswap32 (Util.load32 b₀ b₁ b₂ b₃)) = ofOctets b₀ b₁ b₂ b₃ := by
  have bits {i : ℕ} (hi : i < 8) :
      i = 0 ∨ i = 1 ∨ i = 2 ∨ i = 3 ∨ i = 4 ∨ i = 5 ∨ i = 6 ∨ i = 7 := by omega
  rw [fromBits]
  congr 1
  all_goals
    apply UInt8.eq_of_toBitVec_eq
    simp only [Util.byteswap32, Util.load32]
    simp
    ext i hi
    rcases bits hi with rfl | rfl | rfl | rfl | rfl | rfl | rfl | rfl <;> simp

end Ipv4Address

namespace Resolver

inductive Error
  | success
  | addrFamily
  | temporaryFailure
  | permanentFailure
  | outOfMemory
  | noData
  | unknownHost
  | serviceNotFound
  | socketNotSupported
  | timedOut
  | other
  deriving DecidableEq, Repr

def afInet : ℤ := 2

def afInet6 : ℤ := 10

/-- Room for the larger of `sockaddr_in` and `sockaddr_in6`. -/
abbrev SockAddr := Vector UInt8 28

structure AddrInfo where
  family : ℤ
  addr : Option SockAddr
  deriving DecidableEq, Repr

inductive Event
  | lookup (hostname : Text) (family timeoutMs : ℤ)
  | read (entry : ℕ)
  | free
  deriving DecidableEq, Repr

structure Dns (σ : Type) where
  world : σ
  trace : List Event
  deriving Repr

abbrev Gai (σ : Type) := Text → ℤ → ℤ → σ → Except Error (List AddrInfo) × σ

section
variable {σ : Type}

def emit (event : Event) : StateM (Dns σ) Unit :=
  modify fun dns => { dns with trace := dns.trace ++ [event] }

def gai (lookup : Gai σ) (hostname : Text) (family timeoutMs : ℤ) :
    StateM (Dns σ) (Except Error (List AddrInfo)) := fun dns =>
  let answer := lookup hostname family timeoutMs dns.world
  (answer.1, ⟨answer.2, dns.trace ++ [.lookup hostname family timeoutMs]⟩)

def findFirstAddress (family : ℤ) : ℕ → List AddrInfo → StateM (Dns σ) (Option (ℕ × AddrInfo))
  | _, [] => pure none
  | entry, ai :: next => do
    emit (.read entry)
    if ai.family = family then return some (entry, ai)
    findFirstAddress family (entry + 1) next

def findAndConvert {Ip : Type} (family : ℤ) (convert : SockAddr → Ip) (lookup : Gai σ)
    (hostname : Text) (timeoutMs : ℤ) : StateM (Dns σ) (Except Error Ip) := do
  match ← gai lookup hostname family timeoutMs with
  | .error e => return .error e
  | .ok addrInfo =>
    match ← findFirstAddress family 0 addrInfo with
    | none =>
      emit .free
      return .error .noData
    | some (entry, qaddr) =>
      emit (.read entry)
      match qaddr.addr with
      | none =>
        emit .free
        return .error .noData
      | some addr =>
        let address := convert addr
        emit .free
        return .ok address

/-- `sin_addr.s_addr`, swapped and given to `fromBits`. -/
def ipv4OfSockAddr (addr : SockAddr) : Ipv4Address :=
  .fromBits (Util.byteswap32 (Util.load32 addr[4] addr[5] addr[6] addr[7]))

def ipv6OfSockAddr (addr : SockAddr) : Ipv6Address :=
  ⟨Vector.ofFn fun i : Fin 16 => addr[8 + i.val]⟩

def resolveIpv4 : Gai σ → Text → ℤ → StateM (Dns σ) (Except Error Ipv4Address) :=
  findAndConvert afInet ipv4OfSockAddr

def resolveIpv6 : Gai σ → Text → ℤ → StateM (Dns σ) (Except Error Ipv6Address) :=
  findAndConvert afInet6 ipv6OfSockAddr

def resolve (lookup : Gai σ) (hostname : Text) (timeoutMs : ℤ) :
    StateM (Dns σ) (Except Error IpAddress) := do
  match ← resolveIpv4 lookup hostname timeoutMs with
  | .ok address => return .ok (.v4 address)
  | .error _ =>
    let res ← resolveIpv6 lookup hostname timeoutMs
    return res.map .v6

theorem ipv4OfSockAddr_eq (addr : SockAddr) :
    ipv4OfSockAddr addr = .ofOctets addr[4] addr[5] addr[6] addr[7] :=
  Ipv4Address.fromBits_byteswap32_load32 _ _ _ _

def Grows {α : Type} (action : StateM (Dns σ) α) : Prop :=
  ∀ dns : Dns σ, dns.trace <+: (action dns).2.trace

theorem Grows.pure {α : Type} (a : α) : Grows (pure a : StateM (Dns σ) α) :=
  fun _ => List.prefix_refl _

theorem Grows.emit (event : Event) : Grows (emit event : StateM (Dns σ) Unit) :=
  fun _ => List.prefix_append _ _

theorem Grows.bind {α β : Type} {action : StateM (Dns σ) α} {next : α → StateM (Dns σ) β}
    (first : Grows action) (rest : ∀ a, Grows (next a)) : Grows (action >>= next) :=
  fun dns => (first dns).trans (rest _ _)

theorem Grows.findFirstAddress (family : ℤ) (entry : ℕ) (list : List AddrInfo) :
    Grows (findFirstAddress family entry list : StateM (Dns σ) _) := by
  induction list generalizing entry with
  | nil => exact Grows.pure none
  | cons ai next ih =>
    apply Grows.bind (Grows.emit _)
    intro _
    split_ifs
    · exact Grows.pure _
    · exact ih (entry + 1)

def Begins {α : Type} (event : Event) (action : StateM (Dns σ) α) : Prop :=
  ∀ dns : Dns σ, dns.trace ++ [event] <+: (action dns).2.trace

theorem Begins.bind {α β : Type} {event : Event} {action : StateM (Dns σ) α}
    {next : α → StateM (Dns σ) β} (first : Begins event action) (rest : ∀ a, Grows (next a)) :
    Begins event (action >>= next) :=
  fun dns => (first dns).trans (rest _ _)

theorem Begins.grows {α : Type} {event : Event} {action : StateM (Dns σ) α}
    (h : Begins event action) : Grows action :=
  fun dns => (List.prefix_append _ _).trans (h dns)

theorem Begins.gai (lookup : Gai σ) (hostname : Text) (family timeoutMs : ℤ) :
    Begins (.lookup hostname family timeoutMs) (gai lookup hostname family timeoutMs) :=
  fun _ => List.prefix_refl _

theorem Begins.findAndConvert {Ip : Type} (family : ℤ) (convert : SockAddr → Ip)
    (lookup : Gai σ) (hostname : Text) (timeoutMs : ℤ) :
    Begins (.lookup hostname family timeoutMs)
      (findAndConvert family convert lookup hostname timeoutMs) := by
  apply Begins.bind (Begins.gai lookup hostname family timeoutMs)
  intro result
  cases result with
  | error e => exact Grows.pure _
  | ok addrInfo =>
    apply Grows.bind (Grows.findFirstAddress family 0 addrInfo)
    intro found
    cases found with
    | none => exact Grows.bind (Grows.emit _) fun _ => Grows.pure _
    | some found =>
      apply Grows.bind (Grows.emit _)
      intro _
      cases found.2.addr with
      | none => exact Grows.bind (Grows.emit _) fun _ => Grows.pure _
      | some addr => exact Grows.bind (Grows.emit _) fun _ => Grows.pure _

theorem Begins.resolve (lookup : Gai σ) (hostname : Text) (timeoutMs : ℤ) :
    Begins (.lookup hostname afInet timeoutMs) (resolve lookup hostname timeoutMs) := by
  apply Begins.bind (Begins.findAndConvert afInet ipv4OfSockAddr lookup hostname timeoutMs)
  intro result
  cases result with
  | ok address => exact Grows.pure _
  | error e =>
    apply Grows.bind (Begins.findAndConvert afInet6 ipv6OfSockAddr lookup hostname timeoutMs).grows
    intro res
    exact Grows.pure _

theorem Begins.ne {α : Type} {event : Event} {action : StateM (Dns σ) α}
    (h : Begins event action) (dns : Dns σ) : (action dns).2 ≠ dns := by
  intro same
  have longer := (h dns).length_le
  rw [same, List.length_append, List.length_singleton] at longer
  omega

end

section
variable {σ : Type} (answers : Text → ℤ → Except Error (List AddrInfo))

def answering : Gai σ := fun hostname family _ world => (answers hostname family, world)

def pick {Ip : Type} (family : ℤ) (convert : SockAddr → Ip) (res : Except Error (List AddrInfo)) :
    Except Error Ip :=
  match res with
  | .error e => .error e
  | .ok list =>
    match (list.find? (·.family = family)).bind AddrInfo.addr with
    | none => .error .noData
    | some addr => .ok (convert addr)

def firstOf {α β γ : Type} (left : α → γ) (right : β → γ) (a : Except Error α)
    (b : Except Error β) : Except Error γ :=
  match a with
  | .ok x => .ok (left x)
  | .error _ => b.map right

def Yields {α : Type} (action : StateM (Dns σ) α) (a : α) : Prop :=
  ∀ dns : Dns σ, (action dns).1 = a

theorem Yields.pure {α : Type} (a : α) : Yields (pure a : StateM (Dns σ) α) a :=
  fun _ => rfl

theorem Yields.bind {α β : Type} {action : StateM (Dns σ) α} {next : α → StateM (Dns σ) β}
    {a : α} {b : β} (first : Yields action a) (rest : Yields (next a) b) :
    Yields (action >>= next) b := by
  intro dns
  have value := rest (action dns).2
  rw [← first dns] at value
  exact value

theorem Yields.emit (event : Event) : Yields (emit event : StateM (Dns σ) Unit) () :=
  fun _ => rfl

theorem Yields.gai (hostname : Text) (family timeoutMs : ℤ) :
    Yields (gai (answering answers : Gai σ) hostname family timeoutMs)
      (answers hostname family) :=
  fun _ => rfl

theorem Yields.findFirstAddress (family : ℤ) (entry : ℕ) (list : List AddrInfo) :
    ∃ found, Yields (findFirstAddress family entry list : StateM (Dns σ) _) found ∧
      found.map Prod.snd = list.find? (·.family = family) := by
  induction list generalizing entry with
  | nil => exact ⟨none, Yields.pure none, rfl⟩
  | cons ai next ih =>
    by_cases same : ai.family = family
    · refine ⟨some (entry, ai), Yields.bind (Yields.emit _) ?_, ?_⟩
      · rw [if_pos same]
        exact Yields.pure _
      · rw [List.find?_cons_of_pos (by simpa using same)]
        rfl
    · obtain ⟨found, value, first⟩ := ih (entry + 1)
      refine ⟨found, Yields.bind (Yields.emit _) ?_, ?_⟩
      · rw [if_neg same]
        exact value
      · rw [List.find?_cons_of_neg (by simpa using same), first]

theorem Yields.findAndConvert {Ip : Type} (family : ℤ) (convert : SockAddr → Ip)
    (hostname : Text) (timeoutMs : ℤ) :
    Yields (findAndConvert family convert (answering answers : Gai σ) hostname timeoutMs)
      (pick family convert (answers hostname family)) := by
  apply Yields.bind (Yields.gai answers hostname family timeoutMs)
  cases answers hostname family with
  | error e => exact Yields.pure _
  | ok list =>
    obtain ⟨found, value, first⟩ := Yields.findFirstAddress (σ := σ) family 0 list
    apply Yields.bind value
    rw [pick, ← first]
    cases found with
    | none => exact Yields.bind (Yields.emit _) (Yields.pure _)
    | some found =>
      apply Yields.bind (Yields.emit _)
      obtain ⟨position, family', addr⟩ := found
      cases addr with
      | none => exact Yields.bind (Yields.emit _) (Yields.pure _)
      | some addr => exact Yields.bind (Yields.emit _) (Yields.pure _)

theorem Yields.resolve (hostname : Text) (timeoutMs : ℤ) :
    Yields (resolve (answering answers : Gai σ) hostname timeoutMs)
      (firstOf IpAddress.v4 IpAddress.v6 (pick afInet ipv4OfSockAddr (answers hostname afInet))
        (pick afInet6 ipv6OfSockAddr (answers hostname afInet6))) := by
  apply Yields.bind (Yields.findAndConvert answers afInet ipv4OfSockAddr hostname timeoutMs)
  cases pick afInet ipv4OfSockAddr (answers hostname afInet) with
  | ok address => exact Yields.pure _
  | error e =>
    exact Yields.bind (Yields.findAndConvert answers afInet6 ipv6OfSockAddr hostname timeoutMs)
      (Yields.pure _)

end
end Resolver
end Qsox
