import Qsox.Control
import Qsox.Creation

/-! The socket objects of a process. Whatever is done with them, an open
descriptor that was not released belongs to exactly one of them. -/

namespace Qsox

open Ledger (Change Accounts InOrder standing)

inductive Object
  | udp (sock : UdpSocket)
  | listener (sock : TcpListener)
  | stream (sock : TcpStream)

namespace Object

def fd : Object → SockFd
  | udp sock => sock.fd
  | listener sock => sock.fd
  | stream sock => sock.fd

def withFd (fd : SockFd) : Object → Object
  | udp sock => udp { sock with fd := fd }
  | listener _ => listener ⟨fd⟩
  | stream _ => stream ⟨fd⟩

@[simp] theorem withFd_fd (o : Object) (fd : SockFd) : (o.withFd fd).fd = fd := by
  cases o <;> rfl

def sameClass : Object → Object → Bool
  | udp _, udp _ | listener _, listener _ | stream _, stream _ => true
  | _, _ => false

def holds (o : Object) : Option SockFd := if o.fd = invalidSockFd then none else some o.fd

end Object

structure Process (σ : Type) where
  os : Os (Logged σ)
  objects : ℕ → Option Object

namespace Process

variable {σ : Type}

def start (world : σ) (errno : ℤ) : Process σ := ⟨.fresh world errno, fun _ => none⟩

def holder (m : Process σ) (id : ℕ) : Option SockFd := (m.objects id).bind Object.holds

end Process

inductive Creation
  | udpBind (address : SocketAddress)
  | udpBindAny (ipv6 : Bool)
  | listenerBind (address : SocketAddress)
  | accept (listener : ℕ)
  | connect (address : SocketAddress) (timeoutMs : Int32) (rounds : ℕ)
  | connectNonBlocking (address : SocketAddress) (rounds : ℕ)

def Creation.family : Creation → Option Family
  | .udpBind address | .listenerBind address => some address.family
  | .udpBindAny ipv6 => some (if ipv6 then .inet6 else .inet)
  | .accept _ => none
  | .connect address _ _ | .connectNonBlocking address _ => some address.family

/-- `dispose` closes a released descriptor, from outside the library. -/
inductive Op
  | create (id : ℕ) (creation : Creation)
  | moveConstruct (id source : ℕ)
  | moveAssign (id source : ℕ)
  | releaseHandle (id : ℕ)
  | destroy (id : ℕ)
  | dispose (fd : SockFd)

section
variable {σ : Type} (sys : Sys σ) (p : Platform)

def Creation.make (objects : ℕ → Option Object) :
    Creation → StateM (Os (Logged σ)) (Option (Except Error Object))
  | .udpBind address => do
    let res ← UdpSocket.bind sys.logged p address
    return some (res.map Object.udp)
  | .udpBindAny ipv6 => do
    let res ← UdpSocket.bindAny sys.logged p ipv6
    return some (res.map Object.udp)
  | .listenerBind address => do
    let res ← TcpListener.bind sys.logged p address
    return some (res.map Object.listener)
  | .accept id =>
    match objects id with
    | some (.listener sock) => do
      let res ← TcpListener.accept sys.logged p sock
      return res.map fun made => made.map fun accepted => Object.stream accepted.1
    | _ => pure none
  | .connect address timeoutMs rounds => do
    let res ← TcpStream.connect sys.logged p address timeoutMs rounds
    return res.map fun made => made.map Object.stream
  | .connectNonBlocking address rounds => do
    let res ← TcpStream.connectNonBlocking sys.logged p address rounds
    return res.map fun made => made.map Object.stream

namespace Process

def create (m : Process σ) (id : ℕ) (creation : Creation) :
    Option (Except Error Unit × Process σ) :=
  match m.objects id with
  | some _ => none
  | none =>
    match creation.make sys p m.objects m.os with
    | (none, _) => none
    | (some (.error e), os) => some (.error e, { m with os := os })
    | (some (.ok made), os) => some (.ok (), ⟨os, Function.update m.objects id (some made)⟩)

def moveConstruct (m : Process σ) (id source : ℕ) : Option (Process σ) :=
  match m.objects id, m.objects source with
  | none, some other =>
    let fds := BaseSocket.moveConstruct other.fd
    some ⟨m.os, Function.update (Function.update m.objects id (some (other.withFd fds.1))) source
      (some (other.withFd fds.2))⟩
  | _, _ => none

/-- Nothing happens where an object is assigned to itself. -/
def moveAssign (m : Process σ) (id source : ℕ) : Option (Process σ) :=
  match m.objects id, m.objects source with
  | some o, some other =>
    if id = source then some m
    else if o.sameClass other then
      let done := BaseSocket.moveAssign sys.logged o.fd other.fd m.os
      some ⟨done.2, Function.update (Function.update m.objects id (some (other.withFd done.1.1)))
        source (some (other.withFd done.1.2))⟩
    else none
  | _, _ => none

def note (os : Os (Logged σ)) (event : Ledger.Event SockFd) : Os (Logged σ) :=
  { os with world := { os.world with log := os.world.log ++ [.fd event none] } }

def releaseHandle (m : Process σ) (id : ℕ) : Option (Process σ) :=
  match m.objects id with
  | some (.stream sock) =>
    let released := sock.releaseHandle
    some ⟨if released.1 = invalidSockFd then m.os else note m.os (.released released.1),
      Function.update m.objects id (some (.stream released.2))⟩
  | _ => none

def destroy (m : Process σ) (id : ℕ) : Option (Process σ) :=
  match m.objects id with
  | some o =>
    some ⟨(BaseSocket.destroy sys.logged o.fd m.os).2, Function.update m.objects id none⟩
  | none => none

def dispose (m : Process σ) (fd : SockFd) : Option (Process σ) :=
  if standing (events m.os) fd = .released then
    let os := note m.os (.disposed fd)
    some { m with os := { os with world := { os.world with
      world := (sys.close fd os.world.world).2 } } }
  else none

/-- One operation, with the result of a creation. An operation on objects that
are not there is not carried out. -/
def exec (m : Process σ) : Op → Option (Except Error Unit × Process σ)
  | .create id creation => m.create sys p id creation
  | .moveConstruct id source => (m.moveConstruct id source).map fun m => (.ok (), m)
  | .moveAssign id source => (m.moveAssign sys id source).map fun m => (.ok (), m)
  | .releaseHandle id => (m.releaseHandle id).map fun m => (.ok (), m)
  | .destroy id => (m.destroy sys id).map fun m => (.ok (), m)
  | .dispose fd => (m.dispose sys fd).map fun m => (.ok (), m)

def step (m : Process σ) (op : Op) : Option (Process σ) := (m.exec sys p op).map Prod.snd

def run (m : Process σ) (ops : List Op) : Option (Process σ) := ops.foldlM (step sys p) m

end Process
end

theorem Object.holds_of_valid {o : Object} (valid : o.fd ≠ invalidSockFd) :
    o.holds = some o.fd := if_neg valid

theorem Object.holds_of_invalid {o : Object} (invalid : o.fd = invalidSockFd) :
    o.holds = none := if_pos invalid

@[simp] theorem Object.holds_withFd {o other : Object} :
    (o.withFd other.fd).holds = other.holds := by
  simp only [Object.holds, Object.withFd_fd]

theorem Process.holder_update {σ : Type} {m m' : Process σ} {id : ℕ} {o : Option Object}
    (objects : m'.objects = Function.update m.objects id o) :
    m'.holder = Function.update m.holder id (o.bind Object.holds) := by
  have updated := Function.comp_update (fun o : Option Object => o.bind Object.holds) m.objects id o
  rw [← objects] at updated
  exact updated

theorem Process.holder_none {σ : Type} {m : Process σ} {id : ℕ} (absent : m.objects id = none) :
    m.holder id = none := by
  rw [Process.holder, absent, Option.bind_none]

theorem Process.holder_some {σ : Type} {m : Process σ} {id : ℕ} {o : Object}
    (there : m.objects id = some o) : m.holder id = o.holds := by
  rw [Process.holder, there, Option.bind_some]

section
variable {σ : Type} {sys : Sys σ} {p : Platform}

theorem Creation.make_creates {past : FamilyLog} (objects : ℕ → Option Object)
    (creation : Creation) :
    Ensures (Before past) (creation.make sys p objects)
      (Returned creation.family Object.fd past) := by
  cases creation with
  | udpBind address =>
    exact Ensures.bind _ (udpBind_creates address) fun res =>
      Ensures.pure fun os created => Returned.of_some (created.mapValue fun _ => rfl)
  | udpBindAny ipv6 =>
    have creates : Ensures (Before past) (UdpSocket.bindAny sys.logged p ipv6)
        (Created (Creation.udpBindAny ipv6).family UdpSocket.fd past) := by
      cases ipv6 with
      | true => exact udpBind_creates ⟨.v6 .unspecified, 0⟩
      | false => exact udpBind_creates ⟨.v4 .unspecified, 0⟩
    exact Ensures.bind _ creates fun res =>
      Ensures.pure fun os created => Returned.of_some (created.mapValue fun _ => rfl)
  | listenerBind address =>
    exact Ensures.bind _ (listenerBind_creates address) fun res =>
      Ensures.pure fun os created => Returned.of_some (created.mapValue fun _ => rfl)
  | accept id =>
    cases there : objects id with
    | none =>
      simp only [make, there]
      exact Ensures.pure fun os _ => Returned.of_none
    | some o =>
      cases o with
      | listener sock =>
        simp only [make, there]
        exact Ensures.bind _ (accept_creates sock) fun res =>
          Ensures.pure fun os made => made.mapValue fun _ => rfl
      | _ =>
        simp only [make, there]
        exact Ensures.pure fun os _ => Returned.of_none
  | connect address timeoutMs rounds =>
    exact Ensures.bind _ (connect_creates address timeoutMs rounds) fun res =>
      Ensures.pure fun os made => made.mapValue fun _ => rfl
  | connectNonBlocking address rounds =>
    exact Ensures.bind _ (connectNonBlocking_creates address rounds) fun res =>
      Ensures.pure fun os made => made.mapValue fun _ => rfl

namespace Process

variable {m m' : Process σ} {id source : ℕ} {creation : Creation} {err : Error}

theorem create_cases {r : Except Error Unit} (h : m.create sys p id creation = some (r, m')) :
    m.objects id = none ∧
      ((∃ made, r = .ok () ∧ (creation.make sys p m.objects m.os).1 = some (.ok made) ∧
          descriptors m'.os = descriptors m.os ++ [(.opened made.fd, creation.family)] ∧
          m'.objects = Function.update m.objects id (some made)) ∨
        ∃ err, r = .error err ∧ m'.objects = m.objects ∧
          Leaves creation.family (descriptors m.os) (.error err) (descriptors m'.os)) := by
  have creates : Returned creation.family Object.fd (descriptors m.os)
      (creation.make sys p m.objects m.os).1 (creation.make sys p m.objects m.os).2 :=
    creation.make_creates m.objects m.os rfl
  unfold create at h
  split at h
  · cases h
  rename_i absent
  refine ⟨absent, ?_⟩
  generalize creation.make sys p m.objects m.os = returned at creates h
  obtain ⟨_ | _ | made, os⟩ := returned
  · cases h
  · cases h
    exact .inr ⟨_, rfl, rfl, creates _ rfl⟩
  · cases h
    exact .inl ⟨made, rfl, rfl, (creates _ rfl).opened, rfl⟩

theorem Leaves.change {family : Option Family} {past log : FamilyLog} {res : Except Error SockFd}
    (h : Leaves family past res log) (failed : res = .error err) (holder : ℕ → Option SockFd) :
    Change (past.map Prod.fst) holder (log.map Prod.fst) holder := by
  cases h with
  | made fd => cases failed
  | untried err => exact .none _ holder
  | aborted err fd =>
    rw [List.map_append, List.map_append]
    exact .aborted _ holder fd

theorem create_change {r : Except Error Unit} (h : m.create sys p id creation = some (r, m'))
    (valid : .opened invalidSockFd ∉ events m'.os) :
    Change (events m.os) m.holder (events m'.os) m'.holder := by
  obtain ⟨absent, ⟨made, -, -, added, objects⟩ | ⟨err, -, objects, leaves⟩⟩ := create_cases h
  · have log : events m'.os = events m.os ++ [.opened made.fd] := by
      rw [events_eq, added, List.map_append, ← events_eq]
      rfl
    have usable : made.fd ≠ invalidSockFd := by
      intro invalid
      rw [log, invalid] at valid
      exact valid (List.mem_append_right _ (List.mem_singleton_self _))
    rw [log, holder_update objects, Option.bind_some, Object.holds_of_valid usable]
    exact .opened made.fd (holder_none absent)
  · have holder : m'.holder = m.holder := by
      funext j
      rw [Process.holder, objects, Process.holder]
    rw [holder, events_eq, events_eq]
    exact Leaves.change leaves rfl m.holder

theorem handedOver_holder {other : Object} (there : m.objects source = some other)
    (objects : m'.objects = Function.update (Function.update m.objects id
      (some (other.withFd other.fd))) source (some (other.withFd invalidSockFd))) :
    m'.holder =
      Function.update (Function.update m.holder id (m.holder source)) source none := by
  let taken : Process σ := ⟨m.os, Function.update m.objects id (some (other.withFd other.fd))⟩
  have first : taken.holder = Function.update m.holder id (m.holder source) := by
    rw [holder_update rfl, Option.bind_some, Object.holds_withFd, holder_some there]
  have left : (other.withFd invalidSockFd).holds = none :=
    Object.holds_of_invalid (Object.withFd_fd other invalidSockFd)
  rw [holder_update (m := taken) objects, first, Option.bind_some, left]

theorem moveConstruct_change (h : m.moveConstruct id source = some m') :
    Change (events m.os) m.holder (events m'.os) m'.holder := by
  unfold moveConstruct at h
  split at h
  · rename_i other absent there
    have made := Option.some.inj h
    have apart : source ≠ id := by
      rintro rfl
      rw [absent] at there
      cases there
    rw [handedOver_holder there (congrArg Process.objects made).symm, ← made]
    exact .moved (events m.os) apart (holder_none absent)
  · cases h

theorem destroyed_change {o : Object} (there : m.objects id = some o) :
    Change (events m.os) m.holder (events (BaseSocket.destroy sys.logged o.fd m.os).2)
      (Function.update m.holder id none) := by
  unfold BaseSocket.destroy
  split
  · rename_i valid
    have closed : events (closeSocket sys.logged o.fd m.os).2 =
        events m.os ++ [.closed o.fd] := by
      rw [events_eq, closeSocket_closes o.fd m.os rfl, List.map_append, ← events_eq]
      rfl
    rw [closed]
    have holds : m.holder id = some o.fd := by
      rw [holder_some there, Object.holds_of_valid valid]
    exact .givenUp rfl holds
  · rename_i invalid
    have nothing : m.holder id = none := by
      rw [holder_some there, Object.holds_of_invalid (not_not.mp invalid)]
    rw [← nothing, Function.update_eq_self]
    exact .none _ _

theorem moveAssign_change (h : m.moveAssign sys id source = some m') :
    Change (events m.os) m.holder (events m'.os) m'.holder := by
  unfold moveAssign at h
  split at h
  · rename_i o other there source_there
    split_ifs at h with same alike
    · obtain rfl := Option.some.inj h
      exact .none _ _
    · have made := Option.some.inj h
      have objects : m'.objects = Function.update (Function.update m.objects id
          (some (other.withFd other.fd))) source (some (other.withFd invalidSockFd)) := by
        rw [← made, BaseSocket.moveAssign_eq]
      rw [handedOver_holder source_there objects, ← made, BaseSocket.moveAssign_eq]
      have first : Change (events m.os) m.holder
          (events (BaseSocket.destroy sys.logged o.fd m.os).2)
          (Function.update m.holder id none) := destroyed_change there
      refine first.seq ?_
      have moved := Change.moved (events (BaseSocket.destroy sys.logged o.fd m.os).2)
        (Ne.symm same) (Function.update_self id none m.holder)
      rwa [Function.update_of_ne (Ne.symm same), Function.update_idem] at moved
  · cases h

@[simp] theorem note_events (os : Os (Logged σ)) (event : Ledger.Event SockFd) :
    events (note os event) = events os ++ [event] := by
  simp only [events, seen, note, List.filterMap_append]
  rfl

theorem releaseHandle_change (h : m.releaseHandle id = some m') :
    Change (events m.os) m.holder (events m'.os) m'.holder := by
  unfold releaseHandle at h
  split at h
  · rename_i sock there
    have made := Option.some.inj h
    have left : (Object.stream sock.releaseHandle.2).holds = none := Object.holds_of_invalid rfl
    rw [holder_update (congrArg Process.objects made).symm, Option.bind_some, left, ← made]
    split_ifs with invalid
    · have nothing : m.holder id = none := by
        rw [holder_some there]
        exact Object.holds_of_invalid invalid
      rw [← nothing, Function.update_eq_self]
      exact .none _ _
    · have holds : m.holder id = some sock.fd := by
        rw [holder_some there]
        exact Object.holds_of_valid invalid
      have noted : events (note m.os (.released sock.fd)) = events m.os ++ [.released sock.fd] :=
        note_events m.os _
      change Change _ _ (events (note m.os (.released sock.fd))) _
      rw [noted]
      exact .givenUp rfl holds
  · cases h

theorem destroy_change (h : m.destroy sys id = some m') :
    Change (events m.os) m.holder (events m'.os) m'.holder := by
  unfold destroy at h
  split at h
  · rename_i o there
    have made := Option.some.inj h
    rw [holder_update (congrArg Process.objects made).symm, Option.bind_none, ← made]
    exact destroyed_change there
  · cases h

theorem dispose_change {fd : SockFd} (h : m.dispose sys fd = some m') :
    Change (events m.os) m.holder (events m'.os) m'.holder := by
  unfold dispose at h
  split_ifs at h with released
  obtain rfl := Option.some.inj h
  have noted : events (note m.os (.disposed fd)) = events m.os ++ [.disposed fd] :=
    note_events m.os _
  change Change _ _ (events (note m.os (.disposed fd))) m.holder
  rw [noted]
  exact .disposed m.holder released

theorem done {r : Except Error Unit} {next : Option (Process σ)}
    (h : (next.map fun m => (.ok (), m)) = some (r, m')) : ∃ m₁, next = some m₁ ∧ m₁ = m' := by
  obtain ⟨m₁, moved, made⟩ := Option.map_eq_some_iff.mp h
  exact ⟨m₁, moved, congrArg Prod.snd made⟩

theorem exec_change {op : Op} {r : Except Error Unit} (h : m.exec sys p op = some (r, m'))
    (valid : .opened invalidSockFd ∉ events m'.os) :
    Change (events m.os) m.holder (events m'.os) m'.holder := by
  cases op with
  | create id creation => exact create_change h valid
  | moveConstruct id source =>
    obtain ⟨m₁, moved, rfl⟩ := done h
    exact moveConstruct_change moved
  | moveAssign id source =>
    obtain ⟨m₁, moved, rfl⟩ := done h
    exact moveAssign_change moved
  | releaseHandle id =>
    obtain ⟨m₁, released, rfl⟩ := done h
    exact releaseHandle_change released
  | destroy id =>
    obtain ⟨m₁, destroyed, rfl⟩ := done h
    exact destroy_change destroyed
  | dispose fd =>
    obtain ⟨m₁, disposed, rfl⟩ := done h
    exact dispose_change disposed

/-- The kernel hands out only descriptors that are not open; `-1` is none. -/
structure HandsOut (log : List (Ledger.Event SockFd)) : Prop where
  fresh : InOrder Ledger.Event.Opens log
  valid : .opened invalidSockFd ∉ log

theorem HandsOut.of_prefix {log log' : List (Ledger.Event SockFd)} (h : HandsOut log')
    (earlier : log <+: log') : HandsOut log := by
  obtain ⟨more, rfl⟩ := earlier
  exact ⟨h.fresh.of_append, fun opened => h.valid (List.mem_append_left _ opened)⟩

theorem run_accounts {world : σ} {errno : ℤ} {ops : List Op}
    (ran : (start world errno).run sys p ops = some m) (kernel : HandsOut (events m.os)) :
    Accounts (events m.os) m.holder := by
  refine Control.foldlM_invariant (P := fun _ m =>
    HandsOut (events m.os) → Accounts (events m.os) m.holder) ?_ ?_ ran kernel
  · intro _
    exact Accounts.start
  · intro past m op m' before step kernel
    obtain ⟨⟨r, m₁⟩, done, rfl⟩ := Option.map_eq_some_iff.mp step
    have change := exec_change done kernel.valid
    exact change.accounts kernel.fresh (before (kernel.of_prefix change.grows))

theorem failed_creation {err : Error} (h : m.exec sys p (.create id creation) = some (.error err, m'))
    (kernel : HandsOut (events m'.os)) :
    m'.objects = m.objects ∧
      ∀ fd, standing (events m'.os) fd = standing (events m.os) fd := by
  obtain ⟨-, ⟨made, ok, -⟩ | ⟨err, -, objects, leaves⟩⟩ := create_cases h
  · cases ok
  refine ⟨objects, fun b => ?_⟩
  have fresh := kernel.fresh
  rw [events_eq m'.os] at fresh ⊢
  rw [events_eq m.os]
  generalize descriptors m'.os = log at leaves fresh ⊢
  cases leaves with
  | untried => rfl
  | aborted err fd =>
    rw [List.map_append, List.map_append] at fresh ⊢
    have free : standing ((descriptors m.os).map Prod.fst) fd = .free :=
      (Ledger.inOrder_append.mp (Ledger.inOrder_append.mp fresh).1).2 trivial
    exact Ledger.standing_aborted free b

/-- After every run: the open descriptors that were not released are held, by one
object each; whatever was closed was open and not released, and is closed once; a
creation that fails leaves nothing open. -/
theorem descriptors_owned {σ : Type} (sys : Sys σ) (p : Platform) (world : σ) (errno : ℤ)
    (ops : List Op) (m : Process σ) (ran : (start world errno).run sys p ops = some m)
    (kernel : HandsOut (events m.os)) :
    (∀ fd, standing (events m.os) fd = .owned ↔ ∃ id, m.holder id = some fd) ∧
      (∀ id id' fd, m.holder id = some fd → m.holder id' = some fd → id = id') ∧
      (∀ past fd future, events m.os = past ++ .closed fd :: future →
        standing past fd = .owned) ∧
      (∀ fd, (events m.os).count (.opened fd) = (events m.os).count (.closed fd) +
        (events m.os).count (.released fd) +
          if standing (events m.os) fd = .owned then 1 else 0) ∧
      (∀ id creation err m', m.exec sys p (.create id creation) = some (.error err, m') →
        HandsOut (events m'.os) → m'.objects = m.objects ∧
          ∀ fd, standing (events m'.os) fd = standing (events m.os) fd) := by
  have right := run_accounts ran kernel
  refine ⟨right.held, right.alone, ?_, Ledger.count_opened right.order, ?_⟩
  · intro past fd future log
    exact right.order past (.closed fd) future log trivial
  · intro id creation err m' failed kernel
    exact failed_creation failed kernel

end Process
end

namespace Process

def counting : Sys ℤ :=
  { Sys.refusing 1 with
    socket := fun _ _ next => (.ok next, next + 1)
    close := fun fd _ => (.ok (), fd)
    bind := fun _ _ _ next => (.ok (), next)
    listen := fun _ _ next => (.ok (), next)
    accept := fun _ next =>
      (.ok (next, SockAddrAny.ofSocketAddress .linux ⟨.v4 .unspecified, 0⟩), next + 1) }

def reuse : List Op :=
  [.create 0 (.udpBindAny false), .destroy 0, .create 1 (.listenerBind ⟨.v4 .unspecified, 0⟩),
    .create 2 (.accept 1), .moveConstruct 3 2, .releaseHandle 3]

theorem reuse_handsOut :
    HandsOut [.opened 3, .closed 3, .opened 3, .opened 4, .released 4] := by
  have first : InOrder Ledger.Event.Opens ([] ++ [.opened (3 : SockFd)] ++ [.closed 3]) :=
    Ledger.inOrder_append.mpr ⟨Ledger.inOrder_append.mpr ⟨Ledger.inOrder_nil _, fun _ => rfl⟩,
      fun _ => rfl⟩
  have second : InOrder Ledger.Event.Opens
      ([] ++ [.opened (3 : SockFd)] ++ [.closed 3] ++ [.opened 3] ++ [.opened 4]) :=
    Ledger.inOrder_append.mpr ⟨Ledger.inOrder_append.mpr ⟨first, fun _ => rfl⟩, fun _ => rfl⟩
  exact ⟨Ledger.inOrder_append.mpr ⟨second, fun _ => rfl⟩, by decide⟩

theorem reused_descriptors_owned :
    ∃ m, (start 3 0).run counting .posix reuse = some m ∧
      events m.os = [.opened 3, .closed 3, .opened 3, .opened 4, .released 4] ∧
      ∀ fd, standing (events m.os) fd = .owned ↔ ∃ id, m.holder id = some fd := by
  obtain ⟨m, ran, log⟩ : ∃ m, (start 3 0).run counting .posix reuse = some m ∧
      events m.os = [.opened 3, .closed 3, .opened 3, .opened 4, .released 4] := ⟨_, rfl, rfl⟩
  have kernel : HandsOut (events m.os) := log ▸ reuse_handsOut
  exact ⟨m, ran, log, (descriptors_owned counting .posix 3 0 reuse m ran kernel).1⟩

end Process
end Qsox
