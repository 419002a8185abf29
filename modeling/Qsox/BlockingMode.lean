import Qsox.DescriptorUse

/-! The blocking mode of the sockets. `connect` with a timeout sets it and sets it back; in
every run the descriptor of an object was last told what was asked of the object. -/

namespace Qsox

open BaseSocket
open Ledger (Accounts standing)

/-- What a call leaves of the mode of its descriptor. A new socket blocks; what `accept`
hands out may have the mode of the listener. -/
def Use.modeAfter (mode : Option Bool) : Use → Option Bool
  | .opened _ => some false
  | .accepted _ => none
  | .mode _ nonBlocking => some nonBlocking
  | .closed _ | .on _ => mode

def modeOf (uses : List Use) (fd : SockFd) : Option Bool :=
  uses.foldl (fun mode use => if use.fd = fd then use.modeAfter mode else mode) none

def Use.KeepsMode (fd : SockFd) (use : Use) : Prop :=
  use.fd = fd → ∀ mode, use.modeAfter mode = mode

theorem modeOf_append_singleton (uses : List Use) (use : Use) (fd : SockFd) :
    modeOf (uses ++ [use]) fd =
      if use.fd = fd then use.modeAfter (modeOf uses fd) else modeOf uses fd := by
  simp only [modeOf, List.foldl_append, List.foldl_cons, List.foldl_nil]

theorem modeOf_append (uses : List Use) {more : List Use} {fd : SockFd}
    (keep : ∀ use ∈ more, use.KeepsMode fd) : modeOf (uses ++ more) fd = modeOf uses fd := by
  induction more using List.reverseRecOn with
  | nil => rw [List.append_nil]
  | append_singleton more use ih =>
    have earlier := ih fun use there => keep use (List.mem_append_left _ there)
    have last := keep use (List.mem_append_right _ (List.mem_singleton_self use))
    rw [← List.append_assoc, modeOf_append_singleton, earlier]
    split_ifs with same
    · exact last same _
    · rfl

theorem Use.keepsMode_of_other {fd other : SockFd} {use : Use} (is : use.fd = other)
    (apart : other ≠ fd) : use.KeepsMode fd :=
  fun same => absurd (is.symm.trans same) apart

section
variable {σ α : Type} {sys : Sys σ} {p : Platform} {fd : SockFd} {mode : Bool}

abbrev LeavesMode (fd : SockFd) (program : StateM (Os (Logged (Watched σ))) α) : Prop :=
  Adds (inWorld Logged.uses) (Use.KeepsMode fd) program

theorem LeavesMode.same {program : StateM (Os (Logged (Watched σ))) α}
    (h : LeavesMode fd program) (os : Os (Logged (Watched σ))) :
    modeOf (uses (program os).2) fd = modeOf (uses os) fd := by
  obtain ⟨more, added, keep⟩ := h os
  have grown : uses (program os).2 = uses os ++ more := added
  rw [grown, modeOf_append _ keep]

theorem mode_calls (sys : Sys σ) (fd other : SockFd) :
    CallsAdd sys.watched.logged other Logged.uses (Use.KeepsMode fd) := by
  refine (sys.watched_calls other).logged.weaken ?_
  rintro _ rfl _ mode
  rfl

def InMode (fd : SockFd) (mode : Bool) (os : Os (Logged (Watched σ))) : Prop :=
  modeOf (uses os) fd = some mode

theorem LeavesMode.inMode {program : StateM (Os (Logged (Watched σ))) α}
    (h : LeavesMode fd program) :
    Ensures (InMode fd mode) program fun _ => InMode fd mode :=
  fun os before => (h.same os).trans before

theorem setNonBlocking_mode {was : Option Bool} (nonBlocking : Bool) :
    Ensures (fun os => modeOf (uses os) fd = was)
      (setNonBlocking sys.watched.logged.kernel p fd nonBlocking) fun r os =>
        modeOf (uses os) fd = if r.isOk then some nonBlocking else was := by
  have noted (os : Os (Logged (Watched σ))) (returned : Except ℤ Unit) (w : Logged (Watched σ))
      (h : sys.watched.logged.kernel.ioctl fd nonBlocking os.world = (returned, w)) :
      w.uses = uses os ++ modeNote fd nonBlocking returned := by
    obtain ⟨answer, rfl⟩ := Prod.mk.inj h
    exact congrArg (fun returned => uses os ++ modeNote fd nonBlocking returned) answer
  refine setNonBlocking_ensures ?_ ?_
  · rintro os w rfl h
    have told := noted os _ w h
    simp only [uses] at told ⊢
    rw [told]
    simp only [modeNote, modeOf_append_singleton, Use.fd, Use.modeAfter]
    rfl
  · rintro os code w rfl h
    have told := noted os _ w h
    simp only [uses] at told ⊢
    rw [told]
    simp only [modeNote, modeOf_append_singleton, Use.fd, Use.modeAfter, ite_self]
    rfl

def Established (fd : SockFd) (mode : Bool) (r : Option (Except Error Unit))
    (os : Os (Logged (Watched σ))) : Prop :=
  r = some (.ok ()) → InMode fd mode os

theorem Established.error {e : Error} {os : Os (Logged (Watched σ))} :
    Established fd mode (some (.error e)) os := nofun

theorem setNonBlocking_established {P : Os (Logged (Watched σ)) → Prop} (nonBlocking : Bool) :
    Ensures P (setNonBlocking sys.watched.logged.kernel p fd nonBlocking)
      fun r => Established fd nonBlocking (some r) := by
  intro os _ done
  have told : modeOf (uses
      (setNonBlocking sys.watched.logged.kernel p fd nonBlocking os).2) fd = _ :=
    setNonBlocking_mode nonBlocking os rfl
  rw [Option.some.inj done] at told
  exact told

theorem LeavesMode.established {program : StateM (Os (Logged (Watched σ))) α}
    (h : LeavesMode fd program) (f : α → Option (Except Error Unit)) :
    Ensures (InMode fd mode) program fun r => Established fd mode (f r) :=
  h.inMode.weaken fun _ _ told _ => told

namespace TcpConnect

variable (address : SocketAddress) (nonBlocking : Bool) (timeoutMs : Int32) (rounds : ℕ)

theorem Posix.doConnect_established :
    Ensures (InMode fd false)
      (Posix.doConnect sys.watched.logged.kernel fd address nonBlocking rounds)
      (Established fd nonBlocking) := by
  have loop : LeavesMode fd
      (whileTrue (Posix.connectRound sys.watched.logged.kernel fd address nonBlocking) rounds) :=
    Adds.whileTrue ((mode_calls sys fd fd).connectRound address nonBlocking) rounds
  cases nonBlocking with
  | false => exact loop.established id
  | true =>
    refine Ensures.bind _ (setNonBlocking_established true) fun result => ?_
    cases result with
    | error e => exact Ensures.pure fun os _ => Established.error
    | ok a => exact (loop.established id).strengthen fun os told => told rfl

theorem Posix.doConnectTimeout_established :
    Ensures (InMode fd false)
      (Posix.doConnectTimeout sys.watched.logged.kernel fd address timeoutMs rounds)
      (Established fd false) := by
  refine Ensures.ite (fun _ => Posix.doConnect_established address false rounds) fun _ => ?_
  refine Ensures.bind _ (setNonBlocking_established true) fun result => ?_
  cases result with
  | error e => exact Ensures.pure fun os _ => Established.error
  | ok a =>
    refine Ensures.bind (fun _ _ => True) (Ensures.of_value fun _ _ => trivial) fun cres => ?_
    refine Ensures.bind _ (setNonBlocking_established false) fun result => ?_
    cases result with
    | error e => exact Ensures.pure fun os _ => Established.error
    | ok a =>
      cases cres with
      | some a => exact Ensures.pure fun os told _ => told rfl
      | none =>
        refine Ensures.strengthen (fun os told => told rfl) ?_
        have calls := mode_calls sys fd fd
        have rest : LeavesMode fd (do
            if (← Os.getErrno) = Qsox.Posix.einprogress then
              let start ← Os.now sys.watched.logged.kernel
              whileTrue (Posix.pollRound sys.watched.logged.kernel fd timeoutMs start) rounds
            else return some (.error (← Os.lastOsError .posix))) :=
          Adds.bind Adds.getErrno fun errno => Adds.ite
            (Adds.bind calls.kernelNow fun start =>
              Adds.whileTrue (calls.pollRound timeoutMs start) rounds)
            (Adds.bind (Adds.lastOsError .posix) fun _ => Adds.pure _)
        exact rest.established id

theorem Windows.doConnect_established :
    Ensures (InMode fd false) (Windows.doConnect sys.watched.logged.kernel fd address nonBlocking)
      fun r => Established fd nonBlocking (some r) := by
  have once : LeavesMode fd
      (Windows.connectOnce sys.watched.logged.kernel fd address nonBlocking) :=
    (mode_calls sys fd fd).connectOnce address nonBlocking
  cases nonBlocking with
  | false => exact once.established some
  | true =>
    refine Ensures.bind _ (setNonBlocking_established true) fun result => ?_
    cases result with
    | error e => exact Ensures.pure fun os _ => Established.error
    | ok a => exact (once.established some).strengthen fun os told => told rfl

theorem Windows.doConnectTimeout_established :
    Ensures (InMode fd false)
      (Windows.doConnectTimeout sys.watched.logged.kernel fd address timeoutMs)
      fun r => Established fd false (some r) := by
  refine Ensures.ite (fun _ => Windows.doConnect_established address false) fun _ => ?_
  refine Ensures.bind (fun _ _ => True) (Ensures.of_value fun _ _ => trivial) fun result => ?_
  refine Ensures.bind _ (setNonBlocking_established false) fun mode => ?_
  cases mode with
  | error e => exact Ensures.pure fun os _ => Established.error
  | ok a =>
    cases result with
    | ok a => exact Ensures.pure fun os told _ => told rfl
    | error err =>
      refine Ensures.ite (fun _ => ?_) fun _ => Ensures.pure fun os _ => Established.error
      have waits : LeavesMode fd (Windows.selectWritable sys.watched.logged.kernel fd timeoutMs) :=
        (mode_calls sys fd fd).selectWritable timeoutMs
      exact (waits.established some).strengthen fun os told => told rfl

theorem establish_established :
    Ensures (InMode fd false)
      (establish sys.watched.logged.kernel p fd address nonBlocking timeoutMs rounds)
      (Established fd nonBlocking) := by
  cases p with
  | posix =>
    refine Ensures.ite (fun waits => ?_) fun _ =>
      Posix.doConnect_established address nonBlocking rounds
    rw [Bool.eq_false_iff.mpr waits.1]
    exact Posix.doConnectTimeout_established address timeoutMs rounds
  | windows =>
    refine Ensures.ite (fun waits => ?_) fun _ => Windows.doConnect_established address nonBlocking
    rw [Bool.eq_false_iff.mpr waits.1]
    exact Windows.doConnectTimeout_established address timeoutMs

end TcpConnect

def MadeIn (fdOf : α → SockFd) (mode : Option Bool) (r : Except Error α)
    (os : Os (Logged (Watched σ))) : Prop :=
  ∀ a, r = .ok a → modeOf (uses os) (fdOf a) = mode

theorem MadeIn.error {fdOf : α → SockFd} {mode : Option Bool} {e : Error}
    {os : Os (Logged (Watched σ))} : MadeIn fdOf mode (.error e) os := nofun

theorem MadeIn.ok {fdOf : α → SockFd} {mode : Option Bool} {a : α} {os : Os (Logged (Watched σ))}
    (h : modeOf (uses os) (fdOf a) = mode) : MadeIn fdOf mode (.ok a) os := by
  rintro _ ⟨⟩
  exact h

theorem newSocket_madeIn {P : Os (Logged (Watched σ)) → Prop} (family : Family) (type : SockType) :
    Ensures P (newSocket sys.watched.logged.kernel p family type) (MadeIn id (some false)) := by
  refine newSocket_ensures ?_ (fun _ _ _ _ => MadeIn.error) fun _ _ _ _ _ => MadeIn.error
  rintro os fd w - started h
  obtain ⟨answer, rfl⟩ := Prod.mk.inj h
  have opened : (sys.socket family type os.world.world.world).1 = .ok fd := answer
  have noted := congrArg (fun returned => modeOf (uses os ++ openedNote returned) fd) opened
  refine MadeIn.ok (Eq.trans noted ?_)
  simp only [openedNote, modeOf_append_singleton, Use.fd, Use.modeAfter]
  rfl

theorem closeAndFail_madeIn {P : Os (Logged (Watched σ)) → Prop} {mode : Option Bool} :
    Ensures P (closeAndFail sys.watched.logged p fd) (MadeIn id mode) :=
  fun _ _ => MadeIn.error

theorem bindNewSocket_madeIn (address : SocketAddress) :
    Ensures (InMode fd false) (bindNewSocket sys.watched.logged p address fd)
      (MadeIn id (some false)) := by
  have bound (m : Resolver.SockAddr) (len : ℕ) :
      LeavesMode fd (Os.call sys.watched.logged.kernel (sys.watched.logged.bind fd m len)) :=
    Adds.call ((mode_calls sys fd fd).bind m len)
  refine Ensures.bind _ (bound _ _).inMode fun returned => ?_
  cases returned with
  | none => exact closeAndFail_madeIn
  | some a => exact Ensures.pure fun os told => MadeIn.ok told

theorem newBoundSocket_madeIn {P : Os (Logged (Watched σ)) → Prop} (address : SocketAddress)
    (type : SockType) :
    Ensures P (newBoundSocket sys.watched.logged p address type) (MadeIn id (some false)) := by
  refine Ensures.bind _ (newSocket_madeIn address.family type) fun r => ?_
  cases r with
  | error err => exact Ensures.pure fun os _ => MadeIn.error
  | ok sock =>
    have blocking : Ensures (InMode sock false) (bindNewSocket sys.watched.logged p address sock)
        (MadeIn id (some false)) := bindNewSocket_madeIn address
    refine Ensures.strengthen (P := InMode sock false) (fun os told => told sock rfl) ?_
    refine Ensures.ite (fun v6 => ?_) fun v4 => blocking
    have set : LeavesMode sock
        (Os.call sys.watched.logged.kernel (sys.watched.logged.setsockopt sock (.v6only 0))) :=
      Adds.call ((mode_calls sys sock sock).setsockopt _)
    refine Ensures.bind _ set.inMode fun returned => ?_
    cases returned with
    | none => exact closeAndFail_madeIn
    | some a => exact blocking

theorem udpBind_madeIn {P : Os (Logged (Watched σ)) → Prop} (address : SocketAddress) :
    Ensures P (UdpSocket.bind sys.watched.logged p address) (MadeIn UdpSocket.fd (some false)) := by
  refine Ensures.bind _ (newBoundSocket_madeIn address .dgram) fun r => ?_
  cases r with
  | error err => exact Ensures.pure fun os _ => MadeIn.error
  | ok fd => exact Ensures.pure fun os told => MadeIn.ok (told fd rfl)

theorem listenerBind_madeIn {P : Os (Logged (Watched σ)) → Prop} (address : SocketAddress) :
    Ensures P (TcpListener.bind sys.watched.logged p address)
      (MadeIn TcpListener.fd (some false)) := by
  refine Ensures.bind _ (newBoundSocket_madeIn address .stream) fun r => ?_
  cases r with
  | error err => exact Ensures.pure fun os _ => MadeIn.error
  | ok sock =>
    refine Ensures.strengthen (P := InMode sock false) (fun os told => told sock rfl) ?_
    have listening : LeavesMode sock
        (Os.call sys.watched.logged.kernel (sys.watched.logged.listen sock 1024)) :=
      Adds.call ((mode_calls sys sock sock).listen _)
    refine Ensures.bind _ listening.inMode fun returned => ?_
    cases returned with
    | none =>
      have closed : Ensures (fun _ => True) (closeAndFail sys.watched.logged p sock)
          (MadeIn id (some false)) := closeAndFail_madeIn
      refine (Ensures.bind _ closed fun r => ?_).strengthen fun _ _ => trivial
      cases r with
      | error err => exact Ensures.pure fun os _ => MadeIn.error
      | ok fd => exact Ensures.pure fun os told => MadeIn.ok (told fd rfl)
    | some a => exact Ensures.pure fun os told => MadeIn.ok told

def ConnectedIn (fdOf : α → SockFd) (mode : Option Bool) (r : Option (Except Error α))
    (os : Os (Logged (Watched σ))) : Prop :=
  ∀ res, r = some res → MadeIn fdOf mode res os

theorem ConnectedIn.some {fdOf : α → SockFd} {mode : Option Bool} {res : Except Error α}
    {os : Os (Logged (Watched σ))} (h : MadeIn fdOf mode res os) :
    ConnectedIn fdOf mode (some res) os := by
  rintro _ ⟨⟩
  exact h

theorem ConnectedIn.none {fdOf : α → SockFd} {mode : Option Bool} {os : Os (Logged (Watched σ))} :
    ConnectedIn fdOf mode none os := by
  rintro _ ⟨⟩

theorem connectInternal_connectedIn {P : Os (Logged (Watched σ)) → Prop} (address : SocketAddress)
    (nonBlocking : Bool) (timeoutMs : Int32) (rounds : ℕ) :
    Ensures P
      (TcpConnect.connectInternal sys.watched.logged.kernel p address nonBlocking timeoutMs rounds)
      (ConnectedIn id (some nonBlocking)) := by
  refine Ensures.bind _ (newSocket_madeIn address.family .stream) fun r => ?_
  cases r with
  | error err => exact Ensures.pure fun os _ => ConnectedIn.some MadeIn.error
  | ok fd =>
    refine Ensures.strengthen (P := InMode fd false) (fun os told => told fd rfl) ?_
    refine Ensures.bind _ (TcpConnect.establish_established address nonBlocking timeoutMs rounds)
      fun r => ?_
    rcases r with _ | err | _
    · exact Ensures.pure fun os _ => ConnectedIn.none
    · exact fun os _ => ConnectedIn.some MadeIn.error
    · exact Ensures.pure fun os told => ConnectedIn.some (MadeIn.ok (told rfl))

theorem accept_connectedIn {P : Os (Logged (Watched σ)) → Prop} (listener : TcpListener) :
    Ensures P (TcpListener.accept sys.watched.logged p listener)
      (ConnectedIn (fun made : TcpStream × SocketAddress => made.1.fd) none) := by
  intro os _ res is made ok
  have used := accept_uses listener os ⟨rfl, rfl⟩ res is
  rw [ok] at used
  obtain ⟨noted, -⟩ := used
  rw [noted, List.append_cons, modeOf_append_singleton]
  exact if_pos rfl

def Creation.modeMade : Creation → Option Bool
  | .accept _ => none
  | .connectNonBlocking _ _ => some true
  | _ => some false

theorem MadeIn.map {β : Type} {fdOf : α → SockFd} {fdOf' : β → SockFd} {f : α → β}
    {mode : Option Bool} {r : Except Error α} {os : Os (Logged (Watched σ))}
    (h : MadeIn fdOf mode r os) (same : ∀ a, fdOf' (f a) = fdOf a) :
    MadeIn fdOf' mode (r.map f) os := by
  cases r with
  | error err => exact MadeIn.error
  | ok a => exact MadeIn.ok ((congrArg (modeOf (uses os)) (same a)).trans (h a rfl))

theorem ConnectedIn.map {β : Type} {fdOf : α → SockFd} {fdOf' : β → SockFd} {f : α → β}
    {mode : Option Bool} {r : Option (Except Error α)} {os : Os (Logged (Watched σ))}
    (h : ConnectedIn fdOf mode r os) (same : ∀ a, fdOf' (f a) = fdOf a) :
    ConnectedIn fdOf' mode (r.map fun res => res.map f) os := by
  intro res is
  obtain ⟨res, returned, rfl⟩ := Option.map_eq_some_iff.mp is
  exact (h res returned).map same

theorem connect_connectedIn {P : Os (Logged (Watched σ)) → Prop} (address : SocketAddress)
    (timeoutMs : Int32) (rounds : ℕ) :
    Ensures P (TcpStream.connect sys.watched.logged p address timeoutMs rounds)
      (ConnectedIn TcpStream.fd (some false)) :=
  Ensures.bind _ (connectInternal_connectedIn address false timeoutMs rounds) fun _ =>
    Ensures.pure fun _ told => told.map fun _ => rfl

theorem connectNonBlocking_connectedIn {P : Os (Logged (Watched σ)) → Prop}
    (address : SocketAddress) (rounds : ℕ) :
    Ensures P (TcpStream.connectNonBlocking sys.watched.logged p address rounds)
      (ConnectedIn TcpStream.fd (some true)) :=
  Ensures.bind _ (connectInternal_connectedIn address true 0 rounds) fun _ =>
    Ensures.pure fun _ told => told.map fun _ => rfl

theorem Creation.make_connectedIn {P : Os (Logged (Watched σ)) → Prop}
    (objects : ℕ → Option Object) (creation : Creation) :
    Ensures P (creation.make sys.watched p objects)
      (ConnectedIn Object.fd creation.modeMade) := by
  cases creation with
  | udpBind address =>
    exact Ensures.bind _ (udpBind_madeIn address) fun res =>
      Ensures.pure fun os told => ConnectedIn.some (told.map fun _ => rfl)
  | udpBindAny ipv6 =>
    exact Ensures.bind _ (udpBind_madeIn _) fun res =>
      Ensures.pure fun os told => ConnectedIn.some (told.map fun _ => rfl)
  | listenerBind address =>
    exact Ensures.bind _ (listenerBind_madeIn address) fun res =>
      Ensures.pure fun os told => ConnectedIn.some (told.map fun _ => rfl)
  | accept id =>
    rcases there : objects id with _ | (sock | sock | sock)
    · simp only [make, there]
      exact Ensures.pure fun os _ => ConnectedIn.none
    · simp only [make, there]
      exact Ensures.pure fun os _ => ConnectedIn.none
    · simp only [make, there]
      exact Ensures.bind _ (accept_connectedIn sock) fun res =>
        Ensures.pure fun os told => told.map fun _ => rfl
    · simp only [make, there]
      exact Ensures.pure fun os _ => ConnectedIn.none
  | connect address timeoutMs rounds =>
    exact Ensures.bind _ (connect_connectedIn address timeoutMs rounds) fun res =>
      Ensures.pure fun os told => told.map fun _ => rfl
  | connectNonBlocking address rounds =>
    exact Ensures.bind _ (connectNonBlocking_connectedIn address rounds) fun res =>
      Ensures.pure fun os told => told.map fun _ => rfl

end

def Operation.modeAsked : Operation → Option Bool
  | setNonBlocking _ nonBlocking => some nonBlocking
  | _ => none

def succeeded : Option (Except Error Unit) → Bool
  | some (.ok ()) => true
  | _ => false

theorem succeeded_some (res : Except Error Unit) : succeeded (some res) = res.isOk := by
  cases res <;> rfl

def Activity.asked (modes : ℕ → Option Bool) (a : Activity) (r : Option (Except Error Unit)) :
    ℕ → Option Bool :=
  match a with
  | .own (.create id creation) =>
    if succeeded r then Function.update modes id creation.modeMade else modes
  | .own (.moveConstruct id source) | .own (.moveAssign id source) =>
    Function.update modes id (modes source)
  | .own _ => modes
  | .call id op =>
    match op.modeAsked with
    | some mode => if succeeded r then Function.update modes id (some mode) else modes
    | none => modes

namespace Process

section
variable {σ : Type} (sys : Sys σ) (p : Platform) (linux : Bool) (rounds : ℕ)

def workAsked (m : Process σ × (ℕ → Option Bool)) (a : Activity) :
    Option (Process σ × (ℕ → Option Bool)) :=
  (m.1.work sys p linux rounds a).map fun done => (done.2, a.asked m.2 done.1)

def workAllAsked (m : Process σ × (ℕ → Option Bool)) (activities : List Activity) :
    Option (Process σ × (ℕ → Option Bool)) :=
  activities.foldlM (workAsked sys p linux rounds) m

end

def ModesRight {σ : Type} (m : Process (Watched σ)) (modes : ℕ → Option Bool) : Prop :=
  ∀ id o, m.objects id = some o → o.fd ≠ invalidSockFd → modeOf (uses m.os) o.fd = modes id

section
variable {σ : Type} {sys : Sys σ} {p : Platform} {linux : Bool} {rounds : ℕ}
  {m m' : Process (Watched σ)} {modes : ℕ → Option Bool} {r : Option (Except Error Unit)}

theorem creationUses_keepsMode {objects : ℕ → Option Object} {more : List Use} {fd : SockFd}
    (h : CreationUses objects more)
    (apart : ∀ other rest, more.filterMap Use.event = .opened other :: rest → other ≠ fd) :
    ∀ use ∈ more, use.KeepsMode fd := by
  have session (other : SockFd) {calls : List Use} (apart : other ≠ fd)
      (mine : ∀ use ∈ calls, use.Calls other) :
      ∀ use ∈ [.opened other] ++ calls, use.KeepsMode fd := by
    intro use there
    rcases List.mem_cons.mp there with rfl | there
    · exact Use.keepsMode_of_other rfl apart
    · exact Use.keepsMode_of_other (mine use there).1 apart
  intro use there
  cases h with
  | session h =>
    cases h with
    | untried => cases there
    | going other mine => exact session other (apart other _ rfl) mine use there
    | ended other mine =>
      have apart := apart other _ rfl
      rcases List.mem_append.mp there with there | there
      · exact session other apart mine use there
      · rw [List.mem_singleton.mp there]
        exact Use.keepsMode_of_other rfl apart
  | refused listening =>
    rw [List.mem_singleton.mp there]
    exact fun _ _ => rfl
  | accepted listening other =>
    rcases List.mem_pair.mp there with rfl | rfl
    · exact fun _ _ => rfl
    · exact Use.keepsMode_of_other rfl (apart other _ rfl)

theorem created_keepsMode {fd : SockFd} (owned : standing (events m.os) fd = .owned)
    (created : CreatedBy m.objects (uses m.os) (events m.os) m'.os)
    (kernel : HandsOut (events m'.os)) : modeOf (uses m'.os) fd = modeOf (uses m.os) fd := by
  obtain ⟨more, ⟨added, entered⟩, did⟩ := created
  rw [added]
  refine modeOf_append _ (creationUses_keepsMode did ?_)
  rintro other rest opened rfl
  have fresh : standing (events m.os) other = .free :=
    kernel.fresh (events m.os) (.opened other) rest (by rw [entered, opened]) trivial
  rw [owned] at fresh
  cases fresh

theorem create_modesRight {id : ℕ} {creation : Creation} {res : Except Error Unit}
    (h : m.create sys.watched p id creation = some (res, m'))
    (right : Accounts (events m.os) m.holder) (kernel : HandsOut (events m'.os))
    (modesRight : ModesRight m modes) :
    ModesRight m' ((Activity.own (.create id creation)).asked modes (some res)) := by
  have created := create_createdBy h
  have earlier : ∀ j o, m.objects j = some o → o.fd ≠ invalidSockFd →
      modeOf (uses m'.os) o.fd = modes j := by
    intro j o there valid
    have owned := (heldOwned_of_accounts right j o there).resolve_left valid
    rw [created_keepsMode owned created kernel, modesRight j o there valid]
  have told : ConnectedIn Object.fd creation.modeMade (creation.make sys.watched p m.objects m.os).1
      (creation.make sys.watched p m.objects m.os).2 :=
    Creation.make_connectedIn (P := fun _ => True) m.objects creation m.os trivial
  clear created
  unfold create at h
  split at h
  · cases h
  generalize creation.make sys.watched p m.objects m.os = returned at told h
  obtain ⟨_ | _ | made, os⟩ := returned
  · cases h
  · cases h
    exact earlier
  · cases h
    change ModesRight _ (Function.update modes id creation.modeMade)
    intro j o there valid
    by_cases mine : j = id
    · subst mine
      obtain rfl := Option.some.inj ((Function.update_self j _ _).symm.trans there)
      exact (told _ rfl made rfl).trans (by rw [Function.update_self])
    · have there : m.objects j = some o := (Function.update_of_ne mine _ _).symm.trans there
      exact (earlier j o there valid).trans (Function.update_of_ne mine _ _).symm

theorem handedOver_modesRight {id source : ℕ} {other : Object}
    (there : m.objects source = some other)
    (objects : m'.objects = Function.update (Function.update m.objects id
      (some (other.withFd other.fd))) source (some (other.withFd invalidSockFd)))
    (same : ∀ fd, modeOf (uses m'.os) fd = modeOf (uses m.os) fd)
    (modesRight : ModesRight m modes) :
    ModesRight m' (Function.update modes id (modes source)) := by
  intro j o found valid
  rw [objects] at found
  rw [same]
  by_cases left : j = source
  · subst left
    obtain rfl := Option.some.inj ((Function.update_self j _ _).symm.trans found)
    exact absurd (Object.withFd_fd other invalidSockFd) valid
  · rw [Function.update_of_ne left] at found
    by_cases mine : j = id
    · subst mine
      obtain rfl := Option.some.inj ((Function.update_self j _ _).symm.trans found)
      rw [Object.withFd_fd] at valid ⊢
      rw [Function.update_self]
      exact modesRight source other there valid
    · rw [Function.update_of_ne mine] at found ⊢
      exact modesRight j o found valid

theorem destroy_mode (sys : Sys σ) (fd : SockFd) (os : Os (Logged (Watched σ))) (d : SockFd) :
    modeOf (uses (BaseSocket.destroy sys.watched.logged fd os).2) d = modeOf (uses os) d := by
  unfold BaseSocket.destroy
  split_ifs
  · obtain ⟨closed, -⟩ : At _ _ (closeSocket sys.watched.logged fd os).2 :=
      closeSocket_at os ⟨rfl, rfl⟩
    rw [closed]
    exact modeOf_append _ fun use there => List.mem_singleton.mp there ▸ fun _ _ => rfl
  · rfl

theorem moveConstruct_modesRight {id source : ℕ} (h : m.moveConstruct id source = some m')
    (modesRight : ModesRight m modes) :
    ModesRight m' (Function.update modes id (modes source)) := by
  unfold moveConstruct at h
  split at h
  · rename_i other absent there
    cases h
    exact handedOver_modesRight there rfl (fun _ => rfl) modesRight
  · cases h

theorem moveAssign_modesRight {id source : ℕ} (h : m.moveAssign sys.watched id source = some m')
    (modesRight : ModesRight m modes) :
    ModesRight m' (Function.update modes id (modes source)) := by
  unfold moveAssign at h
  split at h
  · rename_i o other there source_there
    split_ifs at h with same alike
    · cases h
      subst same
      rwa [Function.update_eq_self]
    · cases h
      rw [BaseSocket.moveAssign_eq]
      exact handedOver_modesRight source_there rfl (destroy_mode sys o.fd m.os) modesRight
  · cases h

theorem ModesRight.fewer (modesRight : ModesRight m modes)
    (objects : ∀ id o, m'.objects id = some o → o.fd ≠ invalidSockFd → m.objects id = some o)
    (same : ∀ fd, modeOf (uses m'.os) fd = modeOf (uses m.os) fd) : ModesRight m' modes := by
  intro id o there valid
  rw [same]
  exact modesRight id o (objects id o there valid) valid

theorem releaseHandle_modesRight {id : ℕ} (h : m.releaseHandle id = some m')
    (modesRight : ModesRight m modes) : ModesRight m' modes := by
  refine modesRight.fewer ?_ fun fd => by rw [releaseHandle_uses h]
  unfold releaseHandle at h
  split at h
  · cases h
    intro j o there valid
    by_cases mine : j = id
    · subst mine
      obtain rfl := Option.some.inj ((Function.update_self j _ _).symm.trans there)
      exact absurd rfl valid
    · exact (Function.update_of_ne mine _ _).symm.trans there
  · cases h

theorem destroy_modesRight {id : ℕ} (h : m.destroy sys.watched id = some m')
    (modesRight : ModesRight m modes) : ModesRight m' modes := by
  unfold destroy at h
  split at h
  · rename_i gone present
    cases h
    refine modesRight.fewer ?_ (destroy_mode sys gone.fd m.os)
    intro j o there valid
    by_cases mine : j = id
    · subst mine
      cases (Function.update_self j _ _).symm.trans there
    · exact (Function.update_of_ne mine _ _).symm.trans there
  · cases h

theorem dispose_modesRight {fd : SockFd} (h : m.dispose sys.watched fd = some m')
    (modesRight : ModesRight m modes) : ModesRight m' modes := by
  unfold dispose at h
  split_ifs at h
  cases h
  refine modesRight.fewer (fun _ _ there _ => there) fun d => ?_
  have kept : ∀ use ∈ [Use.closed fd], use.KeepsMode d :=
    fun use there => List.mem_singleton.mp there ▸ fun _ _ => rfl
  exact modeOf_append (uses m.os) kept

theorem setNonBlocking_modesRight {id : ℕ} {o : Object} {nonBlocking : Bool}
    {res : Except Error Unit} (there : m.objects id = some o)
    (ran : setNonBlocking sys.watched.logged.kernel p o.fd nonBlocking m.os = (res, m'.os))
    (objects : m'.objects = m.objects) (right : Accounts (events m.os) m.holder)
    (modesRight : ModesRight m modes) :
    ModesRight m' (if res.isOk then Function.update modes id (some nonBlocking) else modes) := by
  have calls : Adds (inWorld Logged.uses) (Use.Calls o.fd)
      (setNonBlocking sys.watched.logged.kernel p o.fd nonBlocking) :=
    Adds.setNonBlocking (watched_ioctl sys o.fd nonBlocking)
  have elsewhere (fd : SockFd) (apart : o.fd ≠ fd) :
      modeOf (uses m'.os) fd = modeOf (uses m.os) fd := by
    have leaves : LeavesMode fd (setNonBlocking sys.watched.logged.kernel p o.fd nonBlocking) :=
      calls.weaken fun use mine => Use.keepsMode_of_other mine.1 apart
    rw [← leaves.same m.os, ran]
  have told : modeOf (uses
      (setNonBlocking sys.watched.logged.kernel p o.fd nonBlocking m.os).2) o.fd =
      if (setNonBlocking sys.watched.logged.kernel p o.fd nonBlocking m.os).1.isOk
        then some nonBlocking else modeOf (uses m.os) o.fd :=
    setNonBlocking_mode nonBlocking m.os rfl
  rw [ran] at told
  intro j other found valid
  rw [objects] at found
  by_cases mine : j = id
  · subst mine
    obtain rfl := Option.some.inj (there.symm.trans found)
    rw [told]
    split_ifs
    · rw [Function.update_self]
    · exact modesRight j o found valid
  · have apart : o.fd ≠ other.fd := by
      intro same
      have held : m.holder id = some other.fd := by
        rw [holder_some there, Object.holds_of_valid (same ▸ valid), same]
      have held' : m.holder j = some other.fd := by
        rw [holder_some found, Object.holds_of_valid valid]
      exact mine (right.alone j id _ held' held)
    rw [elsewhere other.fd apart, modesRight j other found valid]
    split_ifs
    · rw [Function.update_of_ne mine]
    · rfl

theorem call_modesRight {id : ℕ} {op : Operation}
    (h : m.work sys.watched p linux rounds (.call id op) = some (r, m'))
    (right : Accounts (events m.os) m.holder) (modesRight : ModesRight m modes) :
    ModesRight m' ((Activity.call id op).asked modes r) := by
  obtain ⟨o, there, subject, objects, ran⟩ := work_call h
  by_cases asks : op.modeAsked = none
  · have leaves (fd : SockFd) : LeavesMode fd (op.run sys.watched.logged p linux rounds) := by
      refine Operation.run_adds (mode_calls sys fd o.fd) ?_ (fun _ _ _ _ => mode_calls sys fd _)
        linux rounds subject
      rintro nonBlocking rfl
      cases asks
    have same (fd : SockFd) : modeOf (uses m'.os) fd = modeOf (uses m.os) fd := by
      rw [← (leaves fd).same m.os, ran]
    have unasked : (Activity.call id op).asked modes r = modes := by
      simp only [Activity.asked, asks]
    rw [unasked]
    exact modesRight.fewer (fun j o found _ => objects ▸ found) same
  · cases op with
    | setNonBlocking fd nonBlocking =>
      obtain rfl := Option.some.inj subject
      obtain ⟨rfl, after⟩ := Prod.mk.inj ran
      have set := setNonBlocking_modesRight there (Prod.ext rfl after) objects right modesRight
      rw [← succeeded_some] at set
      exact set
    | _ => exact absurd rfl asks

theorem work_modesRight {a : Activity} (h : m.work sys.watched p linux rounds a = some (r, m'))
    (right : Accounts (events m.os) m.holder) (kernel : HandsOut (events m'.os))
    (modesRight : ModesRight m modes) : ModesRight m' (a.asked modes r) := by
  cases a with
  | own op =>
    obtain ⟨res, made, rfl⟩ := work_own h
    cases op with
    | create id creation => exact create_modesRight made right kernel modesRight
    | moveConstruct id source =>
      obtain ⟨m₂, moved, rfl⟩ := done made
      exact moveConstruct_modesRight moved modesRight
    | moveAssign id source =>
      obtain ⟨m₂, moved, rfl⟩ := done made
      exact moveAssign_modesRight moved modesRight
    | releaseHandle id =>
      obtain ⟨m₂, released, rfl⟩ := done made
      exact releaseHandle_modesRight released modesRight
    | destroy id =>
      obtain ⟨m₂, destroyed, rfl⟩ := done made
      exact destroy_modesRight destroyed modesRight
    | dispose fd =>
      obtain ⟨m₂, disposed, rfl⟩ := done made
      exact dispose_modesRight disposed modesRight
  | call id op => exact call_modesRight h right modesRight

/-- In every run: the descriptor of an object was last told the mode that was asked of the
object, whatever became of the other calls and of the other objects. -/
theorem modes_as_asked (sys : Sys σ) (p : Platform) (linux : Bool) (rounds : ℕ) (world : Watched σ)
    (errno : ℤ) (activities : List Activity) (m : Process (Watched σ)) (modes : ℕ → Option Bool)
    (ran : workAllAsked sys.watched p linux rounds (start world errno, fun _ => none) activities =
      some (m, modes))
    (kernel : HandsOut (events m.os)) (id : ℕ) (o : Object) (there : m.objects id = some o)
    (valid : o.fd ≠ invalidSockFd) : modeOf (uses m.os) o.fd = modes id := by
  refine (Control.foldlM_invariant (P := fun _ (s : Process (Watched σ) × (ℕ → Option Bool)) =>
    HandsOut (events s.1.os) → Accounts (events s.1.os) s.1.holder ∧ ModesRight s.1 s.2) ?_ ?_ ran
    kernel).2 id o there valid
  · exact fun _ => ⟨Accounts.start, nofun⟩
  · intro past s a s' before step kernel
    obtain ⟨⟨r, m₁⟩, done, rfl⟩ := Option.map_eq_some_iff.mp step
    have change := work_change done kernel.valid
    obtain ⟨right, modesRight⟩ := before (kernel.of_prefix change.grows)
    exact ⟨change.accounts kernel.fresh right, work_modesRight done right kernel modesRight⟩

end

def granting : Sys ℤ :=
  { Sys.refusing 1 with
    socket := fun _ _ next => (.ok next, next + 1)
    close := fun _ next => (.ok (), next)
    ioctl := fun _ _ next => (.ok (), next)
    connect := fun _ _ _ next => (.ok (), next) }

/-- Two streams; the second gets its mode changed, and is moved onto the first. -/
def toggled : List Activity :=
  let address : SocketAddress := ⟨.v4 (.ofOctets 127 0 0 1), 80⟩
  [.own (.create 0 (.connectNonBlocking address 1)), .own (.create 1 (.connect address 5000 1)),
    .call 1 (.setNonBlocking 4 true), .call 1 (.setNonBlocking 4 false), .own (.moveAssign 0 1)]

theorem toggled_modes_as_asked :
    ∃ m modes, workAllAsked granting.watched .posix true 1
        (start ⟨3, []⟩ 0, fun _ => none) toggled = some (m, modes) ∧
      uses m.os = [.opened 3, .mode 3 true, .on 3, .opened 4, .mode 4 true, .on 4, .mode 4 false,
        .mode 4 true, .mode 4 false, .closed 3] ∧
      modeOf (uses m.os) 4 = modes 0 := by
  obtain ⟨m, modes, ran, log, noted, there⟩ :
      ∃ m modes, workAllAsked granting.watched .posix true 1
        (start ⟨3, []⟩ 0, fun _ => none) toggled = some (m, modes) ∧
      events m.os = [.opened 3, .opened 4, .closed 3] ∧
      uses m.os = [.opened 3, .mode 3 true, .on 3, .opened 4, .mode 4 true, .on 4, .mode 4 false,
        .mode 4 true, .mode 4 false, .closed 3] ∧
      m.objects 0 = some (.stream ⟨4⟩) := ⟨_, _, rfl, rfl, rfl, rfl⟩
  have opening : Ledger.InOrder Ledger.Event.Opens
      ([] ++ [.opened (3 : SockFd)] ++ [.opened 4] ++ [.closed 3]) :=
    Ledger.inOrder_append.mpr ⟨Ledger.inOrder_append.mpr ⟨Ledger.inOrder_append.mpr
      ⟨Ledger.inOrder_nil _, fun _ => rfl⟩, fun _ => rfl⟩, nofun⟩
  have kernel : HandsOut (events m.os) := log ▸ ⟨opening, by decide⟩
  exact ⟨m, modes, ran, noted, modes_as_asked granting .posix true 1 ⟨3, []⟩ 0 toggled m modes ran
    kernel 0 _ there (by decide)⟩

end Process
end Qsox
