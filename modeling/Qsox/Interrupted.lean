import Qsox.TcpConnected
import Qsox.TcpStream

/-! Signals during a blocking connect of the POSIX build. An interrupted `connect` fails
with `EINTR` while the attempt goes on; what the repeated call says depends on
how far the attempt has got by then. -/

namespace Qsox.TcpConnect

open BaseSocket

namespace Attempt

def decided : Except ℤ Unit → Attempt
  | .ok () => .established
  | .error code => .failed code

/-- What an attempt does during a call that does not wait for it. -/
inductive Proceeds (outcome : Except ℤ Unit) : Attempt → Attempt → Prop
  | started : Proceeds outcome .idle .pending
  | waiting : Proceeds outcome .pending .pending
  | ended (a : Attempt) : Proceeds outcome a (decided outcome)

/-- What a call of `connect` says. A repeated call on an attempt that has failed gives
an error, and nothing is said about which. -/
inductive Calls (outcome : Except ℤ Unit) : Attempt → Except ℤ Unit → Attempt → Prop
  | waited : Calls outcome .idle outcome (decided outcome)
  | interrupted {a b : Attempt} (h : Proceeds outcome a b) :
      Calls outcome a (.error Qsox.Posix.eintr) b
  | already {b : Attempt} (h : Proceeds outcome .pending b) :
      Calls outcome .pending (.error Qsox.Posix.ealready) b
  | connected : Calls outcome .established (.error Qsox.Posix.eisconn) .established
  | again {code again : ℤ} (waits : again ≠ Qsox.Posix.eintr)
      (connected : again ≠ Qsox.Posix.eisconn) :
      Calls outcome (.failed code) (.error again) (.failed code)

def Towards (outcome : Except ℤ Unit) (a : Attempt) : Prop :=
  a = .idle ∨ a = .pending ∨ a = decided outcome

theorem Proceeds.towards {outcome : Except ℤ Unit} {a b : Attempt} (h : Proceeds outcome a b) :
    Towards outcome b := by
  cases h with
  | started => exact .inr (.inl rfl)
  | waiting => exact .inr (.inl rfl)
  | ended => exact .inr (.inr rfl)

theorem Calls.towards_of_interrupted {outcome : Except ℤ Unit} {a b : Attempt}
    (own : outcome ≠ .error Qsox.Posix.eintr)
    (h : Calls outcome a (.error Qsox.Posix.eintr) b) : Towards outcome b := by
  generalize said : (.error Qsox.Posix.eintr : Except ℤ Unit) = returned at h
  cases h with
  | waited => exact absurd said.symm own
  | interrupted h => exact h.towards
  | already h => exact h.towards
  | connected => cases said
  | again waits connected => exact absurd (Except.error.inj said).symm waits

end Attempt

open Attempt

/-- What is relied on: a new socket has no attempt, `connect` is as documented, signals
come to an end, and the codes `connect` has for repeated calls are no outcomes. -/
structure Interruptible {σ : Type} (k : Kernel σ) (attempt : σ → SockFd → Attempt)
    (signals : σ → ℕ) (address : SocketAddress) (outcome : Except ℤ Unit) : Prop where
  socket_idle : ∀ {w fd w'}, k.socket address.family .stream w = (.ok fd, w') →
    attempt w' fd = .idle
  connect_calls : ∀ fd w, Calls outcome (attempt w fd) (k.connect fd address w).1
    (attempt (k.connect fd address w).2 fd)
  signals_end : ∀ {fd w w'}, k.connect fd address w = (.error Qsox.Posix.eintr, w') →
    signals w' < signals w
  own : ∀ code, outcome = .error code → code ∉ [Qsox.Posix.eintr, Qsox.Posix.eisconn,
    Qsox.Posix.ealready, Qsox.Posix.einprogress]

section
variable {σ : Type} (k : Kernel σ) (fd : SockFd) (address : SocketAddress)

inductive Interrupts : σ → σ → Prop
  | none (w : σ) : Interrupts w w
  | signal {w w₁ w₂ : σ} (interrupted : k.connect fd address w = (.error Qsox.Posix.eintr, w₁))
      (rest : Interrupts w₁ w₂) : Interrupts w w₂

/-- The call after the last signal does not find the attempt pending; and if it finds
it failed, it says so. -/
def Settles (attempt : σ → SockFd → Attempt) (w : σ) : Prop :=
  ∀ w', Interrupts k fd address w w' →
    (k.connect fd address w').1 ≠ .error Qsox.Posix.eintr →
      attempt w' fd ≠ .pending ∧
        ∀ code again, attempt w' fd = .failed code → (k.connect fd address w').1 = .error again →
          Platform.posix.lastOsError again = Platform.posix.lastOsError code

end

def Posix.verdict : Except ℤ Unit → Except Error Unit
  | .ok () => .ok ()
  | .error code =>
    if code = Qsox.Posix.eisconn then .ok () else .error (Platform.posix.lastOsError code)

section
variable {σ : Type} {k : Kernel σ} {fd : SockFd} {address : SocketAddress} {os : Os σ} {w w₁ w₂ : σ}

theorem Posix.connectRound_interrupted
    (h : k.connect fd address os.world = (.error Qsox.Posix.eintr, w)) :
    connectRound k fd address false os = (none, ⟨w, Qsox.Posix.eintr,
      os.trace ++ [.connect (.error Qsox.Posix.eintr)]⟩) := by
  rw [connectRound, bind_of_eq (Os.connect_error h)]
  rfl

theorem Posix.connectRound_answered
    (h : (k.connect fd address os.world).1 ≠ .error Qsox.Posix.eintr) :
    (connectRound k fd address false os).1 =
      some (Posix.verdict (k.connect fd address os.world).1) := by
  cases answered : k.connect fd address os.world with
  | mk returned w =>
    cases returned with
    | ok a =>
      rw [connectRound, bind_of_eq (Os.connect_ok answered)]
      rfl
    | error code =>
      rw [answered] at h
      have waits : code ≠ Qsox.Posix.eintr := fun same => h (congrArg Except.error same)
      rw [connectRound, bind_of_eq (Os.connect_error answered)]
      have known : Os.getErrno (⟨w, code, os.trace ++ [.connect (.error code)]⟩ : Os σ) =
          (code, _) := rfl
      simp only []
      rw [bind_of_eq known, if_neg fun inProgress => Bool.false_ne_true inProgress.1,
        if_neg waits, Posix.verdict]
      split_ifs
      · rfl
      · rfl

theorem Posix.doConnect_interrupted {signals : σ → ℕ}
    (signals_end : ∀ {w w'}, k.connect fd address w = (.error Qsox.Posix.eintr, w') →
      signals w' < signals w) (os : Os σ) {rounds : ℕ} (enough : signals os.world < rounds) :
    ∃ w', Interrupts k fd address os.world w' ∧
      (k.connect fd address w').1 ≠ .error Qsox.Posix.eintr ∧
      (doConnect k fd address false rounds os).1 =
        some (Posix.verdict (k.connect fd address w').1) := by
  change ∃ w', _ ∧ _ ∧ (whileTrue (connectRound k fd address false) rounds os).1 = _
  induction rounds generalizing os with
  | zero => exact absurd enough (Nat.not_lt_zero _)
  | succ rounds ih =>
    by_cases interrupted : (k.connect fd address os.world).1 = .error Qsox.Posix.eintr
    · have signal : k.connect fd address os.world =
          (.error Qsox.Posix.eintr, (k.connect fd address os.world).2) := Prod.ext interrupted rfl
      have fewer := signals_end signal
      rw [whileTrue_of_none (connectRound_interrupted signal)]
      obtain ⟨w', interrupts, answered, returned⟩ :=
        ih ⟨_, _, _⟩ (lt_of_lt_of_le fewer (Nat.le_of_lt_succ enough))
      exact ⟨w', .signal signal interrupts, answered, returned⟩
    · refine ⟨os.world, .none _, interrupted, ?_⟩
      rw [whileTrue_of_some (Prod.ext (connectRound_answered interrupted) rfl)]

theorem Interrupts.unique (h₁ : Interrupts k fd address w w₁) (h₂ : Interrupts k fd address w w₂)
    (last₁ : (k.connect fd address w₁).1 ≠ .error Qsox.Posix.eintr)
    (last₂ : (k.connect fd address w₂).1 ≠ .error Qsox.Posix.eintr) : w₁ = w₂ := by
  induction h₁ with
  | none w =>
    cases h₂ with
    | none => rfl
    | signal interrupted rest => exact absurd (congrArg Prod.fst interrupted) last₁
  | signal interrupted rest ih =>
    cases h₂ with
    | none => exact absurd (congrArg Prod.fst interrupted) last₂
    | signal interrupted' rest' =>
      obtain ⟨-, rfl⟩ := Prod.mk.inj (interrupted.symm.trans interrupted')
      exact ih rest' last₁

end

section
variable {σ : Type} {k : Kernel σ} {attempt : σ → SockFd → Attempt} {signals : σ → ℕ}
  {address : SocketAddress} {outcome : Except ℤ Unit} {fd : SockFd} {w w' : σ}

theorem lastOsError_inProgress_iff {code : ℤ} :
    Platform.posix.lastOsError code = .ofCode .inProgress ↔
      code = Qsox.Posix.einprogress ∨ code = Qsox.Posix.ealready := by
  have named : ErrorCode.inProgress ≠ .other := nofun
  rw [Platform.lastOsError_eq_ofCode_iff named]
  simp [Platform.codes, Qsox.Posix.codes]

variable (law : Interruptible k attempt signals address outcome)
include law

theorem Interruptible.towards (h : Interrupts k fd address w w')
    (start : Towards outcome (attempt w fd)) : Towards outcome (attempt w' fd) := by
  induction h with
  | none w => exact start
  | @signal w _ _ interrupted rest ih =>
    refine ih ?_
    have called := law.connect_calls fd w
    rw [interrupted] at called
    refine called.towards_of_interrupted fun same => ?_
    exact law.own _ same (by simp)

theorem Interruptible.verdict_eq_iff (towards : Towards outcome (attempt w fd))
    (last : (k.connect fd address w).1 ≠ .error Qsox.Posix.eintr) :
    Posix.verdict (k.connect fd address w).1 =
        outcome.mapError Platform.posix.lastOsError ↔
      attempt w fd ≠ .pending ∧
        ∀ code again, attempt w fd = .failed code → (k.connect fd address w).1 = .error again →
          Platform.posix.lastOsError again = Platform.posix.lastOsError code := by
  have called := law.connect_calls fd w
  have own := law.own
  generalize attempt w fd = before, (k.connect fd address w).1 = said at *
  generalize attempt (k.connect fd address w).2 fd = after at called
  cases called with
  | waited =>
    refine iff_of_true ?_ ⟨nofun, nofun⟩
    cases outcome with
    | ok a => rfl
    | error code =>
      have other : code ≠ Qsox.Posix.eisconn := fun same => own code rfl (by simp [same])
      exact if_neg other
  | interrupted h => exact absurd rfl last
  | already h =>
    refine iff_of_false (fun same => ?_) fun settled => settled.1 rfl
    cases outcome with
    | ok a => cases same
    | error code =>
      -- an outcome of its own has another name than `EALREADY`
      have named : Platform.posix.lastOsError code = .ofCode .inProgress :=
        (Except.error.inj same).symm
      rcases lastOsError_inProgress_iff.mp named with inProgress | already
      · exact own code rfl (by simp [inProgress])
      · exact own code rfl (by simp [already])
  | connected =>
    refine iff_of_true ?_ ⟨nofun, nofun⟩
    cases outcome with
    | ok a => rfl
    | error code => rcases towards with h | h | h <;> cases h
  | @again code again waits connected =>
    cases outcome with
    | ok a => rcases towards with h | h | h <;> cases h
    | error outcome =>
      have same : code = outcome := by rcases towards with h | h | h <;> cases h; rfl
      subst same
      have verdict : Posix.verdict (.error again) = .error (Platform.posix.lastOsError again) :=
        if_neg connected
      rw [verdict]
      constructor
      · intro same
        refine ⟨nofun, ?_⟩
        rintro _ _ ⟨⟩ ⟨⟩
        exact Except.error.inj same
      · intro settled
        exact congrArg Except.error (settled.2 code again rfl rfl)

end

section
variable {σ : Type} {sys : Sys σ} {address : SocketAddress} {os : Os σ} {fd : SockFd} {w : σ}

theorem map_const_inj {α : Type} {a : α} {x y : Except Error Unit} :
    (x.map fun _ => a) = (y.map fun _ => a) ↔ x = y := by
  cases x with
  | ok u =>
    cases y with
    | ok v => exact iff_of_true rfl rfl
    | error e => exact iff_of_false nofun nofun
  | error e =>
    cases y with
    | ok v => exact iff_of_false nofun nofun
    | error e' => simp [Except.map]

theorem connect_returns {rounds : ℕ} {result : Except Error Unit}
    (made : sys.socket address.family .stream os.world = (.ok fd, w))
    (connected : (Posix.doConnect sys.kernel fd address false rounds
      ⟨w, sys.kernel.errnoLeft w, os.trace⟩).1 = some result) :
    (TcpStream.connect sys .posix address 0 rounds os).1 =
      some (result.map fun _ => ⟨fd⟩) := by
  have created : newSocket sys.kernel .posix address.family .stream os = _ := newSocket_ok rfl made
  have internal : (connectInternal sys.kernel .posix address false 0 rounds os).1 =
      some (result.map fun _ => fd) := by
    rw [connectInternal, bind_of_eq created]
    have established : establish sys.kernel .posix fd address false 0 rounds =
        Posix.doConnect sys.kernel fd address false rounds := by
      unfold establish
      exact if_neg (by decide)
    simp only []
    rw [established, bind_of_eq (Prod.ext connected rfl)]
    cases result with
    | ok a => rfl
    | error e => rfl
  have outer : (TcpStream.connect sys .posix address 0 rounds os).1 =
    (connectInternal sys.kernel .posix address false 0 rounds os).1.map
      fun made => made.map TcpStream.mk := rfl
  rw [outer, internal]
  cases result with
  | ok a => rfl
  | error e => rfl

end

/-- Signals do not change the outcome exactly if the call after the last of them finds
the attempt decided, or there was no signal. -/
theorem connect_interrupted_iff {σ : Type} (sys : Sys σ) (attempt : σ → SockFd → Attempt)
    (signals : σ → ℕ) (address : SocketAddress) (outcome : Except ℤ Unit)
    (law : Interruptible sys.kernel attempt signals address outcome) (os : Os σ) (fd : SockFd)
    (w : σ) (made : sys.socket address.family .stream os.world = (.ok fd, w)) (rounds : ℕ)
    (enough : signals w < rounds) :
    (TcpStream.connect sys .posix address 0 rounds os).1 =
        some ((outcome.mapError Platform.posix.lastOsError).map fun _ => ⟨fd⟩) ↔
      Settles sys.kernel fd address attempt w := by
  obtain ⟨w', interrupts, last, returned⟩ :=
    Posix.doConnect_interrupted law.signals_end ⟨w, sys.kernel.errnoLeft w, os.trace⟩ enough
  have start : Towards outcome (attempt w fd) := .inl (law.socket_idle made)
  have settles : Settles sys.kernel fd address attempt w ↔
      attempt w' fd ≠ .pending ∧ ∀ code again, attempt w' fd = .failed code →
        (sys.kernel.connect fd address w').1 = .error again →
          Platform.posix.lastOsError again = Platform.posix.lastOsError code := by
    constructor
    · intro settles
      exact settles w' interrupts last
    · intro settled w'' interrupts' last'
      obtain rfl := interrupts.unique interrupts' last last'
      exact settled
  rw [settles, ← law.verdict_eq_iff (law.towards interrupts start) last,
    connect_returns made returned, Option.some.injEq]
  exact map_const_inj

/-- A socket on the way to its outcome; each signal to come tells whether the attempt is
decided when the call is repeated. -/
structure Line where
  tried : Bool
  decided : Bool
  signals : List Bool

namespace Line

def attempt (outcome : Except ℤ Unit) (w : Line) : Attempt :=
  if w.decided then Attempt.decided outcome else if w.tried then .pending else .idle

def connect (outcome : Except ℤ Unit) : Line → Except ℤ Unit × Line
  | ⟨_, decided, soon :: signals⟩ =>
    (.error Qsox.Posix.eintr, ⟨true, decided || soon, signals⟩)
  | ⟨tried, true, []⟩ =>
    (match outcome with
      | .ok () => .error Qsox.Posix.eisconn
      | .error code => .error code, ⟨tried, true, []⟩)
  | ⟨true, false, []⟩ => (.error Qsox.Posix.ealready, ⟨true, false, []⟩)
  | ⟨false, false, []⟩ => (outcome, ⟨true, true, []⟩)

def sys (outcome : Except ℤ Unit) : Sys Line where
  __ := Sys.refusing Qsox.Posix.ebadf
  socket _ _ w := (.ok 3, ⟨false, false, w.signals⟩)
  close _ w := (.ok (), w)
  connect _ _ _ w := w.connect outcome

theorem interruptible (outcome : Except ℤ Unit) (address : SocketAddress)
    (own : ∀ code, outcome = .error code → code ∉ [Qsox.Posix.eintr, Qsox.Posix.eisconn,
      Qsox.Posix.ealready, Qsox.Posix.einprogress]) :
    Interruptible (sys outcome).kernel (fun w _ => w.attempt outcome)
      (fun w => w.signals.length) address outcome where
  socket_idle := by
    rintro w fd w' ⟨⟩
    rfl
  connect_calls fd w := by
    change Calls outcome (w.attempt outcome) (w.connect outcome).1
      ((w.connect outcome).2.attempt outcome)
    obtain ⟨tried, decided, signals⟩ := w
    cases signals with
    | cons soon signals =>
      refine .interrupted ?_
      cases decided with
      | true => exact .ended _
      | false =>
        cases soon with
        | true => exact .ended _
        | false =>
          cases tried with
          | true => exact .waiting
          | false => exact .started
    | nil =>
      cases decided with
      | true =>
        cases outcome with
        | ok a => exact .connected
        | error code =>
          have other := own code rfl
          simp only [List.mem_cons, not_or] at other
          exact .again other.1 other.2.1
      | false =>
        cases tried with
        | true => exact .already .waiting
        | false => exact .waited
  signals_end := by
    rintro fd ⟨tried, decided, signals⟩ w' called
    cases signals with
    | cons soon signals =>
      cases called
      exact Nat.lt_succ_self _
    | nil =>
      cases decided with
      | true =>
        cases outcome with
        | ok a => cases called
        | error code =>
          have same : code = Qsox.Posix.eintr := Except.error.inj (congrArg Prod.fst called)
          exact absurd (by simp [same]) (own code rfl)
      | false =>
        cases tried with
        | true => cases called
        | false =>
          have same : outcome = .error Qsox.Posix.eintr := congrArg Prod.fst called
          exact absurd (by simp) (own _ same)
  own := own

end Line

theorem signal_before_connection_kept :
    (TcpStream.connect (Line.sys (.ok ())) .posix localhost 0 2
        ⟨⟨false, false, [true]⟩, 0, []⟩).1 = some (.ok ⟨3⟩) ∧
      Settles (Line.sys (.ok ())).kernel 3 localhost (fun w _ => w.attempt (.ok ()))
        ⟨false, false, [true]⟩ :=
  ⟨rfl, (connect_interrupted_iff (Line.sys (.ok ())) _ _ localhost (.ok ())
    (Line.interruptible (.ok ()) localhost nofun) ⟨⟨false, false, [true]⟩, 0, []⟩ 3
    ⟨false, false, [true]⟩ rfl 2 (by decide)).mp rfl⟩

/-- One signal while the attempt is pending: `EALREADY` is returned as `InProgress`,
though without the signal the attempt is established. -/
theorem signal_loses_connection :
    Interruptible (Line.sys (.ok ())).kernel (fun w _ => w.attempt (.ok ()))
        (fun w => w.signals.length) localhost (.ok ()) ∧
      (TcpStream.connect (Line.sys (.ok ())) .posix localhost 0 2
        ⟨⟨false, false, []⟩, 0, []⟩).1 = some (.ok ⟨3⟩) ∧
      (TcpStream.connect (Line.sys (.ok ())) .posix localhost 0 2
        ⟨⟨false, false, [false]⟩, 0, []⟩).1 = some (.error (.ofCode .inProgress)) :=
  ⟨Line.interruptible (.ok ()) localhost nofun, rfl, rfl⟩

end Qsox.TcpConnect
