import Qsox.Deadline
import Qsox.Operation

/-! The loops come to an end. Those of the POSIX build have no bound of their own: they
begin again after every signal, and the wait for a connection also when `poll` says that
its time is over, until the clock says so too. -/

namespace Qsox

open Resolver (SockAddr)

/-- The signals that are still to come become fewer by those that interrupt a call. -/
def Spends {σ α : Type} (signals : σ → ℕ) (call : σ → Except ℤ α × σ) : Prop :=
  ∀ w, signals (call w).2 ≤ signals w ∧
    ((call w).1 = .error Posix.eintr → signals (call w).2 < signals w)

/-- What is relied on: signals come to an end, the clock does not go back, and `poll` waits
for the time it is given. -/
structure Settling {σ : Type} (sys : Sys σ) (signals : σ → ℕ) (clock : σ → ℤ) : Prop where
  socket : ∀ family type, Spends signals (sys.socket family type)
  ioctl : ∀ fd nonBlocking, Spends signals (sys.ioctl fd nonBlocking)
  connect : ∀ fd storage size, Spends signals (sys.connect fd storage size)
  send : ∀ fd data, Spends signals (sys.send fd data)
  recv : ∀ fd size peek, Spends signals (sys.recv fd size peek)
  poll : ∀ fd events timeout, Spends signals fun w =>
    ((sys.poll fd events timeout w).1.1, (sys.poll fd events timeout w).2)
  now : ∀ w, signals (sys.now w).2 ≤ signals w
  reads : ∀ w, clock w ≤ (sys.now w).1 ∧ (sys.now w).1 ≤ clock (sys.now w).2
  passes : ∀ fd events timeout w, clock w ≤ clock (sys.poll fd events timeout w).2
  waits : ∀ fd events timeout w, (sys.poll fd events timeout w).1.1 = .ok none →
    clock w + timeout.toInt * 1000000 ≤ clock (sys.poll fd events timeout w).2

def Within {σ : Type} (signals : σ → ℕ) (work rank : ℕ) (os : Os σ) : Prop :=
  work + signals os.world ≤ rank

/-- After an interrupted call there is room for one round less. -/
def Spent {σ α : Type} (p : Platform) (signals : σ → ℕ) (work rank : ℕ) (returned : Except Error α)
    (os : Os σ) : Prop :=
  Within signals work (rank + 1) os ∧
    ∀ err, returned = .error err → TcpStream.retries p err = true → Within signals work rank os

section
variable {σ : Type} {sys : Sys σ} {p : Platform} {signals : σ → ℕ} {clock : σ → ℤ} {work rank : ℕ}

theorem Spent.error {α β : Type} {err : Error} {os : Os σ}
    (spent : Spent p signals work rank (.error err : Except Error α) os) :
    Spent p signals work rank (.error err : Except Error β) os := by
  refine ⟨spent.1, ?_⟩
  rintro _ ⟨⟩
  exact spent.2 err rfl

theorem Spends.less {α : Type} {f : σ → Except ℤ α × σ} (spends : Spends signals f) {w w' : σ}
    {returned : Except ℤ α} (h : f w = (returned, w')) : signals w' ≤ signals w := by
  have less := (spends w).1
  rwa [h] at less

theorem Spends.fewer {α : Type} {f : σ → Except ℤ α × σ} (spends : Spends signals f) {w w' : σ}
    (h : f w = (.error Posix.eintr, w')) : signals w' < signals w := by
  have fewer := (spends w).2
  rw [h] at fewer
  exact fewer rfl

theorem Spends.answering {α β : Type} {f : σ → Except ℤ α × σ} (spends : Spends signals f)
    (g : α → β) : Spends signals (Sys.answering g f) := by
  intro w
  refine ⟨(spends w).1, fun interrupted => (spends w).2 ?_⟩
  cases answered : (f w).1 with
  | ok a =>
    rw [Sys.answering, answered] at interrupted
    cases interrupted
  | error code =>
    rw [Sys.answering, answered] at interrupted
    exact congrArg Except.error (Except.error.inj interrupted)

theorem Settling.called (settling : Settling sys signals clock) (p : Platform) :
    Settling (sys.called p) signals clock := by
  cases p with
  | posix => exact settling
  | windows =>
    exact { settling with
      send := fun _ _ => (settling.send _ _).answering _
      recv := fun _ _ _ => (settling.recv _ _ _).answering _ }

theorem mapResult_spends {α : Type} {f : σ → Except ℤ α × σ} (spends : Spends signals f) :
    Ensures (Within signals work (rank + 1)) (mapResult sys p f) (Spent p signals work rank) := by
  intro os within
  cases answered : f os.world with
  | mk returned w =>
    cases returned with
    | ok a =>
      rw [mapResult_ok answered]
      exact ⟨(Nat.add_le_add_left (spends.less answered) _).trans within, nofun⟩
    | error code =>
      rw [mapResult_error answered]
      refine ⟨(Nat.add_le_add_left (spends.less answered) _).trans within, ?_⟩
      rintro _ ⟨⟩ retried
      simp only [TcpStream.retries, decide_eq_true_eq] at retried
      obtain ⟨rfl, interrupted⟩ := retried
      obtain rfl := (Platform.isOsError_and_osCode_iff code).mp interrupted
      have fewer := spends.fewer answered
      simp only [Within] at within ⊢
      omega

namespace TcpStream

variable (settling : Settling sys signals clock) {stream : TcpStream}
include settling

omit settling in
theorem spent_closed {α : Type} {os : Os σ} (within : Within signals work (rank + 1) os) :
    Spent p signals work rank (.error (.ofCode .connectionClosed) : Except Error α) os := by
  refine ⟨within, ?_⟩
  rintro _ ⟨⟩ retried
  simp [retries, Error.isOsError, Error.ofCode] at retried

theorem send_spends (data : List UInt8) :
    Ensures (Within signals work (rank + 1)) (send sys p stream data)
      (Spent p signals work rank) := by
  have spends := (settling.called p).send stream.fd data
  refine Ensures.bind _ (mapResult_spends spends) fun returned => ?_
  cases returned with
  | error err => exact Ensures.pure fun os spent => spent.error
  | ok sent =>
    refine Ensures.ite (fun _ => ?_) fun _ => ?_
    · exact Ensures.pure fun os spent => spent_closed spent.1
    · exact Ensures.pure fun os spent => ⟨spent.1, nofun⟩

theorem receive_spends (size : ℕ) :
    Ensures (Within signals work (rank + 1)) (receive sys p stream size)
      (Spent p signals work rank) := by
  have spends := (settling.called p).recv stream.fd size false
  refine Ensures.bind _ (mapResult_spends spends) fun returned => ?_
  cases returned with
  | error err => exact Ensures.pure fun os spent => spent.error
  | ok bytes =>
    refine Ensures.ite (fun _ => ?_) fun _ => ?_
    · exact Ensures.pure fun os spent => spent_closed spent.1
    · exact Ensures.pure fun os spent => ⟨spent.1, nofun⟩

omit settling in
theorem within_drop {os : Os σ} {left : ℕ} (within : Within signals work (rank + 1) os)
    (less : left < work) : Within signals left rank os := by
  simp only [Within] at within ⊢
  omega

theorem sendAll_returns (data : List UInt8) :
    Terminates (Within signals data.length rank) (rank + 1) (sendAll sys p stream data) := by
  refine Terminates.passes (I := fun rest => Within signals rest.length) (fun rest rank => ?_)
    data rank
  refine Ensures.ite (fun _ => Ensures.pure fun os within => nofun) fun some_left => ?_
  have some_bytes := List.length_pos_iff.mpr some_left
  cases rank with
  | zero =>
    refine Ensures.absurd fun os within => ?_
    simp only [Within] at within
    omega
  | succ rank =>
    refine Ensures.bind _ (send_spends settling rest) fun returned => ?_
    cases returned with
    | error err =>
      refine Ensures.ite (fun retried => Ensures.pure fun os spent => ?_) fun _ => ?_
      · rintro next ⟨⟩
        exact ⟨rank, Nat.lt_succ_self rank, spent.2 err rfl retried⟩
      · exact Ensures.pure fun os spent => nofun
    | ok sent =>
      refine Ensures.ite (fun _ => Ensures.pure fun os spent => nofun) fun progress => ?_
      refine Ensures.pure fun os spent => ?_
      rintro next ⟨⟩
      refine ⟨rank, Nat.lt_succ_self rank, within_drop spent.1 ?_⟩
      rw [List.length_drop]
      omega

theorem receiveExact_returns (remaining : ℕ) (filled : List UInt8) :
    Terminates (Within signals remaining rank) (rank + 1)
      (receiveExact sys p stream remaining filled) := by
  refine Terminates.passes (I := fun cursor => Within signals cursor.1) (fun cursor rank => ?_)
    (remaining, filled) rank
  refine Ensures.ite (fun _ => Ensures.pure fun os within => nofun) fun some_left => ?_
  cases rank with
  | zero =>
    refine Ensures.absurd fun os within => ?_
    simp only [Within] at within
    omega
  | succ rank =>
    refine Ensures.bind _ (receive_spends settling cursor.1) fun returned => ?_
    cases returned with
    | error err =>
      refine Ensures.ite (fun retried => Ensures.pure fun os spent => ?_) fun _ => ?_
      · rintro next ⟨⟩
        exact ⟨rank, Nat.lt_succ_self rank, spent.2 err rfl retried⟩
      · exact Ensures.pure fun os spent => nofun
    | ok received =>
      refine Ensures.ite (fun _ => Ensures.pure fun os spent => nofun) fun progress => ?_
      refine Ensures.pure fun os spent => ?_
      rintro next ⟨⟩
      have some_bytes := List.length_pos_iff.mpr progress
      exact ⟨rank, Nat.lt_succ_self rank, within_drop spent.1 (by simp only; omega)⟩

end TcpStream

namespace TcpConnect.Posix

open BaseSocket

variable (settling : Settling sys signals clock) {fd : SockFd} {address : SocketAddress}
include settling

theorem connectRound_spends (nonBlocking : Bool) :
    Ensures (Within signals 0 rank) (connectRound sys.kernel fd address nonBlocking)
      fun out os => out = none → ∃ lower < rank, Within signals 0 lower os := by
  refine Ensures.bind (fun returned os => returned = none → os.errno = Qsox.Posix.eintr →
    ∃ lower < rank, Within signals 0 lower os) ?_ fun returned => ?_
  · refine Os.connect_ensures (fun _ _ _ _ => nofun) ?_
    rintro os _ w within answered - rfl
    have fewer := (settling.connect fd _ _).fewer answered
    simp only [Within] at within ⊢
    exact ⟨rank - 1, by omega, by omega⟩
  cases returned with
  | some a => exact Ensures.pure fun _ _ => nofun
  | none =>
    refine Ensures.bind _ Os.getErrno_ensures fun errno => ?_
    refine Ensures.ite (fun _ => Ensures.pure fun _ _ => nofun) fun _ => ?_
    refine Ensures.ite (fun interrupted => ?_) fun _ => ?_
    · exact Ensures.pure fun os known _ => known.1 rfl (known.2.trans interrupted)
    refine Ensures.ite (fun _ => Ensures.pure fun _ _ => nofun) fun _ => ?_
    exact Ensures.bind _ Os.lastOsError_ensures fun _ => Ensures.pure fun _ _ => nofun

theorem setNonBlocking_within {p : Platform} (nonBlocking : Bool) :
    Ensures (Within signals 0 rank) (setNonBlocking sys.kernel p fd nonBlocking)
      fun _ => Within signals 0 rank := by
  refine setNonBlocking_ensures ?_ ?_
  · intro os w within answered
    exact (Nat.add_le_add_left ((settling.ioctl fd nonBlocking).less answered) _).trans within
  · intro os code w within answered
    exact (Nat.add_le_add_left ((settling.ioctl fd nonBlocking).less answered) _).trans within

theorem doConnect_returns (nonBlocking : Bool) :
    Terminates (Within signals 0 rank) (rank + 1) (doConnect sys.kernel fd address nonBlocking) := by
  have loop : Terminates (Within signals 0 rank) (rank + 1)
      (whileTrue (connectRound sys.kernel fd address nonBlocking)) :=
    Terminates.whileTrue (fun rank => connectRound_spends settling nonBlocking) rank
  refine Terminates.ite (fun _ => ?_) fun _ => loop
  refine Terminates.bind _ (setNonBlocking_within settling true) fun set => ?_
  cases set with
  | error e => exact Terminates.once (Ensures.pure fun _ _ => Option.some_ne_none _)
  | ok a => exact loop

def Late (clock : σ → ℤ) (start : ℤ) (timeoutMs : Int32) (os : Os σ) : Prop :=
  start + timeoutMs.toInt * 1000000 ≤ clock os.world

/-- What is left of the wait: the signals, and one round more until time is over. -/
def Waiting (signals : σ → ℕ) (clock : σ → ℤ) (start : ℤ) (timeoutMs : Int32) (rank : ℕ)
    (os : Os σ) : Prop :=
  start ≤ clock os.world ∧
    (signals os.world < rank ∨ Late clock start timeoutMs os ∧ signals os.world ≤ rank)

omit settling in
theorem elapsedMs_bounds {start reading : ℤ} (forward : start ≤ reading) :
    0 ≤ elapsedMs start reading ∧ elapsedMs start reading * 1000000 ≤ reading - start ∧
      reading - start < (elapsedMs start reading + 1) * 1000000 := by
  rw [elapsedMs, Int.tdiv_eq_ediv_of_nonneg (by omega)]
  omega

theorem poll_interrupted {timeout : Int32} {waited : ℤ} {w w' : σ}
    (answered : sys.kernel.poll fd ⟨false, true⟩ timeout w =
      ((.error Qsox.Posix.eintr, waited), w')) :
    signals w' < signals w ∧ clock w ≤ clock w' := by
  have polled : (sys.poll fd ⟨false, true⟩ timeout w).2 = w' := congrArg Prod.snd answered
  have mapped : (sys.poll fd ⟨false, true⟩ timeout w).1.1.map _ = .error Qsox.Posix.eintr :=
    congrArg (fun out => out.1.1) answered
  have interrupted : (sys.poll fd ⟨false, true⟩ timeout w).1.1 = .error Qsox.Posix.eintr := by
    cases returned : (sys.poll fd ⟨false, true⟩ timeout w).1.1 with
    | ok found => rw [returned] at mapped; cases mapped
    | error code => rw [returned] at mapped; cases mapped; rfl
  rw [← polled]
  exact ⟨((settling.poll fd _ timeout) w).2 interrupted, settling.passes fd _ timeout w⟩

theorem poll_timedOut {timeout : Int32} {waited : ℤ} {w w' : σ}
    (answered : sys.kernel.poll fd ⟨false, true⟩ timeout w = ((.ok none, waited), w')) :
    signals w' ≤ signals w ∧ clock w ≤ clock w' ∧
      clock w + timeout.toInt * 1000000 ≤ clock w' := by
  have polled : (sys.poll fd ⟨false, true⟩ timeout w).2 = w' := congrArg Prod.snd answered
  have mapped : (sys.poll fd ⟨false, true⟩ timeout w).1.1.map _ = .ok none :=
    congrArg (fun out => out.1.1) answered
  have timed : (sys.poll fd ⟨false, true⟩ timeout w).1.1 = .ok none := by
    cases returned : (sys.poll fd ⟨false, true⟩ timeout w).1.1 with
    | ok found =>
      rw [returned] at mapped
      cases found with
      | none => rfl
      | some revents => cases mapped
    | error code => rw [returned] at mapped; cases mapped
  rw [← polled]
  exact ⟨((settling.poll fd _ timeout) w).1, settling.passes fd _ timeout w,
    settling.waits fd _ timeout w timed⟩

theorem pollRound_waits {start : ℤ} {timeoutMs : Int32} :
    Ensures (Waiting signals clock start timeoutMs rank)
      (pollRound sys.kernel fd timeoutMs start)
      fun out os =>
        out = none → ∃ lower < rank, Waiting signals clock start timeoutMs lower os := by
  refine Ensures.bind (fun reading os => start ≤ reading ∧ reading ≤ clock os.world ∧
    (reading - start < timeoutMs.toInt * 1000000 → signals os.world < rank)) ?_ fun reading => ?_
  · refine Os.now_ensures ?_
    rintro os reading w ⟨forward, left⟩ answered
    obtain ⟨after, before⟩ := settling.reads os.world
    have fewer := settling.now os.world
    rw [show sys.now os.world = (reading, w) from answered] at after before fewer
    simp only [Late] at left
    refine ⟨forward.trans after, before, fun early => ?_⟩
    simp only at fewer after ⊢
    omega
  refine Ensures.ite (fun _ => Ensures.pure fun _ _ => nofun) fun early => ?_
  refine Ensures.bind (fun returned os =>
    (returned = some none ∨ returned = none ∧ os.errno = Qsox.Posix.eintr) →
      ∃ lower < rank, Waiting signals clock start timeoutMs lower os) ?_ fun returned => ?_
  · refine Os.poll_ensures ?_ ?_
    · rintro os found waited w ⟨forward, before, room⟩ answered (⟨⟨⟩⟩ | ⟨⟨⟩, -⟩)
      obtain ⟨fewer, passes, waits⟩ := poll_timedOut settling answered
      obtain ⟨nonneg, below, above⟩ := elapsedMs_bounds forward
      have top := timeoutMs.toInt_lt
      -- what is left of the timeout is an `int`, so the clock has passed it
      rw [toInt_rest (by omega) (by omega)] at waits
      have late : start + timeoutMs.toInt * 1000000 ≤ clock w := by omega
      have some_round := room (by omega)
      exact ⟨rank - 1, by omega, by simp only []; omega, .inr ⟨late, by simp only []; omega⟩⟩
    · rintro os code waited w ⟨forward, before, room⟩ answered (⟨⟨⟩⟩ | ⟨-, rfl⟩)
      obtain ⟨fewer, passes⟩ := poll_interrupted settling answered
      obtain ⟨nonneg, below, above⟩ := elapsedMs_bounds forward
      have some_round := room (by omega)
      exact ⟨rank - 1, by omega, by simp only []; omega, .inl (by simp only []; omega)⟩
  cases returned with
  | none =>
    refine Ensures.bind _ Os.getErrno_ensures fun errno => ?_
    refine Ensures.ite (fun _ => ?_) fun interrupted => ?_
    · exact Ensures.bind _ Os.lastOsError_ensures fun _ => Ensures.pure fun _ _ => nofun
    · refine Ensures.pure fun os known _ => known.1 (.inr ⟨rfl, ?_⟩)
      rw [known.2]
      exact Decidable.not_not.mp interrupted
  | some found =>
    cases found with
    | none => exact Ensures.pure fun os known _ => known (.inl rfl)
    | some revents =>
      refine Ensures.ite (fun _ => ?_) fun _ => Ensures.pure fun _ _ => nofun
      exact Ensures.bind (fun _ _ => True) (Ensures.of_value fun _ _ => trivial) fun _ =>
        Ensures.pure fun _ _ => nofun

theorem doConnectTimeout_returns (timeoutMs : Int32) :
    Terminates (Within signals 0 rank) (rank + 2)
      (doConnectTimeout sys.kernel fd address timeoutMs) := by
  refine Terminates.ite (fun _ => ?_) fun _ => ?_
  · exact (doConnect_returns settling false).more (by omega)
  refine Terminates.bind _ (setNonBlocking_within settling true) fun set => ?_
  cases set with
  | error e => exact Terminates.once (Ensures.pure fun _ _ => Option.some_ne_none _)
  | ok a =>
  refine Terminates.bind (fun _ => Within signals 0 rank) ?_ fun cres => ?_
  · refine Os.connect_ensures ?_ ?_
    · intro os w within answered
      exact (Nat.add_le_add_left ((settling.connect fd _ _).less answered) _).trans within
    · intro os code w within answered
      exact (Nat.add_le_add_left ((settling.connect fd _ _).less answered) _).trans within
  refine Terminates.bind _ (setNonBlocking_within settling false) fun set => ?_
  cases set with
  | error e => exact Terminates.once (Ensures.pure fun _ _ => Option.some_ne_none _)
  | ok a =>
  cases cres with
  | some a => exact Terminates.once (Ensures.pure fun _ _ => Option.some_ne_none _)
  | none =>
    refine Terminates.bind (fun _ => Within signals 0 rank) (fun _ within => within) fun errno => ?_
    refine Terminates.ite (fun _ => ?_) fun _ => ?_
    · refine Terminates.bind (fun start => Waiting signals clock start timeoutMs (rank + 1)) ?_
        fun start => Terminates.whileTrue (fun rank => pollRound_waits settling) (rank + 1)
      refine Os.now_ensures fun os reading w within answered => ?_
      have before := (settling.reads os.world).2
      have fewer := settling.now os.world
      rw [show sys.now os.world = (reading, w) from answered] at before fewer
      simp only [Within] at within before fewer
      exact ⟨before, .inl (by simp only []; omega)⟩
    · exact Terminates.bind (fun _ _ => True) (Ensures.of_value fun _ _ => trivial) fun err =>
        Terminates.once (Ensures.pure fun _ _ => Option.some_ne_none _)

end TcpConnect.Posix

namespace TcpConnect

open BaseSocket

variable (settling : Settling sys signals clock)
include settling

theorem newSocket_within {family : Family} {type : SockType} :
    Ensures (Within signals 0 rank) (newSocket sys.kernel p family type)
      fun _ => Within signals 0 rank := by
  refine newSocket_ensures ?_ (fun os e within _ => within) ?_
  · intro os fd w within _ answered
    exact (Nat.add_le_add_left ((settling.socket family type).less answered) _).trans within
  · intro os code w within answered
    exact (Nat.add_le_add_left ((settling.socket family type).less answered) _).trans within

theorem establish_returns {fd : SockFd} {address : SocketAddress} (nonBlocking : Bool)
    (timeoutMs : Int32) :
    Terminates (Within signals 0 rank) (rank + 2)
      (establish sys.kernel p fd address nonBlocking timeoutMs) := by
  cases p with
  | posix =>
    refine Terminates.ite (fun _ => Posix.doConnectTimeout_returns settling timeoutMs) fun _ => ?_
    exact (Posix.doConnect_returns settling nonBlocking).more (by omega)
  | windows =>
    refine Terminates.ite (fun _ => ?_) fun _ => ?_
    · exact Terminates.once fun _ _ => Option.some_ne_none _
    · exact Terminates.once fun _ _ => Option.some_ne_none _

theorem connectInternal_returns (address : SocketAddress) (nonBlocking : Bool)
    (timeoutMs : Int32) :
    Terminates (Within signals 0 rank) (rank + 2)
      (connectInternal sys.kernel p address nonBlocking timeoutMs) := by
  refine Terminates.bind _ (newSocket_within settling) fun made => ?_
  cases made with
  | error e => exact Terminates.once (Ensures.pure fun _ _ => Option.some_ne_none _)
  | ok fd =>
    refine (establish_returns settling nonBlocking timeoutMs).followed fun returned => ?_
    cases returned with
    | ok a => exact Always.pure (Option.some_ne_none _)
    | error e => exact Always.rest fun _ => Always.pure (Option.some_ne_none _)

end TcpConnect

theorem Platform.eintr_of_osCode {code : ℤ}
    (same : (posix.lastOsError code).osCode = Qsox.Posix.eintr) : code = Qsox.Posix.eintr := by
  unfold lastOsError at same
  cases h : posix.codes.lookup code with
  | none =>
    rw [h] at same
    exact same
  | some named =>
    rw [h] at same
    cases same

theorem Poll.Posix.pollRound_spends (settling : Settling sys signals clock) (fd : SockFd)
    (poll : PollType) (timeoutMs : Int32) :
    Ensures (Within signals 0 rank) (Poll.Posix.pollRound sys fd poll timeoutMs)
      fun out os => out = none → ∃ lower < rank, Within signals 0 lower os := by
  refine Ensures.bind (fun returned os => returned = none → os.errno = Qsox.Posix.eintr →
    ∃ lower < rank, Within signals 0 lower os) ?_ fun returned => ?_
  · refine Os.call_ensures (fun _ _ _ _ _ => nofun) ?_
    rintro os _ w within answered - rfl
    have fewer := (settling.poll fd _ timeoutMs).fewer answered
    simp only [Within] at within ⊢
    exact ⟨rank - 1, by omega, by omega⟩
  cases returned with
  | none =>
    refine Ensures.bind _ Os.lastOsError_ensures fun err => ?_
    refine Ensures.ite (fun interrupted => ?_) fun _ => Ensures.pure fun _ _ => nofun
    refine Ensures.pure fun os known _ => known.1 rfl ?_
    rw [← known.2] at interrupted
    exact Platform.eintr_of_osCode interrupted
  | some found =>
    cases found with
    | none => exact Ensures.pure fun _ _ => nofun
    | some revents =>
      refine Ensures.ite (fun _ => ?_) fun _ => ?_
      · exact Ensures.bind (fun _ _ => True) (Ensures.of_value fun _ _ => trivial) fun _ =>
          Ensures.pure fun _ _ => nofun
      · exact Ensures.bind (fun _ _ => True) (Ensures.of_value fun _ _ => trivial) fun _ =>
          Ensures.pure fun _ _ => nofun

theorem Poll.pollOne_returns (settling : Settling sys signals clock) (fd : SockFd) (poll : PollType)
    (timeoutMs : Int32) :
    Terminates (Within signals 0 rank) (rank + 1) (Poll.pollOne sys p fd poll timeoutMs) := by
  cases p with
  | windows => exact Terminates.once fun _ _ => Option.some_ne_none _
  | posix =>
    exact Terminates.whileTrue
      (fun rank => Poll.Posix.pollRound_spends settling fd poll timeoutMs) rank

end

namespace Operation

def loops : Operation → Bool
  | sendAll _ _ | receiveExact _ _ | connect _ _ | connectNonBlocking _ | pollOne _ _ _ => true
  | _ => false

/-- The rounds a call may take before it returns, when there are no signals. -/
def work : Operation → ℕ
  | sendAll _ data => data.length
  | receiveExact _ size => size
  | connect _ _ | connectNonBlocking _ => 1
  | _ => 0

section
variable {σ : Type} {sys : Sys σ} {p : Platform} {signals : σ → ℕ} {clock : σ → ℤ} {rank : ℕ}

theorem connectInternal_settles (settling : Settling sys signals clock) {address : SocketAddress}
    {nonBlocking : Bool} {timeoutMs : Int32} :
    Terminates (Within signals 1 rank) (rank + 1)
      (TcpConnect.connectInternal sys.kernel p address nonBlocking timeoutMs) := by
  cases rank with
  | zero =>
    intro os within
    simp only [Within] at within
    omega
  | succ rank =>
    refine (TcpConnect.connectInternal_returns settling address nonBlocking timeoutMs).strengthen ?_
    intro os within
    simp only [Within] at within ⊢
    omega

theorem run_settles (settling : Settling sys signals clock) (linux : Bool) {op : Operation}
    (looping : op.loops = true) :
    Terminates (Within signals op.work rank) (rank + 1) fun rounds => op.run sys p linux rounds := by
  have kept {α : Type} (a : Except Error α) : outcome (some a) ≠ none := Option.some_ne_none _
  have kept' (a : Except Error SockFd) : (some a).map (fun made => made.map TcpStream.mk) ≠ none :=
    Option.some_ne_none _
  cases op with
  | connect address timeoutMs => exact ((connectInternal_settles settling).map kept').map kept
  | connectNonBlocking address => exact ((connectInternal_settles settling).map kept').map kept
  | sendAll stream data => exact TcpStream.sendAll_returns settling data
  | receiveExact stream size =>
    exact (TcpStream.receiveExact_returns settling size []).map fun _ => Option.some_ne_none _
  | pollOne fd poll timeoutMs =>
    exact (Poll.pollOne_returns settling fd poll timeoutMs).map kept
  | _ => cases looping

/-- Every loop returns, in both builds, after as many rounds as there is work to do and
signals are to come; more rounds do nothing more. -/
theorem run_returns (settling : Settling sys signals clock) (p : Platform) (linux : Bool)
    (op : Operation) (looping : op.loops = true) (os : Os σ) :
    ∃ returned os', ∀ rounds, op.work + signals os.world < rounds →
      op.run sys p linux rounds os = (some returned, os') :=
  run_settles settling linux looping os (le_refl (op.work + signals os.world))

end

def signalled {α : Type} (answer : Except ℤ α) : ℕ × ℤ → Except ℤ α × (ℕ × ℤ)
  | (left + 1, time) => (.error Posix.eintr, (left, time))
  | (0, time) => (answer, (0, time))

/-- One byte is sent or received at a time, and no connection is ever made. A wait that is
interrupted has taken a millisecond. -/
def slow : Sys (ℕ × ℤ) :=
  { Sys.refusing Posix.einval with
    socket := fun _ _ w => (.ok 3, w)
    ioctl := fun _ _ w => (.ok (), w)
    connect := fun _ _ _ w => (.error Posix.einprogress, w)
    errnoLeft := fun _ => Posix.einprogress
    send := fun _ data => signalled (.ok ⟨min 1 data.length, by omega⟩)
    recv := fun _ size _ => signalled (.ok ⟨List.replicate (min 1 size) 0, by simp⟩)
    poll := fun _ _ timeout w =>
      let waited := signalled (.ok none) w
      let milliseconds := if w.1 = 0 then max 0 timeout.toInt else 1
      ((waited.1, milliseconds), (waited.2.1, w.2 + milliseconds * 1000000))
    now := fun w => (w.2, w) }

theorem spends_signalled {α : Type} (answer : Except ℤ α) (own : answer ≠ .error Posix.eintr) :
    Spends Prod.fst (signalled answer) := by
  rintro ⟨left, time⟩
  cases left with
  | zero => exact ⟨le_rfl, fun same => absurd same own⟩
  | succ left => exact ⟨Nat.le_succ left, fun _ => Nat.lt_succ_self left⟩

theorem spends_still {α : Type} {answer : Except ℤ α} (own : answer ≠ .error Posix.eintr) :
    Spends Prod.fst fun w : ℕ × ℤ => (answer, w) :=
  fun _ => ⟨le_rfl, fun same => absurd same own⟩

theorem slow_settling : Settling slow Prod.fst Prod.snd where
  socket _ _ := spends_still nofun
  ioctl _ _ := spends_still nofun
  connect _ _ _ := spends_still (by decide)
  send _ _ := spends_signalled _ nofun
  recv _ _ _ := spends_signalled _ nofun
  poll _ _ _ := spends_signalled _ nofun
  now _ := le_rfl
  reads _ := ⟨le_rfl, le_rfl⟩
  passes _ _ timeout w := by
    simp only [slow]
    split_ifs <;> omega
  waits _ _ timeout w timedOut := by
    obtain ⟨left, time⟩ := w
    cases left with
    | zero =>
      simp only [slow, if_pos]
      omega
    | succ left => cases timedOut

theorem slow_run_returns :
    (∃ returned os', ∀ rounds, 5 < rounds →
        (sendAll ⟨3⟩ [1, 2, 3]).run slow .posix true rounds ⟨(2, 0), 0, []⟩ =
          (some returned, os')) ∧
      (∃ returned os', ∀ rounds, 3 < rounds →
        (connect ⟨.v4 (.ofOctets 127 0 0 1), 80⟩ 5000).run slow .posix true rounds ⟨(2, 0), 0, []⟩ =
          (some returned, os')) ∧
      ((connect ⟨.v4 (.ofOctets 127 0 0 1), 80⟩ 5000).run slow .posix true 4 ⟨(2, 0), 0, []⟩).1 =
        some (.error (.ofCode .timedOut)) :=
  ⟨run_returns slow_settling .posix true (sendAll ⟨3⟩ [1, 2, 3]) rfl ⟨(2, 0), 0, []⟩,
    run_returns slow_settling .posix true (connect ⟨.v4 (.ofOctets 127 0 0 1), 80⟩ 5000) rfl
      ⟨(2, 0), 0, []⟩, by decide +kernel⟩

end Operation
end Qsox
