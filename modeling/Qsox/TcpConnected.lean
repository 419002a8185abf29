import Qsox.TcpConnect

/-! What a returned stream means. Attempts and blocking modes are read off the
world by two functions; the contract says how the calls change them. -/

namespace Qsox.TcpConnect

open BaseSocket

inductive Attempt
  | idle
  | pending
  | established
  | failed (code : ℤ)
  deriving DecidableEq, Repr

/-- Without a call of `connect` only pending attempts change. -/
def Attempt.Leads (a b : Attempt) : Prop := a = b ∨ a = .pending

theorem Attempt.Leads.established {a b : Attempt} (h : a.Leads b) (ha : a = .established) :
    b = .established := by
  rcases h with rfl | pending
  · exact ha
  · rw [ha] at pending
    cases pending

theorem Attempt.Leads.idle {a b : Attempt} (h : a.Leads b) (ha : a = .idle) : b = .idle := by
  rcases h with rfl | pending
  · exact ha
  · rw [ha] at pending
    cases pending

/-- What is relied on: a new socket is in blocking mode and has no attempt; a
connect that succeeds, or says the socket is connected, leaves the attempt
established; an attempt that failed or goes on is never found ready without an
error condition. -/
structure Contract {σ : Type} (p : Platform) (k : Kernel σ) (attempt : σ → SockFd → Attempt)
    (nonBlocking : σ → SockFd → Bool) : Prop where
  socket_new : ∀ {family type w fd w'}, k.socket family type w = (.ok fd, w') →
    attempt w' fd = .idle ∧ nonBlocking w' fd = false
  ioctl_sets : ∀ {fd b w w'}, k.ioctl fd b w = (.ok (), w') → nonBlocking w' fd = b
  ioctl_leads : ∀ fd b w, (attempt w fd).Leads (attempt (k.ioctl fd b w).2 fd)
  connect_ok : ∀ {fd a w w'}, k.connect fd a w = (.ok (), w') → attempt w' fd = .established
  connect_isconn : p = .posix → ∀ {fd a w w'},
    k.connect fd a w = (.error Qsox.Posix.eisconn, w') → attempt w' fd = .established
  connect_mode : ∀ fd a w, nonBlocking (k.connect fd a w).2 fd = nonBlocking w fd
  now_mode : ∀ fd w, nonBlocking (k.now w).2 fd = nonBlocking w fd
  poll_ready : ∀ {fd timeout w revents waited w'},
    k.poll fd ⟨false, true⟩ timeout w = ((.ok (some revents), waited), w') →
    revents.pollhup = false → revents.pollerr = false → attempt w' fd = .established
  poll_mode : ∀ fd events timeout w,
    nonBlocking (k.poll fd events timeout w).2 fd = nonBlocking w fd
  select_ready : ∀ {fd timeout w sets w'}, k.select fd timeout w = (.ok (some sets), w') →
    if sets.write then attempt w' fd = .established else ∃ code, attempt w' fd = .failed code
  select_leads : ∀ fd timeout w, (attempt w fd).Leads (attempt (k.select fd timeout w).2 fd)

namespace Contract

variable {σ : Type} {p : Platform} {k : Kernel σ} {attempt : σ → SockFd → Attempt}
  {nonBlocking : σ → SockFd → Bool} (law : Contract p k attempt nonBlocking) {fd : SockFd}
  {w w' : σ}
include law

theorem ioctl_then {b : Bool} {returned : Except ℤ Unit}
    (h : k.ioctl fd b w = (returned, w')) : (attempt w fd).Leads (attempt w' fd) := by
  have kept := law.ioctl_leads fd b w
  rwa [h] at kept

theorem select_then {timeout : Timeval} {returned : Except ℤ (Option FdSets)}
    (h : k.select fd timeout w = (returned, w')) : (attempt w fd).Leads (attempt w' fd) := by
  have kept := law.select_leads fd timeout w
  rwa [h] at kept

theorem connect_blocking {address : SocketAddress} {returned : Except ℤ Unit}
    (h : k.connect fd address w = (returned, w')) (mode : nonBlocking w fd = false) :
    nonBlocking w' fd = false := by
  have kept := law.connect_mode fd address w
  rwa [h, mode] at kept

theorem now_blocking {reading : ℤ} (h : k.now w = (reading, w'))
    (mode : nonBlocking w fd = false) : nonBlocking w' fd = false := by
  have kept := law.now_mode fd w
  rwa [h, mode] at kept

theorem poll_blocking {events : PollEvents} {timeout : Int32}
    {answer : Except ℤ (Option Revents) × ℤ} (h : k.poll fd events timeout w = (answer, w'))
    (mode : nonBlocking w fd = false) : nonBlocking w' fd = false := by
  have kept := law.poll_mode fd events timeout w
  rwa [h, mode] at kept

end Contract

def waitedIn (trace : List Event) : ℤ :=
  (trace.filterMap fun
    | .poll _ _ waited => some waited
    | _ => none).sum

@[simp] theorem waitedIn_nil : waitedIn [] = 0 := rfl

@[simp] theorem waitedIn_append (trace more : List Event) :
    waitedIn (trace ++ more) = waitedIn trace + waitedIn more := by
  rw [waitedIn, List.filterMap_append, List.sum_append]
  rfl

@[simp] theorem waitedIn_now (reading : ℤ) (trace : List Event) :
    waitedIn (.now reading :: trace) = waitedIn trace := rfl

@[simp] theorem waitedIn_connect (returned : Except ℤ Unit) (trace : List Event) :
    waitedIn (.connect returned :: trace) = waitedIn trace := rfl

@[simp] theorem waitedIn_poll (timeout : Int32) (returned : Except ℤ (Option Revents)) (waited : ℤ)
    (trace : List Event) :
    waitedIn (.poll timeout returned waited :: trace) = waited + waitedIn trace := List.sum_cons

/-- If the last call was a wait that found the socket ready, it was found before so many
milliseconds had been waited. The deadline is one in real time, whatever the program's
clock says. -/
def ReadyInTime (timeoutMs : Int32) (trace : List Event) : Prop :=
  ∀ before timeout revents waited, trace = before ++ [.poll timeout (.ok (some revents)) waited] →
    waitedIn trace ≤ timeoutMs.toInt

/-- The connection is there, in time, and the socket is in blocking mode. -/
structure Connected {σ : Type} (attempt : σ → SockFd → Attempt) (nonBlocking : σ → SockFd → Bool)
    (timeoutMs : Int32) (fd : SockFd) (os : Os σ) : Prop where
  established : attempt os.world fd = .established
  blocking : nonBlocking os.world fd = false
  inTime : ReadyInTime timeoutMs os.trace

theorem toInt_rest {timeoutMs : Int32} {elapsed : ℤ} (low : -2 ^ 31 ≤ timeoutMs.toInt - elapsed)
    (high : timeoutMs.toInt - elapsed < 2 ^ 31) :
    (timeoutMs - Int32.ofInt elapsed).toInt = timeoutMs.toInt - elapsed := by
  rw [Int32.toInt_sub, Int32.toInt_ofInt, Int.sub_bmod_bmod]
  have size : Int32.size = 2 ^ 32 := rfl
  exact Int.bmod_eq_of_le (by omega) (by omega)

theorem readyInTime_nil (timeoutMs : Int32) : ReadyInTime timeoutMs [] := by
  intro before timeout revents waited same
  exact absurd same.symm (List.append_ne_nil_of_right_ne_nil _ (List.cons_ne_nil _ _))

theorem readyInTime_of_connect (timeoutMs : Int32) (trace : List Event)
    (returned : Except ℤ Unit) : ReadyInTime timeoutMs (trace ++ [.connect returned]) := by
  intro before timeout revents waited same
  obtain ⟨-, last⟩ := List.append_inj' same rfl
  cases last

theorem readyInTime_poll_iff {timeoutMs timeout : Int32} {trace : List Event} {revents : Revents}
    {waited : ℤ} : ReadyInTime timeoutMs (trace ++ [.poll timeout (.ok (some revents)) waited]) ↔
      waitedIn trace + waited ≤ timeoutMs.toInt := by
  have total : waitedIn (trace ++ [.poll timeout (.ok (some revents)) waited]) =
      waitedIn trace + waited := by simp
  rw [← total]
  exact ⟨fun h => h _ _ _ _ rfl, fun h _ _ _ _ _ => h⟩

/-- From here on the rounds of `doConnectTimeout` come to find the socket ready, but later
than it should have been: each looks at the clock before time is over and is then either
told nothing, or interrupted, or it is the last. -/
inductive Posix.FindsLate {σ : Type} (k : Kernel σ) (fd : SockFd) (timeoutMs : Int32) (start : ℤ) :
    ℤ → σ → Prop
  | found {before reading waited : ℤ} {w w₁ w₂ : σ} {revents : Revents}
      (look : k.now w = (reading, w₁)) (early : Posix.elapsedMs start reading < timeoutMs.toInt)
      (answer : k.poll fd ⟨false, true⟩
          (timeoutMs - Int32.ofInt (Posix.elapsedMs start reading)) w₁ =
        ((.ok (some revents), waited), w₂))
      (up : revents.pollhup = false) (good : revents.pollerr = false)
      (late : timeoutMs.toInt < before + waited) : FindsLate k fd timeoutMs start before w
  | again {before reading waited : ℤ} {w w₁ w₂ : σ} {returned : Except ℤ (Option Revents)}
      (look : k.now w = (reading, w₁)) (early : Posix.elapsedMs start reading < timeoutMs.toInt)
      (answer : k.poll fd ⟨false, true⟩
          (timeoutMs - Int32.ofInt (Posix.elapsedMs start reading)) w₁ = ((returned, waited), w₂))
      (nothing : returned = .ok none ∨ returned = .error Qsox.Posix.eintr)
      (later : FindsLate k fd timeoutMs start (before + waited) w₂) :
      FindsLate k fd timeoutMs start before w

/-- A connect that goes on, between two successful changes of the mode, and a wait that
finds the socket ready too late. -/
def Posix.LateFound {σ : Type} (k : Kernel σ) (fd : SockFd) (address : SocketAddress)
    (timeoutMs : Int32) (w : σ) : Prop :=
  ∃ w₁ w₂ w₃ w₄ code start, k.ioctl fd true w = (.ok (), w₁) ∧
    k.connect fd address w₁ = (.error code, w₂) ∧ k.ioctl fd false w₂ = (.ok (), w₃) ∧
    k.errnoLeft w₃ = Qsox.Posix.einprogress ∧ k.now w₃ = (start, w₄) ∧
    Posix.FindsLate k fd timeoutMs start 0 w₄

/-- A clock that goes on by at least the time that is waited, and waits that end in time. -/
structure Steady {σ : Type} (k : Kernel σ) (clock : σ → ℤ) : Prop where
  reads : ∀ w, clock w ≤ (k.now w).1 ∧ (k.now w).1 ≤ clock (k.now w).2
  waited_nonneg : ∀ {fd events timeout w returned waited w'},
    k.poll fd events timeout w = ((returned, waited), w') → 0 ≤ waited
  passes : ∀ {fd events timeout w returned waited w'},
    k.poll fd events timeout w = ((returned, waited), w') → clock w + waited * 1000000 ≤ clock w'
  ready : ∀ {fd events timeout w revents waited w'},
    k.poll fd events timeout w = ((.ok (some revents), waited), w') →
    0 ≤ timeout.toInt → waited ≤ timeout.toInt

theorem elapsedMs_ge {start reading ms : ℤ} (passed : start + ms * 1000000 ≤ reading) :
    ms ≤ Posix.elapsedMs start reading := by
  have least : ms * 1000000 ≤ reading - start := by omega
  calc ms = (ms * 1000000).tdiv 1000000 := (Int.mul_tdiv_cancel ms (by decide)).symm
    _ ≤ (reading - start).tdiv 1000000 := Int.tdiv_le_tdiv (by decide) least

/-- The induction is on the rounds: when one begins, the clock has gone on by what was
waited before. -/
theorem Steady.not_findsLate {σ : Type} {k : Kernel σ} {clock : σ → ℤ} (steady : Steady k clock)
    {fd : SockFd} {timeoutMs : Int32} {start before : ℤ} {w : σ} (sofar : 0 ≤ before)
    (passed : start + before * 1000000 ≤ clock w) :
    ¬ Posix.FindsLate k fd timeoutMs start before w := by
  intro finds
  induction finds with
  | @found before reading waited w w₁ w₂ revents look early answer up good late =>
    have reads := (steady.reads w).1
    rw [look] at reads
    have elapsed : before ≤ Posix.elapsedMs start reading := elapsedMs_ge (passed.trans reads)
    have rest : (timeoutMs - Int32.ofInt (Posix.elapsedMs start reading)).toInt =
        timeoutMs.toInt - Posix.elapsedMs start reading := toInt_rest
      (by omega) (by have := timeoutMs.toInt_lt; omega)
    have ready := steady.ready answer (by omega)
    omega
  | @again before reading waited w w₁ w₂ returned look early answer nothing later ih =>
    have reads := steady.reads w
    have passes := steady.passes answer
    rw [look] at reads
    refine ih (Int.add_nonneg sofar (steady.waited_nonneg answer)) ?_
    simp only at reads
    omega

theorem Steady.not_lateFound {σ : Type} {k : Kernel σ} {clock : σ → ℤ} (steady : Steady k clock)
    (fd : SockFd) (address : SocketAddress) (timeoutMs : Int32) (w : σ) :
    ¬ Posix.LateFound k fd address timeoutMs w := by
  rintro ⟨w₁, w₂, w₃, w₄, code, start, -, -, -, -, begun, finds⟩
  have reads := (steady.reads w₃).2
  rw [begun] at reads
  exact steady.not_findsLate le_rfl (by simpa using reads) finds

section
variable {σ : Type} {k : Kernel σ} {attempt : σ → SockFd → Attempt}
  {nonBlocking : σ → SockFd → Bool} {timeoutMs : Int32} {fd : SockFd}

def Truthful (attempt : σ → SockFd → Attempt) (nonBlocking : σ → SockFd → Bool)
    (timeoutMs : Int32) (fd : SockFd) : Except Error Unit → Os σ → Prop
  | .ok (), os => Connected attempt nonBlocking timeoutMs fd os
  | .error _, _ => True

def Posix.Answered (attempt : σ → SockFd → Attempt) (nonBlocking : σ → SockFd → Bool)
    (timeoutMs : Int32) (fd : SockFd) : Option Unit → Os σ → Prop
  | some (), os => Connected attempt nonBlocking timeoutMs fd os
  | none, os => nonBlocking os.world fd = false ∧ ReadyInTime timeoutMs os.trace ∧
      (os.errno = Qsox.Posix.eisconn → attempt os.world fd = .established)

def Posix.OnTime (k : Kernel σ) (nonBlocking : σ → SockFd → Bool) (timeoutMs : Int32) (fd : SockFd)
    (start : ℤ) (os : Os σ) : Prop :=
  nonBlocking os.world fd = false ∧
    ¬ Posix.FindsLate k fd timeoutMs start (waitedIn os.trace) os.world

def Posix.Polled (k : Kernel σ) (attempt : σ → SockFd → Attempt) (nonBlocking : σ → SockFd → Bool)
    (timeoutMs : Int32) (fd : SockFd) (start : ℤ) : Option (Option Revents) → Os σ → Prop
  | some (some revents), os => revents.pollhup = false → revents.pollerr = false →
      Connected attempt nonBlocking timeoutMs fd os
  | some none, os => Posix.OnTime k nonBlocking timeoutMs fd start os
  | none, os => os.errno = Qsox.Posix.eintr → Posix.OnTime k nonBlocking timeoutMs fd start os

section
variable (law : Contract .posix k attempt nonBlocking)
include law

theorem Posix.connectRound_truthful (timeoutMs : Int32) (address : SocketAddress) :
    Ensures (fun os => nonBlocking os.world fd = false)
      (Posix.connectRound k fd address false)
      (Going (fun os => nonBlocking os.world fd = false)
        (Truthful attempt nonBlocking timeoutMs fd)) := by
  refine Ensures.bind (Posix.Answered attempt nonBlocking timeoutMs fd) ?_ ?_
  · refine Os.connect_ensures ?_ ?_
    · intro os w mode h
      exact ⟨law.connect_ok h, law.connect_blocking h mode, readyInTime_of_connect _ _ _⟩
    · intro os code w mode h
      refine ⟨law.connect_blocking h mode, readyInTime_of_connect _ _ _, ?_⟩
      rintro rfl
      exact law.connect_isconn rfl h
  · intro returned
    cases returned with
    | some a => exact fun os hos => hos
    | none =>
      refine Ensures.bind _ Os.getErrno_ensures ?_
      intro errno
      refine Ensures.ite (fun inProgress => absurd inProgress.1 (by decide)) fun _ => ?_
      refine Ensures.ite (fun _ => Ensures.pure fun os hos => hos.1.1) fun _ => ?_
      refine Ensures.ite (fun isconn => Ensures.pure fun os hos => ?_) fun _ => ?_
      · obtain ⟨⟨mode, inTime, connected⟩, same⟩ := hos
        exact ⟨connected (same.trans isconn), mode, inTime⟩
      · exact Ensures.bind _ Os.lastOsError_ensures fun err => Ensures.pure fun os hos => trivial

theorem Posix.doConnect_truthful (timeoutMs : Int32) (address : SocketAddress) (rounds : ℕ) :
    Ensures (fun os => nonBlocking os.world fd = false)
      (Posix.doConnect k fd address false rounds)
      (Going (fun os => nonBlocking os.world fd = false)
        (Truthful attempt nonBlocking timeoutMs fd)) := by
  rw [Posix.doConnect]
  exact Ensures.whileTrue (Posix.connectRound_truthful law timeoutMs address) rounds

theorem Posix.pollRound_truthful (start : ℤ) :
    Ensures (Posix.OnTime k nonBlocking timeoutMs fd start) (Posix.pollRound k fd timeoutMs start)
      (Going (Posix.OnTime k nonBlocking timeoutMs fd start)
        (Truthful attempt nonBlocking timeoutMs fd)) := by
  refine Ensures.bind (fun reading os => nonBlocking os.world fd = false ∧ ∃ w,
    k.now w = (reading, os.world) ∧
      ¬ Posix.FindsLate k fd timeoutMs start (waitedIn os.trace) w) ?_ ?_
  · refine Os.now_ensures ?_
    intro os reading w ⟨mode, onTime⟩ look
    refine ⟨law.now_blocking look mode, os.world, look, ?_⟩
    simpa using onTime
  · intro reading
    refine Ensures.ite (fun _ => Ensures.pure fun os hos => trivial) fun early => ?_
    rw [not_le] at early
    refine Ensures.bind (Posix.Polled k attempt nonBlocking timeoutMs fd start) ?_ ?_
    · refine Os.poll_ensures ?_ ?_
      · rintro os found waited w' ⟨mode, w, look, onTime⟩ answer
        have kept := law.poll_blocking answer mode
        cases found with
        | none =>
          refine ⟨kept, fun later => onTime (.again look early answer (.inl rfl) ?_)⟩
          simpa using later
        | some revents =>
          intro up good
          refine ⟨law.poll_ready answer up good, kept, readyInTime_poll_iff.mpr ?_⟩
          by_contra late
          exact onTime (.found look early answer up good (not_le.mp late))
      · rintro os code waited w' ⟨mode, w, look, onTime⟩ answer
        rintro rfl
        refine ⟨law.poll_blocking answer mode, fun later => ?_⟩
        refine onTime (.again look early answer (.inr rfl) ?_)
        simpa using later
    · intro returned
      rcases returned with _ | _ | revents
      · refine Ensures.bind _ Os.getErrno_ensures fun errno => ?_
        refine Ensures.ite (fun other => ?_) fun interrupted => ?_
        · exact Ensures.bind _ Os.lastOsError_ensures fun err => Ensures.pure fun os hos => trivial
        · refine Ensures.pure fun os hos => hos.1 ?_
          exact hos.2.trans (not_not.mp interrupted)
      · exact Ensures.pure fun os hos => hos
      · refine Ensures.ite (fun bad => ?_) fun good => ?_
        · exact Ensures.bind (fun _ _ => True) (Ensures.of_value fun _ _ => trivial)
            fun err => Ensures.pure fun os hos => trivial
        · simp only [not_or, Bool.not_eq_true] at good
          exact Ensures.pure fun os hos => hos good.1 good.2

theorem Posix.wait_truthful (rounds : ℕ) :
    Ensures (fun os => nonBlocking os.world fd = false ∧ waitedIn os.trace = 0 ∧
        ∀ start w, k.now os.world = (start, w) → ¬ Posix.FindsLate k fd timeoutMs start 0 w)
      (Os.now k >>= fun start => whileTrue (Posix.pollRound k fd timeoutMs start) rounds)
      (Going (fun _ => True) (Truthful attempt nonBlocking timeoutMs fd)) := by
  refine Ensures.bind (Posix.OnTime k nonBlocking timeoutMs fd) ?_ ?_
  · refine Os.now_ensures ?_
    rintro os start w ⟨mode, none_waited, onTime⟩ begun
    refine ⟨law.now_blocking begun mode, ?_⟩
    simpa [none_waited] using onTime start w begun
  · intro start
    exact (Ensures.whileTrue (Posix.pollRound_truthful law start) rounds).returned

theorem Posix.doConnectTimeout_truthful (address : SocketAddress) (rounds : ℕ)
    (positive : 0 < timeoutMs) {w : σ} (onTime : ¬ Posix.LateFound k fd address timeoutMs w) :
    Ensures (fun os => os.world = w ∧ os.trace = [])
      (Posix.doConnectTimeout k fd address timeoutMs rounds)
      (Going (fun _ => True) (Truthful attempt nonBlocking timeoutMs fd)) := by
  rintro os ⟨rfl, no_trace⟩
  rcases set : k.ioctl fd true os.world with ⟨_ | _, w₁⟩
  · rw [Posix.doConnectTimeout_unset positive set]
    exact trivial
  rcases answered : k.connect fd address w₁ with ⟨returned, w₂⟩
  rcases reset : k.ioctl fd false w₂ with ⟨_ | _, w₃⟩
  · rw [Posix.doConnectTimeout_unreset positive set answered reset]
    exact trivial
  have mode : nonBlocking w₃ fd = false := law.ioctl_sets reset
  cases returned with
  | ok a =>
    rw [Posix.doConnectTimeout_connected positive set answered reset]
    refine ⟨(law.ioctl_then reset).established (law.connect_ok answered), mode, ?_⟩
    exact readyInTime_of_connect _ _ _
  | error code =>
    by_cases pending : k.errnoLeft w₃ = Qsox.Posix.einprogress
    · rw [Posix.doConnectTimeout_waits positive set answered reset pending]
      refine Posix.wait_truthful law rounds _ ⟨mode, by simp [no_trace], fun start w₄ begun => ?_⟩
      exact fun finds =>
        onTime ⟨w₁, w₂, w₃, w₄, code, start, set, answered, reset, pending, begun, finds⟩
    · rw [Posix.doConnectTimeout_refused positive set answered reset pending]
      exact trivial

end

theorem Posix.rounds_of_findsLate {start before : ℤ} {w : σ}
    (finds : Posix.FindsLate k fd timeoutMs start before w) (os : Os σ) (here : os.world = w)
    (sofar : waitedIn os.trace = before) :
    ∃ rounds os',
      whileTrue (Posix.pollRound k fd timeoutMs start) rounds os = (some (.ok ()), os') ∧
      ¬ ReadyInTime timeoutMs os'.trace := by
  induction finds generalizing os with
  | @found before reading waited w w₁ w₂ revents look early answer up good late =>
    subst here
    refine ⟨1, _, whileTrue_of_some (Posix.pollRound_found look early answer up good) 0, ?_⟩
    rw [readyInTime_poll_iff, waitedIn_append, sofar]
    simpa using late
  | @again before reading waited w w₁ w₂ returned look early answer nothing later ih =>
    subst here
    obtain ⟨os', once, there, trace⟩ := Posix.pollRound_again look early answer nothing
    obtain ⟨rounds, os'', run, late⟩ := ih os' there (by simp [trace, sofar])
    exact ⟨rounds + 1, os'', (whileTrue_of_none once rounds).trans run, late⟩

theorem Posix.doConnectTimeout_of_lateFound {address : SocketAddress} (positive : 0 < timeoutMs)
    (os : Os σ) (no_trace : os.trace = [])
    (late : Posix.LateFound k fd address timeoutMs os.world) :
    ∃ rounds os', Posix.doConnectTimeout k fd address timeoutMs rounds os = (some (.ok ()), os') ∧
      ¬ ReadyInTime timeoutMs os'.trace := by
  obtain ⟨w₁, w₂, w₃, w₄, code, start, set, answered, reset, pending, begun, finds⟩ := late
  obtain ⟨rounds, os', run, missed⟩ := Posix.rounds_of_findsLate finds
    ⟨w₄, k.errnoLeft w₃, os.trace ++ [.connect (.error code)] ++ [.now start]⟩ rfl
    (by simp [no_trace])
  refine ⟨rounds, os', ?_, missed⟩
  rw [Posix.doConnectTimeout_waits positive set answered reset pending]
  rw [bind_of_eq (Os.now_eq begun)]
  exact run

/-- The codes `doConnect` takes for success in non-blocking mode. -/
def PendingCode (code : ℤ) : Prop :=
  code = Winsock.wsaewouldblock ∨ code = Winsock.wsaeinprogress ∨ code = Winsock.wsaealready

theorem pendingCode_iff (code : ℤ) :
    (Platform.windows.lastOsError code).code = .wouldBlock ∨
      (Platform.windows.lastOsError code).code = .inProgress ↔ PendingCode code := by
  rw [Platform.lastOsError_code_eq_iff (by decide), Platform.lastOsError_code_eq_iff (by decide)]
  simp [Platform.codes, Winsock.codes, PendingCode]

/-- A non-blocking connect answered by such a code, between two successful
changes of the mode, and the attempt not there at the end. -/
def LeftPending (k : Kernel σ) (attempt : σ → SockFd → Attempt) (fd : SockFd)
    (address : SocketAddress) (w : σ) : Prop :=
  ∃ w₁ w₂ w₃ code, k.ioctl fd true w = (.ok (), w₁) ∧
    k.connect fd address w₁ = (.error code, w₂) ∧ PendingCode code ∧
    k.ioctl fd false w₂ = (.ok (), w₃) ∧ attempt w₃ fd ≠ .established

def Windows.Prepared (k : Kernel σ) (attempt : σ → SockFd → Attempt) (fd : SockFd) (w : σ) :
    Except Error Unit → Os σ → Prop
  | .ok (), os => k.ioctl fd true w = (.ok (), os.world)
  | .error _, os => attempt os.world fd = .idle

def Windows.Answered (k : Kernel σ) (attempt : σ → SockFd → Attempt) (fd : SockFd)
    (address : SocketAddress) (w : σ) : Option Unit → Os σ → Prop
  | some (), os => attempt os.world fd = .established
  | none, os => ∃ w₁, k.ioctl fd true w = (.ok (), w₁) ∧
      k.connect fd address w₁ = (.error os.errno, os.world)

/-- After the non-blocking `doConnect`: success stands for a connection or for a
pending code, and `WouldBlock` can only come from the change of the mode. -/
def Windows.Begun (k : Kernel σ) (attempt : σ → SockFd → Attempt) (fd : SockFd)
    (address : SocketAddress) (w : σ) : Except Error Unit → Os σ → Prop
  | .ok (), os => attempt os.world fd = .established ∨ ∃ w₁ code,
      k.ioctl fd true w = (.ok (), w₁) ∧
      k.connect fd address w₁ = (.error code, os.world) ∧ PendingCode code
  | .error err, os => err.code = .wouldBlock → attempt os.world fd = .idle

def Windows.Reset (attempt : σ → SockFd → Attempt) (nonBlocking : σ → SockFd → Bool)
    (timeoutMs : Int32) (fd : SockFd) : Except Error Unit → Os σ → Prop
  | .ok (), os => Connected attempt nonBlocking timeoutMs fd os
  | .error err, os => err.code = .wouldBlock → attempt os.world fd = .idle

section
variable (law : Contract .windows k attempt nonBlocking)
include law

theorem Windows.doConnect_truthful (timeoutMs : Int32) (address : SocketAddress) :
    Ensures (fun os => nonBlocking os.world fd = false) (Windows.doConnect k fd address false)
      (Truthful attempt nonBlocking timeoutMs fd) := by
  refine Ensures.bind (fun returned os => returned = some () →
    Connected attempt nonBlocking timeoutMs fd os) ?_ ?_
  · refine Os.connect_ensures ?_ ?_
    · intro os w mode h _
      exact ⟨law.connect_ok h, law.connect_blocking h mode, readyInTime_of_connect _ _ _⟩
    · intro os code w mode h failed
      cases failed
  · intro returned
    cases returned with
    | some a => exact Ensures.pure fun os hos => hos rfl
    | none =>
      refine Ensures.bind _ Os.lastOsError_ensures ?_
      intro err
      refine Ensures.ite (fun pending => absurd pending.1 (by decide)) fun _ => ?_
      exact Ensures.pure fun os hos => trivial

theorem Windows.doConnect_nonBlocking (timeoutMs : Int32) (address : SocketAddress) {w : σ}
    (idle : attempt w fd = .idle) :
    Ensures (fun os => os.world = w ∧ os.trace = []) (Windows.doConnect k fd address true)
      fun result os => ReadyInTime timeoutMs os.trace ∧
        Windows.Begun k attempt fd address w result os := by
  refine Ensures.bind (fun result os => os.trace = [] ∧
    Windows.Prepared k attempt fd w result os) ?_ ?_
  · refine setNonBlocking_ensures ?_ ?_
    · rintro os w' ⟨rfl, no_trace⟩ h
      exact ⟨no_trace, h⟩
    · rintro os code w' ⟨rfl, no_trace⟩ h
      exact ⟨no_trace, (law.ioctl_then h).idle idle⟩
  · intro result
    cases result with
    | error e =>
      refine Ensures.pure fun os hos => ?_
      obtain ⟨no_trace, still_idle⟩ := hos
      rw [no_trace]
      exact ⟨readyInTime_nil timeoutMs, fun _ => still_idle⟩
    | ok a =>
      refine Ensures.bind (fun returned os => ReadyInTime timeoutMs os.trace ∧
        Windows.Answered k attempt fd address w returned os) ?_ ?_
      · refine Os.connect_ensures ?_ ?_
        · intro os w' hos h
          exact ⟨readyInTime_of_connect _ _ _, law.connect_ok h⟩
        · intro os code w' hos h
          exact ⟨readyInTime_of_connect _ _ _, os.world, hos.2, h⟩
      · intro returned
        cases returned with
        | some a => exact Ensures.pure fun os hos => ⟨hos.1, .inl hos.2⟩
        | none =>
          refine Ensures.bind _ Os.lastOsError_ensures ?_
          intro err
          refine Ensures.ite (fun pending => Ensures.pure fun os hos => ?_)
            fun other => Ensures.pure fun os hos => ?_
          · obtain ⟨⟨inTime, w₁, set, failed⟩, rfl⟩ := hos
            exact ⟨inTime, .inr ⟨w₁, os.errno, set, failed, (pendingCode_iff _).mp pending.2⟩⟩
          · exact ⟨hos.1.1, fun blocks => absurd ⟨rfl, .inl blocks⟩ other⟩

theorem Windows.selectWritable_idle (timeoutMs : Int32) :
    Ensures (fun os => attempt os.world fd = .idle) (Windows.selectWritable k fd timeoutMs)
      fun result _ => result ≠ .ok () := by
  refine Ensures.bind (fun returned _ => ∀ sets, returned ≠ some (some sets)) ?_ ?_
  · refine Os.call_ensures ?_ ?_
    · rintro os found w idle h sets same
      obtain rfl := Option.some.inj same
      have ready := law.select_ready h
      rw [(law.select_then h).idle idle] at ready
      by_cases writable : sets.write = true
      · rw [if_pos writable] at ready
        cases ready
      · rw [if_neg writable] at ready
        obtain ⟨code, failed⟩ := ready
        cases failed
    · intro os code w idle h sets same
      cases same
  · intro returned
    cases returned with
    | none =>
      exact Ensures.bind _ Os.lastOsError_ensures fun err => Ensures.pure fun os hos => nofun
    | some found =>
      cases found with
      | none => exact Ensures.pure fun os hos => nofun
      | some sets => exact Ensures.absurd fun os hos => hos sets rfl

theorem Windows.doConnectTimeout_truthful (address : SocketAddress) (positive : 0 < timeoutMs)
    {w : σ} (idle : attempt w fd = .idle) (arrives : ¬ LeftPending k attempt fd address w) :
    Ensures (fun os => os.world = w ∧ os.trace = [])
      (Windows.doConnectTimeout k fd address timeoutMs)
      (Truthful attempt nonBlocking timeoutMs fd) := by
  refine Ensures.ite (fun nonpos => absurd nonpos (Int32.not_le.mpr positive)) fun _ => ?_
  refine Ensures.bind _ (Windows.doConnect_nonBlocking law timeoutMs address idle) ?_
  intro result
  refine Ensures.bind (fun mode os => mode = .ok () →
    Windows.Reset attempt nonBlocking timeoutMs fd result os) ?_ ?_
  · refine setNonBlocking_ensures ?_ ?_
    · rintro os w' ⟨inTime, outcome⟩ h _
      have kept := law.ioctl_then h
      cases result with
      | ok a =>
        have established : attempt w' fd = .established := by
          rcases outcome with there | ⟨w₁, code, set, failed, pending⟩
          · exact kept.established there
          · by_contra missing
            exact arrives ⟨w₁, os.world, w', code, set, failed, pending, h, missing⟩
        exact ⟨established, law.ioctl_sets h, inTime⟩
      | error err => exact fun blocks => kept.idle (outcome blocks)
    · intro os code w' hos h failed
      cases failed
  · intro mode
    cases mode with
    | error e => exact Ensures.pure fun os hos => trivial
    | ok b =>
      cases result with
      | ok a => exact Ensures.pure fun os hos => hos rfl
      | error err =>
        refine Ensures.ite (fun blocks => ?_) fun _ => Ensures.pure fun os hos => trivial
        refine Ensures.strengthen (fun os hos => hos rfl blocks)
          (Ensures.weaken (Windows.selectWritable_idle law timeoutMs) ?_)
        intro result os never
        cases result with
        | ok a => exact absurd rfl never
        | error e => trivial

end

theorem Windows.doConnect_of_pendingCode {address : SocketAddress} {w w₁ w₂ : σ} {code : ℤ}
    (set : k.ioctl fd true w = (.ok (), w₁))
    (failed : k.connect fd address w₁ = (.error code, w₂)) (pending : PendingCode code) :
    Ensures (fun os => os.world = w) (Windows.doConnect k fd address true)
      fun result os => result = .ok () ∧ os.world = w₂ := by
  refine Ensures.bind (fun mode os => mode = .ok () ∧ os.world = w₁) ?_ ?_
  · refine setNonBlocking_ensures ?_ ?_
    · rintro os w' rfl h
      rw [set] at h
      obtain ⟨-, rfl⟩ := Prod.mk.inj h
      exact ⟨rfl, rfl⟩
    · rintro os code' w' rfl h
      rw [set] at h
      cases h
  · intro mode
    cases mode with
    | error e => exact Ensures.absurd fun os hos => nomatch hos.1
    | ok a =>
      refine Ensures.bind (fun returned os => returned = none ∧ os.errno = code ∧
        os.world = w₂) ?_ ?_
      · refine Os.connect_ensures ?_ ?_
        · rintro os w' ⟨-, rfl⟩ h
          rw [failed] at h
          cases h
        · rintro os code' w' ⟨-, rfl⟩ h
          rw [failed] at h
          obtain ⟨same, rfl⟩ := Prod.mk.inj h
          exact ⟨rfl, (Except.error.inj same).symm, rfl⟩
      · intro returned
        cases returned with
        | some a => exact Ensures.absurd fun os hos => nomatch hos.1
        | none =>
          refine Ensures.bind _ Os.lastOsError_ensures ?_
          intro err
          refine Ensures.ite (fun _ => Ensures.pure fun os hos => ⟨rfl, hos.1.2.2⟩) fun other => ?_
          refine Ensures.absurd fun os hos => other ⟨rfl, ?_⟩
          rw [← hos.2, hos.1.2.1]
          exact (pendingCode_iff code).mpr pending

theorem Windows.doConnectTimeout_of_leftPending {address : SocketAddress}
    (positive : 0 < timeoutMs) {w : σ} (left : LeftPending k attempt fd address w) :
    Ensures (fun os => os.world = w) (Windows.doConnectTimeout k fd address timeoutMs)
      fun result os => result = .ok () ∧ attempt os.world fd ≠ .established := by
  obtain ⟨w₁, w₂, w₃, code, set, failed, pending, reset, missing⟩ := left
  refine Ensures.ite (fun nonpos => absurd nonpos (Int32.not_le.mpr positive)) fun _ => ?_
  refine Ensures.bind _ (Windows.doConnect_of_pendingCode set failed pending) ?_
  intro result
  refine Ensures.bind (fun mode os => mode = .ok () ∧ result = .ok () ∧ os.world = w₃) ?_ ?_
  · refine setNonBlocking_ensures ?_ ?_
    · rintro os w' ⟨ok, rfl⟩ h
      rw [reset] at h
      obtain ⟨-, rfl⟩ := Prod.mk.inj h
      exact ⟨rfl, ok, rfl⟩
    · rintro os code' w' ⟨ok, rfl⟩ h
      rw [reset] at h
      cases h
  · intro mode
    cases mode with
    | error e => exact Ensures.absurd fun os hos => nomatch hos.1
    | ok b =>
      cases result with
      | error err => exact Ensures.absurd fun os hos => nomatch hos.2.1
      | ok a =>
        refine Ensures.pure fun os hos => ⟨rfl, ?_⟩
        rw [hos.2.2]
        exact missing

theorem establish_truthful {p : Platform} (law : Contract p k attempt nonBlocking)
    (address : SocketAddress) (rounds : ℕ) {w : σ} (idle : attempt w fd = .idle)
    (blocking : nonBlocking w fd = false)
    (arrives : p = .windows → 0 < timeoutMs → ¬ LeftPending k attempt fd address w)
    (onTime : p = .posix → 0 < timeoutMs → ¬ Posix.LateFound k fd address timeoutMs w) :
    Ensures (fun os => os.world = w ∧ os.trace = [])
      (establish k p fd address false timeoutMs rounds)
      (Going (fun _ => True) (Truthful attempt nonBlocking timeoutMs fd)) := by
  have mode (os : Os σ) (hos : os.world = w ∧ os.trace = []) : nonBlocking os.world fd = false :=
    hos.1 ▸ blocking
  cases p with
  | posix =>
    refine Ensures.ite (fun timed => ?_) fun _ => ?_
    · exact Posix.doConnectTimeout_truthful law address rounds timed.2 (onTime rfl timed.2)
    · exact Ensures.strengthen mode (Posix.doConnect_truthful law timeoutMs address rounds).returned
  | windows =>
    refine Ensures.ite (fun timed => Ensures.map ?_) fun _ => Ensures.map ?_
    · exact Windows.doConnectTimeout_truthful law address timed.2 idle (arrives rfl timed.2)
    · exact Ensures.strengthen mode (Windows.doConnect_truthful law timeoutMs address)

/-- The path that returns an attempt still pending: the Windows build, a timeout,
and a non-blocking connect answered by a pending code. -/
def PendingReturned (k : Kernel σ) (attempt : σ → SockFd → Attempt) (p : Platform)
    (address : SocketAddress) (timeoutMs : Int32) (w : σ) : Prop :=
  p = .windows ∧ 0 < timeoutMs ∧ startupSockets k p = .ok () ∧
    ∃ fd w', k.socket address.family .stream w = (.ok fd, w') ∧ LeftPending k attempt fd address w'

/-- The path that returns a connection found too late: the POSIX build, a timeout, and waits
that together last longer than it. -/
def LateReturned (k : Kernel σ) (p : Platform) (address : SocketAddress) (timeoutMs : Int32)
    (w : σ) : Prop :=
  p = .posix ∧ 0 < timeoutMs ∧ startupSockets k p = .ok () ∧
    ∃ fd w', k.socket address.family .stream w = (.ok fd, w') ∧
      Posix.LateFound k fd address timeoutMs w'

theorem connect_truthful {p : Platform} (law : Contract p k attempt nonBlocking)
    (address : SocketAddress) (rounds : ℕ) {w : σ}
    (arrives : ¬ PendingReturned k attempt p address timeoutMs w)
    (onTime : ¬ LateReturned k p address timeoutMs w) :
    Ensures (fun os => os.world = w ∧ os.trace = []) (connect k p address timeoutMs rounds)
      (Going (fun _ => True) fun result os =>
        ∀ fd, result = .ok fd → Connected attempt nonBlocking timeoutMs fd os) := by
  refine Ensures.bind (fun result os => os.trace = [] ∧ ∀ fd, result = .ok fd →
    startupSockets k p = .ok () ∧ k.socket address.family .stream w = (.ok fd, os.world)) ?_ ?_
  · refine newSocket_ensures ?_ ?_ ?_
    · rintro os fd w' ⟨rfl, no_trace⟩ started h
      refine ⟨no_trace, ?_⟩
      rintro fd' same
      obtain rfl := Except.ok.inj same
      exact ⟨started, h⟩
    · rintro os e ⟨rfl, no_trace⟩ h
      exact ⟨no_trace, nofun⟩
    · rintro os code w' ⟨rfl, no_trace⟩ h
      exact ⟨no_trace, nofun⟩
  · intro result
    cases result with
    | error e => exact Ensures.pure fun os hos fd ok => nomatch ok
    | ok fd =>
      intro os hos
      obtain ⟨no_trace, made⟩ := hos
      obtain ⟨started, h⟩ := made fd rfl
      have fresh := law.socket_new h
      refine Ensures.bind (P := fun now => now.world = os.world ∧ now.trace = []) _
        (establish_truthful law address rounds fresh.1 fresh.2 ?_ ?_) ?_ os ⟨rfl, no_trace⟩
      · intro windows positive left
        exact arrives ⟨windows, positive, started, fd, os.world, h, left⟩
      · intro posix positive late
        exact onTime ⟨posix, positive, started, fd, os.world, h, late⟩
      · intro out
        cases out with
        | none => exact Ensures.pure fun os hos => trivial
        | some returned =>
          cases returned with
          | ok a =>
            refine Ensures.pure fun os hos fd' same => ?_
            obtain rfl := Except.ok.inj same
            exact hos
          | error e =>
            exact Ensures.bind (fun _ _ => True) (Ensures.of_value fun _ _ => trivial)
              fun _ => Ensures.pure fun os hos fd' same => nomatch same

theorem establish_of_leftPending {address : SocketAddress} (rounds : ℕ)
    (positive : 0 < timeoutMs) {w : σ} (left : LeftPending k attempt fd address w) :
    Ensures (fun os => os.world = w) (establish k .windows fd address false timeoutMs rounds)
      fun out os => out = some (.ok ()) ∧ attempt os.world fd ≠ .established := by
  refine Ensures.ite (fun _ => Ensures.map ?_) fun untimed => absurd ⟨nofun, positive⟩ untimed
  refine Ensures.weaken (Windows.doConnectTimeout_of_leftPending positive left) ?_
  rintro result os ⟨rfl, missing⟩
  exact ⟨rfl, missing⟩

theorem connect_of_pendingReturned {p : Platform} {address : SocketAddress} (rounds : ℕ) {w : σ}
    (h : PendingReturned k attempt p address timeoutMs w) :
    Ensures (fun os => os.world = w) (connect k p address timeoutMs rounds)
      fun out os => ∃ fd, out = some (.ok fd) ∧ attempt os.world fd ≠ .established := by
  obtain ⟨rfl, positive, started, fd, w', made, left⟩ := h
  refine Ensures.bind (fun result os => result = .ok fd ∧ os.world = w') ?_ ?_
  · refine newSocket_ensures ?_ ?_ ?_
    · rintro os fd' w'' rfl - h
      rw [made] at h
      obtain ⟨same, rfl⟩ := Prod.mk.inj h
      exact ⟨congrArg Except.ok (Except.ok.inj same).symm, rfl⟩
    · rintro os e rfl unstarted
      rw [started] at unstarted
      cases unstarted
    · rintro os code w'' rfl h
      rw [made] at h
      cases h
  · intro result
    cases result with
    | error e => exact Ensures.absurd fun os hos => nomatch hos.1
    | ok fd' =>
      refine Ensures.bind (fun out os => fd' = fd ∧ out = some (.ok ()) ∧
        attempt os.world fd ≠ .established) ?_ ?_
      · rintro os ⟨same, here⟩
        obtain rfl := Except.ok.inj same
        exact ⟨rfl, establish_of_leftPending rounds positive left os here⟩
      · intro out
        cases out with
        | none => exact Ensures.absurd fun os hos => nomatch hos.2.1
        | some returned =>
          cases returned with
          | error e => exact Ensures.absurd fun os hos => nomatch hos.2.1
          | ok a =>
            refine Ensures.pure fun os hos => ⟨fd, ?_, hos.2.2⟩
            rw [hos.1]

theorem connect_of_lateReturned {p : Platform} {address : SocketAddress} {w : σ} (errno : ℤ)
    (h : LateReturned k p address timeoutMs w) :
    ∃ rounds fd os, connect k p address timeoutMs rounds ⟨w, errno, []⟩ = (some (.ok fd), os) ∧
      ¬ ReadyInTime timeoutMs os.trace := by
  obtain ⟨rfl, positive, started, fd, w', made, late⟩ := h
  obtain ⟨rounds, os, run, missed⟩ :=
    Posix.doConnectTimeout_of_lateFound positive ⟨w', k.errnoLeft w', []⟩ rfl late
  refine ⟨rounds, fd, os, ?_, missed⟩
  have opened : newSocket k .posix address.family .stream ⟨w, errno, []⟩ = _ :=
    newSocket_ok started made
  rw [connect, connectInternal, bind_of_eq opened]
  simp only [establish, Bool.false_eq_true, not_false_eq_true, positive, and_self, if_true]
  rw [bind_of_eq run]
  rfl

/-- `connect` returns streams whose connection is there in time, in both builds, exactly
when it neither takes the path that returns a pending attempt nor the one that returns a
connection found too late. A clock that is steady keeps from the second. -/
theorem connect_ok_connected_iff {p : Platform} (law : Contract p k attempt nonBlocking)
    (address : SocketAddress) (timeoutMs : Int32) (w : σ) (errno : ℤ) :
    ((∀ rounds fd os, connect k p address timeoutMs rounds ⟨w, errno, []⟩ = (some (.ok fd), os) →
        Connected attempt nonBlocking timeoutMs fd os) ↔
      ¬ PendingReturned k attempt p address timeoutMs w ∧ ¬ LateReturned k p address timeoutMs w) ∧
    ∀ clock, Steady k clock → ¬ LateReturned k p address timeoutMs w := by
  refine ⟨⟨fun truthful => ⟨fun returned => ?_, fun late => ?_⟩, ?_⟩, ?_⟩
  · obtain ⟨fd, ok, missing⟩ := connect_of_pendingReturned (k := k) 0 returned ⟨w, errno, []⟩ rfl
    exact missing (truthful 0 fd _ (Prod.ext ok rfl)).established
  · obtain ⟨rounds, fd, os, run, missed⟩ := connect_of_lateReturned errno late
    exact missed (truthful rounds fd os run).inTime
  · rintro ⟨arrives, onTime⟩ rounds fd os out
    have truthful := connect_truthful law address rounds arrives onTime ⟨w, errno, []⟩ ⟨rfl, rfl⟩
    rw [out] at truthful
    exact truthful fd rfl
  · rintro clock steady ⟨-, -, -, fd, w', -, late⟩
    exact steady.not_lateFound fd address timeoutMs w' late

end

structure Net where
  attempt : Attempt
  nonBlocking : Bool
  errno : ℤ
  readings : ℕ
  deriving Repr

def pendingCode : Platform → ℤ
  | .posix => Qsox.Posix.einprogress
  | .windows => Winsock.wsaewouldblock

/-- A socket is found ready after `ms` milliseconds, or when the wait is over. -/
def net (p : Platform) (clock : ℕ → ℤ) (ms : ℤ) : Kernel Net where
  startup := .ofCode .success
  socket _ _ w := (.ok 3, { w with attempt := .idle, nonBlocking := false })
  close _ w := (.ok (), w)
  ioctl _ nonBlocking w := (.ok (), { w with nonBlocking })
  connect _ _ w :=
    if w.nonBlocking then
      (.error (pendingCode p), { w with attempt := .pending, errno := pendingCode p })
    else (.ok (), { w with attempt := .established })
  poll _ _ timeout w :=
    ((.ok (some ⟨false, true, false, false⟩), min ms timeout.toInt),
      { w with attempt := .established })
  select _ _ w :=
    match w.attempt with
    | .idle => (.ok none, w)
    | .failed _ => (.ok (some ⟨false, true⟩), w)
    | _ => (.ok (some ⟨true, false⟩), { w with attempt := .established })
  soError _ w := (.ok 0, w)
  now w := (clock w.readings, { w with readings := w.readings + 1 })
  errnoLeft w := w.errno

theorem net_contract (p : Platform) (clock : ℕ → ℤ) (ms : ℤ) :
    Contract p (net p clock ms) (fun w _ => w.attempt) (fun w _ => w.nonBlocking) where
  socket_new := by
    rintro family type w fd w' h
    obtain ⟨-, rfl⟩ := Prod.mk.inj h
    exact ⟨rfl, rfl⟩
  ioctl_sets := by
    rintro fd b w w' h
    obtain ⟨-, rfl⟩ := Prod.mk.inj h
    rfl
  ioctl_leads _ _ _ := .inl rfl
  connect_ok := by
    rintro fd a w w' h
    simp only [net] at h
    split_ifs at h
    · cases h
    · obtain ⟨-, rfl⟩ := Prod.mk.inj h
      rfl
  connect_isconn := by
    rintro rfl fd a w w' h
    simp only [net] at h
    split_ifs at h
    · obtain ⟨same, -⟩ := Prod.mk.inj h
      exact absurd (Except.error.inj same) (by decide)
    · cases h
  connect_mode fd a w := by
    simp only [net]
    split_ifs <;> rfl
  now_mode _ _ := rfl
  poll_ready := by
    rintro fd timeout w revents waited w' h - -
    obtain ⟨-, rfl⟩ := Prod.mk.inj h
    rfl
  poll_mode _ _ _ _ := rfl
  select_ready := by
    rintro fd timeout ⟨attempt, nonBlocking, errno, readings⟩ sets w' h
    cases attempt with
    | idle => cases h
    | failed code =>
      obtain ⟨same, rfl⟩ := Prod.mk.inj h
      obtain rfl := Option.some.inj (Except.ok.inj same)
      exact ⟨code, rfl⟩
    | pending | established =>
      obtain ⟨same, rfl⟩ := Prod.mk.inj h
      obtain rfl := Option.some.inj (Except.ok.inj same)
      rfl
  select_leads fd timeout w := by
    obtain ⟨attempt, nonBlocking, errno, readings⟩ := w
    cases attempt with
    | pending => exact .inr rfl
    | idle | established | failed code => exact .inl rfl

theorem net_not_late {clock : ℕ → ℤ} {ms before start : ℤ} {fd : SockFd} {timeoutMs : Int32}
    {w : Net}
    (soon : before + ms ≤ timeoutMs.toInt) :
    ¬ Posix.FindsLate (net .posix clock ms) fd timeoutMs start before w := by
  rintro (⟨-, -, answer, -, -, late⟩ | ⟨-, -, answer, rfl | rfl, -⟩)
  · obtain ⟨found, -⟩ := Prod.mk.inj answer
    obtain ⟨-, rfl⟩ := Prod.mk.inj found
    omega
  · cases answer
  · cases answer

def localhost : SocketAddress := ⟨.v4 (.ofOctets 127 0 0 1), 80⟩

theorem posix_connect_waits : ∃ os,
    connect (net .posix (fun _ => 0) 20) .posix localhost 5000 1 ⟨⟨.idle, false, 0, 0⟩, 0, []⟩ =
        (some (.ok 3), os) ∧
      Connected (fun w _ => w.attempt) (fun w _ => w.nonBlocking) 5000 3 os := by
  refine ⟨_, rfl, ((connect_ok_connected_iff (net_contract .posix (fun _ => 0) 20) localhost 5000
    ⟨.idle, false, 0, 0⟩ 0).1.mpr ⟨fun h => (nomatch h.1), ?_⟩) 1 3 _ rfl⟩
  rintro ⟨-, -, -, fd, w', -, w₁, w₂, w₃, w₄, code, start, -, -, -, -, -, finds⟩
  exact net_not_late (by decide) finds

def setBack (i : ℕ) : ℤ := if i = 0 then 0 else -1000000000

/-- On Windows a pending attempt is returned at once. On POSIX a connection is returned after
a second and a half, with a timeout of one second. -/
theorem connect_ok_unconnected :
    (Contract .windows (net .windows (fun _ => 0) 20) (fun w _ => w.attempt)
        (fun w _ => w.nonBlocking) ∧
      ∃ os, connect (net .windows (fun _ => 0) 20) .windows localhost 5000 1
          ⟨⟨.idle, false, 0, 0⟩, 0, []⟩ = (some (.ok 3), os) ∧
        os.world.attempt = .pending ∧
        ¬ Connected (fun w _ => w.attempt) (fun w _ => w.nonBlocking) 5000 3 os) ∧
    (Contract .posix (net .posix setBack 1500) (fun w _ => w.attempt) (fun w _ => w.nonBlocking) ∧
      ∃ os, connect (net .posix setBack 1500) .posix localhost 1000 1
          ⟨⟨.idle, false, 0, 0⟩, 0, []⟩ = (some (.ok 3), os) ∧
        ¬ Connected (fun w _ => w.attempt) (fun w _ => w.nonBlocking) 1000 3 os) :=
  ⟨⟨net_contract .windows (fun _ => 0) 20, _, rfl, rfl, fun h => nomatch h.established⟩,
    net_contract .posix setBack 1500, _, rfl, fun h => absurd (h.inTime _ _ _ _ rfl) (by decide)⟩

end Qsox.TcpConnect
