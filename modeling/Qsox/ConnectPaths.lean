import Qsox.PendingError

/-! The two ways to learn why a connection attempt failed, POSIX build: `errno`
after a blocking `connect`, and `SO_ERROR` after the wait. Each goes through a
translation of its own. -/

namespace Qsox.TcpConnect

open BaseSocket

abbrev attempts {σ : Type} (os : Os (Logged σ)) : List (Except ℤ Unit) := seen Entry.ofConnect os

/-- An error is the translation of the code the last `connect` has failed with. -/
def Translated {α : Type} (r : Option (Except Error α)) (attempts : List (Except ℤ Unit)) : Prop :=
  ∀ err, r = some (.error err) → ∀ code, attempts.getLast? = some (.error code) →
    err = Platform.posix.lastOsError code

section
variable {σ : Type} {sys : Sys σ} (fd : SockFd) (address : SocketAddress)

theorem connect_attempted :
    Ensures (fun _ => True) (Os.connect sys.logged.kernel fd address)
      fun returned os => returned = none → (attempts os).getLast? = some (.error os.errno) := by
  intro os _ refused
  obtain ⟨given, returned, log, failed⟩ := log_connect sys fd address os
  rw [attempts, seen, log, List.filterMap_append, failed refused]
  exact List.getLast?_concat

theorem Posix.connectRound_translated :
    Ensures (fun _ => True) (Posix.connectRound sys.logged.kernel fd address false)
      (Going (fun _ => True) fun r os => Translated (some r) (attempts os)) := by
  refine Ensures.bind _ (connect_attempted fd address) fun returned => ?_
  cases returned with
  | some a => exact Ensures.pure fun os _ => nofun
  | none =>
    refine Ensures.bind _ Os.getErrno_ensures fun errno => ?_
    refine Ensures.ite (fun inProgress => Ensures.pure fun os _ => nofun) fun _ => ?_
    refine Ensures.ite (fun _ => Ensures.pure fun os _ => trivial) fun _ => ?_
    refine Ensures.ite (fun _ => Ensures.pure fun os _ => nofun) fun _ => ?_
    refine Ensures.bind _ Os.lastOsError_ensures fun err => Ensures.pure fun os hos => ?_
    obtain ⟨⟨last, -⟩, rfl⟩ := hos
    intro err same code final
    obtain rfl := Except.error.inj (Option.some.inj same)
    rw [last rfl] at final
    obtain rfl := Except.error.inj (Option.some.inj final)
    rfl

end

theorem Translated.map {α β : Type} {r : Option (Except Error α)}
    {attempts : List (Except ℤ Unit)} (h : Translated r attempts) (f : α → β) :
    Translated (r.map fun res => res.map f) attempts := by
  cases r with
  | none => exact nofun
  | some res =>
    cases res with
    | ok a => exact nofun
    | error err =>
      intro err' same
      obtain rfl := Except.error.inj (Option.some.inj same)
      exact h err rfl

section
variable {σ : Type} {sys : Sys σ} (address : SocketAddress)

theorem establish_translated (fd : SockFd) (rounds : ℕ) :
    Ensures (fun _ => True) (establish sys.logged.kernel .posix fd address false 0 rounds)
      fun r os => Translated r (attempts os) := by
  refine (Ensures.whileTrue (Posix.connectRound_translated fd address) rounds).weaken
    fun r os h => ?_
  cases r with
  | none => exact nofun
  | some res => exact h

theorem connectInternal_translated (rounds : ℕ) :
    Ensures (fun os => attempts os = [])
      (connectInternal sys.logged.kernel .posix address false 0 rounds)
      fun r os => Translated r (attempts os) := by
  have quiet : Keeps (seen Entry.ofConnect)
      (newSocket sys.logged.kernel .posix address.family .stream) :=
    Keeps.newSocket (fun _ _ => rfl) address.family .stream
  refine Ensures.bind _ (quiet.holds fun made => made = []) fun r => ?_
  cases r with
  | error err =>
    refine Ensures.pure fun os none_yet err _ code last => ?_
    rw [attempts, none_yet] at last
    cases last
  | ok fd =>
    refine Ensures.bind _ ((establish_translated address fd rounds).strengthen fun _ _ => trivial)
      fun r => ?_
    match r with
    | none => exact Ensures.pure fun os h => nofun
    | some (.ok _) => exact Ensures.pure fun os h => nofun
    | some (.error err) =>
      have quiet : Keeps (seen Entry.ofConnect) (Os.close sys.logged.kernel fd) :=
        Keeps.close (fun _ _ => rfl) fd
      exact Ensures.bind _ (quiet.holds (Translated (some (.error err))))
        fun _ => Ensures.pure fun os h => h.map fun _ => fd

end

theorem pendingError_eq_lastOsError_iff (code : ℤ) :
    pendingError code = Platform.posix.lastOsError code ↔
      code ≠ 0 ∧ Qsox.Posix.codes.lookup code = none := by
  constructor
  · intro same
    have failed : code ≠ 0 := by
      intro zero
      have success := (pendingError_success_iff code).mpr zero
      rw [same] at success
      exact lastOsError_ne_success .posix code success
    refine ⟨failed, (Platform.lastOsError_isOsError_iff .posix code).mp ?_⟩
    rw [← same, pendingError, if_neg failed]
    rfl
  · intro ⟨failed, unnamed⟩
    have table : Platform.posix.codes.lookup code = none := unnamed
    rw [pendingError, if_neg failed, Platform.lastOsError, table]

/-- An attempt that fails with the same code either way is reported alike exactly
when `lastOsError` has no name for the code. -/
theorem reports_alike_iff {σ τ : Type} (sys : Sys σ) (sys' : Sys τ)
    (address address' : SocketAddress) (timeoutMs : Int32) (rounds rounds' : ℕ) (world : σ)
    (world' : τ) (errno errno' code : ℤ) {err err' : Error}
    (waited : (connect sys.logged.kernel .posix address timeoutMs rounds
      (Os.fresh world errno)).1 = some (.error err))
    (asked : .ok code ∈ answers (connect sys.logged.kernel .posix address timeoutMs rounds
      (Os.fresh world errno)).2)
    (blocked : (connect sys'.logged.kernel .posix address' 0 rounds'
      (Os.fresh world' errno')).1 = some (.error err'))
    (failed : (attempts (connect sys'.logged.kernel .posix address' 0 rounds'
      (Os.fresh world' errno')).2).getLast? = some (.error code)) :
    err = err' ↔ code ≠ 0 ∧ Qsox.Posix.codes.lookup code = none := by
  have pending : err = pendingError code := by
    have told : Told (connect sys.logged.kernel .posix address timeoutMs rounds
        (Os.fresh world errno)).1 _ :=
      connectInternal_tells address false timeoutMs rounds (Os.fresh world errno) rfl
    exact Except.error.inj (Option.some.inj (waited.symm.trans (told.passed code asked)))
  have translated : err' = Platform.posix.lastOsError code :=
    connectInternal_translated address' rounds' (Os.fresh world' errno') rfl err' blocked code failed
  rw [pending, translated, pendingError_eq_lastOsError_iff]

def failingLater (code : ℤ) : Sys Unit :=
  { Sys.refusing Qsox.Posix.einval with
    socket := fun _ _ w => (.ok 3, w)
    close := fun _ w => (.ok (), w)
    ioctl := fun _ _ w => (.ok (), w)
    connect := fun _ _ _ w => (.error Qsox.Posix.einprogress, w)
    errnoLeft := fun _ => Qsox.Posix.einprogress
    poll := fun _ _ _ w => ((.ok (some ⟨⟨false, true, true, true⟩, false⟩), 0), w)
    soError := fun _ w => (.ok code, w) }

def failingAtOnce (code : ℤ) : Sys Unit :=
  { Sys.refusing Qsox.Posix.einval with
    socket := fun _ _ w => (.ok 3, w)
    close := fun _ w => (.ok (), w)
    connect := fun _ _ _ w => (.error code, w) }

def loopbackHttp : SocketAddress := ⟨.v4 (.ofOctets 127 0 0 1), 80⟩

theorem unreachable_reported_alike :
    ∃ err err', (connect (failingLater 113).logged.kernel .posix loopbackHttp 5000 1
        (Os.fresh () 0)).1 = some (.error err) ∧
      (connect (failingAtOnce 113).logged.kernel .posix loopbackHttp 0 1
        (Os.fresh () 0)).1 = some (.error err') ∧ err = err' := by
  refine ⟨_, _, rfl, rfl, ?_⟩
  apply (reports_alike_iff (failingLater 113) (failingAtOnce 113) loopbackHttp loopbackHttp 5000
    1 1 () () 0 0 113 rfl ?_ rfl rfl).mpr
  · decide
  · exact List.mem_singleton.mpr rfl

/-- A refused connection is `Other` one way and `ConnectionRefused` the other. -/
theorem refusal_reported_apart :
    (connect (failingLater Qsox.Posix.econnrefused).kernel .posix loopbackHttp 5000 1
        ⟨(), 0, []⟩).1 = some (.error (.fromOs Qsox.Posix.econnrefused)) ∧
      (connect (failingAtOnce Qsox.Posix.econnrefused).kernel .posix loopbackHttp 0 1
        ⟨(), 0, []⟩).1 = some (.error (.ofCode .connectionRefused)) ∧
      Error.fromOs Qsox.Posix.econnrefused ≠ .ofCode .connectionRefused :=
  ⟨rfl, rfl, nofun⟩

end Qsox.TcpConnect
