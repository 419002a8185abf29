import Qsox.Reports

/-! The operations that pass on an answer of `SO_ERROR`: `connect` of the POSIX
build and `pollOne`. Their result is compared with the answers in the log. -/

namespace Qsox

open BaseSocket

abbrev answers {σ : Type} (os : Os (Logged σ)) : List (Except ℤ ℤ) := seen Entry.ofSoError os

/-- An answer is passed on as the error, and only an answer becomes `Success`. -/
structure Told {α : Type} (r : Option (Except Error α)) (answers : List (Except ℤ ℤ)) : Prop where
  passed : ∀ answer, .ok answer ∈ answers → r = some (.error (pendingError answer))
  success : ∀ err, r = some (.error err) → err.code = .success → .ok 0 ∈ answers
  going : r = none → answers = []

theorem Told.of_honest {α : Type} {r : Option (Except Error α)} (h : Honest r) : Told r [] :=
  ⟨nofun, fun err same success => absurd success (h err same), fun _ => rfl⟩

theorem Told.map {α β : Type} {r : Option (Except Error α)} {answers : List (Except ℤ ℤ)}
    (h : Told r answers) (f : α → β) : Told (r.map fun res => res.map f) answers := by
  cases r with
  | none => exact ⟨fun a found => (nomatch h.passed a found), nofun, fun _ => h.going rfl⟩
  | some res =>
    cases res with
    | ok a => exact ⟨fun a found => (nomatch h.passed a found), nofun, nofun⟩
    | error err =>
      refine ⟨fun a found => ?_, fun err' same success => ?_, nofun⟩
      · obtain rfl := Except.error.inj (Option.some.inj (h.passed a found))
        rfl
      · obtain rfl := Except.error.inj (Option.some.inj same)
        exact h.success err rfl success

theorem Told.honest_iff {α : Type} {r : Option (Except Error α)} {answers : List (Except ℤ ℤ)}
    (h : Told r answers) : Honest r ↔ .ok 0 ∉ answers := by
  constructor
  · intro honest found
    exact honest _ (h.passed 0 found) rfl
  · intro missing err same success
    exact missing (h.success err same success)

def Tells {σ α : Type} (program : StateM (Os (Logged σ)) (Option (Except Error α))) : Prop :=
  Ensures (fun os => answers os = []) program fun r os => Told r (answers os)

section
variable {σ α : Type} {sys : Sys σ} {p : Platform}

theorem Tells.of_keeps {program : StateM (Os (Logged σ)) (Option (Except Error α))}
    (quiet : Keeps (seen Entry.ofSoError) program) (honest : Always Honest program) :
    Tells program := by
  intro os none_yet
  rw [answers, quiet os, ← answers, none_yet]
  exact Told.of_honest (honest os)

theorem Tells.bind {β : Type} {program : StateM (Os (Logged σ)) β}
    {next : β → StateM (Os (Logged σ)) (Option (Except Error α))}
    (quiet : Keeps (seen Entry.ofSoError) program) (rest : ∀ b, Tells (next b)) :
    Tells (program >>= next) :=
  Ensures.bind (fun _ os => answers os = []) (quiet.holds fun told => told = []) rest

theorem Tells.step {β : Type} {program : StateM (Os (Logged σ)) (Except Error β)}
    {next : Except Error β → StateM (Os (Logged σ)) (Option (Except Error α))}
    (quiet : Keeps (seen Entry.ofSoError) program) (honest : NoSuccess program)
    (failed : ∀ err : Error, err.code ≠ .success → Tells (next (.error err)))
    (done : ∀ b, Tells (next (.ok b))) : Tells (program >>= next) := by
  have both : Ensures (fun os => answers os = []) program
      fun r os => answers os = [] ∧ Honest (some r) :=
    fun os none_yet => ⟨(quiet os).trans none_yet, honest os⟩
  refine Ensures.bind _ both fun r => ?_
  cases r with
  | ok b => exact (done b).strengthen fun os h => h.1
  | error err =>
    intro os h
    exact failed err (h.2 err rfl) os h.1

theorem Tells.pure {r : Option (Except Error α)} (h : Honest r) :
    Tells (pure r : StateM (Os (Logged σ)) (Option (Except Error α))) :=
  Tells.of_keeps (Keeps.pure r) (Always.pure h)

theorem Tells.lastOsError (p : Platform) :
    Tells (Os.lastOsError p >>= fun err => Pure.pure (some (.error err)) :
      StateM (Os (Logged σ)) (Option (Except Error α))) :=
  Tells.of_keeps (Keeps.bind (Keeps.lastOsError p) fun _ => Keeps.pure _)
    fun _ => honest_error (lastOsError_ne_success p _)

def Asked (err : Error) (answers : List (Except ℤ ℤ)) : Prop :=
  (∃ answer, answers = [.ok answer] ∧ err = pendingError answer) ∨
    ∃ code, answers = [.error code] ∧ err = p.lastOsError code

theorem getSocketError_asked (fd : SockFd) :
    Ensures (fun os => answers os = []) (getSocketError sys.logged.kernel p fd)
      (fun err os => Asked (p := p) err (answers os)) := by
  refine Ensures.bind _ call_seen fun returned => ?_
  cases returned with
  | none =>
    intro os asked
    exact .inr ⟨os.errno, asked, rfl⟩
  | some answer =>
    intro os asked
    exact .inl ⟨answer, asked, rfl⟩

theorem Tells.getSocketError (fd : SockFd) :
    Tells (getSocketError sys.logged.kernel p fd >>= fun err => Pure.pure (some (.error err)) :
      StateM (Os (Logged σ)) (Option (Except Error α))) := by
  refine Ensures.bind _ (getSocketError_asked fd) fun err => Ensures.pure fun os asked => ?_
  rcases asked with ⟨answer, told, rfl⟩ | ⟨code, told, rfl⟩
  · refine ⟨fun a found => ?_, fun err same success => ?_, nofun⟩
    · rw [told, List.mem_singleton] at found
      rw [Except.ok.inj found]
    · obtain rfl := Except.error.inj (Option.some.inj same)
      rw [told, (pendingError_success_iff answer).mp success]
      exact List.mem_singleton.mpr rfl
  · refine ⟨fun a found => ?_, fun err same success => ?_, nofun⟩
    · rw [told, List.mem_singleton] at found
      cases found
    · obtain rfl := Except.error.inj (Option.some.inj same)
      exact absurd success (lastOsError_ne_success p code)

theorem Tells.ite {c : Prop} [Decidable c]
    {yes no : StateM (Os (Logged σ)) (Option (Except Error α))} (pos : Tells yes)
    (neg : Tells no) : Tells (if c then yes else no) :=
  Ensures.ite (fun _ => pos) fun _ => neg

theorem Tells.whileTrue {round : StateM (Os (Logged σ)) (Option (Except Error α))}
    (h : Tells round) (rounds : ℕ) : Tells (whileTrue round rounds) := by
  induction rounds with
  | zero => exact Tells.pure honest_none
  | succ rounds ih =>
    refine Ensures.bind _ h fun out => ?_
    cases out with
    | none => exact ih.strengthen fun os told => told.going rfl
    | some r => exact Ensures.pure fun os told => told

end

namespace TcpConnect

section
variable {σ : Type} {sys : Sys σ} (fd : SockFd) (address : SocketAddress)

theorem Posix.connectRound_honest {k : Kernel σ} (nonBlocking : Bool) :
    Always Honest (Posix.connectRound k fd address nonBlocking) := by
  refine Always.rest fun returned => ?_
  cases returned with
  | some a => exact Always.pure (honest_ok ())
  | none =>
    refine Always.rest fun errno => ?_
    refine Always.ite (fun _ => Always.pure (honest_ok ())) fun _ => ?_
    refine Always.ite (fun _ => Always.pure honest_none) fun _ => ?_
    refine Always.ite (fun _ => Always.pure (honest_ok ())) fun _ => ?_
    exact fun _ => honest_error (lastOsError_ne_success .posix _)

theorem Posix.doConnect_honest {k : Kernel σ} (nonBlocking : Bool) (rounds : ℕ) :
    Always Honest (Posix.doConnect k fd address nonBlocking rounds) := by
  have loop := Always.whileTrue honest_none
    (Posix.connectRound_honest (k := k) fd address nonBlocking) rounds
  refine Always.ite (fun _ => ?_) fun _ => loop
  refine Always.bind (NoSuccess.setNonBlocking fd true) fun r honest => ?_
  cases r with
  | error err => exact Always.pure (honest_error (honest err rfl))
  | ok a => exact loop

theorem Windows.connectOnce_honest {k : Kernel σ} (nonBlocking : Bool) :
    NoSuccess (Windows.connectOnce k fd address nonBlocking) := by
  refine Always.rest fun returned => ?_
  cases returned with
  | some a => exact NoSuccess.ok ()
  | none =>
    have named : Always (fun err : Error => err.code ≠ .success)
        (Os.lastOsError .windows : StateM (Os σ) Error) :=
      fun _ => lastOsError_ne_success .windows _
    refine Always.bind named fun err failed => ?_
    exact Always.ite (fun _ => NoSuccess.ok ()) fun _ => NoSuccess.error failed

theorem Windows.doConnect_honest {k : Kernel σ} (nonBlocking : Bool) :
    NoSuccess (Windows.doConnect k fd address nonBlocking) := by
  have once := Windows.connectOnce_honest (k := k) fd address nonBlocking
  refine Always.ite (fun _ => ?_) fun _ => once
  refine Always.bind (NoSuccess.setNonBlocking fd true) fun r honest => ?_
  cases r with
  | error err => exact NoSuccess.error (honest err rfl)
  | ok a => exact once

theorem Windows.selectWritable_honest {k : Kernel σ} (timeoutMs : Int32) :
    NoSuccess (Windows.selectWritable k fd timeoutMs) := by
  refine Always.rest fun returned => ?_
  cases returned with
  | none => exact NoSuccess.lastOsError .windows
  | some found =>
    cases found with
    | none => exact NoSuccess.error nofun
    | some sets =>
      refine Always.ite (fun _ => NoSuccess.ok ()) fun _ => Always.rest fun err => ?_
      exact Always.ite (fun failed => NoSuccess.error failed) fun _ => NoSuccess.ok ()

theorem Windows.doConnectTimeout_honest {k : Kernel σ} (timeoutMs : Int32) :
    NoSuccess (Windows.doConnectTimeout k fd address timeoutMs) := by
  refine Always.ite (fun _ => Windows.doConnect_honest fd address false) fun _ => ?_
  refine Always.bind (Windows.doConnect_honest fd address true) fun result first => ?_
  refine Always.bind (NoSuccess.setNonBlocking fd false) fun mode honest => ?_
  cases mode with
  | error err => exact NoSuccess.error (honest err rfl)
  | ok a =>
    cases result with
    | ok a => exact NoSuccess.ok ()
    | error err =>
      exact Always.ite (fun _ => Windows.selectWritable_honest fd timeoutMs) fun _ =>
        NoSuccess.error (first err rfl)

theorem Posix.pollRound_tells (timeoutMs : Int32) (start : ℤ) :
    Tells (Posix.pollRound sys.logged.kernel fd timeoutMs start) := by
  refine Tells.bind Keeps.now fun reading => Tells.ite (Tells.pure (honest_error nofun)) ?_
  refine Tells.bind (Keeps.poll fd _ _) fun returned => ?_
  cases returned with
  | none =>
    refine Tells.bind Keeps.getErrno fun errno => Tells.ite ?_ (Tells.pure honest_none)
    exact Tells.lastOsError .posix
  | some found =>
    cases found with
    | none => exact Tells.pure honest_none
    | some revents => exact Tells.ite (Tells.getSocketError fd) (Tells.pure (honest_ok ()))

theorem Posix.doConnectTimeout_tells (timeoutMs : Int32) (rounds : ℕ) :
    Tells (Posix.doConnectTimeout sys.logged.kernel fd address timeoutMs rounds) := by
  have plain : Tells (Posix.doConnect sys.logged.kernel fd address false rounds) :=
    Tells.of_keeps (Posix.doConnect_keeps fd address (fun _ _ => rfl) false rounds)
      (Posix.doConnect_honest fd address false rounds)
  refine Tells.ite plain ?_
  refine Tells.step (Keeps.setNonBlocking fd true) (NoSuccess.setNonBlocking fd true)
    (fun _ failed => Tells.pure (honest_error failed)) fun _ => ?_
  refine Tells.bind (Keeps.connect (fun _ _ => rfl) fd address) fun cres => ?_
  refine Tells.step (Keeps.setNonBlocking fd false) (NoSuccess.setNonBlocking fd false)
    (fun _ failed => Tells.pure (honest_error failed)) fun _ => ?_
  cases cres with
  | some a => exact Tells.pure (honest_ok ())
  | none =>
    refine Tells.bind Keeps.getErrno fun errno => Tells.ite ?_ (Tells.lastOsError .posix)
    exact Tells.bind Keeps.now fun start =>
      Tells.whileTrue (Posix.pollRound_tells fd timeoutMs start) rounds

end

/-- In one build the timeout leads to the wait that asks for `SO_ERROR`. -/
def WaitsByPoll (p : Platform) (nonBlocking : Bool) (timeoutMs : Int32) : Prop :=
  p = .posix ∧ nonBlocking = false ∧ 0 < timeoutMs

section
variable {σ : Type} {sys : Sys σ} {p : Platform} (address : SocketAddress)

theorem establish_tells (fd : SockFd) (nonBlocking : Bool) (timeoutMs : Int32) (rounds : ℕ) :
    Tells (establish sys.logged.kernel .posix fd address nonBlocking timeoutMs rounds) :=
  Tells.ite (Posix.doConnectTimeout_tells fd address timeoutMs rounds)
    (Tells.of_keeps (Posix.doConnect_keeps fd address (fun _ _ => rfl) nonBlocking rounds)
      (Posix.doConnect_honest fd address nonBlocking rounds))

theorem establish_honest {k : Kernel σ} (fd : SockFd) {nonBlocking : Bool} {timeoutMs : Int32}
    (rounds : ℕ) (h : ¬ WaitsByPoll p nonBlocking timeoutMs) :
    Always Honest (establish k p fd address nonBlocking timeoutMs rounds) := by
  cases p with
  | posix =>
    refine Always.ite (fun waits => ?_) fun _ =>
      Posix.doConnect_honest fd address nonBlocking rounds
    exact absurd ⟨rfl, Bool.eq_false_iff.mpr waits.1, waits.2⟩ h
  | windows =>
    exact Always.ite (fun _ => Windows.doConnectTimeout_honest fd address timeoutMs)
      fun _ => Windows.doConnect_honest fd address nonBlocking

theorem connectInternal_honest {k : Kernel σ} {nonBlocking : Bool} {timeoutMs : Int32}
    (rounds : ℕ) (h : ¬ WaitsByPoll p nonBlocking timeoutMs) :
    Always Honest (connectInternal k p address nonBlocking timeoutMs rounds) := by
  refine Always.bind (NoSuccess.newSocket _ _) fun r honest => ?_
  cases r with
  | error err => exact Always.pure (honest_error (honest err rfl))
  | ok fd =>
    refine Always.bind (establish_honest address fd rounds h) fun r honest => ?_
    match r with
    | none => exact Always.pure honest_none
    | some (.ok _) => exact Always.pure (honest_ok fd)
    | some (.error err) => exact Always.rest fun _ => Always.pure (honest_error (honest err rfl))

theorem connectInternal_tells (nonBlocking : Bool) (timeoutMs : Int32) (rounds : ℕ) :
    Tells (connectInternal sys.logged.kernel .posix address nonBlocking timeoutMs
      rounds) := by
  refine Tells.step (Keeps.newSocket (fun _ _ => rfl) _ _) (NoSuccess.newSocket _ _)
    (fun _ failed => Tells.pure (honest_error failed)) fun fd => ?_
  refine Ensures.bind _ (establish_tells address fd nonBlocking timeoutMs rounds) fun r => ?_
  match r with
  | none => exact Ensures.pure fun os told => told.map fun _ => fd
  | some (.ok _) => exact Ensures.pure fun os told => told.map fun _ => fd
  | some (.error err) =>
    have quiet : Keeps (seen Entry.ofSoError) (Os.close sys.logged.kernel fd) :=
      Keeps.close (fun _ _ => rfl) fd
    exact Ensures.bind _ (quiet.holds (Told (some (.error err))))
      fun _ => Ensures.pure fun os told => told.map fun _ => fd

end
end TcpConnect

namespace Poll

section
variable {σ : Type} {sys : Sys σ} (fd : SockFd) (poll : PollType) (timeoutMs : Int32)

theorem Posix.classify_tells (revents : PollRevents) :
    Tells (some <$> Posix.classify sys.logged fd revents) := by
  unfold Posix.classify
  split_ifs
  · exact Tells.pure (honest_ok _)
  · exact Tells.pure (honest_ok _)
  · exact Tells.getSocketError fd
  · exact Tells.pure (honest_ok _)

theorem Posix.pollRound_tells : Tells (Posix.pollRound sys.logged fd poll timeoutMs) := by
  let asked : PollEvents := ⟨poll.hasRead, poll.hasWrite⟩
  refine Tells.bind (Keeps.silent (f := fun w =>
    ((sys.poll fd asked timeoutMs w).1.1, (sys.poll fd asked timeoutMs w).2))) fun returned => ?_
  match returned with
  | some none => exact Tells.pure (honest_ok _)
  | none =>
    refine Tells.of_keeps ?_ ?_
    · exact Keeps.bind (Keeps.lastOsError .posix) fun _ => Keeps.ite (Keeps.pure _) (Keeps.pure _)
    · have named : Always (fun err : Error => err.code ≠ .success)
          (Os.lastOsError .posix : StateM (Os (Logged σ)) Error) :=
        fun _ => lastOsError_ne_success .posix _
      refine Always.bind named fun err failed => ?_
      exact Always.ite (fun _ => Always.pure honest_none) fun _ =>
        Always.pure (honest_error failed)
  | some (some revents) =>
    exact Tells.ite (Tells.getSocketError fd) (Posix.classify_tells fd revents)

theorem Windows.pollOne_tells : Tells (some <$> Windows.pollOne sys.logged fd poll timeoutMs) := by
  rw [Windows.pollOne, map_bind]
  refine Tells.bind Keeps.silent fun returned => ?_
  match returned with
  | some none => exact Tells.pure (honest_ok _)
  | none => exact Tells.lastOsError .windows
  | some (some sets) =>
    simp only
    split_ifs
    · exact Tells.pure (honest_ok _)
    · exact Tells.pure (honest_ok _)
    · exact Tells.getSocketError fd
    · exact Tells.pure (honest_ok _)

theorem pollOne_tells (p : Platform) (rounds : ℕ) :
    Tells (pollOne sys.logged p fd poll timeoutMs rounds) := by
  cases p with
  | posix => exact Tells.whileTrue (Posix.pollRound_tells fd poll timeoutMs) rounds
  | windows => exact Windows.pollOne_tells fd poll timeoutMs

end
end Poll

end Qsox
