import Qsox.Ledger
import Qsox.TcpConnected

/-! The arithmetic of the deadline in `doConnectTimeout`, against every script of clock
readings and answers of `poll`: what is handed to `poll`, and when time is over. It is
right exactly as long as the clock does not go back behind its first reading. -/

namespace Qsox.TcpConnect

open BaseSocket

/-- What the system will answer. Of what successful calls leave in `errno`, only
what the `ioctl` after the `connect` leaves is ever looked at. -/
structure Script where
  modeSet : Except ℤ Unit
  connect : Except ℤ Unit
  modeReset : Except ℤ Unit
  clock : ℕ → ℤ
  polls : ℕ → Except ℤ (Option Revents)
  soError : Except ℤ ℤ
  errnoLeft : ℤ

structure Tape where
  readings : ℕ
  polls : ℕ

namespace Script

def kernel (s : Script) : Kernel Tape where
  startup := .ofCode .success
  socket _ _ w := (.ok 3, w)
  close _ w := (.ok (), w)
  ioctl _ nonBlocking w := (if nonBlocking then s.modeSet else s.modeReset, w)
  connect _ _ w := (s.connect, w)
  poll _ _ _ w := ((s.polls w.polls, 0), { w with polls := w.polls + 1 })
  select _ _ w := (.error 0, w)
  soError _ w := (s.soError, w)
  now w := (s.clock w.readings, { w with readings := w.readings + 1 })
  errnoLeft _ := s.errnoLeft

def elapsed (s : Script) (i : ℕ) : ℤ := Posix.elapsedMs (s.clock 0) (s.clock (i + 1))

def GoesOn (s : Script) (i : ℕ) : Prop :=
  s.polls i = .error Qsox.Posix.eintr ∨ s.polls i = .ok none

def TimesOut (s : Script) (i : ℕ) : Prop :=
  s.polls i = .error Qsox.Posix.etimedout ∨
    (∃ revents, s.polls i = .ok (some revents) ∧ (revents.pollhup = true ∨ revents.pollerr = true)) ∧
      s.soError = .error Qsox.Posix.etimedout

end Script

/-- Every one of `n` rounds from `i` that is reached is good; a round leads to the
next if it `resumes`. -/
def EachReached (resumes good : ℕ → Prop) (i n : ℕ) : Prop :=
  ∀ j, i ≤ j → j < i + n → (∀ l, i ≤ l → l < j → resumes l) → good j

theorem eachReached_zero (resumes good : ℕ → Prop) (i : ℕ) : EachReached resumes good i 0 :=
  fun _ late early => absurd late (Nat.not_le.mpr early)

theorem eachReached_succ {resumes good : ℕ → Prop} {i n : ℕ} :
    EachReached resumes good i (n + 1) ↔
      good i ∧ (resumes i → EachReached resumes good (i + 1) n) := by
  constructor
  · intro h
    refine ⟨h i le_rfl (by omega) fun l late early => absurd late (Nat.not_le.mpr early), ?_⟩
    intro first j late early before
    refine h j (by omega) (by omega) fun l from_i early => ?_
    rcases Nat.eq_or_lt_of_le from_i with rfl | after
    · exact first
    · exact before l after early
  · intro ⟨first, rest⟩ j late early before
    rcases Nat.eq_or_lt_of_le late with rfl | after
    · exact first
    · refine rest (before i le_rfl after) j after (by omega) fun l from_next early => ?_
      exact before l (by omega) early

def Script.Resumes (s : Script) (timeoutMs : Int32) (i : ℕ) : Prop :=
  s.elapsed i < timeoutMs.toInt ∧ s.GoesOn i

/-- Before time is over, the clock is not behind its first reading, and no call
reports that time is over. -/
def Script.Steady (s : Script) (timeoutMs : Int32) (i : ℕ) : Prop :=
  s.elapsed i < timeoutMs.toInt → 0 ≤ s.elapsed i ∧ ¬ s.TimesOut i

/-- The narrowing and the subtraction are exact, and the timeout is in bounds. -/
structure Bounded (timeoutMs : Int32) (elapsed : ℤ) (timeout : Int32) : Prop where
  narrowed : -2 ^ 31 ≤ elapsed ∧ elapsed < 2 ^ 31
  subtracted : -2 ^ 31 ≤ timeoutMs.toInt - elapsed ∧ timeoutMs.toInt - elapsed < 2 ^ 31
  low : 1 ≤ timeout.toInt
  high : timeout.toInt ≤ timeoutMs.toInt

theorem bounded_iff {timeoutMs : Int32} {elapsed : ℤ} (early : elapsed < timeoutMs.toInt) :
    Bounded timeoutMs elapsed (timeoutMs - Int32.ofInt elapsed) ↔ 0 ≤ elapsed := by
  constructor
  · intro h
    have rest := toInt_rest h.subtracted.1 h.subtracted.2
    have high := h.high
    omega
  · intro nonneg
    have top := timeoutMs.toInt_lt
    have rest : (timeoutMs - Int32.ofInt elapsed).toInt = timeoutMs.toInt - elapsed :=
      toInt_rest (by omega) (by omega)
    exact ⟨by omega, by omega, by omega, by omega⟩

def readings (trace : List Event) : List ℤ :=
  trace.filterMap fun
    | .now reading => some reading
    | _ => none

def measured (trace : List Event) : ℤ :=
  Posix.elapsedMs ((readings trace).head?.getD 0) ((readings trace).getLast?.getD 0)

def PollsBounded (timeoutMs : Int32) : List Event → Prop :=
  Ledger.Each fun past event => ∀ timeout answer waited,
    event = .poll timeout answer waited → Bounded timeoutMs (measured past) timeout

/-- Every wait is in bounds, and time is over only when it was measured to be. -/
structure KeepsDeadline {σ : Type} (timeoutMs : Int32)
    (out : Option (Except Error Unit) × Os σ) : Prop where
  polls : PollsBounded timeoutMs out.2.trace
  timedOut : out.1 = some (.error (.ofCode .timedOut)) →
    timeoutMs.toInt ≤ measured out.2.trace

section
variable {timeoutMs : Int32} {trace : List Event}

@[simp] theorem pollsBounded_now {reading : ℤ} :
    PollsBounded timeoutMs (trace ++ [.now reading]) ↔ PollsBounded timeoutMs trace :=
  Ledger.each_append.trans (and_iff_left nofun)

@[simp] theorem pollsBounded_connect {returned : Except ℤ Unit} :
    PollsBounded timeoutMs (trace ++ [.connect returned]) ↔ PollsBounded timeoutMs trace :=
  Ledger.each_append.trans (and_iff_left nofun)

theorem pollsBounded_poll {timeout : Int32} {answer : Except ℤ (Option Revents)} {waited : ℤ} :
    PollsBounded timeoutMs (trace ++ [.poll timeout answer waited]) ↔
      PollsBounded timeoutMs trace ∧ Bounded timeoutMs (measured trace) timeout := by
  refine Ledger.each_append.trans (and_congr_right fun _ => ?_)
  constructor
  · intro h
    exact h timeout answer waited rfl
  · rintro h _ _ _ ⟨⟩
    exact h

end

structure Before (s : Script) (i : ℕ) (os : Os Tape) : Prop where
  world : os.world = ⟨i + 1, i⟩
  first : (readings os.trace).head? = some (s.clock 0)

def Script.pending (s : Script) : Error :=
  match s.soError with
  | .error code => Platform.posix.lastOsError code
  | .ok err => if err = 0 then .ofCode .success else .fromOs err

def Script.verdict (s : Script) (answer : Except ℤ (Option Revents)) :
    Option (Except Error Unit) :=
  match answer with
  | .error code =>
    if code = Qsox.Posix.eintr then none else some (.error (Platform.posix.lastOsError code))
  | .ok none => none
  | .ok (some revents) =>
    if revents.pollhup ∨ revents.pollerr then some (.error s.pending) else some (.ok ())

section
variable {s : Script} {fd : SockFd} {timeoutMs : Int32} {i : ℕ} {os : Os Tape}

@[simp] theorem readings_now (trace : List Event) (reading : ℤ) :
    readings (trace ++ [.now reading]) = readings trace ++ [reading] := List.filterMap_append

@[simp] theorem readings_poll (trace : List Event) (timeout : Int32)
    (answer : Except ℤ (Option Revents))
    (waited : ℤ) : readings (trace ++ [.poll timeout answer waited]) = readings trace := by
  rw [readings, List.filterMap_append]
  exact List.append_nil _

@[simp] theorem measured_poll (trace : List Event) (timeout : Int32)
    (answer : Except ℤ (Option Revents))
    (waited : ℤ) : measured (trace ++ [.poll timeout answer waited]) = measured trace := by
  rw [measured, readings_poll, measured]

theorem Before.measured (h : Before s i os) :
    measured (os.trace ++ [.now (s.clock (i + 1))]) = s.elapsed i := by
  rw [TcpConnect.measured, readings_now, List.head?_append, h.first, List.getLast?_concat]
  rfl

theorem getSocketError_pending (s : Script) (fd : SockFd) (os : Os Tape) :
    ∃ errno, getSocketError s.kernel .posix fd os = (s.pending, ⟨os.world, errno, os.trace⟩) := by
  cases answered : s.soError with
  | error code =>
    have asked : Os.soError s.kernel fd os = (none, ⟨os.world, code, os.trace⟩) :=
      Os.call_error (Prod.ext answered rfl)
    refine ⟨code, ?_⟩
    rw [getSocketError, bind_of_eq asked, Script.pending, answered]
    rfl
  | ok err =>
    have asked : Os.soError s.kernel fd os = (some err, ⟨os.world, s.errnoLeft, os.trace⟩) :=
      Os.call_ok (Prod.ext answered rfl)
    refine ⟨s.errnoLeft, ?_⟩
    rw [getSocketError, bind_of_eq asked, Script.pending, answered]
    rfl

theorem pollRound_late (h : Before s i os) (late : timeoutMs.toInt ≤ s.elapsed i) :
    Posix.pollRound s.kernel fd timeoutMs (s.clock 0) os =
      (some (.error (.ofCode .timedOut)),
        ⟨⟨i + 2, i⟩, os.errno, os.trace ++ [.now (s.clock (i + 1))]⟩) := by
  obtain ⟨world, errno, trace⟩ := os
  obtain rfl : world = ⟨i + 1, i⟩ := h.world
  have read : Os.now s.kernel (⟨⟨i + 1, i⟩, errno, trace⟩ : Os Tape) =
      (s.clock (i + 1), ⟨⟨i + 2, i⟩, errno, trace ++ [.now (s.clock (i + 1))]⟩) := rfl
  rw [Posix.pollRound, bind_of_eq read]
  exact congrFun (if_pos late) _

theorem pollRound_early (fd : SockFd) (h : Before s i os) (early : ¬ timeoutMs.toInt ≤ s.elapsed i) :
    (Posix.pollRound s.kernel fd timeoutMs (s.clock 0) os).1 = s.verdict (s.polls i) ∧
      (Posix.pollRound s.kernel fd timeoutMs (s.clock 0) os).2.world = ⟨i + 2, i + 1⟩ ∧
      (Posix.pollRound s.kernel fd timeoutMs (s.clock 0) os).2.trace =
        os.trace ++ [.now (s.clock (i + 1))] ++
          [.poll (timeoutMs - Int32.ofInt (s.elapsed i)) (s.polls i) 0] := by
  obtain ⟨world, errno, trace⟩ := os
  obtain rfl : world = ⟨i + 1, i⟩ := h.world
  have read : Os.now s.kernel (⟨⟨i + 1, i⟩, errno, trace⟩ : Os Tape) =
      (s.clock (i + 1), ⟨⟨i + 2, i⟩, errno, trace ++ [.now (s.clock (i + 1))]⟩) := rfl
  rw [Posix.pollRound, bind_of_eq read]
  have goesOn : ¬ timeoutMs.toInt ≤ Posix.elapsedMs (s.clock 0) (s.clock (i + 1)) := early
  simp only [if_neg goesOn]
  change (_ = _ ∧ _ = _ ∧ _ = trace ++ [.now (s.clock (i + 1))] ++
    [.poll (timeoutMs - Int32.ofInt (Posix.elapsedMs (s.clock 0) (s.clock (i + 1)))) (s.polls i) 0])
  generalize timeoutMs - Int32.ofInt (Posix.elapsedMs (s.clock 0) (s.clock (i + 1))) = timeout
  have polled : Os.poll s.kernel fd ⟨false, true⟩ timeout
      (⟨⟨i + 2, i⟩, errno, trace ++ [.now (s.clock (i + 1))]⟩ : Os Tape) =
        Os.after s.kernel (⟨⟨i + 2, i⟩, errno,
          trace ++ [.now (s.clock (i + 1))] ++ [.poll timeout (s.polls i) 0]⟩ : Os Tape)
          (s.polls i) ⟨i + 2, i + 1⟩ := rfl
  cases answered : s.polls i with
  | error code =>
    rw [answered] at polled
    rw [bind_of_eq polled]
    by_cases interrupted : code = Qsox.Posix.eintr
    · subst interrupted
      exact ⟨rfl, rfl, rfl⟩
    · have verdict : s.verdict (.error code) = some (.error (Platform.posix.lastOsError code)) :=
        if_neg interrupted
      have known : Os.getErrno (⟨⟨i + 2, i + 1⟩, code,
          trace ++ [.now (s.clock (i + 1))] ++ [.poll timeout (.error code) 0]⟩ : Os Tape) =
            (code, _) := rfl
      rw [verdict]
      simp only []
      rw [bind_of_eq known, if_pos interrupted]
      exact ⟨rfl, rfl, rfl⟩
  | ok found =>
    rw [answered] at polled
    rw [bind_of_eq polled]
    cases found with
    | none => exact ⟨rfl, rfl, rfl⟩
    | some revents =>
      by_cases bad : revents.pollhup = true ∨ revents.pollerr = true
      · have verdict : s.verdict (.ok (some revents)) = some (.error s.pending) := if_pos bad
        obtain ⟨errno', pending⟩ := getSocketError_pending s fd
          ⟨⟨i + 2, i + 1⟩, s.kernel.errnoLeft ⟨i + 2, i + 1⟩,
            trace ++ [.now (s.clock (i + 1))] ++ [.poll timeout (.ok (some revents)) 0]⟩
        rw [verdict]
        simp only [if_pos bad]
        rw [bind_of_eq pending]
        exact ⟨rfl, rfl, rfl⟩
      · have verdict : s.verdict (.ok (some revents)) = some (.ok ()) := if_neg bad
        rw [verdict]
        simp only [if_neg bad]
        exact ⟨rfl, rfl, rfl⟩

theorem verdict_eq_none_iff : s.verdict (s.polls i) = none ↔ s.GoesOn i := by
  unfold Script.verdict Script.GoesOn
  cases s.polls i with
  | error code => simp
  | ok found =>
    cases found with
    | none => simp
    | some revents =>
      by_cases bad : revents.pollhup = true ∨ revents.pollerr = true
      · simp [bad]
      · simp [bad]

theorem lastOsError_timedOut_iff {code : ℤ} :
    Platform.posix.lastOsError code = .ofCode .timedOut ↔ code = Qsox.Posix.etimedout := by
  have named : ErrorCode.timedOut ≠ .other := nofun
  rw [Platform.lastOsError_eq_ofCode_iff named]
  simp [Platform.codes, Qsox.Posix.codes]

theorem pending_timedOut_iff :
    s.pending = .ofCode .timedOut ↔ s.soError = .error Qsox.Posix.etimedout := by
  unfold Script.pending
  cases s.soError with
  | error code => simp [lastOsError_timedOut_iff]
  | ok err =>
    by_cases nothing : err = 0
    · simp [nothing, Error.ofCode]
    · simp [nothing, Error.ofCode, Error.fromOs]

theorem verdict_timedOut_iff :
    s.verdict (s.polls i) = some (.error (.ofCode .timedOut)) ↔ s.TimesOut i := by
  unfold Script.verdict Script.TimesOut
  cases s.polls i with
  | error code =>
    by_cases interrupted : code = Qsox.Posix.eintr
    · simp [interrupted, Qsox.Posix.eintr, Qsox.Posix.etimedout]
    · simp [interrupted, lastOsError_timedOut_iff]
  | ok found =>
    cases found with
    | none => simp
    | some revents =>
      by_cases bad : revents.pollhup = true ∨ revents.pollerr = true
      · simp [bad, pending_timedOut_iff]
      · simp [bad]

/-- The loop keeps the deadline exactly if every round that is reached is steady. -/
theorem wait_keeps_iff (rounds : ℕ) (before : Before s i os) :
    KeepsDeadline timeoutMs
        (whileTrue (Posix.pollRound s.kernel fd timeoutMs (s.clock 0)) rounds os) ↔
      PollsBounded timeoutMs os.trace ∧
        EachReached (s.Resumes timeoutMs) (s.Steady timeoutMs) i rounds := by
  induction rounds generalizing i os with
  | zero =>
    rw [and_iff_left (eachReached_zero _ _ i)]
    exact ⟨fun h => h.polls, fun h => ⟨h, nofun⟩⟩
  | succ rounds ih =>
    rw [eachReached_succ]
    by_cases late : timeoutMs.toInt ≤ s.elapsed i
    · have passed : s.Steady timeoutMs i := fun early => absurd late (not_le.mpr early)
      have last : ¬ s.Resumes timeoutMs i := fun resumes => absurd late (not_le.mpr resumes.1)
      rw [whileTrue_of_some (pollRound_late before late)]
      constructor
      · intro h
        exact ⟨pollsBounded_now.mp h.polls, passed, fun resumes => absurd resumes last⟩
      · intro h
        exact ⟨pollsBounded_now.mpr h.1, fun _ => before.measured.symm ▸ late⟩
    · obtain ⟨returned, world, trace⟩ := pollRound_early fd before late
      have early := not_le.mp late
      have bounded : PollsBounded timeoutMs
          (Posix.pollRound s.kernel fd timeoutMs (s.clock 0) os).2.trace ↔
            PollsBounded timeoutMs os.trace ∧ 0 ≤ s.elapsed i := by
        rw [trace, pollsBounded_poll, pollsBounded_now, before.measured, bounded_iff early]
      have last : measured (Posix.pollRound s.kernel fd timeoutMs (s.clock 0) os).2.trace =
          s.elapsed i := by
        rw [trace, measured_poll, before.measured]
      cases verdict : s.verdict (s.polls i) with
      | none =>
        have goesOn := verdict_eq_none_iff.mp verdict
        have untimed : ¬ s.TimesOut i := by
          intro timesOut
          rw [verdict_timedOut_iff.mpr timesOut] at verdict
          cases verdict
        have next : Before s (i + 1)
            (Posix.pollRound s.kernel fd timeoutMs (s.clock 0) os).2 :=
          ⟨world, by rw [trace, readings_poll, readings_now, List.head?_append, before.first]; rfl⟩
        rw [whileTrue_of_none (Prod.ext (returned.trans verdict) rfl), ih next, bounded]
        constructor
        · intro ⟨⟨polls, nonneg⟩, rest⟩
          exact ⟨polls, fun _ => ⟨nonneg, untimed⟩, fun _ => rest⟩
        · intro ⟨polls, steady, rest⟩
          exact ⟨⟨polls, (steady early).1⟩, rest ⟨early, goesOn⟩⟩
      | some r =>
        have stops : ¬ s.Resumes timeoutMs i := by
          intro resumes
          rw [verdict_eq_none_iff.mpr resumes.2] at verdict
          cases verdict
        rw [whileTrue_of_some (Prod.ext (returned.trans verdict) rfl)]
        constructor
        · intro h
          obtain ⟨polls, nonneg⟩ := bounded.mp h.polls
          refine ⟨polls, fun _ => ⟨nonneg, fun timesOut => ?_⟩, fun resumes => absurd resumes stops⟩
          have passed := h.timedOut (verdict.symm.trans (verdict_timedOut_iff.mpr timesOut))
          exact late (last ▸ passed)
        · intro ⟨polls, steady, _⟩
          obtain ⟨nonneg, untimed⟩ := steady early
          refine ⟨bounded.mpr ⟨polls, nonneg⟩, fun timedOut => ?_⟩
          exact absurd (verdict_timedOut_iff.mp (verdict.trans timedOut)) untimed

theorem keepsDeadline_unread_iff {r : Option (Except Error Unit)} (positive : 0 < timeoutMs)
    (polls : PollsBounded timeoutMs os.trace) (unread : readings os.trace = []) :
    KeepsDeadline timeoutMs (r, os) ↔ r ≠ some (.error (.ofCode .timedOut)) := by
  have start : measured os.trace = 0 := by
    rw [measured, unread]
    rfl
  have early : measured os.trace < timeoutMs.toInt := start ▸ Int32.lt_iff_toInt_lt.mp positive
  constructor
  · intro h timedOut
    exact absurd (h.timedOut timedOut) (not_le.mpr early)
  · intro untimed
    exact ⟨polls, fun timedOut => absurd timedOut untimed⟩

end

/-- No call reports that time is over; and where the attempt is waited for, every
round that is reached is steady. -/
def Script.Sound (s : Script) (timeoutMs : Int32) (rounds : ℕ) : Prop :=
  match s.modeSet, s.modeReset, s.connect with
  | .error code, _, _ | .ok (), .error code, _ => code ≠ Qsox.Posix.etimedout
  | .ok (), .ok (), .ok () => True
  | .ok (), .ok (), .error _ =>
    if s.errnoLeft = Qsox.Posix.einprogress then
      EachReached (s.Resumes timeoutMs) (s.Steady timeoutMs) 0 rounds
    else s.errnoLeft ≠ Qsox.Posix.etimedout

/-- The deadline is kept, whatever the clock reads and `poll` answers, exactly if the
clock was never behind its first reading when there was something to wait for. -/
theorem deadline_kept_iff (s : Script) (fd : SockFd) (address : SocketAddress)
    (timeoutMs : Int32) (positive : 0 < timeoutMs) (rounds : ℕ) (errno : ℤ) :
    KeepsDeadline timeoutMs (Posix.doConnectTimeout s.kernel fd address timeoutMs rounds
        ⟨⟨0, 0⟩, errno, []⟩) ↔ s.Sound timeoutMs rounds := by
  have untimed {code : ℤ} {os : Os Tape} (polls : PollsBounded timeoutMs os.trace)
      (unread : readings os.trace = []) :
      KeepsDeadline timeoutMs (some (.error (Platform.posix.lastOsError code)), os) ↔
        code ≠ Qsox.Posix.etimedout := by
    rw [keepsDeadline_unread_iff positive polls unread]
    simp [lastOsError_timedOut_iff]
  have nothing : PollsBounded timeoutMs [] := Ledger.each_nil _
  have tried {returned : Except ℤ Unit} :
      PollsBounded timeoutMs ([] ++ [.connect returned]) := pollsBounded_connect.mpr nothing
  cases set : s.modeSet with
  | error code =>
    rw [Posix.doConnectTimeout_unset positive (Prod.ext set rfl), untimed nothing rfl, Script.Sound,
      set]
  | ok a =>
    have blocking : s.kernel.ioctl fd true ⟨0, 0⟩ = (.ok (), ⟨0, 0⟩) := Prod.ext set rfl
    cases reset : s.modeReset with
    | error code =>
      rw [Posix.doConnectTimeout_unreset positive blocking rfl (Prod.ext reset rfl),
        untimed tried rfl, Script.Sound, set, reset]
    | ok b =>
      have unblocking : s.kernel.ioctl fd false ⟨0, 0⟩ = (.ok (), ⟨0, 0⟩) := Prod.ext reset rfl
      cases answered : s.connect with
      | ok c =>
        rw [Posix.doConnectTimeout_connected positive blocking (Prod.ext answered rfl) unblocking,
          keepsDeadline_unread_iff positive tried rfl, Script.Sound, set, reset, answered]
        exact iff_of_true nofun trivial
      | error code =>
        rw [Script.Sound, set, reset, answered]
        simp only []
        split_ifs with pending
        · rw [Posix.doConnectTimeout_waits positive blocking (Prod.ext answered rfl) unblocking
            pending]
          have started : Os.now s.kernel
              (⟨⟨0, 0⟩, s.errnoLeft, [] ++ [.connect (.error code)]⟩ : Os Tape) = (s.clock 0,
                ⟨⟨1, 0⟩, s.errnoLeft, [] ++ [.connect (.error code)] ++ [.now (s.clock 0)]⟩) := rfl
          have before : Before s 0
              ⟨⟨1, 0⟩, s.errnoLeft, [] ++ [.connect (.error code)] ++ [.now (s.clock 0)]⟩ :=
            ⟨rfl, rfl⟩
          have left : s.kernel.errnoLeft ⟨0, 0⟩ = s.errnoLeft := rfl
          rw [left, bind_of_eq started, wait_keeps_iff rounds before]
          exact and_iff_right (pollsBounded_now.mpr tried)
        · rw [Posix.doConnectTimeout_refused positive blocking (Prod.ext answered rfl) unblocking
            pending]
          exact untimed tried rfl

def clockStepsBack (ns : ℤ) : Script where
  modeSet := .ok ()
  connect := .error Qsox.Posix.einprogress
  modeReset := .ok ()
  clock i := if i = 0 then 0 else -ns
  polls _ := .ok none
  soError := .ok 0
  errnoLeft := Qsox.Posix.einprogress

theorem steady_clock_keeps_deadline :
    KeepsDeadline 1000 (Posix.doConnectTimeout (clockStepsBack 0).kernel 3 localhost 1000 2
      ⟨⟨0, 0⟩, 0, []⟩) := by
  refine (deadline_kept_iff (clockStepsBack 0) 3 localhost 1000 (by decide) 2 0).mpr ?_
  refine fun j _ _ _ _ => ⟨?_, ?_⟩
  · simp [Script.elapsed, clockStepsBack, Posix.elapsedMs]
  · simp [Script.TimesOut, clockStepsBack]

/-- After a step back of one second `poll` waits twice the time; after one of a
millisecond, with the largest timeout, the subtraction overflows and `poll` is to wait
without an end. -/
theorem clock_step_breaks_deadline :
    (Posix.doConnectTimeout (clockStepsBack 1000000000).kernel 3 localhost 1000 1
        ⟨⟨0, 0⟩, 0, []⟩).2.trace =
          [.connect (.error Qsox.Posix.einprogress), .now 0, .now (-1000000000),
            .poll 2000 (.ok none) 0] ∧
      (Posix.doConnectTimeout (clockStepsBack 1000000).kernel 3 localhost 2147483647 1
        ⟨⟨0, 0⟩, 0, []⟩).2.trace =
          [.connect (.error Qsox.Posix.einprogress), .now 0, .now (-1000000),
            .poll (-2147483648) (.ok none) 0] ∧
      ¬ KeepsDeadline 2147483647 (Posix.doConnectTimeout (clockStepsBack 1000000).kernel 3
        localhost 2147483647 1 ⟨⟨0, 0⟩, 0, []⟩) := by
  refine ⟨rfl, rfl, fun h => ?_⟩
  have bounded := h.polls [.connect (.error Qsox.Posix.einprogress), .now 0, .now (-1000000)]
    (.poll (-2147483648) (.ok none) 0) [] rfl _ _ _ rfl
  exact absurd bounded.low (by decide)

end Qsox.TcpConnect
