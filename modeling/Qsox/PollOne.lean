import Qsox.Reports
import Qsox.Timeline

/-! What `pollOne` promises, and when each build keeps it. -/

namespace Qsox.Poll

open BaseSocket

def Returns (p : Platform) (line : Timeline) (fd : SockFd) (poll : PollType) (timeoutMs : Int32)
    (start : ℕ) (res : Except Error PollResult) (u : ℕ) : Prop :=
  ∃ rounds, (pollOne line.sys p fd poll timeoutMs rounds ⟨some start, 0, []⟩).1 = some res ∧
    (pollOne line.sys p fd poll timeoutMs rounds ⟨some start, 0, []⟩).2.world = some u

def requested (poll : PollType) : PollEvents := ⟨poll.hasRead, poll.hasWrite⟩

/-- The contract: a direction is reported only when it was asked for and is ready,
and as soon as one is; a timeout is kept to, and only then reported. -/
structure Meets (p : Platform) (line : Timeline) (fd : SockFd) (poll : PollType)
    (timeoutMs : Int32) (start : ℕ) : Prop where
  readable : ∀ u, Returns p line fd poll timeoutMs start (.ok .readable) u →
    poll.hasRead ∧ (line u).readable
  writable : ∀ u, Returns p line fd poll timeoutMs start (.ok .writable) u →
    poll.hasWrite ∧ (line u).writable
  prompt : ∀ u, FirstNoticed line (requested poll) start u → InTime timeoutMs start u →
    (line u).ready (requested poll) →
    ∃ res, Returns p line fd poll timeoutMs start res u ∧ (res = .ok .readable ∨ res = .ok .writable)
  timeout : ∀ u, Returns p line fd poll timeoutMs start (.ok .timeout) u →
    0 ≤ timeoutMs.toInt ∧ start + micros timeoutMs ≤ u ∧
      ∀ v, start ≤ v → v ≤ start + micros timeoutMs → (line v).ready (requested poll) = false
  returns : 0 ≤ timeoutMs.toInt → ∃ res u, Returns p line fd poll timeoutMs start res u
  bounded : 0 ≤ timeoutMs.toInt → ∀ res u, Returns p line fd poll timeoutMs start res u →
    u ≤ start + micros timeoutMs
  waits : timeoutMs.toInt < 0 → ∀ res u, Returns p line fd poll timeoutMs start res u →
    FirstNoticed line (requested poll) start u
  wakes : timeoutMs.toInt < 0 → ∀ u, FirstNoticed line (requested poll) start u →
    ∃ res, Returns p line fd poll timeoutMs start res u

/-- When the contract is kept. POSIX: what is found first has not failed as well, and
no signal comes in a wait that ends with the timeout. Windows: where there is no time
to wait something is there at once, and of two directions the first one is ready. -/
def Favourable (p : Platform) (line : Timeline) (poll : PollType) (timeoutMs : Int32)
    (start : ℕ) : Prop :=
  match p with
  | .posix =>
    (∀ u, FirstNoticed line (requested poll) start u → InTime timeoutMs start u →
      (line u).ready (requested poll) → (line u).failed = false) ∧
    (0 ≤ timeoutMs.toInt → Quiet line (requested poll) start (start + micros timeoutMs) →
      ∀ v, start < v → v ≤ start + micros timeoutMs → (line v).signal = false)
  | .windows =>
    (timeoutMs.toInt ≤ 0 → (line start).noticed (requested poll)) ∧
    ∀ u, FirstNoticed line (requested poll) start u → InTime timeoutMs start u →
      (line u).ready (requested poll) → poll.hasRead → (line u).readable

section
variable (line : Timeline) (fd : SockFd) (poll : PollType) (timeoutMs : Int32)

theorem getSocketError_pending (p : Platform) (u : ℕ) :
    Ensures (fun os => os.world = some u) (getSocketError line.sys.kernel p fd)
      fun err os => err = pendingError (line u).pending ∧ os.world = some u := by
  refine Ensures.bind (fun returned os => returned = some (line u).pending ∧ os.world = some u)
    ?_ fun returned => ?_
  · rintro ⟨now, errno, trace⟩ rfl
    exact ⟨rfl, rfl⟩
  · cases returned with
    | none => exact Ensures.absurd fun os h => nomatch h.1
    | some err =>
      refine Ensures.pure fun os ⟨answered, now⟩ => ⟨?_, now⟩
      rw [Option.some.inj answered, pendingError]

namespace Posix

/-- What is made of a socket found at one moment: a failure goes before all else. -/
def outcome (s : Status) : Except Error PollResult :=
  if s.failed then .error (pendingError s.pending)
  else if poll.hasRead && s.readable then .ok .readable
  else if poll.hasWrite && s.writable then .ok .writable
  else .ok .none

inductive Round (t : ℕ) : Option (Except Error PollResult) → Option ℕ → Prop
  | found (u : ℕ) (first : FirstNoticed line (requested poll) t u) (inTime : InTime timeoutMs t u) :
      Round t (some (outcome poll (line u))) (some u)
  | interrupted (u : ℕ) (late : t < u) (signal : (line u).signal)
      (quiet : Quiet line (requested poll) t u) (inTime : InTime timeoutMs t u) :
      Round t none (some u)
  | expired (limited : 0 ≤ timeoutMs.toInt)
      (quiet : Quiet line (requested poll) t (t + micros timeoutMs))
      (calm : ∀ v, t < v → v ≤ t + micros timeoutMs → (line v).signal = false) :
      Round t (some (.ok .timeout)) (some (t + micros timeoutMs))
  | never (unlimited : timeoutMs.toInt < 0) (quiet : ∀ u, Quiet line (requested poll) t u) :
      Round t none none

section
variable {line poll timeoutMs} {t : ℕ} {now : Option ℕ}

theorem Round.of_timeout (h : Polled line (requested poll) timeoutMs t (.ok none) now) :
    Round line poll timeoutMs t (some (.ok .timeout)) now := by
  cases h with
  | expired limited quiet calm => exact .expired limited quiet calm

theorem Round.of_error {code : ℤ}
    (h : Polled line (requested poll) timeoutMs t (.error code) now) :
    code = Qsox.Posix.eintr ∧ Round line poll timeoutMs t none now := by
  cases h with
  | interrupted u late signal quiet inTime => exact ⟨rfl, .interrupted u late signal quiet inTime⟩
  | never unlimited quiet => exact ⟨rfl, .never unlimited quiet⟩

theorem Round.of_found {revents : PollRevents}
    (h : Polled line (requested poll) timeoutMs t (.ok (some revents)) now) :
    ∃ u, now = some u ∧ revents = (line u).revents (requested poll) ∧
      Round line poll timeoutMs t (some (outcome poll (line u))) now := by
  cases h with
  | found u first inTime => exact ⟨u, rfl, rfl, .found u first inTime⟩

end

theorem failed_iff {s : Status} {events : PollEvents} :
    (s.revents events).pollhup ∨ (s.revents events).pollerr ∨ (s.revents events).pollnval ↔
      s.failed := by
  simp only [Status.revents, Status.failed, Bool.or_eq_true, or_assoc]

theorem classify_outcome {s : Status} (sound : ¬ s.failed) :
    classify line.sys fd (s.revents (requested poll)) = pure (outcome poll s) := by
  have errorless : (s.revents (requested poll)).pollerr = false :=
    Bool.eq_false_iff.mpr fun error => sound (failed_iff.mp (.inr (.inl error)))
  unfold classify outcome
  rw [if_neg sound, errorless]
  simp only [Status.revents, requested, Bool.false_eq_true, if_false]
  split_ifs <;> rfl

theorem pollRound_round (t : ℕ) :
    Ensures (fun os => os.world = some t) (pollRound line.sys fd poll timeoutMs)
      fun out os => Round line poll timeoutMs t out os.world := by
  refine Ensures.bind (fun returned os =>
    Polled line (requested poll) timeoutMs t (os.answer returned) os.world) ?_ fun returned => ?_
  · rintro ⟨now, errno, trace⟩ rfl
    have polled := pollAt_polled line (requested poll) timeoutMs t
    rw [Os.call, Os.answer_after, Os.world_after]
    exact polled
  · cases returned with
    | none =>
      refine Ensures.bind (fun error os => error.osCode = Qsox.Posix.eintr ∧
        Round line poll timeoutMs t none os.world) ?_ fun error => ?_
      · intro os polled
        obtain ⟨code, round⟩ := Round.of_error polled
        refine ⟨?_, round⟩
        change (Platform.posix.lastOsError os.errno).osCode = Qsox.Posix.eintr
        rw [code]
        rfl
      · exact Ensures.ite (fun _ => Ensures.pure fun os h => h.2)
          fun other => Ensures.absurd fun os h => other h.1
    | some found =>
      cases found with
      | none => exact Ensures.pure fun os polled => Round.of_timeout polled
      | some revents =>
        refine Ensures.ite (fun failed os polled => ?_) fun sound os polled => ?_
        · obtain ⟨u, now, rfl, round⟩ := Round.of_found polled
          obtain ⟨reported, still⟩ := getSocketError_pending line fd .posix u os now
          have error : outcome poll (line u) = .error (pendingError (line u).pending) :=
            if_pos (failed_iff.mp failed)
          rw [now, error, ← reported, ← still] at round
          exact round
        · obtain ⟨u, now, rfl, round⟩ := Round.of_found polled
          have classified :=
            classify_outcome line fd poll fun failed => sound (failed_iff.mpr failed)
          rw [classified]
          exact round

theorem exists_round {t : ℕ} {os : Os (Option ℕ)} (now : os.world = some t) :
    ∃ out os', pollRound line.sys fd poll timeoutMs os = (out, os') ∧
      Round line poll timeoutMs t out os'.world :=
  ⟨_, _, rfl, pollRound_round line fd poll timeoutMs t os now⟩

theorem pollRound_never :
    Ensures (fun os => os.world = none) (pollRound line.sys fd poll timeoutMs)
      fun out os => out = none ∧ os.world = none := by
  rintro ⟨now, errno, trace⟩ rfl
  exact ⟨rfl, rfl⟩

def Ended (start : ℕ) (res : Except Error PollResult) (u : ℕ) : Prop :=
  FirstNoticed line (requested poll) start u ∧ res = outcome poll (line u) ∨
    0 ≤ timeoutMs.toInt ∧ Quiet line (requested poll) start u ∧ start + micros timeoutMs ≤ u ∧
      res = .ok .timeout

def Waiting (start : ℕ) (os : Os (Option ℕ)) : Prop :=
  ∀ t, os.world = some t → Resumed line (requested poll) start t

theorem pollRound_waiting (start : ℕ) :
    Ensures (Waiting line poll start) (pollRound line.sys fd poll timeoutMs)
      (Going (Waiting line poll start) fun res os =>
        ∃ u, os.world = some u ∧ Ended line poll timeoutMs start res u) := by
  intro os waiting
  cases now : os.world with
  | none =>
    obtain ⟨out, still⟩ := pollRound_never line fd poll timeoutMs os now
    rw [out]
    intro t at_t
    rw [still] at at_t
    cases at_t
  | some t =>
    have resumed := waiting t now
    obtain ⟨out, os', once, round⟩ := exists_round line fd poll timeoutMs now
    generalize at_end : os'.world = last at round
    rw [once]
    cases round with
    | found u first inTime => exact ⟨u, at_end, .inl ⟨resumed.first first, rfl⟩⟩
    | interrupted u late signal quiet inTime =>
      intro t' at_t'
      obtain rfl : u = t' := Option.some.inj (at_end.symm.trans at_t')
      exact ⟨resumed.later.trans late.le,
        fun v after before => resumed.quiet quiet v after before.le⟩
    | expired limited quiet calm =>
      have long : start + micros timeoutMs ≤ t + micros timeoutMs :=
        Nat.add_le_add_right resumed.later _
      exact ⟨_, at_end, .inr ⟨limited, resumed.quiet quiet, long, rfl⟩⟩
    | never unlimited quiet =>
      intro t' at_t'
      cases at_end.symm.trans at_t'

theorem pollOne_ended (start rounds : ℕ) :
    Ensures (fun os => os.world = some start) (pollOne line.sys fd poll timeoutMs rounds)
      (Going (Waiting line poll start) fun res os =>
        ∃ u, os.world = some u ∧ Ended line poll timeoutMs start res u) := by
  refine Ensures.strengthen (fun os now t at_t => ?_)
    (Ensures.whileTrue (pollRound_waiting line fd poll timeoutMs start) rounds)
  obtain rfl : start = t := Option.some.inj (now.symm.trans at_t)
  exact ⟨le_rfl, fun v after before => absurd after (not_le.mpr before)⟩

theorem ended_of_pollOne {start rounds u : ℕ} {os : Os (Option ℕ)} {res : Except Error PollResult}
    (now : os.world = some start)
    (returned : (pollOne line.sys fd poll timeoutMs rounds os).1 = some res)
    (finished : (pollOne line.sys fd poll timeoutMs rounds os).2.world = some u) :
    Ended line poll timeoutMs start res u := by
  have ended := pollOne_ended line fd poll timeoutMs start rounds os now
  rw [returned] at ended
  obtain ⟨u', at_u', ended⟩ := ended
  obtain rfl : u = u' := Option.some.inj (finished.symm.trans at_u')
  exact ended

/-- What is found in time is returned, however often signals come before. -/
theorem pollOne_found {t u : ℕ} {os : Os (Option ℕ)} (now : os.world = some t)
    (first : FirstNoticed line (requested poll) t u) (inTime : InTime timeoutMs t u) :
    ∃ rounds, (pollOne line.sys fd poll timeoutMs rounds os).1 = some (outcome poll (line u)) ∧
      (pollOne line.sys fd poll timeoutMs rounds os).2.world = some u := by
  -- every signal before `u` shortens what is left of the way
  induction left : u - t using Nat.strong_induction_on generalizing t os with
  | _ left ih =>
    obtain ⟨out, os', once, round⟩ := exists_round line fd poll timeoutMs now
    generalize at_end : os'.world = last at round
    cases round with
    | found v first' inTime' =>
      obtain rfl : v = u := first'.unique first
      refine ⟨1, ?_⟩
      rw [pollOne, whileTrue_of_some once]
      exact ⟨rfl, at_end⟩
    | interrupted v late signal quiet inTime' =>
      have before : v < u := quiet.lt_first first
      have rest : FirstNoticed line (requested poll) v u :=
        ⟨⟨before.le, first.1.2⟩, fun w hw => first.2 ⟨late.le.trans hw.1, hw.2⟩⟩
      have still : InTime timeoutMs v u := fun limited =>
        (inTime limited).trans (Nat.add_le_add_right late.le _)
      obtain ⟨rounds, returned, finished⟩ := ih (u - v) (by omega) at_end rest still rfl
      refine ⟨rounds + 1, ?_⟩
      rw [pollOne, whileTrue_of_none once]
      exact ⟨returned, finished⟩
    | expired limited quiet calm => exact absurd (inTime limited) (not_le.mpr (quiet.lt_first first))
    | never unlimited quiet => exact absurd ((quiet u).lt_first first) (lt_irrefl u)

theorem pollOne_expired {t : ℕ} {os : Os (Option ℕ)} (now : os.world = some t)
    (limited : 0 ≤ timeoutMs.toInt)
    (quiet : Quiet line (requested poll) t (t + micros timeoutMs))
    (calm : ∀ v, t < v → v ≤ t + micros timeoutMs → (line v).signal = false) :
    (pollOne line.sys fd poll timeoutMs 1 os).1 = some (.ok .timeout) ∧
      (pollOne line.sys fd poll timeoutMs 1 os).2.world = some (t + micros timeoutMs) := by
  obtain ⟨out, os', once, round⟩ := exists_round line fd poll timeoutMs now
  generalize at_end : os'.world = last at round
  cases round with
  | found u first inTime => exact absurd (inTime limited) (not_le.mpr (quiet.lt_first first))
  | interrupted u late signal quiet inTime =>
    have unsignalled := calm u late (inTime limited)
    exact absurd (unsignalled.symm.trans signal) Bool.false_ne_true
  | expired =>
    rw [pollOne, whileTrue_of_some once]
    exact ⟨rfl, at_end⟩
  | never unlimited => exact absurd limited (not_le.mpr unlimited)

/-- A signal in a quiet wait starts the timeout anew. -/
theorem pollOne_overdue {t s : ℕ} {os : Os (Option ℕ)} (now : os.world = some t)
    (limited : 0 ≤ timeoutMs.toInt)
    (quiet : Quiet line (requested poll) t (t + micros timeoutMs)) (after : t < s)
    (before : s ≤ t + micros timeoutMs) (signal : (line s).signal) {rounds u : ℕ}
    {res : Except Error PollResult}
    (returned : (pollOne line.sys fd poll timeoutMs rounds os).1 = some res)
    (finished : (pollOne line.sys fd poll timeoutMs rounds os).2.world = some u) :
    t + micros timeoutMs < u := by
  cases rounds with
  | zero => cases returned
  | succ rounds =>
    obtain ⟨out, os', once, round⟩ := exists_round line fd poll timeoutMs now
    generalize at_end : os'.world = last at round
    cases round with
    | found v first inTime => exact absurd (inTime limited) (not_le.mpr (quiet.lt_first first))
    | interrupted v late _ _ inTime =>
      rw [pollOne, whileTrue_of_none once] at returned finished
      rcases ended_of_pollOne line fd poll timeoutMs at_end returned finished with
        ⟨first, -⟩ | ⟨-, -, long, -⟩
      · by_contra early
        have unnoticed := quiet u (late.le.trans first.1.1) (not_lt.mp early)
        exact absurd (unnoticed.symm.trans first.1.2) Bool.false_ne_true
      · exact (Nat.add_lt_add_right late _).trans_le long
    | expired _ _ calm => exact absurd ((calm s after before).symm.trans signal) Bool.false_ne_true
    | never unlimited => exact absurd limited (not_le.mpr unlimited)

theorem ended_of_returns {start u : ℕ} {res : Except Error PollResult}
    (h : Returns .posix line fd poll timeoutMs start res u) :
    Ended line poll timeoutMs start res u := by
  obtain ⟨rounds, returned, finished⟩ := h
  exact ended_of_pollOne line fd poll timeoutMs rfl returned finished

theorem returns_found {start u : ℕ} (first : FirstNoticed line (requested poll) start u)
    (inTime : InTime timeoutMs start u) :
    Returns .posix line fd poll timeoutMs start (outcome poll (line u)) u :=
  pollOne_found line fd poll timeoutMs rfl first inTime

theorem returns_expired {start : ℕ} (limited : 0 ≤ timeoutMs.toInt)
    (quiet : Quiet line (requested poll) start (start + micros timeoutMs))
    (calm : ∀ v, start < v → v ≤ start + micros timeoutMs → (line v).signal = false) :
    Returns .posix line fd poll timeoutMs start (.ok .timeout) (start + micros timeoutMs) :=
  ⟨1, pollOne_expired line fd poll timeoutMs rfl limited quiet calm⟩

variable {line fd poll timeoutMs} {start : ℕ}

theorem readable_of_outcome {s : Status} (h : outcome poll s = .ok .readable) :
    poll.hasRead ∧ s.readable := by
  unfold outcome at h
  split_ifs at h with failed read write
  · exact (Bool.and_eq_true _ _).mp read
  · cases h
  · cases h

theorem writable_of_outcome {s : Status} (h : outcome poll s = .ok .writable) :
    poll.hasWrite ∧ s.writable := by
  unfold outcome at h
  split_ifs at h with failed read write
  · cases h
  · exact (Bool.and_eq_true _ _).mp write
  · cases h

theorem outcome_ne_timeout (s : Status) : outcome poll s ≠ .ok .timeout := by
  unfold outcome
  split_ifs <;> simp

theorem outcome_of_ready {s : Status} (sound : s.failed = false) (ready : s.ready (requested poll)) :
    outcome poll s = .ok .readable ∨ outcome poll s = .ok .writable := by
  unfold outcome
  rw [if_neg (Bool.eq_false_iff.mp sound)]
  split_ifs with read write
  · exact .inl rfl
  · exact .inr rfl
  · exact absurd ((Bool.or_eq_true _ _).mp ready) (not_or.mpr ⟨read, write⟩)

theorem returns_unique {res res' : Except Error PollResult} {u u' : ℕ}
    (h : Returns .posix line fd poll timeoutMs start res u)
    (h' : Returns .posix line fd poll timeoutMs start res' u') : u = u' := by
  obtain ⟨n, returned, finished⟩ := h
  obtain ⟨n', returned', finished'⟩ := h'
  have same := whileTrue_stable returned (Nat.le_max_left n n')
  have same' := whileTrue_stable returned' (Nat.le_max_right n n')
  rw [same] at same'
  have world := congrArg (fun out => out.2.world) same'
  exact Option.some.inj (finished.symm.trans (world.trans finished'))

theorem meets_of_favourable (h : Favourable .posix line poll timeoutMs start) :
    Meets .posix line fd poll timeoutMs start where
  readable u returned := by
    rcases ended_of_returns line fd poll timeoutMs returned with ⟨-, made⟩ | ⟨-, -, -, made⟩
    · exact readable_of_outcome made.symm
    · cases made
  writable u returned := by
    rcases ended_of_returns line fd poll timeoutMs returned with ⟨-, made⟩ | ⟨-, -, -, made⟩
    · exact writable_of_outcome made.symm
    · cases made
  prompt u first inTime ready :=
    ⟨_, returns_found line fd poll timeoutMs first inTime,
      outcome_of_ready (h.1 u first inTime ready) ready⟩
  timeout u returned := by
    rcases ended_of_returns line fd poll timeoutMs returned with
      ⟨-, made⟩ | ⟨limited, quiet, long, -⟩
    · exact absurd made.symm (outcome_ne_timeout (line u))
    · refine ⟨limited, long, fun v late early => ?_⟩
      exact (Bool.or_eq_false_iff.mp (quiet v late (early.trans long))).1
  returns limited := by
    rcases quiet_or_first line (requested poll) start (start + micros timeoutMs) with
      quiet | ⟨u, early, first⟩
    · exact ⟨_, _, returns_expired line fd poll timeoutMs limited quiet (h.2 limited quiet)⟩
    · exact ⟨_, u, returns_found line fd poll timeoutMs first fun _ => early⟩
  bounded limited res u returned := by
    rcases quiet_or_first line (requested poll) start (start + micros timeoutMs) with
      quiet | ⟨v, early, first⟩
    · have expired := returns_expired line fd poll timeoutMs limited quiet (h.2 limited quiet)
      exact (returns_unique returned expired).le
    · rcases ended_of_returns line fd poll timeoutMs returned with ⟨first', -⟩ | ⟨-, quiet, long, -⟩
      · exact (first'.unique first).trans_le early
      · exact absurd (early.trans long) (not_le.mpr (quiet.lt_first first))
  waits unlimited res u returned := by
    rcases ended_of_returns line fd poll timeoutMs returned with ⟨first, -⟩ | ⟨limited, -⟩
    · exact first
    · exact absurd limited (not_le.mpr unlimited)
  wakes unlimited u first :=
    ⟨_, returns_found line fd poll timeoutMs first fun limited =>
      absurd limited (not_le.mpr unlimited)⟩

theorem favourable_of_meets (h : Meets .posix line fd poll timeoutMs start) :
    Favourable .posix line poll timeoutMs start := by
  constructor
  · intro u first inTime ready
    obtain ⟨res, returned, reported⟩ := h.prompt u first inTime ready
    refine Bool.eq_false_iff.mpr fun failed => ?_
    have error : outcome poll (line u) = .error (pendingError (line u).pending) := if_pos failed
    rcases ended_of_returns line fd poll timeoutMs returned with ⟨-, made⟩ | ⟨-, -, -, made⟩
    · rw [made, error] at reported
      rcases reported with read | write
      · cases read
      · cases write
    · rw [made] at reported
      rcases reported with read | write
      · cases read
      · cases write
  · intro limited quiet v late early
    refine Bool.eq_false_iff.mpr fun signal => ?_
    obtain ⟨res, u, rounds, returned, finished⟩ := h.returns limited
    have overdue := pollOne_overdue line fd poll timeoutMs rfl limited quiet late early signal
      returned finished
    exact absurd (h.bounded limited res u ⟨rounds, returned, finished⟩) (not_le.mpr overdue)

end Posix

namespace Windows

theorem timeval_micros_of_pos (positive : 0 < timeoutMs.toInt) :
    (timeval timeoutMs).micros = micros timeoutMs := by
  have more : 0 < timeoutMs := Int32.lt_iff_toInt_lt.mpr positive
  have less : timeoutMs.toInt < 2 ^ 31 := timeoutMs.toInt_lt
  have thousand : (1000 : Int32).toInt = 1000 := by decide
  have sec := toInt_seconds timeoutMs
  have usec := toInt_fraction timeoutMs (k := 1000) (by decide) (by decide)
  rw [Int.tdiv_eq_ediv_of_nonneg positive.le] at sec
  rw [Int.tmod_eq_emod_of_nonneg positive.le, thousand] at usec
  rw [timeval, if_pos more, Timeval.micros, micros]
  simp only [sec, usec]
  omega

theorem timeval_micros_of_zero (zero : timeoutMs.toInt = 0) :
    (timeval timeoutMs).micros = 1 := by
  obtain rfl : timeoutMs = 0 := Int32.toInt_inj.mp zero
  decide

theorem timeval_micros_of_neg (negative : timeoutMs.toInt < 0) :
    (timeval timeoutMs).micros = 0 := by
  have not_positive : ¬ 0 < timeoutMs := by
    intro positive
    exact absurd (Int32.lt_iff_toInt_lt.mp positive) (not_lt.mpr negative.le)
  have nonzero : timeoutMs ≠ 0 := by
    rintro rfl
    exact absurd negative (by decide)
  rw [timeval, if_neg not_positive, if_neg nonzero]
  rfl

def outcome (s : Status) : Except Error PollResult :=
  if poll.hasRead && (s.left (asked poll)).read then .ok .readable
  else if poll.hasWrite && (s.left (asked poll)).write then .ok .writable
  else if (s.left (asked poll)).except then .error (pendingError s.pending)
  else .ok .none

def Ended (start : ℕ) (res : Except Error PollResult) (u : ℕ) : Prop :=
  IsLeast {v | start ≤ v ∧ (line v).selected (asked poll)} u ∧
      u ≤ start + (timeval timeoutMs).micros ∧ res = outcome poll (line u) ∨
    u = start + (timeval timeoutMs).micros ∧
      (∀ v, start ≤ v → v ≤ u → (line v).selected (asked poll) = false) ∧ res = .ok .timeout

theorem pollOne_ended (start : ℕ) :
    Ensures (fun os => os.world = some start) (pollOne line.sys fd poll timeoutMs)
      fun res os => ∃ u, os.world = some u ∧ Ended line poll timeoutMs start res u := by
  refine Ensures.bind (fun returned os => Selected line (asked poll) (timeval timeoutMs) start
    (os.answer returned) os.world) ?_ fun returned => ?_
  · rintro ⟨now, errno, trace⟩ rfl
    have selected := selectAt_selected line (asked poll) (timeval timeoutMs) start
    rw [Os.call, Os.answer_after, Os.world_after]
    exact selected
  · cases returned with
    | none =>
      refine Ensures.absurd fun os selected => ?_
      cases selected
    | some found =>
      cases found with
      | none =>
        refine Ensures.pure fun os selected => ?_
        obtain ⟨quiet, now⟩ := selected.of_timeout
        exact ⟨_, now, .inr ⟨rfl, quiet, rfl⟩⟩
      | some sets =>
        refine Ensures.ite (fun read os selected => ?_) fun unread =>
          Ensures.ite (fun write os selected => ?_) fun unwritten =>
            Ensures.ite (fun except os selected => ?_) fun none os selected => ?_
        all_goals obtain ⟨u, first, inTime, rfl, now⟩ := selected.of_found
        · exact ⟨u, now, .inl ⟨first, inTime, (if_pos read).symm⟩⟩
        · have made : outcome poll (line u) = .ok .writable := by
            rw [outcome, if_neg unread, if_pos write]
          exact ⟨u, now, .inl ⟨first, inTime, made.symm⟩⟩
        · obtain ⟨reported, still⟩ := getSocketError_pending line fd .windows u os now
          have made : outcome poll (line u) = .error (pendingError (line u).pending) := by
            rw [outcome, if_neg unread, if_neg unwritten, if_pos except]
          refine ⟨u, still, .inl ⟨first, inTime, ?_⟩⟩
          rw [made, ← reported]
          rfl
        · have made : outcome poll (line u) = .ok .none := by
            rw [outcome, if_neg unread, if_neg unwritten, if_neg none]
          exact ⟨u, now, .inl ⟨first, inTime, made.symm⟩⟩

theorem ended_of_returns {start u : ℕ} {res : Except Error PollResult}
    (h : Returns .windows line fd poll timeoutMs start res u) :
    Ended line poll timeoutMs start res u := by
  obtain ⟨rounds, returned, finished⟩ := h
  obtain ⟨u', at_u', ended⟩ := pollOne_ended line fd poll timeoutMs start ⟨some start, 0, []⟩ rfl
  obtain rfl : u = u' := Option.some.inj (finished.symm.trans at_u')
  obtain rfl := Option.some.inj returned
  exact ended

theorem exists_returns (start : ℕ) :
    ∃ res u, Returns .windows line fd poll timeoutMs start res u := by
  obtain ⟨u, now, -⟩ := pollOne_ended line fd poll timeoutMs start ⟨some start, 0, []⟩ rfl
  exact ⟨_, u, 0, rfl, now⟩

variable {line fd poll timeoutMs} {start : ℕ}

theorem readable_of_outcome {s : Status} (h : outcome poll s = .ok .readable) :
    poll.hasRead ∧ s.readable := by
  unfold outcome at h
  split_ifs at h with read write except
  · have both := (Bool.and_eq_true _ _).mp read
    exact ⟨both.1, ((Bool.and_eq_true _ _).mp both.2).2⟩
  · cases h
  · cases h

theorem writable_of_outcome {s : Status} (h : outcome poll s = .ok .writable) :
    poll.hasRead = false ∧ poll.hasWrite ∧ s.writable := by
  unfold outcome at h
  split_ifs at h with read write except
  · cases h
  · have both := (Bool.and_eq_true _ _).mp write
    have shown := (Bool.and_eq_true _ _).mp both.2
    have unread := ((Bool.and_eq_true _ _).mp shown.1).1
    exact ⟨(Bool.not_eq_true' _).mp unread, both.1, shown.2⟩
  · cases h

theorem outcome_ne_timeout (s : Status) : outcome poll s ≠ .ok .timeout := by
  unfold outcome
  split_ifs <;> simp

theorem outcome_of_ready {s : Status} (ready : s.ready (requested poll))
    (enough : poll.hasRead → s.readable) :
    outcome poll s = .ok .readable ∨ outcome poll s = .ok .writable := by
  revert ready enough
  unfold outcome Status.left Status.ready asked requested
  generalize s.readable = r
  generalize s.writable = w
  cases poll <;> cases r <;> cases w <;> simp [PollType.hasRead, PollType.hasWrite]

theorem noticed_of_selected {s : Status} (h : s.selected (asked poll)) :
    s.noticed (requested poll) := by
  revert h
  unfold Status.selected Status.left Status.noticed Status.ready asked requested
  generalize s.readable = r
  generalize s.writable = w
  generalize s.failed = f
  cases poll <;> cases r <;> cases w <;> cases f <;> simp [PollType.hasRead, PollType.hasWrite]

theorem selected_of_noticed {s : Status} (h : s.noticed (requested poll))
    (enough : s.ready (requested poll) → poll.hasRead → s.readable) :
    s.selected (asked poll) := by
  revert h enough
  unfold Status.selected Status.left Status.noticed Status.ready asked requested
  generalize s.readable = r
  generalize s.writable = w
  generalize s.failed = f
  cases poll <;> cases r <;> cases w <;> cases f <;> simp [PollType.hasRead, PollType.hasWrite]

theorem selected_of_first (h : Favourable .windows line poll timeoutMs start) {u : ℕ}
    (first : FirstNoticed line (requested poll) start u) (inTime : InTime timeoutMs start u) :
    IsLeast {v | start ≤ v ∧ (line v).selected (asked poll)} u ∧
      u ≤ start + (timeval timeoutMs).micros := by
  have selected := selected_of_noticed first.1.2 (h.2 u first inTime)
  refine ⟨⟨⟨first.1.1, selected⟩, fun v hv => first.2 ⟨hv.1, noticed_of_selected hv.2⟩⟩, ?_⟩
  rcases lt_or_ge 0 timeoutMs.toInt with positive | nonpositive
  · rw [timeval_micros_of_pos timeoutMs positive]
    exact inTime positive.le
  · exact (first.2 ⟨le_rfl, h.1 nonpositive⟩).trans (Nat.le_add_right _ _)

theorem returns_of_first (h : Favourable .windows line poll timeoutMs start) {u : ℕ}
    (first : FirstNoticed line (requested poll) start u) (inTime : InTime timeoutMs start u)
    {res : Except Error PollResult} {u' : ℕ}
    (returned : Returns .windows line fd poll timeoutMs start res u') :
    u' = u ∧ res = outcome poll (line u) := by
  obtain ⟨least, early⟩ := selected_of_first h first inTime
  rcases ended_of_returns line fd poll timeoutMs returned with ⟨least', -, made⟩ | ⟨last, quiet, -⟩
  · obtain rfl := least'.unique least
    exact ⟨rfl, made⟩
  · have unseen := quiet u least.1.1 (early.trans last.ge)
    exact absurd (unseen.symm.trans least.1.2) Bool.false_ne_true

theorem not_inTime_of_timeout (h : Favourable .windows line poll timeoutMs start) {u w : ℕ}
    (returned : Returns .windows line fd poll timeoutMs start (.ok .timeout) u)
    (first : FirstNoticed line (requested poll) start w) : ¬ InTime timeoutMs start w := by
  intro inTime
  have found := returns_of_first h first inTime returned
  exact outcome_ne_timeout (line w) found.2.symm

theorem first_of_nonpositive (h : Favourable .windows line poll timeoutMs start)
    (nonpositive : timeoutMs.toInt ≤ 0) : FirstNoticed line (requested poll) start start :=
  ⟨⟨le_rfl, h.1 nonpositive⟩, fun _ hv => hv.1⟩

theorem meets_of_favourable (h : Favourable .windows line poll timeoutMs start) :
    Meets .windows line fd poll timeoutMs start where
  readable u returned := by
    rcases ended_of_returns line fd poll timeoutMs returned with ⟨-, -, made⟩ | ⟨-, -, made⟩
    · exact readable_of_outcome made.symm
    · cases made
  writable u returned := by
    rcases ended_of_returns line fd poll timeoutMs returned with ⟨-, -, made⟩ | ⟨-, -, made⟩
    · exact (writable_of_outcome made.symm).2
    · cases made
  prompt u first inTime ready := by
    obtain ⟨res, u', returned⟩ := exists_returns line fd poll timeoutMs start
    obtain ⟨rfl, rfl⟩ := returns_of_first h first inTime returned
    exact ⟨_, returned, outcome_of_ready ready (h.2 u' first inTime ready)⟩
  timeout u returned := by
    have positive : 0 < timeoutMs.toInt := by
      by_contra nonpositive
      have first := first_of_nonpositive h (not_lt.mp nonpositive)
      exact not_inTime_of_timeout h returned first fun _ => Nat.le_add_right _ _
    rcases ended_of_returns line fd poll timeoutMs returned with ⟨-, -, made⟩ | ⟨last, -, -⟩
    · exact absurd made.symm (outcome_ne_timeout (line u))
    rw [timeval_micros_of_pos timeoutMs positive] at last
    refine ⟨positive.le, last.ge, fun v late early => Bool.eq_false_iff.mpr fun ready => ?_⟩
    have noticed : (line v).noticed (requested poll) := (Bool.or_eq_true _ _).mpr (.inl ready)
    rcases quiet_or_first line (requested poll) start v with quiet | ⟨w, before, first⟩
    · exact absurd ((quiet v late le_rfl).symm.trans noticed) Bool.false_ne_true
    · exact not_inTime_of_timeout h returned first fun _ => before.trans early
  returns limited := exists_returns line fd poll timeoutMs start
  bounded limited res u returned := by
    rcases limited.lt_or_eq with positive | zero
    · rw [← timeval_micros_of_pos timeoutMs positive]
      rcases ended_of_returns line fd poll timeoutMs returned with ⟨-, early, -⟩ | ⟨last, -, -⟩
      · exact early
      · exact last.le
    · have first := first_of_nonpositive h zero.ge
      have found := returns_of_first h first (fun _ => Nat.le_add_right _ _) returned
      exact found.1.le.trans (Nat.le_add_right _ _)
  waits unlimited res u returned := by
    have first := first_of_nonpositive h unlimited.le
    obtain ⟨rfl, -⟩ := returns_of_first h first (fun _ => Nat.le_add_right _ _) returned
    exact first
  wakes unlimited u first := by
    obtain ⟨res, u', returned⟩ := exists_returns line fd poll timeoutMs start
    have inTime : InTime timeoutMs start u := fun limited => absurd limited (not_le.mpr unlimited)
    obtain ⟨rfl, -⟩ := returns_of_first h first inTime returned
    exact ⟨res, returned⟩

theorem favourable_of_meets (h : Meets .windows line fd poll timeoutMs start) :
    Favourable .windows line poll timeoutMs start := by
  constructor
  · intro nonpositive
    by_contra nothing
    have unselected : ¬ (line start).selected (asked poll) :=
      fun selected => nothing (noticed_of_selected selected)
    obtain ⟨res, u, returned⟩ := exists_returns line fd poll timeoutMs start
    have ended := ended_of_returns line fd poll timeoutMs returned
    rcases nonpositive.lt_or_eq with negative | zero
    · rw [Ended, timeval_micros_of_neg timeoutMs negative] at ended
      rcases ended with ⟨least, early, -⟩ | ⟨-, -, rfl⟩
      · obtain rfl : u = start := le_antisymm early least.1.1
        exact unselected least.1.2
      · exact absurd (h.timeout u returned).1 (not_le.mpr negative)
    · have early := h.bounded zero.ge res u returned
      have none_left : micros timeoutMs = 0 := by rw [micros, zero]; rfl
      rw [Ended, timeval_micros_of_zero timeoutMs zero] at ended
      rcases ended with ⟨least, -, -⟩ | ⟨last, -, -⟩
      · obtain rfl : u = start := le_antisymm (by omega) least.1.1
        exact unselected least.1.2
      · omega
  · intro u first inTime ready asked
    obtain ⟨res, returned, reported⟩ := h.prompt u first inTime ready
    rcases reported with rfl | rfl
    · exact (h.readable u returned).2
    · rcases ended_of_returns line fd poll timeoutMs returned with ⟨-, -, made⟩ | ⟨-, -, made⟩
      · have unread := (writable_of_outcome made.symm).1
        exact absurd (unread.symm.trans asked) Bool.false_ne_true
      · cases made

end Windows
end

/-- Each build keeps the contract just where the future is favourable to it. -/
theorem meets_iff (p : Platform) (line : Timeline) (fd : SockFd) (poll : PollType)
    (timeoutMs : Int32) (start : ℕ) :
    Meets p line fd poll timeoutMs start ↔ Favourable p line poll timeoutMs start := by
  cases p with
  | posix => exact ⟨Posix.favourable_of_meets, Posix.meets_of_favourable⟩
  | windows => exact ⟨Windows.favourable_of_meets, Windows.meets_of_favourable⟩

def idle : Status := ⟨false, false, false, false, false, 0, false⟩

/-- Windows does not wait at all where it should wait for ever; on POSIX systems a
signal prolongs the wait, and a socket that is readable and hung up is an error. -/
theorem contract_broken :
    ¬ Meets .windows (fun _ => idle) 3 .read (-1) 0 ∧
      ¬ Meets .posix (fun u => { idle with signal := u = 500 }) 3 .read 1 0 ∧
      ¬ Meets .posix (fun _ => { idle with readable := true, hangup := true }) 3 .read (-1) 0 := by
  refine ⟨fun h => ?_, fun h => ?_, fun h => ?_⟩
  · have noticed := (Windows.favourable_of_meets h).1 (by decide)
    cases noticed
  · have calm := (Posix.favourable_of_meets h).2 (by decide) (fun v _ _ => rfl) 500 (by decide)
      (by decide)
    cases calm
  · have first : FirstNoticed (fun _ => { idle with readable := true, hangup := true })
        (requested .read) 0 0 := ⟨⟨le_rfl, rfl⟩, fun v _ => Nat.zero_le v⟩
    have sound := (Posix.favourable_of_meets h).1 0 first (fun _ => Nat.zero_le _) rfl
    cases sound

end Qsox.Poll
