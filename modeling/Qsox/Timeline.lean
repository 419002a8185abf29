import Mathlib.Order.Bounds.Basic
import Qsox.Poll

/-! The waiting calls on a given future: when the socket is ready, when it fails
and when signals come, by the microsecond. A call that never returns takes the
system to the end of time, where every call is interrupted. -/

namespace Qsox

open Classical in
noncomputable def firstFrom (stop : ℕ → Prop) (start : ℕ) : Option ℕ :=
  if h : ∃ u, start ≤ u ∧ stop u then some (Nat.find h) else none

open Classical in
theorem firstFrom_eq_some {stop : ℕ → Prop} {start u : ℕ} (h : firstFrom stop start = some u) :
    IsLeast {v | start ≤ v ∧ stop v} u := by
  unfold firstFrom at h
  split_ifs at h with some
  obtain rfl := Option.some.inj h
  exact ⟨Nat.find_spec some, fun v hv => Nat.find_min' some hv⟩

theorem firstFrom_eq_none {stop : ℕ → Prop} {start : ℕ} (h : firstFrom stop start = none) :
    ∀ v, start ≤ v → ¬ stop v := by
  unfold firstFrom at h
  split_ifs at h with none
  intro v late stops
  exact none ⟨v, late, stops⟩

/-- The socket at one moment, its `SO_ERROR`, and whether a signal comes. -/
structure Status where
  readable : Bool
  writable : Bool
  hangup : Bool
  error : Bool
  invalid : Bool
  pending : ℤ
  signal : Bool
  deriving DecidableEq, Repr

namespace Status

def failed (s : Status) : Bool := s.hangup || s.error || s.invalid

def ready (s : Status) (events : PollEvents) : Bool :=
  events.pollin && s.readable || events.pollout && s.writable

def noticed (s : Status) (events : PollEvents) : Bool := s.ready events || s.failed

def revents (s : Status) (events : PollEvents) : PollRevents :=
  ⟨⟨events.pollin && s.readable, events.pollout && s.writable, s.hangup, s.error⟩, s.invalid⟩

def left (s : Status) (sets : SelectSets) : SelectSets :=
  ⟨⟨sets.write && s.writable, sets.except && s.failed⟩, sets.read && s.readable⟩

def selected (s : Status) (sets : SelectSets) : Bool :=
  (s.left sets).read || (s.left sets).write || (s.left sets).except

end Status

abbrev Timeline := ℕ → Status

def micros (timeoutMs : Int32) : ℕ := 1000 * timeoutMs.toInt.toNat

def Timeval.micros (tv : Timeval) : ℕ := (tv.sec.toInt * 1000000 + tv.usec.toInt).toNat

def Expired (timeoutMs : Int32) (t u : ℕ) : Prop :=
  0 ≤ timeoutMs.toInt ∧ t + micros timeoutMs ≤ u

namespace Timeline

variable (line : Timeline)

open Classical in
/-- What is there goes before a signal, and a signal before the timeout. -/
noncomputable def pollAt (events : PollEvents) (timeoutMs : Int32) (t : ℕ) :
    Except ℤ (Option PollRevents) × Option ℕ :=
  match firstFrom (fun u => (line u).noticed events ∨ t < u ∧ (line u).signal ∨
      Expired timeoutMs t u) t with
  | none => (.error Posix.eintr, none)
  | some u =>
    if (line u).noticed events then (.ok (some ((line u).revents events)), some u)
    else if t < u ∧ (line u).signal then (.error Posix.eintr, some u)
    else (.ok none, some u)

open Classical in
/-- Signals do not end a `select` of Winsock. -/
noncomputable def selectAt (sets : SelectSets) (tv : Timeval) (t : ℕ) :
    Except ℤ (Option SelectSets) × Option ℕ :=
  match firstFrom (fun u => (line u).selected sets ∨ t + tv.micros ≤ u) t with
  | none => (.ok none, none)
  | some u =>
    if (line u).selected sets then (.ok (some ((line u).left sets)), some u)
    else (.ok none, some u)

/-- The socket is the only one; a handle loses nothing on its way through an `int`. -/
noncomputable def sys : Sys (Option ℕ) :=
  { Sys.refusing 0 with
    soError := fun _ now => (.ok (now.elim 0 fun u => (line u).pending), now)
    poll := fun _ events timeoutMs now =>
      match now with
      | some t =>
        let answer := line.pollAt events timeoutMs t
        ((answer.1, answer.2.elim 0 fun u => ((u - t) / 1000 : ℕ)), answer.2)
      | none => ((.error Posix.eintr, 0), none)
    select := fun _ sets tv now =>
      match now with
      | some t => line.selectAt sets tv t
      | none => (.ok none, none) }

end Timeline

section
variable (line : Timeline)

def Quiet (events : PollEvents) (t u : ℕ) : Prop :=
  ∀ v, t ≤ v → v ≤ u → (line v).noticed events = false

def FirstNoticed (events : PollEvents) (t u : ℕ) : Prop :=
  IsLeast {v | t ≤ v ∧ (line v).noticed events} u

theorem quiet_or_first (events : PollEvents) (t u : ℕ) :
    Quiet line events t u ∨ ∃ v, v ≤ u ∧ FirstNoticed line events t v := by
  cases found : firstFrom (fun v => (line v).noticed events) t with
  | none =>
    exact .inl fun v late _ => Bool.eq_false_iff.mpr (firstFrom_eq_none found v late)
  | some w =>
    have first : FirstNoticed line events t w := firstFrom_eq_some found
    rcases Nat.lt_or_ge u w with before | after
    · refine .inl fun v late early => Bool.eq_false_iff.mpr fun noticed => ?_
      exact absurd (first.2 ⟨late, noticed⟩) (not_le.mpr (early.trans_lt before))
    · exact .inr ⟨w, after, first⟩

structure Resumed (events : PollEvents) (start t : ℕ) : Prop where
  later : start ≤ t
  unnoticed : ∀ v, start ≤ v → v < t → (line v).noticed events = false

section
variable {line} {events : PollEvents} {start t u : ℕ}

theorem Quiet.lt_first (quiet : Quiet line events t u) {v : ℕ}
    (first : FirstNoticed line events t v) : u < v := by
  by_contra early
  have unnoticed := quiet v first.1.1 (not_lt.mp early)
  exact Bool.false_ne_true (unnoticed.symm.trans first.1.2)

theorem Resumed.first (h : Resumed line events start t) (first : FirstNoticed line events t u) :
    FirstNoticed line events start u := by
  refine ⟨⟨h.later.trans first.1.1, first.1.2⟩, fun v ⟨late, noticed⟩ => ?_⟩
  rcases Nat.lt_or_ge v t with early | late'
  · rw [h.unnoticed v late early] at noticed
    cases noticed
  · exact first.2 ⟨late', noticed⟩

theorem Resumed.quiet (h : Resumed line events start t) (quiet : Quiet line events t u) :
    Quiet line events start u := by
  intro v late early
  rcases Nat.lt_or_ge v t with before | after
  · exact h.unnoticed v late before
  · exact quiet v after early

end

def InTime (timeoutMs : Int32) (t u : ℕ) : Prop :=
  0 ≤ timeoutMs.toInt → u ≤ t + micros timeoutMs

inductive Polled (events : PollEvents) (timeoutMs : Int32) (t : ℕ) :
    Except ℤ (Option PollRevents) → Option ℕ → Prop
  | found (u : ℕ) (first : FirstNoticed line events t u) (inTime : InTime timeoutMs t u) :
      Polled events timeoutMs t (.ok (some ((line u).revents events))) (some u)
  | interrupted (u : ℕ) (late : t < u) (signal : (line u).signal) (quiet : Quiet line events t u)
      (inTime : InTime timeoutMs t u) : Polled events timeoutMs t (.error Posix.eintr) (some u)
  | expired (limited : 0 ≤ timeoutMs.toInt) (quiet : Quiet line events t (t + micros timeoutMs))
      (calm : ∀ v, t < v → v ≤ t + micros timeoutMs → (line v).signal = false) :
      Polled events timeoutMs t (.ok none) (some (t + micros timeoutMs))
  | never (unlimited : timeoutMs.toInt < 0) (quiet : ∀ u, Quiet line events t u) :
      Polled events timeoutMs t (.error Posix.eintr) none

theorem pollAt_polled (events : PollEvents) (timeoutMs : Int32) (t : ℕ) :
    Polled line events timeoutMs t (line.pollAt events timeoutMs t).1
      (line.pollAt events timeoutMs t).2 := by
  unfold Timeline.pollAt
  cases stops : firstFrom (fun u => (line u).noticed events ∨ t < u ∧ (line u).signal ∨
      Expired timeoutMs t u) t with
  | none =>
    have never := firstFrom_eq_none stops
    refine .never ?_ ?_
    · by_contra limited
      have expired : Expired timeoutMs t (t + micros timeoutMs) := ⟨not_lt.mp limited, le_rfl⟩
      exact never _ (Nat.le_add_right _ _) (.inr (.inr expired))
    · intro u v late _
      exact Bool.eq_false_iff.mpr fun noticed => never v late (.inl noticed)
  | some u =>
    obtain ⟨⟨late, stop⟩, first⟩ := firstFrom_eq_some stops
    have before : ∀ v, t ≤ v → v < u → ¬ ((line v).noticed events ∨ t < v ∧ (line v).signal ∨
        Expired timeoutMs t v) := by
      intro v later earlier stops
      exact absurd (first ⟨later, stops⟩) (not_le.mpr earlier)
    have inTime : InTime timeoutMs t u := by
      intro limited
      by_contra overdue
      have overdue : t + micros timeoutMs < u := not_le.mp overdue
      exact before _ (Nat.le_add_right _ _) overdue (.inr (.inr ⟨limited, le_rfl⟩))
    have quiet : ¬ (line u).noticed events → Quiet line events t u := by
      intro nothing v later earlier
      refine Bool.eq_false_iff.mpr fun there => ?_
      rcases Nat.lt_or_eq_of_le earlier with earlier | rfl
      · exact before v later earlier (.inl there)
      · exact nothing there
    simp only
    split_ifs with noticed interrupted
    · exact .found u ⟨⟨late, noticed⟩, fun v hv => first ⟨hv.1, .inl hv.2⟩⟩ inTime
    · exact .interrupted u interrupted.1 interrupted.2 (quiet noticed) inTime
    · obtain ⟨limited, elapsed⟩ := (stop.resolve_left noticed).resolve_left interrupted
      obtain rfl : u = t + micros timeoutMs := le_antisymm (inTime limited) elapsed
      refine .expired limited (quiet noticed) fun v later earlier => ?_
      refine Bool.eq_false_iff.mpr fun signal => ?_
      rcases Nat.lt_or_eq_of_le earlier with earlier | rfl
      · exact before v later.le earlier (.inr (.inl ⟨later, signal⟩))
      · exact interrupted ⟨later, signal⟩

inductive Selected (sets : SelectSets) (tv : Timeval) (t : ℕ) :
    Except ℤ (Option SelectSets) → Option ℕ → Prop
  | found (u : ℕ) (first : IsLeast {v | t ≤ v ∧ (line v).selected sets} u)
      (inTime : u ≤ t + tv.micros) :
      Selected sets tv t (.ok (some ((line u).left sets))) (some u)
  | expired (quiet : ∀ v, t ≤ v → v ≤ t + tv.micros → (line v).selected sets = false) :
      Selected sets tv t (.ok none) (some (t + tv.micros))

section
variable {line} {sets : SelectSets} {tv : Timeval} {t : ℕ} {now : Option ℕ}

theorem Selected.of_timeout (h : Selected line sets tv t (.ok none) now) :
    (∀ v, t ≤ v → v ≤ t + tv.micros → (line v).selected sets = false) ∧
      now = some (t + tv.micros) := by
  cases h with
  | expired quiet => exact ⟨quiet, rfl⟩

theorem Selected.of_found {found : SelectSets} (h : Selected line sets tv t (.ok (some found)) now) :
    ∃ u, IsLeast {v | t ≤ v ∧ (line v).selected sets} u ∧ u ≤ t + tv.micros ∧
      found = (line u).left sets ∧ now = some u := by
  cases h with
  | found u first inTime => exact ⟨u, first, inTime, rfl, rfl⟩

end

theorem selectAt_selected (sets : SelectSets) (tv : Timeval) (t : ℕ) :
    Selected line sets tv t (line.selectAt sets tv t).1 (line.selectAt sets tv t).2 := by
  unfold Timeline.selectAt
  cases stops : firstFrom (fun u => (line u).selected sets ∨ t + tv.micros ≤ u) t with
  | none => exact absurd (.inr le_rfl) (firstFrom_eq_none stops _ (Nat.le_add_right t tv.micros))
  | some u =>
    obtain ⟨⟨late, stop⟩, first⟩ := firstFrom_eq_some stops
    have inTime : u ≤ t + tv.micros := first ⟨Nat.le_add_right _ _, .inr le_rfl⟩
    simp only
    split_ifs with there
    · exact .found u ⟨⟨late, there⟩, fun v hv => first ⟨hv.1, .inl hv.2⟩⟩ inTime
    · obtain rfl : u = t + tv.micros := le_antisymm inTime (stop.resolve_left there)
      refine .expired fun v later earlier => Bool.eq_false_iff.mpr fun selected => ?_
      rcases Nat.lt_or_eq_of_le earlier with earlier | rfl
      · exact absurd (first ⟨later, .inl selected⟩) (not_le.mpr earlier)
      · exact there selected

end
end Qsox
