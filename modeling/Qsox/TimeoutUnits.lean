import Qsox.ResolverBuilds
import Qsox.TcpStream

/-! Milliseconds as the system calls are told them: seconds for `SO_LINGER`, a
`timeval` or a `DWORD` for the timeouts of a socket, a `timespec` or a `timeval` for
a lookup, where a null pointer stands for no timeout. -/

namespace Qsox

/-- A number of units of so many nanoseconds. -/
structure Duration where
  count : ℤ
  unit : ℤ
  deriving DecidableEq, Repr

/-- Less than a unit away from the milliseconds, and not nothing for something. -/
structure Duration.Keeps (d : Duration) (timeoutMs : ℤ) : Prop where
  enough : timeoutMs * 1000000 < (d.count + 1) * d.unit
  no_more : (d.count - 1) * d.unit < timeoutMs * 1000000
  nonzero : timeoutMs ≠ 0 → d.count ≠ 0

/-- A limit that means the milliseconds, `0` being no limit where it is special. -/
def MeansTimeout (special : Prop) (timeoutMs : ℤ) : Option Duration → Prop
  | none => special ∧ timeoutMs = 0
  | some d => ¬ (special ∧ timeoutMs = 0) ∧ d.Keeps timeoutMs

theorem Duration.keeps_of_eq {d : Duration} {timeoutMs : ℤ}
    (same : d.count * d.unit = timeoutMs * 1000000) (pos : 0 < d.unit) : d.Keeps timeoutMs where
  enough := by
    rw [add_mul, same]
    omega
  no_more := by
    rw [sub_mul, same]
    omega
  nonzero := by
    intro some_time none
    rw [none, zero_mul] at same
    omega

theorem meansTimeout_of_eq {special : Prop} {timeoutMs : ℤ} {d : Duration}
    (some_time : timeoutMs ≠ 0) (same : d.count * d.unit = timeoutMs * 1000000)
    (pos : 0 < d.unit) : MeansTimeout special timeoutMs (some d) :=
  ⟨fun zero => some_time zero.2, Duration.keeps_of_eq same pos⟩

theorem seconds_keep_iff {timeoutMs : ℤ} (nonneg : 0 ≤ timeoutMs) :
    (⟨timeoutMs / 1000, 1000000000⟩ : Duration).Keeps timeoutMs ↔
      timeoutMs = 0 ∨ 1000 ≤ timeoutMs := by
  constructor
  · intro ⟨_, _, nonzero⟩
    simp only at nonzero
    omega
  · intro second
    refine ⟨?_, ?_, ?_⟩ <;> simp only <;> omega

theorem short_seconds_keep_iff {timeoutMs : ℤ} (nonneg : 0 ≤ timeoutMs) :
    (⟨timeoutMs / 1000 % 65536, 1000000000⟩ : Duration).Keeps timeoutMs ↔
      (timeoutMs = 0 ∨ 1000 ≤ timeoutMs) ∧ timeoutMs < 65536000 := by
  constructor
  · intro ⟨enough, _, nonzero⟩
    simp only at enough nonzero
    omega
  · intro second
    refine ⟨?_, ?_, ?_⟩ <;> simp only <;> omega

namespace SockOpt

def Legal : SockOpt → Prop
  | timeval _ sec usec => 0 ≤ sec ∧ 0 ≤ usec ∧ usec < 1000000
  | _ => True

def limit : SockOpt → Option Duration
  | timeval _ sec usec => if sec = 0 ∧ usec = 0 then none else some ⟨sec * 1000000 + usec, 1000⟩
  | milliseconds _ value => if value = 0 then none else some ⟨value.toNat, 1000000⟩
  | linger onoff seconds => if onoff = 0 then none else some ⟨seconds.toInt, 1000000000⟩
  | _ => none

end SockOpt

namespace Gai

/-- The last argument of `gai_suspend`, computed in `int`. -/
def suspendTimeout (timeoutMs : Int32) : Option Timespec :=
  if timeoutMs ≠ 0 then some ⟨(timeoutMs / 1000).toInt, (timeoutMs % 1000 * 1000000).toInt⟩
  else none

def Timespec.Legal (ts : Timespec) : Prop := 0 ≤ ts.sec ∧ 0 ≤ ts.nsec ∧ ts.nsec < 1000000000

def Timespec.duration (ts : Timespec) : Duration := ⟨ts.sec * 1000000000 + ts.nsec, 1⟩

end Gai

def Timeval.Legal (tv : Timeval) : Prop :=
  0 ≤ tv.sec.toInt ∧ 0 ≤ tv.usec.toInt ∧ tv.usec.toInt < 1000000

def Timeval.duration (tv : Timeval) : Duration := ⟨tv.sec.toInt * 1000000 + tv.usec.toInt, 1000⟩

inductive Request
  | readTimeout (timeoutMs : UInt32)
  | writeTimeout (timeoutMs : UInt32)
  | linger (timeoutMs : Int32)
  | lookup (timeoutMs : Int32)
  deriving DecidableEq

namespace Request

def timeoutMs : Request → ℤ
  | readTimeout timeoutMs | writeTimeout timeoutMs => timeoutMs.toNat
  | linger timeoutMs | lookup timeoutMs => timeoutMs.toInt

end Request

abbrev Setter := (σ : Type) → Sys σ → SockFd → StateM (Os σ) (Except Error Unit)

def Hands (p : Platform) (setter : Setter) (opt : SockOpt) : Prop :=
  ∀ (σ : Type) (sys : Sys σ) (fd : SockFd),
    setter σ sys fd = mapResult sys p (sys.setsockopt fd opt)

namespace Request

/-- What the system is told means the milliseconds that were asked for. The timed
lookup of the POSIX build is that of glibc. -/
def Kept (p : Platform) : Request → Prop
  | readTimeout timeoutMs => ∃ opt,
      Hands p (fun _ sys fd => BaseSocket.setReadTimeout sys p fd timeoutMs) opt ∧ opt.Legal ∧
        MeansTimeout True timeoutMs.toNat opt.limit
  | writeTimeout timeoutMs => ∃ opt,
      Hands p (fun _ sys fd => BaseSocket.setWriteTimeout sys p fd timeoutMs) opt ∧ opt.Legal ∧
        MeansTimeout True timeoutMs.toNat opt.limit
  | linger timeoutMs => ∃ opt,
      Hands p (fun _ sys fd => TcpStream.setLinger sys p ⟨fd⟩ true timeoutMs) opt ∧ opt.Legal ∧
        MeansTimeout False timeoutMs.toInt opt.limit
  | lookup timeoutMs =>
    match p with
    | .posix => (∀ ts ∈ Gai.suspendTimeout timeoutMs, ts.Legal) ∧
        MeansTimeout True timeoutMs.toInt ((Gai.suspendTimeout timeoutMs).map Gai.Timespec.duration)
    | .windows => (∀ tv ∈ Resolver.Windows.timeout timeoutMs, tv.Legal) ∧
        MeansTimeout True timeoutMs.toInt ((Resolver.Windows.timeout timeoutMs).map Timeval.duration)

/-- No timeout of zero for a socket; at least a second of lingering, or none, and on
Windows no more seconds than 16 bits hold. -/
def Expressible (p : Platform) : Request → Prop
  | readTimeout timeoutMs | writeTimeout timeoutMs => timeoutMs ≠ 0
  | linger timeoutMs =>
    (timeoutMs.toInt = 0 ∨ 1000 ≤ timeoutMs.toInt) ∧ (p = .windows → timeoutMs.toInt < 65536000)
  | lookup _ => True

end Request

def Sys.noting : Sys (Option SockOpt) :=
  { Sys.refusing 0 with setsockopt := fun _ opt _ => (.ok (), some opt) }

namespace Hands

variable {p : Platform} {setter : Setter} {opt : SockOpt}

theorem noted (h : Hands p setter opt) (fd : SockFd) :
    (setter _ Sys.noting fd ⟨none, 0, []⟩).2.world = some opt := by
  rw [h _ Sys.noting fd]
  rfl

theorem exists_iff (h : Hands p setter opt) (P : SockOpt → Prop) :
    (∃ opt, Hands p setter opt ∧ P opt) ↔ P opt := by
  constructor
  · rintro ⟨opt', h', holds⟩
    obtain rfl : opt' = opt := Option.some.inj ((h'.noted 0).symm.trans (h.noted 0))
    exact holds
  · intro holds
    exact ⟨opt, h, holds⟩

end Hands

namespace BaseSocket

variable {p : Platform} {kind : TimeoutKind} {timeoutMs : UInt32}

theorem usec_toNat (timeoutMs : UInt32) :
    (timeoutMs % 1000 * 1000).toNat = timeoutMs.toNat % 1000 * 1000 := by
  have small : timeoutMs.toNat % 1000 * 1000 < 2 ^ 32 := by omega
  rw [UInt32.toNat_mul, UInt32.toNat_mod]
  exact Nat.mod_eq_of_lt small

theorem setTimeout_hands (nonzero : timeoutMs ≠ 0) :
    Hands p (fun _ sys fd => setTimeout sys p fd kind timeoutMs)
      (timeoutOption p kind timeoutMs) :=
  fun _ _ _ => if_neg nonzero

theorem setTimeout_zero_hands_none (opt : SockOpt) :
    ¬ Hands p (fun _ sys fd => setTimeout sys p fd kind 0) opt :=
  fun h => Option.some_ne_none opt (h.noted 0).symm

theorem timeoutOption_legal : (timeoutOption p kind timeoutMs).Legal := by
  cases p with
  | windows => trivial
  | posix =>
    have usec := usec_toNat timeoutMs
    refine ⟨Int.natCast_nonneg _, Int.natCast_nonneg _, ?_⟩
    omega

theorem timeoutOption_means (nonzero : timeoutMs ≠ 0) :
    MeansTimeout True timeoutMs.toNat (timeoutOption p kind timeoutMs).limit := by
  have pos : (timeoutMs.toNat : ℤ) ≠ 0 := fun zero =>
    nonzero (UInt32.toNat_inj.mp (Int.ofNat_eq_zero.mp zero))
  cases p with
  | windows =>
    rw [timeoutOption, SockOpt.limit, if_neg nonzero]
    exact meansTimeout_of_eq pos rfl (by decide : (0 : ℤ) < 1000000)
  | posix =>
    have sec : (timeoutMs / 1000).toNat = timeoutMs.toNat / 1000 := UInt32.toNat_div _ _
    have usec := usec_toNat timeoutMs
    have some_time : ¬ (((timeoutMs / 1000).toNat : ℤ) = 0 ∧
        ((timeoutMs % 1000 * 1000).toNat : ℤ) = 0) := by omega
    have same : (((timeoutMs / 1000).toNat : ℤ) * 1000000 + (timeoutMs % 1000 * 1000).toNat) * 1000 =
        timeoutMs.toNat * 1000000 := by omega
    rw [timeoutOption, SockOpt.limit, if_neg some_time]
    exact meansTimeout_of_eq pos same (by decide : (0 : ℤ) < 1000)

theorem timeout_kept_iff :
    (∃ opt, Hands p (fun _ sys fd => setTimeout sys p fd kind timeoutMs) opt ∧ opt.Legal ∧
      MeansTimeout True timeoutMs.toNat opt.limit) ↔ timeoutMs ≠ 0 := by
  constructor
  · rintro ⟨opt, hands, -⟩ rfl
    exact setTimeout_zero_hands_none opt hands
  · intro nonzero
    exact ⟨_, setTimeout_hands nonzero, timeoutOption_legal, timeoutOption_means nonzero⟩

end BaseSocket

namespace TcpStream

variable {p : Platform} {timeoutMs : Int32}

theorem setLinger_hands : Hands p (fun _ sys fd => setLinger sys p ⟨fd⟩ true timeoutMs)
    (.linger 1 (lingerSeconds p timeoutMs)) :=
  fun _ _ _ => rfl

theorem lingerSeconds_keep_iff (nonneg : 0 ≤ timeoutMs.toInt) :
    (⟨(lingerSeconds p timeoutMs).toInt, 1000000000⟩ : Duration).Keeps timeoutMs.toInt ↔
      (timeoutMs.toInt = 0 ∨ 1000 ≤ timeoutMs.toInt) ∧
        (p = .windows → timeoutMs.toInt < 65536000) := by
  have less : timeoutMs.toInt < 2 ^ 31 := timeoutMs.toInt_lt
  have seconds := toInt_seconds timeoutMs
  rw [Int.tdiv_eq_ediv_of_nonneg nonneg] at seconds
  cases p with
  | posix =>
    rw [lingerSeconds, seconds, seconds_keep_iff nonneg]
    simp
  | windows =>
    have wrapped : (lingerSeconds .windows timeoutMs).toInt = timeoutMs.toInt / 1000 % 65536 := by
      rw [lingerSeconds, seconds]
      exact Int32.toInt_ofInt_of_le (by omega) (by omega)
    rw [wrapped, short_seconds_keep_iff nonneg]
    simp

theorem linger_kept_iff (nonneg : 0 ≤ timeoutMs.toInt) :
    (∃ opt, Hands p (fun _ sys fd => setLinger sys p ⟨fd⟩ true timeoutMs) opt ∧ opt.Legal ∧
      MeansTimeout False timeoutMs.toInt opt.limit) ↔
      (timeoutMs.toInt = 0 ∨ 1000 ≤ timeoutMs.toInt) ∧
        (p = .windows → timeoutMs.toInt < 65536000) := by
  rw [← lingerSeconds_keep_iff nonneg,
    setLinger_hands.exists_iff fun opt => opt.Legal ∧ MeansTimeout False timeoutMs.toInt opt.limit,
    SockOpt.limit, if_neg (by decide)]
  constructor
  · intro ⟨_, _, keeps⟩
    exact keeps
  · intro keeps
    exact ⟨trivial, fun special => special.1, keeps⟩

end TcpStream

namespace Gai

theorem suspendTimeout_eq (timeoutMs : Int32) :
    suspendTimeout timeoutMs = timeout timeoutMs.toInt := by
  have same : timeoutMs ≠ 0 ↔ timeoutMs.toInt ≠ 0 := not_congr Int32.toInt_inj.symm
  have million : (1000000 : Int32).toInt = 1000000 := by decide
  have nsec := toInt_fraction timeoutMs (k := 1000000) (by decide) (by decide)
  rw [million] at nsec
  rw [suspendTimeout, timeout, toInt_seconds, nsec]
  simp only [same]

section
variable {timeoutMs : Int32} (nonneg : 0 ≤ timeoutMs.toInt)
include nonneg

theorem suspendTimeout_kept : (∀ ts ∈ suspendTimeout timeoutMs, ts.Legal) ∧
    MeansTimeout True timeoutMs.toInt ((suspendTimeout timeoutMs).map Timespec.duration) := by
  rw [suspendTimeout_eq, timeout]
  by_cases zero : timeoutMs.toInt = 0
  · rw [if_neg (not_not.mpr zero)]
    exact ⟨by rintro ts ⟨⟩, trivial, zero⟩
  · rw [if_pos zero, Int.tdiv_eq_ediv_of_nonneg nonneg, Int.tmod_eq_emod_of_nonneg nonneg]
    constructor
    · rintro ts ⟨⟩
      refine ⟨?_, ?_, ?_⟩ <;> simp only <;> omega
    · refine meansTimeout_of_eq zero ?_ (by decide : (0 : ℤ) < 1)
      simp only [Timespec.duration]
      omega

theorem windows_timeout_kept : (∀ tv ∈ Resolver.Windows.timeout timeoutMs, tv.Legal) ∧
    MeansTimeout True timeoutMs.toInt
      ((Resolver.Windows.timeout timeoutMs).map Timeval.duration) := by
  have sec := toInt_seconds timeoutMs
  have usec := toInt_fraction timeoutMs (k := 1000) (by decide) (by decide)
  have thousand : (1000 : Int32).toInt = 1000 := by decide
  rw [Int.tdiv_eq_ediv_of_nonneg nonneg] at sec
  rw [Int.tmod_eq_emod_of_nonneg nonneg, thousand] at usec
  rw [Resolver.Windows.timeout]
  by_cases zero : timeoutMs = 0
  · rw [if_neg (not_not.mpr zero), zero]
    exact ⟨by rintro tv ⟨⟩, trivial, rfl⟩
  · have some_time : timeoutMs.toInt ≠ 0 := fun none => zero (Int32.toInt_inj.mp none)
    rw [if_pos zero]
    constructor
    · rintro tv ⟨⟩
      refine ⟨?_, ?_, ?_⟩ <;> simp only [sec, usec] <;> omega
    · refine meansTimeout_of_eq some_time ?_ (by decide : (0 : ℤ) < 1000)
      simp only [Timeval.duration, sec, usec]
      omega

end

end Gai

/-- The milliseconds keep their meaning unless a socket's timeout is zero, or a
lingering time is between zero and a second, or too long for 16 bits on Windows. -/
theorem timeouts_kept_iff (p : Platform) (request : Request) (nonneg : 0 ≤ request.timeoutMs) :
    request.Kept p ↔ request.Expressible p := by
  cases request with
  | readTimeout timeoutMs => exact BaseSocket.timeout_kept_iff
  | writeTimeout timeoutMs => exact BaseSocket.timeout_kept_iff
  | linger timeoutMs => exact TcpStream.linger_kept_iff nonneg
  | lookup timeoutMs =>
    cases p with
    | posix => exact iff_of_true (Gai.suspendTimeout_kept nonneg) trivial
    | windows => exact iff_of_true (Gai.windows_timeout_kept nonneg) trivial

theorem read_timeout_of_a_second_kept : (Request.readTimeout 1000).Kept .posix :=
  (timeouts_kept_iff .posix (.readTimeout 1000) (by decide)).mpr (by decide : (1000 : UInt32) ≠ 0)

theorem tenth_of_a_second_lost :
    ¬ (∀ (p : Platform) (request : Request), 0 ≤ request.timeoutMs → request.Kept p) ∧
      ¬ (Request.linger 100).Kept .posix ∧ ¬ (Request.readTimeout 0).Kept .posix := by
  have lost : ¬ (Request.linger 100).Kept .posix := by
    intro kept
    have second := ((TcpStream.linger_kept_iff (by decide)).mp kept).1
    revert second
    decide
  have refused : ¬ (Request.readTimeout 0).Kept .posix := fun kept =>
    absurd rfl (BaseSocket.timeout_kept_iff.mp kept)
  exact ⟨fun all => lost (all .posix (.linger 100) (by decide)), lost, refused⟩

end Qsox
