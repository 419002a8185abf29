import Mathlib.Data.Int.Notation
import Mathlib.Tactic.Common

/-! Socket errors, and their translation from the code the system left behind:
`errno` with the Linux numbers, `WSAGetLastError()` on Windows. Codes without a
name of their own are kept as `Other`. -/

namespace Qsox

inductive ErrorCode
  | success
  | unsupportedFamily
  | invalidArgument
  | invalidPointerAddress
  | isConnected
  | notConnected
  | notASocket
  | messageTooLong
  | accessDenied
  | timedOut
  | connectionRefused
  | connectionAborted
  | connectionReset
  | connectionClosed
  | wouldBlock
  | inProgress
  | addressInUse
  | networkDown
  | alreadyShutdown
  | unimplemented
  | other
  deriving DecidableEq, Repr

structure Error where
  code : ErrorCode
  osCode : ℤ
  deriving DecidableEq, Repr

namespace Error

def ofCode (code : ErrorCode) : Error := ⟨code, 0⟩

def fromOs (osCode : ℤ) : Error := ⟨.other, osCode⟩

def isOsError (e : Error) : Bool := e.code = .other

end Error

namespace Posix

def eintr : ℤ := 4
def ebadf : ℤ := 9
def ewouldblock : ℤ := 11
def eacces : ℤ := 13
def efault : ℤ := 14
def einval : ℤ := 22
def enotsock : ℤ := 88
def emsgsize : ℤ := 90
def eaddrinuse : ℤ := 98
def enetdown : ℤ := 100
def econnaborted : ℤ := 103
def econnreset : ℤ := 104
def eisconn : ℤ := 106
def enotconn : ℤ := 107
def etimedout : ℤ := 110
def econnrefused : ℤ := 111
def ealready : ℤ := 114
def einprogress : ℤ := 115

def codes : List (ℤ × ErrorCode) :=
  [(etimedout, .timedOut), (econnrefused, .connectionRefused), (ebadf, .invalidArgument),
    (einval, .invalidArgument), (enotsock, .notASocket), (eacces, .accessDenied),
    (efault, .invalidPointerAddress), (ewouldblock, .wouldBlock), (einprogress, .inProgress),
    (ealready, .inProgress), (emsgsize, .messageTooLong), (eaddrinuse, .addressInUse),
    (enetdown, .networkDown), (econnaborted, .connectionAborted), (econnreset, .connectionReset),
    (eisconn, .isConnected), (enotconn, .notConnected)]

end Posix

namespace Winsock

def wsaebadf : ℤ := 10009
def wsaeacces : ℤ := 10013
def wsaefault : ℤ := 10014
def wsaeinval : ℤ := 10022
def wsaewouldblock : ℤ := 10035
def wsaeinprogress : ℤ := 10036
def wsaealready : ℤ := 10037
def wsaenotsock : ℤ := 10038
def wsaemsgsize : ℤ := 10040
def wsaeaddrinuse : ℤ := 10048
def wsaenetdown : ℤ := 10050
def wsaenetunreach : ℤ := 10051
def wsaeconnaborted : ℤ := 10053
def wsaeconnreset : ℤ := 10054
def wsaeisconn : ℤ := 10056
def wsaenotconn : ℤ := 10057
def wsaeshutdown : ℤ := 10058
def wsaetimedout : ℤ := 10060
def wsaeconnrefused : ℤ := 10061

def codes : List (ℤ × ErrorCode) :=
  [(wsaetimedout, .timedOut), (wsaeconnrefused, .connectionRefused), (wsaebadf, .invalidArgument),
    (wsaeinval, .invalidArgument), (wsaenotsock, .notASocket), (wsaeacces, .accessDenied),
    (wsaefault, .invalidPointerAddress), (wsaewouldblock, .wouldBlock),
    (wsaeinprogress, .inProgress), (wsaealready, .inProgress), (wsaemsgsize, .messageTooLong),
    (wsaeaddrinuse, .addressInUse), (wsaenetdown, .networkDown), (wsaenetunreach, .networkDown),
    (wsaeconnaborted, .connectionAborted), (wsaeconnreset, .connectionReset),
    (wsaeisconn, .isConnected), (wsaenotconn, .notConnected), (wsaeshutdown, .alreadyShutdown)]

end Winsock

/-- The two builds. -/
inductive Platform
  | posix
  | windows
  deriving DecidableEq, Repr

namespace Platform

def codes : Platform → List (ℤ × ErrorCode)
  | posix => Posix.codes
  | windows => Winsock.codes

/-- The `switch` of `lastOsError`. -/
def lastOsError (p : Platform) (code : ℤ) : Error :=
  match p.codes.lookup code with
  | some named => .ofCode named
  | none => .fromOs code

theorem lookup_codes_eq_some_iff {p : Platform} {code : ℤ} {named : ErrorCode} :
    p.codes.lookup code = some named ↔ (code, named) ∈ p.codes := by
  constructor
  · intro h
    obtain ⟨pre, post, table, -⟩ := List.lookup_eq_some_iff.mp h
    simp [table]
  · have listed : ∀ entry ∈ p.codes, p.codes.lookup entry.1 = some entry.2 := by
      cases p <;> decide
    exact listed (code, named)

theorem lookup_codes_ne_other (p : Platform) (code : ℤ) : p.codes.lookup code ≠ some .other := by
  have named : ∀ entry ∈ p.codes, entry.2 ≠ .other := by
    cases p <;> decide
  intro h
  exact named _ (lookup_codes_eq_some_iff.mp h) rfl

theorem lastOsError_code_eq_iff {p : Platform} {code : ℤ} {named : ErrorCode}
    (known : named ≠ .other) : (p.lastOsError code).code = named ↔ (code, named) ∈ p.codes := by
  rw [← lookup_codes_eq_some_iff, lastOsError]
  cases p.codes.lookup code with
  | none => simp [Error.fromOs, known.symm]
  | some found => simp [Error.ofCode]

theorem lastOsError_eq_ofCode_iff {p : Platform} {code : ℤ} {named : ErrorCode}
    (known : named ≠ .other) : p.lastOsError code = .ofCode named ↔ (code, named) ∈ p.codes := by
  constructor
  · intro same
    exact (lastOsError_code_eq_iff known).mp (congrArg Error.code same)
  · intro listed
    rw [lastOsError, lookup_codes_eq_some_iff.mpr listed]

theorem lastOsError_isOsError_iff (p : Platform) (code : ℤ) :
    (p.lastOsError code).isOsError = true ↔ p.codes.lookup code = none := by
  unfold lastOsError
  cases h : p.codes.lookup code with
  | none => simp [Error.isOsError, Error.fromOs]
  | some named =>
    have known : named ≠ .other := fun same => lookup_codes_ne_other p code (same ▸ h)
    simp [Error.isOsError, Error.ofCode, known]

/-- The test both transfer loops make recognises the interrupted call. -/
theorem isOsError_and_osCode_iff (code : ℤ) :
    (posix.lastOsError code).isOsError = true ∧ (posix.lastOsError code).osCode = Posix.eintr ↔
      code = Posix.eintr := by
  rw [lastOsError_isOsError_iff]
  constructor
  · rintro ⟨unnamed, same⟩
    rw [lastOsError, unnamed] at same
    exact same
  · rintro rfl
    exact ⟨by decide, by decide⟩

end Platform
end Qsox
