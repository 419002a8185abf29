import Mathlib.Data.List.DropRight
import Qsox.Error
import Qsox.NetworkAddress

/-! The texts of the errors. That of a code of the system ends with the code, so it can be
told from every other text, whatever the system says of the code. -/

namespace Qsox

open StringView

namespace ErrorCode

def all : List ErrorCode :=
  [success, unsupportedFamily, invalidArgument, invalidPointerAddress, isConnected, notConnected,
    notASocket, messageTooLong, accessDenied, timedOut, connectionRefused, connectionAborted,
    connectionReset, connectionClosed, wouldBlock, inProgress, addressInUse, networkDown,
    alreadyShutdown, unimplemented, other]

theorem mem_all (code : ErrorCode) : code ∈ all := by
  cases code <;> decide

end ErrorCode

namespace Error

namespace Windows

/-- The characters the search from the end stops at. -/
def stops (ch : Char) : Bool := ch ≠ '\r' ∧ ch ≠ '\n' ∧ ch.toNat < 127

/-- What `FormatMessageA` has written, if anything, without what follows the last of
these. -/
def osMessage (formatMessage : ℤ → Text) (osCode : ℤ) : Text :=
  if formatMessage osCode = [] then "Unknown error".toList
  else (formatMessage osCode).rdropWhile fun ch => ! stops ch

end Windows

def osMessage (p : Platform) (system : ℤ → Text) : ℤ → Text :=
  match p with
  | .posix => system
  | .windows => Windows.osMessage system

def message (p : Platform) (system : ℤ → Text) (e : Error) : Text :=
  match e.code with
  | .other =>
    osMessage p system e.osCode ++ " (OS error ".toList ++ Numeral.signed e.osCode ++ ")".toList
  | .success => "Success".toList
  | .unsupportedFamily => "Unsupported address family".toList
  | .invalidArgument => "Invalid argument".toList
  | .invalidPointerAddress => "Invalid pointer address".toList
  | .isConnected => "Socket is already connected".toList
  | .notConnected => "Socket is not connected".toList
  | .notASocket => "Attempting to perform operation on a non-socket".toList
  | .messageTooLong => "Message too long".toList
  | .accessDenied => "Access denied".toList
  | .timedOut => "Operation timed out".toList
  | .connectionRefused => "Connection refused".toList
  | .connectionAborted => "Connection aborted".toList
  | .connectionReset => "Connection reset by peer".toList
  | .connectionClosed => "Connection closed by peer".toList
  | .wouldBlock => "Operation would block".toList
  | .inProgress => "Operation already in progress".toList
  | .addressInUse => "Address already in use".toList
  | .networkDown => "Network is unreachable".toList
  | .alreadyShutdown => "Socket is already shutdown".toList
  | .unimplemented => "Operation is not implemented".toList

end Error

def Ipv4ParseError.message : Ipv4ParseError → Text
  | missingOctets => "Missing octets in IPv4 address".toList
  | trailingData => "Trailing data in IPv4 address".toList
  | invalidOctet => "Invalid octet in IPv4 address".toList

def Ipv6ParseError.message : Ipv6ParseError → Text
  | unspecified => "Error parsing IPv6 address".toList

inductive IpAddressParseError
  | unspecified
  deriving DecidableEq, Repr

def IpAddressParseError.message : IpAddressParseError → Text
  | unspecified => "Invalid IP address".toList

def SocketAddressV4ParseError.message : SocketAddressV4ParseError → Text
  | missingOctets => "Missing octets in IPv4 address".toList
  | trailingData => "Trailing data after IPv4 address".toList
  | invalidOctet => "Invalid octet in IPv4 address".toList
  | missingPort => "Missing port in socket address".toList
  | invalidPort => "Invalid port in socket address".toList

def SocketAddressV6ParseError.message : SocketAddressV6ParseError → Text
  | invalidStructure =>
    "Invalid structure for IPv6 socket address (missing square brackets)".toList
  | invalidAddress => "Invalid IPv6 address in socket address".toList
  | missingPort => "Missing port in socket address".toList
  | invalidPort => "Invalid port in socket address".toList

def SocketAddressParseError.message : SocketAddressParseError → Text
  | invalidAddress => "Invalid IP address in socket address".toList
  | missingPort => "Missing port in socket address".toList
  | invalidPort => "Invalid port in socket address".toList

def NetworkAddressParseError.message : NetworkAddressParseError → Text
  | missingPort => "Missing host string or port number".toList
  | invalidPort => "Invalid port number".toList

def Resolver.Error.message : Resolver.Error → Text
  | success => "Success".toList
  | addrFamily => "Host does not support the requested address family".toList
  | temporaryFailure => "Temporary failure in name resolution".toList
  | permanentFailure => "Permanent failure in name resolution".toList
  | outOfMemory => "Out of memory".toList
  | noData => "No data found for the requested hostname".toList
  | unknownHost => "Unknown host".toList
  | serviceNotFound => "Service not found".toList
  | socketNotSupported => "Socket type not supported".toList
  | timedOut => "DNS query timed out".toList
  | other => "Other error".toList

namespace Resolver.Error

def all : List Resolver.Error :=
  [success, addrFamily, temporaryFailure, permanentFailure, outOfMemory, noData, unknownHost,
    serviceNotFound, socketNotSupported, timedOut, other]

theorem mem_all (e : Resolver.Error) : e ∈ all := by
  cases e <;> decide

theorem message_injective : Function.Injective message := by
  have apart : ∀ e ∈ all, ∀ e' ∈ all, e.message = e'.message → e = e' := by
    decide +kernel
  exact fun e e' => apart e e.mem_all e' e'.mem_all

end Resolver.Error

namespace Error

/-- Only line ends and what is no ASCII text is taken away, and only at the end. -/
theorem Windows.osMessage_trims {formatMessage : ℤ → Text} {osCode : ℤ}
    (known : formatMessage osCode ≠ []) :
    ∃ cut, formatMessage osCode = osMessage formatMessage osCode ++ cut ∧
      (∀ ch ∈ cut, stops ch = false) ∧
      ∀ ch, (osMessage formatMessage osCode).getLast? = some ch → stops ch = true := by
  rw [osMessage, if_neg known]
  refine ⟨(formatMessage osCode).rtakeWhile fun ch => ! stops ch,
    List.rdropWhile_append_rtakeWhile.symm, ?_, ?_⟩
  · intro ch there
    simpa using List.mem_rtakeWhile_imp there
  · intro ch last
    obtain ⟨some_left, rfl⟩ := List.mem_getLast?_eq_getLast last
    simpa using List.rdropWhile_last_not _ _ some_left

section
variable {p : Platform} {system : ℤ → Text}

theorem message_other (e : Error) (h : e.code = .other) :
    e.message p system = (osMessage p system e.osCode ++ " (OS error".toList) ++
      ' ' :: (Numeral.signed e.osCode ++ [')']) := by
  have blank : " (OS error ".toList = " (OS error".toList ++ [' '] := rfl
  rw [message, h]
  simp only [blank, List.append_assoc, List.cons_append, List.nil_append]
  rfl

theorem blank_not_mem (n : ℤ) : ' ' ∉ Numeral.signed n ++ [')'] := by
  intro there
  rcases List.mem_append.mp there with there | there
  · rcases Numeral.mem_signed there with sign | digit
    · cases sign
    · cases digit
  · cases List.mem_singleton.mp there

theorem cut_unique {pre pre' post post' : Text} {c : Char} (h : c ∉ post) (h' : c ∉ post')
    (same : pre ++ c :: post = pre' ++ c :: post') : post = post' := by
  have place := rfind_append_cons h pre
  rw [same, rfind_append_cons h' pre'] at place
  have front := (List.append_inj same (Option.some.inj place).symm).2
  exact (List.cons.inj front).2

theorem osCode_of_message {e e' : Error} (h : e.code = .other) (h' : e'.code = .other)
    (same : e.message p system = e'.message p system) : e.osCode = e'.osCode := by
  rw [message_other e h, message_other e' h'] at same
  have numerals := cut_unique (blank_not_mem _) (blank_not_mem _) same
  exact Numeral.signed_injective (List.append_cancel_right numerals)

theorem getLast_message_other (e : Error) (h : e.code = .other) :
    (e.message p system).getLast? = some ')' := by
  rw [message_other e h, ← List.cons_append, ← List.append_assoc, List.getLast?_concat]

theorem message_named (e : Error) (named : e.code ≠ .other) :
    e.message p system = message .posix (fun _ => []) (.ofCode e.code) := by
  obtain ⟨code, osCode⟩ := e
  cases code with
  | other => exact absurd rfl named
  | _ => rfl

theorem getLast_message_named (e : Error) (named : e.code ≠ .other) :
    (e.message p system).getLast? ≠ some ')' := by
  have all : ∀ code ∈ ErrorCode.all, code ≠ .other →
      (message .posix (fun _ => []) (.ofCode code)).getLast? ≠ some ')' := by
    decide +kernel
  rw [message_named e named]
  exact all e.code e.code.mem_all named

theorem message_eq_iff (e e' : Error) : e.message p system = e'.message p system ↔
    e.code = e'.code ∧ (e.isOsError = true → e.osCode = e'.osCode) := by
  have all : ∀ code ∈ ErrorCode.all, ∀ code' ∈ ErrorCode.all,
      message .posix (fun _ => []) (.ofCode code) =
        message .posix (fun _ => []) (.ofCode code') → code = code' := by
    decide +kernel
  rw [isOsError, decide_eq_true_eq]
  by_cases h : e.code = .other
  · by_cases h' : e'.code = .other
    · constructor
      · intro same
        exact ⟨h.trans h'.symm, fun _ => osCode_of_message h h' same⟩
      · rintro ⟨-, same⟩
        rw [message_other e h, message_other e' h', same h]
    · refine iff_of_false (fun same => ?_) fun both => h' (both.1.symm.trans h)
      exact getLast_message_named e' h' (same ▸ getLast_message_other e h)
  · by_cases h' : e'.code = .other
    · refine iff_of_false (fun same => ?_) fun both => h (both.1.trans h')
      exact getLast_message_named e h (same ▸ getLast_message_other e' h')
    · rw [message_named e h, message_named e' h']
      constructor
      · intro same
        exact ⟨all e.code e.code.mem_all e'.code e'.code.mem_all same, fun other => absurd other h⟩
      · intro both
        rw [both.1]

end
end Error

/-- Errors have the same text only where they are the same: whatever the system says of its
codes, and in every vocabulary of the parsers and the resolver. -/
theorem messages_told_apart :
    (∀ (p : Platform) (system : ℤ → Text) (e e' : Error),
        e.message p system = e'.message p system ↔
          e.code = e'.code ∧ (e.isOsError = true → e.osCode = e'.osCode)) ∧
      Function.Injective Ipv4ParseError.message ∧ Function.Injective Ipv6ParseError.message ∧
      Function.Injective IpAddressParseError.message ∧
      Function.Injective SocketAddressV4ParseError.message ∧
      Function.Injective SocketAddressV6ParseError.message ∧
      Function.Injective SocketAddressParseError.message ∧
      Function.Injective NetworkAddressParseError.message ∧
      Function.Injective Resolver.Error.message := by
  refine ⟨fun p system => Error.message_eq_iff, ?_, ?_, ?_, ?_, ?_, ?_, ?_,
    Resolver.Error.message_injective⟩
  all_goals
    intro e e' same
    cases e <;> cases e' <;> first | rfl | exact absurd same (by decide)

end Qsox
