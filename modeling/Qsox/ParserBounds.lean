import Qsox.CheckedView
import Qsox.NetworkAddress

/-! The parsers once more, with every operation on a view as the source makes it.
None of them steps outside its view, and they answer as the plain ones do. -/

namespace Qsox

open StringView HostPort Checked

namespace StringView

theorem find_lt_length {c : Char} {s : Text} {i : ℕ} (h : find c s = some i) : i < s.length := by
  rcases first_cut c s with without | ⟨pre, post, rfl, clean⟩
  · rw [find_eq_none_iff.mpr without] at h
    cases h
  · rw [find_append_cons clean] at h
    cases h
    simp

theorem rfind_lt_length {c : Char} {s : Text} {i : ℕ} (h : rfind c s = some i) :
    i < s.length := by
  rcases last_cut c s with without | ⟨pre, post, rfl, clean⟩
  · rw [rfind_eq_none_iff.mpr without] at h
    cases h
  · rw [rfind_append_cons clean] at h
    cases h
    simp

end StringView

namespace Ipv4Address

theorem octet_lt (i : Fin 4) : i.val < 4 := i.isLt

def parseOctetOnView (st : Ipv4Address × Text) (i : Fin 4) :
    Checked Ipv4ParseError (Ipv4Address × Text) := do
  let nextDot ← ofResult (octetEnd st.2 i)
  let octetStr ← substr st.2 0 nextDot
  let result ← (ofResult (fromChars 8 octetStr)).mapError fun _ => .invalidOctet
  let str ← removePrefix st.2 (if i.val < 3 then nextDot + 1 else nextDot)
  return (⟨st.1.octets.set i (UInt8.ofNat result.value) (octet_lt i)⟩, str)

def parseOnView (str : Text) : Checked Ipv4ParseError Ipv4Address := do
  let st ← (List.finRange 4).foldlM parseOctetOnView (unspecified, str)
  if st.2.isEmpty then return st.1 else failed .trailingData

theorem octetEnd_fits {str : Text} {i : Fin 4} {nextDot : ℕ} (h : octetEnd str i = .ok nextDot) :
    (if i.val < 3 then nextDot + 1 else nextDot) ≤ str.length := by
  unfold octetEnd at h
  cases found : find '.' str with
  | some dot =>
    rw [found] at h
    cases h
    have inside := find_lt_length found
    split_ifs
    · exact inside
    · exact inside.le
  | none =>
    simp only [found] at h
    split_ifs at h with early
    cases h
    exact (if_neg early).le

@[simp] theorem parseOctetOnView_eq (st : Ipv4Address × Text) (i : Fin 4) :
    parseOctetOnView st i = ofResult (parseOctet st i) := by
  rw [parseOctetOnView, parseOctet]
  cases ended : octetEnd st.2 i with
  | error e => rfl
  | ok nextDot =>
    have start : 0 ≤ st.2.length := Nat.zero_le _
    simp only [ofResult, done_bind, substr_of_le start, List.drop_zero, Control.ok_bind]
    cases fromChars 8 (st.2.take nextDot) with
    | error e => rfl
    | ok result =>
      simp only [mapError, done_bind, removePrefix_of_le (octetEnd_fits ended)]
      rfl

@[simp] theorem parseOnView_eq (str : Text) : parseOnView str = ofResult (parse str) := by
  rw [parseOnView, parse, ofResult_bind, foldlM_ofResult parseOctetOnView_eq]
  congr 1
  funext st
  split_ifs
  · rfl
  · rfl

end Ipv4Address

namespace HostPort

variable {ε : Type}

def splitPortOnView (missingPort : ε) (str : Text) : Checked ε (Text × Text) :=
  match rfind ':' str with
  | none => failed missingPort
  | some colonPos =>
    if colonPos = 0 ∨ colonPos = str.length - 1 then failed missingPort
    else do
      let addressPart ← substr str 0 colonPos
      let portPart ← substrFrom str (colonPos + 1)
      return (addressPart, portPart)

/-- The range that is read is to have a first character. -/
def readPortOnView (invalidPort : ε) (portPart : Text) : Checked ε UInt16 :=
  if portPart = [] then outside
  else
    match readPort portPart with
    | none => failed invalidPort
    | some port => done port

def hasBrackets (addressPart : Text) : Checked ε Bool :=
  if addressPart.length < 2 then return false
  else do
    let first ← front addressPart
    if first ≠ '[' then return false
    else do
      let last ← back addressPart
      return last = ']'

def removeBrackets (addressPart : Text) : Checked ε Text := do
  let opened ← removePrefix addressPart 1
  removeSuffix opened 1

theorem splitPortOnView_of_none {str : Text} (h : splitPort str = none) (missingPort : ε) :
    splitPortOnView missingPort str = failed missingPort := by
  unfold splitPort at h
  unfold splitPortOnView
  cases found : rfind ':' str with
  | none => rfl
  | some colonPos =>
    simp only [found] at h
    split_ifs at h with ends
    exact if_pos ends

theorem splitPortOnView_of_some {str : Text} {parts : Text × Text}
    (h : splitPort str = some parts) (missingPort : ε) :
    splitPortOnView missingPort str = done parts ∧ parts.2 ≠ [] := by
  obtain ⟨-, -, ne_nil, -⟩ := splitPort_eq_some_iff.mp h
  refine ⟨?_, ne_nil⟩
  unfold splitPort at h
  unfold splitPortOnView
  cases found : rfind ':' str with
  | none =>
    rw [found] at h
    cases h
  | some colonPos =>
    simp only [found] at h
    split_ifs at h with ends
    obtain rfl := Option.some.inj h
    have start : 0 ≤ str.length := Nat.zero_le _
    simp only [if_neg ends, substr_of_le start, substrFrom_of_le (rfind_lt_length found), done_bind]
    rfl

theorem splitPortOnView_bind {α : Type} {missingPort : ε} {str : Text}
    {next : Text × Text → Checked ε α} {plain : Text → Text → Except ε α}
    (same : ∀ addressPart portPart, portPart ≠ [] →
      next (addressPart, portPart) = ofResult (plain addressPart portPart)) :
    (splitPortOnView missingPort str >>= next) =
      ofResult (match splitPort str with
        | none => .error missingPort
        | some (addressPart, portPart) => plain addressPart portPart) := by
  cases split : splitPort str with
  | none =>
    rw [splitPortOnView_of_none split]
    rfl
  | some parts =>
    obtain ⟨cut, ne_nil⟩ := splitPortOnView_of_some split missingPort
    rw [cut, done_bind]
    exact same parts.1 parts.2 ne_nil

theorem readPortOnView_bind {α : Type} {portPart : Text} (ne_nil : portPart ≠ [])
    (invalidPort : ε) (endpoint : UInt16 → α) :
    (readPortOnView invalidPort portPart >>= fun port => pure (endpoint port)) =
      ofResult (match readPort portPart with
        | none => .error invalidPort
        | some port => .ok (endpoint port)) := by
  rw [readPortOnView, if_neg ne_nil]
  cases readPort portPart with
  | none => rfl
  | some port => rfl

@[simp] theorem hasBrackets_eq (addressPart : Text) :
    (hasBrackets addressPart : Checked ε Bool) = done (stripBrackets addressPart).isSome := by
  unfold hasBrackets stripBrackets
  by_cases short : addressPart.length < 2
  · have no : ¬ (2 ≤ addressPart.length ∧ addressPart.head? = some '[' ∧
        addressPart.getLast? = some ']') := fun all => absurd all.1 (Nat.not_le.mpr short)
    rw [if_pos short, if_neg no]
    rfl
  · have ne_nil : addressPart ≠ [] := by
      rintro rfl
      exact short (by decide)
    have first : addressPart.head? = some (addressPart.head ne_nil) := List.head?_eq_some_head ne_nil
    have last : addressPart.getLast? = some (addressPart.getLast ne_nil) :=
      List.getLast?_eq_some_getLast ne_nil
    rw [if_neg short]
    simp only [front_of_head first, back_of_getLast last, done_bind, first, last]
    by_cases opened : addressPart.head ne_nil = '['
    · by_cases closed : addressPart.getLast ne_nil = ']'
      · simp [opened, closed, Nat.not_lt.mp short, pure_eq]
      · simp [opened, closed, pure_eq]
    · simp [opened, pure_eq]

theorem removeBrackets_of_some {addressPart inner : Text}
    (h : stripBrackets addressPart = some inner) :
    (removeBrackets addressPart : Checked ε Text) = done inner := by
  obtain rfl := stripBrackets_eq_some_iff.mp h
  have one : 1 ≤ ('[' :: (inner ++ [']'])).length := Nat.succ_pos _
  have one' : 1 ≤ (inner ++ [']']).length := by simp
  rw [removeBrackets, removePrefix_of_le one, done_bind, List.drop_one, List.tail_cons,
    removeSuffix_of_le one']
  simp

end HostPort

namespace SocketAddressV4

def parseOnView (str : Text) : Checked SocketAddressV4ParseError SocketAddressV4 := do
  let parts ← splitPortOnView .missingPort str
  let address ← (Ipv4Address.parseOnView parts.1).mapError fromIpv4Error
  let port ← readPortOnView .invalidPort parts.2
  return ⟨address, port⟩

@[simp] theorem parseOnView_eq (str : Text) : parseOnView str = ofResult (parse str) := by
  refine splitPortOnView_bind fun addressPart portPart ne_nil => ?_
  rw [Ipv4Address.parseOnView_eq]
  cases Ipv4Address.parse addressPart with
  | error e => rfl
  | ok address => exact readPortOnView_bind ne_nil _ _

end SocketAddressV4

namespace SocketAddressV6

def parseOnView (pton : InetPton) (str : Text) :
    Checked SocketAddressV6ParseError SocketAddressV6 := do
  let parts ← splitPortOnView .missingPort str
  let bracketed ← hasBrackets parts.1
  if ¬ bracketed then failed .invalidStructure
  else do
    let inner ← removeBrackets parts.1
    let address ← (ofResult (Ipv6Address.parse pton inner)).mapError fromIpError
    let port ← readPortOnView .invalidPort parts.2
    return ⟨address, port⟩

@[simp] theorem parseOnView_eq (pton : InetPton) (str : Text) :
    parseOnView pton str = ofResult (parse pton str) := by
  refine splitPortOnView_bind fun addressPart portPart ne_nil => ?_
  rw [hasBrackets_eq, done_bind]
  cases strip : stripBrackets addressPart with
  | none => rfl
  | some inner =>
    simp only [Option.isSome_some, not_true_eq_false, if_false, removeBrackets_of_some strip,
      done_bind]
    cases Ipv6Address.parse pton inner with
    | error e => rfl
    | ok address => exact readPortOnView_bind ne_nil _ _

end SocketAddressV6

namespace SocketAddress

def parseAddressOnView (pton : InetPton) (addressPart : Text) :
    Checked SocketAddressParseError IpAddress := do
  let bracketed ← hasBrackets addressPart
  if bracketed then do
    let inner ← removeBrackets addressPart
    let addr ← (ofResult (Ipv6Address.parse pton inner)).mapError fun _ => .invalidAddress
    return .v6 addr
  else do
    let addr ← (Ipv4Address.parseOnView addressPart).mapError fun _ => .invalidAddress
    return .v4 addr

def parseOnView (pton : InetPton) (str : Text) :
    Checked SocketAddressParseError SocketAddress := do
  let parts ← splitPortOnView .missingPort str
  let outAddr ← parseAddressOnView pton parts.1
  let port ← readPortOnView .invalidPort parts.2
  return ⟨outAddr, port⟩

@[simp] theorem parseAddressOnView_eq (pton : InetPton) (addressPart : Text) :
    parseAddressOnView pton addressPart = ofResult (parseAddress pton addressPart) := by
  rw [parseAddressOnView, parseAddress, hasBrackets_eq, done_bind]
  cases strip : stripBrackets addressPart with
  | none =>
    simp only [Option.isSome_none, Bool.false_eq_true, if_false, Ipv4Address.parseOnView_eq]
    cases Ipv4Address.parse addressPart with
    | error e => rfl
    | ok address => rfl
  | some inner =>
    simp only [Option.isSome_some, if_true, removeBrackets_of_some strip, done_bind]
    cases Ipv6Address.parse pton inner with
    | error e => rfl
    | ok address => rfl

@[simp] theorem parseOnView_eq (pton : InetPton) (str : Text) :
    parseOnView pton str = ofResult (parse pton str) := by
  refine splitPortOnView_bind fun addressPart portPart ne_nil => ?_
  rw [parseAddressOnView_eq]
  cases parseAddress pton addressPart with
  | error e => rfl
  | ok outAddr => exact readPortOnView_bind ne_nil _ _

end SocketAddress

namespace NetworkAddress

def parseOnView (str : Text) : Checked NetworkAddressParseError NetworkAddress := do
  let parts ← splitPortOnView .missingPort str
  let port ← readPortOnView .invalidPort parts.2
  return ⟨parts.1, port⟩

@[simp] theorem parseOnView_eq (str : Text) : parseOnView str = ofResult (parse str) :=
  splitPortOnView_bind fun _ _ ne_nil => readPortOnView_bind ne_nil _ _

end NetworkAddress

/-- No text makes a parser cut, skip or read beyond what is left of it. -/
theorem parsers_stay_inside (pton : InetPton) (s : Text) :
    (Ipv4Address.parseOnView s).Inside ∧
    (SocketAddressV4.parseOnView s).Inside ∧
    (SocketAddressV6.parseOnView pton s).Inside ∧
    (SocketAddress.parseOnView pton s).Inside ∧
    (NetworkAddress.parseOnView s).Inside := by
  rw [Ipv4Address.parseOnView_eq, SocketAddressV4.parseOnView_eq, SocketAddressV6.parseOnView_eq,
    SocketAddress.parseOnView_eq, NetworkAddress.parseOnView_eq]
  exact ⟨inside_ofResult _, inside_ofResult _, inside_ofResult _, inside_ofResult _,
    inside_ofResult _⟩

/-- A lone bracket is too short for `back`, and is taken for IPv4. -/
example : SocketAddress.parseOnView (inetPton false) "[:80".toList = failed .invalidAddress := by
  decide

end Qsox
