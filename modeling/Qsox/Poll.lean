import Qsox.SocketUtil

/-! `pollOne` in both builds. -/

namespace Qsox

inductive PollType
  | read
  | write
  | readWrite
  deriving DecidableEq, Repr

inductive PollResult
  | none
  | readable
  | writable
  | timeout
  deriving DecidableEq, Repr

namespace PollType

def hasRead : PollType → Bool
  | read | readWrite => true
  | write => false

def hasWrite : PollType → Bool
  | write | readWrite => true
  | read => false

end PollType

namespace Poll

open BaseSocket

variable {σ : Type} (sys : Sys σ)

namespace Posix

def classify (fd : SockFd) (revents : PollRevents) : StateM (Os σ) (Except Error PollResult) := do
  if revents.pollin then return .ok .readable
  else if revents.pollout then return .ok .writable
  else if revents.pollerr then return .error (← getSocketError sys.kernel .posix fd)
  else return .ok .none

def pollRound (fd : SockFd) (poll : PollType) (timeoutMs : Int32) :
    StateM (Os σ) (Option (Except Error PollResult)) := do
  match ← Os.call sys.kernel (fun w =>
      ((sys.poll fd ⟨poll.hasRead, poll.hasWrite⟩ timeoutMs w).1.1,
        (sys.poll fd ⟨poll.hasRead, poll.hasWrite⟩ timeoutMs w).2)) with
  | some none => return some (.ok .timeout)
  | none =>
    let error ← Os.lastOsError .posix
    if error.osCode = Qsox.Posix.eintr then return none else return some (.error error)
  | some (some revents) =>
    if revents.pollhup ∨ revents.pollerr ∨ revents.pollnval then
      return some (.error (← getSocketError sys.kernel .posix fd))
    else return some (← classify sys fd revents)

def pollOne (fd : SockFd) (poll : PollType) (timeoutMs : Int32) (rounds : ℕ) :
    StateM (Os σ) (Option (Except Error PollResult)) :=
  whileTrue (pollRound sys fd poll timeoutMs) rounds

end Posix

namespace Windows

/-- The sets that are asked for: the second test is an `else if`. -/
def asked (poll : PollType) : SelectSets :=
  ⟨⟨! poll.hasRead && poll.hasWrite, true⟩, poll.hasRead⟩

def timeval (timeoutMs : Int32) : Timeval :=
  if timeoutMs > 0 then ⟨timeoutMs / 1000, timeoutMs % 1000 * 1000⟩
  else if timeoutMs = 0 then ⟨0, 1⟩
  else ⟨0, 0⟩

/-- The handle goes through an `int`. -/
def intHandle (fd : SockFd) : SockFd := (Int32.ofInt fd).toInt

def pollOne (fd : SockFd) (poll : PollType) (timeoutMs : Int32) :
    StateM (Os σ) (Except Error PollResult) := do
  match ← Os.call sys.kernel
      (sys.select (intHandle fd) (asked poll) (timeval timeoutMs)) with
  | some none => return .ok .timeout
  | none => return .error (← Os.lastOsError .windows)
  | some (some sets) =>
    -- a set that is not handed over stays empty
    if poll.hasRead && sets.read then return .ok .readable
    else if poll.hasWrite && sets.write then return .ok .writable
    else if sets.except then return .error (← getSocketError sys.kernel .windows fd)
    else return .ok .none

end Windows

def pollOne (p : Platform) (fd : SockFd) (poll : PollType) (timeoutMs : Int32) (rounds : ℕ) :
    StateM (Os σ) (Option (Except Error PollResult)) :=
  match p with
  | .posix => Posix.pollOne sys fd poll timeoutMs rounds
  | .windows => some <$> Windows.pollOne sys fd poll timeoutMs

end Poll
end Qsox
