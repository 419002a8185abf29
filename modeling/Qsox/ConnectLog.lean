import Qsox.Logged
import Qsox.TcpConnect

/-! What a connection attempt leaves in the log: one descriptor, the answers of
`connect`, and the answer of `SO_ERROR` where the POSIX build asks for it. -/

namespace Qsox.TcpConnect

open BaseSocket

section
variable {σ β : Type} {sys : Sys σ} {pick : Entry → Option β} (fd : SockFd)
  (address : SocketAddress)

section
variable (unasked : ∀ given returned, pick (.connect given returned) = none)
include unasked

theorem Posix.connectRound_keeps (nonBlocking : Bool) :
    Keeps (seen pick) (Posix.connectRound sys.logged.kernel fd address nonBlocking) := by
  refine Keeps.bind (Keeps.connect unasked fd address) fun returned => ?_
  cases returned with
  | some a => exact Keeps.pure _
  | none =>
    refine Keeps.bind Keeps.getErrno fun errno => ?_
    refine Keeps.ite (Keeps.pure _) (Keeps.ite (Keeps.pure _) (Keeps.ite (Keeps.pure _) ?_))
    exact Keeps.bind (Keeps.lastOsError .posix) fun _ => Keeps.pure _

theorem Posix.doConnect_keeps (nonBlocking : Bool) (rounds : ℕ) :
    Keeps (seen pick)
      (Posix.doConnect sys.logged.kernel fd address nonBlocking rounds) := by
  have loop : Keeps (seen pick) (whileTrue
      (Posix.connectRound sys.logged.kernel fd address nonBlocking) rounds) :=
    Keeps.whileTrue (Posix.connectRound_keeps fd address unasked nonBlocking) rounds
  refine Keeps.ite ?_ loop
  refine Keeps.bind (Keeps.setNonBlocking fd true) fun result => ?_
  cases result with
  | error e => exact Keeps.pure _
  | ok a => exact loop

theorem Windows.connectOnce_keeps (nonBlocking : Bool) :
    Keeps (seen pick) (Windows.connectOnce sys.logged.kernel fd address nonBlocking) := by
  refine Keeps.bind (Keeps.connect unasked fd address) fun returned => ?_
  cases returned with
  | some a => exact Keeps.pure _
  | none =>
    refine Keeps.bind (Keeps.lastOsError .windows) fun err => ?_
    exact Keeps.ite (Keeps.pure _) (Keeps.pure _)

theorem Windows.doConnect_keeps (nonBlocking : Bool) :
    Keeps (seen pick) (Windows.doConnect sys.logged.kernel fd address nonBlocking) := by
  have once : Keeps (seen pick)
      (Windows.connectOnce sys.logged.kernel fd address nonBlocking) :=
    Windows.connectOnce_keeps fd address unasked nonBlocking
  refine Keeps.ite ?_ once
  refine Keeps.bind (Keeps.setNonBlocking fd true) fun result => ?_
  cases result with
  | error e => exact Keeps.pure _
  | ok a => exact once

end

section
variable (unqueried : ∀ returned, pick (.soError returned) = none) (timeoutMs : Int32)
include unqueried

theorem Posix.pollRound_keeps (start : ℤ) :
    Keeps (seen pick) (Posix.pollRound sys.logged.kernel fd timeoutMs start) := by
  refine Keeps.bind Keeps.now fun reading => Keeps.ite (Keeps.pure _) ?_
  refine Keeps.bind (Keeps.poll fd _ _) fun returned => ?_
  cases returned with
  | none =>
    refine Keeps.bind Keeps.getErrno fun errno => Keeps.ite ?_ (Keeps.pure _)
    exact Keeps.bind (Keeps.lastOsError .posix) fun _ => Keeps.pure _
  | some found =>
    cases found with
    | none => exact Keeps.pure _
    | some revents =>
      refine Keeps.ite ?_ (Keeps.pure _)
      exact Keeps.bind (Keeps.getSocketError unqueried fd) fun _ => Keeps.pure _

theorem Windows.selectWritable_keeps :
    Keeps (seen pick) (Windows.selectWritable sys.logged.kernel fd timeoutMs) := by
  refine Keeps.bind (Keeps.select fd _) fun returned => ?_
  cases returned with
  | none => exact Keeps.bind (Keeps.lastOsError .windows) fun _ => Keeps.pure _
  | some found =>
    cases found with
    | none => exact Keeps.pure _
    | some sets =>
      refine Keeps.ite (Keeps.pure _) ?_
      refine Keeps.bind (Keeps.getSocketError unqueried fd) fun err => ?_
      exact Keeps.ite (Keeps.pure _) (Keeps.pure _)

end

section
variable (unasked : ∀ given returned, pick (.connect given returned) = none)
  (unqueried : ∀ returned, pick (.soError returned) = none)
include unasked unqueried

theorem Posix.doConnectTimeout_keeps (timeoutMs : Int32) (rounds : ℕ) :
    Keeps (seen pick)
      (Posix.doConnectTimeout sys.logged.kernel fd address timeoutMs rounds) := by
  refine Keeps.ite (Posix.doConnect_keeps fd address unasked false rounds) ?_
  refine Keeps.bind (Keeps.setNonBlocking fd true) fun result => ?_
  cases result with
  | error e => exact Keeps.pure _
  | ok a =>
    refine Keeps.bind (Keeps.connect unasked fd address) fun cres => ?_
    refine Keeps.bind (Keeps.setNonBlocking fd false) fun result => ?_
    cases result with
    | error e => exact Keeps.pure _
    | ok a =>
      cases cres with
      | some a => exact Keeps.pure _
      | none =>
        refine Keeps.bind Keeps.getErrno fun errno => Keeps.ite ?_ ?_
        · exact Keeps.bind Keeps.now fun start =>
            Keeps.whileTrue (Posix.pollRound_keeps fd unqueried timeoutMs start) rounds
        · exact Keeps.bind (Keeps.lastOsError .posix) fun _ => Keeps.pure _

theorem Windows.doConnectTimeout_keeps (timeoutMs : Int32) :
    Keeps (seen pick)
      (Windows.doConnectTimeout sys.logged.kernel fd address timeoutMs) := by
  refine Keeps.ite (Windows.doConnect_keeps fd address unasked false) ?_
  refine Keeps.bind (Windows.doConnect_keeps fd address unasked true) fun result => ?_
  refine Keeps.bind (Keeps.setNonBlocking fd false) fun mode => ?_
  cases mode with
  | error e => exact Keeps.pure _
  | ok a =>
    cases result with
    | ok a => exact Keeps.pure _
    | error err =>
      exact Keeps.ite (Windows.selectWritable_keeps fd unqueried timeoutMs) (Keeps.pure _)

theorem establish_keeps (p : Platform) (nonBlocking : Bool) (timeoutMs : Int32) (rounds : ℕ) :
    Keeps (seen pick)
      (establish sys.logged.kernel p fd address nonBlocking timeoutMs rounds) := by
  cases p with
  | posix =>
    exact Keeps.ite (Posix.doConnectTimeout_keeps fd address unasked unqueried timeoutMs rounds)
      (Posix.doConnect_keeps fd address unasked nonBlocking rounds)
  | windows =>
    exact Keeps.ite
      (Keeps.map some (Windows.doConnectTimeout_keeps fd address unasked unqueried timeoutMs))
      (Keeps.map some (Windows.doConnect_keeps fd address unasked nonBlocking))

end
end

end Qsox.TcpConnect
