import Qsox.Portions
import Qsox.TcpStream

/-! Bulk transfer over a `TcpStream`, POSIX build: `sendAll` and `receiveExact` against any
system. It may take or give any part of what it is asked for, be interrupted, report the
end of the stream or fail; answers that are laid down beforehand are those of a system
with a list of them for its world. -/

namespace Qsox.TcpTransfer

open Portions TcpStream

variable {σ : Type}

/-- The error for the first answer that is neither a positive count nor an interruption. -/
def failure : Except ℤ (List UInt8) → Error
  | .ok _ => .ofCode .connectionClosed
  | .error code => Platform.posix.lastOsError code

/-- `send` of the data from `pos` on, with the slice that the system takes of it. -/
def sendFrom (sys : Sys σ) (fd : SockFd) (data : List UInt8) (pos : ℕ) :
    σ → Except ℤ (List UInt8) × σ :=
  Sys.answering (fun n => (data.drop pos).take n.val) (sys.send fd (data.drop pos))

def receiveAt (sys : Sys σ) (fd : SockFd) (size pos : ℕ) : σ → Except ℤ (List UInt8) × σ :=
  Sys.answering Subtype.val (sys.recv fd (size - pos) false)

structure Transferred (ask : ℕ → σ → Except ℤ (List UInt8) × σ) (size rounds : ℕ) (w w' : σ)
    (calls : List (Call ℤ UInt8)) (outcome : Option (Except Error Unit)) : Prop where
  answered : Answered ask size 0 w calls w'
  ended : Ended (· = Posix.eintr) failure size rounds calls outcome
  inRange : ∀ c ∈ calls, c.offset + c.size = size ∧ c.moved.length ≤ c.size

section
variable {sys : Sys σ} {stream : TcpStream} {data bytes : List UInt8} {size pos : ℕ}
  {os : Os σ} {w w' : σ} {code : ℤ}

@[simp] theorem retries_lastOsError :
    retries .posix (Platform.posix.lastOsError code) = true ↔ code = Posix.eintr := by
  rw [← Platform.isOsError_and_osCode_iff, retries, decide_eq_true_eq]
  exact and_iff_right rfl

theorem send_of_error (answered : sendFrom sys stream.fd data pos os.world = (.error code, w)) :
    send sys .posix stream (data.drop pos) os =
      (.error (Platform.posix.lastOsError code), ⟨w, code, os.trace⟩) := by
  rw [send, Sys.called_posix, bind_of_eq (mapResult_error (Sys.answering_error_iff.mp answered))]
  rfl

theorem send_of_ok (os : Os σ)
    (answered : sendFrom sys stream.fd data pos os.world = (.ok bytes, w)) :
    bytes <+: data.drop pos ∧
      send sys .posix stream (data.drop pos) os =
        (if bytes = [] then .error (.ofCode .connectionClosed) else .ok bytes.length,
          ⟨w, sys.errnoLeft w, os.trace⟩) := by
  obtain ⟨n, taken, rfl⟩ := Sys.answering_ok_iff.mp answered
  have length : ((data.drop pos).take n.val).length = n.val :=
    List.length_take_of_le (Nat.le_of_lt_succ n.isLt)
  refine ⟨List.take_prefix _ _, ?_⟩
  rw [send, Sys.called_posix, bind_of_eq (mapResult_ok taken), length]
  simp only [← List.length_eq_zero_iff, length]
  split_ifs <;> rfl

theorem receive_of_error (answered : receiveAt sys stream.fd size pos os.world = (.error code, w)) :
    receive sys .posix stream (size - pos) os =
      (.error (Platform.posix.lastOsError code), ⟨w, code, os.trace⟩) := by
  rw [receive, receiveWith, Sys.called_posix,
    bind_of_eq (mapResult_error (Sys.answering_error_iff.mp answered))]
  rfl

theorem receive_of_ok (os : Os σ)
    (answered : receiveAt sys stream.fd size pos os.world = (.ok bytes, w)) :
    bytes.length ≤ size - pos ∧
      receive sys .posix stream (size - pos) os =
        (if bytes = [] then .error (.ofCode .connectionClosed) else .ok bytes,
          ⟨w, sys.errnoLeft w, os.trace⟩) := by
  obtain ⟨given, taken, rfl⟩ := Sys.answering_ok_iff.mp answered
  refine ⟨given.property, ?_⟩
  rw [receive, receiveWith, Sys.called_posix, bind_of_eq (mapResult_ok taken)]
  simp only [List.length_eq_zero_iff]
  split_ifs <;> rfl

end

theorem sendPass_transfers (sys : Sys σ) (stream : TcpStream) (data : List UInt8) :
    Transfers Os.world (sendPass sys .posix stream) (sendFrom sys stream.fd data)
      (· = Posix.eintr) failure data.length (fun past => data.drop past.length)
      fun _ res => res where
  fits pos w part w' _ answered := by
    have front := (send_of_ok ⟨w, 0, []⟩ answered).1.length_le
    rwa [List.length_drop] at front
  done past s all := by
    rw [all, List.drop_length]
    exact sendPass_done
  passes past s answer w less answered going := by
    have some_left : data.drop past.length ≠ [] := mt List.drop_eq_nil_iff.mp (not_le.mpr less)
    cases answer with
    | error code =>
      have pass := sendPass_error some_left (send_of_error answered)
      rw [if_pos (retries_lastOsError.mpr going)] at pass
      refine ⟨⟨w, code, s.trace⟩, rfl, pass.trans ?_⟩
      rw [Call.moved_error, List.append_nil]
    | ok bytes =>
      have once := (send_of_ok s answered).2
      rw [if_neg going] at once
      have some_sent : bytes.length ≠ 0 := fun none => going (List.length_eq_zero_iff.mp none)
      refine ⟨⟨w, sys.errnoLeft w, s.trace⟩, rfl, (sendPass_ok some_left once some_sent).trans ?_⟩
      rw [Call.moved_ok, List.length_append, List.drop_drop]
  stops past s answer w less answered stopped := by
    have some_left : data.drop past.length ≠ [] := mt List.drop_eq_nil_iff.mp (not_le.mpr less)
    cases answer with
    | error code =>
      have pass := sendPass_error some_left (send_of_error answered)
      rw [if_neg (mt retries_lastOsError.mp stopped)] at pass
      exact ⟨⟨w, code, s.trace⟩, rfl, pass⟩
    | ok bytes =>
      have once := (send_of_ok s answered).2
      rw [if_pos (not_not.mp stopped)] at once
      exact ⟨⟨w, sys.errnoLeft w, s.trace⟩, rfl, sendPass_error some_left once⟩

theorem receivePass_transfers (sys : Sys σ) (stream : TcpStream) (size : ℕ) :
    Transfers Os.world (receivePass sys .posix stream) (receiveAt sys stream.fd size)
      (· = Posix.eintr) failure size (fun past => (size - past.length, past))
      fun past res => (res, past) where
  fits pos w part w' _ answered := (receive_of_ok ⟨w, 0, []⟩ answered).1
  done past s all := by
    simp only [all, Nat.sub_self]
    exact receivePass_done
  passes past s answer w less answered going := by
    have some_left : size - past.length ≠ 0 := by omega
    cases answer with
    | error code =>
      have pass := receivePass_error past some_left (receive_of_error answered)
      rw [if_pos (retries_lastOsError.mpr going)] at pass
      refine ⟨⟨w, code, s.trace⟩, rfl, pass.trans ?_⟩
      rw [Call.moved_error, List.append_nil]
    | ok bytes =>
      have once := (receive_of_ok s answered).2
      rw [if_neg going] at once
      refine ⟨⟨w, sys.errnoLeft w, s.trace⟩, rfl, (receivePass_ok some_left once going).trans ?_⟩
      rw [Call.moved_ok, List.length_append, Nat.sub_sub]
  stops past s answer w less answered stopped := by
    have some_left : size - past.length ≠ 0 := by omega
    cases answer with
    | error code =>
      have pass := receivePass_error past some_left (receive_of_error answered)
      rw [if_neg (mt retries_lastOsError.mp stopped)] at pass
      exact ⟨⟨w, code, s.trace⟩, rfl, pass⟩
    | ok bytes =>
      have once := (receive_of_ok s answered).2
      rw [if_pos (not_not.mp stopped)] at once
      exact ⟨⟨w, sys.errnoLeft w, s.trace⟩, rfl, receivePass_error past some_left once⟩

/-- The bytes given are the next ones of a stream, of which so much is left in a world. -/
structure GivesNext (sys : Sys σ) (fd : SockFd) (left : σ → List UInt8) : Prop where
  ok : ∀ {size w bytes w'}, sys.recv fd size false w = (.ok bytes, w') →
    left w = bytes.val ++ left w'
  error : ∀ {size w code w'}, sys.recv fd size false w = (.error code, w') → left w = left w'

section
variable {sys : Sys σ} {stream : TcpStream} {rounds : ℕ} {os os' : Os σ}

/-- The slices that the system takes are the front of the data, all of it just when
`sendAll` says so. -/
theorem sendAll_spec {data : List UInt8} {outcome : Option (Except Error Unit)}
    (run : sendAll sys .posix stream data rounds os = (outcome, os')) :
    ∃ calls,
      Transferred (sendFrom sys stream.fd data) data.length rounds os.world os'.world calls
          outcome ∧
        moved calls <+: data ∧ ∀ res, outcome = some res → (moved calls = data ↔ res = .ok ()) := by
  have transfers := sendPass_transfers sys stream data
  obtain ⟨calls, ended, answered, stands, returned⟩ :=
    transfers.run rounds [] (Nat.zero_le data.length) os
  rw [sendAll] at run
  rw [List.length_nil, List.drop_zero, run] at answered returned
  obtain rfl : outcome = ended := returned.trans Option.map_id'
  have front : moved calls <+: data :=
    answered.front fun pos w part w' given => (send_of_ok ⟨w, 0, []⟩ given).1
  refine ⟨calls, ⟨answered, stands, (answered.inRange transfers.fits (Nat.zero_le _)).1⟩, front, ?_⟩
  rintro res rfl
  rw [← stands.whole_iff]
  exact ⟨fun same => congrArg List.length same, front.eq_of_length⟩

/-- The buffer is filled with what comes next of the stream, and no more of it is gone. -/
theorem receiveExact_spec {size : ℕ} {outcome : Option (Except Error Unit × List UInt8)}
    (run : receiveExact sys .posix stream size [] rounds os = (outcome, os')) :
    ∃ calls ended,
      Transferred (receiveAt sys stream.fd size) size rounds os.world os'.world calls ended ∧
        outcome = ended.map (fun res => (res, moved calls)) ∧
        (∀ res, ended = some res → ((moved calls).length = size ↔ res = .ok ())) ∧
        ∀ left, GivesNext sys stream.fd left → left os.world = moved calls ++ left os'.world := by
  have transfers := receivePass_transfers sys stream size
  obtain ⟨calls, ended, answered, stands, returned⟩ := transfers.run rounds [] (Nat.zero_le size) os
  rw [receiveExact] at run
  rw [List.length_nil, Nat.sub_zero, run] at answered returned
  refine ⟨calls, ended, ⟨answered, stands, (answered.inRange transfers.fits (Nat.zero_le _)).1⟩,
    returned, ?_, fun left gives => answered.consumes fun pos w answer w' given => ?_⟩
  · rintro res rfl
    exact stands.whole_iff
  · cases answer with
    | error code => exact gives.error (Sys.answering_error_iff.mp given)
    | ok bytes =>
      obtain ⟨taken, answer, rfl⟩ := Sys.answering_ok_iff.mp given
      exact gives.ok answer

end
end Qsox.TcpTransfer
