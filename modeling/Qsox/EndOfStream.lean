import Qsox.HalfClose

/-! Where `ConnectionClosed` comes from. The system returns `0` at the end of the stream
and for a transfer of no bytes; the error does not tell one from the other. -/

namespace Qsox.EndOfStream

open HalfClose (shutCode)

section
variable {σ : Type} {sys : Sys σ} {p : Platform} {stream : TcpStream} {os : Os σ}

theorem lastOsError_ne_connectionClosed (code : ℤ) :
    p.lastOsError code ≠ .ofCode .connectionClosed := by
  have named : ErrorCode.connectionClosed ≠ .other := nofun
  rw [Ne, Platform.lastOsError_eq_ofCode_iff named]
  cases p with
  | posix => simp [Platform.codes, Posix.codes]
  | windows => simp [Platform.codes, Winsock.codes]

theorem send_closed_iff (data : List UInt8) :
    (TcpStream.send sys p stream data os).1 = .error (.ofCode .connectionClosed) ↔
      ∃ n, (sys.send stream.fd (data.take (p.len data.length)) os.world).1 = .ok n ∧
        n.val = 0 := by
  cases answered : sys.send stream.fd (data.take (p.len data.length)) os.world with
  | mk returned w =>
    cases returned with
    | error code =>
      have called : (sys.called p).send stream.fd data os.world = (.error code, w) := by
        rw [Sys.called_send]
        exact Sys.answering_error_iff.mpr answered
      rw [TcpStream.send, bind_of_eq (mapResult_error called)]
      refine iff_of_false (fun same => ?_) nofun
      exact lastOsError_ne_connectionClosed code (Except.error.inj same)
    | ok n =>
      have called : (sys.called p).send stream.fd data os.world = (.ok (n.castLE (by simp)), w) := by
        rw [Sys.called_send]
        exact Sys.answering_ok_iff.mpr ⟨n, answered, rfl⟩
      rw [TcpStream.send, bind_of_eq (mapResult_ok called)]
      by_cases nothing : n.val = 0
      · simp only [Fin.val_castLE, if_pos nothing]
        exact iff_of_true rfl ⟨n, rfl, nothing⟩
      · simp only [Fin.val_castLE, if_neg nothing]
        refine iff_of_false nofun ?_
        rintro ⟨_, ⟨⟩, none_sent⟩
        exact nothing none_sent

theorem receiveWith_closed_iff (peek : Bool) (size : ℕ) :
    (TcpStream.receiveWith sys p peek stream size os).1 = .error (.ofCode .connectionClosed) ↔
      ∃ bytes, (sys.recv stream.fd (p.len size) peek os.world).1 = .ok bytes ∧
        bytes.val = [] := by
  cases answered : sys.recv stream.fd (p.len size) peek os.world with
  | mk returned w =>
    cases returned with
    | error code =>
      have called : (sys.called p).recv stream.fd size peek os.world = (.error code, w) := by
        rw [Sys.called_recv]
        exact Sys.answering_error_iff.mpr answered
      rw [TcpStream.receiveWith, bind_of_eq (mapResult_error called)]
      refine iff_of_false (fun same => ?_) (by rintro ⟨_, ⟨⟩, -⟩)
      exact lastOsError_ne_connectionClosed code (Except.error.inj same)
    | ok bytes =>
      have called : (sys.called p).recv stream.fd size peek os.world =
          (.ok ⟨bytes.1, bytes.2.trans (p.len_le size)⟩, w) := by
        rw [Sys.called_recv]
        exact Sys.answering_ok_iff.mpr ⟨bytes, answered, rfl⟩
      rw [TcpStream.receiveWith, bind_of_eq (mapResult_ok called)]
      by_cases nothing : bytes.val.length = 0
      · simp only [if_pos nothing]
        exact iff_of_true rfl ⟨bytes, rfl, List.length_eq_zero_iff.mp nothing⟩
      · simp only [if_neg nothing]
        refine iff_of_false (fun same => by cases same) ?_
        rintro ⟨_, ⟨⟩, none_received⟩
        exact nothing (List.length_eq_zero_iff.mpr none_received)

end

/-- A connected stream at its system: what can be received, what became of the peer and
which directions were shut down on this side. -/
structure Endpoint where
  incoming : List UInt8
  peerClosed : Bool
  gone : Bool
  sendShut : Bool
  receiveShut : Bool
  answer : HalfClose.Answer
  deriving DecidableEq, Repr

namespace Endpoint

def Closed (e : Endpoint) : Prop := e.peerClosed = true ∨ e.gone = true

def Ended (e : Endpoint) : Prop := e.Closed ∨ e.receiveShut = true

instance (e : Endpoint) : Decidable e.Closed := inferInstanceAs (Decidable (_ ∨ _))

instance (e : Endpoint) : Decidable e.Ended := inferInstanceAs (Decidable (_ ∨ _))

def wouldBlock : Platform → ℤ
  | .posix => Posix.ewouldblock
  | .windows => Winsock.wsaewouldblock

def refusesSend (p : Platform) (e : Endpoint) : Option ℤ :=
  match e.answer.refusal with
  | some code => some code
  | none => if e.sendShut ∨ e.gone then some (shutCode p) else none

/-- A call that waits is one made when there is something to receive, or the end. -/
def refusesReceive (p : Platform) (size : ℕ) (e : Endpoint) : Option ℤ :=
  match e.answer.refusal with
  | some code => some code
  | none =>
    if e.receiveShut ∧ p = .windows then some (shutCode p)
    else if size ≠ 0 ∧ e.incoming = [] ∧ ¬ e.Ended then some (wouldBlock p)
    else none

/-- At least one byte is moved where there is one to move. -/
def send (p : Platform) (data : List UInt8) (e : Endpoint) :
    Except ℤ (Fin (data.length + 1)) × Endpoint :=
  match e.refusesSend p with
  | some code => (.error code, e)
  | none => (.ok ⟨min (e.answer.amount + 1) data.length, by omega⟩, e)

def recv (p : Platform) (size : ℕ) (peek : Bool) (e : Endpoint) :
    Except ℤ { bytes : List UInt8 // bytes.length ≤ size } × Endpoint :=
  match e.refusesReceive p size with
  | some code => (.error code, e)
  | none =>
    (.ok ⟨e.incoming.take (min (e.answer.amount + 1) size), by rw [List.length_take]; omega⟩,
      if peek then e
      else { e with incoming := e.incoming.drop (min (e.answer.amount + 1) size) })

def sys (p : Platform) : Sys Endpoint :=
  { Sys.refusing (shutCode p) with
    send := fun _ data e => e.send p data
    recv := fun _ size peek e => e.recv p size peek }

theorem send_zero_iff {p : Platform} {data : List UInt8} {e : Endpoint} :
    (∃ n, (e.send p data).1 = .ok n ∧ n.val = 0) ↔ data = [] ∧ e.refusesSend p = none := by
  unfold send
  cases e.refusesSend p with
  | some code => exact iff_of_false nofun nofun
  | none =>
    constructor
    · rintro ⟨_, ⟨⟩, none_sent⟩
      have moved : min (e.answer.amount + 1) data.length = 0 := none_sent
      exact ⟨List.length_eq_zero_iff.mp (by omega), rfl⟩
    · rintro ⟨rfl, -⟩
      exact ⟨_, rfl, Nat.min_zero _⟩

theorem recv_nil_iff {p : Platform} {size : ℕ} {peek : Bool} {e : Endpoint} :
    (∃ bytes, (e.recv p size peek).1 = .ok bytes ∧ bytes.val = []) ↔
      (size = 0 ∨ e.incoming = []) ∧ e.refusesReceive p size = none := by
  unfold recv
  cases e.refusesReceive p size with
  | some code => exact iff_of_false nofun nofun
  | none =>
    constructor
    · rintro ⟨_, ⟨⟩, none_received⟩
      refine ⟨?_, rfl⟩
      rcases List.take_eq_nil_iff.mp none_received with moved | empty
      · exact .inl (by omega)
      · exact .inr empty
    · intro ⟨nothing, _⟩
      refine ⟨_, rfl, List.take_eq_nil_iff.mpr ?_⟩
      rcases nothing with asked | empty
      · exact .inl (by omega)
      · exact .inr empty

theorem ended_of_answered {p : Platform} {size : ℕ} {e : Endpoint} (asked : size ≠ 0)
    (empty : e.incoming = []) (answered : e.refusesReceive p size = none) : e.Ended := by
  unfold refusesReceive at answered
  cases refusal : e.answer.refusal with
  | some code =>
    rw [refusal] at answered
    cases answered
  | none =>
    rw [refusal] at answered
    by_contra going
    have waits : size ≠ 0 ∧ e.incoming = [] ∧ ¬ e.Ended := ⟨asked, empty, going⟩
    simp only [if_pos waits] at answered
    split_ifs at answered

end Endpoint

/-- `ConnectionClosed` is only said of a stream that has been closed. -/
def Truthful {α : Type} (e : Endpoint) (returned : Except Error α) : Prop :=
  returned = .error (.ofCode .connectionClosed) → e.Closed

section
variable {p : Platform} {stream : TcpStream} {os : Os Endpoint}

theorem send_truthful_iff (data : List UInt8) :
    Truthful os.world (TcpStream.send (Endpoint.sys p) p stream data os).1 ↔
      (p.len data.length = 0 → os.world.refusesSend p = none → os.world.Closed) := by
  have nothing : data.take (p.len data.length) = [] ↔ p.len data.length = 0 := by
    rw [← List.length_eq_zero_iff, Sys.length_take_len]
  rw [Truthful, send_closed_iff, ← nothing]
  exact (imp_congr_left Endpoint.send_zero_iff).trans and_imp

theorem receiveWith_truthful_iff (peek : Bool) (size : ℕ) :
    Truthful os.world (TcpStream.receiveWith (Endpoint.sys p) p peek stream size os).1 ↔
      (p.len size = 0 ∨ os.world.incoming = [] ∧ os.world.receiveShut = true →
        os.world.refusesReceive p (p.len size) = none → os.world.Closed) := by
  rw [Truthful, receiveWith_closed_iff]
  refine (imp_congr_left Endpoint.recv_nil_iff).trans ?_
  constructor
  · rintro truthful (asked | ⟨empty, -⟩) answered
    · exact truthful ⟨.inl asked, answered⟩
    · exact truthful ⟨.inr empty, answered⟩
  · rintro truthful ⟨nothing, answered⟩
    by_cases asked : p.len size = 0
    · exact truthful (.inl asked) answered
    · have empty := nothing.resolve_left asked
      rcases Endpoint.ended_of_answered asked empty answered with closed | shut
      · exact closed
      · exact truthful (.inr ⟨empty, shut⟩) answered

theorem nothing_sent (data : List UInt8) :
    (TcpStream.send (Endpoint.sys p) p stream data os).2.world = os.world := by
  refine TcpStream.send_keeps id (fun e => ?_) os
  change (e.send p _).2 = e
  unfold Endpoint.send
  cases e.refusesSend p <;> rfl

theorem nothing_received {size : ℕ} (asked : p.len size = 0) (peek : Bool) :
    (TcpStream.receiveWith (Endpoint.sys p) p peek stream size os).2.world = os.world := by
  refine TcpStream.receiveWith_keeps id (fun e => ?_) os
  rw [asked]
  change (e.recv p 0 peek).2 = e
  unfold Endpoint.recv
  cases e.refusesReceive p 0 with
  | some code => rfl
  | none => cases peek <;> rfl

end

/-- The error is truthful unless no bytes were asked for, or nothing more is to be received
only because this side has shut that direction; asking for nothing leaves the stream as it is.
On Windows `2 ^ 32` bytes are none. -/
theorem connectionClosed_truthful_iff (p : Platform) (stream : TcpStream) (os : Os Endpoint)
    (data : List UInt8) (size : ℕ) :
    (Truthful os.world (TcpStream.send (Endpoint.sys p) p stream data os).1 ↔
        (p.len data.length = 0 → os.world.refusesSend p = none → os.world.Closed)) ∧
      (Truthful os.world (TcpStream.receive (Endpoint.sys p) p stream size os).1 ↔
        (p.len size = 0 ∨ os.world.incoming = [] ∧ os.world.receiveShut = true →
          os.world.refusesReceive p (p.len size) = none → os.world.Closed)) ∧
      (Truthful os.world (TcpStream.peek (Endpoint.sys p) p stream size os).1 ↔
        (p.len size = 0 ∨ os.world.incoming = [] ∧ os.world.receiveShut = true →
          os.world.refusesReceive p (p.len size) = none → os.world.Closed)) ∧
      (p.len data.length = 0 →
        (TcpStream.send (Endpoint.sys p) p stream data os).2.world = os.world) ∧
      (p.len size = 0 →
        (TcpStream.receive (Endpoint.sys p) p stream size os).2.world = os.world ∧
          (TcpStream.peek (Endpoint.sys p) p stream size os).2.world = os.world) :=
  ⟨send_truthful_iff data, receiveWith_truthful_iff false size, receiveWith_truthful_iff true size,
    fun _ => nothing_sent data,
    fun asked => ⟨nothing_received asked false, nothing_received asked true⟩⟩

def Endpoint.healthy (incoming : List UInt8) : Endpoint :=
  ⟨incoming, false, false, false, false, ⟨none, 0⟩⟩

theorem no_bytes_look_closed :
    (TcpStream.send (Endpoint.sys .posix) .posix ⟨3⟩ [] ⟨.healthy [7], 0, []⟩).1 =
        .error (.ofCode .connectionClosed) ∧
      (TcpStream.receive (Endpoint.sys .posix) .posix ⟨3⟩ 0 ⟨.healthy [7], 0, []⟩).1 =
        .error (.ofCode .connectionClosed) ∧
      (TcpStream.peek (Endpoint.sys .posix) .posix ⟨3⟩ 0 ⟨.healthy [7], 0, []⟩).1 =
        .error (.ofCode .connectionClosed) ∧
      (TcpStream.receive (Endpoint.sys .windows) .windows ⟨3⟩ (2 ^ 32)
        ⟨.healthy [7], 0, []⟩).1 = .error (.ofCode .connectionClosed) ∧
      ¬ (Endpoint.healthy [7]).Closed ∧
      (TcpStream.receive (Endpoint.sys .posix) .posix ⟨3⟩ 1 ⟨.healthy [7], 0, []⟩).1 = .ok [7] :=
  ⟨rfl, rfl, rfl, rfl, by decide, rfl⟩

end Qsox.EndOfStream
