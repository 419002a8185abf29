import Qsox.Control
import Qsox.TcpTransfer

/-! A connection: calls of `sendAll` waiting at one end, calls of `receiveExact` at the
other and a reliable wire in between. In every step one end makes one more pass through
the loop of its current call, in any order. -/

namespace Qsox.TcpLink

open Portions TcpStream TcpTransfer

/-- The bytes under way, and what the next call is told: a number that can be moved, or an
error. -/
structure Wire where
  bytes : List UInt8
  reply : Except ℤ ℕ
  deriving Repr

namespace Wire

def send (data : List UInt8) (w : Wire) : Except ℤ (Fin (data.length + 1)) × Wire :=
  match w.reply with
  | .ok n => (.ok ⟨min n data.length, by omega⟩, { w with bytes := w.bytes ++ data.take n })
  | .error code => (.error code, w)

def recv (size : ℕ) (peek : Bool) (w : Wire) :
    Except ℤ { bytes : List UInt8 // bytes.length ≤ size } × Wire :=
  match w.reply with
  | .ok n =>
    (.ok ⟨w.bytes.take (min n size), by rw [List.length_take]; omega⟩,
      if peek then w else { w with bytes := w.bytes.drop (min n size) })
  | .error code => (.error code, w)

def sys : Sys Wire :=
  { Sys.refusing Posix.ewouldblock with send := fun _ => send, recv := fun _ => recv }

section
variable {fd : SockFd} {size pos : ℕ} {data : List UInt8} {answer : Except ℤ (List UInt8)}
  {w w' : Wire}

theorem sendFrom_bytes (answered : sendFrom sys fd data pos w = (answer, w')) :
    w'.bytes = w.bytes ++ (Call.mk pos (data.length - pos) answer).moved := by
  change Sys.answering _ (send (data.drop pos)) w = _ at answered
  rw [Sys.answering, send] at answered
  cases told : w.reply with
  | error code =>
    rw [told] at answered
    cases answered
    exact (List.append_nil _).symm
  | ok n =>
    rw [told] at answered
    cases answered
    exact congrArg (w.bytes ++ ·) List.take_eq_take_min

theorem receiveAt_bytes (answered : receiveAt sys fd size pos w = (answer, w')) :
    w.bytes = (Call.mk pos (size - pos) answer).moved ++ w'.bytes := by
  change Sys.answering _ (recv (size - pos) false) w = _ at answered
  rw [Sys.answering, recv] at answered
  cases told : w.reply with
  | error code =>
    rw [told] at answered
    cases answered
    rfl
  | ok n =>
    rw [told] at answered
    cases answered
    exact (List.take_append_drop _ _).symm

end
end Wire

/-- The calls in order, the current one first: what each still has to send, and what each
still waits for with what it has got. Then the buffers of the calls that are done. -/
structure Link where
  os : Os Wire
  sending : List (List UInt8)
  receiving : List (ℕ × List UInt8)
  received : List (List UInt8)

def Link.start (data : List (List UInt8)) (sizes : List ℕ) : Link :=
  ⟨⟨⟨[], .ok 0⟩, 0, []⟩, data, sizes.map fun size => (size, []), []⟩

inductive Action
  | send (reply : Except ℤ ℕ)
  | receive (reply : Except ℤ ℕ)

def Link.asked (link : Link) (reply : Except ℤ ℕ) : Os Wire :=
  { link.os with world := { link.os.world with reply := reply } }

variable (sender receiver : TcpStream)

/-- One end makes a pass; there is no step when its call fails. -/
def Link.step (link : Link) : Action → Option Link
  | .send reply =>
    match link.sending with
    | [] => none
    | data :: others =>
      match sendPass Wire.sys .posix sender data (link.asked reply) with
      | (.inl rest, os) => some { link with os := os, sending := rest :: others }
      | (.inr (.ok ()), os) => some { link with os := os, sending := others }
      | (.inr (.error _), _) => none
  | .receive reply =>
    match link.receiving with
    | [] => none
    | cursor :: others =>
      match receivePass Wire.sys .posix receiver cursor (link.asked reply) with
      | (.inl next, os) => some { link with os := os, receiving := next :: others }
      | (.inr (.ok (), filled), os) =>
        some { link with os := os, receiving := others, received := link.received ++ [filled] }
      | (.inr (.error _, _), _) => none

def Link.run (link : Link) (actions : List Action) : Option Link :=
  actions.foldlM (Link.step sender receiver) link

variable {sender receiver} {link link' : Link} {reply : Except ℤ ℕ} {actions : List Action}
  {data : List (List UInt8)} {sizes : List ℕ}

theorem sendPass_conserves {bytes rest : List UInt8} {os os' : Os Wire}
    (pass : sendPass Wire.sys .posix sender bytes os = (.inl rest, os')) :
    os'.world.bytes ++ rest = os.world.bytes ++ bytes := by
  obtain ⟨answer, answered, rfl⟩ :=
    (sendPass_transfers Wire.sys sender bytes).of_inl [] (Nat.zero_le _) pass
  rw [Wire.sendFrom_bytes answered, List.append_assoc, List.nil_append]
  congr 1
  cases answer with
  | error code => rfl
  | ok part =>
    obtain ⟨rest, whole⟩ := (send_of_ok _ answered).1
    rw [List.length_nil, List.drop_zero] at whole
    rw [Call.moved_ok, ← whole, List.drop_left]

theorem sendPass_finished {bytes : List UInt8} {os os' : Os Wire}
    (pass : sendPass Wire.sys .posix sender bytes os = (.inr (.ok ()), os')) :
    bytes = [] ∧ os' = os := by
  rcases (sendPass_transfers Wire.sys sender bytes).of_inr [] (Nat.zero_le _) pass with
    ⟨all, -, same⟩ | ⟨answer, failed⟩
  · exact ⟨List.length_eq_zero_iff.mp all.symm, same⟩
  · cases failed

theorem receivePass_conserves {cursor next : ℕ × List UInt8} {os os' : Os Wire}
    (pass : receivePass Wire.sys .posix receiver cursor os = (.inl next, os')) :
    next.2 ++ os'.world.bytes = cursor.2 ++ os.world.bytes ∧
      next.1 + next.2.length = cursor.1 + cursor.2.length := by
  obtain ⟨remaining, filled⟩ := cursor
  have here : remaining = remaining + filled.length - filled.length := by omega
  rw [here] at pass
  have transfers := receivePass_transfers Wire.sys receiver (remaining + filled.length)
  obtain ⟨answer, answered, rfl⟩ := transfers.of_inl filled (Nat.le_add_left _ _) pass
  refine ⟨?_, ?_⟩
  · rw [Wire.receiveAt_bytes answered, List.append_assoc]
  · have fits : (Call.mk filled.length (remaining + filled.length - filled.length)
        answer).moved.length ≤ remaining := by
      cases answer with
      | error code => exact Nat.zero_le _
      | ok part =>
        have within := (receive_of_ok _ answered).1
        rwa [← here] at within
    simp only [List.length_append]
    omega

theorem receivePass_finished {cursor : ℕ × List UInt8} {filled : List UInt8} {os os' : Os Wire}
    (pass : receivePass Wire.sys .posix receiver cursor os = (.inr (.ok (), filled), os')) :
    cursor = (0, filled) ∧ os' = os := by
  obtain ⟨remaining, got⟩ := cursor
  have here : remaining = remaining + got.length - got.length := by omega
  rw [here] at pass
  have transfers := receivePass_transfers Wire.sys receiver (remaining + got.length)
  rcases transfers.of_inr got (Nat.le_add_left _ _) pass with
    ⟨all, finished, same⟩ | ⟨answer, failed⟩
  · obtain ⟨-, rfl⟩ := Prod.mk.inj finished
    obtain rfl : remaining = 0 := by omega
    exact ⟨rfl, same⟩
  · cases failed

theorem Link.step_send (h : link.step sender receiver (.send reply) = some link') :
    ∃ bytes others, link.sending = bytes :: others ∧
      ((∃ rest, sendPass Wire.sys .posix sender bytes (link.asked reply) = (.inl rest, link'.os) ∧
          link' = { link with os := link'.os, sending := rest :: others }) ∨
        sendPass Wire.sys .posix sender bytes (link.asked reply) = (.inr (.ok ()), link'.os) ∧
          link' = { link with os := link'.os, sending := others }) := by
  simp only [Link.step] at h
  split at h
  · cases h
  · rename_i bytes others queue
    split at h
    · rename_i rest os out
      obtain rfl := Option.some.inj h
      exact ⟨bytes, others, queue, .inl ⟨rest, out, rfl⟩⟩
    · rename_i os out
      obtain rfl := Option.some.inj h
      exact ⟨bytes, others, queue, .inr ⟨out, rfl⟩⟩
    · cases h

theorem Link.step_receive (h : link.step sender receiver (.receive reply) = some link') :
    ∃ cursor others, link.receiving = cursor :: others ∧
      ((∃ next, receivePass Wire.sys .posix receiver cursor (link.asked reply) =
            (.inl next, link'.os) ∧
          link' = { link with os := link'.os, receiving := next :: others }) ∨
        ∃ filled, receivePass Wire.sys .posix receiver cursor (link.asked reply) =
            (.inr (.ok (), filled), link'.os) ∧
          link' = { link with os := link'.os, receiving := others,
                              received := link.received ++ [filled] }) := by
  simp only [Link.step] at h
  split at h
  · cases h
  · rename_i cursor others queue
    split at h
    · rename_i next os out
      obtain rfl := Option.some.inj h
      exact ⟨cursor, others, queue, .inl ⟨next, out, rfl⟩⟩
    · rename_i filled os out
      obtain rfl := Option.some.inj h
      exact ⟨cursor, others, queue, .inr ⟨filled, out, rfl⟩⟩
    · cases h

/-- Nothing is lost, doubled or moved: what was received, what is on the wire and what is
still to send make up the data, in order. -/
structure Link.Conserves (data : List (List UInt8)) (sizes : List ℕ) (link : Link) : Prop where
  bytes : link.received.flatten ++ link.receiving.flatMap Prod.snd ++ link.os.world.bytes ++
    link.sending.flatten = data.flatten
  sizes : link.received.map List.length ++ link.receiving.map (fun c => c.1 + c.2.length) = sizes
  waiting : ∀ cursor ∈ link.receiving.tail, cursor.2 = []

theorem flatMap_of_waiting {cursors : List (ℕ × List UInt8)} (h : ∀ c ∈ cursors, c.2 = []) :
    cursors.flatMap Prod.snd = [] :=
  List.flatMap_eq_nil_iff.mpr h

namespace Link.Conserves

theorem send (h : link.Conserves data sizes)
    (step : link.step sender receiver (.send reply) = some link') : link'.Conserves data sizes := by
  obtain ⟨bytes, others, queue, moves⟩ := Link.step_send step
  have all := h.bytes
  rw [queue, List.flatten_cons] at all
  rcases moves with ⟨rest, pass, same⟩ | ⟨pass, same⟩
  · have kept : link'.os.world.bytes ++ rest = (link.asked reply).world.bytes ++ bytes :=
      sendPass_conserves pass
    rw [same]
    refine { h with bytes := ?_ }
    rw [← all, List.flatten_cons, List.append_assoc, List.append_assoc, List.append_assoc,
      List.append_assoc, ← List.append_assoc link'.os.world.bytes, kept, Link.asked,
      List.append_assoc]
  · obtain ⟨rfl, kept⟩ := sendPass_finished pass
    rw [same]
    refine { h with bytes := ?_ }
    rw [← all, kept]
    rfl

theorem receive (h : link.Conserves data sizes)
    (step : link.step sender receiver (.receive reply) = some link') :
    link'.Conserves data sizes := by
  obtain ⟨cursor, others, queue, moves⟩ := Link.step_receive step
  have all := h.bytes
  have lengths := h.sizes
  have waiting := h.waiting
  rw [queue, List.tail_cons] at waiting
  rw [queue, List.flatMap_cons, flatMap_of_waiting waiting, List.append_nil] at all
  rw [queue, List.map_cons] at lengths
  rcases moves with ⟨next, pass, same⟩ | ⟨filled, pass, same⟩
  · obtain ⟨kept, size⟩ := receivePass_conserves pass
    have kept : next.2 ++ link'.os.world.bytes = cursor.2 ++ link.os.world.bytes := kept
    rw [same]
    refine ⟨?_, ?_, waiting⟩
    · rw [← all]
      simp only [List.flatMap_cons, flatMap_of_waiting waiting, List.append_nil, List.append_assoc]
      rw [← List.append_assoc next.2, kept, List.append_assoc]
    · rw [← lengths, List.map_cons, size]
  · obtain ⟨rfl, kept⟩ := receivePass_finished pass
    rw [same]
    refine ⟨?_, ?_, fun cursor hcursor => waiting cursor (List.mem_of_mem_tail hcursor)⟩
    · rw [← all, kept]
      simp [flatMap_of_waiting waiting, Link.asked]
    · rw [← lengths]
      simp

theorem step (h : link.Conserves data sizes) {action : Action}
    (step : link.step sender receiver action = some link') : link'.Conserves data sizes := by
  cases action with
  | send reply => exact h.send step
  | receive reply => exact h.receive step

theorem run (h : link.Conserves data sizes) (run : link.run sender receiver actions = some link') :
    link'.Conserves data sizes :=
  Control.foldlM_invariant (P := fun _ link => link.Conserves data sizes) h
    (fun _ _ _ _ h move => h.step move) run

theorem start (data : List (List UInt8)) (sizes : List ℕ) :
    (Link.start data sizes).Conserves data sizes where
  bytes := by simp [Link.start, List.flatMap_map]
  sizes := by
    rw [Link.start, List.map_map]
    exact List.map_id' sizes
  waiting := by
    intro cursor hcursor
    obtain ⟨size, -, rfl⟩ := List.mem_map.mp (List.mem_of_mem_tail hcursor)
    rfl

theorem received (h : link.Conserves data sizes) :
    link.received.flatten <+: data.flatten ∧ link.received.map List.length <+: sizes := by
  constructor
  · rw [← h.bytes, List.append_assoc, List.append_assoc]
    exact List.prefix_append _ _
  · rw [← h.sizes]
    exact List.prefix_append _ _

theorem received_all (h : link.Conserves data sizes) (done : link.receiving = [])
    (same : data.flatten.length = sizes.sum) : link.received.flatten = data.flatten := by
  apply h.received.1.eq_of_length
  have lengths := h.sizes
  rw [done, List.map_nil, List.append_nil] at lengths
  rw [same, List.length_flatten, lengths]

end Link.Conserves

/-- Bulk transfer loses, duplicates and reorders nothing: one call against any system, and
two ends against each other. -/
theorem bulk_transfer_in_order :
    (∀ {σ : Type} {sys : Sys σ} {stream : TcpStream} {data : List UInt8} {rounds : ℕ}
        {os os' : Os σ} {outcome : Option (Except Error Unit)},
      sendAll sys .posix stream data rounds os = (outcome, os') →
      ∃ calls, Transferred (sendFrom sys stream.fd data) data.length rounds os.world os'.world calls
          outcome ∧
        moved calls <+: data ∧ ∀ res, outcome = some res → (moved calls = data ↔ res = .ok ())) ∧
    (∀ {σ : Type} {sys : Sys σ} {stream : TcpStream} {size rounds : ℕ} {os os' : Os σ}
        {outcome : Option (Except Error Unit × List UInt8)},
      receiveExact sys .posix stream size [] rounds os = (outcome, os') →
      ∃ calls ended, Transferred (receiveAt sys stream.fd size) size rounds os.world os'.world calls
          ended ∧
        outcome = ended.map (fun res => (res, moved calls)) ∧
        (∀ res, ended = some res → ((moved calls).length = size ↔ res = .ok ())) ∧
        ∀ left, GivesNext sys stream.fd left → left os.world = moved calls ++ left os'.world) ∧
    ∀ sender receiver data sizes actions link,
      (Link.start data sizes).run sender receiver actions = some link →
      link.received.flatten <+: data.flatten ∧ link.received.map List.length <+: sizes ∧
        (link.receiving = [] → data.flatten.length = sizes.sum →
          link.received.flatten = data.flatten) := by
  refine ⟨fun run => sendAll_spec run, fun run => receiveExact_spec run, ?_⟩
  intro sender receiver data sizes actions link run
  have conserves := (Link.Conserves.start data sizes).run run
  exact ⟨conserves.received.1, conserves.received.2, conserves.received_all⟩

/-- An interruption, then single bytes, read in other portions than they were sent. -/
def chunks : List Action :=
  [.send (.error Posix.eintr), .send (.ok 1), .receive (.ok 8), .receive (.ok 0), .send (.ok 8),
    .send (.ok 0), .receive (.error Posix.eintr), .receive (.ok 1), .send (.ok 8), .receive (.ok 8),
    .receive (.ok 0)]

theorem chunks_in_order :
    ∃ link, (Link.start [[1, 2], [3]] [1, 2]).run ⟨3⟩ ⟨4⟩ chunks = some link ∧
      link.received.flatten = [1, 2, 3] :=
  ⟨_, rfl, (bulk_transfer_in_order.2.2 ⟨3⟩ ⟨4⟩ [[1, 2], [3]] [1, 2] chunks _ rfl).2.2 rfl rfl⟩

end Qsox.TcpLink
