import Qsox.EndOfStream
import Qsox.Flow
import Qsox.Ledger

/-! The life of a `TcpStream`: any mix of its transfers, among them those that fail half
way, with anything happening before, between and during them. No byte is lost, doubled
or moved to another place in either direction. -/

namespace Qsox

open EndOfStream (lastOsError_ne_connectionClosed)

def Flow.sentBy (data : List UInt8) : Except ℤ (Fin (data.length + 1)) → List UInt8
  | .ok n => data.take n
  | .error _ => []

def Flow.receivedBy {size : ℕ} (peek : Bool) :
    Except ℤ { bytes : List UInt8 // bytes.length ≤ size } → List UInt8
  | .ok bytes => if peek then [] else bytes.val
  | .error _ => []

/-- A stream transport: the bytes that a call says are taken or given, in their order, and
`0` where bytes were asked for only once the stream has come to its end. -/
structure Transports {σ : Type} (sys : Sys σ) (fd : SockFd) (flow : σ → Flow UInt8) : Prop where
  send : ∀ data w, (flow w).Moves (Flow.sentBy data (sys.send fd data w).1) []
    (flow (sys.send fd data w).2)
  recv : ∀ size peek w, (flow w).Moves [] (Flow.receivedBy peek (sys.recv fd size peek w).1)
    (flow (sys.recv fd size peek w).2)
  next : ∀ size peek w bytes w', sys.recv fd size peek w = (.ok bytes, w') →
    (flow w).given ++ bytes.val <+: (flow w').coming
  last : ∀ size peek w bytes w', sys.recv fd size peek w = (.ok bytes, w') → bytes.val = [] →
    size ≠ 0 → (flow w').EndsAt (flow w').given

inductive Exchange
  | send (data : List UInt8) (res : Except Error ℕ)
  | sendAll (data : List UInt8) (res : Except Error Unit)
  | receive (size : ℕ) (res : Except Error (List UInt8))
  | peek (size : ℕ) (res : Except Error (List UInt8))
  | receiveExact (size : ℕ) (res : Except Error Unit) (filled : List UInt8)

namespace Exchange

/-- The bytes the peer will get of it; after an error of `sendAll` some front of the data. -/
def Sends (part : List UInt8) : Exchange → Prop
  | send data (.ok n) => 0 < n ∧ n ≤ data.length ∧ part = data.take n
  | sendAll data res => part <+: data ∧ (part = data ↔ res = .ok ())
  | _ => part = []

def got : Exchange → List UInt8
  | receive _ (.ok bytes) => bytes
  | receiveExact _ _ filled => filled
  | _ => []

/-- Bytes that are returned come right after those received earlier; the end is reported
of a call that can name the length asked for. -/
def Continues (p : Platform) (earlier : List UInt8) (size : ℕ) (f : Flow UInt8) :
    Except Error (List UInt8) → Prop
  | .ok bytes => bytes ≠ [] ∧ bytes.length ≤ size ∧ earlier ++ bytes <+: f.coming
  | .error err => err = .ofCode .connectionClosed → p.len size ≠ 0 → f.EndsAt earlier

def Justified (p : Platform) (earlier : List UInt8) (f : Flow UInt8) : Exchange → Prop
  | receive size res | peek size res => Continues p earlier size f res
  | receiveExact size res filled =>
    filled.length ≤ size ∧ (filled.length = size ↔ res = .ok ()) ∧ earlier ++ filled <+: f.coming ∧
      (res = .error (.ofCode .connectionClosed) → p.len (size - filled.length) ≠ 0 →
        f.EndsAt (earlier ++ filled))
  | send _ _ | sendAll _ _ => True

variable {σ : Type} (sys : Sys σ) (p : Platform) (stream : TcpStream)

def Happens (os os' : Os σ) : Exchange → Prop
  | send data res => TcpStream.send sys p stream data os = (res, os')
  | sendAll data res => ∃ rounds, TcpStream.sendAll sys p stream data rounds os = (some res, os')
  | receive size res => TcpStream.receive sys p stream size os = (res, os')
  | peek size res => TcpStream.peek sys p stream size os = (res, os')
  | receiveExact size res filled =>
    ∃ rounds, TcpStream.receiveExact sys p stream size [] rounds os = (some (res, filled), os')

end Exchange

/-- Transfers one after the other, with what else goes on between them. -/
inductive Conversation {σ : Type} (sys : Sys σ) (p : Platform) (stream : TcpStream)
    (flow : σ → Flow UInt8) (os : Os σ) : List Exchange → Os σ → Prop
  | start : Conversation sys p stream flow os [] os
  | call {log : List Exchange} {s s' : Os σ} {x : Exchange}
      (before : Conversation sys p stream flow os log s) (happens : x.Happens sys p stream s s') :
      Conversation sys p stream flow os (log ++ [x]) s'
  | meanwhile {log : List Exchange} {s s' : Os σ}
      (before : Conversation sys p stream flow os log s)
      (moves : (flow s.world).Moves [] [] (flow s'.world)) :
      Conversation sys p stream flow os log s'

namespace Transports

variable {σ : Type} {sys : Sys σ} {p : Platform} {fd : SockFd} {flow : σ → Flow UInt8}
  (h : Transports sys fd flow)
include h

theorem called_send (data : List UInt8) (w : σ) :
    (flow w).Moves (Flow.sentBy data ((sys.called p).send fd data w).1) []
      (flow ((sys.called p).send fd data w).2) := by
  have moves := h.send (data.take (p.len data.length)) w
  rw [Sys.called_send, Sys.answering]
  cases answered : (sys.send fd (data.take (p.len data.length)) w).1 with
  | error code =>
    rw [answered] at moves
    exact moves
  | ok n =>
    have fits : n.val ≤ p.len data.length :=
      (Nat.le_of_lt_succ n.isLt).trans (List.length_take_le _ _)
    rw [answered, Flow.sentBy, List.take_take, Nat.min_eq_left fits] at moves
    exact moves

theorem called_recv (size : ℕ) (peek : Bool) (w : σ) :
    (flow w).Moves [] (Flow.receivedBy peek ((sys.called p).recv fd size peek w).1)
      (flow ((sys.called p).recv fd size peek w).2) := by
  have moves := h.recv (p.len size) peek w
  rw [Sys.called_recv, Sys.answering]
  cases answered : (sys.recv fd (p.len size) peek w).1 with
  | error code =>
    rw [answered] at moves
    exact moves
  | ok bytes =>
    rw [answered] at moves
    exact moves

variable {size : ℕ} {peek : Bool} {w w' : σ} {bytes : { bytes : List UInt8 // bytes.length ≤ size }}

theorem called_next (answered : (sys.called p).recv fd size peek w = (.ok bytes, w')) :
    (flow w).given ++ bytes.val <+: (flow w').coming := by
  rw [Sys.called_recv] at answered
  obtain ⟨received, given, rfl⟩ := Sys.answering_ok_iff.mp answered
  exact h.next _ peek w received w' given

theorem called_last (answered : (sys.called p).recv fd size peek w = (.ok bytes, w'))
    (empty : bytes.val = []) (asked : p.len size ≠ 0) : (flow w').EndsAt (flow w').given := by
  rw [Sys.called_recv] at answered
  obtain ⟨received, given, rfl⟩ := Sys.answering_ok_iff.mp answered
  exact h.last _ peek w received w' given empty asked

end Transports

section
variable {σ : Type} {sys : Sys σ} {p : Platform} {stream : TcpStream} {flow : σ → Flow UInt8}
  (h : Transports sys stream.fd flow)
include h

theorem send_sends {data : List UInt8} {res : Except Error ℕ} {os os' : Os σ}
    (sent : TcpStream.send sys p stream data os = (res, os')) :
    ∃ part, Exchange.Sends part (.send data res) ∧
      (flow os.world).Moves part [] (flow os'.world) := by
  have moves := h.called_send (p := p) data os.world
  cases answered : (sys.called p).send stream.fd data os.world with
  | mk returned w =>
    rw [answered] at moves
    cases returned with
    | error code =>
      rw [TcpStream.send, bind_of_eq (mapResult_error answered)] at sent
      cases sent
      exact ⟨[], rfl, moves⟩
    | ok n =>
      rw [TcpStream.send, bind_of_eq (mapResult_ok answered)] at sent
      by_cases nothing : n.val = 0
      · simp only [if_pos nothing] at sent
        cases sent
        have none_sent : data.take n = [] := by rw [nothing, List.take_zero]
        exact ⟨[], rfl, none_sent ▸ moves⟩
      · simp only [if_neg nothing] at sent
        cases sent
        exact ⟨data.take n, ⟨by omega, by omega, rfl⟩, moves⟩

theorem receiveWith_gets {peek : Bool} {size : ℕ} {res : Except Error (List UInt8)} {os os' : Os σ}
    (received : TcpStream.receiveWith sys p peek stream size os = (res, os')) :
    (flow os.world).Moves [] (if peek then [] else res.toOption.getD []) (flow os'.world) ∧
      Exchange.Continues p (flow os.world).given size (flow os'.world) res := by
  have moves := h.called_recv (p := p) size peek os.world
  cases answered : (sys.called p).recv stream.fd size peek os.world with
  | mk returned w =>
    rw [answered] at moves
    cases returned with
    | error code =>
      rw [TcpStream.receiveWith, bind_of_eq (mapResult_error answered)] at received
      cases received
      refine ⟨?_, fun closed => absurd closed (lastOsError_ne_connectionClosed code)⟩
      cases peek <;> exact moves
    | ok bytes =>
      rw [TcpStream.receiveWith, bind_of_eq (mapResult_ok answered)] at received
      by_cases nothing : bytes.val.length = 0
      · have empty := List.length_eq_zero_iff.mp nothing
        simp only [if_pos nothing] at received
        cases received
        simp only [Flow.receivedBy, empty, ite_self] at moves
        refine ⟨by cases peek <;> exact moves, fun _ asked => ?_⟩
        have ends := h.called_last answered empty asked
        rwa [moves.given, List.append_nil] at ends
      · simp only [if_neg nothing] at received
        cases received
        refine ⟨moves, fun empty => nothing (by rw [empty, List.length_nil]), bytes.property, ?_⟩
        exact h.called_next answered

theorem sendAll_sends {rounds : ℕ} {data : List UInt8} {res : Except Error Unit} {os os' : Os σ}
    (sent : TcpStream.sendAll sys p stream data rounds os = (some res, os')) :
    ∃ part, Exchange.Sends part (.sendAll data res) ∧
      (flow os.world).Moves part [] (flow os'.world) := by
  induction rounds generalizing data os with
  | zero => cases sent
  | succ rounds ih =>
    rw [TcpStream.sendAll] at sent
    by_cases empty : data = []
    · subst empty
      rw [passes_of_inr TcpStream.sendPass_done] at sent
      cases sent
      exact ⟨[], ⟨List.prefix_rfl, iff_of_true rfl rfl⟩, .refl _⟩
    · cases once : TcpStream.send sys p stream data os with
      | mk out s =>
        obtain ⟨part, sends, moves⟩ := send_sends h once
        cases out with
        | error err =>
          obtain rfl : part = [] := sends
          have pass := TcpStream.sendPass_error empty once
          split_ifs at pass
          · rw [passes_of_inl pass] at sent
            obtain ⟨part, sends, moves'⟩ := ih sent
            exact ⟨part, sends, moves.trans moves'⟩
          · rw [passes_of_inr pass] at sent
            cases sent
            exact ⟨[], ⟨List.nil_prefix, iff_of_false (Ne.symm empty) nofun⟩, moves⟩
        | ok n =>
          obtain ⟨some_sent, fits, rfl⟩ := sends
          rw [passes_of_inl (TcpStream.sendPass_ok empty once (Nat.ne_of_gt some_sent))] at sent
          obtain ⟨rest, ⟨front, whole⟩, moves'⟩ := ih sent
          refine ⟨data.take n ++ rest, ⟨?_, ?_⟩, moves.trans moves'⟩
          · conv_rhs => rw [← List.take_append_drop n data]
            exact (List.prefix_append_right_inj _).mpr front
          · rw [← whole]
            constructor
            · intro same
              exact List.append_cancel_left (same.trans (List.take_append_drop n data).symm)
            · intro same
              rw [same, List.take_append_drop]

theorem receiveExact_gets {rounds remaining : ℕ} {filled buffer : List UInt8}
    {res : Except Error Unit} {os os' : Os σ} (sound : (flow os.world).Sound)
    (received : TcpStream.receiveExact sys p stream remaining filled rounds os =
      (some (res, buffer), os')) :
    ∃ more, buffer = filled ++ more ∧ (flow os.world).Moves [] more (flow os'.world) ∧
      Exchange.Justified p (flow os.world).given (flow os'.world)
        (.receiveExact remaining res more) := by
  induction rounds generalizing remaining filled os with
  | zero => cases received
  | succ rounds ih =>
    rw [TcpStream.receiveExact] at received
    by_cases done : remaining = 0
    · subst done
      rw [passes_of_inr TcpStream.receivePass_done] at received
      cases received
      refine ⟨[], (List.append_nil _).symm, .refl _, Nat.le_refl 0, iff_of_true rfl rfl, ?_, nofun⟩
      rw [List.append_nil]
      exact sound
    · cases once : TcpStream.receive sys p stream remaining os with
      | mk out s =>
        obtain ⟨moves, continues⟩ := receiveWith_gets h once
        cases out with
        | error err =>
          have sound' : (flow s.world).Sound := moves.sound_of_nil sound
          have pass := TcpStream.receivePass_error filled done once
          split_ifs at pass
          · rw [passes_of_inl pass] at received
            obtain ⟨more, whole, moves', size, all, next, closed⟩ := ih sound' received
            have same : (flow s.world).given = (flow os.world).given :=
              moves.given.trans (List.append_nil _)
            rw [same] at next closed
            exact ⟨more, whole, moves.trans moves', size, all, next, closed⟩
          · rw [passes_of_inr pass] at received
            cases received
            refine ⟨[], (List.append_nil _).symm, moves, Nat.zero_le _, ?_, ?_, ?_⟩
            · exact iff_of_false (Ne.symm done) nofun
            · rw [List.append_nil]
              exact sound.trans moves.grows
            · intro closed asked
              rw [List.append_nil]
              exact continues (Except.error.inj closed) asked
        | ok bytes =>
          obtain ⟨some_got, fits, next⟩ := continues
          have moves : (flow os.world).Moves [] bytes (flow s.world) := moves
          rw [passes_of_inl (TcpStream.receivePass_ok done once some_got)] at received
          obtain ⟨more, whole, moves', size, all, next', closed⟩ := ih (moves.sound next) received
          rw [moves.given, List.append_assoc] at next' closed
          refine ⟨bytes ++ more, whole.trans (List.append_assoc _ _ _), moves.trans moves',
            ?_, ?_, next', fun e asked => closed e ?_⟩
          · rw [List.length_append]
            omega
          · rw [← all, List.length_append]
            omega
          · rwa [List.length_append, ← Nat.sub_sub] at asked

theorem Exchange.Happens.accounts {x : Exchange} {os os' : Os σ} (sound : (flow os.world).Sound)
    (happens : x.Happens sys p stream os os') :
    (∃ part, x.Sends part ∧ (flow os.world).Moves part x.got (flow os'.world)) ∧
      x.Justified p (flow os.world).given (flow os'.world) ∧ (flow os'.world).Sound := by
  cases x with
  | send data res =>
    obtain ⟨part, sends, moves⟩ := send_sends h happens
    exact ⟨⟨part, sends, moves⟩, trivial, moves.sound_of_nil sound⟩
  | sendAll data res =>
    obtain ⟨rounds, sent⟩ := happens
    obtain ⟨part, sends, moves⟩ := sendAll_sends h sent
    exact ⟨⟨part, sends, moves⟩, trivial, moves.sound_of_nil sound⟩
  | receive size res =>
    obtain ⟨moves, continues⟩ := receiveWith_gets h happens
    cases res with
    | error err => exact ⟨⟨[], rfl, moves⟩, continues, moves.sound_of_nil sound⟩
    | ok bytes => exact ⟨⟨[], rfl, moves⟩, continues, moves.sound continues.2.2⟩
  | peek size res =>
    obtain ⟨moves, continues⟩ := receiveWith_gets h happens
    exact ⟨⟨[], rfl, moves⟩, continues, moves.sound_of_nil sound⟩
  | receiveExact size res filled =>
    obtain ⟨rounds, received⟩ := happens
    obtain ⟨more, rfl, moves, justified⟩ := receiveExact_gets h sound received
    exact ⟨⟨[], rfl, moves⟩, justified, moves.sound justified.2.2.1⟩

end

section
variable {p : Platform} {f f' : Flow UInt8} {out into earlier : List UInt8}

theorem Exchange.Continues.later {size : ℕ} {res : Except Error (List UInt8)}
    (continues : Exchange.Continues p earlier size f res) (moves : f.Moves out into f') :
    Exchange.Continues p earlier size f' res := by
  cases res with
  | error err => exact fun closed asked => moves.endsAt (continues closed asked)
  | ok bytes =>
    obtain ⟨some_got, fits, next⟩ := continues
    exact ⟨some_got, fits, next.trans moves.grows⟩

theorem Exchange.Justified.later {x : Exchange} (justified : x.Justified p earlier f)
    (moves : f.Moves out into f') : x.Justified p earlier f' := by
  cases x with
  | send data res => trivial
  | sendAll data res => trivial
  | receive size res => exact Exchange.Continues.later justified moves
  | peek size res => exact Exchange.Continues.later justified moves
  | receiveExact size res filled =>
    obtain ⟨fits, all, next, closed⟩ := justified
    exact ⟨fits, all, next.trans moves.grows, fun e asked => moves.endsAt (closed e asked)⟩

end

structure Accounted (p : Platform) (start : Flow UInt8) (log : List Exchange) (now : Flow UInt8) :
    Prop where
  taken : ∃ parts, List.Forall₂ Exchange.Sends parts log ∧ now.taken = start.taken ++ parts.flatten
  given : now.given = start.given ++ log.flatMap Exchange.got
  sound : now.given <+: now.coming
  justified : Ledger.Each
    (fun past x => x.Justified p (start.given ++ past.flatMap Exchange.got) now) log

namespace Accounted

variable {p : Platform} {start now now' : Flow UInt8} {log : List Exchange}

theorem meanwhile (h : Accounted p start log now) (moves : now.Moves [] [] now') :
    Accounted p start log now' where
  taken := by
    obtain ⟨parts, sends, taken⟩ := h.taken
    exact ⟨parts, sends, by rw [moves.taken, taken, List.append_nil]⟩
  given := by rw [moves.given, h.given, List.append_nil]
  sound := moves.sound_of_nil h.sound
  justified past x future whole := (h.justified past x future whole).later moves

theorem call (h : Accounted p start log now) {x : Exchange} {part : List UInt8}
    (sends : x.Sends part) (moves : now.Moves part x.got now')
    (justified : x.Justified p now.given now') (sound : now'.Sound) :
    Accounted p start (log ++ [x]) now' where
  taken := by
    obtain ⟨parts, earlier, taken⟩ := h.taken
    refine ⟨parts ++ [part], List.rel_append earlier (.cons sends .nil), ?_⟩
    rw [moves.taken, taken, List.flatten_concat, List.append_assoc]
  given := by
    rw [moves.given, h.given, List.flatMap_append, List.flatMap_singleton, List.append_assoc]
  sound := sound
  justified := by
    refine Ledger.each_append.mpr ⟨fun past y future whole => ?_, h.given ▸ justified⟩
    exact (h.justified past y future whole).later moves

end Accounted

/-- Whatever transfers are made of a stream and however they end: the system takes the bytes
that the results tell of, in this order, what the caller has got is the front of what
the peer has sent, and the end is only reported when all of it has been got or the stream
was cut. -/
theorem conversation_accounted {σ : Type} {sys : Sys σ} {p : Platform} {stream : TcpStream}
    {flow : σ → Flow UInt8} {os os' : Os σ} {log : List Exchange}
    (h : Transports sys stream.fd flow) (sound : (flow os.world).given <+: (flow os.world).coming)
    (conversation : Conversation sys p stream flow os log os') :
    Accounted p (flow os.world) log (flow os'.world) := by
  induction conversation with
  | start =>
    refine ⟨⟨[], .nil, (List.append_nil _).symm⟩, (List.append_nil _).symm, sound, ?_⟩
    exact Ledger.each_nil _
  | call before happens ih =>
    obtain ⟨⟨part, sends, moves⟩, justified, sound'⟩ := happens.accounts h ih.sound
    exact ih.call sends moves justified sound'
  | meanwhile before moves ih => exact ih.meanwhile moves

structure Pipe where
  taken : List UInt8
  given : List UInt8
  waiting : List UInt8
  ended : Bool

namespace Pipe

def flow (w : Pipe) : Flow UInt8 := ⟨w.taken, w.given, w.given ++ w.waiting, w.ended, false⟩

def recv (size : ℕ) (peek : Bool) (w : Pipe) :
    Except ℤ { bytes : List UInt8 // bytes.length ≤ size } × Pipe :=
  if w.waiting = [] ∧ size ≠ 0 ∧ w.ended = false then (.error Posix.ewouldblock, w)
  else
    (.ok ⟨w.waiting.take (min 2 size), by rw [List.length_take]; omega⟩,
      if peek then w
      else { w with
        given := w.given ++ w.waiting.take (min 2 size)
        waiting := w.waiting.drop (min 2 size) })

def sys : Sys Pipe :=
  { Sys.refusing Posix.ewouldblock with
    send := fun _ data w =>
      (.ok ⟨min 2 data.length, by omega⟩,
        { w with taken := w.taken ++ data.take (min 2 data.length) })
    recv := fun _ => recv }

section
variable {size : ℕ} {peek : Bool} {w w' : Pipe}
  {bytes : { bytes : List UInt8 // bytes.length ≤ size }}

theorem recv_ok (answered : recv size peek w = (.ok bytes, w')) :
    bytes.val = w.waiting.take (min 2 size) ∧ w'.flow.coming = w.flow.coming ∧
      w'.given = w.given ++ (if peek then [] else bytes.val) ∧
      w'.taken = w.taken ∧ w'.ended = w.ended ∧
      (w.waiting = [] → size ≠ 0 → w.ended = true) := by
  unfold recv at answered
  split_ifs at answered with waits peeking
  · cases answered
  · cases answered
    subst peeking
    exact ⟨rfl, rfl, (List.append_nil _).symm, rfl, rfl, by grind⟩
  · cases answered
    obtain rfl : peek = false := Bool.eq_false_iff.mpr peeking
    refine ⟨rfl, ?_, rfl, rfl, rfl, by grind⟩
    simp only [flow, List.append_assoc, List.take_append_drop]

theorem recv_error {code : ℤ} (answered : recv size peek w = (.error code, w')) : w' = w := by
  unfold recv at answered
  split_ifs at answered
  · cases answered
    rfl
  · cases answered
  · cases answered

end

theorem transports (fd : SockFd) : Transports sys fd flow where
  send data w := ⟨rfl, (List.append_nil _).symm, List.prefix_rfl, fun ended => ⟨ended, rfl⟩, id⟩
  recv size peek w := by
    change (flow w).Moves [] (Flow.receivedBy peek (recv size peek w).1) (flow (recv size peek w).2)
    cases answered : recv size peek w with
    | mk returned w' =>
      cases returned with
      | error code =>
        obtain rfl := recv_error answered
        exact .refl _
      | ok bytes =>
        obtain ⟨-, coming, given, taken, ended, -⟩ := recv_ok answered
        refine ⟨taken.trans (List.append_nil _).symm, given, ?_, fun e => ⟨ended.trans e, coming⟩, id⟩
        rw [coming]
  next size peek w bytes w' answered := by
    obtain ⟨front, coming, -⟩ := recv_ok answered
    rw [coming, front]
    exact (List.prefix_append_right_inj _).mpr (List.take_prefix _ _)
  last size peek w bytes w' answered empty asked := by
    obtain ⟨front, coming, given, -, ended, ends⟩ := recv_ok answered
    have waiting : w.waiting = [] := by
      rcases List.take_eq_nil_iff.mp (front.symm.trans empty) with nothing | none_waits
      · omega
      · exact none_waits
    refine .inr ⟨ended.trans (ends waiting asked), ?_⟩
    rw [coming]
    change w.given ++ w.waiting = w'.given
    rw [given, empty, waiting, ite_self]

def answered : Os Pipe := ⟨⟨[], [], [7, 8, 9], false⟩, 0, []⟩

def closing (os : Os Pipe) : Os Pipe :=
  { os with world := { os.world with waiting := os.world.waiting ++ [6], ended := true } }

theorem closing_moves {os : Os Pipe} (going : os.world.ended = false) :
    (flow os.world).Moves [] [] (flow (closing os).world) where
  taken := (List.append_nil _).symm
  given := (List.append_nil _).symm
  grows := by
    simp only [closing, flow, ← List.append_assoc]
    exact List.prefix_append _ _
  stays ended := by
    have said : os.world.ended = true := ended
    rw [going] at said
    cases said
  cut := id

end Pipe

/-- A greeting, a look at the answer, and a reply that breaks off. -/
def brokenOff : List Exchange :=
  [.sendAll [1, 2, 3] (.ok ()), .peek 4 (.ok [7, 8]), .receive 1 (.ok [7]), .send [4, 5, 5] (.ok 2),
    .receiveExact 5 (.error (.ofCode .connectionClosed)) [8, 9, 6]]

theorem brokenOff_happens :
    Conversation Pipe.sys .posix ⟨3⟩ Pipe.flow Pipe.answered brokenOff
      ⟨⟨[1, 2, 3, 4, 5], [7, 8, 9, 6], [], true⟩, 0, []⟩ := by
  have sent : Conversation Pipe.sys .posix ⟨3⟩ Pipe.flow Pipe.answered _
      ⟨⟨[1, 2, 3], [], [7, 8, 9], false⟩, 0, []⟩ :=
    Conversation.start.call (x := .sendAll [1, 2, 3] (.ok ())) ⟨3, rfl⟩
  have looked := sent.call (x := .peek 4 (.ok [7, 8])) rfl
  have replied : Conversation Pipe.sys .posix ⟨3⟩ Pipe.flow Pipe.answered _
      ⟨⟨[1, 2, 3, 4, 5], [7], [8, 9], false⟩, 0, []⟩ :=
    (looked.call (x := .receive 1 (.ok [7])) rfl).call (x := .send [4, 5, 5] (.ok 2)) rfl
  have closed := replied.meanwhile (Pipe.closing_moves rfl)
  exact closed.call (x := .receiveExact 5 (.error (.ofCode .connectionClosed)) [8, 9, 6]) ⟨3, rfl⟩

theorem brokenOff_accounted :
    Accounted .posix ⟨[], [], [7, 8, 9], false, false⟩ brokenOff
      ⟨[1, 2, 3, 4, 5], [7, 8, 9, 6], [7, 8, 9, 6], true, false⟩ :=
  conversation_accounted (Pipe.transports 3) (by exact List.nil_prefix) brokenOff_happens

end Qsox
