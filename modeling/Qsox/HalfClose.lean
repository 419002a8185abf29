import Mathlib.Data.List.Infix
import Qsox.TcpStream

/-! A connected stream at its system: which directions are shut, what has arrived
and what is lost because nobody may receive it any more. On Windows two of the
three modes of `shutdown` shut the wrong direction. -/

namespace Qsox.HalfClose

/-- How the system answers the next call: with an error, or by doing it, with a
number of bytes where there is one. -/
structure Answer where
  refusal : Option ℤ
  amount : ℕ
  deriving DecidableEq, Repr

structure Endpoint where
  sendShut : Bool
  receiveShut : Bool
  incoming : List UInt8
  lost : List UInt8
  answer : Answer
  deriving DecidableEq, Repr

def shutsSending (p : Platform) (how : ℤ) : Bool :=
  match p with
  | .posix => how = Posix.shutWr ∨ how = Posix.shutRdwr
  | .windows => how = Winsock.sdSend ∨ how = Winsock.sdBoth

def shutsReceiving (p : Platform) (how : ℤ) : Bool :=
  match p with
  | .posix => how = Posix.shutRd ∨ how = Posix.shutRdwr
  | .windows => how = Winsock.sdReceive ∨ how = Winsock.sdBoth

namespace Posix

def epipe : ℤ := 32

end Posix

def shutCode (p : Platform) : ℤ :=
  match p with
  | .posix => Posix.epipe
  | .windows => Winsock.wsaeshutdown

namespace Endpoint

def unlessRefused {α : Type} (e : Endpoint) (done : Except ℤ α × Endpoint) : Except ℤ α × Endpoint :=
  match e.answer.refusal with
  | some code => (.error code, e)
  | none => done

theorem unlessRefused_keeps {α γ : Type} {e : Endpoint} {done : Except ℤ α × Endpoint}
    (view : Endpoint → γ) (same : view done.2 = view e) :
    view (e.unlessRefused done).2 = view e := by
  unfold unlessRefused
  cases e.answer.refusal with
  | some code => rfl
  | none => exact same

def shut (e : Endpoint) (p : Platform) (how : ℤ) : Endpoint :=
  { e with
    sendShut := e.sendShut || shutsSending p how
    receiveShut := e.receiveShut || shutsReceiving p how }

/-- On POSIX systems the stream ends behind what had arrived before. -/
def sys (p : Platform) : Sys Endpoint :=
  { Sys.refusing (shutCode p) with
    shutdown := fun _ how e => e.unlessRefused (.ok (), e.shut p how)
    send := fun _ data e =>
      e.unlessRefused (if e.sendShut then (.error (shutCode p), e)
        else (.ok ⟨min e.answer.amount data.length, by omega⟩, e))
    recv := fun _ size peek e =>
      e.unlessRefused (if e.receiveShut ∧ p = .windows then (.error (shutCode p), e)
        else (.ok ⟨e.incoming.take (min (e.answer.amount + 1) size), by
            rw [List.length_take]
            omega⟩,
          if peek then e
          else { e with incoming := e.incoming.drop (min (e.answer.amount + 1) size) })) }

end Endpoint

inductive Action
  | shutdown (mode : ShutdownMode) (answer : Answer)
  | send (data : List UInt8) (answer : Answer)
  | receive (size : ℕ) (answer : Answer)
  | peek (size : ℕ) (answer : Answer)
  | arrive (bytes : List UInt8) (kept : Bool)

def Action.granted : Action → List ShutdownMode
  | .shutdown mode answer => if answer.refusal.isNone then [mode] else []
  | _ => []

theorem granted_cases (action : Action) :
    action.granted = [] ∨ ∃ mode, action.granted = [mode] := by
  cases action with
  | shutdown mode answer =>
    obtain ⟨_ | code, amount⟩ := answer
    · exact .inr ⟨mode, rfl⟩
    · exact .inl rfl
  | _ => exact .inl rfl

def sendMode : Platform → ShutdownMode
  | .posix => .write
  | .windows => .read

def receiveMode : Platform → ShutdownMode
  | .posix => .read
  | .windows => .write

theorem shutsSending_iff (p : Platform) (mode : ShutdownMode) :
    shutsSending p (TcpStream.how p mode) = true ↔ mode = sendMode p ∨ mode = .both := by
  cases p <;> cases mode <;> decide

theorem shutsReceiving_iff (p : Platform) (mode : ShutdownMode) :
    shutsReceiving p (TcpStream.how p mode) = true ↔ mode = receiveMode p ∨ mode = .both := by
  cases p <;> cases mode <;> decide

/-- Apart from the system: the shutdowns that succeeded, all that the peer sent
and all that was received. -/
structure Connection where
  os : Os Endpoint
  shutdowns : List ShutdownMode
  arrived : List UInt8
  received : List UInt8

namespace Connection

def start : Connection := ⟨⟨⟨false, false, [], [], ⟨none, 0⟩⟩, 0, []⟩, [], [], []⟩

def answering (c : Connection) (answer : Answer) : Os Endpoint :=
  { c.os with world := { c.os.world with answer := answer } }

/-- Whether bytes that arrive when receiving is shut are kept is up to the system. -/
def arrive (c : Connection) (bytes : List UInt8) (kept : Bool) : Connection :=
  let e := c.os.world
  { c with
    arrived := c.arrived ++ bytes
    os := { c.os with world :=
      if e.receiveShut ∧ ¬ kept then { e with lost := e.lost ++ bytes }
      else { e with incoming := e.incoming ++ bytes } } }

def step (p : Platform) (stream : TcpStream) (c : Connection) : Action → Connection
  | .shutdown mode answer =>
    let res := TcpStream.shutdown (Endpoint.sys p) p stream mode (c.answering answer)
    { c with os := res.2, shutdowns := c.shutdowns ++ if res.1.isOk then [mode] else [] }
  | .send data answer =>
    { c with os := (TcpStream.send (Endpoint.sys p) p stream data (c.answering answer)).2 }
  | .receive size answer =>
    let res := TcpStream.receive (Endpoint.sys p) p stream size (c.answering answer)
    { c with os := res.2, received := c.received ++ res.1.toOption.getD [] }
  | .peek size answer =>
    { c with os := (TcpStream.peek (Endpoint.sys p) p stream size (c.answering answer)).2 }
  | .arrive bytes kept => c.arrive bytes kept

def run (p : Platform) (stream : TcpStream) (actions : List Action) : Connection :=
  actions.foldl (step p stream) start

/-- Whatever the peer sends now can be received, behind what is there already and as
much at a time as the call can ask for. -/
def Open (p : Platform) (stream : TcpStream) (c : Connection) : Prop :=
  c.received ++ c.os.world.incoming = c.arrived ∧
    ∀ bytes kept size, bytes ≠ [] → p.len size ≠ 0 →
      (TcpStream.receive (Endpoint.sys p) p stream size
        ((c.arrive bytes kept).answering ⟨none, size⟩)).1 =
          .ok ((c.os.world.incoming ++ bytes).take (p.len size))

structure Shut (p : Platform) (stream : TcpStream) (c : Connection) : Prop where
  sending : c.os.world.sendShut = true ↔ .write ∈ c.shutdowns ∨ .both ∈ c.shutdowns
  receiving : c.os.world.receiveShut = true ↔ .read ∈ c.shutdowns ∨ .both ∈ c.shutdowns
  readable : (∀ mode ∈ c.shutdowns, mode = .write) → c.Open p stream

variable {p : Platform} {stream : TcpStream} {c : Connection}

@[simp] theorem step_shutdowns (action : Action) :
    (c.step p stream action).shutdowns = c.shutdowns ++ action.granted := by
  cases action with
  | shutdown mode answer =>
    obtain ⟨_ | code, amount⟩ := answer
    · rfl
    · rfl
  | _ => exact (List.append_nil _).symm

end Connection

section
variable {p : Platform} (stream : TcpStream)

def Endpoint.flags (e : Endpoint) : Bool × Bool := (e.sendShut, e.receiveShut)

theorem send_keeps (data : List UInt8) :
    Keeps (fun os : Os Endpoint => os.world) (TcpStream.send (Endpoint.sys p) p stream data) := by
  refine TcpStream.send_keeps id fun e => Endpoint.unlessRefused_keeps id ?_
  split_ifs <;> rfl

theorem peek_keeps (size : ℕ) :
    Keeps (fun os : Os Endpoint => os.world) (TcpStream.peek (Endpoint.sys p) p stream size) := by
  refine TcpStream.receiveWith_keeps id fun e => Endpoint.unlessRefused_keeps id ?_
  rw [if_pos rfl]
  split_ifs <;> rfl

theorem receive_keeps (size : ℕ) :
    Keeps (fun os : Os Endpoint => os.world.flags)
      (TcpStream.receive (Endpoint.sys p) p stream size) := by
  refine TcpStream.receiveWith_keeps Endpoint.flags fun e => ?_
  refine Endpoint.unlessRefused_keeps Endpoint.flags ?_
  split_ifs <;> rfl

theorem recv_takes (fd : SockFd) (size : ℕ) (e : Endpoint) :
    e.incoming = (((Endpoint.sys p).recv fd size false e).1.toOption.map Subtype.val).getD [] ++
      ((Endpoint.sys p).recv fd size false e).2.incoming := by
  simp only [Endpoint.sys, Endpoint.unlessRefused]
  split
  · rfl
  · simp only [Bool.false_eq_true, if_false]
    split_ifs
    · rfl
    · exact (List.take_append_drop _ _).symm

theorem receive_takes (size : ℕ) (all : List UInt8) :
    Ensures (fun os => os.world.incoming = all) (TcpStream.receive (Endpoint.sys p) p stream size)
      fun res os => all = res.toOption.getD [] ++ os.world.incoming := by
  refine Ensures.bind (fun res os => all = (res.toOption.map Subtype.val).getD [] ++
    os.world.incoming) ?_ fun res => ?_
  · refine Ensures.bind (fun returned os => all = (returned.map Subtype.val).getD [] ++
      os.world.incoming) (Os.call_ensures ?_ ?_) fun returned => ?_
    · intro os bytes e there answered
      rw [Sys.called_recv] at answered
      obtain ⟨received, given, rfl⟩ := Sys.answering_ok_iff.mp answered
      have takes := recv_takes (p := p) stream.fd (p.len size) os.world
      rw [there, given] at takes
      exact takes
    · intro os code e there answered
      rw [Sys.called_recv] at answered
      have takes := recv_takes (p := p) stream.fd (p.len size) os.world
      rw [there, Sys.answering_error_iff.mp answered] at takes
      exact takes
    · cases returned with
      | none => exact fun os h => h
      | some bytes => exact Ensures.pure fun os h => h
  · cases res with
    | error err => exact Ensures.pure fun os h => h
    | ok bytes =>
      refine Ensures.ite (fun empty => Ensures.pure fun os h => ?_) fun _ => Ensures.pure fun os h => h
      have none : bytes.val = [] := List.length_eq_zero_iff.mp empty
      exact h.trans (congrArg (· ++ os.world.incoming) none)

end

namespace Connection

variable {p : Platform} {stream : TcpStream} {c : Connection}

theorem step_flags (action : Action) :
    (c.step p stream action).os.world.flags =
      (c.os.world.sendShut || action.granted.any fun mode => shutsSending p (TcpStream.how p mode),
        c.os.world.receiveShut ||
          action.granted.any fun mode => shutsReceiving p (TcpStream.how p mode)) := by
  have kept : ∀ {os : Os Endpoint}, os.world.flags = c.os.world.flags → action.granted = [] →
      os.world.flags = (c.os.world.sendShut ||
        action.granted.any fun mode => shutsSending p (TcpStream.how p mode),
        c.os.world.receiveShut ||
          action.granted.any fun mode => shutsReceiving p (TcpStream.how p mode)) := by
    intro os same none
    rw [same, none, List.any_nil, List.any_nil, Bool.or_false, Bool.or_false, Endpoint.flags]
  cases action with
  | shutdown mode answer =>
    obtain ⟨_ | code, amount⟩ := answer
    · simp only [Action.granted, Option.isNone_none, if_true, List.any_cons, List.any_nil,
        Bool.or_false]
      rfl
    · exact kept rfl rfl
  | send data answer =>
    have same := congrArg Endpoint.flags (send_keeps (p := p) stream data (c.answering answer))
    exact kept same rfl
  | receive size answer => exact kept (receive_keeps stream size _) rfl
  | peek size answer =>
    have same := congrArg Endpoint.flags (peek_keeps (p := p) stream size (c.answering answer))
    exact kept same rfl
  | arrive bytes later =>
    refine kept ?_ rfl
    simp only [step, arrive]
    split_ifs <;> rfl

def Intact (c : Connection) : Prop :=
  c.os.world.receiveShut = false → c.received ++ c.os.world.incoming = c.arrived

theorem Intact.step (h : c.Intact) (action : Action) : (c.step p stream action).Intact := by
  intro readable
  have all : (c.step p stream action).os.world.flags = _ := step_flags action
  have flags := congrArg Prod.snd all
  rw [Endpoint.flags, readable] at flags
  have before : c.os.world.receiveShut = false := (Bool.or_eq_false_iff.mp flags.symm).1
  have whole := h before
  cases action with
  | shutdown mode answer =>
    obtain ⟨_ | code, amount⟩ := answer
    · exact whole
    · exact whole
  | send data answer =>
    have same := congrArg Endpoint.incoming (send_keeps (p := p) stream data (c.answering answer))
    simp only [Connection.step]
    rw [same]
    exact whole
  | receive size answer =>
    have takes := receive_takes (p := p) stream size c.os.world.incoming (c.answering answer) rfl
    simp only [Connection.step, List.append_assoc]
    rw [← takes]
    exact whole
  | peek size answer =>
    have same := congrArg Endpoint.incoming (peek_keeps (p := p) stream size (c.answering answer))
    simp only [Connection.step]
    rw [same]
    exact whole
  | arrive bytes kept =>
    simp only [Connection.step, arrive, before, Bool.false_eq_true, false_and, if_false]
    rw [← List.append_assoc, whole]

theorem run_append (actions : List Action) (action : Action) :
    run p stream (actions ++ [action]) = (run p stream actions).step p stream action := by
  rw [run, List.foldl_append]
  rfl

theorem run_shutdowns (actions : List Action) :
    (run p stream actions).shutdowns = actions.flatMap Action.granted := by
  induction actions using List.reverseRecOn with
  | nil => rfl
  | append_singleton past action ih =>
    rw [run_append, step_shutdowns, ih, List.flatMap_append, List.flatMap_singleton]

theorem run_flags (actions : List Action) :
    (run p stream actions).os.world.flags =
      ((run p stream actions).shutdowns.any fun mode => shutsSending p (TcpStream.how p mode),
        (run p stream actions).shutdowns.any fun mode =>
          shutsReceiving p (TcpStream.how p mode)) := by
  induction actions using List.reverseRecOn with
  | nil => rfl
  | append_singleton past action ih =>
    obtain ⟨sending, receiving⟩ := Prod.mk.inj ih
    rw [run_append, step_flags, step_shutdowns, List.any_append, List.any_append, sending,
      receiving]

theorem run_intact (actions : List Action) : (run p stream actions).Intact := by
  induction actions using List.reverseRecOn with
  | nil => exact fun _ => rfl
  | append_singleton past action ih =>
    rw [run_append]
    exact ih.step action

theorem receive_front {size : ℕ} {os : Os Endpoint} (readable : os.world.receiveShut = false)
    (there : os.world.incoming ≠ []) (granted : os.world.answer = ⟨none, size⟩)
    (asked : p.len size ≠ 0) :
    (TcpStream.receive (Endpoint.sys p) p stream size os).1 =
      .ok (os.world.incoming.take (p.len size)) := by
  have most : min (size + 1) (p.len size) = p.len size := by
    have := p.len_le size
    omega
  have answered : ((Endpoint.sys p).recv stream.fd (p.len size) false os.world).1 =
      .ok ⟨os.world.incoming.take (p.len size), List.length_take_le _ _⟩ := by
    simp [Endpoint.sys, Endpoint.unlessRefused, granted, readable, most]
  have called : (((Endpoint.sys p).called p).recv stream.fd size false os.world).1 =
      .ok ⟨os.world.incoming.take (p.len size),
        (List.length_take_le _ _).trans (p.len_le size)⟩ := by
    rw [Sys.called_recv, Sys.answering, answered]
    rfl
  rw [TcpStream.receive, TcpStream.receiveWith, bind_of_eq (mapResult_ok (Prod.ext called rfl))]
  have some_come : (os.world.incoming.take (p.len size)).length ≠ 0 := by
    rw [List.length_take]
    have := List.length_pos_iff.mpr there
    omega
  simp only [if_neg some_come]
  rfl

theorem Intact.open (h : c.Intact) (readable : c.os.world.receiveShut = false) :
    c.Open p stream := by
  refine ⟨h readable, fun bytes kept size some asked => ?_⟩
  have arrived : (c.arrive bytes kept).os.world =
      { c.os.world with incoming := c.os.world.incoming ++ bytes } := by
    simp only [arrive, readable, Bool.false_eq_true, false_and, if_false]
  let os := (c.arrive bytes kept).answering ⟨none, size⟩
  have there : os.world.incoming = c.os.world.incoming ++ bytes := congrArg Endpoint.incoming arrived
  have nonempty : os.world.incoming ≠ [] := by
    rw [there]
    exact List.append_ne_nil_of_right_ne_nil _ some
  have still : os.world.receiveShut = false := (congrArg Endpoint.receiveShut arrived).trans readable
  rw [← there]
  exact receive_front still nonempty rfl asked

theorem run_sendShut (actions : List Action) :
    (run p stream actions).os.world.sendShut = true ↔
      sendMode p ∈ (run p stream actions).shutdowns ∨
        .both ∈ (run p stream actions).shutdowns := by
  have flags : (run p stream actions).os.world.sendShut = _ :=
    congrArg Prod.fst (run_flags actions)
  rw [flags, List.any_eq_true]
  simp only [shutsSending_iff, and_or_left, exists_or, exists_eq_right]

theorem run_receiveShut (actions : List Action) :
    (run p stream actions).os.world.receiveShut = true ↔
      receiveMode p ∈ (run p stream actions).shutdowns ∨
        .both ∈ (run p stream actions).shutdowns := by
  have flags : (run p stream actions).os.world.receiveShut = _ :=
    congrArg Prod.snd (run_flags actions)
  rw [flags, List.any_eq_true]
  simp only [shutsReceiving_iff, and_or_left, exists_or, exists_eq_right]

theorem run_open {actions : List Action}
    (one : receiveMode p ∉ (run p stream actions).shutdowns)
    (both : .both ∉ (run p stream actions).shutdowns) : (run p stream actions).Open p stream := by
  refine (run_intact actions).open (Bool.eq_false_iff.mpr fun shut => ?_)
  exact ((run_receiveShut actions).mp shut).elim one both

theorem posix_shut (actions : List Action) :
    (run .posix stream actions).Shut .posix stream where
  sending := run_sendShut actions
  receiving := run_receiveShut actions
  readable only := by
    refine run_open (fun read => ?_) fun both => ?_
    · cases only _ read
    · cases only _ both

/-- The exchange does not show when both directions are shut, or neither. -/
theorem exchanged_iff {done : List ShutdownMode} :
    (.read ∈ done ∨ .both ∈ done ↔ .write ∈ done ∨ .both ∈ done) ↔
      .both ∈ done ∨ (.read ∈ done ↔ .write ∈ done) := by
  by_cases both : .both ∈ done <;> simp [both]

theorem windows_shut_iff (actions : List Action) :
    (run .windows stream actions).Shut .windows stream ↔
      .both ∈ (run .windows stream actions).shutdowns ∨
        (.read ∈ (run .windows stream actions).shutdowns ↔
          .write ∈ (run .windows stream actions).shutdowns) := by
  have sending : (run .windows stream actions).os.world.sendShut = true ↔
      .read ∈ (run .windows stream actions).shutdowns ∨
        .both ∈ (run .windows stream actions).shutdowns := run_sendShut actions
  have receiving : (run .windows stream actions).os.world.receiveShut = true ↔
      .write ∈ (run .windows stream actions).shutdowns ∨
        .both ∈ (run .windows stream actions).shutdowns := run_receiveShut actions
  constructor
  · intro shut
    exact exchanged_iff.mp (sending.symm.trans shut.sending)
  · intro alike
    have agree := exchanged_iff.mpr alike
    refine ⟨sending.trans agree, receiving.trans agree.symm, fun only => ?_⟩
    have unread : .read ∉ (run .windows stream actions).shutdowns := by
      intro read
      cases only _ read
    have unshut : .both ∉ (run .windows stream actions).shutdowns := by
      intro both
      cases only _ both
    have unwritten : .write ∉ (run .windows stream actions).shutdowns :=
      (alike.resolve_left unshut).not.mp unread
    exact run_open unwritten unshut

theorem exists_first {actions : List Action} {mode : ShutdownMode}
    (first : (actions.flatMap Action.granted).head? = some mode) :
    ∃ past, past <+: actions ∧ past.flatMap Action.granted = [mode] := by
  induction actions with
  | nil => cases first
  | cons action actions ih =>
    rw [List.flatMap_cons] at first
    rcases granted_cases action with none | ⟨made, one⟩
    · rw [none, List.nil_append] at first
      obtain ⟨past, earlier, only⟩ := ih first
      refine ⟨action :: past, List.cons_prefix_cons.mpr ⟨rfl, earlier⟩, ?_⟩
      rw [List.flatMap_cons, none, List.nil_append, only]
    · rw [one] at first
      obtain rfl : made = mode := Option.some.inj first
      refine ⟨[action], List.cons_prefix_cons.mpr ⟨rfl, List.nil_prefix⟩, ?_⟩
      rw [List.flatMap_singleton, one]

/-- At every point of a run the right directions are shut, if and only if the build
is the POSIX one or the first shutdown that succeeds shuts both. -/
theorem shut_throughout_iff (p : Platform) (stream : TcpStream) (actions : List Action) :
    (∀ past, past <+: actions → (run p stream past).Shut p stream) ↔
      p = .posix ∨
        ∀ mode, (actions.flatMap Action.granted).head? = some mode → mode = .both := by
  cases p with
  | posix => exact iff_of_true (fun past _ => posix_shut past) (.inl rfl)
  | windows =>
    constructor
    · intro throughout
      refine .inr fun mode first => ?_
      obtain ⟨past, earlier, only⟩ := exists_first first
      have shut := (windows_shut_iff past).mp (throughout past earlier)
      rw [run_shutdowns, only] at shut
      cases mode <;> simp at shut ⊢
    · rintro (posix | first) past earlier
      · cases posix
      obtain ⟨rest, rfl⟩ := earlier
      rw [windows_shut_iff, run_shutdowns]
      rw [List.flatMap_append] at first
      cases done : past.flatMap Action.granted with
      | nil => exact .inr (iff_of_false List.not_mem_nil List.not_mem_nil)
      | cons mode more =>
        rw [done] at first
        obtain rfl := first mode rfl
        exact .inl List.mem_cons_self

/-- What the peer sends behind `shutdown(Write)` does not arrive. -/
theorem write_shut_loses :
    ¬ (run .windows ⟨5⟩ [.shutdown .write ⟨none, 0⟩]).Shut .windows ⟨5⟩ ∧
      (run .windows ⟨5⟩ [.shutdown .write ⟨none, 0⟩, .arrive [7] false]).os.world.lost = [7] := by
  refine ⟨fun shut => ?_, rfl⟩
  have sending := shut.sending.mpr (.inl (List.mem_singleton_self _))
  cases sending

end Connection

end Qsox.HalfClose
