import Qsox.Watched

/-! A process at work: its objects are created, moved and destroyed, and operations are
called on them. Every system call is made on a descriptor that the process owns at
that moment. -/

namespace Qsox

open Ledger (Accounts standing)

/-- What a program does with its objects: it makes, moves or destroys one, or calls an
operation on one. -/
inductive Activity
  | own (op : Op)
  | call (id : ℕ) (op : Operation)

namespace Activity

/-- On Windows `pollOne` hands the descriptor over as an `int`. -/
def FitsHandle (p : Platform) : Activity → Prop
  | call _ (.pollOne fd _ _) => p = .windows → Poll.Windows.intHandle fd = fd
  | _ => True

def Foreign : Activity → Prop
  | own (.dispose _) => True
  | _ => False

def Releases : Activity → Prop
  | own (.releaseHandle _) => True
  | _ => False

end Activity

namespace Process

section
variable {σ : Type} (sys : Sys σ) (p : Platform) (linux : Bool) (rounds : ℕ)

def work (m : Process σ) : Activity → Option (Option (Except Error Unit) × Process σ)
  | .own op => (m.exec sys p op).map fun done => (some done.1, done.2)
  | .call id op =>
    match m.objects id with
    | none => none
    | some o =>
      if op.subject = some o.fd then
        let done := op.run sys.logged p linux rounds m.os
        some (done.1, { m with os := done.2 })
      else none

def workAll (m : Process σ) (activities : List Activity) : Option (Process σ) :=
  activities.foldlM (fun m a => (m.work sys p linux rounds a).map Prod.snd) m

end

section
variable {σ : Type} {sys : Sys σ} {p : Platform} {linux : Bool} {rounds : ℕ}
  {r : Option (Except Error Unit)}

theorem work_own {m m' : Process σ} {op : Op}
    (h : m.work sys p linux rounds (.own op) = some (r, m')) :
    ∃ res, m.exec sys p op = some (res, m') ∧ r = some res := by
  obtain ⟨⟨res, m₁⟩, done, made⟩ := Option.map_eq_some_iff.mp h
  obtain ⟨rfl, rfl⟩ := Prod.mk.inj made
  exact ⟨res, done, rfl⟩

theorem work_call {m m' : Process σ} {id : ℕ} {op : Operation}
    (h : m.work sys p linux rounds (.call id op) = some (r, m')) :
    ∃ o, m.objects id = some o ∧ op.subject = some o.fd ∧ m'.objects = m.objects ∧
      op.run sys.logged p linux rounds m.os = (r, m'.os) := by
  simp only [work] at h
  split at h
  · cases h
  · rename_i o there
    split_ifs at h with subject
    obtain ⟨rfl, rfl⟩ := Prod.mk.inj (Option.some.inj h)
    exact ⟨o, there, subject, rfl, rfl⟩

theorem call_events {fd : SockFd} {op : Operation} (subject : op.subject = some fd)
    (os : Os (Logged σ)) : events (op.run sys.logged p linux rounds os).2 = events os :=
  events_of_quiet (Operation.run_adds (sys.logged_calls fd) (fun _ _ => sys.logged_ioctl fd _)
    (fun _ _ _ _ => sys.logged_calls _) linux rounds subject) os

theorem work_change {m m' : Process σ} {a : Activity}
    (h : m.work sys p linux rounds a = some (r, m'))
    (valid : .opened invalidSockFd ∉ events m'.os) :
    Ledger.Change (events m.os) m.holder (events m'.os) m'.holder := by
  cases a with
  | own op =>
    obtain ⟨res, done, -⟩ := work_own h
    exact exec_change done valid
  | call id op =>
    obtain ⟨o, -, subject, objects, done⟩ := work_call h
    have same : events m'.os = events m.os := by
      rw [← call_events subject m.os, done]
    have holder : m'.holder = m.holder := by
      funext j
      rw [Process.holder, objects, Process.holder]
    rw [same, holder]
    exact .none _ _

theorem workAll_accounts {world : σ} {errno : ℤ} {activities : List Activity} {m : Process σ}
    (ran : (start world errno).workAll sys p linux rounds activities = some m)
    (kernel : HandsOut (events m.os)) : Accounts (events m.os) m.holder := by
  refine Control.foldlM_invariant (P := fun _ m =>
    HandsOut (events m.os) → Accounts (events m.os) m.holder) ?_ ?_ ran kernel
  · intro _
    exact Accounts.start
  · intro past m a m' before step kernel
    obtain ⟨⟨r, m₁⟩, done, rfl⟩ := Option.map_eq_some_iff.mp step
    have change := work_change done kernel.valid
    exact change.accounts kernel.fresh (before (kernel.of_prefix change.grows))

def HeldOwned (log : List (Ledger.Event SockFd)) (objects : ℕ → Option Object) : Prop :=
  ∀ id o, objects id = some o → o.fd = invalidSockFd ∨ standing log o.fd = .owned

theorem heldOwned_of_accounts {m : Process σ} (right : Accounts (events m.os) m.holder) :
    HeldOwned (events m.os) m.objects := by
  intro id o there
  by_cases invalid : o.fd = invalidSockFd
  · exact .inl invalid
  · exact .inr (right.owned (by rw [holder_some there, Object.holds_of_valid invalid]))

end
end Process

section
variable {σ : Type} {sys : Sys σ} {p : Platform} {past : List Use}
  {log : List (Ledger.Event SockFd)}

/-- What was done since is in order, and is what the ledger has got. -/
def OrderlyBy (past : List Use) (log : List (Ledger.Event SockFd))
    (os : Os (Logged (Watched σ))) : Prop :=
  ∃ more, At (past ++ more) (log ++ more.filterMap Use.event) os ∧ AllOnOwned log more

theorem At.orderlyBy {os : Os (Logged (Watched σ))} (h : At past log os) : OrderlyBy past log os :=
  ⟨[], by rwa [List.append_nil, List.filterMap_nil, List.append_nil], AllOnOwned.nil log⟩

inductive CreationUses (objects : ℕ → Option Object) : List Use → Prop
  | session {more : List Use} (h : Session more) : CreationUses objects more
  | refused {id : ℕ} {sock : TcpListener} (there : objects id = some (.listener sock)) :
      CreationUses objects [.on sock.fd]
  | accepted {id : ℕ} {sock : TcpListener} (there : objects id = some (.listener sock))
      (fd : SockFd) : CreationUses objects [.on sock.fd, .accepted fd]

theorem CreationUses.allOnOwned {objects : ℕ → Option Object} {more : List Use}
    (h : CreationUses objects more) (held : Process.HeldOwned log objects) :
    AllOnOwned log more := by
  cases h with
  | session h => exact h.allOnOwned log
  | refused there => exact AllOnOwned.singleton.mpr (held _ _ there)
  | accepted there fd =>
    have asked : AllOnOwned log [.on _] := AllOnOwned.singleton.mpr (held _ _ there)
    have handed (log : List (Ledger.Event SockFd)) : AllOnOwned log [.accepted fd] :=
      AllOnOwned.singleton.mpr trivial
    exact AllOnOwned.append.mpr ⟨asked, handed _⟩

def CreatedBy (objects : ℕ → Option Object) (past : List Use) (log : List (Ledger.Event SockFd))
    (os : Os (Logged (Watched σ))) : Prop :=
  ∃ more, At (past ++ more) (log ++ more.filterMap Use.event) os ∧ CreationUses objects more

theorem HadSession.createdBy {os : Os (Logged (Watched σ))} (h : HadSession past log os)
    (objects : ℕ → Option Object) : CreatedBy objects past log os := by
  obtain ⟨more, there, session⟩ := h
  exact ⟨more, there, .session session⟩

theorem Attempted.hadSession {α : Type} {fdOf : α → SockFd} {r : Option (Except Error α)}
    {os : Os (Logged (Watched σ))} (h : Attempted fdOf past log r os) : HadSession past log os := by
  cases r with
  | none => exact h
  | some res => exact Sessions.hadSession h

theorem Creation.make_createdBy (objects : ℕ → Option Object) (creation : Creation) :
    Ensures (At past log) (creation.make sys.watched p objects) fun r os =>
      r ≠ none → CreatedBy objects past log os := by
  cases creation with
  | udpBind address =>
    exact Ensures.bind _ (udpBind_sessions address) fun res =>
      Ensures.pure fun os h _ => h.hadSession.createdBy objects
  | udpBindAny ipv6 =>
    exact Ensures.bind _ (udpBind_sessions _) fun res =>
      Ensures.pure fun os h _ => h.hadSession.createdBy objects
  | listenerBind address =>
    exact Ensures.bind _ (listenerBind_sessions address) fun res =>
      Ensures.pure fun os h _ => h.hadSession.createdBy objects
  | accept id =>
    cases there : objects id with
    | none =>
      simp only [make, there]
      exact Ensures.pure fun os h ended => absurd rfl ended
    | some o =>
      cases o with
      | listener sock =>
        simp only [make, there]
        refine Ensures.bind _ (accept_uses sock) fun res => Ensures.pure fun os h ended => ?_
        rcases res with _ | err | made
        · exact absurd rfl ended
        · have asked : At (past ++ [.on sock.fd]) log os := h _ rfl
          rw [← List.append_nil log] at asked
          exact ⟨[.on sock.fd], asked, .refused there⟩
        · exact ⟨_, h _ rfl, .accepted there made.1.fd⟩
      | _ =>
        simp only [make, there]
        exact Ensures.pure fun os h ended => absurd rfl ended
  | connect address timeoutMs rounds =>
    exact Ensures.bind _ (connect_sessions address timeoutMs rounds) fun res =>
      Ensures.pure fun os h _ => h.hadSession.createdBy objects
  | connectNonBlocking address rounds =>
    exact Ensures.bind _ (connectNonBlocking_sessions address rounds) fun res =>
      Ensures.pure fun os h _ => h.hadSession.createdBy objects

theorem destroy_orderlyBy {fd : SockFd}
    (owned : fd = invalidSockFd ∨ standing log fd = .owned) :
    Ensures (At past log) (BaseSocket.destroy sys.watched.logged fd)
      fun _ => OrderlyBy past log := by
  refine Ensures.ite (fun valid os before => ?_) fun invalid => Ensures.pure fun os before => ?_
  · exact ⟨_, closeSocket_at os before, AllOnOwned.singleton.mpr (owned.resolve_left valid)⟩
  · exact before.orderlyBy

end

namespace Process

section
variable {σ : Type} {sys : Sys σ} {p : Platform} {linux : Bool} {rounds : ℕ}
  {m m' : Process (Watched σ)} {r : Option (Except Error Unit)}

theorem create_createdBy {id : ℕ} {creation : Creation} {res : Except Error Unit}
    (h : m.create sys.watched p id creation = some (res, m')) :
    CreatedBy m.objects (uses m.os) (events m.os) m'.os := by
  have made : (creation.make sys.watched p m.objects m.os).1 ≠ none →
      CreatedBy m.objects (uses m.os) (events m.os)
        (creation.make sys.watched p m.objects m.os).2 :=
    creation.make_createdBy m.objects m.os ⟨rfl, rfl⟩
  unfold create at h
  split at h
  · cases h
  generalize creation.make sys.watched p m.objects m.os = returned at made h
  obtain ⟨_ | _ | made', os⟩ := returned
  · cases h
  · cases h
    exact made nofun
  · cases h
    exact made nofun

theorem moveAssign_orderlyBy {id source : ℕ} (h : m.moveAssign sys.watched id source = some m')
    (held : HeldOwned (events m.os) m.objects) : OrderlyBy (uses m.os) (events m.os) m'.os := by
  unfold moveAssign at h
  split at h
  · rename_i o other there source_there
    split_ifs at h with same alike
    · cases h
      exact At.orderlyBy ⟨rfl, rfl⟩
    · cases h
      rw [BaseSocket.moveAssign_eq]
      exact destroy_orderlyBy (held id o there) m.os ⟨rfl, rfl⟩
  · cases h

theorem destroy_activity_orderlyBy {id : ℕ} (h : m.destroy sys.watched id = some m')
    (held : HeldOwned (events m.os) m.objects) : OrderlyBy (uses m.os) (events m.os) m'.os := by
  unfold destroy at h
  split at h
  · rename_i o there
    cases h
    exact destroy_orderlyBy (held id o there) m.os ⟨rfl, rfl⟩
  · cases h

theorem moveConstruct_os {id source : ℕ} (h : m.moveConstruct id source = some m') :
    m'.os = m.os := by
  unfold moveConstruct at h
  split at h
  · cases h
    rfl
  · cases h

theorem call_orderlyBy {a : Activity} {id : ℕ} {op : Operation} (is : a = .call id op)
    (h : m.work sys.watched p linux rounds a = some (r, m')) (fits : a.FitsHandle p)
    (held : HeldOwned (events m.os) m.objects) : OrderlyBy (uses m.os) (events m.os) m'.os := by
  subst is
  obtain ⟨o, there, subject, -, ran⟩ := work_call h
  have stays : StaysOn o.fd (op.run sys.watched.logged p linux rounds) := by
    refine Operation.run_staysOn subject ?_ linux rounds
    rintro poll timeoutMs rfl windows
    exact fits windows
  obtain ⟨more, added, mine⟩ := stays.calls m.os
  have quiet : events (op.run sys.watched.logged p linux rounds m.os).2 = events m.os :=
    events_of_quiet stays.quiet m.os
  rw [ran] at added quiet
  refine ⟨more, ⟨added, ?_⟩, AllOnOwned.of_calls (held id o there) mine⟩
  rw [quiet, AllOnOwned.events_of_calls mine, List.append_nil]

theorem releaseHandle_uses {id : ℕ} (h : m.releaseHandle id = some m') :
    uses m'.os = uses m.os := by
  unfold releaseHandle at h
  split at h
  · cases h
    split_ifs
    · rfl
    · rfl
  · cases h

theorem work_orderlyBy {a : Activity} (h : m.work sys.watched p linux rounds a = some (r, m'))
    (fits : a.FitsHandle p) (library : ¬ a.Foreign) (keeps : ¬ a.Releases)
    (held : HeldOwned (events m.os) m.objects) : OrderlyBy (uses m.os) (events m.os) m'.os := by
  cases a with
  | own op =>
    obtain ⟨res, made, -⟩ := work_own h
    cases op with
    | create id creation =>
      obtain ⟨more, there, creation⟩ := create_createdBy made
      exact ⟨more, there, creation.allOnOwned held⟩
    | moveConstruct id source =>
      obtain ⟨m₂, moved, rfl⟩ := done made
      rw [moveConstruct_os moved]
      exact At.orderlyBy ⟨rfl, rfl⟩
    | moveAssign id source =>
      obtain ⟨m₂, moved, rfl⟩ := done made
      exact moveAssign_orderlyBy moved held
    | releaseHandle id => exact absurd trivial keeps
    | destroy id =>
      obtain ⟨m₂, destroyed, rfl⟩ := done made
      exact destroy_activity_orderlyBy destroyed held
    | dispose fd => exact absurd trivial library
  | call id op => exact call_orderlyBy rfl h fits held

theorem releases_uses {a : Activity} (releases : a.Releases)
    (h : m.work sys.watched p linux rounds a = some (r, m')) : uses m'.os = uses m.os := by
  cases a with
  | own op =>
    obtain ⟨res, made, -⟩ := work_own h
    cases op with
    | releaseHandle id =>
      obtain ⟨m₂, released, rfl⟩ := done made
      exact releaseHandle_uses released
    | _ => exact releases.elim
  | call id op => exact releases.elim

/-- In every run, whatever the library does next: each system call is made on a descriptor
that the process owns at that moment, and unless one is released, what the calls open
and close is what the ledger has got. -/
theorem calls_on_owned (sys : Sys σ) (p : Platform) (linux : Bool) (rounds : ℕ)
    (world : Watched σ) (errno : ℤ) (activities : List Activity) (m : Process (Watched σ))
    (ran : (start world errno).workAll sys.watched p linux rounds activities = some m)
    (kernel : HandsOut (events m.os)) (a : Activity) (r : Option (Except Error Unit))
    (m' : Process (Watched σ)) (next : m.work sys.watched p linux rounds a = some (r, m'))
    (fits : a.FitsHandle p) (library : ¬ a.Foreign) :
    ∃ more, uses m'.os = uses m.os ++ more ∧ AllOnOwned (events m.os) more ∧
      (¬ a.Releases → events m'.os = events m.os ++ more.filterMap Use.event) := by
  by_cases releases : a.Releases
  · refine ⟨[], ?_, AllOnOwned.nil _, fun keeps => absurd releases keeps⟩
    rw [releases_uses releases next, List.append_nil]
  · have held := heldOwned_of_accounts (workAll_accounts ran kernel)
    obtain ⟨more, ⟨added, entered⟩, owned⟩ := work_orderlyBy next fits library releases held
    exact ⟨more, added, owned, fun _ => entered⟩

end

/-- A socket is closed, and a listener gets its descriptor; then a stream is accepted. -/
def served : List Activity :=
  [.own (.create 0 (.udpBindAny false)), .own (.destroy 0),
    .own (.create 1 (.listenerBind ⟨.v4 .unspecified, 0⟩)), .own (.create 2 (.accept 1))]

theorem served_calls_on_owned :
    ∃ m m', (start ⟨3, []⟩ 0).workAll counting.watched .posix true 2 served = some m ∧
      uses m.os = [.opened 3, .on 3, .closed 3, .opened 3, .on 3, .on 3, .on 3, .accepted 4] ∧
      m.work counting.watched .posix true 2 (.call 2 (.sendAll ⟨4⟩ [65])) =
        some (some (.error (.fromOs 1)), m') ∧
      ∃ more, uses m'.os = uses m.os ++ more ∧ AllOnOwned (events m.os) more ∧
        (¬ (Activity.call 2 (.sendAll ⟨4⟩ [65])).Releases →
          events m'.os = events m.os ++ more.filterMap Use.event) := by
  obtain ⟨m, m', ran, log, noted, next⟩ :
      ∃ m m', (start ⟨3, []⟩ 0).workAll counting.watched .posix true 2 served = some m ∧
        events m.os = [.opened 3, .closed 3, .opened 3, .opened 4] ∧
        uses m.os = [.opened 3, .on 3, .closed 3, .opened 3, .on 3, .on 3, .on 3, .accepted 4] ∧
        m.work counting.watched .posix true 2 (.call 2 (.sendAll ⟨4⟩ [65])) =
          some (some (.error (.fromOs 1)), m') := ⟨_, _, rfl, rfl, rfl, rfl⟩
  have kernel : HandsOut (events m.os) :=
    log ▸ reuse_handsOut.of_prefix (List.prefix_append [_, _, _, _] [Ledger.Event.released 4])
  exact ⟨m, m', ran, noted, next,
    calls_on_owned counting .posix true 2 ⟨3, []⟩ 0 served m ran kernel _ _ m' next trivial id⟩

end Process
end Qsox
