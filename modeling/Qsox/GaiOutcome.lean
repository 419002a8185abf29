import Qsox.Gai

/-! What `gai` reports: the outcome of a lookup that finished before the deadline,
or the deadline. The run is compared with the report by the events in it. -/

namespace Qsox.Gai

open Resolver

/-- The outcome of a lookup that finished in time, and the timeout of one that did
not. -/
def Reported (actions : List Action) (res : Except Resolver.Error (List AddrInfo)) : Prop :=
  (∀ outcome, .finish outcome ∈ actions → .expire ∉ actions → res = result outcome) ∧
  (.expire ∈ actions → res = .error .timedOut)

/-- The request and the deadline as the events have left them, and what `gai` has
returned without having been woken by the request. -/
structure Traced (past : List Action) (s : State) : Prop where
  finished : ∀ outcome, .finish outcome ∈ past ↔ s.request = some (.finished outcome)
  expired : .expire ∈ past ↔ s.expired = true
  unwoken : ∀ res, s.pc = .returned res → s.request ≠ none → .wake 0 ∉ past →
    res = .error .other ∨ s.expired = true
  untimed : s.pc ≠ .returned (.error .timedOut)

theorem Traced.start : Traced [] .start where
  finished := by simp [State.start]
  expired := by simp [State.start]
  unwoken := nofun
  untimed := nofun

theorem makeError_ne_timedOut (code : ℤ) : makeError code ≠ .timedOut := by
  unfold makeError
  cases h : Eai.codes.lookup code with
  | none => nofun
  | some named =>
    obtain ⟨pre, post, table, -⟩ := List.lookup_eq_some_iff.mp h
    have listed : (code, named) ∈ Eai.codes := by simp [table]
    have others : ∀ entry ∈ Eai.codes, entry.2 ≠ .timedOut := by decide
    exact others _ listed

theorem result_ne_timedOut (outcome : Outcome) : result outcome ≠ .error .timedOut := by
  cases outcome with
  | ok list => nofun
  | error code =>
    intro same
    exact makeError_ne_timedOut code (Except.error.inj same)

theorem returned_makeError_ne (code : ℤ) :
    Pc.returned (.error (makeError code)) ≠ .returned (.error .timedOut) := by
  intro same
  exact makeError_ne_timedOut code (Except.error.inj (Pc.returned.inj same))

theorem Traced.keep {past : List Action} {s s' : State} {action : Action} (h : Traced past s)
    (unfinished : ∀ outcome, .finish outcome ≠ action)
    (request : ∀ outcome, s'.request = some (.finished outcome) ↔
      s.request = some (.finished outcome))
    (early : .expire ≠ action) (expired : s'.expired = s.expired)
    (unwoken : ∀ res, s'.pc = .returned res → s'.request ≠ none → .wake 0 ∉ past ++ [action] →
      res = .error .other ∨ s.expired = true)
    (untimed : s'.pc ≠ .returned (.error .timedOut)) : Traced (past ++ [action]) s' where
  finished := by simp [unfinished, request, h.finished]
  expired := by simp [early, expired, h.expired]
  unwoken := by rwa [expired]
  untimed := untimed

theorem Traced.step {timeoutMs : ℤ} {past : List Action} {s s' : State} {action : Action}
    (h : Traced past s) (inv : Inv past s) (move : s.step timeoutMs action = some s') :
    Traced (past ++ [action]) s' := by
  have reached := inv.reached
  cases State.move_of_step move with
  | submit ret pc request =>
    by_cases accepted : ret = 0
    · rw [accepted]
      exact h.keep nofun (by simp [request]) nofun rfl nofun nofun
    · refine h.keep nofun (by simp [request, accepted]) nofun rfl (by simp [accepted]) ?_
      simp only [afterSubmit, if_pos accepted]
      exact returned_makeError_ne ret
  | process request running =>
    refine h.keep nofun (by simp [request]) nofun rfl ?_ h.untimed
    intro res back
    exact (Pc.not_running_returned (back ▸ running)).elim
  | finish outcome request running =>
    have unfinished : ∀ outcome, .finish outcome ∉ past := by
      intro outcome
      rw [h.finished, request]
      nofun
    refine ⟨?_, by simpa using h.expired, ?_, h.untimed⟩
    · intro outcome'
      simp [unfinished, eq_comm]
    · intro res back
      exact (Pc.not_running_returned (back ▸ running)).elim
  | suspend worker pc request =>
    exact h.keep nofun (fun _ => Iff.rfl) nofun rfl nofun nofun
  | expire worker pc request late =>
    exact ⟨by simpa using h.finished, by simp, fun _ _ _ _ => .inr rfl, h.untimed⟩
  | signal worker idle pc request =>
    refine h.keep nofun (fun _ => Iff.rfl) nofun rfl ?_ h.untimed
    intro res back
    rw [pc] at back
    cases back
  | wake ret worker idle pc request answer =>
    simp only [afterSuspend_answer answer]
    rcases answer with ⟨rfl, -⟩ | ⟨rfl, -⟩ | ⟨rfl, late⟩ | ⟨rfl, -⟩
    · exact h.keep nofun (fun _ => Iff.rfl) nofun rfl nofun nofun
    · refine h.keep nofun (fun _ => Iff.rfl) nofun rfl ?_ nofun
      intro res back
      cases back
      exact fun _ _ => .inl rfl
    · exact h.keep nofun (fun _ => Iff.rfl) nofun rfl (fun _ _ _ _ => .inr late) nofun
    · refine h.keep nofun (fun _ => Iff.rfl) nofun rfl ?_ nofun
      intro res back
      cases back
      exact fun _ _ => .inl rfl
  | cancel ret worker pc request answer =>
    rw [pc] at reached
    exact reached.elim
  | examine worker pc request =>
    rw [pc, request] at reached
    obtain ⟨woke, outcome, same⟩ := reached
    cases same
    simp only [afterExamine_finished]
    refine h.keep nofun (fun _ => Iff.rfl) nofun rfl ?_ ?_
    · intro res _ _ asleep
      exact absurd (List.mem_append_left _ woke) asleep
    · intro same
      exact result_ne_timedOut outcome (Pc.returned.inj same)

theorem Traced.run {timeoutMs : ℤ} {actions : List Action} {s : State}
    (run : run timeoutMs actions = some s) : Traced actions s := by
  have both : Inv actions s ∧ Traced actions s :=
    Control.foldlM_invariant (P := fun past s => Inv past s ∧ Traced past s)
      ⟨Inv.start, Traced.start⟩
      (fun _ _ _ _ h move => ⟨h.1.step move, h.2.step h.1 move⟩) run
  exact both.2

section
variable {actions : List Action} {s : State} {res : Except Resolver.Error (List AddrInfo)}

theorem Traced.finish_unique (h : Traced actions s) {o o' : Outcome}
    (first : .finish o ∈ actions) (second : .finish o' ∈ actions) : o = o' := by
  rw [h.finished] at first second
  rw [first] at second
  cases second
  rfl

theorem Traced.result_of_woken (h : Traced actions s) (inv : Inv actions s)
    (back : s.pc = .returned res) (woke : .wake 0 ∈ actions) {outcome : Outcome}
    (finished : .finish outcome ∈ actions) : res = result outcome := by
  have reached := inv.reached
  rw [back] at reached
  rcases reached with ⟨-, o, request, same⟩ | ⟨asleep, -⟩
  · rw [same, h.finish_unique ((h.finished o).mpr request) finished]
  · exact absurd woke asleep

theorem Traced.other_of_unwoken (h : Traced actions s) (back : s.pc = .returned res)
    (asleep : .wake 0 ∉ actions) (early : .expire ∉ actions) {outcome : Outcome}
    (finished : .finish outcome ∈ actions) : res = .error .other := by
  have kept : s.request ≠ none := by
    rw [(h.finished outcome).mp finished]
    nofun
  rcases h.unwoken res back kept asleep with other | late
  · exact other
  · exact absurd (h.expired.mpr late) early

end

/-- The report is right in the runs where the deadline does not pass and
`gai_suspend` returns 0, the lookup does not finish, or it fails with a code that
`makeError` has no name for. -/
theorem reported_iff (timeoutMs : ℤ) (actions : List Action) {s : State}
    {res : Except Resolver.Error (List AddrInfo)} (run : run timeoutMs actions = some s)
    (back : s.pc = .returned res) :
    Reported actions res ↔ .expire ∉ actions ∧
      (.wake 0 ∈ actions ∨ (∀ outcome, .finish outcome ∉ actions) ∨
        ∃ code : { code : ℤ // code ≠ 0 }, .finish (.error code) ∈ actions ∧
          makeError code = .other) := by
  have inv := Inv.run run
  have traced := Traced.run run
  constructor
  · intro reported
    have early : .expire ∉ actions := by
      intro late
      rw [reported.2 late] at back
      exact traced.untimed back
    refine ⟨early, ?_⟩
    by_cases woke : .wake 0 ∈ actions
    · exact .inl woke
    by_cases busy : ∀ outcome, .finish outcome ∉ actions
    · exact .inr (.inl busy)
    · obtain ⟨outcome, finished⟩ := not_forall_not.mp busy
      have other := traced.other_of_unwoken back woke early finished
      have same := reported.1 outcome finished early
      rw [other] at same
      cases outcome with
      | ok list => cases same
      | error code => exact .inr (.inr ⟨code, finished, (Except.error.inj same).symm⟩)
  · intro ended
    obtain ⟨early, how⟩ := ended
    refine ⟨fun outcome finished _ => ?_, fun late => absurd late early⟩
    by_cases woke : .wake 0 ∈ actions
    · exact traced.result_of_woken inv back woke finished
    · rcases how with woken | busy | ⟨code, failed, unnamed⟩
      · exact absurd woken woke
      · exact absurd finished (busy outcome)
      · rw [traced.other_of_unwoken back woke early finished,
          ← traced.finish_unique failed finished, result, unnamed]

theorem answered_reported :
    ∃ s, run 100 answered = some s ∧ s.pc = .returned (result localhost) ∧
      Reported answered (result localhost) := by
  refine ⟨_, rfl, rfl, ?_⟩
  apply (reported_iff 100 answered rfl rfl).mpr
  simp [answered]

/-- The lookup finishes before `gai_suspend` is entered, which answers `EAI_ALLDONE`. -/
def early : List Action := [.submit 0, .process, .finish localhost, .suspend, .wake Eai.alldone]

theorem early_and_overdue_misreported :
    (∃ s, run 100 early = some s ∧ s.pc = .returned (.error .other) ∧
      ¬ Reported early (.error .other)) ∧
    ∃ s, run 100 overdue = some s ∧ s.pc = .returned (.error .temporaryFailure) ∧
      ¬ Reported overdue (.error .temporaryFailure) := by
  refine ⟨⟨_, rfl, rfl, fun reported => ?_⟩, ⟨_, rfl, rfl, fun reported => ?_⟩⟩
  · have same := reported.1 localhost (by simp [early]) (by simp [early])
    cases same
  · have same := reported.2 (by simp [overdue])
    cases same

end Qsox.Gai
