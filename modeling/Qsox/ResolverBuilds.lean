import Qsox.GaiOutcome
import Qsox.Kernel

/-! The lookups of the three builds, and what `resolve` makes of its two lookups, however
the library and the workers that answer it are interleaved. -/

namespace Qsox

open StringView

namespace Resolver

namespace Wsa

def notEnoughMemory : ℤ := 8
def esocktnosupport : ℤ := 10044
def typeNotFound : ℤ := 10109
def hostNotFound : ℤ := 11001
def tryAgain : ℤ := 11002
def noRecovery : ℤ := 11003

def codes : List (ℤ × Error) :=
  [(tryAgain, .temporaryFailure), (noRecovery, .permanentFailure), (hostNotFound, .unknownHost),
    (typeNotFound, .serviceNotFound), (esocktnosupport, .socketNotSupported),
    (notEnoughMemory, .outOfMemory)]

end Wsa

def Windows.makeError (code : ℤ) : Error := (Wsa.codes.lookup code).getD .other

/-- The one that waits has no timeout: `getaddrinfo` in the calling thread. -/
inductive Build
  | windows
  | glibc
  | waiting
  deriving DecidableEq, Repr

/-- The `timeout` of `GetAddrInfoExW`. -/
def Windows.timeout (timeoutMs : Int32) : Option Timeval :=
  if timeoutMs ≠ 0 then some ⟨timeoutMs / 1000, timeoutMs % 1000 * 1000⟩ else none

def Windows.result : Gai.Outcome → Except Error (List AddrInfo)
  | .ok list => .ok list
  | .error code => .error (makeError code)

/-- `gai` of Windows: one call gives the outcome, that of a timeout included. -/
def Windows.gai (getAddrInfoEx : Option Timeval → Gai.Outcome) (timeoutMs : Int32) :
    Except Error (List AddrInfo) :=
  result (getAddrInfoEx (timeout timeoutMs))

/-- What `getaddrinfo_a` answers to the request for a lookup, and what the lookup finds. -/
structure Fate where
  submitted : ℤ
  outcome : Gai.Outcome

end Resolver

namespace Gai

open Resolver

structure Told (timeoutMs : ℤ) (past : List Action) (s : State) : Prop where
  expired : s.expired = true → timeoutMs ≠ 0
  refused : ∀ res, s.pc = .returned res → s.request = none →
    ∃ ret, ret ≠ 0 ∧ .submit ret ∈ past ∧ res = .error (makeError ret)
  back : ∀ res, s.pc = .returned res → s.request ≠ none →
    res = .error .other ∨ s.expired = true ∧ res = .error .temporaryFailure ∨
      ∃ outcome, s.request = some (.finished outcome) ∧ res = result outcome

theorem Told.start (timeoutMs : ℤ) : Told timeoutMs [] .start where
  expired := nofun
  refused := nofun
  back := nofun

section
variable {timeoutMs : ℤ} {past : List Action} {s s' : State} {action : Action}

theorem Told.going (h : Told timeoutMs past s) (expired : s'.expired = s.expired)
    (going : s'.pc.Running) : Told timeoutMs (past ++ [action]) s' where
  expired := by rw [expired]; exact h.expired
  refused := by
    intro res back
    exact (Pc.not_running_returned (back ▸ going)).elim
  back := by
    intro res back
    exact (Pc.not_running_returned (back ▸ going)).elim

theorem Told.step (h : Told timeoutMs past s) (inv : Inv past s)
    (move : s.step timeoutMs action = some s') : Told timeoutMs (past ++ [action]) s' := by
  have reached := inv.reached
  cases State.move_of_step move with
  | submit ret pc request =>
    by_cases accepted : ret = 0
    · refine h.going rfl ?_
      rw [afterSubmit, if_neg (not_not.mpr accepted)]
      exact trivial
    · refine ⟨h.expired, fun res back _ => ?_, fun res _ made => absurd (if_neg accepted) made⟩
      rw [afterSubmit, if_pos accepted] at back
      obtain rfl := Pc.returned.inj back
      exact ⟨ret, accepted, List.mem_append_right past (List.mem_singleton_self _), rfl⟩
  | process request running => exact h.going rfl running
  | finish outcome request running => exact h.going rfl running
  | suspend worker pc request => exact h.going rfl trivial
  | expire worker pc request late =>
    refine ⟨fun _ none => late.1 (if_neg (not_not.mpr none)), fun res back => ?_, fun res back => ?_⟩
    · rw [pc] at back
      cases back
    · rw [pc] at back
      cases back
  | signal worker idle pc request => exact h.going rfl (pc ▸ trivial)
  | wake ret worker idle pc request answer =>
    refine ⟨h.expired, fun res _ none => ?_, ?_⟩
    · rw [request] at none
      cases none
    simp only [afterSuspend_answer answer]
    rcases answer with ⟨rfl, -⟩ | ⟨rfl, -⟩ | ⟨rfl, late⟩ | ⟨rfl, -⟩
    · rintro res back -
      cases back
    · rintro res back -
      cases back
      exact .inl rfl
    · rintro res back -
      cases back
      exact .inr (.inl ⟨late, rfl⟩)
    · rintro res back -
      cases back
      exact .inl rfl
  | cancel ret worker pc request answer =>
    rw [pc] at reached
    exact reached.elim
  | examine worker pc request =>
    rw [pc, request] at reached
    obtain ⟨-, outcome, same⟩ := reached
    cases same
    refine ⟨h.expired, fun res _ none => ?_, ?_⟩
    · rw [request] at none
      cases none
    simp only [afterExamine_finished]
    rintro res back -
    cases back
    exact .inr (.inr ⟨outcome, request, rfl⟩)

theorem Told.run {actions : List Action} (run : run timeoutMs actions = some s) :
    Told timeoutMs actions s := by
  have both : Inv actions s ∧ Told timeoutMs actions s :=
    Control.foldlM_invariant (P := fun past s => Inv past s ∧ Told timeoutMs past s)
      ⟨Inv.start, Told.start timeoutMs⟩
      (fun _ _ _ _ h move => ⟨h.1.step move, h.2.step h.1 move⟩) run
  exact both.2

end

def inTime (outcome : Outcome) : List Action :=
  [.submit 0, .process, .suspend, .finish outcome, .wake 0, .examine]

end Gai

namespace Resolver

def Build.inTime (fate : Fate) : Build → Except Error (List AddrInfo)
  | .windows => Windows.result fate.outcome
  | .glibc =>
    if fate.submitted = 0 then Gai.result fate.outcome else .error (makeError fate.submitted)
  | .waiting => Gai.result fate.outcome

section
variable {σ : Type} (lookup : Gai σ) (hostname : Text) (timeoutMs : ℤ)

end

end Resolver

end Qsox
