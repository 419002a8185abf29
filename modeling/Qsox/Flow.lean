import Mathlib.Data.List.Infix

/-! The two directions of a stream, as one who uses it sees them, and what a step can do
to them: steps add up, and nothing comes after the end. -/

namespace Qsox

/-- What was taken from the user, what was given to the user, and all that the other side
has put in so far, which is all there will be once it has ended the stream. A stream that
was reset, or is shut on the side of the user, is cut. -/
structure Flow (α : Type) where
  taken : List α
  given : List α
  coming : List α
  ended : Bool
  cut : Bool
  deriving DecidableEq, Repr

namespace Flow

variable {α : Type}

def Sound (f : Flow α) : Prop := f.given <+: f.coming

/-- There is no more than this, but for a cut. -/
def EndsAt (f : Flow α) (given : List α) : Prop :=
  f.cut = true ∨ f.ended = true ∧ f.coming = given

/-- A step in which `out` is taken and `into` given; anything may come meanwhile. -/
structure Moves (out into : List α) (f f' : Flow α) : Prop where
  taken : f'.taken = f.taken ++ out
  given : f'.given = f.given ++ into
  grows : f.coming <+: f'.coming
  stays : f.ended = true → f'.ended = true ∧ f'.coming = f.coming
  cut : f.cut = true → f'.cut = true

variable {f f' f'' : Flow α} {out into out' into' : List α}

namespace Moves

theorem refl (f : Flow α) : Moves [] [] f f where
  taken := (List.append_nil _).symm
  given := (List.append_nil _).symm
  grows := List.prefix_rfl
  stays ended := ⟨ended, rfl⟩
  cut := id

theorem trans (first : Moves out into f f') (next : Moves out' into' f' f'') :
    Moves (out ++ out') (into ++ into') f f'' where
  taken := by rw [next.taken, first.taken, List.append_assoc]
  given := by rw [next.given, first.given, List.append_assoc]
  grows := first.grows.trans next.grows
  stays ended := by
    obtain ⟨ended', same⟩ := first.stays ended
    obtain ⟨ended'', same'⟩ := next.stays ended'
    exact ⟨ended'', same'.trans same⟩
  cut := next.cut ∘ first.cut

theorem sound (moves : Moves out into f f') (next : f.given ++ into <+: f'.coming) : f'.Sound := by
  rw [Sound, moves.given]
  exact next

theorem endsAt (moves : Moves out into f f') {given : List α} (ends : f.EndsAt given) :
    f'.EndsAt given := by
  rcases ends with cut | ⟨ended, all⟩
  · exact .inl (moves.cut cut)
  · obtain ⟨ended', same⟩ := moves.stays ended
    exact .inr ⟨ended', same.trans all⟩

theorem sound_of_nil (moves : Moves out [] f f') (sound : f.Sound) : f'.Sound := by
  refine moves.sound ?_
  rw [List.append_nil]
  exact sound.trans moves.grows

end Moves
end Flow
end Qsox
