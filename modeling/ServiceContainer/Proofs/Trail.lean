import Mathlib.Data.List.Chain
import Mathlib.Data.List.Nodup

/-!
# Trails that come back

A trail along a relation that stops as soon as it comes to a place for the second time is a way in, of any length,
and a round behind it. The trail is a round itself only when there is no way in.
-/

namespace ServiceContainer

variable {α : Type} {R : α → α → Prop}

/-- The trail goes along the relation up to the first place that it has been at. -/
structure Revisits (R : α → α → Prop) (trail : List α) : Prop where
  follows : trail.IsChain R
  distinct : trail.dropLast.Nodup
  revisited : ∃ place ∈ trail.dropLast, trail.getLast? = some place

/-- The trail goes along the relation back to where it starts, and comes to no other place twice. -/
structure IsRound (R : α → α → Prop) (trail : List α) : Prop where
  two_le_length : 2 ≤ trail.length
  closed : trail.head? = trail.getLast?
  distinct : trail.dropLast.Nodup
  follows : trail.IsChain R

namespace Revisits

variable {trail lead middle : List α} {place : α}

theorem exists_round (revisits : Revisits R trail) :
    ∃ lead place middle, trail = lead ++ place :: (middle ++ [place]) := by
  obtain ⟨place, mem, last⟩ := revisits.revisited
  obtain ⟨lead, middle, hsplit⟩ := List.append_of_mem mem
  refine ⟨lead, place, middle, ?_⟩
  rw [← List.dropLast_append_getLast? place last, hsplit]
  simp

theorem dropLast_round (lead middle : List α) (place : α) :
    (lead ++ place :: (middle ++ [place])).dropLast = lead ++ place :: middle := by
  rw [← List.cons_append, ← List.append_assoc, List.dropLast_concat]

theorem getLast?_round (lead middle : List α) (place : α) :
    (lead ++ place :: (middle ++ [place])).getLast? = some place := by
  rw [← List.cons_append, ← List.append_assoc, List.getLast?_concat]

theorem isRound (revisits : Revisits R (lead ++ place :: (middle ++ [place]))) :
    IsRound R (place :: (middle ++ [place])) where
  two_le_length := by simp
  closed := (getLast?_round [] middle place).symm
  distinct := by
    have distinct := revisits.distinct
    rw [dropLast_round] at distinct
    have hdrop : (place :: (middle ++ [place])).dropLast = place :: middle := dropLast_round [] middle place
    rw [hdrop]
    exact distinct.of_append_right
  follows := revisits.follows.right_of_append

theorem isRound_iff (revisits : Revisits R (lead ++ place :: (middle ++ [place]))) :
    IsRound R (lead ++ place :: (middle ++ [place])) ↔ lead = [] := by
  constructor
  · intro round
    cases lead with
    | nil => rfl
    | cons first lead =>
        have closed := round.closed
        rw [getLast?_round, List.cons_append, List.head?_cons] at closed
        obtain rfl := Option.some.inj closed
        have distinct := round.distinct
        rw [dropLast_round] at distinct
        simp at distinct
  · rintro rfl
    exact revisits.isRound

end Revisits

end ServiceContainer
