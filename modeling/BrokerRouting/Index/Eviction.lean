import BrokerRouting.Index.Tracking

namespace BrokerRouting

/-!
# Eviction

A tracked address without bindings is of no use, and forgetting it can leave
its neighbours in the same state.  Eviction starts from some places and goes on
along links through addresses without bindings until every place it reached is
occupied or forgotten.
-/

namespace Tracking

/--
Whether a place can be forgotten: it is tracked and its text has no binding
set.
-/
def vacant
    (tracking : Tracking)
    (occupied : String → Bool)
    (place : Place) :
    Bool :=
  tracking.tracks place && !occupied place.name

/--
Forget vacant places among those reached, reaching the neighbours of each,
until none is left.  Every round leaves fewer tracked addresses.
-/
def evict
    (tracking : Tracking)
    (occupied : String → Bool)
    (reached : List Place) :
    Tracking :=
  match _found : reached.find? (tracking.vacant occupied) with
  | none => tracking
  | some place =>
      (tracking.forget place).evict occupied
        (tracking.neighbours place ++ reached)
termination_by tracking.size
decreasing_by
  have isVacant := List.find?_some _found
  simp only [vacant, Bool.and_eq_true] at isVacant
  exact size_forget_lt isVacant.1

/-- Eviction is over once no reached place is vacant. -/
theorem evict_of_none_vacant
    {tracking : Tracking}
    {occupied : String → Bool}
    {reached : List Place}
    (settled : reached.find? (tracking.vacant occupied) = none) :
    tracking.evict occupied reached = tracking := by
  rw [evict]
  split
  · rfl
  · rename_i found
    simp [settled] at found

/-- A vacant place is forgotten, and its neighbours are reached next. -/
theorem evict_of_vacant
    {tracking : Tracking}
    {occupied : String → Bool}
    {reached : List Place}
    {place : Place}
    (found : reached.find? (tracking.vacant occupied) = some place) :
    tracking.evict occupied reached =
      (tracking.forget place).evict occupied
        (tracking.neighbours place ++ reached) := by
  rw [evict.eq_def tracking]
  split
  · rename_i settled
    simp [settled] at found
  · rename_i other foundOther
    cases found.symm.trans foundOther
    rfl

end Tracking

end BrokerRouting
