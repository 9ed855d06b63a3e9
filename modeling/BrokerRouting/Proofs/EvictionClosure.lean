import BrokerRouting.Proofs.LinkGraph

namespace BrokerRouting.Tracking

/-!
# What eviction removes

Eviction prunes the graph while it walks it.  The places it removes are still
those of the graph it started from: the vacant ones that can be reached from
the start along links through vacant places.
-/

/-- A vacant place reached along links through vacant places. -/
inductive Vacated
    (tracking : Tracking)
    (occupied : String → Bool)
    (start : List Place) : Place → Prop where
  | start {place : Place} :
      place ∈ start →
      tracking.vacant occupied place = true →
      Vacated tracking occupied start place
  | step {place other : Place} :
      Vacated tracking occupied start place →
      other ∈ tracking.neighbours place →
      tracking.vacant occupied other = true →
      Vacated tracking occupied start other

theorem vacant_iff
    {tracking : Tracking}
    {occupied : String → Bool}
    {place : Place} :
    tracking.vacant occupied place = true ↔
      (∃ segments, tracking.segments? place = some segments) ∧
        occupied place.name = false := by
  simp [vacant, tracks_iff]

theorem mem_neighbours
    {tracking : Tracking}
    {place other : Place} :
    other ∈ tracking.neighbours place ↔
      ∃ name ∈ tracking.links place, place.across name = other := by
  simp [neighbours, Place.across]

/-- Forgetting a place leaves the other vacant places vacant. -/
theorem vacant_forget
    {tracking : Tracking}
    {occupied : String → Bool}
    {place other : Place} :
    (tracking.forget place).vacant occupied other = true ↔
      other ≠ place ∧ tracking.vacant occupied other = true := by
  rw [vacant_iff, vacant_iff, segments?_forget]
  by_cases gone : other = place <;> simp [gone]

/-- Forgetting a place keeps the steps between the others. -/
theorem mem_neighbours_forget
    {tracking : Tracking}
    {place first second : Place}
    (firstStays : first ≠ place)
    (secondStays : second ≠ place) :
    second ∈ (tracking.forget place).neighbours first ↔
      second ∈ tracking.neighbours first := by
  rw [mem_neighbours, mem_neighbours]
  constructor
  · intro next
    obtain ⟨name, member, atSecond⟩ := next
    exact ⟨name, (mem_links_forget.mp member).2.1, atSecond⟩
  · intro next
    obtain ⟨name, member, atSecond⟩ := next
    refine ⟨name, mem_links_forget.mpr ⟨firstStays, member, ?_⟩, atSecond⟩
    rintro ⟨atPlace, _⟩
    exact secondStays (atSecond.symm.trans atPlace)

namespace Vacated

variable
  {tracking : Tracking}
  {occupied : String → Bool}
  {reached : List Place}

theorem vacant
    {place : Place}
    (vacated : Vacated tracking occupied reached place) :
    tracking.vacant occupied place = true := by
  cases vacated with
  | start _ isVacant =>
      exact isVacant
  | step _ _ isVacant =>
      exact isVacant

/-- Nothing is vacated once no reached place is vacant. -/
theorem not_of_none_vacant
    (settled : reached.find? (tracking.vacant occupied) = none)
    {place : Place} :
    ¬Vacated tracking occupied reached place := by
  intro vacated
  induction vacated with
  | start member isVacant =>
      exact List.find?_eq_none.mp settled _ member isVacant
  | step _ _ _ inductionHypothesis =>
      exact inductionHypothesis

/-- Pruning a place first hides none of those reached through it. -/
theorem iff_of_vacant
    {place : Place}
    (found : reached.find? (tracking.vacant occupied) = some place)
    {other : Place} :
    Vacated tracking occupied reached other ↔
      other = place ∨
        Vacated (tracking.forget place) occupied
          (tracking.neighbours place ++ reached) other := by
  have placeVacated : Vacated tracking occupied reached place :=
    .start (List.mem_of_find?_eq_some found) (List.find?_some found)
  constructor
  · intro vacated
    induction vacated with
    | @start other member isVacant =>
        by_cases same : other = place
        · exact Or.inl same
        · exact Or.inr
            (.start (List.mem_append_right _ member)
              (vacant_forget.mpr ⟨same, isVacant⟩))
    | @step between other _ next isVacant inductionHypothesis =>
        -- A walk through the pruned place starts again behind it, at one of
        -- its neighbours, which are reached from now on.
        by_cases same : other = place
        · exact Or.inl same
        · have staysVacant :=
            vacant_forget.mpr ⟨same, isVacant⟩
          rcases inductionHypothesis with rfl | vacatedBetween
          · exact Or.inr
              (.start (List.mem_append_left _ next) staysVacant)
          · have betweenStays : between ≠ place :=
              (vacant_forget.mp vacatedBetween.vacant).1
            exact Or.inr
              (.step vacatedBetween
                ((mem_neighbours_forget betweenStays same).mpr next)
                staysVacant)
  · intro gone
    rcases gone with rfl | vacated
    · exact placeVacated
    · induction vacated with
      | start member isVacant =>
          have wasVacant := (vacant_forget.mp isVacant).2
          rcases List.mem_append.mp member with next | earlier
          · exact .step placeVacated next wasVacant
          · exact .start earlier wasVacant
      | step vacatedBetween next isVacant inductionHypothesis =>
          obtain ⟨otherStays, wasVacant⟩ := vacant_forget.mp isVacant
          have betweenStays :=
            (vacant_forget.mp vacatedBetween.vacant).1
          exact .step inductionHypothesis
            ((mem_neighbours_forget betweenStays otherStays).mp next)
            wasVacant

/-- Only the vacant places count among those a search starts from. -/
theorem of_vacant_members
    {other : List Place}
    (included :
      ∀ place ∈ reached,
        tracking.vacant occupied place = true → place ∈ other)
    {place : Place}
    (vacated : Vacated tracking occupied reached place) :
    Vacated tracking occupied other place := by
  induction vacated with
  | start member isVacant =>
      exact .start (included _ member isVacant) isVacant
  | step _ next isVacant inductionHypothesis =>
      exact .step inductionHypothesis next isVacant

end Vacated

/-- Eviction removes the vacated places and keeps the segments of others. -/
theorem segments?_evict
    (tracking : Tracking)
    (occupied : String → Bool)
    (reached : List Place)
    {place : Place}
    {segments : Segments} :
    (tracking.evict occupied reached).segments? place = some segments ↔
      tracking.segments? place = some segments ∧
        ¬Vacated tracking occupied reached place := by
  induction tracking, reached using Tracking.evict.induct occupied with
  | case1 tracking reached settled =>
      rw [evict_of_none_vacant settled]
      simp [Vacated.not_of_none_vacant settled]
  | case2 tracking reached forgotten found inductionHypothesis =>
      rw [evict_of_vacant found, inductionHypothesis,
        Vacated.iff_of_vacant found, segments?_forget]
      by_cases gone : place = forgotten <;> simp [gone]

/--
A link goes with its place, and also with the place it leads to if that keeps
the link as well.
-/
theorem mem_links_evict
    (tracking : Tracking)
    (occupied : String → Bool)
    (reached : List Place)
    {place : Place}
    {name : String} :
    name ∈ (tracking.evict occupied reached).links place ↔
      ¬Vacated tracking occupied reached place ∧
        name ∈ tracking.links place ∧
          ¬(Vacated tracking occupied reached (place.across name) ∧
            place.name ∈ tracking.links (place.across name)) := by
  induction tracking, reached using Tracking.evict.induct occupied with
  | case1 tracking reached settled =>
      rw [evict_of_none_vacant settled]
      simp [Vacated.not_of_none_vacant settled]
  | case2 tracking reached forgotten found inductionHypothesis =>
      rw [evict_of_vacant found, inductionHypothesis, mem_links_forget,
        mem_links_forget, Vacated.iff_of_vacant found,
        Vacated.iff_of_vacant found, Place.across_across]
      have notVacatedAgain :
          ¬Vacated (tracking.forget forgotten) occupied
            (tracking.neighbours forgotten ++ reached) forgotten :=
        fun vacated => (vacant_forget.mp vacated.vacant).1 rfl
      by_cases gone : place = forgotten
      · simp [gone]
      · by_cases facing : place.across name = forgotten
        · simp [gone, facing, notVacatedAgain]
        · simp [gone, facing]

/-- Where links are kept at both ends, they stay with both of their ends. -/
theorem Symmetric.mem_links_evict_iff
    {tracking : Tracking}
    (symmetric : tracking.Symmetric)
    {occupied : String → Bool}
    {reached : List Place}
    {place : Place}
    {name : String} :
    name ∈ (tracking.evict occupied reached).links place ↔
      name ∈ tracking.links place ∧
        ¬Vacated tracking occupied reached place ∧
          ¬Vacated tracking occupied reached (place.across name) := by
  rw [mem_links_evict, and_left_comm]
  apply and_congr_right
  intro linked
  simp [symmetric place name linked]

/-- A name stays routed unless a place of that name is vacated. -/
theorem mem_routed_evict
    (tracking : Tracking)
    (occupied : String → Bool)
    (reached : List Place)
    {name : String} :
    name ∈ (tracking.evict occupied reached).routed ↔
      name ∈ tracking.routed ∧
        ∀ side, ¬Vacated tracking occupied reached ⟨side, name⟩ := by
  induction tracking, reached using Tracking.evict.induct occupied with
  | case1 tracking reached settled =>
      rw [evict_of_none_vacant settled]
      simp [Vacated.not_of_none_vacant settled]
  | case2 tracking reached forgotten found inductionHypothesis =>
      rw [evict_of_vacant found, inductionHypothesis]
      simp only [Vacated.iff_of_vacant found, not_or, mem_routed_forget,
        forall_and]
      have elsewhere :
          (∀ side, (⟨side, name⟩ : Place) ≠ forgotten) ↔
            name ≠ forgotten.name := by
        constructor
        · intro nowhere same
          exact nowhere forgotten.side (by rw [same])
        · rintro different side rfl
          exact different rfl
      rw [elsewhere]
      constructor
      · intro remaining
        obtain ⟨⟨different, isRouted⟩, kept⟩ := remaining
        exact ⟨isRouted, different, kept⟩
      · intro remaining
        obtain ⟨isRouted, different, kept⟩ := remaining
        exact ⟨⟨different, isRouted⟩, kept⟩

/-- Only the vacant places count among those that eviction starts from. -/
theorem evict_congr
    {tracking : Tracking}
    {occupied : String → Bool}
    {first second : List Place}
    (sameVacant :
      ∀ place,
        tracking.vacant occupied place = true →
        (place ∈ first ↔ place ∈ second)) :
    tracking.evict occupied first = tracking.evict occupied second := by
  have sameVacated :
      ∀ place,
        Vacated tracking occupied first place ↔
          Vacated tracking occupied second place := by
    intro place
    constructor
    · apply Vacated.of_vacant_members
      exact fun place member isVacant =>
        (sameVacant place isVacant).mp member
    · apply Vacated.of_vacant_members
      exact fun place member isVacant =>
        (sameVacant place isVacant).mpr member
  apply eq_of_segments_links
  · intro place
    apply Option.ext
    intro segments
    rw [segments?_evict, segments?_evict, sameVacated]
  · intro place
    apply Std.ExtTreeSet.ext_mem
    intro name
    rw [mem_links_evict, mem_links_evict, sameVacated, sameVacated]
  · apply Std.ExtTreeSet.ext_mem
    intro name
    rw [mem_routed_evict, mem_routed_evict]
    simp only [sameVacated]

end BrokerRouting.Tracking
