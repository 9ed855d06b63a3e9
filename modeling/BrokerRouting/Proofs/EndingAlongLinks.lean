import BrokerRouting.Proofs.HeldAlongLinks

namespace BrokerRouting

/-!
# Ending a binding along the links

When a binding ends, its name leaves every set that a link had brought it to,
and eviction starts at its place.  A place whose set is gone is that place or
one linked to it, so eviction reaches it, and the sets go on following the
links that are left.
-/

namespace Index.HeldAlongLinks

variable
  {index : Index}
  {name : String}
  {binding : Binding}
  {visiting : Visiting}

/-- What is left of a set is there for another live binding. -/
theorem occupied_emptied_iff
    (along : HeldAlongLinks index)
    {raw : String} :
    (index.emptied name binding visiting).occupied raw = true ↔
      ∃ (other : String) (held : Binding),
        ((index.emptied name binding visiting).bindingsAt raw)[other]? =
          some held :=
  ((rearranged_emptied index name binding visiting).noEmptySet
    along.noEmptySet).occupied_iff

theorem lasting_of_live
    {other : String}
    {held : Binding}
    (foundHeld : (index.table.live.erase name)[other]? = some held)
    (own : held.address.raw = binding.address.raw) :
    Lasting index name binding :=
  Or.inr (Or.inr ⟨other, held, foundHeld, own⟩)

/-- The text of another live binding keeps its set. -/
theorem occupied_emptied_of_live
    (along : HeldAlongLinks index)
    (found : index.table.live[name]? = some binding)
    {other : String}
    {held : Binding}
    (foundHeld : (index.table.live.erase name)[other]? = some held) :
    (index.emptied name binding visiting).occupied held.address.raw =
      true := by
  obtain ⟨different, foundLive⟩ := live_erase_iff.mp foundHeld
  refine along.occupied_emptied_iff.mpr ⟨other, held, ?_⟩
  exact (along.held_emptied_iff found).mpr
    ⟨⟨along.held_own foundLive, different⟩,
      fun same => lasting_of_live foundHeld same.symm⟩

/-- An occupied place is not evicted. -/
theorem not_vacated_of_occupied
    {start : List Place}
    {place : Place}
    (occupied :
      (index.emptied name binding visiting).occupied place.name = true) :
    ¬index.tracking.Vacated (index.emptied name binding visiting).occupied
      start place := by
  intro vacated
  have vacant := (Tracking.vacant_iff.mp vacated.vacant).2
  rw [occupied] at vacant
  cases vacant

/-- A tracked place without a set is evicted first if the binding ends there. -/
theorem vacated_own
    {place : Place}
    (tracked : index.tracking.tracks place = true)
    (own : place = binding.address.place)
    (vacant :
      (index.emptied name binding visiting).occupied place.name ≠ true) :
    index.tracking.Vacated (index.emptied name binding visiting).occupied
      [binding.address.place] place :=
  .start (List.mem_singleton.mpr own)
    (Tracking.vacant_iff.mpr
      ⟨Tracking.tracks_iff.mp tracked, Bool.eq_false_iff.mpr vacant⟩)

/-- The own text of a binding that does not last loses its set. -/
theorem vacated_of_not_lasting
    (along : HeldAlongLinks index)
    (found : index.table.live[name]? = some binding)
    (fleeting : ¬Lasting index name binding) :
    index.tracking.Vacated (index.emptied name binding visiting).occupied
      [binding.address.place] binding.address.place := by
  refine vacated_own (along.tracked found) rfl fun occupied => ?_
  obtain ⟨other, held, foundHeld⟩ := along.occupied_emptied_iff.mp occupied
  exact fleeting (((along.held_emptied_iff found).mp foundHeld).2 rfl)

/-- After eviction the sets follow the links that are left. -/
theorem held_ended_iff
    (along : HeldAlongLinks index)
    (found : index.table.live[name]? = some binding)
    {raw other : String}
    {held : Binding} :
    ((index.emptied name binding visiting).bindingsAt raw)[other]? =
        some held ↔
      (index.table.live.erase name)[other]? = some held ∧
        (index.ended name binding visiting).tracking.Leads
          held.address.raw raw := by
  rw [along.held_emptied_iff found, along.held, live_erase_iff]
  constructor
  · rintro ⟨⟨⟨foundLive, leads⟩, different⟩, lasting⟩
    refine ⟨⟨different, foundLive⟩, ?_⟩
    rcases leads with own | linked
    · exact Or.inl own
    · have foundHeld := live_erase_iff.mpr ⟨different, foundLive⟩
      have heldHere :
          ((index.emptied name binding visiting).bindingsAt raw)[other]? =
            some held :=
        (along.held_emptied_iff found).mpr
          ⟨⟨along.held.mpr ⟨foundLive, Or.inr linked⟩, different⟩, lasting⟩
      refine Or.inr (along.graph.mem_links_evict_iff.mpr
        ⟨linked, not_vacated_of_occupied ?_, not_vacated_of_occupied ?_⟩)
      · exact along.occupied_emptied_iff.mpr ⟨other, held, heldHere⟩
      · exact along.occupied_emptied_of_live found foundHeld
  · rintro ⟨⟨different, foundLive⟩, own | linked⟩
    · refine ⟨⟨⟨foundLive, Or.inl own⟩, different⟩, fun same => ?_⟩
      exact lasting_of_live (live_erase_iff.mpr ⟨different, foundLive⟩)
        (own.trans same.symm)
    · obtain ⟨linkedBefore, stays, _⟩ :=
        along.graph.mem_links_evict_iff.mp linked
      refine ⟨⟨⟨foundLive, Or.inr linkedBefore⟩, different⟩, ?_⟩
      rintro rfl
      -- Otherwise the place that the link ends at would have been evicted.
      apply Classical.byContradiction
      intro fleeting
      have own : binding.address.place = ⟨.concrete, binding.address.raw⟩ :=
        along.place_eq found (along.graph.tracks_ends linkedBefore).1 rfl
      exact stays (own ▸ along.vacated_of_not_lasting found fleeting)

/-- Once a pattern's text and a text it leads to are vacant, both go. -/
theorem vacated_of_linked
    (along : HeldAlongLinks index)
    (found : index.table.live[name]? = some binding)
    {raw : String}
    (linked : binding.address.raw ∈ index.tracking.links ⟨.concrete, raw⟩)
    (different : binding.address.raw ≠ raw)
    (vacant : (index.emptied name binding visiting).occupied raw ≠ true) :
    index.tracking.Vacated (index.emptied name binding visiting).occupied
      [binding.address.place] ⟨.concrete, raw⟩ := by
  obtain ⟨tracked, trackedPattern⟩ := along.graph.tracks_ends linked
  have own : binding.address.place = ⟨.pattern, binding.address.raw⟩ :=
    along.place_eq found trackedPattern rfl
  have patternVacant :
      (index.emptied name binding visiting).occupied
        binding.address.raw ≠ true := by
    intro occupied
    obtain ⟨other, held, foundHeld⟩ :=
      along.occupied_emptied_iff.mp occupied
    obtain ⟨⟨heldBefore, notEnded⟩, _⟩ :=
      (along.held_emptied_iff found).mp foundHeld
    obtain ⟨foundLive, leads⟩ := along.held.mp heldBefore
    -- What is left at the pattern was made for it, so it led here as well.
    have sameText :=
      (along.apart.leads_to_pattern_iff along.graph trackedPattern).mp leads
    have heldHere : (index.table.bindingsAt raw)[other]? = some held :=
      along.held.mpr ⟨foundLive, Or.inr (sameText ▸ linked)⟩
    exact vacant (along.occupied_emptied_iff.mpr ⟨other, held,
      (along.held_emptied_iff found).mpr
        ⟨⟨heldHere, notEnded⟩, fun same => (different same).elim⟩⟩)
  have patternVacated :=
    vacated_own trackedPattern own.symm patternVacant
  refine .step patternVacated (Tracking.mem_neighbours.mpr ⟨raw, ?_, rfl⟩)
    (Tracking.vacant_iff.mpr
      ⟨Tracking.tracks_iff.mp tracked, Bool.eq_false_iff.mpr vacant⟩)
  exact along.graph.mem_links_comm.mp linked

/-- Eviction reaches every tracked place whose set is gone. -/
theorem vacated_of_vacant
    (along : HeldAlongLinks index)
    (found : index.table.live[name]? = some binding)
    {place : Place}
    (tracked : index.tracking.tracks place = true)
    (vacant :
      (index.emptied name binding visiting).occupied place.name ≠ true) :
    index.tracking.Vacated (index.emptied name binding visiting).occupied
      [binding.address.place] place := by
  obtain ⟨other, held, foundHeld⟩ :=
    along.noEmptySet.occupied_iff.mp (along.occupied tracked)
  by_cases own : binding.address.raw = place.name
  · exact vacated_own tracked (along.place_eq found tracked own).symm vacant
  · have ended : other = name := by
      apply Classical.byContradiction
      intro different
      exact vacant (along.occupied_emptied_iff.mpr ⟨other, held,
        (along.held_emptied_iff found).mpr
          ⟨⟨foundHeld, different⟩, fun same => (own same).elim⟩⟩)
    subst ended
    have linked :=
      (along.leads_of_held found foundHeld).resolve_left own
    have here : (⟨.concrete, place.name⟩ : Place) = place :=
      along.apart.place_eq (along.graph.tracks_ends linked).1 tracked rfl
    exact here ▸ along.vacated_of_linked found linked own vacant

/-- Ending a binding keeps the sets along the links. -/
theorem ended
    (along : HeldAlongLinks index)
    (found : index.table.live[name]? = some binding) :
    HeldAlongLinks (index.ended name binding visiting) where
  graph := along.graph.evict _ _
  apart := along.apart.of_tracks
    fun tracked => (Tracking.tracks_evict_iff.mp tracked).1
  noEmptySet :=
    (rearranged_emptied index name binding visiting).noEmptySet along.noEmptySet
  keyed := by
    intro other held foundHeld
    rw [live_ended] at foundHeld
    exact along.keyed (live_erase_iff.mp foundHeld).2
  tracked := by
    intro other held foundHeld
    rw [live_ended] at foundHeld
    exact Tracking.tracks_evict_iff.mpr
      ⟨along.tracked (live_erase_iff.mp foundHeld).2,
        not_vacated_of_occupied
          (along.occupied_emptied_of_live found foundHeld)⟩
  occupied := by
    intro place tracked
    obtain ⟨trackedBefore, stays⟩ := Tracking.tracks_evict_iff.mp tracked
    apply Classical.byContradiction
    intro vacant
    exact stays (along.vacated_of_vacant found trackedBefore vacant)
  held := by
    intro raw other held
    rw [live_ended]
    exact along.held_ended_iff found

end Index.HeldAlongLinks

end BrokerRouting
