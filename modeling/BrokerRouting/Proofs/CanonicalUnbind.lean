import BrokerRouting.Proofs.CanonicalIndex
import BrokerRouting.Proofs.HeldAlongLinks

namespace BrokerRouting

/-!
# Unbinding keeps the canonical form

When a binding ends, a known text stays known if another live binding was
made for it, or if it is routed and a live binding still reaches it.  The
sets lose the binding, and eviction removes exactly the tracked addresses
whose texts are no longer known.
-/

namespace Index

/-- A text that stays known once the binding of a name has ended. -/
def Remembered
    (index : Index)
    (name raw : String) :
    Prop :=
  raw ∈ index.tracking.routed ∧
      Ledger.Reached (index.table.live.erase name) index.tokens raw ∨
    Ledger.Bound (index.table.live.erase name) raw

end Index

namespace Index.Canonical

variable
  {index : Index}
  {name : String}
  {binding : Binding}
  {visiting : Visiting}

theorem known_of_live
    (found : index.table.live[name]? = some binding) :
    index.Known binding.address.raw :=
  Or.inr ⟨name, binding, found, rfl⟩

theorem reached_of_remembered
    (canonical : Canonical index)
    {raw : String}
    (remembered : index.Remembered name raw) :
    Ledger.Reached (index.table.live.erase name) index.tokens raw := by
  rcases remembered with ⟨_, reached⟩ | ⟨other, held, foundHeld, rfl⟩
  · exact reached
  · have read := canonical.read (live_erase_iff.mp foundHeld).2
    exact ⟨other, held, foundHeld, read.reaches_own⟩

theorem known_of_remembered
    {raw : String}
    (remembered : index.Remembered name raw) :
    index.Known raw := by
  rcases remembered with ⟨isRouted, _⟩ | ⟨other, held, foundHeld, own⟩
  · exact Or.inl isRouted
  · exact Or.inr ⟨other, held, (live_erase_iff.mp foundHeld).2, own⟩

/-- A known text is forgotten only with its last binding or as unreached. -/
theorem remembered_or
    (found : index.table.live[name]? = some binding)
    {raw : String}
    (known : index.Known raw)
    (reached :
      Ledger.Reached (index.table.live.erase name) index.tokens raw) :
    index.Remembered name raw ∨ binding.address.raw = raw := by
  rcases known with isRouted | ⟨other, held, foundHeld, own⟩
  · exact Or.inl (Or.inl ⟨isRouted, reached⟩)
  · by_cases ended : other = name
    · subst ended
      rw [found] at foundHeld
      cases foundHeld
      exact Or.inr own
    · exact Or.inl
        (Or.inr ⟨other, held, live_erase_iff.mpr ⟨ended, foundHeld⟩, own⟩)

theorem track_of_live
    (canonical : Canonical index)
    (found : index.table.live[name]? = some binding) :
    index.tracking.track binding.address = index.tracking :=
  Tracking.track_of_tracked
    ((canonical.tracks_iff (canonical.read found)).mpr
      (known_of_live found))

theorem sidesApart (canonical : Canonical index) :
    index.tracking.SidesApart := by
  intro raw listed pattern
  have concrete : index.tracking.tracks ⟨.concrete, raw⟩ = true :=
    Std.ExtTreeMap.mem_keys.mp listed
  have pattern : index.tracking.tracks ⟨.pattern, raw⟩ = true := pattern
  obtain ⟨_, kept⟩ := Tracking.tracks_iff.mp concrete
  obtain ⟨_, keptAgain⟩ := Tracking.tracks_iff.mp pattern
  obtain ⟨_, parsed, placed⟩ := canonical.kept.mp kept
  obtain ⟨_, parsedAgain, placedAgain⟩ := canonical.kept.mp keptAgain
  have same := Except.ok.inj (parsed.symm.trans parsedAgain)
  cases placed.symm.trans ((congrArg Address.place same).trans placedAgain)

/-- Where addresses are read alike, links lead just where bindings reach. -/
theorem heldAlongLinks (canonical : Canonical index) :
    index.HeldAlongLinks where
  graph := canonical.graph
  apart := canonical.sidesApart
  noEmptySet := canonical.noEmptySet
  keyed := canonical.keyed
  tracked found :=
    (canonical.tracks_iff (canonical.read found)).mpr (known_of_live found)
  occupied tracked := by
    obtain ⟨_, kept⟩ := Tracking.tracks_iff.mp tracked
    exact canonical.occupied_iff.mpr (canonical.kept.mp kept).1
  held {raw name binding} := by
    rw [canonical.held, and_left_comm]
    apply and_congr_right
    intro found
    have read := canonical.read found
    cases kind : binding.address.side with
    | pattern =>
        have absorbed :
            index.Known raw ∨ binding.address.raw = raw ↔
              index.Known raw :=
          or_iff_left_of_imp fun own => own ▸ known_of_live found
        have links :
            (index.tracking.track binding.address).links
                binding.address.place =
              index.tracking.links ⟨.pattern, binding.address.raw⟩ := by
          rw [canonical.track_of_live found, Address.place, kind]
        rw [canonical.graph.leads_iff, ← links,
          canonical.mem_links_or_own_iff read kind, absorbed]
    | concrete =>
        have tracked :=
          (canonical.tracks_iff read).mpr (known_of_live found)
        rw [Address.place, kind] at tracked
        rw [canonical.sidesApart.leads_from_concrete_iff canonical.graph
          tracked]
        constructor
        · intro arrives
          exact Binding.raw_eq_of_reaches_of_concrete kind arrives.2
        · rintro rfl
          exact ⟨known_of_live found, read.reaches_own⟩

/-- Besides the text that was bound, nothing known and reached is lost. -/
theorem remembered_iff
    (canonical : Canonical index)
    (found : index.table.live[name]? = some binding)
    {raw : String}
    (reached :
      Ledger.Reached (index.table.live.erase name) index.tokens raw) :
    index.Remembered name raw ↔
      index.Known raw ∧
        (binding.address.raw = raw → Lasting index name binding) := by
  have read := canonical.read found
  constructor
  · intro remembered
    refine ⟨known_of_remembered remembered, ?_⟩
    rintro rfl
    rcases remembered with ⟨isRouted, _⟩ | bound
    · exact Or.inr (Or.inl isRouted)
    · exact Or.inr (Or.inr bound)
  · intro stays
    obtain ⟨known, lasting⟩ := stays
    rcases remembered_or found known reached with remembered | rfl
    · exact remembered
    · rcases lasting rfl with kind | isRouted | bound
      · obtain ⟨other, held, foundHeld, reaches⟩ := reached
        exact Or.inr ⟨other, held, foundHeld,
          Binding.raw_eq_of_reaches_pattern read kind reaches⟩
      · exact Or.inl ⟨isRouted, reached⟩
      · exact Or.inr bound

/-- The sets of the emptied table hold what reaches each text by then. -/
theorem held_emptied_iff
    (canonical : Canonical index)
    (found : index.table.live[name]? = some binding)
    {raw other : String}
    {held : Binding} :
    ((index.emptied name binding visiting).bindingsAt raw)[other]? = some held ↔
      index.Remembered name raw ∧
        (index.table.live.erase name)[other]? = some held ∧
          held.Reaches index.tokens raw := by
  rw [canonical.heldAlongLinks.held_emptied_iff found, canonical.held,
    live_erase_iff]
  constructor
  · intro stays
    obtain ⟨⟨⟨known, foundLive, reaches⟩, different⟩, lasting⟩ := stays
    have reached :
        Ledger.Reached (index.table.live.erase name) index.tokens raw :=
      ⟨other, held, live_erase_iff.mpr ⟨different, foundLive⟩, reaches⟩
    exact ⟨(canonical.remembered_iff found reached).mpr ⟨known, lasting⟩,
      ⟨different, foundLive⟩, reaches⟩
  · intro stays
    obtain ⟨remembered, ⟨different, foundLive⟩, reaches⟩ := stays
    obtain ⟨known, lasting⟩ :=
      (canonical.remembered_iff found
        (canonical.reached_of_remembered remembered)).mp remembered
    exact ⟨⟨⟨known, foundLive, reaches⟩, different⟩, lasting⟩

theorem occupied_emptied_iff
    (canonical : Canonical index)
    (found : index.table.live[name]? = some binding)
    {raw : String} :
    (index.emptied name binding visiting).occupied raw = true ↔
      index.Remembered name raw := by
  have noEmpty : (index.emptied name binding visiting).NoEmptySet :=
    (rearranged_emptied index name binding visiting).noEmptySet
      canonical.noEmptySet
  rw [noEmpty.occupied_iff]
  constructor
  · intro holds
    obtain ⟨other, held, foundHeld⟩ := holds
    exact ((canonical.held_emptied_iff found).mp foundHeld).1
  · intro remembered
    obtain ⟨other, held, foundHeld, reaches⟩ :=
      canonical.reached_of_remembered remembered
    exact ⟨other, held, (canonical.held_emptied_iff found).mpr
      ⟨remembered, foundHeld, reaches⟩⟩

/-- A tracked place can be forgotten exactly when its text is not kept. -/
theorem vacant_emptied_iff
    (canonical : Canonical index)
    (found : index.table.live[name]? = some binding)
    {place : Place} :
    index.tracking.vacant (index.emptied name binding visiting).occupied place =
        true ↔
      (∃ segments, index.tracking.segments? place = some segments) ∧
        ¬index.Remembered name place.name := by
  rw [Tracking.vacant_iff, ← canonical.occupied_emptied_iff found,
    Bool.not_eq_true]

/-- While its pattern is kept, a routed text that it reaches is kept. -/
theorem remembered_of_pattern_remembered
    (canonical : Canonical index)
    (found : index.table.live[name]? = some binding)
    (kind : binding.address.side = .pattern)
    {raw : String}
    (isRouted : raw ∈ index.tracking.routed)
    (reaches : binding.Reaches index.tokens raw)
    (remembered : index.Remembered name binding.address.raw) :
    index.Remembered name raw := by
  have read := canonical.read found
  obtain ⟨other, held, foundHeld, reachesPattern⟩ :=
    canonical.reached_of_remembered remembered
  have sameText : held.address.raw = binding.address.raw :=
    Binding.raw_eq_of_reaches_pattern read kind reachesPattern
  have same : held.address = binding.address :=
    Address.eq_of_parse
      (canonical.read (live_erase_iff.mp foundHeld).2) read sameText
  refine Or.inl ⟨isRouted, other, held, foundHeld, ?_⟩
  simpa only [Binding.Reaches, Binding.reaches, same] using reaches

/-- The ended binding was the last to reach a routed text not kept. -/
theorem reaches_of_routed_forgotten
    (canonical : Canonical index)
    (found : index.table.live[name]? = some binding)
    {raw : String}
    (isRouted : raw ∈ index.tracking.routed)
    (forgotten : ¬index.Remembered name raw) :
    binding.Reaches index.tokens raw := by
  obtain ⟨⟨other, held, foundHeld, reaches⟩, _⟩ :=
    canonical.routed isRouted
  have ended : other = name := by
    apply Classical.byContradiction
    intro different
    exact forgotten (Or.inl ⟨isRouted, other, held,
      live_erase_iff.mpr ⟨different, foundHeld⟩, reaches⟩)
  subst ended
  cases found.symm.trans foundHeld
  exact reaches

/-- The ended binding was the last made for a bound text not kept. -/
theorem own_of_bound_forgotten
    (found : index.table.live[name]? = some binding)
    {raw : String}
    (bound : Ledger.Bound index.table.live raw)
    (forgotten : ¬index.Remembered name raw) :
    binding.address.raw = raw := by
  obtain ⟨other, held, foundHeld, own⟩ := bound
  have ended : other = name := by
    apply Classical.byContradiction
    intro different
    exact forgotten (Or.inr ⟨other, held,
      live_erase_iff.mpr ⟨different, foundHeld⟩, own⟩)
  subst ended
  cases found.symm.trans foundHeld
  exact own

/-- A routed text not kept is reached along a link of the ended pattern. -/
theorem vacated_of_linked
    (canonical : Canonical index)
    (found : index.table.live[name]? = some binding)
    (kind : binding.address.side = .pattern)
    {raw : String}
    (isRouted : raw ∈ index.tracking.routed)
    (linked : raw ∈ index.tracking.links binding.address.place)
    (isVacant :
      index.tracking.vacant (index.emptied name binding visiting).occupied
        ⟨.concrete, raw⟩ = true) :
    index.tracking.Vacated (index.emptied name binding visiting).occupied
      [binding.address.place] ⟨.concrete, raw⟩ := by
  have forgotten := ((canonical.vacant_emptied_iff found).mp isVacant).2
  have reaches :=
    canonical.reaches_of_routed_forgotten found isRouted forgotten
  have patternForgotten :
      ¬index.Remembered name binding.address.raw :=
    forgotten ∘
      canonical.remembered_of_pattern_remembered found kind isRouted reaches
  have patternKept :
      index.tracking.segments? binding.address.place =
        some binding.address.segments :=
    (canonical.kept_iff (canonical.read found)).mpr
      ⟨known_of_live found, rfl⟩
  have patternVacant :
      index.tracking.vacant (index.emptied name binding visiting).occupied
        binding.address.place = true :=
    (canonical.vacant_emptied_iff found).mpr
      ⟨⟨_, patternKept⟩, patternForgotten⟩
  refine .step (.start (List.mem_singleton_self _) patternVacant) ?_ isVacant
  refine Tracking.mem_neighbours.mpr ⟨raw, linked, ?_⟩
  simp [Place.across, Address.place, kind, Side.opposite]

/--
A tracked place whose text is not kept is the place of the ended binding, or
a routed text that is linked to the pattern of the ended binding.
-/
theorem own_or_linked_of_forgotten
    (canonical : Canonical index)
    (found : index.table.live[name]? = some binding)
    {place : Place}
    {segments : Segments}
    (kept : index.tracking.segments? place = some segments)
    (forgotten : ¬index.Remembered name place.name) :
    place = binding.address.place ∨
      binding.address.side = .pattern ∧
        place.side = .concrete ∧
          place.name ∈ index.tracking.routed ∧
            place.name ∈ index.tracking.links binding.address.place := by
  have read := canonical.read found
  obtain ⟨known, parsed, placed⟩ := canonical.kept.mp kept
  have ownPlace :
      binding.address.raw = place.name → place = binding.address.place := by
    intro own
    have same : binding.address = place.address segments :=
      Address.eq_of_parse read parsed own
    rw [same, placed]
  rcases known with isRouted | bound
  · have reaches :=
      canonical.reaches_of_routed_forgotten found isRouted forgotten
    cases kind : binding.address.side with
    | concrete =>
        exact Or.inl
          (ownPlace (Binding.raw_eq_of_reaches_of_concrete kind reaches))
    | pattern =>
        have linked :=
          (canonical.mem_links_or_own_iff read kind).mpr
            ⟨Or.inl (Or.inl isRouted), reaches⟩
        rw [canonical.track_of_live found] at linked
        rcases linked with linked | own
        · obtain ⟨_, address, parsedAddress, concrete⟩ :=
            canonical.routed isRouted
          have same : address = place.address segments :=
            Except.ok.inj (parsedAddress.symm.trans parsed)
          have placeSide : place.side = .concrete := by
            rw [← concrete, same]
            exact (congrArg Place.side placed).symm
          exact Or.inr ⟨rfl, placeSide, isRouted, linked⟩
        · exact Or.inl (ownPlace own)
  · exact Or.inl (ownPlace (own_of_bound_forgotten found bound forgotten))

/-- Eviction reaches every tracked place whose text is not kept. -/
theorem vacated_iff
    (canonical : Canonical index)
    (found : index.table.live[name]? = some binding)
    {place : Place}
    {segments : Segments}
    (kept : index.tracking.segments? place = some segments) :
    index.tracking.Vacated (index.emptied name binding visiting).occupied
        [binding.address.place] place ↔
      ¬index.Remembered name place.name := by
  constructor
  · intro vacated
    exact ((canonical.vacant_emptied_iff found).mp vacated.vacant).2
  · intro forgotten
    have isVacant :
        index.tracking.vacant (index.emptied name binding visiting).occupied
          place = true :=
      (canonical.vacant_emptied_iff found).mpr ⟨⟨segments, kept⟩, forgotten⟩
    rcases canonical.own_or_linked_of_forgotten found kept forgotten with
      own | ⟨kind, concrete, isRouted, linked⟩
    · exact .start (List.mem_singleton.mpr own) isVacant
    · -- The pattern itself is forgotten first, and its links lead here.
      rcases place with ⟨side, raw⟩
      cases concrete
      exact canonical.vacated_of_linked found kind isRouted linked isVacant

/-- A routed text stays routed exactly while a live binding reaches it. -/
theorem mem_routed_ended_iff
    (canonical : Canonical index)
    (found : index.table.live[name]? = some binding)
    {raw : String} :
    raw ∈ (index.ended name binding visiting).tracking.routed ↔
      raw ∈ index.tracking.routed ∧
        Ledger.Reached (index.table.live.erase name) index.tokens raw := by
  rw [Index.ended, Tracking.mem_routed_evict]
  constructor
  · intro stays
    obtain ⟨isRouted, notVacated⟩ := stays
    obtain ⟨_, address, parsed, _⟩ := canonical.routed isRouted
    have sameText : address.raw = raw := Address.raw_of_parse parsed
    subst sameText
    have kept :
        index.tracking.segments? address.place = some address.segments :=
      (canonical.kept_iff parsed).mpr ⟨Or.inl isRouted, rfl⟩
    refine ⟨isRouted, canonical.reached_of_remembered ?_⟩
    apply Classical.byContradiction
    intro forgotten
    exact notVacated address.side
      ((canonical.vacated_iff found kept).mpr forgotten)
  · intro stays
    obtain ⟨isRouted, reached⟩ := stays
    refine ⟨isRouted, fun side vacated => ?_⟩
    exact ((canonical.vacant_emptied_iff found).mp vacated.vacant).2
      (Or.inl ⟨isRouted, reached⟩)

theorem known_ended_iff
    (canonical : Canonical index)
    (found : index.table.live[name]? = some binding)
    {raw : String} :
    (index.ended name binding visiting).Known raw ↔
      index.Remembered name raw := by
  rw [Known, canonical.mem_routed_ended_iff found, live_ended]
  rfl

/-- Ending a binding keeps the canonical form. -/
theorem ended
    (canonical : Canonical index)
    (found : index.table.live[name]? = some binding) :
    Canonical (index.ended name binding visiting) := by
  refine
    { graph := canonical.graph.evict _ _
      noEmptySet :=
        (rearranged_emptied index name binding visiting).noEmptySet
          canonical.noEmptySet
      keyed := ?_
      read := ?_
      routed := ?_
      kept := ?_
      held := ?_ }
  · intro other held foundHeld
    rw [live_ended] at foundHeld
    exact canonical.keyed (live_erase_iff.mp foundHeld).2
  · intro other held foundHeld
    rw [live_ended] at foundHeld
    exact canonical.read (live_erase_iff.mp foundHeld).2
  · intro raw isRouted
    obtain ⟨wasRouted, reached⟩ :=
      (canonical.mem_routed_ended_iff found).mp isRouted
    rw [live_ended]
    exact ⟨reached, (canonical.routed wasRouted).2⟩
  · intro place segments
    rw [canonical.known_ended_iff found, Index.ended,
      Tracking.segments?_evict]
    constructor
    · intro stays
      obtain ⟨kept, notVacated⟩ := stays
      refine ⟨?_, (canonical.kept.mp kept).2⟩
      apply Classical.byContradiction
      exact notVacated ∘ (canonical.vacated_iff found kept).mpr
    · intro stays
      obtain ⟨remembered, parsed, placed⟩ := stays
      have kept := canonical.kept.mpr
        ⟨known_of_remembered remembered, parsed, placed⟩
      exact ⟨kept, fun vacated =>
        (canonical.vacated_iff found kept).mp vacated remembered⟩
  · intro raw other held
    rw [canonical.known_ended_iff found, live_ended]
    exact canonical.held_emptied_iff found

end Index.Canonical

end BrokerRouting
