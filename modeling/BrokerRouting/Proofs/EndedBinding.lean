import BrokerRouting.Proofs.UndoneBinding

namespace BrokerRouting

/-!
# What ending a binding takes away

Besides the binding itself only tracked addresses go: those that no other
live binding reaches, and the concrete address of the binding if nothing but
the binding kept it.  Whatever stays keeps its segments, its links to what
stays, and the other bindings of its set.
-/

namespace Index

/--
A tracked place is given up with the binding of a name if no other live
binding reaches it.  The binding's own concrete address is also given up,
whatever reaches it, unless it was first tracked by sending to it or another
live binding was made for it.
-/
def GivenUp
    (index : Index)
    (name : String)
    (binding : Binding)
    (place : Place) : Prop :=
  index.tracking.tracks place = true ∧
    (¬Ledger.Reached (index.table.live.erase name) index.tokens place.name ∨
      place = binding.address.place ∧
        binding.address.side = .concrete ∧
          binding.address.raw ∉ index.tracking.routed ∧
            ¬Ledger.Bound (index.table.live.erase name)
              binding.address.raw)

/-- What an index is left with when the binding of a name has ended. -/
structure Relinquishes
    (index : Index)
    (name : String)
    (binding : Binding)
    (next : Index) : Prop where
  live : next.table.live = index.table.live.erase name
  /-- No set holds the name any more. -/
  unheld :
    ∀ raw bindings, next.lookup? raw = some bindings → name ∉ bindings
  /-- Exactly what is given up is evicted. -/
  tracks :
    ∀ place,
      next.tracking.tracks place = true ↔
        index.tracking.tracks place = true ∧
          ¬index.GivenUp name binding place
  /-- That is the address of the binding or a concrete one linked to it. -/
  nearby :
    ∀ place,
      index.GivenUp name binding place →
      place = binding.address.place ∨
        place.side = .concrete ∧
          place ∈ index.tracking.neighbours binding.address.place
  /-- What is given up has no set any more. -/
  vacated :
    ∀ place,
      index.GivenUp name binding place → next.lookup? place.name = none
  /-- What stays loses the name from its set and nothing else. -/
  sets :
    ∀ place,
      next.tracking.tracks place = true →
      ∃ bindings,
        index.lookup? place.name = some bindings ∧
          next.lookup? place.name = some (bindings.erase name)
  segments :
    ∀ place,
      next.tracking.tracks place = true →
      next.tracking.segments? place = index.tracking.segments? place
  /-- Links between addresses that stay are what they were. -/
  links :
    ∀ place other,
      next.tracking.tracks place = true →
      next.tracking.tracks (place.across other) = true →
      (other ∈ next.tracking.links place ↔
        other ∈ index.tracking.links place)
  /-- No link leads from or to an address that is gone. -/
  linkEnds :
    ∀ place other,
      other ∈ next.tracking.links place →
      next.tracking.tracks place = true ∧
        next.tracking.tracks (place.across other) = true
  /-- The texts that are routed no more are those given up. -/
  routed :
    ∀ raw,
      raw ∈ next.tracking.routed ↔
        raw ∈ index.tracking.routed ∧
          ¬index.GivenUp name binding ⟨.concrete, raw⟩
  /-- A routed or still bound text keeps all that others brought there. -/
  mirrors :
    ∀ raw other,
      (raw ∈ index.tracking.routed ∨
        Ledger.Bound (index.table.live.erase name) raw) →
      other ≠ name →
      (next.table.bindingsAt raw)[other]? =
        (index.table.bindingsAt raw)[other]?

namespace Canonical

variable
  {index : Index}
  {name : String}
  {binding : Binding}
  {place : Place}

/-- Two places of one text that reads as an address are the same place. -/
theorem place_eq_iff
    (canonical : Canonical index)
    (found : index.table.live[name]? = some binding)
    {segments : Segments}
    (kept : index.tracking.segments? place = some segments) :
    place = binding.address.place ↔ binding.address.raw = place.name := by
  obtain ⟨_, parsed, placed⟩ := canonical.kept.mp kept
  constructor
  · rintro rfl
    rfl
  · intro own
    have same : binding.address = place.address segments :=
      Address.eq_of_parse (canonical.read found) parsed own
    rw [same, placed]

/-- Of the tracked addresses those are given up that do not stay known. -/
theorem givenUp_iff
    (canonical : Canonical index)
    (found : index.table.live[name]? = some binding) :
    index.GivenUp name binding place ↔
      index.tracking.tracks place = true ∧
        ¬index.Remembered name place.name := by
  apply and_congr_right
  intro tracked
  obtain ⟨segments, kept⟩ := Tracking.tracks_iff.mp tracked
  have known := (canonical.kept.mp kept).1
  by_cases reached :
      Ledger.Reached (index.table.live.erase name) index.tokens place.name
  · have ownPlace := canonical.place_eq_iff found kept
    have notPattern :
        binding.address.side = .concrete ↔
          ¬binding.address.side = .pattern := by
      cases binding.address.side <;> simp
    rw [canonical.remembered_iff found reached, ownPlace, notPattern]
    simp [reached, known, Lasting]
  · have forgotten : ¬index.Remembered name place.name :=
      fun remembered => reached (canonical.reached_of_remembered remembered)
    simp [reached, forgotten]

/-- Segments stay exactly where the text stays known. -/
theorem segments?_ended_iff
    (canonical : Canonical index)
    (found : index.table.live[name]? = some binding)
    {segments : Segments} :
    (index.ended name binding).tracking.segments? place = some segments ↔
      index.tracking.segments? place = some segments ∧
        index.Remembered name place.name := by
  rw [(canonical.ended found).kept, canonical.known_ended_iff found,
    canonical.kept]
  constructor
  · rintro ⟨remembered, reads⟩
    exact ⟨⟨known_of_remembered remembered, reads⟩, remembered⟩
  · rintro ⟨⟨_, reads⟩, remembered⟩
    exact ⟨remembered, reads⟩

theorem tracks_ended_iff
    (canonical : Canonical index)
    (found : index.table.live[name]? = some binding) :
    (index.ended name binding).tracking.tracks place = true ↔
      index.tracking.tracks place = true ∧
        index.Remembered name place.name := by
  simp only [Tracking.tracks_iff, canonical.segments?_ended_iff found,
    exists_and_right]

/-- On a text that stays known the set loses just the ended binding. -/
theorem bindingsAt_ended
    (canonical : Canonical index)
    (found : index.table.live[name]? = some binding)
    {raw : String}
    (lasting : binding.address.raw = raw → Lasting index name binding) :
    (index.ended name binding).table.bindingsAt raw =
      (index.table.bindingsAt raw).erase name := by
  apply TextMap.eq_of_entries
  intro other held
  have emptied :
      ((index.ended name binding).table.bindingsAt raw)[other]? =
          some held ↔
        (index.table.bindingsAt raw)[other]? = some held ∧ other ≠ name :=
    (canonical.heldAlongLinks.held_emptied_iff found).trans
      (and_iff_left lasting)
  rw [emptied, Bindings.getElem?_erase]
  by_cases same : name = other
  · simp [same]
  · simp [same, Ne.symm same]

/-- A text that stays known is kept for its own sake if it was bound. -/
theorem lasting_of_remembered
    (canonical : Canonical index)
    (found : index.table.live[name]? = some binding)
    {raw : String}
    (remembered : index.Remembered name raw) :
    binding.address.raw = raw → Lasting index name binding :=
  ((canonical.remembered_iff found
    (canonical.reached_of_remembered remembered)).mp remembered).2

theorem lookup?_ended
    (canonical : Canonical index)
    (found : index.table.live[name]? = some binding)
    {raw : String}
    (remembered : index.Remembered name raw) :
    ∃ bindings,
      index.lookup? raw = some bindings ∧
        (index.ended name binding).lookup? raw =
          some (bindings.erase name) := by
  have known : index.Known raw := known_of_remembered remembered
  have knownNext : (index.ended name binding).Known raw :=
    (canonical.known_ended_iff found).mpr remembered
  have lasting := canonical.lasting_of_remembered found remembered
  exact ⟨index.table.bindingsAt raw,
    Table.lookup?_eq_some_iff.mpr
      ⟨canonical.occupied_iff.mpr known, rfl⟩,
    Table.lookup?_eq_some_iff.mpr
      ⟨(canonical.ended found).occupied_iff.mpr knownNext,
        (canonical.bindingsAt_ended found lasting).symm⟩⟩

theorem mem_links_ended_iff
    (canonical : Canonical index)
    (found : index.table.live[name]? = some binding)
    {other : String} :
    other ∈ (index.ended name binding).tracking.links place ↔
      other ∈ index.tracking.links place ∧
        index.Remembered name place.name ∧
          index.Remembered name other := by
  rw [(canonical.ended found).graph.mem_links_iff,
    canonical.graph.mem_links_iff]
  simp only [canonical.segments?_ended_iff found]
  constructor
  · rintro ⟨own, across, ⟨kept, remembered⟩,
      ⟨keptAcross, rememberedAcross⟩, met⟩
    exact ⟨⟨own, across, kept, keptAcross, met⟩, remembered,
      rememberedAcross⟩
  · rintro ⟨⟨own, across, kept, keptAcross, met⟩, remembered,
      rememberedAcross⟩
    exact ⟨own, across, ⟨kept, remembered⟩,
      ⟨keptAcross, rememberedAcross⟩, met⟩

/-- A routed text that nothing reaches any more is given up. -/
theorem mem_routed_ended_iff_givenUp
    (canonical : Canonical index)
    (found : index.table.live[name]? = some binding)
    {raw : String} :
    raw ∈ (index.ended name binding).tracking.routed ↔
      raw ∈ index.tracking.routed ∧
        ¬index.GivenUp name binding ⟨.concrete, raw⟩ := by
  rw [canonical.mem_routed_ended_iff found, canonical.givenUp_iff found]
  apply and_congr_right
  intro isRouted
  have tracked : index.tracking.tracks ⟨.concrete, raw⟩ = true :=
    canonical.mem_concrete_iff.mpr (Or.inl isRouted)
  constructor
  · rintro reached ⟨_, forgotten⟩
    exact forgotten (Or.inl ⟨isRouted, reached⟩)
  · intro staying
    apply canonical.reached_of_remembered
    apply Classical.byContradiction
    intro forgotten
    exact staying ⟨tracked, forgotten⟩

/-- What unbinding takes away is exactly what nothing keeps. -/
theorem relinquishes
    (canonical : Canonical index)
    (found : index.table.live[name]? = some binding) :
    index.Relinquishes name binding (index.ended name binding) := by
  have next : Canonical (index.ended name binding) := canonical.ended found
  have staying :
      ∀ {place : Place},
        (index.ended name binding).tracking.tracks place = true →
        index.tracking.tracks place = true ∧
          index.Remembered name place.name :=
    (canonical.tracks_ended_iff found).mp
  refine
    { live := live_ended index name binding _
      unheld := ?_
      tracks := ?_
      nearby := ?_
      vacated := ?_
      sets := ?_
      segments := ?_
      links := ?_
      linkEnds := ?_
      routed := fun _ => canonical.mem_routed_ended_iff_givenUp found
      mirrors := ?_ }
  · intro raw bindings set held
    obtain ⟨_, rfl⟩ := Table.lookup?_eq_some_iff.mp set
    obtain ⟨other, foundOther⟩ :=
      Option.isSome_iff_exists.mp
        (Std.ExtTreeMap.mem_iff_isSome_getElem?.mp held)
    have stillLive := (next.held.mp foundOther).2.1
    simp [live_ended] at stillLive
  · intro place
    rw [canonical.tracks_ended_iff found, canonical.givenUp_iff found]
    apply and_congr_right
    intro tracked
    simp [tracked]
  · intro place givenUp
    obtain ⟨tracked, forgotten⟩ := (canonical.givenUp_iff found).mp givenUp
    obtain ⟨segments, kept⟩ := Tracking.tracks_iff.mp tracked
    rcases canonical.own_or_linked_of_forgotten found kept forgotten with
      own | ⟨kind, concrete, _, linked⟩
    · exact Or.inl own
    · refine Or.inr ⟨concrete, Tracking.mem_neighbours.mpr
        ⟨place.name, linked, ?_⟩⟩
      rcases place with ⟨side, raw⟩
      cases concrete
      simp [Place.across, Address.place, kind, Side.opposite]
  · intro place givenUp
    have forgotten := ((canonical.givenUp_iff found).mp givenUp).2
    rw [next.lookup?_eq_none_iff, canonical.known_ended_iff found]
    exact forgotten
  · intro place tracked
    exact canonical.lookup?_ended found (staying tracked).2
  · intro place tracked
    have remembered := (staying tracked).2
    apply Option.ext
    intro segments
    rw [canonical.segments?_ended_iff found]
    exact and_iff_left remembered
  · intro place other tracked trackedAcross
    rw [canonical.mem_links_ended_iff found]
    exact and_iff_left
      ⟨(staying tracked).2, (staying trackedAcross).2⟩
  · intro place other linked
    obtain ⟨own, across, kept, keptAcross, _⟩ :=
      next.graph.mem_links_iff.mp linked
    exact ⟨Tracking.tracks_iff.mpr ⟨own, kept⟩,
      Tracking.tracks_iff.mpr ⟨across, keptAcross⟩⟩
  · intro raw other keeping different
    have lasting :
        binding.address.raw = raw → Lasting index name binding := by
      rintro rfl
      exact Or.inr keeping
    rw [canonical.bindingsAt_ended found lasting, Bindings.getElem?_erase,
      if_neg (Ne.symm different)]

end Canonical

end Index

/--
Wherever a history over read addresses leads, unbinding a live name succeeds
and gives its binding back.  The name is gone from the live bindings and from
every set, exactly the addresses that nothing keeps are evicted, and all else
that is kept about the others stays: their segments, sets, links and mirrors.
-/
theorem unbind_evicts_what_nothing_keeps
    {tokens : Tokens}
    {history : History}
    (read : ∀ change ∈ history, change.ReadWith tokens)
    {name : String}
    {binding : Binding}
    (found : (Index.after tokens history).find? name = some binding) :
    let index := Index.after tokens history
    ∃ next,
      index.unbind name = .ok (binding, next) ∧
        index.Relinquishes name binding next := by
  intro index
  obtain ⟨_, canonical⟩ := Index.Canonical.after read
  exact ⟨index.ended name binding, Index.unbind_of_live found,
    canonical.relinquishes found⟩

/-- A bound text goes although a pattern covers it; a routed one stays. -/
theorem unbind_evicts_covered_text :
    let audit : Binding :=
      ⟨"audit", ⟨"orders.*", [.literal "orders", .singleWord]⟩, "log"⟩
    let ship : Binding :=
      ⟨"ship", ⟨"orders.eu", [.literal "orders", .literal "eu"]⟩, "van"⟩
    let history : History :=
      [.bind audit, .bind ship, .route "orders.us"]
    let index := Index.after {} history
    index.find? "ship" = some ship ∧
      ∃ next,
        index.unbind "ship" = .ok (ship, next) ∧
          index.Relinquishes "ship" ship next ∧
            next.contains "orders.eu" = false ∧
              next.contains "orders.us" = true ∧
                next.linked "orders.*" = .ofList ["orders.us"] := by
  intro audit ship history index
  have read : ∀ change ∈ history, change.ReadWith {} := by
    have auditRead : audit.ReadWith {} := by
      change Address.parse {} "orders.*" = _
      rfl
    have shipRead : ship.ReadWith {} := by
      change Address.parse {} "orders.eu" = _
      rfl
    simp only [history, List.forall_mem_cons]
    exact ⟨auditRead, shipRead, trivial, by simp⟩
  have found : index.find? "ship" = some ship := by
    decide +kernel
  obtain ⟨next, unbound, relinquished⟩ :=
    unbind_evicts_what_nothing_keeps read found
  have nextEq : index.apply (.unbind "ship") = next := by
    have unbound : index.unbind "ship" = .ok (ship, next) := unbound
    simp [Index.apply, Index.make, unbound]
  refine ⟨found, next, unbound, relinquished, ?_⟩
  rw [← nextEq]
  decide +kernel

end BrokerRouting
