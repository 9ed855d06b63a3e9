import BrokerRouting.Proofs.ChangedSets
import BrokerRouting.Proofs.EvictionClosure
import BrokerRouting.Proofs.LinkGraph
import BrokerRouting.Proofs.ReachedTexts

namespace BrokerRouting

/-!
# Sets that follow the links

A set is found by its text, and a link by the texts of its two ends.  As long
as no text is tracked both as a concrete address and as a pattern, the set of
a text holds the live bindings made for it and, at a concrete address, those
made for the patterns linked to it.  Nothing is supposed about the tokens that
the addresses were read with.
-/

namespace Tracking

/-- No text is tracked on both sides. -/
def SidesApart (tracking : Tracking) : Prop :=
  ∀ raw ∈ tracking.concrete.keys, raw ∉ tracking.patterns

instance (tracking : Tracking) : Decidable tracking.SidesApart :=
  inferInstanceAs
    (Decidable (∀ raw ∈ tracking.concrete.keys, raw ∉ tracking.patterns))

/-- What is made for one text belongs to another: the same, or one linked. -/
def Leads
    (tracking : Tracking)
    (origin raw : String) :
    Prop :=
  origin = raw ∨ origin ∈ tracking.links ⟨.concrete, raw⟩

section Tracks

variable
  {tracking : Tracking}
  {address : Address}
  {place : Place}
  {name : String}

theorem tracks_track_iff :
    (tracking.track address).tracks place = true ↔
      tracking.tracks place = true ∨ place = address.place := by
  cases tracked : tracking.tracks address.place with
  | true =>
      rw [track_of_tracked tracked]
      constructor
      · exact Or.inl
      · rintro (already | rfl)
        · exact already
        · exact tracked
  | false =>
      rw [tracks_iff, tracks_iff, segments?_track tracked]
      by_cases own : place = address.place <;> simp [own]

/-- Tracking an address adds only links that end at its place. -/
theorem mem_links_track_elsewhere
    (elsewhere : place ≠ address.place)
    (across : place.across name ≠ address.place) :
    name ∈ (tracking.track address).links place ↔
      name ∈ tracking.links place := by
  cases tracked : tracking.tracks address.place with
  | true =>
      rw [track_of_tracked tracked]
  | false =>
      rw [mem_links_track tracked]
      simp [elsewhere, across]

theorem tracks_evict_iff
    {occupied : String → Bool}
    {start : List Place} :
    (tracking.evict occupied start).tracks place = true ↔
      tracking.tracks place = true ∧
        ¬Vacated tracking occupied start place := by
  simp [tracks_iff, segments?_evict]

end Tracks

namespace LinkGraph

variable
  {tracking : Tracking}
  {place : Place}
  {name : String}

/-- Eviction leaves the links that join places it leaves. -/
theorem mem_links_evict_iff
    (graph : LinkGraph tracking)
    {occupied : String → Bool}
    {start : List Place} :
    name ∈ (tracking.evict occupied start).links place ↔
      name ∈ tracking.links place ∧
        ¬Vacated tracking occupied start place ∧
          ¬Vacated tracking occupied start (place.across name) :=
  graph.symmetric.mem_links_evict_iff

/-- Seen from a pattern, its bindings belong to its links as well. -/
theorem leads_iff
    (graph : LinkGraph tracking)
    {origin raw : String} :
    tracking.Leads origin raw ↔
      raw ∈ tracking.links ⟨.pattern, origin⟩ ∨ origin = raw := by
  rw [Leads, graph.mem_links_comm, or_comm]
  rfl

end LinkGraph

namespace SidesApart

variable
  {tracking : Tracking}
  {origin raw : String}

/-- A text is tracked at one place at most. -/
theorem place_eq
    (apart : SidesApart tracking)
    {first second : Place}
    (firstTracked : tracking.tracks first = true)
    (secondTracked : tracking.tracks second = true)
    (sameText : first.name = second.name) :
    first = second := by
  rcases first with ⟨firstSide, name⟩
  rcases second with ⟨secondSide, other⟩
  cases sameText
  have notBoth :
      tracking.tracks ⟨.concrete, name⟩ = true →
      tracking.tracks ⟨.pattern, name⟩ ≠ true :=
    fun concrete pattern =>
      apart name (Std.ExtTreeMap.mem_keys.mpr concrete) pattern
  cases firstSide <;> cases secondSide
  · rfl
  · exact (notBoth firstTracked secondTracked).elim
  · exact (notBoth secondTracked firstTracked).elim
  · rfl

/-- Fewer tracked places stand apart too. -/
theorem of_tracks
    (apart : SidesApart tracking)
    {fewer : Tracking}
    (tracked :
      ∀ {place : Place},
        fewer.tracks place = true → tracking.tracks place = true) :
    SidesApart fewer := by
  intro raw concrete pattern
  have sameSide : (⟨.concrete, raw⟩ : Place) = ⟨.pattern, raw⟩ :=
    apart.place_eq (tracked (Std.ExtTreeMap.mem_keys.mp concrete))
      (tracked pattern) rfl
  cases sameSide

/-- An address whose text is tracked nowhere keeps the sides apart. -/
theorem track
    (apart : SidesApart tracking)
    {address : Address}
    (fresh : ∀ side, tracking.tracks ⟨side, address.raw⟩ = false) :
    SidesApart (tracking.track address) := by
  have alone :
      ∀ {place : Place},
        (tracking.track address).tracks place = true →
        place.name = address.raw →
        place = address.place := by
    rintro ⟨side, name⟩ tracked rfl
    rcases tracks_track_iff.mp tracked with already | own
    · simp [fresh side] at already
    · exact own
  intro raw listed (pattern : Tracking.tracks _ ⟨.pattern, raw⟩ = true)
  have concrete :
      (tracking.track address).tracks ⟨.concrete, raw⟩ = true :=
    Std.ExtTreeMap.mem_keys.mp listed
  by_cases own : raw = address.raw
  · cases (alone concrete own).trans (alone pattern own).symm
  · have elsewhere : ∀ side, (⟨side, raw⟩ : Place) ≠ address.place :=
      fun side same => own (congrArg Place.name same)
    have concreteBefore :=
      (tracks_track_iff.mp concrete).resolve_right (elsewhere .concrete)
    have patternBefore :=
      (tracks_track_iff.mp pattern).resolve_right (elsewhere .pattern)
    cases apart.place_eq concreteBefore patternBefore rfl

/-- No text is linked to itself. -/
theorem not_mem_own_links
    (apart : SidesApart tracking)
    (graph : LinkGraph tracking)
    (place : Place) :
    place.name ∉ tracking.links place := by
  intro linked
  obtain ⟨tracked, trackedAcross⟩ := graph.tracks_ends linked
  exact place.across_ne place.name
    (apart.place_eq tracked trackedAcross rfl).symm

/-- Only its own bindings belong to a pattern. -/
theorem leads_to_pattern_iff
    (apart : SidesApart tracking)
    (graph : LinkGraph tracking)
    (tracked : tracking.tracks ⟨.pattern, raw⟩ = true) :
    tracking.Leads origin raw ↔ origin = raw := by
  rw [Leads, or_iff_left]
  intro linked
  cases apart.place_eq tracked (graph.tracks_ends linked).1 rfl

/-- What is made for a concrete address belongs nowhere else. -/
theorem leads_from_concrete_iff
    (apart : SidesApart tracking)
    (graph : LinkGraph tracking)
    (tracked : tracking.tracks ⟨.concrete, origin⟩ = true) :
    tracking.Leads origin raw ↔ origin = raw := by
  rw [Leads, or_iff_left]
  intro linked
  cases apart.place_eq tracked (graph.tracks_ends linked).2 rfl

end SidesApart

end Tracking

namespace Index

/-- The sets hold what belongs to their texts, and what is tracked has one. -/
structure HeldAlongLinks (index : Index) : Prop where
  graph : index.tracking.LinkGraph
  apart : index.tracking.SidesApart
  noEmptySet : index.table.NoEmptySet
  keyed : index.table.live.Keyed
  /-- The address of a live binding is tracked. -/
  tracked :
    ∀ {name : String} {binding : Binding},
      index.table.live[name]? = some binding →
      index.tracking.tracks binding.address.place = true
  occupied :
    ∀ {place : Place},
      index.tracking.tracks place = true →
      index.table.occupied place.name = true
  held :
    ∀ {raw name : String} {binding : Binding},
      (index.table.bindingsAt raw)[name]? = some binding ↔
        index.table.live[name]? = some binding ∧
          index.tracking.Leads binding.address.raw raw

/-- What makes the text of an ended binding keep its set. -/
def Lasting
    (index : Index)
    (name : String)
    (binding : Binding) :
    Prop :=
  binding.address.side = .pattern ∨
    binding.address.raw ∈ index.tracking.routed ∨
      Ledger.Bound (index.table.live.erase name) binding.address.raw

namespace HeldAlongLinks

variable
  {index : Index}
  {name : String}
  {binding : Binding}
  {visiting : Visiting}

theorem holdsLive (along : HeldAlongLinks index) : index.HoldsLive :=
  fun _ _ _ found => (along.held.mp found).1

theorem held_own
    (along : HeldAlongLinks index)
    (found : index.table.live[name]? = some binding) :
    (index.table.bindingsAt binding.address.raw)[name]? = some binding :=
  along.held.mpr ⟨found, Or.inl rfl⟩

/-- The text of a live binding is tracked as its address only. -/
theorem place_eq
    (along : HeldAlongLinks index)
    (found : index.table.live[name]? = some binding)
    {place : Place}
    (tracked : index.tracking.tracks place = true)
    (sameText : binding.address.raw = place.name) :
    binding.address.place = place :=
  along.apart.place_eq (along.tracked found) tracked sameText

/-- A set holds the ended binding where its links led. -/
theorem leads_of_held
    (along : HeldAlongLinks index)
    (found : index.table.live[name]? = some binding)
    {raw : String}
    {held : Binding}
    (foundHeld : (index.table.bindingsAt raw)[name]? = some held) :
    index.tracking.Leads binding.address.raw raw := by
  obtain ⟨foundLive, leads⟩ := along.held.mp foundHeld
  cases found.symm.trans foundLive
  exact leads

/-- A pattern's ended binding leaves every set that held it. -/
theorem held_emptied_of_pattern
    (along : HeldAlongLinks index)
    (found : index.table.live[name]? = some binding)
    (kind : binding.address.side = .pattern)
    {raw other : String}
    {held : Binding} :
    ((index.emptied name binding visiting).bindingsAt raw)[other]? =
        some held ↔
      (index.table.bindingsAt raw)[other]? = some held ∧
        other ≠ name := by
  have leaves :
      (index.table.bindingsAt raw)[name]? = some held →
      raw ∈ index.tracking.links binding.address.place ∨
        binding.address.raw = raw := by
    intro heldBefore
    rw [Address.place, kind]
    exact along.graph.leads_iff.mp (along.leads_of_held found heldBefore)
  rw [emptied_of_pattern kind, Table.bindingsAt_retract]
  simp only [Visiting.mem_order]
  by_cases linked : raw ∈ index.tracking.links binding.address.place
  · rw [if_pos linked, Bindings.getElem?_erase]
    by_cases same : name = other
    · simp [same]
    · rw [if_neg same, held_removed_iff]
      simp [Ne.symm same]
  · rw [if_neg linked, held_removed_iff]
    constructor
    · intro stays
      obtain ⟨heldBefore, notEnded⟩ := stays
      refine ⟨heldBefore, ?_⟩
      rintro rfl
      exact notEnded ⟨(leaves heldBefore).resolve_left linked, rfl⟩
    · intro stays
      obtain ⟨heldBefore, different⟩ := stays
      exact ⟨heldBefore, fun ended => different ended.2⟩

/-- A concrete binding was in the set of its own text only. -/
theorem held_removed_of_concrete
    (along : HeldAlongLinks index)
    (found : index.table.live[name]? = some binding)
    (kind : binding.address.side = .concrete)
    {raw other : String}
    {held : Binding} :
    ((index.removed name binding).bindingsAt raw)[other]? = some held ↔
      (index.table.bindingsAt raw)[other]? = some held ∧
        other ≠ name := by
  rw [held_removed_iff]
  constructor
  · intro stays
    obtain ⟨heldBefore, notEnded⟩ := stays
    refine ⟨heldBefore, ?_⟩
    rintro rfl
    have tracked := along.tracked found
    rw [Address.place, kind] at tracked
    exact notEnded
      ⟨(along.apart.leads_from_concrete_iff along.graph tracked).mp
        (along.leads_of_held found heldBefore), rfl⟩
  · intro stays
    obtain ⟨heldBefore, different⟩ := stays
    exact ⟨heldBefore, fun ended => different ended.2⟩

theorem ownsBinding_removed_iff
    (along : HeldAlongLinks index) :
    (index.removed name binding).ownsBinding binding.address.raw = true ↔
      Ledger.Bound (index.table.live.erase name)
        binding.address.raw := by
  rw [Table.ownsBinding_iff]
  constructor
  · intro owned
    obtain ⟨other, held, foundHeld, own⟩ := owned
    obtain ⟨heldBefore, notEnded⟩ := held_removed_iff.mp foundHeld
    have different : other ≠ name := fun same => notEnded ⟨rfl, same⟩
    exact ⟨other, held,
      live_erase_iff.mpr ⟨different, (along.held.mp heldBefore).1⟩, own⟩
  · intro boundThere
    obtain ⟨other, held, foundHeld, own⟩ := boundThere
    obtain ⟨different, foundLive⟩ := live_erase_iff.mp foundHeld
    refine ⟨other, held, held_removed_iff.mpr ⟨?_, ?_⟩, own⟩
    · exact own ▸ along.held_own foundLive
    · exact fun ended => different ended.2

/-- Nothing drawn in stays at a concrete text that is kept by nothing else. -/
theorem not_held_released
    (along : HeldAlongLinks index)
    (found : index.table.live[name]? = some binding)
    (kind : binding.address.side = .concrete)
    (unbound :
      ¬Ledger.Bound (index.table.live.erase name) binding.address.raw)
    {other : String}
    {held : Binding} :
    (((index.removed name binding).release binding.address.raw
        (visiting.order
          (index.tracking.links binding.address.place))).bindingsAt
      binding.address.raw)[other]? ≠ some held := by
  have notOwn :
      binding.address.raw ∉ index.tracking.links binding.address.place :=
    along.apart.not_mem_own_links along.graph binding.address.place
  intro foundHeld
  rw [Table.getElem?_bindingsAt_release (mt Visiting.mem_order.mp notOwn),
    along.held_removed_of_concrete found kind] at foundHeld
  obtain ⟨⟨heldBefore, different⟩, notDrawn⟩ := foundHeld
  obtain ⟨foundLive, own | linked⟩ := along.held.mp heldBefore
  · exact unbound
      ⟨other, held, live_erase_iff.mpr ⟨different, foundLive⟩, own⟩
  · have placed :
        binding.address.place = ⟨.concrete, binding.address.raw⟩ := by
      rw [Address.place, kind]
    refine notDrawn held.address.raw
      (Visiting.mem_order.mpr (placed ▸ linked)) ?_
    rw [Std.ExtTreeMap.mem_iff_isSome_getElem?,
      (along.held_removed_of_concrete found kind).mpr
        ⟨along.held_own foundLive, different⟩]
    rfl

theorem lasting_iff_of_concrete
    (along : HeldAlongLinks index)
    (name : String)
    (kind : binding.address.side = .concrete) :
    (binding.address.raw ∈ index.tracking.routed ||
        (index.removed name binding).ownsBinding binding.address.raw) =
          true ↔
      Lasting index name binding := by
  rw [Bool.or_eq_true, decide_eq_true_iff, along.ownsBinding_removed_iff,
    Lasting]
  simp [kind]

/-- The sets lose the ended binding, and a text that is not kept loses all. -/
theorem held_emptied_iff
    (along : HeldAlongLinks index)
    (found : index.table.live[name]? = some binding)
    {raw other : String}
    {held : Binding} :
    ((index.emptied name binding visiting).bindingsAt raw)[other]? =
        some held ↔
      ((index.table.bindingsAt raw)[other]? = some held ∧
          other ≠ name) ∧
        (binding.address.raw = raw → Lasting index name binding) := by
  cases kind : binding.address.side with
  | pattern =>
      have lasting : Lasting index name binding := Or.inl kind
      rw [along.held_emptied_of_pattern found kind]
      simp [lasting]
  | concrete =>
      have lastingIff := along.lasting_iff_of_concrete name kind
      rw [emptied_of_concrete kind]
      by_cases lasting : Lasting index name binding
      · rw [if_pos (lastingIff.mpr lasting),
          along.held_removed_of_concrete found kind]
        simp [lasting]
      · rw [if_neg (lasting ∘ lastingIff.mp)]
        by_cases own : binding.address.raw = raw
        · subst own
          have unbound :
              ¬Ledger.Bound (index.table.live.erase name)
                binding.address.raw :=
            fun bound => lasting (Or.inr (Or.inr bound))
          simp [along.not_held_released found kind unbound, lasting]
        · rw [Table.bindingsAt_release_other _ _ own,
            along.held_removed_of_concrete found kind]
          simp [own]

end HeldAlongLinks

end Index

end BrokerRouting
