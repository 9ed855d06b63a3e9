import BrokerRouting.Proofs.ChangedSets
import BrokerRouting.Proofs.EvictionClosure
import BrokerRouting.Proofs.LinkGraph
import BrokerRouting.Proofs.ReachedTexts

namespace BrokerRouting

/-!
# The canonical form of an index

As long as addresses are read with the tokens of the index, the live bindings
and the routed texts decide everything else it keeps.  A text is known when a
live binding was made for it or it is routed; the tracked addresses are the
known ones, and the set of a known text holds the live bindings that reach it.
-/

namespace Index

/-- A text that is routed, or for which a live binding was made. -/
def Known
    (index : Index)
    (raw : String) :
    Prop :=
  raw ∈ index.tracking.routed ∨ Ledger.Bound index.table.live raw

/-- Everything kept follows from the live bindings and the routed texts. -/
structure Canonical (index : Index) : Prop where
  graph : index.tracking.LinkGraph
  noEmptySet : index.table.NoEmptySet
  keyed : index.table.live.Keyed
  read :
    ∀ {name : String} {binding : Binding},
      index.table.live[name]? = some binding →
      binding.ReadWith index.tokens
  routed :
    ∀ {raw : String},
      raw ∈ index.tracking.routed →
      Ledger.Reached index.table.live index.tokens raw ∧
        ∃ address,
          Address.parse index.tokens raw = .ok address ∧
            address.side = .concrete
  kept :
    ∀ {place : Place} {segments : Segments},
      index.tracking.segments? place = some segments ↔
        index.Known place.name ∧
          Address.parse index.tokens place.name =
              .ok (place.address segments) ∧
            (place.address segments).place = place
  held :
    ∀ {raw name : String} {binding : Binding},
      (index.table.bindingsAt raw)[name]? = some binding ↔
        index.Known raw ∧
          index.table.live[name]? = some binding ∧
            binding.Reaches index.tokens raw

namespace Canonical

variable
  {index : Index}
  {address : Address}
  {raw : String}

theorem holdsLive (canonical : Canonical index) : index.HoldsLive :=
  fun _ _ _ found => (canonical.held.mp found).2.1

theorem reached_of_known
    (canonical : Canonical index)
    (known : index.Known raw) :
    Ledger.Reached index.table.live index.tokens raw := by
  rcases known with isRouted | ⟨name, binding, found, rfl⟩
  · exact (canonical.routed isRouted).1
  · exact ⟨name, binding, found, (canonical.read found).reaches_own⟩

/-- A text has a set exactly when it is known. -/
theorem occupied_iff
    (canonical : Canonical index) :
    index.table.occupied raw = true ↔ index.Known raw := by
  rw [canonical.noEmptySet.occupied_iff]
  constructor
  · intro holds
    obtain ⟨name, binding, found⟩ := holds
    exact (canonical.held.mp found).1
  · intro known
    obtain ⟨name, binding, found, reached⟩ :=
      canonical.reached_of_known known
    exact ⟨name, binding, canonical.held.mpr ⟨known, found, reached⟩⟩

theorem kept_iff
    (canonical : Canonical index)
    (parsed : Address.parse index.tokens address.raw = .ok address)
    {segments : Segments} :
    index.tracking.segments? address.place = some segments ↔
      index.Known address.raw ∧ address.segments = segments := by
  rw [canonical.kept]
  constructor
  · intro keptThere
    obtain ⟨known, parsedAgain, _⟩ := keptThere
    have same := Except.ok.inj (parsed.symm.trans parsedAgain)
    exact ⟨known, congrArg Address.segments same⟩
  · intro knownThere
    obtain ⟨known, rfl⟩ := knownThere
    exact ⟨known, parsed, rfl⟩

/-- An address is tracked exactly when its text is known. -/
theorem tracks_iff
    (canonical : Canonical index)
    (parsed : Address.parse index.tokens address.raw = .ok address) :
    index.tracking.tracks address.place = true ↔
      index.Known address.raw := by
  rw [Tracking.tracks_iff]
  constructor
  · intro keptThere
    obtain ⟨segments, kept⟩ := keptThere
    exact ((canonical.kept_iff parsed).mp kept).1
  · intro known
    exact ⟨_, (canonical.kept_iff parsed).mpr ⟨known, rfl⟩⟩

/-- Tracking an address that was read adds its own text and no other. -/
theorem kept_track_iff
    (canonical : Canonical index)
    (parsed : Address.parse index.tokens address.raw = .ok address)
    {place : Place}
    {segments : Segments} :
    (index.tracking.track address).segments? place = some segments ↔
      (index.Known place.name ∨ address.raw = place.name) ∧
        Address.parse index.tokens place.name =
            .ok (place.address segments) ∧
          (place.address segments).place = place := by
  cases tracked : index.tracking.tracks address.place with
  | true =>
      have known := (canonical.tracks_iff parsed).mp tracked
      have absorbed :
          index.Known place.name ∨ address.raw = place.name ↔
            index.Known place.name := by
        constructor
        · intro knownOrOwn
          rcases knownOrOwn with known | own
          · exact known
          · exact own ▸ known
        · exact Or.inl
      rw [Tracking.track_of_tracked tracked, absorbed]
      exact canonical.kept
  | false =>
      rw [Tracking.segments?_track tracked]
      by_cases own : place = address.place
      · subst own
        rw [if_pos rfl]
        constructor
        · intro same
          cases same
          exact ⟨Or.inr rfl, parsed, rfl⟩
        · intro knownThere
          obtain ⟨_, parsedAgain, _⟩ := knownThere
          have same := Except.ok.inj (parsed.symm.trans parsedAgain)
          exact congrArg (some ∘ Address.segments) same
      · rw [if_neg own, canonical.kept]
        constructor
        · intro keptThere
          obtain ⟨known, parsedPlace, placed⟩ := keptThere
          exact ⟨Or.inl known, parsedPlace, placed⟩
        · intro keptThere
          rcases keptThere with ⟨known | sameText, parsedPlace, placed⟩
          · exact ⟨known, parsedPlace, placed⟩
          · have same : address = place.address segments :=
              Address.eq_of_parse parsed parsedPlace sameText
            rw [← same] at placed
            exact (own placed.symm).elim

/-- The known texts across that an address meets are linked to it. -/
theorem mem_links_track_iff
    (canonical : Canonical index)
    (parsed : Address.parse index.tokens address.raw = .ok address)
    {name : String} :
    name ∈ (index.tracking.track address).links address.place ↔
      index.Known name ∧
        ∃ other,
          Address.parse index.tokens name = .ok other ∧
            other.place = address.place.across name ∧
              address.meets other.segments = true := by
  have acrossIff :
      (∃ other,
          index.tracking.segments? (address.place.across name) =
              some other ∧
            address.meets other = true) ↔
        index.Known name ∧
          ∃ other,
            Address.parse index.tokens name = .ok other ∧
              other.place = address.place.across name ∧
                address.meets other.segments = true := by
    constructor
    · intro meeting
      obtain ⟨other, kept, met⟩ := meeting
      obtain ⟨known, parsedAcross, placed⟩ := canonical.kept.mp kept
      exact ⟨known, _, parsedAcross, placed, met⟩
    · intro meeting
      obtain ⟨known, other, parsedAcross, placed, met⟩ := meeting
      have named : other.raw = name := congrArg Place.name placed
      subst named
      rw [← placed]
      exact ⟨_, (canonical.kept_iff parsedAcross).mpr ⟨known, rfl⟩, met⟩
  rw [← acrossIff]
  cases tracked : index.tracking.tracks address.place with
  | true =>
      have own :
          index.tracking.segments? address.place = some address.segments :=
        (canonical.kept_iff parsed).mpr
          ⟨(canonical.tracks_iff parsed).mp tracked, rfl⟩
      rw [Tracking.track_of_tracked tracked, canonical.graph.mem_links_iff,
        own]
      simp
  | false =>
      rw [Tracking.mem_links_track tracked, if_pos rfl]

/-- Besides its own text, a pattern's links are the known texts it reaches. -/
theorem mem_links_or_own_iff
    (canonical : Canonical index)
    {binding : Binding}
    (read : binding.ReadWith index.tokens)
    (kind : binding.address.side = .pattern) :
    (raw ∈ (index.tracking.track binding.address).links
          binding.address.place ∨
        binding.address.raw = raw) ↔
      (index.Known raw ∨ binding.address.raw = raw) ∧
        binding.Reaches index.tokens raw := by
  rw [canonical.mem_links_track_iff read]
  constructor
  · intro linkedOrOwn
    rcases linkedOrOwn with ⟨known, other, parsed, placed, met⟩ | rfl
    · obtain ⟨otherSide, _⟩ := Address.place_eq_across_iff.mp placed
      rw [kind] at otherSide
      rw [Address.meets_of_pattern kind] at met
      exact ⟨Or.inl known,
        (Binding.reaches_iff parsed).mpr
          (Or.inr ⟨otherSide, kind, met⟩)⟩
    · exact ⟨Or.inr rfl, read.reaches_own⟩
  · intro arrives
    rcases arrives with ⟨known | own, reached⟩
    · obtain ⟨other, parsed⟩ := reached.parsed
      rcases (Binding.reaches_iff parsed).mp reached with
        own | ⟨otherSide, _, met⟩
      · exact Or.inr own
      · refine Or.inl ⟨known, other, parsed, ?_, ?_⟩
        · rw [Address.place_eq_across_iff, kind]
          exact ⟨otherSide, Address.raw_of_parse parsed⟩
        · rw [Address.meets_of_pattern kind]
          exact met
    · exact Or.inr own

/-- The patterns linked to a concrete address hold what covers it. -/
theorem held_across_iff
    (canonical : Canonical index)
    (parsed : Address.parse index.tokens address.raw = .ok address)
    (kind : address.side = .concrete)
    {name : String}
    {binding : Binding} :
    (∃ pattern ∈
        (index.tracking.track address).links address.place,
        (index.table.bindingsAt pattern)[name]? = some binding) ↔
      index.table.live[name]? = some binding ∧
        binding.address.side = .pattern ∧
          binding.address.covers address = true := by
  constructor
  · intro drawn
    obtain ⟨pattern, linked, held⟩ := drawn
    obtain ⟨_, other, otherParsed, placed, met⟩ :=
      (canonical.mem_links_track_iff parsed).mp linked
    obtain ⟨_, found, reached⟩ := canonical.held.mp held
    obtain ⟨otherSide, _⟩ := Address.place_eq_across_iff.mp placed
    rw [kind] at otherSide
    have sameText : binding.address.raw = other.raw :=
      (Binding.raw_eq_of_reaches_pattern otherParsed otherSide reached).trans
        (Address.raw_of_parse otherParsed).symm
    have sameAddress : binding.address = other :=
      Address.eq_of_parse (canonical.read found)
        (Address.parse_raw otherParsed) sameText
    rw [Address.meets_of_concrete kind] at met
    exact ⟨found, sameAddress ▸ otherSide, sameAddress ▸ met⟩
  · intro covering
    obtain ⟨found, patternSide, covered⟩ := covering
    have read := canonical.read found
    have known : index.Known binding.address.raw :=
      Or.inr ⟨name, binding, found, rfl⟩
    refine ⟨binding.address.raw, ?_, ?_⟩
    · rw [canonical.mem_links_track_iff parsed]
      refine ⟨known, binding.address, read, ?_, ?_⟩
      · rw [Address.place_eq_across_iff, kind]
        exact ⟨patternSide, rfl⟩
      · rw [Address.meets_of_concrete kind]
        exact covered
    · exact canonical.held.mpr ⟨known, found, read.reaches_own⟩

/-- Nothing but patterns reaches a concrete address nobody is bound to. -/
theorem reaches_of_unknown_iff
    (parsed : Address.parse index.tokens raw = .ok address)
    (kind : address.side = .concrete)
    (unknown : ¬index.Known raw)
    {name : String}
    {binding : Binding}
    (found : index.table.live[name]? = some binding) :
    binding.Reaches index.tokens raw ↔
      binding.address.side = .pattern ∧
        binding.address.covers address = true := by
  rw [Binding.reaches_iff parsed]
  constructor
  · intro arrives
    rcases arrives with own | ⟨_, reaches⟩
    · exact (unknown (Or.inr ⟨name, binding, found, own⟩)).elim
    · exact reaches
  · intro reaches
    exact Or.inr ⟨kind, reaches⟩

theorem not_mem_own_links
    (canonical : Canonical index)
    (parsed : Address.parse index.tokens address.raw = .ok address) :
    address.raw ∉
      (index.tracking.track address).links address.place := by
  intro member
  obtain ⟨_, other, otherParsed, placed, _⟩ :=
    (canonical.mem_links_track_iff parsed).mp member
  have same : address = other :=
    Except.ok.inj (parsed.symm.trans otherParsed)
  rw [← same] at placed
  exact address.place.across_ne address.raw placed.symm

/--
A concrete address draws in exactly the live bindings on patterns that cover
it, whatever else is in its own set.
-/
theorem held_drawIn_iff
    (canonical : Canonical index)
    (parsed : Address.parse index.tokens address.raw = .ok address)
    (kind : address.side = .concrete)
    {table : Table}
    {live : Bindings}
    {visiting : Visiting}
    (keyed : live.Keyed)
    (within : ∀ text, (table.bindingsAt text).Within live)
    (elsewhere :
      ∀ {text},
        address.raw ≠ text →
        table.bindingsAt text = index.table.bindingsAt text)
    {name : String}
    {binding : Binding} :
    ((table.drawIn address.raw
        (visiting.order
          ((index.tracking.track address).links
            address.place))).bindingsAt address.raw)[name]? =
        some binding ↔
      (table.bindingsAt address.raw)[name]? = some binding ∨
        index.table.live[name]? = some binding ∧
          binding.address.side = .pattern ∧
            binding.address.covers address = true := by
  have apart := canonical.not_mem_own_links parsed
  rw [Table.getElem?_bindingsAt_drawIn keyed within
      (mt Visiting.mem_order.mp apart),
    ← canonical.held_across_iff parsed kind]
  simp only [Visiting.mem_order]
  have sameAcross :
      ∀ pattern ∈ (index.tracking.track address).links address.place,
        table.bindingsAt pattern = index.table.bindingsAt pattern :=
    fun pattern linked => elsewhere fun same => apart (same ▸ linked)
  apply or_congr_right
  constructor
  · intro drawn
    obtain ⟨pattern, linked, found⟩ := drawn
    exact ⟨pattern, linked, sameAcross pattern linked ▸ found⟩
  · intro drawn
    obtain ⟨pattern, linked, found⟩ := drawn
    exact ⟨pattern, linked, (sameAcross pattern linked).symm ▸ found⟩

end Canonical

end Index

end BrokerRouting
