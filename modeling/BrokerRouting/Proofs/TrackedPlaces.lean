import BrokerRouting.Index.Eviction

namespace BrokerRouting

/-!
# Tracked places

Tracked addresses are viewed through two functions of a place, the segments
kept there and the names linked to it.  Tracking an address and forgetting a
place get one law for each view, and no later proof looks into the two maps
behind them.
-/

namespace Place

/-- The place of a name on the other side. -/
def across
    (place : Place)
    (name : String) :
    Place where
  side := place.side.opposite
  name := name

/-- The address that stands at a place with some segments. -/
def address
    (place : Place)
    (segments : Segments) :
    Address where
  raw := place.name
  segments := segments

@[simp]
theorem across_across
    (place : Place)
    (name : String) :
    (place.across name).across place.name = place := by
  simp [across]

theorem across_across_eq_iff
    {place : Place}
    {first second : String} :
    (place.across first).across second = place ↔
      second = place.name := by
  rcases place with ⟨side, name⟩
  simp [across]

theorem across_ne
    (place : Place)
    (name : String) :
    place.across name ≠ place := by
  rcases place with ⟨side, own⟩
  cases side <;> simp [across, Side.opposite]

end Place

namespace Side

theorem opposite_ne (side : Side) : side.opposite ≠ side := by
  cases side <;> simp [opposite]

theorem eq_or_eq_opposite (first second : Side) :
    first = second ∨ first = second.opposite := by
  cases first <;> cases second <;> simp [opposite]

end Side

namespace Address

@[simp]
theorem place_address_segments (address : Address) :
    address.place.address address.segments = address :=
  rfl

/-- Standing across from an address means being of the other kind. -/
theorem place_eq_across_iff
    {address other : Address}
    {name : String} :
    other.place = address.place.across name ↔
      other.side = address.side.opposite ∧ other.raw = name := by
  simp [place, Place.across]

theorem side_eq_concrete_iff
    {address : Address} :
    address.side = .concrete ↔ address.hasWildcard = false := by
  cases kind : address.hasWildcard <;> simp [side, kind]

theorem side_eq_pattern_iff
    {address : Address} :
    address.side = .pattern ↔ address.hasWildcard = true := by
  cases kind : address.hasWildcard <;> simp [side, kind]

theorem meets_of_pattern
    {address : Address}
    (kind : address.side = .pattern)
    (other : Segments) :
    address.meets other = address.segments.covers other := by
  simp [meets, kind]

theorem meets_of_concrete
    {address : Address}
    (kind : address.side = .concrete)
    (other : Segments) :
    address.meets other = other.covers address.segments := by
  simp [meets, kind]

/-- Addresses of different kinds meet in both directions or in none. -/
theorem meets_comm
    {first second : Address}
    (facing : first.place.across second.raw = second.place) :
    first.meets second.segments = second.meets first.segments := by
  have opposite : first.side.opposite = second.side :=
    congrArg Place.side facing
  cases firstSide : first.side <;>
    simp [meets, ← opposite, firstSide, Side.opposite]

end Address

namespace Tracking

/-- The segments kept at a place; none if it is not tracked. -/
def segments?
    (tracking : Tracking)
    (place : Place) :
    Option Segments :=
  (tracking.on place.side)[place.name]?.map Tracked.segments

/-- A place is tracked exactly when some segments are kept there. -/
theorem tracks_iff
    {tracking : Tracking}
    {place : Place} :
    tracking.tracks place = true ↔
      ∃ segments, tracking.segments? place = some segments := by
  rw [tracks, segments?, Std.ExtTreeMap.contains_eq_isSome_getElem?]
  cases (tracking.on place.side)[place.name]? <;> simp

/-- A place is untracked exactly when no segments are kept there. -/
theorem tracks_eq_false_iff
    {tracking : Tracking}
    {place : Place} :
    tracking.tracks place = false ↔ tracking.segments? place = none := by
  rw [tracks, segments?, Std.ExtTreeMap.contains_eq_isSome_getElem?]
  cases (tracking.on place.side)[place.name]? <;> simp

/-- The names linked to a place are those kept in its entry. -/
theorem mem_links_iff_entry
    {tracking : Tracking}
    {place : Place}
    {name : String} :
    name ∈ tracking.links place ↔
      ∃ entry, (tracking.on place.side)[place.name]? = some entry ∧
        name ∈ entry.links := by
  unfold links
  cases (tracking.on place.side)[place.name]? <;> simp

theorem segments?_of_entry
    {tracking : Tracking}
    {side : Side}
    {name : String}
    {entry : Tracked}
    (found : (tracking.on side)[name]? = some entry) :
    tracking.segments? ⟨side, name⟩ = some entry.segments := by
  simp [segments?, found]

theorem links_of_entry
    {tracking : Tracking}
    {side : Side}
    {name : String}
    {entry : Tracked}
    (found : (tracking.on side)[name]? = some entry) :
    tracking.links ⟨side, name⟩ = entry.links := by
  simp [links, found]

/-- Both sides and the routed texts are all there is. -/
theorem eq_of_on
    {tracking other : Tracking}
    (sameSide : ∀ side, tracking.on side = other.on side)
    (sameRouted : tracking.routed = other.routed) :
    tracking = other := by
  rcases tracking with ⟨concrete, patterns, routed⟩
  rcases other with ⟨otherConcrete, otherPatterns, otherRouted⟩
  have sameConcrete : concrete = otherConcrete := sameSide .concrete
  have samePatterns : patterns = otherPatterns := sameSide .pattern
  rw [sameConcrete, samePatterns, show routed = otherRouted from sameRouted]

/-- Segments, links and routed texts are all there is. -/
theorem eq_of_segments_links
    {tracking other : Tracking}
    (sameSegments :
      ∀ place, tracking.segments? place = other.segments? place)
    (sameLinks : ∀ place, tracking.links place = other.links place)
    (sameRouted : tracking.routed = other.routed) :
    tracking = other := by
  refine eq_of_on (fun side => ?_) sameRouted
  apply Std.ExtTreeMap.ext_getElem?
  intro name
  have segmentsAt := sameSegments ⟨side, name⟩
  have linksAt := sameLinks ⟨side, name⟩
  simp only [segments?, links] at segmentsAt linksAt
  cases found : (tracking.on side)[name]? with
  | none =>
      rw [found] at segmentsAt
      exact (Option.map_eq_none_iff.mp segmentsAt.symm).symm
  | some entry =>
      rw [found] at segmentsAt linksAt
      obtain ⟨otherEntry, foundOther, same⟩ :=
        Option.map_eq_some_iff.mp segmentsAt.symm
      rw [foundOther] at linksAt ⊢
      cases entry
      cases otherEntry
      simp_all

/-- An address that is tracked already changes nothing. -/
theorem track_of_tracked
    {tracking : Tracking}
    {address : Address}
    (tracked : tracking.tracks address.place = true) :
    tracking.track address = tracking := by
  rw [track, if_pos tracked]

/-- A new address gets an entry with the names it meets. -/
theorem on_side_track
    {tracking : Tracking}
    {address : Address}
    (untracked : tracking.tracks address.place = false) :
    (tracking.track address).on address.side =
      (tracking.on address.side).insert address.raw {
        segments := address.segments
        links :=
          (tracking.on address.side.opposite).namesWhere
            fun other => address.meets other.segments } := by
  simp only [track, untracked, Bool.false_eq_true, ↓reduceIte]
  cases address.side <;> rfl

/-- The addresses that a new one meets gain its name, the others stay. -/
theorem on_opposite_track
    {tracking : Tracking}
    {address : Address}
    (untracked : tracking.tracks address.place = false) :
    (tracking.track address).on address.side.opposite =
      (tracking.on address.side.opposite).map fun _ other =>
        if address.meets other.segments then
          { other with links := other.links.insert address.raw }
        else
          other := by
  simp only [track, untracked, Bool.false_eq_true, ↓reduceIte]
  cases address.side <;> rfl

/-- Tracking an address adds its own place and keeps all segments. -/
theorem segments?_track
    {tracking : Tracking}
    {address : Address}
    (untracked : tracking.tracks address.place = false)
    (place : Place) :
    (tracking.track address).segments? place =
      if place = address.place then some address.segments
      else tracking.segments? place := by
  rcases place with ⟨side, name⟩
  rcases Side.eq_or_eq_opposite side address.side with rfl | rfl
  · simp only [segments?, on_side_track untracked,
      Std.ExtTreeMap.getElem?_insert, Std.compare_eq_iff_eq,
      Address.place, Place.mk.injEq, true_and]
    by_cases same : address.raw = name
    · simp [same]
    · simp [same, Ne.symm same]
  · have elsewhere :
        (⟨address.side.opposite, name⟩ : Place) ≠ address.place :=
      address.place.across_ne name
    simp only [segments?, on_opposite_track untracked,
      Std.ExtTreeMap.getElem?_map, elsewhere, ↓reduceIte]
    cases (tracking.on address.side.opposite)[name]? with
    | none =>
        rfl
    | some other =>
        by_cases met : address.meets other.segments <;> simp [met]

/--
A new address is linked to the tracked places it meets, and each of them to
it; no other link changes.
-/
theorem mem_links_track
    {tracking : Tracking}
    {address : Address}
    (untracked : tracking.tracks address.place = false)
    {place : Place}
    {name : String} :
    name ∈ (tracking.track address).links place ↔
      if place = address.place then
        ∃ other, tracking.segments? (place.across name) = some other ∧
          address.meets other = true
      else
        name ∈ tracking.links place ∨
          place.across name = address.place ∧
            ∃ own, tracking.segments? place = some own ∧
              address.meets own = true := by
  rcases place with ⟨side, placed⟩
  rcases Side.eq_or_eq_opposite side address.side with rfl | rfl
  · simp only [mem_links_iff_entry, on_side_track untracked,
      Std.ExtTreeMap.getElem?_insert, Std.compare_eq_iff_eq,
      Address.place, Place.mk.injEq, true_and]
    by_cases same : address.raw = placed
    · simp only [same, ↓reduceIte, Option.some.injEq,
        exists_eq_left', TextMap.mem_namesWhere, segments?,
        Place.across, Option.map_eq_some_iff]
      constructor
      · intro meeting
        obtain ⟨other, found, met⟩ := meeting
        exact ⟨other.segments, ⟨other, found, rfl⟩, met⟩
      · intro meeting
        obtain ⟨_, ⟨other, found, rfl⟩, met⟩ := meeting
        exact ⟨other, found, met⟩
    · simp [same, Ne.symm same, Place.across, Side.opposite_ne]
  · have elsewhere :
        (⟨address.side.opposite, placed⟩ : Place) ≠ address.place :=
      address.place.across_ne placed
    simp only [mem_links_iff_entry, on_opposite_track untracked,
      Std.ExtTreeMap.getElem?_map, elsewhere, ↓reduceIte,
      Place.across, Side.opposite_opposite, segments?]
    cases (tracking.on address.side.opposite)[placed]? with
    | none =>
        simp
    | some other =>
        by_cases met : address.meets other.segments
        · simp only [met, ↓reduceIte, Option.map_some,
            Option.some.injEq, exists_eq_left',
            Std.ExtTreeSet.mem_insert, Std.compare_eq_iff_eq,
            Address.place, Place.mk.injEq, true_and, and_true]
          exact or_comm.trans (or_congr_right eq_comm)
        · simp [met]

/-- The side of a forgotten place loses only that place. -/
theorem on_side_forget
    (tracking : Tracking)
    (place : Place) :
    (tracking.forget place).on place.side =
      (tracking.on place.side).erase place.name := by
  rcases place with ⟨side, name⟩
  cases side <;> rfl

/-- The other side cuts the links to a forgotten place. -/
theorem on_opposite_forget
    (tracking : Tracking)
    (place : Place) :
    (tracking.forget place).on place.side.opposite =
      (tracking.on place.side.opposite).map fun name other =>
        if name ∈ tracking.links place then
          { other with links := other.links.erase place.name }
        else
          other := by
  rcases place with ⟨side, name⟩
  cases side <;> rfl

theorem mem_routed_forget
    {tracking : Tracking}
    {place : Place}
    {name : String} :
    name ∈ (tracking.forget place).routed ↔
      name ≠ place.name ∧ name ∈ tracking.routed := by
  simp [forget, eq_comm (a := name)]

/-- Forgetting a place keeps the segments of all others. -/
theorem segments?_forget
    (tracking : Tracking)
    (place other : Place) :
    (tracking.forget place).segments? other =
      if other = place then none else tracking.segments? other := by
  rcases other with ⟨side, name⟩
  rcases Side.eq_or_eq_opposite side place.side with rfl | rfl
  · simp only [segments?, on_side_forget,
      Std.ExtTreeMap.getElem?_erase, Std.compare_eq_iff_eq]
    by_cases same : place.name = name
    · simp [← same]
    · have elsewhere : (⟨place.side, name⟩ : Place) ≠ place :=
        fun atPlace => same (congrArg Place.name atPlace).symm
      simp [same, elsewhere]
  · have elsewhere :
        (⟨place.side.opposite, name⟩ : Place) ≠ place :=
      place.across_ne name
    simp only [segments?, on_opposite_forget,
      Std.ExtTreeMap.getElem?_map, elsewhere, ↓reduceIte]
    cases (tracking.on place.side.opposite)[name]? with
    | none =>
        rfl
    | some entry =>
        by_cases linked : name ∈ tracking.links place <;>
          simp [linked]

/-- Forgetting a place drops its links and those its neighbours have to it. -/
theorem mem_links_forget
    {tracking : Tracking}
    {place other : Place}
    {name : String} :
    name ∈ (tracking.forget place).links other ↔
      other ≠ place ∧ name ∈ tracking.links other ∧
        ¬(other.across name = place ∧
          other.name ∈ tracking.links place) := by
  rcases other with ⟨side, own⟩
  rcases Side.eq_or_eq_opposite side place.side with rfl | rfl
  · have notAcross :
        (⟨place.side, own⟩ : Place).across name ≠ place := by
      intro same
      exact Side.opposite_ne place.side (congrArg Place.side same)
    simp only [mem_links_iff_entry, on_side_forget,
      Std.ExtTreeMap.getElem?_erase, Std.compare_eq_iff_eq, notAcross,
      false_and, not_false_eq_true, and_true]
    by_cases same : place.name = own
    · simp [← same]
    · have elsewhere : (⟨place.side, own⟩ : Place) ≠ place :=
        fun atPlace => same (congrArg Place.name atPlace).symm
      simp [same, elsewhere]
  · have elsewhere :
        (⟨place.side.opposite, own⟩ : Place) ≠ place :=
      place.across_ne own
    have acrossIff :
        (⟨place.side.opposite, own⟩ : Place).across name = place ↔
          name = place.name :=
      place.across_across_eq_iff
    have before :
        name ∈ tracking.links ⟨place.side.opposite, own⟩ ↔
          ∃ entry,
            (tracking.on place.side.opposite)[own]? = some entry ∧
              name ∈ entry.links :=
      mem_links_iff_entry
    rw [mem_links_iff_entry, on_opposite_forget, acrossIff, before]
    simp only [Std.ExtTreeMap.getElem?_map, elsewhere, ne_eq,
      not_false_eq_true, true_and]
    cases (tracking.on place.side.opposite)[own]? with
    | none =>
        simp
    | some entry =>
        by_cases linked : own ∈ tracking.links place
        · simp [linked, and_comm, eq_comm (a := name)]
        · simp [linked]

end Tracking

end BrokerRouting
