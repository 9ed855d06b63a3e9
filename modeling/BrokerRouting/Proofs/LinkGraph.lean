import BrokerRouting.Proofs.IndexCalls
import BrokerRouting.Proofs.TrackedPlaces

namespace BrokerRouting

/-!
# The link graph

Links are computed when an address is first tracked and cut one by one when
an end is forgotten.  This module shows that they never drift: after any
calls, whatever addresses were bound and in whatever order linked texts were
visited, a pattern and a concrete address are linked exactly when both are
tracked and the pattern covers the other.
-/

namespace Tracking

/-- A link is kept at both of its ends. -/
def Symmetric (tracking : Tracking) : Prop :=
  ∀ place, ∀ name ∈ tracking.links place,
    place.name ∈ tracking.links (place.across name)

namespace Symmetric

variable
  {tracking : Tracking}
  {place : Place}
  {name : String}

theorem mem_links_comm
    (symmetric : tracking.Symmetric) :
    name ∈ tracking.links place ↔
      place.name ∈ tracking.links (place.across name) := by
  constructor
  · exact symmetric place name
  · intro linked
    have turned := symmetric (place.across name) place.name linked
    rwa [Place.across_across] at turned

/-- Forgetting a place cuts every link to it at its other end as well. -/
theorem forget
    (symmetric : tracking.Symmetric)
    (forgotten : Place) :
    (tracking.forget forgotten).Symmetric := by
  intro place name linked
  obtain ⟨stays, linked, uncut⟩ := mem_links_forget.mp linked
  have turned := symmetric place name linked
  refine mem_links_forget.mpr ⟨?_, turned, ?_⟩
  · rintro rfl
    exact uncut ⟨rfl, turned⟩
  · rw [Place.across_across]
    exact fun cut => stays cut.1

end Symmetric

/--
Every entry stands on the side of its own segments, and the names linked to a
place are exactly the tracked ones across that it meets.
-/
structure LinkGraph (tracking : Tracking) : Prop where
  placed :
    ∀ {place segments},
      tracking.segments? place = some segments →
      (place.address segments).place = place
  mem_links_iff :
    ∀ {place name},
      name ∈ tracking.links place ↔
        ∃ own other,
          tracking.segments? place = some own ∧
            tracking.segments? (place.across name) = some other ∧
              (place.address own).meets other = true

namespace LinkGraph

/-- Two places that face each other meet in both directions or in none. -/
theorem meets_across
    {tracking : Tracking}
    (graph : LinkGraph tracking)
    {place : Place}
    {name : String}
    {own other : Segments}
    (kept : tracking.segments? place = some own)
    (keptAcross : tracking.segments? (place.across name) = some other) :
    (place.address own).meets other =
      ((place.across name).address other).meets own := by
  have facing :
      (place.address own).place.across
          ((place.across name).address other).raw =
        ((place.across name).address other).place := by
    rw [graph.placed kept, graph.placed keptAcross]
    rfl
  exact Address.meets_comm facing

theorem symmetric
    {tracking : Tracking}
    (graph : LinkGraph tracking) :
    tracking.Symmetric := by
  intro place name linked
  obtain ⟨own, other, kept, keptAcross, met⟩ := graph.mem_links_iff.mp linked
  refine graph.mem_links_iff.mpr ⟨other, own, keptAcross, ?_, ?_⟩
  · rw [Place.across_across]
    exact kept
  · exact (graph.meets_across kept keptAcross).symm.trans met

theorem mem_links_comm
    {tracking : Tracking}
    (graph : LinkGraph tracking)
    {place : Place}
    {name : String} :
    name ∈ tracking.links place ↔
      place.name ∈ tracking.links (place.across name) :=
  graph.symmetric.mem_links_comm

/-- Between tracked places that face each other, linked means met. -/
theorem mem_links_iff_meets
    {tracking : Tracking}
    (graph : LinkGraph tracking)
    {place : Place}
    {name : String}
    {own other : Segments}
    (kept : tracking.segments? place = some own)
    (keptAcross : tracking.segments? (place.across name) = some other) :
    name ∈ tracking.links place ↔
      (place.address own).meets other = true := by
  rw [graph.mem_links_iff, kept, keptAcross]
  simp

/-- A link joins two tracked places. -/
theorem tracks_ends
    {tracking : Tracking}
    (graph : LinkGraph tracking)
    {place : Place}
    {name : String}
    (linked : name ∈ tracking.links place) :
    tracking.tracks place = true ∧
      tracking.tracks (place.across name) = true := by
  obtain ⟨own, other, kept, keptAcross, _⟩ := graph.mem_links_iff.mp linked
  exact ⟨tracks_iff.mpr ⟨own, kept⟩, tracks_iff.mpr ⟨other, keptAcross⟩⟩

/-- Nothing is tracked at first. -/
theorem empty : LinkGraph {} where
  placed {place segments} kept := by
    rcases place with ⟨side, name⟩
    cases side <;> simp [segments?, on] at kept
  mem_links_iff {place name} := by
    rcases place with ⟨side, own⟩
    cases side <;> simp [links, segments?, on]

/-- Tracking an address computes the links of its place completely. -/
theorem track
    {tracking : Tracking}
    (graph : LinkGraph tracking)
    (address : Address) :
    LinkGraph (tracking.track address) := by
  by_cases tracked : tracking.tracks address.place = true
  · rw [track_of_tracked tracked]
    exact graph
  · have untracked : tracking.tracks address.place = false := by
      simpa using tracked
    have notKept : tracking.segments? address.place = none :=
      tracks_eq_false_iff.mp untracked
    refine { placed := ?_, mem_links_iff := ?_ }
    · intro place segments kept
      rw [segments?_track untracked] at kept
      by_cases own : place = address.place
      · subst own
        simp only [↓reduceIte, Option.some.injEq] at kept
        rw [← kept, Address.place_address_segments]
      · rw [if_neg own] at kept
        exact graph.placed kept
    · intro place name
      rw [mem_links_track untracked, segments?_track untracked,
        segments?_track untracked]
      by_cases own : place = address.place
      · subst own
        simp [Place.across_ne]
      · by_cases facing : place.across name = address.place
        · -- The place across is the new one: no old link leads there, and
          -- the new link is the meeting seen from the other end.
          have unlinked : name ∉ tracking.links place := by
            rw [graph.mem_links_iff, facing, notKept]
            simp
          have turned :
              ∀ {segments},
                tracking.segments? place = some segments →
                (place.address segments).meets address.segments =
                  address.meets segments := by
            intro segments kept
            apply Address.meets_comm
            rw [graph.placed kept, ← facing]
            exact congrArg place.across (congrArg Place.name facing).symm
          simp only [own, facing, ↓reduceIte, unlinked, false_or,
            true_and, Option.some.injEq]
          constructor
          · intro meeting
            obtain ⟨segments, kept, met⟩ := meeting
            exact ⟨segments, _, kept, rfl, (turned kept).trans met⟩
          · intro meeting
            obtain ⟨segments, _, kept, rfl, met⟩ := meeting
            exact ⟨segments, kept, (turned kept).symm.trans met⟩
        · simp only [own, facing, ↓reduceIte, false_and, or_false]
          exact graph.mem_links_iff

/-- Forgetting a place cuts exactly the links that end there. -/
theorem forget
    {tracking : Tracking}
    (graph : LinkGraph tracking)
    (place : Place) :
    LinkGraph (tracking.forget place) := by
  refine { placed := ?_, mem_links_iff := ?_ }
  · intro other segments kept
    rw [segments?_forget] at kept
    by_cases gone : other = place
    · simp [gone] at kept
    · rw [if_neg gone] at kept
      exact graph.placed kept
  · intro other name
    rw [mem_links_forget, segments?_forget, segments?_forget]
    by_cases gone : other = place
    · simp [gone]
    · by_cases facing : other.across name = place
      · have cut :
            name ∈ tracking.links other ↔
              other.name ∈ tracking.links place :=
          facing ▸ graph.mem_links_comm
        simp [gone, facing, cut]
      · simp only [gone, facing, ↓reduceIte, ne_eq, not_false_eq_true,
          true_and, false_and, and_true]
        exact graph.mem_links_iff

/-- Eviction only forgets, so what is left keeps its links. -/
theorem evict
    {tracking : Tracking}
    (graph : LinkGraph tracking)
    (occupied : String → Bool)
    (reached : List Place) :
    LinkGraph (tracking.evict occupied reached) := by
  induction tracking, reached using Tracking.evict.induct occupied with
  | case1 tracking reached settled =>
      rw [evict_of_none_vacant settled]
      exact graph
  | case2 tracking reached place found inductionHypothesis =>
      rw [evict_of_vacant found]
      exact inductionHypothesis (graph.forget place)

theorem markRouted
    {tracking : Tracking}
    (graph : LinkGraph tracking)
    (raw : String) :
    LinkGraph (tracking.markRouted raw) where
  placed {place _} kept := by
    rcases place with ⟨side, name⟩
    cases side <;> exact graph.placed kept
  mem_links_iff {place _} := by
    rcases place with ⟨side, name⟩
    cases side <;> exact graph.mem_links_iff

/-- Every step keeps the link graph, whatever address it binds. -/
theorem step
    {index next : Index}
    {change : Change}
    (made : Index.Step index change next)
    (graph : LinkGraph index.tracking) :
    LinkGraph next.tracking := by
  cases made with
  | bindTaken binding taken =>
      exact graph
  | bind binding visiting free =>
      exact graph.track binding.address
  | unbindUnknown name unknown =>
      exact graph
  | unbind visiting found =>
      exact graph.evict _ _
  | routeSettled raw settled =>
      exact graph
  | @route raw address visiting vacant covered =>
      exact (graph.track address).markRouted raw
  | clear =>
      exact empty

/-- Calls leave a link graph, in whatever order they visit linked texts. -/
theorem afterCalls
    (tokens : Tokens)
    (calls : List Index.Call) :
    LinkGraph (Index.afterCalls tokens calls).tracking :=
  Index.afterCalls_of_invariant
    (fun index => LinkGraph index.tracking)
    (fun _ => True)
    empty
    (fun made graph _ => graph.step made)
    (fun _ _ => trivial)

end LinkGraph

end Tracking

/-- No pair is listed twice that joins a text of a map to a partner. -/
theorem TextMap.nodup_pairs
    {Value : Type}
    (map : TextMap Value)
    (partners : Value → List String)
    (distinct : ∀ value, (partners value).Nodup) :
    (map.toList.flatMap fun (name, value) =>
      (partners value).map (Prod.mk name)).Nodup := by
  rw [List.nodup_iff_pairwise_ne, List.pairwise_flatMap]
  constructor
  · rintro ⟨name, value⟩ _
    rw [List.pairwise_map]
    exact (distinct value).imp
      fun different same => different (congrArg Prod.snd same)
  · apply (Std.ExtTreeMap.distinct_keys_toList).imp
    rintro ⟨first, _⟩ ⟨second, _⟩ different pair member other otherMember same
    simp only [List.mem_map] at member otherMember
    obtain ⟨_, _, rfl⟩ := member
    obtain ⟨_, _, rfl⟩ := otherMember
    simp_all

namespace Tracking

/-- Each link of one side, as the name that keeps it and the name linked. -/
def linkPairs
    (tracking : Tracking)
    (side : Side) :
    List (String × String) :=
  (tracking.on side).toList.flatMap fun (name, entry) =>
    entry.links.toList.map (Prod.mk name)

/-- The sizes of all link sets of one side taken together. -/
def linkTotal
    (tracking : Tracking)
    (side : Side) :
    Nat :=
  (tracking.on side).contents.foldr
    (fun entry total => entry.links.size + total) 0

theorem length_linkPairs
    (tracking : Tracking)
    (side : Side) :
    (tracking.linkPairs side).length = tracking.linkTotal side := by
  rw [linkPairs, linkTotal, TextMap.contents]
  induction (tracking.on side).toList with
  | nil =>
      rfl
  | cons first rest inductionHypothesis =>
      rw [List.flatMap_cons, List.length_append, inductionHypothesis,
        List.length_map, Std.ExtTreeSet.length_toList]
      rfl

theorem mem_linkPairs
    {tracking : Tracking}
    {side : Side}
    {name other : String} :
    (name, other) ∈ tracking.linkPairs side ↔
      other ∈ tracking.links ⟨side, name⟩ := by
  rw [mem_links_iff_entry]
  simp only [linkPairs, List.mem_flatMap, List.mem_map, Prod.exists,
    Std.ExtTreeMap.mem_toList_iff_getElem?_eq_some,
    Std.ExtTreeSet.mem_toList, Prod.mk.injEq]
  constructor
  · intro pairing
    obtain ⟨_, entry, found, _, member, rfl, rfl⟩ := pairing
    exact ⟨entry, found, member⟩
  · intro linked
    obtain ⟨entry, found, member⟩ := linked
    exact ⟨name, entry, found, other, member, rfl, rfl⟩

theorem nodup_linkPairs
    (tracking : Tracking)
    (side : Side) :
    (tracking.linkPairs side).Nodup :=
  TextMap.nodup_pairs (tracking.on side) (fun entry => entry.links.toList)
    fun entry => entry.links.nodup_toList

/-- Turning every pair around gives the links of the other side. -/
theorem Symmetric.linkTotal_opposite
    {tracking : Tracking}
    (symmetric : tracking.Symmetric)
    (side : Side) :
    tracking.linkTotal side.opposite = tracking.linkTotal side := by
  have turned :
      ((tracking.linkPairs side).map Prod.swap).Perm
        (tracking.linkPairs side.opposite) := by
    have nodup :
        ((tracking.linkPairs side).map Prod.swap).Nodup := by
      rw [List.nodup_iff_pairwise_ne, List.pairwise_map]
      exact (nodup_linkPairs tracking side).imp
        fun distinct same => distinct (Prod.swap_inj.mp same)
    apply (List.perm_ext_iff_of_nodup nodup (nodup_linkPairs _ _)).mpr
    rintro ⟨name, other⟩
    have pairIff :
        (name, other) ∈ (tracking.linkPairs side).map Prod.swap ↔
          (other, name) ∈ tracking.linkPairs side := by
      rw [List.mem_map]
      constructor
      · intro turnedMember
        obtain ⟨⟨keeper, linked⟩, member, sameTurned⟩ := turnedMember
        cases sameTurned
        exact member
      · intro member
        exact ⟨(other, name), member, rfl⟩
    rw [pairIff, mem_linkPairs, mem_linkPairs]
    exact symmetric.mem_links_comm
  rw [← length_linkPairs, ← length_linkPairs, ← turned.length_eq,
    List.length_map]

theorem LinkGraph.linkTotal_opposite
    {tracking : Tracking}
    (graph : LinkGraph tracking)
    (side : Side) :
    tracking.linkTotal side.opposite = tracking.linkTotal side :=
  graph.symmetric.linkTotal_opposite side

/-- The links of one side are those of a place and those left without it. -/
theorem linkTotal_forget_own
    (tracking : Tracking)
    (place : Place) :
    (tracking.forget place).linkTotal place.side +
        (tracking.links place).size =
      tracking.linkTotal place.side := by
  have distinct :
      ((tracking.links place).toList.map (Prod.mk place.name) ++
        (tracking.forget place).linkPairs place.side).Nodup := by
    rw [List.nodup_append]
    refine ⟨?_, nodup_linkPairs _ _, ?_⟩
    · rw [List.nodup_iff_pairwise_ne, List.pairwise_map]
      exact (tracking.links place).nodup_toList.imp
        fun different same => different (congrArg Prod.snd same)
    · intro pair own other left same
      obtain ⟨name, _, rfl⟩ := List.mem_map.mp own
      subst same
      exact (mem_links_forget.mp (mem_linkPairs.mp left)).1 rfl
  have shared :
      (tracking.linkPairs place.side).Perm
        ((tracking.links place).toList.map (Prod.mk place.name) ++
          (tracking.forget place).linkPairs place.side) := by
    apply (List.perm_ext_iff_of_nodup (nodup_linkPairs _ _) distinct).mpr
    rintro ⟨keeper, name⟩
    have notAcross :
        (⟨place.side, keeper⟩ : Place).across name ≠ place := by
      intro same
      exact Side.opposite_ne place.side (congrArg Place.side same)
    rw [List.mem_append, mem_linkPairs, mem_linkPairs, mem_links_forget]
    by_cases own : place.name = keeper
    · subst own
      simp
    · have elsewhere : (⟨place.side, keeper⟩ : Place) ≠ place :=
        fun atPlace => own (congrArg Place.name atPlace).symm
      simp [own, elsewhere, notAcross]
  rw [← length_linkPairs, ← length_linkPairs, shared.length_eq,
    List.length_append, List.length_map, Std.ExtTreeSet.length_toList,
    Nat.add_comm]

/-- Links that are kept at both ends can be counted on either side. -/
theorem Symmetric.linkTotal_eq
    {tracking : Tracking}
    (symmetric : tracking.Symmetric)
    (side : Side) :
    tracking.linkTotal side = tracking.linkCount := by
  cases side with
  | concrete =>
      rfl
  | pattern =>
      exact symmetric.linkTotal_opposite .concrete

/-- Forgetting a place cuts as many links as it keeps. -/
theorem Symmetric.linkCount_forget
    {tracking : Tracking}
    (symmetric : tracking.Symmetric)
    (place : Place) :
    (tracking.forget place).linkCount + (tracking.links place).size =
      tracking.linkCount := by
  rw [← symmetric.linkTotal_eq place.side,
    ← (symmetric.forget place).linkTotal_eq place.side]
  exact tracking.linkTotal_forget_own place

/-- A tracked place is linked to tracked places only, all of them across. -/
private theorem LinkGraph.tracked_of_mem_links
    {tracking : Tracking}
    (graph : LinkGraph tracking)
    {place : Place}
    {name : String}
    (member : name ∈ tracking.links place) :
    name ∈ tracking.on place.side.opposite :=
  (graph.tracks_ends member).2

end Tracking

/--
After any calls over any addresses, each of which visits linked texts in an
order of its own, the two sides stand apart, every link leads to a tracked
address of the other side, and a pattern and a concrete address are linked,
from either end, exactly when the pattern covers the other.  Hence both sides
count the same number of links.
-/
theorem link_graph_is_match_graph
    (tokens : Tokens)
    (calls : List Index.Call) :
    let tracking := (Index.afterCalls tokens calls).tracking
    (∀ (name : String) (entry : Tracked),
        tracking.concrete[name]? = some entry →
        entry.segments.hasWildcard = false ∧
          ∀ other ∈ entry.links, other ∈ tracking.patterns) ∧
      (∀ (name : String) (entry : Tracked),
        tracking.patterns[name]? = some entry →
        entry.segments.hasWildcard = true ∧
          ∀ other ∈ entry.links, other ∈ tracking.concrete) ∧
      (∀ (patternName concreteName : String) (pattern concrete : Tracked),
        tracking.patterns[patternName]? = some pattern →
        tracking.concrete[concreteName]? = some concrete →
        (concreteName ∈ pattern.links ↔
            pattern.segments.covers concrete.segments = true) ∧
          (patternName ∈ concrete.links ↔
            pattern.segments.covers concrete.segments = true)) ∧
      tracking.linkCount = tracking.linkTotal .concrete ∧
        tracking.linkCount = tracking.linkTotal .pattern := by
  intro tracking
  have graph : tracking.LinkGraph :=
    Tracking.LinkGraph.afterCalls tokens calls
  refine ⟨?_, ?_, ?_, ?_, ?_⟩
  · intro name entry (found : (tracking.on .concrete)[name]? = some entry)
    have kept := graph.placed (Tracking.segments?_of_entry found)
    constructor
    · exact Address.side_eq_concrete_iff.mp (congrArg Place.side kept)
    · intro other member
      rw [← Tracking.links_of_entry found] at member
      exact graph.tracked_of_mem_links member
  · intro name entry (found : (tracking.on .pattern)[name]? = some entry)
    have kept := graph.placed (Tracking.segments?_of_entry found)
    constructor
    · exact Address.side_eq_pattern_iff.mp (congrArg Place.side kept)
    · intro other member
      rw [← Tracking.links_of_entry found] at member
      exact graph.tracked_of_mem_links member
  · intro patternName concreteName pattern concrete
      (foundPattern : (tracking.on .pattern)[patternName]? = some pattern)
      (foundConcrete :
        (tracking.on .concrete)[concreteName]? = some concrete)
    have keptPattern := Tracking.segments?_of_entry foundPattern
    have keptConcrete := Tracking.segments?_of_entry foundConcrete
    have patternSide :=
      congrArg Place.side (graph.placed keptPattern)
    have concreteSide :=
      congrArg Place.side (graph.placed keptConcrete)
    rw [← Tracking.links_of_entry foundPattern,
      ← Tracking.links_of_entry foundConcrete]
    constructor
    · rw [graph.mem_links_iff_meets keptPattern keptConcrete,
        Address.meets_of_pattern patternSide]
      rfl
    · rw [graph.mem_links_iff_meets keptConcrete keptPattern,
        Address.meets_of_concrete concreteSide]
      rfl
  · rfl
  · change tracking.linkTotal .concrete = tracking.linkTotal .pattern
    exact (graph.linkTotal_opposite .concrete).symm

end BrokerRouting
