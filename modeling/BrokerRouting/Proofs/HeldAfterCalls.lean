import BrokerRouting.Proofs.CanonicalHistory
import BrokerRouting.Proofs.EndingAlongLinks

namespace BrokerRouting

/-!
# Calls keep the sets along the links

Ending a binding and sending keep the sets that follow the links whatever
addresses are bound.  A new binding keeps them if its text is not tracked on
the other side already, so they follow the links throughout a history that
never tracks a text on both sides.
-/

namespace Tracking

@[simp]
theorem tracks_markRouted
    (tracking : Tracking)
    (raw : String)
    (place : Place) :
    (tracking.markRouted raw).tracks place = tracking.tracks place := by
  rcases place with ⟨side, name⟩
  cases side <;> rfl

/-- Tracking an address takes nothing from where it belongs. -/
theorem LinkGraph.leads_track
    {tracking : Tracking}
    (graph : LinkGraph tracking)
    {address : Address}
    {origin raw : String}
    (leads : tracking.Leads origin raw) :
    (tracking.track address).Leads origin raw := by
  refine leads.imp_right fun linked => ?_
  obtain ⟨own, other, kept, keptAcross, met⟩ := graph.mem_links_iff.mp linked
  cases tracked : tracking.tracks address.place with
  | true =>
      rw [track_of_tracked tracked]
      exact linked
  | false =>
      have elsewhere : ⟨.concrete, raw⟩ ≠ address.place := by
        rintro same
        rw [← same, tracks_eq_false_iff, kept] at tracked
        cases tracked
      rw [mem_links_track tracked, if_neg elsewhere]
      exact Or.inl linked

end Tracking

namespace Index.HeldAlongLinks

variable
  {index : Index}
  {name : String}
  {binding : Binding}
  {visiting : Visiting}

section Tracking

variable
  {address : Address}

/-- No live binding was made for a text that begins to be tracked. -/
theorem raw_ne_of_untracked
    (along : HeldAlongLinks index)
    (apart : (index.tracking.track address).SidesApart)
    (untracked : index.tracking.tracks address.place = false)
    (found : index.table.live[name]? = some binding) :
    binding.address.raw ≠ address.raw := by
  intro same
  have own : binding.address.place = address.place :=
    apart.place_eq
      (Tracking.tracks_track_iff.mpr (Or.inl (along.tracked found)))
      (Tracking.tracks_track_iff.mpr (Or.inr rfl)) same
  have tracked := along.tracked found
  rw [own, untracked] at tracked
  cases tracked

/-- Live bindings belong to nothing more, except to the address itself. -/
theorem leads_track_iff
    (along : HeldAlongLinks index)
    (apart : (index.tracking.track address).SidesApart)
    (found : index.table.live[name]? = some binding)
    {raw : String}
    (elsewhere : ⟨.concrete, raw⟩ ≠ address.place) :
    (index.tracking.track address).Leads binding.address.raw raw ↔
      index.tracking.Leads binding.address.raw raw := by
  cases tracked : index.tracking.tracks address.place with
  | true =>
      rw [Tracking.track_of_tracked tracked]
  | false =>
      have across :
          Place.across ⟨.concrete, raw⟩ binding.address.raw ≠
            address.place :=
        fun same => along.raw_ne_of_untracked apart tracked found
          (congrArg Place.name same)
      exact or_congr_right
        (Tracking.mem_links_track_elsewhere elsewhere across)

/-- A concrete address draws in the bindings of the patterns linked to it. -/
theorem held_drawIn_iff
    (along : HeldAlongLinks index)
    (apart : (index.tracking.track address).SidesApart)
    (kind : address.side = .concrete)
    {table : Table}
    {live : Bindings}
    {visiting : Visiting}
    (keyed : live.Keyed)
    (within : ∀ text, (table.bindingsAt text).Within live)
    (elsewhere :
      ∀ {text},
        address.raw ≠ text →
        table.bindingsAt text = index.table.bindingsAt text)
    {other : String}
    {held : Binding} :
    ((table.drawIn address.raw
        (visiting.order
          ((index.tracking.track address).links
            address.place))).bindingsAt address.raw)[other]? = some held ↔
      (table.bindingsAt address.raw)[other]? = some held ∨
        index.table.live[other]? = some held ∧
          held.address.raw ∈
            (index.tracking.track address).links address.place := by
  have graph := along.graph.track address
  have notOwn :
      address.raw ∉ (index.tracking.track address).links address.place :=
    apart.not_mem_own_links graph address.place
  have sameAcross :
      ∀ pattern ∈ (index.tracking.track address).links address.place,
        table.bindingsAt pattern = index.table.bindingsAt pattern :=
    fun pattern linked => elsewhere fun same => notOwn (same ▸ linked)
  rw [Table.getElem?_bindingsAt_drawIn keyed within
    (mt Visiting.mem_order.mp notOwn)]
  simp only [Visiting.mem_order]
  apply or_congr_right
  constructor
  · rintro ⟨pattern, linked, drawn⟩
    rw [sameAcross pattern linked] at drawn
    obtain ⟨found, leads⟩ := along.held.mp drawn
    have across := (graph.tracks_ends linked).2
    have tracked :=
      (Tracking.tracks_track_iff.mp across).resolve_right
        (address.place.across_ne pattern)
    rw [Place.across, Address.place, kind] at tracked
    have own :=
      (along.apart.leads_to_pattern_iff along.graph tracked).mp leads
    exact ⟨found, own ▸ linked⟩
  · rintro ⟨found, linked⟩
    refine ⟨held.address.raw, linked, ?_⟩
    rw [sameAcross _ linked]
    exact along.held_own found

/-- An untracked address holds nothing yet that it does not share. -/
theorem not_held_of_untracked
    (along : HeldAlongLinks index)
    (apart : (index.tracking.track address).SidesApart)
    (kind : address.side = .concrete)
    (untracked : index.tracking.tracks address.place = false) :
    (index.table.bindingsAt address.raw)[name]? ≠ some binding := by
  intro heldBefore
  obtain ⟨found, own | linked⟩ := along.held.mp heldBefore
  · exact along.raw_ne_of_untracked apart untracked found own
  · have tracked := (along.graph.tracks_ends linked).1
    rw [Address.place, kind] at untracked
    rw [untracked] at tracked
    cases tracked

/-- What belongs to a new address belongs to it along a link. -/
theorem leads_own_iff
    (along : HeldAlongLinks index)
    (apart : (index.tracking.track address).SidesApart)
    (kind : address.side = .concrete)
    (untracked : index.tracking.tracks address.place = false)
    (found : index.table.live[name]? = some binding) :
    (index.tracking.track address).Leads binding.address.raw address.raw ↔
      binding.address.raw ∈
        (index.tracking.track address).links address.place := by
  have different := along.raw_ne_of_untracked apart untracked found
  rw [Tracking.Leads, or_iff_right different, Address.place, kind]

end Tracking

section Making

/-- The set of a concrete address holds what leads there and the new binding. -/
theorem held_filled_of_concrete
    (along : HeldAlongLinks index)
    (apart : (index.tracking.track binding.address).SidesApart)
    (free : index.table.live[binding.name]? = none)
    (kind : binding.address.side = .concrete)
    {held : Binding} :
    ((index.filled binding visiting).bindingsAt binding.address.raw)[name]? =
        some held ↔
      (index.table.live[name]? = some held ∧
          (index.tracking.track binding.address).Leads
            held.address.raw binding.address.raw) ∨
        binding.name = name ∧ binding = held := by
  cases tracked : index.tracking.tracks binding.address.place with
  | true =>
      rw [filled_of_tracked kind tracked,
        along.holdsLive.held_added_iff free, along.held,
        Tracking.track_of_tracked tracked]
      simp only [true_and]
  | false =>
      rw [filled_of_untracked kind tracked,
        along.held_drawIn_iff apart kind (keyed_added along.keyed free)
          (fun _ => along.holdsLive.added_within free)
          (fun different => added_elsewhere different),
        along.holdsLive.held_added_iff free]
      simp only [along.not_held_of_untracked apart kind tracked, false_or,
        true_and]
      rw [or_comm]
      apply or_congr_left
      apply and_congr_right
      intro found
      exact (along.leads_own_iff apart kind tracked found).symm

/-- The sets of the filled table follow the links of the new address. -/
theorem held_filled_iff
    (along : HeldAlongLinks index)
    (apart : (index.tracking.track binding.address).SidesApart)
    (free : index.table.live[binding.name]? = none)
    {raw : String}
    {held : Binding} :
    ((index.filled binding visiting).bindingsAt raw)[name]? = some held ↔
      (index.table.live.add binding)[name]? = some held ∧
        (index.tracking.track binding.address).Leads
          held.address.raw raw := by
  have graph := along.graph.track binding.address
  rw [live_added_iff free, or_and_right]
  cases kind : binding.address.side with
  | pattern =>
      have elsewhere : ⟨.concrete, raw⟩ ≠ binding.address.place := by
        simp [Address.place, kind]
      rw [along.holdsLive.held_filled_of_pattern free kind, along.held]
      apply or_congr
      · apply and_congr_right
        intro found
        exact (along.leads_track_iff apart found elsewhere).symm
      · rw [and_comm, Address.place, kind, ← graph.leads_iff]
        apply and_congr_right
        rintro ⟨_, rfl⟩
        rfl
  | concrete =>
      by_cases own : binding.address.raw = raw
      · subst own
        rw [along.held_filled_of_concrete apart free kind]
        apply or_congr_right
        refine (and_iff_left_of_imp ?_).symm
        rintro ⟨_, rfl⟩
        exact Or.inl rfl
      · have elsewhere : ⟨.concrete, raw⟩ ≠ binding.address.place :=
          fun same => own (congrArg Place.name same).symm
        have tracked :
            (index.tracking.track binding.address).tracks
              ⟨.concrete, binding.address.raw⟩ = true := by
          rw [Tracking.tracks_track_iff, Address.place, kind]
          exact Or.inr rfl
        rw [filled_elsewhere kind own, along.held, or_iff_left]
        · apply and_congr_right
          intro found
          exact (along.leads_track_iff apart found elsewhere).symm
        · rintro ⟨⟨_, rfl⟩, leads⟩
          exact own ((apart.leads_from_concrete_iff graph tracked).mp leads)

/-- Making a binding keeps them if its text stays on one side. -/
theorem bound
    (along : HeldAlongLinks index)
    (apart : (index.bound binding visiting).tracking.SidesApart)
    (free : index.table.live[binding.name]? = none) :
    HeldAlongLinks (index.bound binding visiting) where
  graph := along.graph.track binding.address
  apart := apart
  noEmptySet :=
    (rearranged_filled index binding visiting).noEmptySet along.noEmptySet
  keyed := by
    rw [live_bound]
    exact keyed_added along.keyed free
  tracked := by
    intro name held found
    rw [live_bound, live_added_iff free] at found
    apply Tracking.tracks_track_iff.mpr
    rcases found with found | ⟨_, rfl⟩
    · exact Or.inl (along.tracked found)
    · exact Or.inr rfl
  occupied := by
    intro place tracked
    have noEmpty :=
      (rearranged_filled index binding visiting).noEmptySet along.noEmptySet
    apply noEmpty.occupied_iff.mpr
    rcases Tracking.tracks_track_iff.mp tracked with already | rfl
    · obtain ⟨name, held, foundHeld⟩ :=
        along.noEmptySet.occupied_iff.mp (along.occupied already)
      obtain ⟨found, leads⟩ := along.held.mp foundHeld
      exact ⟨name, held, (along.held_filled_iff apart free).mpr
        ⟨(live_added_iff free).mpr (Or.inl found),
          along.graph.leads_track leads⟩⟩
    · exact ⟨binding.name, binding, (along.held_filled_iff apart free).mpr
        ⟨(live_added_iff free).mpr (Or.inr ⟨rfl, rfl⟩), Or.inl rfl⟩⟩
  held := by
    intro raw name held
    rw [live_bound]
    exact along.held_filled_iff apart free

end Making

section Sending

variable
  {address : Address}

/-- A text without a set is tracked on neither side. -/
theorem untracked_of_vacant
    (along : HeldAlongLinks index)
    {raw : String}
    (vacant : index.lookup? raw = none)
    (side : Side) :
    index.tracking.tracks ⟨side, raw⟩ = false := by
  rw [Bool.eq_false_iff]
  intro tracked
  have occupied := along.occupied tracked
  rw [Table.occupied_eq_isSome] at occupied
  rw [Index.lookup?] at vacant
  simp [vacant] at occupied

theorem held_sentTo_iff
    (along : HeldAlongLinks index)
    (kind : address.side = .concrete)
    (vacant : index.lookup? address.raw = none)
    {raw : String}
    {held : Binding} :
    ((index.sentTo address.raw address visiting).table.bindingsAt
        raw)[name]? = some held ↔
      index.table.live[name]? = some held ∧
        (index.tracking.track address).Leads held.address.raw raw := by
  have apart := along.apart.track (along.untracked_of_vacant vacant)
  have untracked : index.tracking.tracks address.place = false :=
    along.untracked_of_vacant vacant address.side
  have placed : ⟨.concrete, address.raw⟩ = address.place := by
    rw [Address.place, kind]
  simp only [sentTo, placed]
  by_cases own : address.raw = raw
  · subst own
    rw [along.held_drawIn_iff apart kind along.keyed along.holdsLive
        (fun _ => rfl),
      or_iff_right (along.not_held_of_untracked apart kind untracked)]
    apply and_congr_right
    intro found
    exact (along.leads_own_iff apart kind untracked found).symm
  · have elsewhere : ⟨.concrete, raw⟩ ≠ address.place :=
      fun same => own (congrArg Place.name same).symm
    rw [Table.bindingsAt_drawIn_other _ _ own, along.held]
    apply and_congr_right
    intro found
    exact (along.leads_track_iff apart found elsewhere).symm

/-- What a tracked pattern covers draws in the bindings made for it. -/
theorem exists_held_sentTo
    (along : HeldAlongLinks index)
    (kind : address.side = .concrete)
    (vacant : index.lookup? address.raw = none)
    (covers : index.tracking.covers address.segments = true) :
    ∃ (other : String) (held : Binding),
      ((index.sentTo address.raw address visiting).table.bindingsAt
        address.raw)[other]? = some held := by
  have untracked : index.tracking.tracks address.place = false :=
    along.untracked_of_vacant vacant address.side
  obtain ⟨patternName, pattern, kept, covered⟩ :=
    Tracking.covers_iff.mp covers
  have tracked := Tracking.tracks_iff.mpr ⟨pattern, kept⟩
  obtain ⟨other, held, foundHeld⟩ :=
    along.noEmptySet.occupied_iff.mp (along.occupied tracked)
  obtain ⟨found, leads⟩ := along.held.mp foundHeld
  have own : held.address.raw = patternName :=
    (along.apart.leads_to_pattern_iff along.graph tracked).mp leads
  refine ⟨other, held, (along.held_sentTo_iff kind vacant).mpr
    ⟨found, Or.inr ?_⟩⟩
  have placed : ⟨.concrete, address.raw⟩ = address.place := by
    rw [Address.place, kind]
  rw [placed, Tracking.mem_links_track untracked, if_pos rfl, own]
  refine ⟨pattern, ?_, ?_⟩
  · rw [Place.across, Address.place, kind]
    exact kept
  · rw [Address.meets_of_concrete kind]
    exact covered

/-- Sending keeps the sets along the links. -/
theorem sentTo
    (along : HeldAlongLinks index)
    {raw : String}
    (vacant : index.lookup? raw = none)
    (covered : index.covered? raw = some address) :
    HeldAlongLinks (index.sentTo raw address visiting) := by
  obtain ⟨parsed, kind, covers⟩ := covered?_eq_some_iff.mp covered
  have sameText : address.raw = raw := Address.raw_of_parse parsed
  subst sameText
  have noEmpty :
      (index.sentTo address.raw address visiting).table.NoEmptySet :=
    (Table.Rearranged.drawIn _ _ _).noEmptySet along.noEmptySet
  have tracksIff :
      ∀ {place : Place},
        (index.sentTo address.raw address visiting).tracking.tracks place =
          true ↔
          index.tracking.tracks place = true ∨ place = address.place := by
    intro place
    rw [Index.sentTo, Tracking.tracks_markRouted, Tracking.tracks_track_iff]
  exact
    { graph := (along.graph.track address).markRouted address.raw
      apart := along.apart.track (along.untracked_of_vacant vacant)
      noEmptySet := noEmpty
      keyed := by
        rw [live_sentTo]
        exact along.keyed
      tracked := by
        intro name held found
        rw [live_sentTo] at found
        exact tracksIff.mpr (Or.inl (along.tracked found))
      occupied := by
        intro place tracked
        apply noEmpty.occupied_iff.mpr
        rcases tracksIff.mp tracked with already | rfl
        · obtain ⟨name, held, foundHeld⟩ :=
            along.noEmptySet.occupied_iff.mp (along.occupied already)
          obtain ⟨found, leads⟩ := along.held.mp foundHeld
          exact ⟨name, held, (along.held_sentTo_iff kind vacant).mpr
            ⟨found, along.graph.leads_track leads⟩⟩
        · exact along.exists_held_sentTo kind vacant covers
      held := by
        intro raw name held
        rw [live_sentTo]
        exact along.held_sentTo_iff kind vacant }

end Sending

theorem clear (index : Index) : HeldAlongLinks index.clear :=
  (Canonical.clear index).heldAlongLinks

theorem start (tokens : Tokens) : HeldAlongLinks { tokens } :=
  clear { tokens }

/-- Only a new binding can bring a text to both sides. -/
theorem step
    (along : HeldAlongLinks index)
    {next : Index}
    {change : Change}
    (made : Step index change next)
    (apart : ∀ made, change = .bind made → next.tracking.SidesApart) :
    HeldAlongLinks next := by
  cases made with
  | bindTaken binding taken =>
      exact along
  | bind binding visiting free =>
      exact along.bound (apart binding rfl) free
  | unbindUnknown name unknown =>
      exact along
  | unbind visiting found =>
      exact along.ended found
  | routeSettled raw settled =>
      exact along
  | route visiting vacant covered =>
      exact along.sentTo vacant covered
  | clear =>
      exact clear index

/-- They follow the links as long as no text is tracked on both sides. -/
theorem foldl_apply
    (along : HeldAlongLinks index)
    {history : History}
    (apart :
      ∀ part,
        part <+: history →
        (part.foldl Index.apply index).tracking.SidesApart) :
    HeldAlongLinks (history.foldl Index.apply index) := by
  induction history generalizing index with
  | nil =>
      exact along
  | cons change rest inductionHypothesis =>
      have firstApart : (index.apply change).tracking.SidesApart :=
        apart [change] ⟨rest, rfl⟩
      refine inductionHypothesis
        (along.step (step_apply index change) fun _ _ => firstApart) ?_
      intro part leading
      exact apart (change :: part)
        (List.cons_prefix_cons.mpr ⟨rfl, leading⟩)

theorem after
    {tokens : Tokens}
    {history : History}
    (apart :
      ∀ part,
        part <+: history →
        (Index.after tokens part).tracking.SidesApart) :
    HeldAlongLinks (Index.after tokens history) :=
  (start tokens).foldl_apply apart

end Index.HeldAlongLinks

end BrokerRouting
