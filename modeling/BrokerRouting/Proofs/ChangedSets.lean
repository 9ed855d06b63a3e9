import BrokerRouting.Ledger
import BrokerRouting.Proofs.BindingSets
import BrokerRouting.Proofs.IndexCalls
import BrokerRouting.Proofs.TrackedPlaces

namespace BrokerRouting

/-!
# What calls do to the sets

The sets after a call are told from the sets before it, entry by entry.
Nothing is supposed of the index here beyond that its sets hold live
bindings; every invariant builds on these facts.
-/

namespace Bindings

/-- Adding under a free name, or again, keeps what was there. -/
theorem getElem?_add_iff
    {bindings : Bindings}
    {binding : Binding}
    (compatible :
      ∀ {other : Binding},
        bindings[binding.name]? = some other → other = binding)
    {name : String}
    {held : Binding} :
    (bindings.add binding)[name]? = some held ↔
      bindings[name]? = some held ∨
        binding.name = name ∧ binding = held := by
  rw [getElem?_add]
  by_cases same : binding.name = name
  · subst same
    simp only [↓reduceIte, Option.some.injEq, true_and]
    constructor
    · exact Or.inr
    · intro after
      rcases after with found | isAdded
      · exact (compatible found).symm
      · exact isAdded
  · simp [same]

end Bindings

namespace Tracking

@[simp]
theorem routed_track
    (tracking : Tracking)
    (address : Address) :
    (tracking.track address).routed = tracking.routed := by
  rw [track]
  split
  · rfl
  · cases address.side <;> rfl

end Tracking

namespace Index

/-- Whatever a set holds is live. -/
def HoldsLive (index : Index) : Prop :=
  ∀ raw, (index.table.bindingsAt raw).Within index.table.live

section Binding

variable
  {index : Index}
  {binding : Binding}
  {visiting : Visiting}

/-- No set holds anything under a free name. -/
theorem HoldsLive.not_held_of_free
    (holdsLive : index.HoldsLive)
    (free : index.table.live[binding.name]? = none)
    {raw : String}
    {other : Binding} :
    (index.table.bindingsAt raw)[binding.name]? ≠ some other := by
  intro found
  have foundLive := holdsLive raw found
  simp [free] at foundLive

theorem live_added_iff
    (free : index.table.live[binding.name]? = none)
    {name : String}
    {other : Binding} :
    (index.table.live.add binding)[name]? = some other ↔
      index.table.live[name]? = some other ∨
        binding.name = name ∧ binding = other := by
  apply Bindings.getElem?_add_iff
  intro other found
  simp [free] at found

theorem HoldsLive.held_added_iff
    (holdsLive : index.HoldsLive)
    (free : index.table.live[binding.name]? = none)
    {raw name : String}
    {other : Binding} :
    ((index.added binding).bindingsAt raw)[name]? = some other ↔
      (index.table.bindingsAt raw)[name]? = some other ∨
        binding.address.raw = raw ∧
          binding.name = name ∧ binding = other := by
  rw [added, Table.bindingsAt_put]
  by_cases own : binding.address.raw = raw
  · rw [if_pos own, Bindings.getElem?_add_iff]
    · simp only [own, true_and]
      rfl
    · intro other found
      exact (holdsLive.not_held_of_free free found).elim
  · rw [if_neg own]
    simp only [own, false_and, or_false]
    rfl

theorem added_elsewhere
    {raw : String}
    (different : binding.address.raw ≠ raw) :
    (index.added binding).bindingsAt raw =
      index.table.bindingsAt raw := by
  rw [added, Table.bindingsAt_put, if_neg different]
  rfl

theorem HoldsLive.added_within
    (holdsLive : index.HoldsLive)
    (free : index.table.live[binding.name]? = none)
    {raw : String} :
    ((index.added binding).bindingsAt raw).Within
      (index.table.live.add binding) := by
  intro name other found
  rw [live_added_iff free]
  rcases (holdsLive.held_added_iff free).mp found with held | ⟨_, same⟩
  · exact Or.inl (holdsLive raw held)
  · exact Or.inr same

theorem keyed_added
    (keyed : index.table.live.Keyed)
    (free : index.table.live[binding.name]? = none) :
    (index.table.live.add binding).Keyed := by
  intro name other found
  rcases (live_added_iff free).mp found with held | ⟨named, rfl⟩
  · exact keyed held
  · exact named

/-- A pattern's new binding is spread along its links. -/
theorem filled_of_pattern
    (kind : binding.address.side = .pattern) :
    index.filled binding visiting =
      (index.added binding).spread binding
        (visiting.order
          ((index.tracking.track binding.address).links
            binding.address.place)) := by
  simp only [filled, Address.place, kind]

/-- It is held by its own set and along its links, and nothing else changes. -/
theorem HoldsLive.held_filled_of_pattern
    (holdsLive : index.HoldsLive)
    (free : index.table.live[binding.name]? = none)
    (kind : binding.address.side = .pattern)
    {raw name : String}
    {other : Binding} :
    ((index.filled binding visiting).bindingsAt raw)[name]? = some other ↔
      (index.table.bindingsAt raw)[name]? = some other ∨
        (raw ∈ (index.tracking.track binding.address).links
              binding.address.place ∨
            binding.address.raw = raw) ∧
          binding.name = name ∧ binding = other := by
  rw [filled_of_pattern kind, Table.bindingsAt_spread]
  simp only [Visiting.mem_order]
  by_cases linked :
      raw ∈ (index.tracking.track binding.address).links
        binding.address.place
  · rw [if_pos linked, Bindings.getElem?_add_iff]
    · rw [holdsLive.held_added_iff free]
      simp only [linked, true_or, true_and]
      constructor
      · intro holds
        rcases holds with (held | ⟨_, same⟩) | same
        · exact Or.inl held
        · exact Or.inr same
        · exact Or.inr same
      · intro holds
        rcases holds with held | same
        · exact Or.inl (Or.inl held)
        · exact Or.inr same
    · intro other found
      rcases (holdsLive.held_added_iff free).mp found with
        held | ⟨_, _, same⟩
      · exact (holdsLive.not_held_of_free free held).elim
      · exact same.symm
  · rw [if_neg linked, holdsLive.held_added_iff free]
    simp only [linked, false_or]

/-- A tracked concrete address has drawn in what reaches it already. -/
theorem filled_of_tracked
    (kind : binding.address.side = .concrete)
    (tracked : index.tracking.tracks binding.address.place = true) :
    index.filled binding visiting = index.added binding := by
  rw [Address.place, kind] at tracked
  simp only [filled, Address.place, kind, tracked, ↓reduceIte]

theorem filled_of_untracked
    (kind : binding.address.side = .concrete)
    (untracked :
      index.tracking.tracks binding.address.place = false) :
    index.filled binding visiting =
      (index.added binding).drawIn binding.address.raw
        (visiting.order
          ((index.tracking.track binding.address).links
            binding.address.place)) := by
  rw [Address.place, kind] at untracked
  simp only [filled, Address.place, kind, untracked, Bool.false_eq_true,
    ↓reduceIte]

/-- A binding on a concrete address changes the set of its text only. -/
theorem filled_elsewhere
    (kind : binding.address.side = .concrete)
    {raw : String}
    (different : binding.address.raw ≠ raw) :
    (index.filled binding visiting).bindingsAt raw =
      index.table.bindingsAt raw := by
  cases tracked : index.tracking.tracks binding.address.place with
  | true =>
      rw [filled_of_tracked kind tracked, added_elsewhere different]
  | false =>
      rw [filled_of_untracked kind tracked,
        Table.bindingsAt_drawIn_other _ _ different,
        added_elsewhere different]

theorem rearranged_filled
    (index : Index)
    (binding : Binding)
    (visiting : Visiting) :
    Table.Rearranged
      { index.table with live := index.table.live.add binding }
      (index.filled binding visiting) := by
  have added :
      Table.Rearranged
        { index.table with live := index.table.live.add binding }
        (index.added binding) :=
    .put _ _ .refl
  simp only [filled]
  split
  · exact added.trans (.spread _ _ _)
  · split
    · exact added
    · exact added.trans (.drawIn _ _ _)

@[simp]
theorem live_bound
    (index : Index)
    (binding : Binding)
    (visiting : Visiting) :
    (index.bound binding visiting).table.live =
      index.table.live.add binding :=
  (rearranged_filled index binding visiting).live_eq

@[simp]
theorem routed_bound
    (index : Index)
    (binding : Binding)
    (visiting : Visiting) :
    (index.bound binding visiting).tracking.routed =
      index.tracking.routed :=
  Tracking.routed_track index.tracking binding.address

end Binding

section Unbinding

variable
  {index : Index}
  {name : String}
  {binding : Binding}
  {visiting : Visiting}

theorem live_erase_iff
    {other : String}
    {held : Binding} :
    (index.table.live.erase name)[other]? = some held ↔
      other ≠ name ∧ index.table.live[other]? = some held := by
  rw [Bindings.getElem?_erase]
  by_cases same : name = other
  · simp [same]
  · simp [same, Ne.symm same]

theorem held_removed_iff
    {raw other : String}
    {held : Binding} :
    ((index.removed name binding).bindingsAt raw)[other]? = some held ↔
      (index.table.bindingsAt raw)[other]? = some held ∧
        ¬(binding.address.raw = raw ∧ other = name) := by
  rw [removed, Table.bindingsAt_withdraw]
  by_cases own : binding.address.raw = raw
  · rw [if_pos own, Bindings.getElem?_erase]
    subst own
    by_cases same : name = other
    · simp [same]
    · simp [same, Ne.symm same]
      rfl
  · rw [if_neg own]
    simp [own]
    rfl

theorem emptied_of_pattern
    (kind : binding.address.side = .pattern) :
    index.emptied name binding visiting =
      (index.removed name binding).retract name
        (visiting.order (index.tracking.links binding.address.place)) := by
  simp only [emptied, Address.place, kind]

/-- A concrete text keeps what was drawn in while it is routed or owns. -/
theorem emptied_of_concrete
    (kind : binding.address.side = .concrete) :
    index.emptied name binding visiting =
      if binding.address.raw ∈ index.tracking.routed ||
          (index.removed name binding).ownsBinding binding.address.raw
      then index.removed name binding
      else
        (index.removed name binding).release binding.address.raw
          (visiting.order (index.tracking.links binding.address.place)) := by
  simp only [emptied, Address.place, kind]

theorem rearranged_emptied
    (index : Index)
    (name : String)
    (binding : Binding)
    (visiting : Visiting) :
    Table.Rearranged
      { index.table with live := index.table.live.erase name }
      (index.emptied name binding visiting) := by
  have removed :
      Table.Rearranged
        { index.table with live := index.table.live.erase name }
        (index.removed name binding) :=
    .withdraw _ _ .refl
  simp only [emptied]
  split
  · exact removed.trans (.retract _ _ _)
  · split
    · exact removed
    · exact removed.trans (.release _ _ _)

@[simp]
theorem live_ended
    (index : Index)
    (name : String)
    (binding : Binding)
    (visiting : Visiting) :
    (index.ended name binding visiting).table.live =
      index.table.live.erase name :=
  (rearranged_emptied index name binding visiting).live_eq

end Unbinding

@[simp]
theorem live_sentTo
    (index : Index)
    (raw : String)
    (address : Address)
    (visiting : Visiting) :
    (index.sentTo raw address visiting).table.live = index.table.live :=
  (Table.Rearranged.drawIn _ _ _).live_eq

/-- Live bindings change as the ledger says, refused calls included. -/
theorem Step.live_eq
    {index next : Index}
    {change : Change}
    (made : Step index change next) :
    next.table.live = Ledger.record index.table.live change := by
  cases made with
  | bindTaken binding taken =>
      simp [Ledger.record, taken]
  | bind binding visiting free =>
      have notTaken : index.table.live.contains binding.name = false := by
        rw [Std.ExtTreeMap.contains_eq_isSome_getElem?, free]
        rfl
      simp [Ledger.record, notTaken]
  | unbindUnknown name unknown =>
      exact (TextMap.erase_of_absent unknown).symm
  | unbind visiting found =>
      exact live_ended _ _ _ _
  | routeSettled raw settled =>
      rfl
  | route visiting vacant covered =>
      exact live_sentTo _ _ _ _
  | clear =>
      rfl

theorem live_apply
    (index : Index)
    (change : Change) :
    (index.apply change).table.live =
      Ledger.record index.table.live change :=
  (step_apply index change).live_eq

end Index

end BrokerRouting
