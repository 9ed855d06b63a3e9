import BrokerRouting.Proofs.CanonicalIndex

namespace BrokerRouting

/-!
# Binding keeps the canonical form

A new binding makes its own text known and is held by every known text it
reaches.  The table and the tracked addresses are followed one after the
other.
-/

namespace Index.Canonical

variable
  {index : Index}
  {binding : Binding}
  {visiting : Visiting}

/-- The set of its text holds all that reaches it, tracked before or not. -/
theorem held_filled_of_concrete
    (canonical : Canonical index)
    (read : binding.ReadWith index.tokens)
    (free : index.table.live[binding.name]? = none)
    (kind : binding.address.side = .concrete)
    {name : String}
    {other : Binding} :
    ((index.filled binding visiting).bindingsAt binding.address.raw)[name]? =
        some other ↔
      (index.table.live[name]? = some other ∧
          other.Reaches index.tokens binding.address.raw) ∨
        binding.name = name ∧ binding = other := by
  cases tracked : index.tracking.tracks binding.address.place with
  | true =>
      have known := (canonical.tracks_iff read).mp tracked
      rw [filled_of_tracked kind tracked,
        canonical.holdsLive.held_added_iff free, canonical.held]
      simp only [known, true_and]
  | false =>
      have unknown : ¬index.Known binding.address.raw := by
        intro known
        simp [(canonical.tracks_iff read).mpr known] at tracked
      have ownHeld :
          ((index.added binding).bindingsAt
              binding.address.raw)[name]? = some other ↔
            binding.name = name ∧ binding = other := by
        rw [canonical.holdsLive.held_added_iff free, canonical.held]
        simp only [unknown, false_and, false_or, true_and]
      rw [filled_of_untracked kind tracked,
        canonical.held_drawIn_iff read kind (keyed_added canonical.keyed free)
          (fun _ => canonical.holdsLive.added_within free)
          (fun different => added_elsewhere different),
        ownHeld, or_comm]
      apply or_congr_left
      apply and_congr_right
      intro found
      exact (reaches_of_unknown_iff read kind unknown found).symm

/-- The sets of the filled table hold what reaches each text by then. -/
theorem held_filled_iff
    (canonical : Canonical index)
    (read : binding.ReadWith index.tokens)
    (free : index.table.live[binding.name]? = none)
    {raw name : String}
    {other : Binding} :
    ((index.filled binding visiting).bindingsAt raw)[name]? = some other ↔
      (index.Known raw ∨ binding.address.raw = raw) ∧
        (index.table.live.add binding)[name]? = some other ∧
          other.Reaches index.tokens raw := by
  rw [live_added_iff free]
  cases kind : binding.address.side with
  | pattern =>
      rw [canonical.holdsLive.held_filled_of_pattern free kind,
        canonical.mem_links_or_own_iff read kind, canonical.held]
      constructor
      · rintro (⟨known, found, reached⟩ |
          ⟨⟨known, reached⟩, named, rfl⟩)
        · exact ⟨Or.inl known, Or.inl found, reached⟩
        · exact ⟨known, Or.inr ⟨named, rfl⟩, reached⟩
      · intro arrives
        rcases arrives with ⟨known | rfl, found | ⟨named, rfl⟩, reached⟩
        · exact Or.inl ⟨known, found, reached⟩
        · exact Or.inr ⟨⟨Or.inl known, reached⟩, named, rfl⟩
        · -- What already reaches the pattern's text was made for it, so the
          -- text was known before.
          have own := Binding.raw_eq_of_reaches_pattern read kind reached
          exact Or.inl ⟨Or.inr ⟨name, other, found, own⟩, found, reached⟩
        · exact Or.inr ⟨⟨Or.inr rfl, reached⟩, named, rfl⟩
  | concrete =>
      by_cases own : binding.address.raw = raw
      · subst own
        rw [canonical.held_filled_of_concrete read free kind]
        constructor
        · intro holds
          rcases holds with ⟨found, reached⟩ | ⟨named, rfl⟩
          · exact ⟨Or.inr rfl, Or.inl found, reached⟩
          · exact ⟨Or.inr rfl, Or.inr ⟨named, rfl⟩, read.reaches_own⟩
        · intro arrives
          rcases arrives with ⟨_, found | same, reached⟩
          · exact Or.inl ⟨found, reached⟩
          · exact Or.inr same
      · rw [filled_elsewhere kind own, canonical.held]
        constructor
        · intro holds
          obtain ⟨known, found, reached⟩ := holds
          exact ⟨Or.inl known, Or.inl found, reached⟩
        · intro arrives
          rcases arrives with ⟨known | same, found | ⟨_, rfl⟩, reached⟩
          · exact ⟨known, found, reached⟩
          · exact (own
              (Binding.raw_eq_of_reaches_of_concrete kind reached)).elim
          · exact (own same).elim
          · exact (own same).elim

/-- Besides the known texts, a new binding makes its own text known. -/
theorem bound_add_iff
    (free : index.table.live[binding.name]? = none)
    {raw : String} :
    Ledger.Bound (index.table.live.add binding) raw ↔
      Ledger.Bound index.table.live raw ∨ binding.address.raw = raw := by
  constructor
  · intro boundThere
    obtain ⟨name, other, found, own⟩ := boundThere
    rcases (live_added_iff free).mp found with held | ⟨_, rfl⟩
    · exact Or.inl ⟨name, other, held, own⟩
    · exact Or.inr own
  · intro boundOrOwn
    rcases boundOrOwn with ⟨name, other, found, own⟩ | own
    · exact ⟨name, other, (live_added_iff free).mpr (Or.inl found), own⟩
    · exact ⟨binding.name, binding,
        (live_added_iff free).mpr (Or.inr ⟨rfl, rfl⟩), own⟩

theorem known_bound_iff
    (free : index.table.live[binding.name]? = none)
    {raw : String} :
    (index.bound binding visiting).Known raw ↔
      index.Known raw ∨ binding.address.raw = raw := by
  rw [Known, routed_bound, live_bound, bound_add_iff free, ← or_assoc]
  rfl

/-- Making a binding keeps the canonical form. -/
theorem bound
    (canonical : Canonical index)
    (read : binding.ReadWith index.tokens)
    (free : index.table.live[binding.name]? = none) :
    Canonical (index.bound binding visiting) := by
  refine
    { graph := canonical.graph.track binding.address
      noEmptySet :=
        (rearranged_filled index binding visiting).noEmptySet
          canonical.noEmptySet
      keyed := ?_
      read := ?_
      routed := ?_
      kept := ?_
      held := ?_ }
  · rw [live_bound]
    exact keyed_added canonical.keyed free
  · intro name other found
    rw [live_bound, live_added_iff free] at found
    rcases found with held | ⟨_, rfl⟩
    · exact canonical.read held
    · exact read
  · intro raw isRouted
    rw [routed_bound] at isRouted
    obtain ⟨⟨name, other, found, reached⟩, concrete⟩ :=
      canonical.routed isRouted
    have foundNext :
        (index.bound binding visiting).table.live[name]? = some other := by
      rw [live_bound, live_added_iff free]
      exact Or.inl found
    exact ⟨⟨name, other, foundNext, reached⟩, concrete⟩
  · intro place segments
    rw [known_bound_iff free]
    exact canonical.kept_track_iff read
  · intro raw name other
    rw [known_bound_iff free, live_bound]
    exact canonical.held_filled_iff read free

end Index.Canonical

end BrokerRouting
