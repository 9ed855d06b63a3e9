import BrokerRouting.Proofs.ReachedTexts

namespace BrokerRouting

/-!
# The flat table by itself

Without links a table only adds a binding to the set of its own text and takes
it out again.  Its sets then share out the live bindings: each is held by the
text it was made for and by no other, and a text has a set exactly while a
live binding was made for it.
-/

namespace Table

/-- The table once a binding is live and in the set of its text. -/
def gained
    (table : Table)
    (binding : Binding) :
    Table :=
  { table with live := table.live.add binding }.put
    binding.address.raw binding

/-- The table once a binding has ended and left the set of its text. -/
def lost
    (table : Table)
    (name : String)
    (binding : Binding) :
    Table :=
  { table with live := table.live.erase name }.withdraw
    binding.address.raw name

/-- A binding is refused exactly for a taken name. -/
theorem add_eq
    (table : Table)
    (binding : Binding) :
    table.add binding =
      if table.live.contains binding.name then
        .error (.nameTaken binding.name)
      else
        .ok (table.occupied binding.address.raw, table.gained binding) :=
  rfl

/-- Ending a binding is refused exactly for an unknown name. -/
theorem remove_eq
    (table : Table)
    (name : String) :
    table.remove name =
      match table.live[name]? with
      | none => .error (.unknownName name)
      | some binding => .ok (binding, table.lost name binding) :=
  rfl

@[simp]
theorem live_gained
    (table : Table)
    (binding : Binding) :
    (table.gained binding).live = table.live.add binding :=
  rfl

@[simp]
theorem live_lost
    (table : Table)
    (name : String)
    (binding : Binding) :
    (table.lost name binding).live = table.live.erase name :=
  rfl

theorem bindingsAt_gained
    (table : Table)
    (binding : Binding)
    (raw : String) :
    (table.gained binding).bindingsAt raw =
      if binding.address.raw = raw then (table.bindingsAt raw).add binding
      else table.bindingsAt raw := by
  rw [gained, bindingsAt_put]
  by_cases own : binding.address.raw = raw
  · subst own
    rfl
  · simp only [own, ↓reduceIte]
    rfl

theorem bindingsAt_lost
    (table : Table)
    (name : String)
    (binding : Binding)
    (raw : String) :
    (table.lost name binding).bindingsAt raw =
      if binding.address.raw = raw then (table.bindingsAt raw).erase name
      else table.bindingsAt raw := by
  rw [lost, bindingsAt_withdraw]
  by_cases own : binding.address.raw = raw
  · subst own
    rfl
  · simp only [own, ↓reduceIte]
    rfl

/-- Every live binding is in the set of its own text, and nothing else is. -/
structure Partitioned (table : Table) : Prop where
  noEmptySet : table.NoEmptySet
  keyed : table.live.Keyed
  held :
    ∀ {raw name : String} {binding : Binding},
      (table.bindingsAt raw)[name]? = some binding ↔
        table.live[name]? = some binding ∧ binding.address.raw = raw

namespace Partitioned

variable
  {table : Table}
  {name : String}
  {binding : Binding}

/-- A new table has neither bindings nor sets. -/
theorem empty : Partitioned {} where
  noEmptySet raw := by
    simp [lookup?]
  keyed {name binding} found := by
    simp at found
  held {raw name binding} := by
    simp [bindingsAt, lookup?]

/-- Clearing leaves neither bindings nor sets. -/
theorem clear (table : Table) : Partitioned table.clear where
  noEmptySet := empty.noEmptySet
  keyed := empty.keyed
  held := empty.held

theorem gained
    (partitioned : Partitioned table)
    (free : table.live[binding.name]? = none) :
    Partitioned (table.gained binding) where
  noEmptySet :=
    Rearranged.noEmptySet (.put _ _ .refl) partitioned.noEmptySet
  keyed {other held} found := by
    rw [live_gained, Bindings.getElem?_add] at found
    split at found
    · rename_i named
      cases found
      exact named
    · exact partitioned.keyed found
  held {raw other held} := by
    have before :
        (table.bindingsAt raw)[other]? = some held ↔
          table.live[other]? = some held ∧ held.address.raw = raw :=
      partitioned.held
    rw [live_gained, Bindings.getElem?_add, bindingsAt_gained]
    by_cases own : binding.address.raw = raw
    · subst own
      rw [if_pos rfl, Bindings.getElem?_add]
      by_cases named : binding.name = other
      · simp only [named, ↓reduceIte, Option.some.injEq]
        exact ⟨fun same => ⟨same, by rw [same]⟩, And.left⟩
      · simpa [named] using before
    · by_cases named : binding.name = other
      · subst named
        -- The name was free, so no other text holds a binding under it.
        have unheld : (table.bindingsAt raw)[binding.name]? ≠ some held := by
          intro found
          have foundLive := (before.mp found).1
          simp [free] at foundLive
        simp only [own, ↓reduceIte, Option.some.injEq]
        exact ⟨fun found => (unheld found).elim,
          fun ⟨same, ownText⟩ => (own (same ▸ ownText)).elim⟩
      · simpa [own, named] using before

theorem lost
    (partitioned : Partitioned table)
    (found : table.live[name]? = some binding) :
    Partitioned (table.lost name binding) where
  noEmptySet :=
    Rearranged.noEmptySet (.withdraw _ _ .refl) partitioned.noEmptySet
  keyed {other held} foundHeld := by
    rw [live_lost, Bindings.getElem?_erase] at foundHeld
    split at foundHeld
    · cases foundHeld
    · exact partitioned.keyed foundHeld
  held {raw other held} := by
    have before :
        (table.bindingsAt raw)[other]? = some held ↔
          table.live[other]? = some held ∧ held.address.raw = raw :=
      partitioned.held
    rw [live_lost, Bindings.getElem?_erase, bindingsAt_lost]
    by_cases own : binding.address.raw = raw
    · subst own
      rw [if_pos rfl, Bindings.getElem?_erase]
      by_cases named : name = other
      · simp [named]
      · simpa [named] using before
    · by_cases named : name = other
      · subst named
        have unheld : (table.bindingsAt raw)[name]? ≠ some held := by
          intro foundThere
          obtain ⟨foundLive, ownText⟩ := before.mp foundThere
          cases found.symm.trans foundLive
          exact own ownText
        simpa [own] using unheld
      · simpa [own, named] using before

/-- A text has a set exactly when a live binding was made for it. -/
theorem occupied_iff
    (partitioned : Partitioned table)
    {raw : String} :
    table.occupied raw = true ↔ Ledger.Bound table.live raw := by
  rw [partitioned.noEmptySet.occupied_iff]
  simp only [partitioned.held, Ledger.Bound]

/-- The set of a text is found by going through all live bindings. -/
theorem bindingsAt_eq
    (partitioned : Partitioned table)
    (raw : String) :
    table.bindingsAt raw = Ledger.boundTo table.live raw := by
  apply TextMap.eq_of_entries
  intro name binding
  rw [partitioned.held]
  simp [Ledger.boundTo, Option.filter_eq_some_iff]

end Partitioned

end Table

end BrokerRouting
