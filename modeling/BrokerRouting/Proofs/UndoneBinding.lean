import BrokerRouting.Proofs.CanonicalForm

namespace BrokerRouting

/-!
# A binding that is undone leaves no trace

Binding a free name and unbinding it again gives the live bindings back, and
the same texts are routed.  These decide everything else, so the index is as
it was, whichever way the binding took through its sets and links.
-/

/-- Adding under a free name is undone by erasing that name. -/
theorem Bindings.erase_add
    {bindings : Bindings}
    {binding : Binding}
    (free : bindings[binding.name]? = none) :
    (bindings.add binding).erase binding.name = bindings := by
  apply Std.ExtTreeMap.ext_getElem?
  intro name
  rw [getElem?_erase, getElem?_add]
  by_cases same : binding.name = name
  · rw [if_pos same, ← same, free]
  · rw [if_neg same, if_neg same]

namespace Index

/-- The same names, sets, tracked addresses, links and routed texts. -/
structure Agrees (index other : Index) : Prop where
  live : index.table.live = other.table.live
  sets : index.table.sets = other.table.sets
  concrete : index.tracking.concrete = other.tracking.concrete
  patterns : index.tracking.patterns = other.tracking.patterns
  routed : index.tracking.routed = other.tracking.routed

namespace Agrees

theorem refl (index : Index) : Agrees index index :=
  ⟨rfl, rfl, rfl, rfl, rfl⟩

theorem trans
    {index between other : Index}
    (first : Agrees index between)
    (second : Agrees between other) :
    Agrees index other where
  live := first.live.trans second.live
  sets := first.sets.trans second.sets
  concrete := first.concrete.trans second.concrete
  patterns := first.patterns.trans second.patterns
  routed := first.routed.trans second.routed

end Agrees

theorem bind_of_free
    {index : Index}
    {binding : Binding}
    (free : index.table.live[binding.name]? = none) :
    index.bind binding =
      .ok (index.table.occupied binding.address.raw,
        index.bound binding) := by
  rw [bind_eq, Std.ExtTreeMap.contains_eq_isSome_getElem?, free]
  rfl

theorem unbind_of_live
    {index : Index}
    {name : String}
    {binding : Binding}
    (found : index.table.live[name]? = some binding) :
    index.unbind name = .ok (binding, index.ended name binding) := by
  rw [unbind_eq, found]

/-- The calls that make each binding and end it again before the next. -/
def trials (bindings : List Binding) : History :=
  bindings.flatMap fun binding =>
    [.bind binding, .unbind binding.name]

namespace Canonical

variable
  {index : Index}
  {binding : Binding}

theorem found_bound
    (index : Index)
    (binding : Binding) :
    (index.bound binding).table.live[binding.name]? = some binding := by
  rw [live_bound, Bindings.getElem?_add, if_pos rfl]

/-- What was routed stays routed, since what reached it is live again. -/
theorem routed_undone
    (canonical : Canonical index)
    (read : binding.ReadWith index.tokens)
    (free : index.table.live[binding.name]? = none) :
    ((index.bound binding).ended binding.name binding).tracking.routed =
      index.tracking.routed := by
  have boundCanonical : Canonical (index.bound binding) :=
    canonical.bound read free
  apply Std.ExtTreeSet.ext_mem
  intro raw
  rw [boundCanonical.mem_routed_ended_iff (found_bound index binding),
    live_bound, Bindings.erase_add free, routed_bound]
  constructor
  · intro stays
    obtain ⟨isRouted, _⟩ := stays
    exact isRouted
  · intro isRouted
    exact ⟨isRouted, (canonical.routed isRouted).1⟩

/-- The live bindings and the routed texts decide the rest. -/
theorem agrees
    {other : Index}
    (canonical : Canonical index)
    (otherCanonical : Canonical other)
    (sameTokens : index.tokens = other.tokens)
    (sameLive : index.table.live = other.table.live)
    (sameRouted : index.tracking.routed = other.tracking.routed) :
    index.Agrees other := by
  have sameTracking :=
    canonical.tracking_eq otherCanonical sameTokens sameLive sameRouted
  exact
    { live := sameLive
      sets :=
        canonical.sets_eq otherCanonical sameTokens sameLive sameRouted
      concrete := congrArg Tracking.concrete sameTracking
      patterns := congrArg Tracking.patterns sameTracking
      routed := sameRouted }

/-- Ending the binding that was just made restores the index. -/
theorem undone
    (canonical : Canonical index)
    (read : binding.ReadWith index.tokens)
    (free : index.table.live[binding.name]? = none) :
    ((index.bound binding).ended binding.name binding).Agrees index := by
  have found := found_bound index binding
  have undoneCanonical :
      Canonical ((index.bound binding).ended binding.name binding) :=
    (canonical.bound read free).ended found
  have sameLive :
      ((index.bound binding).ended binding.name binding).table.live =
        index.table.live := by
    rw [live_ended, live_bound, Bindings.erase_add free]
  exact undoneCanonical.agrees canonical rfl sameLive
    (canonical.routed_undone read free)

/-- However many bindings are tried one after the other, none is noticed. -/
theorem agrees_after_trials
    {bindings : List Binding}
    (canonical : Canonical index)
    (tried :
      ∀ binding ∈ bindings,
        binding.ReadWith index.tokens ∧
          index.table.live[binding.name]? = none) :
    ((trials bindings).foldl Index.apply index).Agrees index := by
  -- Every later trial starts from an index that agrees with the first one.
  induction bindings generalizing index with
  | nil =>
      exact .refl index
  | cons binding rest inductionHypothesis =>
      obtain ⟨⟨read, free⟩, restTried⟩ := List.forall_mem_cons.mp tried
      have found := found_bound index binding
      have undone := canonical.undone read free
      have undoneCanonical :
          Canonical ((index.bound binding).ended binding.name binding) :=
        (canonical.bound read free).ended found
      have nextTried :
          ∀ other ∈ rest,
            other.ReadWith index.tokens ∧
              ((index.bound binding).ended binding.name
                binding).table.live[other.name]? = none := by
        rw [undone.live]
        exact restTried
      have steps :
          (trials (binding :: rest)).foldl Index.apply index =
            (trials rest).foldl Index.apply
              ((index.bound binding).ended binding.name binding) := by
        simp [trials, Index.apply, make, bind_of_free free,
          unbind_of_live found]
      rw [steps]
      exact (inductionHypothesis undoneCanonical nextTried).trans undone

end Canonical

end Index

/--
Wherever a history over read addresses leads, binding a free name at an
address that can be read succeeds, unbinding it gives the binding back, and
the names, sets, tracked addresses, links and routed texts are what they
were.  So they are after any number of such pairs of calls.
-/
theorem unbind_undoes_bind
    {tokens : Tokens}
    {history : History}
    (read : ∀ change ∈ history, change.ReadWith tokens) :
    let index := Index.after tokens history
    (∀ binding : Binding,
        Address.parse tokens binding.address.raw = .ok binding.address →
        index.find? binding.name = none →
        ∃ existed bound undone,
          index.bind binding = .ok (existed, bound) ∧
            bound.unbind binding.name = .ok (binding, undone) ∧
              undone.Agrees index) ∧
      ∀ bindings : List Binding,
        (∀ binding ∈ bindings,
          Address.parse tokens binding.address.raw = .ok binding.address ∧
            index.find? binding.name = none) →
        (Index.after tokens
          (history ++ Index.trials bindings)).Agrees index := by
  intro index
  obtain ⟨hasTokens, canonical⟩ := Index.Canonical.after read
  constructor
  · intro binding bindingRead free
    have found := Index.Canonical.found_bound index binding
    exact ⟨_, _, _, Index.bind_of_free free, Index.unbind_of_live found,
      canonical.undone (hasTokens.symm ▸ bindingRead) free⟩
  · intro bindings tried
    rw [Index.after_append]
    refine canonical.agrees_after_trials fun binding member => ?_
    rw [hasTokens]
    exact tried binding member

/-- A routed text that is bound twice for a while is merely routed again. -/
theorem routed_text_outlives_undone_bindings :
    let audit : Binding :=
      ⟨"audit", ⟨"orders.*", [.literal "orders", .singleWord]⟩, "log"⟩
    let ship : Binding :=
      ⟨"ship", ⟨"orders.eu", [.literal "orders", .literal "eu"]⟩, "van"⟩
    let history : History := [.bind audit, .route "orders.eu"]
    let index := Index.after {} history
    "orders.eu" ∈ index.tracking.routed ∧
      (∃ existed bound undone,
        index.bind ship = .ok (existed, bound) ∧
          bound.unbind "ship" = .ok (ship, undone) ∧
            undone.Agrees index) ∧
        (Index.after {}
          (history ++ Index.trials [ship, ship])).Agrees index := by
  intro audit ship history index
  have auditRead : Address.parse {} "orders.*" = .ok audit.address := by
    rfl
  have shipRead : Address.parse {} "orders.eu" = .ok ship.address := by
    rfl
  have read : ∀ change ∈ history, change.ReadWith {} := by
    simp only [history, List.forall_mem_cons]
    exact ⟨auditRead, trivial, by simp⟩
  have free : index.find? "ship" = none := by
    decide +kernel
  obtain ⟨once, often⟩ := unbind_undoes_bind read
  refine ⟨by decide +kernel, once ship shipRead free, ?_⟩
  refine often [ship, ship] ?_
  simp only [List.forall_mem_cons]
  exact ⟨⟨shipRead, free⟩, ⟨shipRead, free⟩, by simp⟩

end BrokerRouting
