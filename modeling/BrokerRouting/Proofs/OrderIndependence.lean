import BrokerRouting.Proofs.FlatRegistry
import BrokerRouting.Proofs.UndoneBinding

namespace BrokerRouting

/-!
# The order of independent calls

Binding several free names, or ending several live ones, can be told without
the order of the calls: which bindings are live and which texts are routed
afterwards depends on the set of names alone.  These decide the index, so any
order of the calls leads to the same names, sets, tracked addresses and links.
-/

namespace Index

/-- What binding several names makes of an index, whatever their order. -/
structure Extends
    (index : Index)
    (bindings : List Binding)
    (next : Index) : Prop where
  canonical : Canonical next
  tokens : next.tokens = index.tokens
  routed : next.tracking.routed = index.tracking.routed
  live :
    ∀ {name : String} {binding : Binding},
      next.table.live[name]? = some binding ↔
        index.table.live[name]? = some binding ∨
          binding ∈ bindings ∧ binding.name = name

/-- What ending several names makes of an index, whatever their order. -/
structure Reduces
    (index : Index)
    (names : List String)
    (next : Index) : Prop where
  canonical : Canonical next
  tokens : next.tokens = index.tokens
  live :
    ∀ {name : String} {binding : Binding},
      next.table.live[name]? = some binding ↔
        index.table.live[name]? = some binding ∧ name ∉ names
  /-- Routed texts are dropped exactly when nothing reaches them any more. -/
  routed :
    ∀ {raw : String},
      raw ∈ next.tracking.routed ↔
        raw ∈ index.tracking.routed ∧
          Ledger.Reached next.table.live index.tokens raw

/-- Bindings made in any order: read, under free and distinct names. -/
structure Independent
    (index : Index)
    (bindings : List Binding) :
    Prop where
  read : ∀ binding ∈ bindings, binding.ReadWith index.tokens
  free :
    ∀ binding ∈ bindings, index.table.live[binding.name]? = none
  distinct : (bindings.map Binding.name).Nodup

namespace Independent

variable
  {index : Index}
  {binding : Binding}
  {bindings reordered : List Binding}

/-- Making the first binding leaves the names of the others free. -/
theorem rest
    (independent : index.Independent (binding :: bindings)) :
    (index.bound binding).Independent bindings where
  read other member := independent.read other (by simp [member])
  free other member := by
    have namesApart :
        binding.name ∉ bindings.map Binding.name :=
      (List.nodup_cons.mp independent.distinct).1
    have differs : binding.name ≠ other.name := fun same =>
      namesApart (List.mem_map.mpr ⟨other, member, same.symm⟩)
    have otherFree := independent.free other (by simp [member])
    simpa [Bindings.getElem?_add, differs] using otherFree
  distinct := (List.nodup_cons.mp independent.distinct).2

theorem of_perm
    (independent : index.Independent bindings)
    (permuted : bindings.Perm reordered) :
    index.Independent reordered where
  read other member := independent.read other (permuted.mem_iff.mpr member)
  free other member := independent.free other (permuted.mem_iff.mpr member)
  distinct := (permuted.map Binding.name).nodup_iff.mp independent.distinct

end Independent

namespace Extends

variable
  {index next other : Index}
  {binding : Binding}
  {bindings reordered : List Binding}

theorem refl (canonical : Canonical index) : index.Extends [] index where
  canonical := canonical
  tokens := rfl
  routed := rfl
  live := by simp

/-- The first of several bindings is one more live binding. -/
theorem cons
    (free : index.table.live[binding.name]? = none)
    (later : (index.bound binding).Extends bindings next) :
    index.Extends (binding :: bindings) next where
  canonical := later.canonical
  tokens := later.tokens
  routed := later.routed.trans (Index.routed_bound index binding _)
  live {name held} := by
    have added :
        (index.bound binding).table.live[name]? = some held ↔
          index.table.live[name]? = some held ∨
            binding.name = name ∧ binding = held := by
      rw [Index.live_bound]
      exact Index.live_added_iff free
    rw [later.live, added, List.mem_cons, or_assoc]
    apply or_congr_right
    constructor
    · rintro (⟨named, rfl⟩ | ⟨member, named⟩)
      · exact ⟨Or.inl rfl, named⟩
      · exact ⟨Or.inr member, named⟩
    · rintro ⟨rfl | member, named⟩
      · exact Or.inl ⟨named, rfl⟩
      · exact Or.inr ⟨member, named⟩

/-- Independent bindings are all made, one after the other. -/
theorem of_binds
    (canonical : Canonical index)
    (independent : index.Independent bindings) :
    index.accepted (bindings.map .bind) = bindings.map .bind ∧
      index.Extends bindings
        ((bindings.map Change.bind).foldl apply index) := by
  induction bindings generalizing index with
  | nil =>
      exact ⟨rfl, refl canonical⟩
  | cons binding rest inductionHypothesis =>
      have read := independent.read binding (by simp)
      have free := independent.free binding (by simp)
      obtain ⟨restAccepted, restExtends⟩ :=
        inductionHypothesis (canonical.bound read free) independent.rest
      have made : index.apply (.bind binding) = index.bound binding := by
        simp [apply, make, bind_of_free free]
      have carriedOut : index.accepts (.bind binding) = true := by
        simp [accepts, bind_of_free free, Except.isOk, Except.toBool]
      rw [List.map_cons, List.foldl_cons, made]
      refine ⟨?_, restExtends.cons free⟩
      rw [accepted, if_pos carriedOut, made, restAccepted]

/-- The bindings in another order make the same of the index. -/
theorem agrees_of_perm
    (extended : index.Extends bindings next)
    (otherExtended : index.Extends reordered other)
    (permuted : bindings.Perm reordered) :
    next.Agrees other := by
  have sameTokens : next.tokens = other.tokens :=
    extended.tokens.trans otherExtended.tokens.symm
  have sameRouted : next.tracking.routed = other.tracking.routed :=
    extended.routed.trans otherExtended.routed.symm
  have sameLive : next.table.live = other.table.live := by
    apply TextMap.eq_of_entries
    intro name binding
    rw [extended.live, otherExtended.live, permuted.mem_iff]
  exact extended.canonical.agrees otherExtended.canonical sameTokens
    sameLive sameRouted

/--
New bindings that all reach a text are added to what sending there gave
before, each of them once.
-/
theorem route_perm
    (extended : index.Extends bindings next)
    (canonical : Canonical index)
    (independent : index.Independent bindings)
    {raw : String}
    (reaching :
      ∀ binding ∈ bindings, binding.Reaches index.tokens raw) :
    (next.route raw).1.contents.Perm
      (bindings ++ (index.route raw).1.contents) := by
  have before :
      Bindings.Keyed (Ledger.reaching index.tokens index.table.live raw) :=
    Ledger.keyed_reaching canonical.keyed index.tokens raw
  have after :
      Bindings.Keyed (Ledger.reaching index.tokens next.table.live raw) :=
    Ledger.keyed_reaching extended.canonical.keyed index.tokens raw
  have apart :
      ∀ new ∈ bindings,
        ∀ old ∈ (Ledger.reaching index.tokens index.table.live raw).contents,
          new ≠ old := by
    rintro binding new _ old rfl
    have heldBefore :=
      (Ledger.getElem?_reaching.mp (before.mem_contents.mp old)).1
    simp [independent.free binding new] at heldBefore
  have allDistinct :
      (bindings ++
        (Ledger.reaching index.tokens
          index.table.live raw).contents).Nodup :=
    List.nodup_append.mpr
      ⟨Binding.nodup_of_nodup_names independent.distinct,
        before.nodup_contents, apart⟩
  rw [extended.canonical.route_fst_eq, canonical.route_fst_eq,
    extended.tokens]
  apply (List.perm_ext_iff_of_nodup after.nodup_contents allDistinct).mpr
  intro binding
  rw [List.mem_append, after.mem_contents, before.mem_contents,
    Ledger.getElem?_reaching, Ledger.getElem?_reaching, extended.live]
  constructor
  · rintro ⟨held | ⟨new, _⟩, reaches⟩
    · exact Or.inr ⟨held, reaches⟩
    · exact Or.inl new
  · rintro (new | ⟨held, reaches⟩)
    · exact ⟨Or.inr ⟨new, rfl⟩, reaching binding new⟩
    · exact ⟨Or.inl held, reaches⟩

end Extends

namespace Reduces

variable
  {index next other : Index}
  {name : String}
  {names reordered : List String}
  {binding : Binding}

theorem refl (canonical : Canonical index) : index.Reduces [] index where
  canonical := canonical
  tokens := rfl
  live := by simp
  routed {raw} := by
    have stillReached :
        raw ∈ index.tracking.routed →
          Ledger.Reached index.table.live index.tokens raw :=
      fun isRouted => (canonical.routed isRouted).1
    exact ⟨fun isRouted => ⟨isRouted, stillReached isRouted⟩, And.left⟩

/-- What is live in the end was live all along. -/
theorem within
    (reduced : index.Reduces names next) :
    Bindings.Within next.table.live index.table.live :=
  fun found => (reduced.live.mp found).1

/-- The first of several names to end is one live binding fewer. -/
theorem cons
    (canonical : Canonical index)
    (found : index.table.live[name]? = some binding)
    (later : (index.ended name binding).Reduces names next) :
    index.Reduces (name :: names) next where
  canonical := later.canonical
  tokens := later.tokens
  live {other held} := by
    have remaining :
        (index.ended name binding).table.live[other]? = some held ↔
          other ≠ name ∧ index.table.live[other]? = some held := by
      rw [Index.live_ended]
      exact Index.live_erase_iff
    rw [later.live, remaining, List.mem_cons, not_or]
    exact ⟨fun ⟨⟨differs, held⟩, notLater⟩ => ⟨held, differs, notLater⟩,
      fun ⟨held, differs, notLater⟩ => ⟨⟨differs, held⟩, notLater⟩⟩
  routed {raw} := by
    -- What is reached in the end was reached in between as well, so the
    -- test made in between decides nothing on its own.
    have reachedBetween :
        Ledger.Reached next.table.live index.tokens raw →
          Ledger.Reached (index.table.live.erase name) index.tokens raw := by
      rintro ⟨other, held, heldLast, reaches⟩
      have heldBetween := later.within heldLast
      rw [Index.live_ended] at heldBetween
      exact ⟨other, held, heldBetween, reaches⟩
    rw [later.routed, canonical.mem_routed_ended_iff found]
    exact ⟨fun ⟨⟨isRouted, _⟩, reached⟩ => ⟨isRouted, reached⟩,
      fun ⟨isRouted, reached⟩ =>
        ⟨⟨isRouted, reachedBetween reached⟩, reached⟩⟩

/-- Distinct live names are all ended, one after the other. -/
theorem of_unbinds
    (canonical : Canonical index)
    (distinct : names.Nodup)
    (live :
      ∀ name ∈ names, ∃ binding, index.table.live[name]? = some binding) :
    index.accepted (names.map .unbind) = names.map .unbind ∧
      index.Reduces names
        ((names.map Change.unbind).foldl apply index) := by
  induction names generalizing index with
  | nil =>
      exact ⟨rfl, refl canonical⟩
  | cons name rest inductionHypothesis =>
      obtain ⟨notInRest, restDistinct⟩ := List.nodup_cons.mp distinct
      obtain ⟨binding, found⟩ := live name (by simp)
      have restLive :
          ∀ other ∈ rest,
            ∃ held,
              (index.ended name binding).table.live[other]? =
                some held := by
        intro other member
        obtain ⟨held, heldBefore⟩ := live other (by simp [member])
        have differs : other ≠ name := fun same =>
          notInRest (same ▸ member)
        rw [Index.live_ended]
        exact ⟨held, Index.live_erase_iff.mpr ⟨differs, heldBefore⟩⟩
      obtain ⟨restAccepted, restReduces⟩ :=
        inductionHypothesis (canonical.ended found) restDistinct restLive
      have made :
          index.apply (.unbind name) = index.ended name binding := by
        simp [apply, make, unbind_of_live found]
      have carriedOut : index.accepts (.unbind name) = true := by
        simp [accepts, unbind_of_live found, Except.isOk, Except.toBool]
      rw [List.map_cons, List.foldl_cons, made]
      refine ⟨?_, restReduces.cons canonical found⟩
      rw [accepted, if_pos carriedOut, made, restAccepted]

/-- Ending the names in another order leaves the same index. -/
theorem agrees_of_perm
    (reduced : index.Reduces names next)
    (otherReduced : index.Reduces reordered other)
    (permuted : names.Perm reordered) :
    next.Agrees other := by
  have sameTokens : next.tokens = other.tokens :=
    reduced.tokens.trans otherReduced.tokens.symm
  have sameLive : next.table.live = other.table.live := by
    apply TextMap.eq_of_entries
    intro name binding
    rw [reduced.live, otherReduced.live, permuted.mem_iff]
  have sameRouted : next.tracking.routed = other.tracking.routed := by
    apply Std.ExtTreeSet.ext_mem
    intro raw
    rw [reduced.routed, otherReduced.routed, sameLive]
  exact reduced.canonical.agrees otherReduced.canonical sameTokens
    sameLive sameRouted

end Reduces

/-- A pattern that covers a tracked concrete address reaches its text. -/
theorem Canonical.reaches_of_covers_entry
    {index : Index}
    (canonical : Canonical index)
    {raw : String}
    {entry : Tracked}
    (tracked : index.tracking.concrete[raw]? = some entry)
    {binding : Binding}
    (pattern : binding.address.hasWildcard = true)
    (covers : binding.address.segments.covers entry.segments = true) :
    binding.Reaches index.tokens raw := by
  have found : (index.tracking.on .concrete)[raw]? = some entry := tracked
  have parsed := (canonical.set_of_entry found).1
  have concrete : Address.side ⟨raw, entry.segments⟩ = .concrete :=
    congrArg Place.side
      (canonical.graph.placed (Tracking.segments?_of_entry found))
  exact (Binding.reaches_iff parsed).mpr
    (Or.inr ⟨concrete, Address.side_eq_pattern_iff.mpr pattern, covers⟩)

end Index

/--
Wherever a history over read addresses leads, bindings under free and
distinct names are all made in any order, and any order leads to the same
names, sets, tracked addresses, links and routed texts; so do distinct live
names that end.  Patterns that are bound while a concrete address they cover
is tracked all reach it, each of them once, besides what reached it before.
-/
theorem independent_calls_commute
    {tokens : Tokens}
    {history : History}
    (read : ∀ change ∈ history, change.ReadWith tokens) :
    let index := Index.after tokens history
    (∀ bindings reordered : List Binding,
        (∀ binding ∈ bindings,
          Address.parse tokens binding.address.raw = .ok binding.address ∧
            index.find? binding.name = none) →
        (bindings.map Binding.name).Nodup →
        bindings.Perm reordered →
        let next :=
          Index.after tokens (history ++ reordered.map .bind)
        index.accepted (reordered.map .bind) = reordered.map .bind ∧
          (Index.after tokens (history ++ bindings.map .bind)).Agrees
            next ∧
          ∀ (raw : String) (entry : Tracked),
            index.tracking.concrete[raw]? = some entry →
            (∀ binding ∈ bindings,
              binding.address.hasWildcard = true ∧
                binding.address.segments.covers entry.segments = true) →
            (next.route raw).1.contents.Perm
                (bindings ++ (index.route raw).1.contents) ∧
              ((next.route raw).1.contents.map Binding.name).Nodup) ∧
      ∀ names reordered : List String,
        (∀ name ∈ names, (index.find? name).isSome) →
        names.Nodup →
        names.Perm reordered →
        index.accepted (reordered.map .unbind) = reordered.map .unbind ∧
          (Index.after tokens (history ++ names.map .unbind)).Agrees
            (Index.after tokens (history ++ reordered.map .unbind)) := by
  intro index
  obtain ⟨hasTokens, canonical⟩ := Index.Canonical.after read
  constructor
  · intro bindings reordered bindable distinct permuted next
    have independent : index.Independent bindings :=
      { read := fun binding member =>
          hasTokens.symm ▸ (bindable binding member).1
        free := fun binding member => (bindable binding member).2
        distinct }
    have reorderedIndependent := independent.of_perm permuted
    obtain ⟨_, extended⟩ := Index.Extends.of_binds canonical independent
    obtain ⟨accepted, nextExtended⟩ :=
      Index.Extends.of_binds canonical reorderedIndependent
    rw [← Index.after_append] at extended nextExtended
    refine ⟨accepted, extended.agrees_of_perm nextExtended permuted, ?_⟩
    intro raw entry tracked covering
    have reaching :
        ∀ binding ∈ reordered, binding.Reaches index.tokens raw := by
      intro binding member
      obtain ⟨pattern, covers⟩ :=
        covering binding (permuted.mem_iff.mpr member)
      exact canonical.reaches_of_covers_entry tracked pattern covers
    have routed :=
      nextExtended.route_perm canonical reorderedIndependent reaching
    refine ⟨routed.trans (permuted.symm.append_right _), ?_⟩
    rw [nextExtended.canonical.route_fst_eq]
    exact Bindings.Keyed.nodup_names
      (Ledger.keyed_reaching nextExtended.canonical.keyed _ raw)
  · intro names reordered live distinct permuted
    have found :
        ∀ name ∈ names,
          ∃ binding, index.table.live[name]? = some binding :=
      fun name member => Option.isSome_iff_exists.mp (live name member)
    obtain ⟨_, reduced⟩ :=
      Index.Reduces.of_unbinds canonical distinct found
    obtain ⟨accepted, otherReduced⟩ :=
      Index.Reduces.of_unbinds canonical (permuted.nodup_iff.mp distinct)
        fun name member => found name (permuted.mem_iff.mpr member)
    rw [← Index.after_append] at reduced otherReduced
    exact ⟨accepted, reduced.agrees_of_perm otherReduced permuted⟩

/-- Two patterns bound and two names ended around a text that was sent to. -/
theorem overlapping_calls_commute :
    let ship : Binding :=
      ⟨"ship", ⟨"orders.eu", [.literal "orders", .literal "eu"]⟩, "van"⟩
    let all : Binding := ⟨"all", ⟨"#", [.anyWords]⟩, "log"⟩
    let audit : Binding :=
      ⟨"audit", ⟨"orders.*", [.literal "orders", .singleWord]⟩, "log"⟩
    let trace : Binding :=
      ⟨"trace", ⟨"*.eu", [.singleWord, .literal "eu"]⟩, "log"⟩
    let history : History :=
      [.bind all, .bind ship, .route "orders.us"]
    let index := Index.after {} history
    let next := Index.after {} (history ++ [.bind trace, .bind audit])
    (Index.after {} (history ++ [.bind audit, .bind trace])).Agrees next ∧
      (next.route "orders.eu").1.contents.Perm
        ([audit, trace] ++ (index.route "orders.eu").1.contents) ∧
      (Index.after {} (history ++ [.unbind "all", .unbind "ship"])).Agrees
        (Index.after {}
          (history ++ [.unbind "ship", .unbind "all"])) := by
  intro ship all audit trace history index next
  have read : ∀ change ∈ history, change.ReadWith {} := by
    have allRead : all.ReadWith {} := by
      change Address.parse {} "#" = _
      rfl
    have shipRead : ship.ReadWith {} := by
      change Address.parse {} "orders.eu" = _
      rfl
    simp only [history, List.forall_mem_cons]
    exact ⟨allRead, shipRead, trivial, by simp⟩
  have bindable :
      ∀ binding ∈ [audit, trace],
        Address.parse {} binding.address.raw = .ok binding.address ∧
          index.find? binding.name = none := by
    have auditRead : Address.parse {} "orders.*" = .ok audit.address := by
      rfl
    have traceRead : Address.parse {} "*.eu" = .ok trace.address := by
      rfl
    simp only [List.forall_mem_cons]
    exact ⟨⟨auditRead, by decide +kernel⟩,
      ⟨traceRead, by decide +kernel⟩, by simp⟩
  have tracked :
      index.tracking.concrete["orders.eu"]? =
        some ⟨[.literal "orders", .literal "eu"],
          index.tracking.links ⟨.concrete, "orders.eu"⟩⟩ := by
    decide +kernel
  obtain ⟨binds, unbinds⟩ := independent_calls_commute read
  obtain ⟨_, sameBound, reached⟩ :=
    binds [audit, trace] [trace, audit] bindable (by decide) (.swap _ _ _)
  obtain ⟨_, sameUnbound⟩ :=
    unbinds ["all", "ship"] ["ship", "all"]
      (by simp only [List.forall_mem_cons]
          exact ⟨by decide +kernel, by decide +kernel, by simp⟩)
      (by decide) (.swap _ _ _)
  have covering :
      ∀ binding ∈ [audit, trace],
        binding.address.hasWildcard = true ∧
          binding.address.segments.covers
            [.literal "orders", .literal "eu"] = true := by
    decide
  exact ⟨sameBound, (reached "orders.eu" _ tracked covering).1,
    sameUnbound⟩

end BrokerRouting
