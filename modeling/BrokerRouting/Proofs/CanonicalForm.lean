import BrokerRouting.Proofs.CanonicalHistory

namespace BrokerRouting

/-!
# What decides the state of an index

The live bindings and the routed texts decide which texts are tracked, which
have a set and what each set holds.  Two histories that agree on both have
led to the same sets, links and tracked addresses.
-/

namespace Tracking

/-- In a link graph the links follow from the segments. -/
theorem LinkGraph.eq_of_segments
    {tracking other : Tracking}
    (graph : LinkGraph tracking)
    (otherGraph : LinkGraph other)
    (sameSegments :
      ∀ place, tracking.segments? place = other.segments? place)
    (sameRouted : tracking.routed = other.routed) :
    tracking = other := by
  refine eq_of_segments_links sameSegments ?_ sameRouted
  intro place
  apply Std.ExtTreeSet.ext_mem
  intro name
  rw [graph.mem_links_iff, otherGraph.mem_links_iff]
  simp only [sameSegments]

end Tracking

namespace Index.Canonical

variable
  {index other : Index}
  {raw : String}

theorem known_congr
    (sameLive : index.table.live = other.table.live)
    (sameRouted : index.tracking.routed = other.tracking.routed) :
    index.Known raw ↔ other.Known raw := by
  rw [Known, Known, sameLive, sameRouted]

/-- The tracked addresses and their links follow from the known texts. -/
theorem tracking_eq
    (canonical : Canonical index)
    (otherCanonical : Canonical other)
    (sameTokens : index.tokens = other.tokens)
    (sameLive : index.table.live = other.table.live)
    (sameRouted : index.tracking.routed = other.tracking.routed) :
    index.tracking = other.tracking := by
  refine canonical.graph.eq_of_segments otherCanonical.graph ?_ sameRouted
  intro place
  apply Option.ext
  intro segments
  rw [canonical.kept, otherCanonical.kept,
    known_congr sameLive sameRouted, sameTokens]

/-- The sets follow from the known texts and the live bindings. -/
theorem sets_eq
    (canonical : Canonical index)
    (otherCanonical : Canonical other)
    (sameTokens : index.tokens = other.tokens)
    (sameLive : index.table.live = other.table.live)
    (sameRouted : index.tracking.routed = other.tracking.routed) :
    index.table.sets = other.table.sets := by
  apply Std.ExtTreeMap.ext_getElem?
  intro raw
  have sameHeld :
      index.table.bindingsAt raw = other.table.bindingsAt raw := by
    apply TextMap.eq_of_entries
    intro name binding
    rw [canonical.held, otherCanonical.held,
      known_congr sameLive sameRouted, sameLive, sameTokens]
  apply Option.ext
  intro bindings
  calc
    index.table.lookup? raw = some bindings ↔
        index.table.occupied raw = true ∧
          bindings = index.table.bindingsAt raw :=
      Table.lookup?_eq_some_iff
    _ ↔ other.table.occupied raw = true ∧
          bindings = other.table.bindingsAt raw := by
      rw [canonical.occupied_iff, otherCanonical.occupied_iff,
        known_congr sameLive sameRouted, sameHeld]
    _ ↔ other.table.lookup? raw = some bindings :=
      Table.lookup?_eq_some_iff.symm

/-- The keys of one side are the known texts that read as that side. -/
theorem mem_on_iff
    (canonical : Canonical index)
    {side : Side} :
    raw ∈ index.tracking.on side ↔
      index.Known raw ∧
        ∃ address,
          Address.parse index.tokens raw = .ok address ∧
            address.side = side := by
  have tracked :
      raw ∈ index.tracking.on side ↔
        ∃ segments,
          index.tracking.segments? ⟨side, raw⟩ = some segments := by
    rw [← Tracking.tracks_iff]
    rfl
  rw [tracked]
  constructor
  · intro trackedThere
    obtain ⟨segments, kept⟩ := trackedThere
    obtain ⟨known, parsed, placed⟩ := canonical.kept.mp kept
    exact ⟨known, _, parsed, congrArg Place.side placed⟩
  · intro knownThere
    obtain ⟨known, address, parsed, rfl⟩ := knownThere
    have sameText : address.raw = raw := Address.raw_of_parse parsed
    subst sameText
    exact ⟨_, (canonical.kept_iff parsed).mpr ⟨known, rfl⟩⟩

end Index.Canonical

/-- A live binding was made for the text, on an address of that side. -/
def Ledger.BoundOn
    (ledger : Ledger)
    (side : Side)
    (raw : String) :
    Prop :=
  ∃ (name : String) (binding : Binding),
    ledger[name]? = some binding ∧
      binding.address.raw = raw ∧ binding.address.side = side

namespace Index.Canonical

variable
  {index : Index}
  {raw : String}

/-- Bindings of a text are all made on the side that the text reads as. -/
theorem boundOn_iff
    (canonical : Canonical index)
    {side : Side} :
    Ledger.BoundOn index.table.live side raw ↔
      Ledger.Bound index.table.live raw ∧
        ∃ address,
          Address.parse index.tokens raw = .ok address ∧
            address.side = side := by
  constructor
  · intro boundThere
    obtain ⟨name, binding, found, rfl, kind⟩ := boundThere
    exact ⟨⟨name, binding, found, rfl⟩,
      binding.address, canonical.read found, kind⟩
  · intro boundThere
    obtain ⟨⟨name, binding, found, rfl⟩, address, parsed, kind⟩ := boundThere
    have same : binding.address = address :=
      Except.ok.inj ((canonical.read found).symm.trans parsed)
    exact ⟨name, binding, found, rfl, same ▸ kind⟩

/-- Only live bindings keep a pattern. -/
theorem mem_patterns_iff
    (canonical : Canonical index) :
    raw ∈ index.tracking.patterns ↔
      Ledger.BoundOn index.table.live .pattern raw := by
  change raw ∈ index.tracking.on .pattern ↔ _
  rw [canonical.mem_on_iff, canonical.boundOn_iff]
  constructor
  · intro knownThere
    rcases knownThere with ⟨isRouted | bound, address, parsed, kind⟩
    · obtain ⟨_, concrete, parsedAgain, concreteSide⟩ :=
        canonical.routed isRouted
      cases parsed.symm.trans parsedAgain
      cases kind.symm.trans concreteSide
    · exact ⟨bound, address, parsed, kind⟩
  · intro boundThere
    obtain ⟨bound, reads⟩ := boundThere
    exact ⟨Or.inr bound, reads⟩

/-- A concrete address is kept by live bindings or as a routed one. -/
theorem mem_concrete_iff
    (canonical : Canonical index) :
    raw ∈ index.tracking.concrete ↔
      raw ∈ index.tracking.routed ∨
        Ledger.BoundOn index.table.live .concrete raw := by
  change raw ∈ index.tracking.on .concrete ↔ _
  rw [canonical.mem_on_iff, canonical.boundOn_iff]
  constructor
  · intro knownThere
    rcases knownThere with ⟨isRouted | bound, reads⟩
    · exact Or.inl isRouted
    · exact Or.inr ⟨bound, reads⟩
  · intro keptThere
    rcases keptThere with isRouted | ⟨bound, reads⟩
    · exact ⟨Or.inl isRouted, (canonical.routed isRouted).2⟩
    · exact ⟨Or.inr bound, reads⟩

/-- Known texts read as addresses. -/
theorem parsed_of_known
    (canonical : Canonical index)
    (known : index.Known raw) :
    ∃ address, Address.parse index.tokens raw = .ok address := by
  obtain ⟨name, binding, found, reaches⟩ :=
    canonical.reached_of_known known
  exact reaches.parsed

/-- A text is tracked, on the side it reads as, exactly when it has a set. -/
theorem mem_sets_iff
    (canonical : Canonical index) :
    raw ∈ index.table.sets ↔
      raw ∈ index.tracking.concrete ∨ raw ∈ index.tracking.patterns := by
  change index.table.occupied raw = true ↔
    raw ∈ index.tracking.on .concrete ∨ raw ∈ index.tracking.on .pattern
  rw [canonical.occupied_iff, canonical.mem_on_iff, canonical.mem_on_iff]
  constructor
  · intro known
    obtain ⟨address, parsed⟩ := canonical.parsed_of_known known
    cases kind : address.side with
    | concrete =>
        exact Or.inl ⟨known, address, parsed, kind⟩
    | pattern =>
        exact Or.inr ⟨known, address, parsed, kind⟩
  · rintro (⟨known, _⟩ | ⟨known, _⟩) <;> exact known

/-- No text is tracked on both sides. -/
theorem not_mem_patterns_of_mem_concrete
    (canonical : Canonical index)
    (concrete : raw ∈ index.tracking.concrete) :
    raw ∉ index.tracking.patterns :=
  canonical.sidesApart raw (Std.ExtTreeMap.mem_keys.mpr concrete)

/-- A tracked text has the set of the live bindings that reach it. -/
theorem set_of_entry
    (canonical : Canonical index)
    {side : Side}
    {entry : Tracked}
    (found : (index.tracking.on side)[raw]? = some entry) :
    Address.parse index.tokens raw = .ok ⟨raw, entry.segments⟩ ∧
      index.lookup? raw =
        some (Ledger.reaching index.tokens index.table.live raw) := by
  obtain ⟨known, parsed, _⟩ :=
    canonical.kept.mp (Tracking.segments?_of_entry found)
  refine ⟨parsed, Table.lookup?_eq_some_iff.mpr
    ⟨canonical.occupied_iff.mpr known, ?_⟩⟩
  apply TextMap.eq_of_entries
  intro name binding
  rw [Ledger.getElem?_reaching, canonical.held]
  simp [known]

end Index.Canonical

/-- What is kept, told from the live bindings and the routed texts. -/
structure Index.Settled (index : Index) : Prop where
  /-- Patterns are tracked for the live bindings made on them. -/
  patterns :
    ∀ raw,
      raw ∈ index.tracking.patterns ↔
        Ledger.BoundOn index.table.live .pattern raw
  /-- Concrete addresses are tracked for live bindings or as routed. -/
  concrete :
    ∀ raw,
      raw ∈ index.tracking.concrete ↔
        raw ∈ index.tracking.routed ∨
          Ledger.BoundOn index.table.live .concrete raw
  /-- Exactly the tracked texts have sets. -/
  sets :
    ∀ raw,
      raw ∈ index.table.sets ↔
        raw ∈ index.tracking.concrete ∨ raw ∈ index.tracking.patterns
  apart :
    ∀ raw ∈ index.tracking.concrete, raw ∉ index.tracking.patterns
  contains :
    ∀ raw, index.contains raw = (index.lookup? raw).isSome
  nonempty :
    ∀ raw, index.lookup? raw ≠ some ∅
  keyed :
    ∀ raw bindings, index.lookup? raw = some bindings → bindings.Keyed
  /-- A pattern holds its own bindings. -/
  patternSet :
    ∀ (raw : String) (entry : Tracked),
      index.tracking.patterns[raw]? = some entry →
      Address.parse index.tokens raw = .ok ⟨raw, entry.segments⟩ ∧
        index.lookup? raw =
          some (Ledger.boundTo index.table.live raw)
  /-- A concrete address holds its own and those of covering patterns. -/
  concreteSet :
    ∀ (raw : String) (entry : Tracked),
      index.tracking.concrete[raw]? = some entry →
      Address.parse index.tokens raw = .ok ⟨raw, entry.segments⟩ ∧
        index.lookup? raw =
          some (index.table.live.filter fun _ binding =>
            binding.reaches ⟨raw, entry.segments⟩)

namespace Index.Canonical

variable {index : Index}

theorem contains_eq
    (canonical : Canonical index)
    (raw : String) :
    index.contains raw = (index.lookup? raw).isSome := by
  have trackedIff :
      index.contains raw = true ↔
        raw ∈ index.tracking.concrete ∨
          raw ∈ index.tracking.patterns := by
    rw [Index.contains, Bool.or_eq_true]
    rfl
  apply Bool.eq_iff_iff.mpr
  rw [trackedIff, ← canonical.mem_sets_iff, Index.lookup?,
    ← Table.occupied_eq_isSome]
  rfl

theorem settled (canonical : Canonical index) : index.Settled where
  patterns _ := canonical.mem_patterns_iff
  concrete _ := canonical.mem_concrete_iff
  sets _ := canonical.mem_sets_iff
  apart _ := canonical.not_mem_patterns_of_mem_concrete
  contains := canonical.contains_eq
  nonempty := canonical.noEmptySet
  keyed raw bindings found := by
    intro name binding held
    obtain ⟨_, rfl⟩ := Table.lookup?_eq_some_iff.mp found
    exact canonical.keyed (canonical.held.mp held).2.1
  patternSet raw entry found := by
    have found : (index.tracking.on .pattern)[raw]? = some entry := found
    obtain ⟨parsed, set⟩ := canonical.set_of_entry found
    have kind : Address.hasWildcard ⟨raw, entry.segments⟩ = true :=
      Address.side_eq_pattern_iff.mp (congrArg Place.side
        (canonical.graph.placed (Tracking.segments?_of_entry found)))
    refine ⟨parsed, set.trans (congrArg some ?_)⟩
    simp [Ledger.reaching, parsed, Ledger.boundTo, Binding.reaches,
      Address.sameText, kind]
  concreteSet raw entry found := by
    have found : (index.tracking.on .concrete)[raw]? = some entry := found
    obtain ⟨parsed, set⟩ := canonical.set_of_entry found
    refine ⟨parsed, set.trans (congrArg some ?_)⟩
    simp only [Ledger.reaching, parsed]

end Index.Canonical

/--
After a history over addresses read with its tokens, the live bindings and
the routed texts decide the tracked addresses, which texts have sets and what
the sets hold.  Any history that leads to the same live bindings and routed
texts has led to the same sets, tracked addresses and links.
-/
theorem live_and_routed_decide_index
    {tokens : Tokens}
    {history : History}
    (read : ∀ change ∈ history, change.ReadWith tokens) :
    (Index.after tokens history).Settled ∧
      ∀ other : History,
        (∀ change ∈ other, change.ReadWith tokens) →
        (Index.after tokens other).table.live =
          (Index.after tokens history).table.live →
        (Index.after tokens other).tracking.routed =
          (Index.after tokens history).tracking.routed →
        (Index.after tokens other).table.sets =
            (Index.after tokens history).table.sets ∧
          (Index.after tokens other).tracking =
            (Index.after tokens history).tracking := by
  obtain ⟨hasTokens, canonical⟩ := Index.Canonical.after read
  refine ⟨canonical.settled, ?_⟩
  intro other otherRead sameLive sameRouted
  obtain ⟨otherHasTokens, otherCanonical⟩ :=
    Index.Canonical.after otherRead
  have sameTokens := otherHasTokens.trans hasTokens.symm
  exact ⟨otherCanonical.sets_eq canonical sameTokens sameLive sameRouted,
    otherCanonical.tracking_eq canonical sameTokens sameLive sameRouted⟩

/-- Two bindings made in either order before their pattern is sent to. -/
theorem bindings_decide_index_in_either_order :
    let audit : Binding :=
      ⟨"audit", ⟨"orders.*", [.literal "orders", .singleWord]⟩, "log"⟩
    let ship : Binding :=
      ⟨"ship", ⟨"parcels", [.literal "parcels"]⟩, "van"⟩
    let first : History :=
      [.bind audit, .bind ship, .route "orders.eu"]
    let second : History :=
      [.bind ship, .bind audit, .route "orders.eu"]
    "orders.eu" ∈ (Index.after {} first).tracking.routed ∧
      (Index.after {} first).Settled ∧
        (Index.after {} second).table.sets =
            (Index.after {} first).table.sets ∧
          (Index.after {} second).tracking =
            (Index.after {} first).tracking := by
  intro audit ship first second
  have auditRead : audit.ReadWith {} := by
    change Address.parse {} "orders.*" = _
    rfl
  have shipRead : ship.ReadWith {} := by
    change Address.parse {} "parcels" = _
    rfl
  have firstRead : ∀ change ∈ first, change.ReadWith {} := by
    simp only [first, List.forall_mem_cons]
    exact ⟨auditRead, shipRead, trivial, by simp⟩
  have secondRead : ∀ change ∈ second, change.ReadWith {} := by
    simp only [second, List.forall_mem_cons]
    exact ⟨shipRead, auditRead, trivial, by simp⟩
  obtain ⟨settled, decided⟩ := live_and_routed_decide_index firstRead
  exact ⟨by decide +kernel, settled,
    decided second secondRead (by decide +kernel) (by decide +kernel)⟩

end BrokerRouting
