import BrokerRouting.Proofs.CanonicalBind
import BrokerRouting.Proofs.CanonicalUnbind
import BrokerRouting.Proofs.IndexCalls

namespace BrokerRouting

/-!
# Every history leaves a canonical index

Sending to a covered text that nobody is bound to makes it routed, and
clearing starts over.  With binding and unbinding these are all the calls, so
the index is canonical after any history whose addresses were read with its
tokens.
-/

namespace Tracking

@[simp]
theorem segments?_markRouted
    (tracking : Tracking)
    (raw : String)
    (place : Place) :
    (tracking.markRouted raw).segments? place =
      tracking.segments? place := by
  rcases place with ⟨side, name⟩
  cases side <;> rfl

theorem covers_iff
    {tracking : Tracking}
    {segments : Segments} :
    tracking.covers segments = true ↔
      ∃ name pattern,
        tracking.segments? ⟨.pattern, name⟩ = some pattern ∧
          pattern.covers segments = true := by
  simp only [covers, List.any_eq_true, TextMap.mem_contents]
  constructor
  · intro covering
    obtain ⟨entry, ⟨name, found⟩, covered⟩ := covering
    have found : (tracking.on .pattern)[name]? = some entry := found
    exact ⟨name, entry.segments, segments?_of_entry found, covered⟩
  · intro covering
    obtain ⟨name, pattern, kept, covered⟩ := covering
    obtain ⟨entry, found, rfl⟩ := Option.map_eq_some_iff.mp kept
    exact ⟨entry, ⟨name, found⟩, covered⟩

end Tracking

namespace Index

/-- A text can begin to be tracked if a tracked pattern covers it. -/
theorem covered?_eq_some_iff
    {index : Index}
    {raw : String}
    {address : Address} :
    index.covered? raw = some address ↔
      Address.parse index.tokens raw = .ok address ∧
        address.side = .concrete ∧
          index.tracking.covers address.segments = true := by
  unfold covered? parse
  cases parsed : Address.parse index.tokens raw with
  | error refusal =>
      simp
  | ok parsedAddress =>
      simp only [Except.ok.injEq]
      split
      · rename_i isCovered
        simp only [Bool.and_eq_true, Bool.not_eq_true'] at isCovered
        simp only [Option.some.injEq]
        constructor
        · rintro rfl
          exact ⟨rfl, Address.side_eq_concrete_iff.mpr isCovered.1,
            isCovered.2⟩
        · intro resolved
          obtain ⟨same, _⟩ := resolved
          exact same
      · rename_i notCovered
        constructor
        · intro impossible
          cases impossible
        · intro resolved
          obtain ⟨rfl, concrete, covered⟩ := resolved
          have noWildcard := Address.side_eq_concrete_iff.mp concrete
          simp [noWildcard, covered] at notCovered

/-- No step changes how addresses are read. -/
theorem Step.tokens_eq
    {index next : Index}
    {change : Change}
    (made : Step index change next) :
    next.tokens = index.tokens := by
  cases made <;> rfl

namespace Canonical

variable
  {index : Index}
  {raw : String}
  {address : Address}
  {visiting : Visiting}

/-- A tracked pattern has bindings of its own, and they reach what it covers. -/
theorem reached_of_covers
    (canonical : Canonical index)
    (parsed : Address.parse index.tokens raw = .ok address)
    (kind : address.side = .concrete)
    (covered : index.tracking.covers address.segments = true) :
    Ledger.Reached index.table.live index.tokens raw := by
  obtain ⟨patternName, segments, kept, covers⟩ :=
    Tracking.covers_iff.mp covered
  obtain ⟨known, parsedPattern, placed⟩ := canonical.kept.mp kept
  obtain ⟨name, binding, found, reaches⟩ :=
    canonical.reached_of_known known
  have patternSide := congrArg Place.side placed
  have sameText : binding.address.raw = patternName :=
    Binding.raw_eq_of_reaches_pattern parsedPattern patternSide reaches
  have same :
      binding.address = Place.address ⟨.pattern, patternName⟩ segments :=
    Address.eq_of_parse (canonical.read found) parsedPattern sameText
  refine ⟨name, binding, found,
    (Binding.reaches_iff parsed).mpr (Or.inr ⟨kind, ?_, ?_⟩)⟩
  · rw [same]
    exact patternSide
  · rw [same]
    exact covers

theorem lookup?_eq_none_iff
    (canonical : Canonical index) :
    index.lookup? raw = none ↔ ¬index.Known raw := by
  rw [← canonical.occupied_iff, Table.occupied_eq_isSome, Index.lookup?]
  cases index.table.lookup? raw <;> simp

/-- What reaches an unknown text is made on a tracked pattern covering it. -/
theorem covered_of_reached
    (canonical : Canonical index)
    (unknown : ¬index.Known raw)
    (reached : Ledger.Reached index.table.live index.tokens raw) :
    ∃ address, index.covered? raw = some address := by
  obtain ⟨name, binding, found, reaches⟩ := reached
  obtain ⟨address, parsed⟩ := reaches.parsed
  rcases (Binding.reaches_iff parsed).mp reaches with
    own | ⟨kind, patternSide, covers⟩
  · exact (unknown (Or.inr ⟨name, binding, found, own⟩)).elim
  · have known : index.Known binding.address.raw :=
      Or.inr ⟨name, binding, found, rfl⟩
    have kept :
        index.tracking.segments? ⟨.pattern, binding.address.raw⟩ =
          some binding.address.segments := by
      rw [← patternSide]
      exact (canonical.kept_iff (canonical.read found)).mpr ⟨known, rfl⟩
    exact ⟨address, covered?_eq_some_iff.mpr
      ⟨parsed, kind, Tracking.covers_iff.mpr ⟨_, _, kept, covers⟩⟩⟩

/-- Sending makes the text known that was sent to. -/
theorem known_sentTo_iff
    {other : String} :
    (index.sentTo raw address visiting).Known other ↔
      index.Known other ∨ raw = other := by
  rw [Known, live_sentTo, sentTo]
  simp only [Known, Tracking.markRouted, Tracking.routed_track,
    Std.ExtTreeSet.mem_insert, Std.compare_eq_iff_eq]
  rw [or_assoc, or_comm, or_assoc]

/-- The text that was sent to draws in all that reaches it. -/
theorem held_sentTo_iff
    (canonical : Canonical index)
    (parsed : Address.parse index.tokens raw = .ok address)
    (kind : address.side = .concrete)
    (unknown : ¬index.Known raw)
    {other name : String}
    {binding : Binding} :
    ((index.sentTo raw address visiting).table.bindingsAt other)[name]? =
        some binding ↔
      (index.Known other ∨ raw = other) ∧
        index.table.live[name]? = some binding ∧
          binding.Reaches index.tokens other := by
  have sameText : address.raw = raw := Address.raw_of_parse parsed
  subst sameText
  have placed : ⟨.concrete, address.raw⟩ = address.place := by
    rw [Address.place, kind]
  simp only [sentTo, placed]
  by_cases own : address.raw = other
  · subst own
    rw [canonical.held_drawIn_iff parsed kind canonical.keyed
      canonical.holdsLive
      (fun _ => rfl), canonical.held]
    constructor
    · intro drawn
      rcases drawn with ⟨known, _⟩ | ⟨found, reaches⟩
      · exact (unknown known).elim
      · exact ⟨Or.inr rfl, found,
          (reaches_of_unknown_iff parsed kind unknown found).mpr reaches⟩
    · intro arrives
      obtain ⟨_, found, reaches⟩ := arrives
      exact Or.inr ⟨found,
        (reaches_of_unknown_iff parsed kind unknown found).mp reaches⟩
  · rw [Table.bindingsAt_drawIn_other _ _ own, canonical.held]
    simp only [own, or_false]

/-- A text that begins to be tracked is routed, and the rest stays as it is. -/
theorem sentTo
    (canonical : Canonical index)
    (vacant : index.lookup? raw = none)
    (covered : index.covered? raw = some address) :
    Canonical (index.sentTo raw address visiting) := by
  obtain ⟨parsed, kind, covers⟩ := covered?_eq_some_iff.mp covered
  refine
    { graph := (canonical.graph.track address).markRouted raw
      noEmptySet :=
        (Table.Rearranged.drawIn _ _ _).noEmptySet canonical.noEmptySet
      keyed := ?_
      read := ?_
      routed := ?_
      kept := ?_
      held := ?_ }
  · rw [live_sentTo]
    exact canonical.keyed
  · rw [live_sentTo]
    exact canonical.read
  · intro other isRouted
    rw [live_sentTo]
    simp only [Index.sentTo, Tracking.markRouted, Tracking.routed_track,
      Std.ExtTreeSet.mem_insert, Std.compare_eq_iff_eq] at isRouted
    rcases isRouted with rfl | wasRouted
    · exact ⟨canonical.reached_of_covers parsed kind covers,
        address, parsed, kind⟩
    · exact canonical.routed wasRouted
  · intro place segments
    have sameText : address.raw = raw := Address.raw_of_parse parsed
    rw [known_sentTo_iff, ← sameText]
    simp only [Index.sentTo, Tracking.segments?_markRouted]
    exact canonical.kept_track_iff (sameText.symm ▸ parsed)
  · intro other name binding
    rw [known_sentTo_iff, live_sentTo]
    exact canonical.held_sentTo_iff parsed kind
      (canonical.lookup?_eq_none_iff.mp vacant)

/-- A cleared index is as good as a new one. -/
theorem clear (index : Index) : Canonical index.clear where
  graph := .empty
  noEmptySet raw := by
    simp [Index.clear, Table.clear, Table.lookup?]
  keyed := by
    intro name binding found
    simp [Index.clear, Table.clear] at found
  read := by
    intro name binding found
    simp [Index.clear, Table.clear] at found
  routed := by
    intro raw isRouted
    simp [Index.clear] at isRouted
  kept := by
    rintro ⟨side, name⟩ segments
    cases side <;>
      simp [Index.clear, Table.clear, Known, Ledger.Bound,
        Tracking.segments?, Tracking.on]
  held := by
    intro raw name binding
    simp [Index.clear, Table.clear, Table.bindingsAt, Table.lookup?]

theorem start (tokens : Tokens) : Canonical { tokens } :=
  clear { tokens }

/-- Every step from a canonical index leads to a canonical index. -/
theorem step
    (canonical : Canonical index)
    {next : Index}
    {change : Change}
    (made : Step index change next)
    (read : change.ReadWith index.tokens) :
    Canonical next := by
  cases made with
  | bindTaken binding taken =>
      exact canonical
  | bind binding visiting free =>
      exact canonical.bound read free
  | unbindUnknown name unknown =>
      exact canonical
  | unbind visiting found =>
      exact canonical.ended found
  | routeSettled raw settled =>
      exact canonical
  | route visiting vacant covered =>
      exact canonical.sentTo vacant covered
  | clear =>
      exact clear index

/-- Every history over addresses read with its tokens leaves one. -/
theorem after
    {tokens : Tokens}
    {history : History}
    (read : ∀ change ∈ history, change.ReadWith tokens) :
    (Index.after tokens history).tokens = tokens ∧
      Canonical (Index.after tokens history) :=
  after_of_invariant
    (fun index => index.tokens = tokens ∧ Canonical index)
    (Change.ReadWith tokens)
    ⟨rfl, start tokens⟩
    (fun made ⟨sameTokens, canonical⟩ changeRead =>
      ⟨made.tokens_eq.trans sameTokens,
        canonical.step made (sameTokens ▸ changeRead)⟩)
    read

end Canonical

end Index

end BrokerRouting
