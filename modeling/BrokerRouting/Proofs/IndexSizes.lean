import BrokerRouting.Broker.Request
import BrokerRouting.Proofs.CanonicalForm
import BrokerRouting.Proofs.RouterCalls

namespace BrokerRouting

/-!
# Sizes of an index

The sizes that a router with wildcard routing tells are counts of what is
live, and nothing is tracked that no live binding reaches.  Hence nothing at
all is left once the last binding has ended, however the tracked addresses
came in and in whatever order the bindings went.
-/

namespace Tracking

/-- The texts of the tracked concrete addresses that some segments cover. -/
def coveredBy
    (tracking : Tracking)
    (pattern : Segments) :
    List String :=
  (tracking.concrete.filter fun _ concrete =>
    pattern.covers concrete.segments).keys

/-- The pairs of a tracked pattern and a tracked concrete address it covers. -/
def coveredPairs (tracking : Tracking) : List (String × String) :=
  tracking.patterns.toList.flatMap fun (name, pattern) =>
    (tracking.coveredBy pattern.segments).map (Prod.mk name)

theorem mem_coveredBy
    {tracking : Tracking}
    {pattern : Segments}
    {other : String} :
    other ∈ tracking.coveredBy pattern ↔
      ∃ concrete,
        tracking.concrete[other]? = some concrete ∧
          pattern.covers concrete.segments = true := by
  rw [coveredBy, Std.ExtTreeMap.mem_keys,
    Std.ExtTreeMap.mem_iff_isSome_getElem?, Std.ExtTreeMap.getElem?_filter',
    Option.isSome_iff_exists]
  simp only [Option.filter_eq_some_iff]

theorem mem_coveredPairs
    {tracking : Tracking}
    {name other : String} :
    (name, other) ∈ tracking.coveredPairs ↔
      ∃ pattern concrete,
        tracking.patterns[name]? = some pattern ∧
          tracking.concrete[other]? = some concrete ∧
            pattern.segments.covers concrete.segments = true := by
  simp only [coveredPairs, List.mem_flatMap, List.mem_map, Prod.exists,
    Std.ExtTreeMap.mem_toList_iff_getElem?_eq_some, mem_coveredBy,
    Prod.mk.injEq]
  constructor
  · rintro ⟨_, pattern, found, _, ⟨concrete, foundOther, covers⟩, rfl, rfl⟩
    exact ⟨pattern, concrete, found, foundOther, covers⟩
  · rintro ⟨pattern, concrete, found, foundOther, covers⟩
    exact ⟨name, pattern, found, other, ⟨concrete, foundOther, covers⟩,
      rfl, rfl⟩

theorem nodup_coveredPairs (tracking : Tracking) :
    tracking.coveredPairs.Nodup :=
  TextMap.nodup_pairs tracking.patterns
    (fun pattern => tracking.coveredBy pattern.segments)
    fun _ => Std.ExtTreeMap.nodup_keys

/-- A tracked pattern is linked to the concrete addresses it covers. -/
theorem LinkGraph.mem_links_pattern_iff
    {tracking : Tracking}
    (graph : LinkGraph tracking)
    {name other : String}
    {pattern concrete : Tracked}
    (found : (tracking.on .pattern)[name]? = some pattern)
    (foundOther : (tracking.on .concrete)[other]? = some concrete) :
    other ∈ tracking.links ⟨.pattern, name⟩ ↔
      pattern.segments.covers concrete.segments = true := by
  have kept := segments?_of_entry found
  have keptAcross := segments?_of_entry foundOther
  have kind := congrArg Place.side (graph.placed kept)
  rw [graph.mem_links_iff_meets kept keptAcross,
    Address.meets_of_pattern kind]
  rfl

/-- The links of patterns are the pairs of which one covers the other. -/
theorem LinkGraph.mem_linkPairs_iff
    {tracking : Tracking}
    (graph : LinkGraph tracking)
    {name other : String} :
    (name, other) ∈ tracking.linkPairs .pattern ↔
      (name, other) ∈ tracking.coveredPairs := by
  rw [mem_linkPairs, mem_coveredPairs]
  constructor
  · intro linked
    obtain ⟨_, _, kept, keptAcross, _⟩ := graph.mem_links_iff.mp linked
    obtain ⟨pattern, found, _⟩ := Option.map_eq_some_iff.mp kept
    obtain ⟨concrete, foundOther, _⟩ :=
      Option.map_eq_some_iff.mp keptAcross
    exact ⟨pattern, concrete, found, foundOther,
      (graph.mem_links_pattern_iff found foundOther).mp linked⟩
  · rintro ⟨pattern, concrete, found, foundOther, covers⟩
    exact (graph.mem_links_pattern_iff found foundOther).mpr covers

/-- Each covered pair is one link. -/
theorem LinkGraph.linkCount_eq
    {tracking : Tracking}
    (graph : LinkGraph tracking) :
    tracking.linkCount = tracking.coveredPairs.length := by
  have samePairs :
      (tracking.linkPairs .pattern).Perm tracking.coveredPairs := by
    apply (List.perm_ext_iff_of_nodup (nodup_linkPairs _ _)
      (nodup_coveredPairs _)).mpr
    rintro ⟨name, other⟩
    exact graph.mem_linkPairs_iff
  calc
    tracking.linkCount = tracking.linkTotal .pattern :=
      graph.linkTotal_opposite .pattern
    _ = (tracking.linkPairs .pattern).length :=
      (length_linkPairs tracking .pattern).symm
    _ = tracking.coveredPairs.length := samePairs.length_eq

end Tracking

namespace Ledger

/-- The texts of the patterns that live bindings were made on. -/
def patternTexts (ledger : Ledger) : TextSet :=
  .ofList
    ((ledger.contents.filter fun binding => binding.address.hasWildcard).map
      fun binding => binding.address.raw)

theorem mem_patternTexts
    {ledger : Ledger}
    {raw : String} :
    raw ∈ ledger.patternTexts ↔ ledger.BoundOn .pattern raw := by
  rw [patternTexts, Std.ExtTreeSet.mem_ofList, List.contains_iff_mem]
  simp only [List.mem_map, List.mem_filter, TextMap.mem_contents, BoundOn,
    Address.side_eq_pattern_iff]
  constructor
  · rintro ⟨binding, ⟨⟨name, found⟩, pattern⟩, own⟩
    exact ⟨name, binding, found, own, pattern⟩
  · rintro ⟨name, binding, found, own, pattern⟩
    exact ⟨binding, ⟨⟨name, found⟩, pattern⟩, own⟩

end Ledger

namespace Index

/-- As good as new: nothing is kept but how often sets were opened. -/
def Untouched
    (index : Index)
    (tokens : Tokens) :
    Prop :=
  index = { tokens, table := { opened := index.table.opened } }

/-- What the sizes of an index and its tracked addresses tell of the live. -/
structure Tallies
    (index : Index)
    (tokens : Tokens)
    (live : Ledger) : Prop where
  bindings : index.sizes.bindings = live.size
  /-- A pattern is counted once, however many bindings were made on it. -/
  patterns : index.sizes.patterns = live.patternTexts.size
  occupied : index.sizes.occupied = index.sizes.tracked
  /-- Links are counted by the pairs of tracked addresses that match. -/
  links : index.sizes.links = index.tracking.coveredPairs.length
  reached :
    ∀ raw, index.contains raw = true → Ledger.Reached live tokens raw
  zero : index.sizes = {} ↔ live = ∅
  untouched : live = ∅ → index.Untouched tokens

namespace Canonical

variable {index : Index}

theorem patterns_size
    (canonical : Canonical index) :
    index.tracking.patterns.size =
      (Ledger.patternTexts index.table.live).size := by
  rw [← Std.ExtTreeSet.length_toList]
  apply TextMap.size_eq_length (TextSet.nodup_toList _)
  intro raw
  rw [canonical.mem_patterns_iff, Std.ExtTreeSet.mem_toList,
    Ledger.mem_patternTexts]

/-- Every tracked text has one set, and no other text has one. -/
theorem sets_size
    (canonical : Canonical index) :
    index.table.sets.size =
      index.tracking.concrete.size + index.tracking.patterns.size := by
  have distinct :
      (index.tracking.concrete.keys ++
        index.tracking.patterns.keys).Nodup := by
    refine List.nodup_append.mpr
      ⟨Std.ExtTreeMap.nodup_keys, Std.ExtTreeMap.nodup_keys, ?_⟩
    rintro raw concrete _ pattern rfl
    rw [Std.ExtTreeMap.mem_keys] at concrete pattern
    exact canonical.not_mem_patterns_of_mem_concrete concrete pattern
  rw [← Std.ExtTreeMap.length_keys (t := index.tracking.concrete),
    ← Std.ExtTreeMap.length_keys (t := index.tracking.patterns),
    ← List.length_append]
  apply TextMap.size_eq_length distinct
  intro raw
  rw [canonical.mem_sets_iff, List.mem_append, Std.ExtTreeMap.mem_keys,
    Std.ExtTreeMap.mem_keys]

/-- With the last live binding everything else is gone as well. -/
theorem untouched
    (canonical : Canonical index)
    (nothingLive : index.table.live = ∅) :
    index.Untouched index.tokens := by
  have nothingRouted : index.tracking.routed = ∅ := by
    apply Std.ExtTreeSet.eq_empty_iff_forall_not_mem.mpr
    intro raw isRouted
    obtain ⟨name, binding, found, _⟩ := (canonical.routed isRouted).1
    simp [nothingLive] at found
  -- A fresh index has no live bindings and no routed texts either.
  have fresh : Canonical { tokens := index.tokens } := .start index.tokens
  have sets := canonical.sets_eq fresh rfl nothingLive nothingRouted
  have tracking :=
    canonical.tracking_eq fresh rfl nothingLive nothingRouted
  rcases index with ⟨tokens, ⟨sets, live, opened⟩, tracking⟩
  simp_all [Untouched]

theorem tallies
    (canonical : Canonical index) :
    index.Tallies index.tokens index.table.live where
  bindings := rfl
  patterns := canonical.patterns_size
  occupied := canonical.sets_size
  links := canonical.graph.linkCount_eq
  reached raw tracked := by
    apply canonical.reached_of_known
    rw [← canonical.occupied_iff, Table.occupied_eq_isSome]
    exact (canonical.contains_eq raw).symm.trans tracked
  zero := by
    constructor
    · intro zero
      exact Std.ExtTreeMap.eq_empty_iff_size_eq_zero.mpr
        (congrArg IndexSizes.bindings zero)
    · intro nothingLive
      rw [canonical.untouched nothingLive]
      rfl
  untouched := canonical.untouched

end Canonical

end Index

namespace Broker

/-- What a broker asks of its router to answer a request. -/
def Request.routing? : Request → Option Router.Request
  | .router request => some request
  | .publish message => some (.route message.address)
  | _ => none

/-- For the router it makes no difference why something is sent. -/
theorem router_answer
    (broker : Broker)
    (request : Request) :
    (broker.answer request).2.router =
      match request.routing? with
      | none => broker.router
      | some asked => (broker.router.answer asked).2 := by
  cases request with
  | publish message =>
      simp only [answer, publish, Request.routing?, Router.answer]
      split <;> rfl
  | _ =>
      rfl

/-- The router of a broker changes as if it were asked alone. -/
theorem router_run
    (broker : Broker)
    (requests : List Request) :
    (broker.run requests).2.router =
      (broker.router.run (requests.filterMap Request.routing?)).2 := by
  induction requests generalizing broker with
  | nil =>
      rfl
  | cons request rest inductionHypothesis =>
      simp only [run, inductionHypothesis, router_answer]
      cases asked : request.routing? <;>
        simp [asked, Router.run]

end Broker

namespace Router

/-- Names that are unbound one after the other are bound no more. -/
theorem live_unbindAll
    (router : Router)
    (names : List String) :
    (router.run (names.map .unbind)).2.table.live =
      names.foldl Std.ExtTreeMap.erase router.table.live := by
  induction names generalizing router with
  | nil =>
      rfl
  | cons name rest inductionHypothesis =>
      have ended :
          (router.answer (.unbind name)).2.table.live =
            router.table.live.erase name := by
        simp only [answer, unbind_eq]
        cases found : router.table.live[name]? with
        | none =>
            exact (TextMap.erase_of_absent found).symm
        | some binding =>
            exact live_ended router name binding
      simp only [List.map_cons, run, inductionHypothesis, ended,
        List.foldl_cons]

/-- Once all live names are unbound the index is as good as new. -/
theorem untouched_unbindAll
    {index : Index}
    (canonical : index.Canonical)
    {names : List String}
    (named : ∀ name ∈ index.table.live, name ∈ names) :
    ∃ emptied,
      ((Router.wildcard index).run (names.map .unbind)).2 =
          .wildcard emptied ∧
        emptied.Untouched index.tokens := by
  have sound : (Router.wildcard index).Sound := canonical
  obtain ⟨lastSound, lastConfig⟩ := sound.run (names.map .unbind)
  have nothingLive :
      ((Router.wildcard index).run (names.map .unbind)).2.table.live = ∅ := by
    rw [live_unbindAll]
    apply TextMap.eq_of_entries
    intro name binding
    rw [Bindings.getElem?_foldl_erase]
    constructor
    · rintro ⟨found, unnamed⟩
      have isLive := Std.ExtTreeMap.mem_iff_isSome_getElem?.mpr
        (Option.isSome_of_eq_some found)
      exact (unnamed (named name isLive)).elim
    · intro nothing
      simp at nothing
  obtain ⟨emptied, last⟩ :
      ∃ emptied,
        ((Router.wildcard index).run (names.map .unbind)).2 =
          .wildcard emptied :=
    ⟨_, (run_wildcard index (names.map .unbind)).1⟩
  rw [last] at lastSound lastConfig nothingLive
  have sameTokens : emptied.tokens = index.tokens :=
    congrArg RouterConfig.tokens lastConfig
  exact ⟨emptied, last,
    sameTokens ▸ Index.Canonical.untouched lastSound nothingLive⟩

end Router

/--
After any requests to a broker with wildcard routing the sizes of its index
count what is live, and nothing else is tracked.  When the live names are
then unbound, in whatever order, the index is as good as new.
-/
theorem sizes_tally_live_bindings
    {config : RouterConfig}
    {router : Router}
    (wildcard : config.wildcardRouting = true)
    (created : Router.create config = .ok router)
    (sinks : Sinks)
    (counts : DeliveryCounts)
    (requests : List Broker.Request) :
    let asked := requests.filterMap Broker.Request.routing?
    let live := Ledger.after (router.accepted asked)
    let final := (Broker.run { router, sinks, counts } requests).2
    ∃ index,
      final.router = .wildcard index ∧
        index.Tallies config.tokens live ∧
          ∀ names : List String,
            (∀ name ∈ live, name ∈ names) →
              ∃ emptied,
                (final.run (names.map (.router ∘ .unbind))).2.router =
                    .wildcard emptied ∧
                  emptied.Untouched config.tokens := by
  intro asked live final
  cases Router.eq_wildcard_of_create wildcard created
  obtain ⟨sound, _, nothingLive⟩ := Router.sound_of_create created
  obtain ⟨finalSound, finalConfig⟩ := sound.run asked
  have sameRouter :
      final.router =
        (Router.run (.wildcard { tokens := config.tokens }) asked).2 :=
    Broker.router_run _ requests
  have finalLive : final.router.table.live = live := by
    rw [sameRouter, Router.live_run, nothingLive]
    rfl
  rw [← sameRouter] at finalSound finalConfig
  cases finalRouter : final.router with
  | flat tokens table =>
      simp [finalRouter, Router.config] at finalConfig
  | wildcard index =>
      rw [finalRouter] at finalSound finalConfig finalLive
      have canonical : index.Canonical := finalSound
      have sameTokens : index.tokens = config.tokens :=
        congrArg RouterConfig.tokens finalConfig
      rw [← sameTokens, ← finalLive]
      refine ⟨index, rfl, canonical.tallies, ?_⟩
      intro names named
      have unbinds :
          (names.map (Broker.Request.router ∘ .unbind)).filterMap
              Broker.Request.routing? =
            names.map .unbind := by
        rw [List.filterMap_map]
        exact congrFun List.filterMap_eq_map names
      rw [Broker.router_run, finalRouter, unbinds]
      exact Router.untouched_unbindAll canonical named

/-- Two patterns, an address sent to under both and one bound under none. -/
theorem published_text_goes_with_last_pattern :
    let requests : List Broker.Request :=
      [.router (.bind "orders.*" "audit" "log"), .publish ⟨"orders.eu", []⟩,
        .router (.bind "orders.#" "all" "log"),
        .router (.bind "parcels" "van" "van"),
        .router (.route "orders.us.west")]
    let final := (Broker.run { router := Router.empty {} } requests).2
    ∃ index emptied,
      final.router = .wildcard index ∧
        index.sizes = ⟨3, 5, 3, 2, 3⟩ ∧
          index.tracking.coveredPairs.length = 3 ∧
            (final.run (["van", "all", "audit"].map
                (.router ∘ .unbind))).2.router = .wildcard emptied ∧
              emptied.Untouched {} := by
  intro requests final
  have created : Router.create {} = .ok (Router.empty {}) := by
    rfl
  obtain ⟨index, isWildcard, tallies, empties⟩ :=
    sizes_tally_live_bindings rfl created ∅ {} requests
  have named :
      ∀ name ∈ (Ledger.after ((Router.empty {}).accepted
          (requests.filterMap Broker.Request.routing?))).keys,
        name ∈ ["van", "all", "audit"] := by
    decide +kernel
  obtain ⟨emptied, isEmptied, untouched⟩ :=
    empties ["van", "all", "audit"]
      fun name isLive => named name (Std.ExtTreeMap.mem_keys.mpr isLive)
  have sizes : index.sizes = ⟨3, 5, 3, 2, 3⟩ := by
    have told : final.router.sizes = ⟨3, 5, 3, 2, 3⟩ := by
      decide +kernel
    rwa [show final.router = .wildcard index from isWildcard] at told
  exact ⟨index, emptied, isWildcard, sizes,
    tallies.links.symm.trans (congrArg IndexSizes.links sizes),
    isEmptied, untouched⟩

end BrokerRouting
