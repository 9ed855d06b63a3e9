import BrokerRouting.Proofs.CanonicalHistory

namespace BrokerRouting

/-!
# Routing as a flat registry

The registry of a run knows only the accepted calls: what was bound since the
last clearing, less what was unbound.  Going through all of it gives the same
answers as the sets, the links and the tracked addresses.
-/

namespace Index

/-- Whether a call is carried out rather than refused. -/
def accepts (index : Index) : Change → Bool
  | .bind binding => (index.bind binding).isOk
  | .unbind name => (index.unbind name).isOk
  | .route _ => true
  | .clear => true

/-- The calls of a history that are carried out. -/
def accepted (index : Index) : History → History
  | [] => []
  | change :: rest =>
      if index.accepts change then
        change :: (index.apply change).accepted rest
      else
        (index.apply change).accepted rest

/-- Recording a refused call would leave the live bindings as they are. -/
theorem record_of_refused
    {index : Index}
    {change : Change}
    (refused : ¬index.accepts change = true) :
    Ledger.record index.table.live change = index.table.live := by
  cases change with
  | bind binding =>
      cases taken : index.table.live.contains binding.name with
      | true =>
          simp [Ledger.record, taken]
      | false =>
          simp [accepts, bind_eq, taken, Except.isOk, Except.toBool] at refused
  | unbind name =>
      cases found : index.table.live[name]? with
      | none =>
          exact TextMap.erase_of_absent found
      | some binding =>
          simp [accepts, unbind_eq, found, Except.isOk, Except.toBool]
            at refused
  | route raw =>
      rfl
  | clear =>
      simp [accepts] at refused

/-- The live bindings are those of the registry of accepted calls. -/
theorem live_after
    (tokens : Tokens)
    (history : History) :
    (Index.after tokens history).table.live =
      Ledger.after (({ tokens } : Index).accepted history) := by
  -- The registry is folded from any live bindings, not only from none.
  have general :
      ∀ (index : Index),
        (history.foldl apply index).table.live =
          (index.accepted history).foldl Ledger.record
            index.table.live := by
    induction history with
    | nil =>
        intro index
        rfl
    | cons change rest inductionHypothesis =>
        intro index
        rw [List.foldl_cons, inductionHypothesis, live_apply, accepted]
        split
        · rfl
        · rename_i refused
          rw [record_of_refused refused]
  exact general { tokens }

namespace Canonical

variable {index : Index}

/-- Sending makes a text routed if it was unknown and can be reached. -/
theorem mem_routed_route_iff
    (canonical : Canonical index)
    {raw other : String} :
    other ∈ (index.apply (.route raw)).tracking.routed ↔
      other ∈ index.tracking.routed ∨
        raw = other ∧
          ¬index.Known raw ∧
            Ledger.Reached index.table.live index.tokens raw := by
  have made := step_apply index (.route raw)
  generalize index.apply (.route raw) = next at made
  cases made with
  | routeSettled raw settled =>
      constructor
      · exact Or.inl
      · rintro (isRouted | ⟨_, unknown, reached⟩)
        · exact isRouted
        · have vacant := canonical.lookup?_eq_none_iff.mpr unknown
          obtain ⟨address, covered⟩ :=
            canonical.covered_of_reached unknown reached
          cases (settled vacant).symm.trans covered
  | @route raw address visiting vacant covered =>
      have unknown := canonical.lookup?_eq_none_iff.mp vacant
      obtain ⟨parsed, kind, covers⟩ := covered?_eq_some_iff.mp covered
      have reached := canonical.reached_of_covers parsed kind covers
      simp only [Index.sentTo, Tracking.markRouted, Tracking.routed_track,
        Std.ExtTreeSet.mem_insert, Std.compare_eq_iff_eq, unknown, reached,
        not_false_eq_true, and_true]
      exact or_comm

/-- Once it has been sent to, a text that can be reached is known. -/
theorem known_route
    (canonical : Canonical index)
    {raw : String}
    (reached : Ledger.Reached index.table.live index.tokens raw) :
    (index.apply (.route raw)).Known raw := by
  have sameLive := (step_apply index (.route raw)).live_eq
  by_cases known : index.Known raw
  · rcases known with isRouted | bound
    · exact Or.inl (canonical.mem_routed_route_iff.mpr (Or.inl isRouted))
    · exact Or.inr (sameLive ▸ bound)
  · exact Or.inl
      (canonical.mem_routed_route_iff.mpr (Or.inr ⟨rfl, known, reached⟩))

/-- Sending to a text reaches exactly the live bindings that reach it. -/
theorem route_fst_eq
    (canonical : Canonical index)
    (raw : String) :
    (index.route raw).1 =
      Ledger.reaching index.tokens index.table.live raw := by
  have made := step_apply index (.route raw)
  have next : Canonical (index.apply (.route raw)) :=
    canonical.step made trivial
  have sameLive : (index.apply (.route raw)).table.live =
      index.table.live := made.live_eq
  have sameTokens := made.tokens_eq
  rw [route_fst]
  apply TextMap.eq_of_entries
  intro name binding
  change ((index.apply (.route raw)).table.bindingsAt raw)[name]? = _ ↔ _
  rw [next.held, Ledger.getElem?_reaching, sameLive, sameTokens]
  constructor
  · intro holds
    obtain ⟨_, found⟩ := holds
    exact found
  · intro holds
    obtain ⟨found, reaches⟩ := holds
    exact ⟨canonical.known_route ⟨name, binding, found, reaches⟩,
      found, reaches⟩

end Canonical

end Index

/-- Bindings with distinct names are distinct. -/
theorem Binding.nodup_of_nodup_names
    {bindings : List Binding}
    (distinct : (bindings.map Binding.name).Nodup) :
    bindings.Nodup :=
  (List.pairwise_map.mp distinct).imp
    fun namesDiffer same => namesDiffer (congrArg Binding.name same)

namespace Bindings

/-- In a keyed map no name occurs twice among the contents. -/
theorem Keyed.nodup_names
    {bindings : Bindings}
    (keyed : bindings.Keyed) :
    (bindings.contents.map Binding.name).Nodup := by
  have names : bindings.contents.map Binding.name = bindings.keys := by
    rw [TextMap.contents, List.map_map,
      ← Std.ExtTreeMap.map_fst_toList_eq_keys]
    apply List.map_congr_left
    rintro ⟨name, binding⟩ member
    exact keyed (Std.ExtTreeMap.mem_toList_iff_getElem?_eq_some.mp member)
  rw [names]
  exact Std.ExtTreeMap.nodup_keys

theorem Keyed.nodup_contents
    {bindings : Bindings}
    (keyed : bindings.Keyed) :
    bindings.contents.Nodup :=
  Binding.nodup_of_nodup_names keyed.nodup_names

theorem Keyed.mem_contents
    {bindings : Bindings}
    (keyed : bindings.Keyed)
    {binding : Binding} :
    binding ∈ bindings.contents ↔
      bindings[binding.name]? = some binding := by
  rw [← keyed.mem_contents_iff]
  simp

end Bindings

namespace Ledger

/-- What sending to a text has to give, told from the live bindings alone. -/
structure Resolves
    (live : Ledger)
    (tokens : Tokens)
    (raw : String)
    (answer : List Binding) : Prop where
  /-- No binding is given twice. -/
  distinct : (answer.map Binding.name).Nodup
  /-- A concrete address gives its own bindings and those covering it. -/
  concrete :
    ∀ address,
      Address.parse tokens raw = .ok address →
      address.hasWildcard = false →
      ∀ binding,
        binding ∈ answer ↔
          live[binding.name]? = some binding ∧
            (binding.address.raw = raw ∨
              binding.address.hasWildcard = true ∧
                binding.address.covers address = true)
  /-- A pattern gives its own bindings only. -/
  pattern :
    ∀ address,
      Address.parse tokens raw = .ok address →
      address.hasWildcard = true →
      ∀ binding,
        binding ∈ answer ↔
          live[binding.name]? = some binding ∧
            binding.address.raw = raw
  unreadable :
    ∀ refusal, Address.parse tokens raw = .error refusal → answer = []

/-- What reaches a text is kept under its names as it is among the live. -/
theorem keyed_reaching
    {live : Ledger}
    (keyed : Bindings.Keyed live)
    (tokens : Tokens)
    (raw : String) :
    Bindings.Keyed (live.reaching tokens raw) :=
  fun found => keyed (getElem?_reaching.mp found).1

/-- Going through all live bindings resolves every text. -/
theorem resolves_reaching
    {live : Ledger}
    (keyed : Bindings.Keyed live)
    (tokens : Tokens)
    (raw : String) :
    live.Resolves tokens raw (live.reaching tokens raw).contents := by
  have reachedKeyed : Bindings.Keyed (live.reaching tokens raw) :=
    keyed_reaching keyed tokens raw
  refine
    { distinct := reachedKeyed.nodup_names
      concrete := ?_
      pattern := ?_
      unreadable := ?_ }
  · intro address parsed kind binding
    rw [reachedKeyed.mem_contents, getElem?_reaching,
      Binding.reaches_iff parsed, Address.side_eq_concrete_iff,
      Address.side_eq_pattern_iff]
    simp only [kind, true_and]
  · intro address parsed kind binding
    rw [reachedKeyed.mem_contents, getElem?_reaching,
      Binding.reaches_iff parsed, Address.side_eq_concrete_iff]
    simp only [kind, Bool.true_eq_false, false_and, or_false]
  · intro refusal parsed
    simp [reaching, parsed, TextMap.contents]

end Ledger

namespace Router

def Reply.isRefused : Reply → Bool
  | .refused _ => true
  | _ => false

/-- The calls among some requests that are carried out, as the replies tell. -/
def accepted (router : Router) : List Request → History
  | [] => []
  | request :: rest =>
      let (reply, next) := router.answer request
      match request.change? router with
      | none => next.accepted rest
      | some change =>
          if reply.isRefused then next.accepted rest
          else change :: next.accepted rest

theorem eq_wildcard_of_create
    {config : RouterConfig}
    {router : Router}
    (wildcard : config.wildcardRouting = true)
    (created : create config = .ok router) :
    router = .wildcard { tokens := config.tokens } := by
  unfold create at created
  cases checked : config.validate with
  | error refusal =>
      rw [checked] at created
      cases created
  | ok _ =>
      rw [checked] at created
      cases created
      simp [empty, wildcard]

/-- Sending through the router is sending through its index. -/
theorem route_wildcard
    (index : Index)
    (raw : String) :
    (Router.wildcard index).route raw =
      ((index.route raw).1, .wildcard (index.route raw).2) := by
  simp only [route]
  cases known : index.peek? raw with
  | none =>
      rfl
  | some bindings =>
      have settled : index.route raw = (bindings, index) := by
        unfold Index.peek? at known
        cases found : index.lookup? raw with
        | some held =>
            rw [found] at known
            cases known
            exact Index.route_of_occupied found
        | none =>
            rw [found] at known
            have vacant : index.table.occupied raw = false := by
              rw [Table.occupied_eq_isSome]
              exact congrArg Option.isSome found
            cases covered : index.covered? raw with
            | some address =>
                simp [Index.needsTracking, vacant, covered] at known
            | none =>
                simp only [Index.needsTracking, vacant, covered] at known
                cases known
                exact Index.route_of_uncovered found covered
      rw [settled]

/-- A request that makes a call changes the index as the call does. -/
theorem answer_of_change
    {index : Index}
    {request : Request}
    {change : Change}
    (made : request.change? (.wildcard index) = some change) :
    (answer (.wildcard index) request).2 =
        .wildcard (index.apply change) ∧
      (answer (.wildcard index) request).1.isRefused =
        !index.accepts change := by
  cases request with
  | bind raw name target =>
      cases parsed : parse (.wildcard index) raw with
      | error refusal =>
          simp [Request.change?, parsed] at made
      | ok address =>
          simp only [Request.change?, parsed, Option.some.injEq] at made
          subst made
          simp only [answer, bind, parsed, Index.apply, Index.make,
            Index.accepts]
          cases index.bind ⟨name, address, target⟩ <;>
            exact ⟨rfl, rfl⟩
  | unbind name =>
      cases made
      simp only [answer, unbind, Index.apply, Index.make, Index.accepts]
      cases index.unbind name <;> exact ⟨rfl, rfl⟩
  | route raw =>
      cases made
      simp only [answer, route_wildcard, Index.apply, Index.make,
        Index.accepts]
      exact ⟨trivial, rfl⟩
  | clear =>
      cases made
      exact ⟨rfl, rfl⟩
  | _ =>
      cases made

/-- Any other request leaves the index as it was. -/
theorem answer_of_no_change
    {index : Index}
    {request : Request}
    (none : request.change? (.wildcard index) = none) :
    (answer (.wildcard index) request).2 = .wildcard index := by
  cases request with
  | bind raw name target =>
      cases parsed : parse (.wildcard index) raw with
      | error refusal =>
          simp only [answer, bind, parsed]
      | ok address =>
          simp [Request.change?, parsed] at none
  | parse raw =>
      simp only [answer]
      split <;> rfl
  | unbind | route | clear =>
      cases none
  | _ =>
      rfl

/-- The calls that requests make depend on the tokens only. -/
theorem change?_congr
    {index other : Index}
    (sameTokens : index.tokens = other.tokens) :
    Request.change? (.wildcard index) =
      Request.change? (.wildcard other) := by
  funext request
  cases request <;> simp [Request.change?, parse, Index.parse, sameTokens]

theorem readWith_of_change
    {index : Index}
    {request : Request}
    {change : Change}
    (made : request.change? (.wildcard index) = some change) :
    change.ReadWith index.tokens := by
  cases request with
  | bind raw name target =>
      cases parsed : parse (.wildcard index) raw with
      | error refusal =>
          simp [Request.change?, parsed] at made
      | ok address =>
          simp only [Request.change?, parsed, Option.some.injEq] at made
          subst made
          exact Address.parse_raw parsed
  | unbind | route | clear =>
      cases made
      trivial
  | _ =>
      cases made

/-- A run of requests is the history of the calls that they make. -/
theorem run_wildcard
    (index : Index)
    (requests : List Request) :
    (run (.wildcard index) requests).2 =
        .wildcard
          ((requests.filterMap (Request.change? (.wildcard index))).foldl
            Index.apply index) ∧
      accepted (.wildcard index) requests =
        index.accepted
          (requests.filterMap (Request.change? (.wildcard index))) := by
  induction requests generalizing index with
  | nil =>
      exact ⟨rfl, rfl⟩
  | cons request rest inductionHypothesis =>
      simp only [run, accepted]
      cases made : request.change? (.wildcard index) with
      | none =>
          rw [answer_of_no_change made, List.filterMap_cons_none made]
          exact inductionHypothesis index
      | some change =>
          obtain ⟨next, refused⟩ := answer_of_change made
          have sameCalls :
              Request.change? (.wildcard index) =
                Request.change? (.wildcard (index.apply change)) :=
            change?_congr (Index.step_apply index change).tokens_eq.symm
          rw [next, refused, List.filterMap_cons_some made, sameCalls]
          obtain ⟨final, calls⟩ :=
            inductionHypothesis (index.apply change)
          refine ⟨final, ?_⟩
          rw [calls, Index.accepted]
          cases index.accepts change <;> rfl

end Router

namespace Index

/-- After any history over addresses it read, an index answers as told. -/
theorem resolves_after
    {tokens : Tokens}
    {history : History}
    (read : ∀ change ∈ history, change.ReadWith tokens)
    (raw : String) :
    (Ledger.after (({ tokens } : Index).accepted history)).Resolves tokens
      raw ((Index.after tokens history).route raw).1.contents := by
  obtain ⟨hasTokens, canonical⟩ := Canonical.after read
  rw [canonical.route_fst_eq, hasTokens, ← live_after]
  exact Ledger.resolves_reaching canonical.keyed tokens raw

theorem find?_after
    (tokens : Tokens)
    (history : History)
    (name : String) :
    (Index.after tokens history).find? name =
      (Ledger.after (({ tokens } : Index).accepted history))[name]? := by
  rw [← live_after]
  rfl

end Index

/--
A router with wildcard routing, after any requests, and an index with any
tokens, after any history over addresses read with them, resolve every text
and find every name as the registry of the accepted calls does.
-/
theorem routing_refines_flat_registry :
    (∀ (config : RouterConfig) (router : Router)
        (requests : List Router.Request),
        config.wildcardRouting = true →
        Router.create config = .ok router →
        let live := Ledger.after (router.accepted requests)
        let final := (router.run requests).2
        (∀ raw,
          live.Resolves config.tokens raw (final.route raw).1.contents) ∧
          ∀ name, final.find? name = live[name]?) ∧
      ∀ (tokens : Tokens) (history : History),
        (∀ change ∈ history, change.ReadWith tokens) →
        let live := Ledger.after (({ tokens } : Index).accepted history)
        let final := Index.after tokens history
        (∀ raw, live.Resolves tokens raw (final.route raw).1.contents) ∧
          ∀ name, final.find? name = live[name]? := by
  constructor
  · intro config router requests wildcard created live final
    have fresh : router = .wildcard { tokens := config.tokens } :=
      Router.eq_wildcard_of_create wildcard created
    subst fresh
    obtain ⟨finalEq, acceptedEq⟩ :=
      Router.run_wildcard { tokens := config.tokens } requests
    have read :
        ∀ change ∈ requests.filterMap
            (Router.Request.change? (.wildcard { tokens := config.tokens })),
          change.ReadWith config.tokens := by
      intro change member
      obtain ⟨request, _, made⟩ := List.mem_filterMap.mp member
      exact Router.readWith_of_change made
    simp only [live, final, finalEq, acceptedEq, Router.route_wildcard]
    exact ⟨Index.resolves_after read, Index.find?_after config.tokens _⟩
  · intro tokens history read live final
    exact ⟨Index.resolves_after read, Index.find?_after tokens history⟩

/-- A binding is still routed to after a second one of its name is refused. -/
theorem registered_binding_is_routed :
    let audit : Binding :=
      ⟨"audit", ⟨"orders.*", [.literal "orders", .singleWord]⟩, "log"⟩
    let requests : List Router.Request :=
      [.bind "orders.*" "audit" "log", .bind "orders.eu" "audit" "van"]
    let history : History := [.bind audit, .route "orders.us"]
    audit ∈
        (((Router.empty {}).run requests).2.route
          "orders.eu").1.contents ∧
      audit ∈ ((Index.after {} history).route "orders.eu").1.contents := by
  intro audit requests history
  have parsed :
      Address.parse {} "orders.eu" =
        .ok ⟨"orders.eu", [.literal "orders", .literal "eu"]⟩ := by
    rfl
  have read : ∀ change ∈ history, change.ReadWith {} := by
    have auditRead : audit.ReadWith {} := by
      change Address.parse {} "orders.*" = _
      rfl
    simp only [history, List.forall_mem_cons]
    exact ⟨auditRead, trivial, by simp⟩
  obtain ⟨routers, indexes⟩ := routing_refines_flat_registry
  obtain ⟨routerResolves, _⟩ :=
    routers {} (Router.empty {}) requests rfl rfl
  obtain ⟨indexResolves, _⟩ := indexes {} history read
  constructor
  · refine ((routerResolves _).concrete _ parsed rfl audit).mpr ?_
    exact ⟨by decide +kernel, Or.inr ⟨rfl, by decide +kernel⟩⟩
  · refine ((indexResolves _).concrete _ parsed rfl audit).mpr ?_
    exact ⟨by decide +kernel, Or.inr ⟨rfl, by decide +kernel⟩⟩

end BrokerRouting
