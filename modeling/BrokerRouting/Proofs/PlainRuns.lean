import BrokerRouting.Proofs.CanonicalForm
import BrokerRouting.Proofs.RouterCalls

namespace BrokerRouting

/-!
# Runs without patterns

As long as every binding is made on a concrete address, an index links
nothing, routes nothing and tracks exactly the texts that have a set: its
table is a flat table.  A router with wildcard routing and one without then
give the same replies to the same requests, although they read the addresses
of their bindings differently.
-/

/-- Maps over the same texts have the same size. -/
theorem TextMap.size_eq_of_mem_iff
    {First Second : Type}
    {first : TextMap First}
    {second : TextMap Second}
    (sameTexts : ∀ text, text ∈ first ↔ text ∈ second) :
    first.size = second.size := by
  rw [← Std.ExtTreeMap.length_keys (t := second)]
  apply TextMap.size_eq_length Std.ExtTreeMap.nodup_keys
  intro text
  rw [sameTexts, Std.ExtTreeMap.mem_keys]

/-- A text that reads as an address can be taken as one given word. -/
theorem Address.literal_of_parse
    {tokens : Tokens}
    {raw : String}
    {address : Address}
    (parsed : Address.parse tokens raw = .ok address) :
    Address.literal raw = .ok ⟨raw, [.literal raw]⟩ := by
  have nonempty : raw ≠ "" := by
    rintro rfl
    cases parsed
  rw [Address.literal, if_neg nonempty]

/--
The binding as it is told from outside, by its name, the text of its address
and its target.  The text stands for itself as one given word.
-/
def Binding.plain (binding : Binding) : Binding :=
  { binding with
    address := ⟨binding.address.raw, [.literal binding.address.raw]⟩ }

/-- Every binding as it is told from outside. -/
def Bindings.plain (bindings : Bindings) : Bindings :=
  bindings.map fun _ binding => binding.plain

namespace Bindings

@[simp]
theorem getElem?_plain
    (bindings : Bindings)
    (name : String) :
    bindings.plain[name]? = bindings[name]?.map Binding.plain :=
  Std.ExtTreeMap.getElem?_map

@[simp]
theorem contains_plain
    (bindings : Bindings)
    (name : String) :
    bindings.plain.contains name = bindings.contains name :=
  Std.ExtTreeMap.contains_map

@[simp]
theorem size_plain (bindings : Bindings) :
    bindings.plain.size = bindings.size :=
  Std.ExtTreeMap.size_map

theorem plain_empty : (∅ : Bindings).plain = ∅ := by
  apply Std.ExtTreeMap.ext_getElem?
  simp

theorem plain_add
    (bindings : Bindings)
    (binding : Binding) :
    (bindings.add binding).plain = bindings.plain.add binding.plain := by
  apply Std.ExtTreeMap.ext_getElem?
  intro name
  have sameName : binding.plain.name = binding.name := rfl
  simp only [getElem?_plain, getElem?_add, sameName]
  split <;> rfl

theorem plain_erase
    (bindings : Bindings)
    (name : String) :
    Bindings.plain (bindings.erase name) = bindings.plain.erase name := by
  apply Std.ExtTreeMap.ext_getElem?
  intro other
  simp only [getElem?_plain, getElem?_erase]
  split <;> rfl

end Bindings

namespace Ledger

theorem bound_plain_iff
    {ledger : Ledger}
    {raw : String} :
    Bound (Bindings.plain ledger) raw ↔ Bound ledger raw := by
  simp only [Bound, Bindings.getElem?_plain, Option.map_eq_some_iff]
  constructor
  · intro boundThere
    obtain ⟨name, _, ⟨binding, found, rfl⟩, own⟩ := boundThere
    exact ⟨name, binding, found, own⟩
  · intro boundThere
    obtain ⟨name, binding, found, own⟩ := boundThere
    exact ⟨name, binding.plain, ⟨binding, found, rfl⟩, own⟩

theorem boundTo_plain
    (ledger : Ledger)
    (raw : String) :
    boundTo (Bindings.plain ledger) raw = (ledger.boundTo raw).plain := by
  apply Std.ExtTreeMap.ext_getElem?
  intro name
  simp only [boundTo, Bindings.getElem?_plain,
    Std.ExtTreeMap.getElem?_filter']
  cases ledger[name]? with
  | none =>
      rfl
  | some binding =>
      by_cases own : binding.address.raw = raw <;>
        simp [Option.filter, Binding.plain, own]

end Ledger

namespace Index

/-- Nothing is routed, and no live binding was made on a pattern. -/
structure PatternFree (index : Index) : Prop where
  canonical : index.Canonical
  unrouted : index.tracking.routed = ∅
  concrete :
    ∀ {name : String} {binding : Binding},
      index.table.live[name]? = some binding →
      binding.address.side = .concrete

namespace PatternFree

variable
  {index : Index}
  {raw : String}

theorem known_iff (patternFree : PatternFree index) :
    index.Known raw ↔ Ledger.Bound index.table.live raw := by
  simp [Known, patternFree.unrouted]

/-- The table is a flat table. -/
theorem partitioned (patternFree : PatternFree index) :
    index.table.Partitioned where
  noEmptySet := patternFree.canonical.noEmptySet
  keyed := patternFree.canonical.keyed
  held {raw name binding} := by
    rw [patternFree.canonical.held, patternFree.known_iff]
    constructor
    · intro heldThere
      obtain ⟨_, found, reaches⟩ := heldThere
      exact ⟨found, Binding.raw_eq_of_reaches_of_concrete
        (patternFree.concrete found) reaches⟩
    · intro boundThere
      obtain ⟨found, rfl⟩ := boundThere
      have read := patternFree.canonical.read found
      exact ⟨⟨name, binding, found, rfl⟩, found, read.reaches_own⟩

/-- Only bindings keep patterns, and none was made on a pattern. -/
theorem patterns_eq (patternFree : PatternFree index) :
    index.tracking.patterns = ∅ := by
  apply Std.ExtTreeMap.eq_empty_iff_forall_not_mem.mpr
  intro raw tracked
  obtain ⟨name, binding, found, _, pattern⟩ :=
    patternFree.canonical.mem_patterns_iff.mp tracked
  cases (patternFree.concrete found).symm.trans pattern

/-- A link has a pattern at one of its ends. -/
theorem links_eq
    (patternFree : PatternFree index)
    (place : Place) :
    index.tracking.links place = ∅ := by
  have noPattern :
      ∀ name, index.tracking.segments? ⟨.pattern, name⟩ = none := by
    intro name
    simp [Tracking.segments?, Tracking.on, patternFree.patterns_eq]
  apply Std.ExtTreeSet.eq_empty_iff_forall_not_mem.mpr
  intro name linked
  obtain ⟨own, other, kept, keptAcross, _⟩ :=
    patternFree.canonical.graph.mem_links_iff.mp linked
  rcases place with ⟨side, ownName⟩
  cases side with
  | concrete =>
      cases (noPattern name).symm.trans keptAcross
  | pattern =>
      cases (noPattern ownName).symm.trans kept

theorem linked_eq
    (patternFree : PatternFree index)
    (raw : String) :
    index.linked raw = ∅ := by
  simp [linked, patternFree.links_eq]

/-- Nothing begins to be tracked by sending to it. -/
theorem route_eq
    (patternFree : PatternFree index)
    (raw : String) :
    index.route raw = (index.table.bindingsAt raw, index) := by
  have uncovered : index.covered? raw = none := by
    apply Option.eq_none_iff_forall_ne_some.mpr
    intro address covered
    have coveredByPattern := (covered?_eq_some_iff.mp covered).2.2
    simp [Tracking.covers, TextMap.contents, patternFree.patterns_eq]
      at coveredByPattern
  cases found : index.lookup? raw with
  | none =>
      have vacant : index.table.lookup? raw = none := found
      rw [route_of_uncovered found uncovered, Table.bindingsAt, vacant]
      rfl
  | some bindings =>
      have settled : index.table.lookup? raw = some bindings := found
      rw [route_of_occupied found, Table.bindingsAt, settled]
      rfl

theorem contains_eq
    (patternFree : PatternFree index)
    (raw : String) :
    index.contains raw = index.table.occupied raw := by
  rw [patternFree.canonical.contains_eq, Table.occupied_eq_isSome]
  rfl

/-- Every text with a set is a tracked concrete address. -/
theorem sizes_eq (patternFree : PatternFree index) :
    index.sizes =
      { bindings := index.table.bindingCount
        occupied := index.table.addressCount
        concrete := index.table.addressCount } := by
  have sameTexts :
      ∀ raw, raw ∈ index.tracking.concrete ↔ raw ∈ index.table.sets := by
    intro raw
    rw [patternFree.canonical.mem_sets_iff, patternFree.patterns_eq]
    simp
  have concreteSize :
      index.tracking.concrete.size = index.table.addressCount :=
    TextMap.size_eq_of_mem_iff sameTexts
  have linkCount : index.tracking.linkCount = 0 := by
    calc
      index.tracking.linkTotal .concrete =
          index.tracking.linkTotal .pattern :=
        patternFree.canonical.graph.linkTotal_opposite .pattern
      _ = 0 := by
        rw [Tracking.linkTotal, Tracking.on, patternFree.patterns_eq]
        rfl
  simp [sizes, concreteSize, linkCount, patternFree.patterns_eq]

/-- A cleared index has no bindings at all. -/
theorem clear (index : Index) : PatternFree index.clear where
  canonical := Canonical.clear index
  unrouted := rfl
  concrete found := by
    simp [Index.clear, Table.clear] at found

theorem bound
    (patternFree : PatternFree index)
    {binding : Binding}
    (read : binding.ReadWith index.tokens)
    (kind : binding.address.side = .concrete)
    (free : index.table.live[binding.name]? = none) :
    PatternFree (index.bound binding) where
  canonical := patternFree.canonical.bound read free
  unrouted := (Index.routed_bound index binding _).trans
    patternFree.unrouted
  concrete {name other} found := by
    rw [Index.live_bound, Index.live_added_iff free] at found
    rcases found with foundBefore | ⟨_, rfl⟩
    · exact patternFree.concrete foundBefore
    · exact kind

theorem ended
    (patternFree : PatternFree index)
    {name : String}
    {binding : Binding}
    (found : index.table.live[name]? = some binding) :
    PatternFree (index.ended name binding) where
  canonical := patternFree.canonical.ended found
  unrouted := by
    apply Std.ExtTreeSet.eq_empty_iff_forall_not_mem.mpr
    intro raw stays
    have wasRouted :=
      ((patternFree.canonical.mem_routed_ended_iff found).mp stays).1
    simp [patternFree.unrouted] at wasRouted
  concrete {other held} foundHeld := by
    rw [Index.live_ended, Index.live_erase_iff] at foundHeld
    exact patternFree.concrete foundHeld.2

end PatternFree

/-- An index without patterns, and a flat table with the same bindings. -/
structure Alike
    (index : Index)
    (table : Table) :
    Prop where
  patternFree : index.PatternFree
  partitioned : table.Partitioned
  live : table.live = index.table.live.plain

namespace Alike

variable
  {index : Index}
  {table : Table}

theorem bindingsAt_eq
    (alike : Alike index table)
    (raw : String) :
    (index.table.bindingsAt raw).plain = table.bindingsAt raw := by
  rw [alike.patternFree.partitioned.bindingsAt_eq,
    alike.partitioned.bindingsAt_eq, alike.live, Ledger.boundTo_plain]

theorem occupied_eq
    (alike : Alike index table)
    (raw : String) :
    index.table.occupied raw = table.occupied raw := by
  apply Bool.eq_iff_iff.mpr
  rw [alike.patternFree.partitioned.occupied_iff,
    alike.partitioned.occupied_iff, alike.live, Ledger.bound_plain_iff]

theorem bindingCount_eq (alike : Alike index table) :
    index.table.bindingCount = table.bindingCount := by
  rw [Table.bindingCount, Table.bindingCount, alike.live,
    Bindings.size_plain]

theorem addressCount_eq (alike : Alike index table) :
    index.table.addressCount = table.addressCount := by
  apply TextMap.size_eq_of_mem_iff
  intro raw
  exact Bool.eq_iff_iff.mp (alike.occupied_eq raw)

theorem bound
    (alike : Alike index table)
    {binding : Binding}
    (read : binding.ReadWith index.tokens)
    (kind : binding.address.side = .concrete)
    (free : index.table.live[binding.name]? = none) :
    Alike (index.bound binding) (table.gained binding.plain) where
  patternFree := alike.patternFree.bound read kind free
  partitioned := by
    apply alike.partitioned.gained
    rw [alike.live, Bindings.getElem?_plain]
    exact Option.map_eq_none_iff.mpr free
  live := by
    rw [Index.live_bound, Table.live_gained, alike.live,
      Bindings.plain_add]

theorem ended
    (alike : Alike index table)
    {name : String}
    {binding : Binding}
    (found : index.table.live[name]? = some binding) :
    Alike (index.ended name binding) (table.lost name binding.plain) where
  patternFree := alike.patternFree.ended found
  partitioned := by
    apply alike.partitioned.lost
    rw [alike.live, Bindings.getElem?_plain, found]
    rfl
  live := by
    rw [Index.live_ended, Table.live_lost, alike.live,
      Bindings.plain_erase]

theorem clear
    (index : Index)
    (table : Table) :
    Alike index.clear table.clear where
  patternFree := PatternFree.clear index
  partitioned := Table.Partitioned.clear table
  live := Bindings.plain_empty.symm

end Alike

end Index

namespace Router

/-- The reply with its bindings as they are told from outside. -/
def Reply.plain : Reply → Reply
  | .unbound binding => .unbound binding.plain
  | .routed bindings => .routed bindings.plain
  | .found binding => .found (binding.map Binding.plain)
  | reply => reply

/--
A call on which both kinds of routers should agree: whatever is bound reads
as a concrete address, and nothing asks how addresses are read.
-/
def Request.Plain (tokens : Tokens) : Request → Prop
  | .bind raw _ _ =>
      ∃ address,
        Address.parse tokens raw = .ok address ∧ address.side = .concrete
  | .parse _ => False
  | .config => False
  | _ => True

/-- A router with wildcard routing beside one without. -/
inductive Alike : Router → Router → Prop where
  | intro
      {index : Index}
      {table : Table}
      (flatTokens : Tokens)
      (alike : index.Alike table) :
      Alike (.wildcard index) (.flat flatTokens table)

namespace Alike

variable
  {indexed flat : Router}

theorem live_eq (alike : Alike indexed flat) :
    flat.table.live = indexed.table.live.plain := by
  obtain ⟨_, alike⟩ := alike
  exact alike.live

theorem sound (alike : Alike indexed flat) : indexed.Sound := by
  obtain ⟨_, alike⟩ := alike
  exact alike.patternFree.canonical

/-- Both routers accept the same binds, and are told the same of each. -/
theorem answer_bind
    (alike : Alike indexed flat)
    {raw : String}
    {address : Address}
    (parsed : Address.parse indexed.config.tokens raw = .ok address)
    (kind : address.side = .concrete)
    (name target : String) :
    (indexed.answer (.bind raw name target)).1.plain =
        (flat.answer (.bind raw name target)).1 ∧
      Alike (indexed.answer (.bind raw name target)).2
        (flat.answer (.bind raw name target)).2 := by
  have liveEq := alike.live_eq
  obtain @⟨index, table, flatTokens, alike⟩ := alike
  have sameText : address.raw = raw := Address.raw_of_parse parsed
  have indexedParse : (Router.wildcard index).parse raw = .ok address :=
    parsed
  have flatParse :
      (Router.flat flatTokens table).parse raw =
        .ok ⟨raw, [.literal raw]⟩ :=
    Address.literal_of_parse parsed
  simp only [answer, bind_eq, indexedParse, flatParse, liveEq,
    Bindings.contains_plain]
  subst sameText
  cases taken : (Router.wildcard index).table.live.contains name with
  | true =>
      exact ⟨rfl, .intro flatTokens alike⟩
  | false =>
      have free :=
        Std.ExtTreeMap.getElem?_eq_none_of_contains_eq_false taken
      have read :
          Binding.ReadWith index.tokens ⟨name, address, target⟩ :=
        parsed
      exact ⟨congrArg Reply.bound (alike.occupied_eq address.raw),
        .intro flatTokens (alike.bound read kind free)⟩

/-- Both routers end the same bindings. -/
theorem answer_unbind
    (alike : Alike indexed flat)
    (name : String) :
    (indexed.answer (.unbind name)).1.plain =
        (flat.answer (.unbind name)).1 ∧
      Alike (indexed.answer (.unbind name)).2
        (flat.answer (.unbind name)).2 := by
  have liveEq := alike.live_eq
  obtain @⟨index, table, flatTokens, alike⟩ := alike
  simp only [answer, unbind_eq, liveEq, Bindings.getElem?_plain]
  cases found : (Router.wildcard index).table.live[name]? with
  | none =>
      exact ⟨rfl, .intro flatTokens alike⟩
  | some binding =>
      exact ⟨rfl, .intro flatTokens (alike.ended found)⟩

/-- Neither router changes when something is sent. -/
theorem answer_route
    (alike : Alike indexed flat)
    (raw : String) :
    (indexed.answer (.route raw)).1.plain =
        (flat.answer (.route raw)).1 ∧
      Alike (indexed.answer (.route raw)).2
        (flat.answer (.route raw)).2 := by
  obtain ⟨flatTokens, alike⟩ := alike
  simp only [answer, route_wildcard, route_flat,
    alike.patternFree.route_eq]
  exact ⟨congrArg Reply.routed (alike.bindingsAt_eq raw),
    .intro flatTokens alike⟩

/-- Every plain request gets the same reply and leaves the routers alike. -/
theorem answer
    (alike : Alike indexed flat)
    {request : Request}
    (plain : request.Plain indexed.config.tokens) :
    (indexed.answer request).1.plain = (flat.answer request).1 ∧
      Alike (indexed.answer request).2 (flat.answer request).2 := by
  cases request with
  | bind raw name target =>
      obtain ⟨address, parsed, kind⟩ := plain
      exact alike.answer_bind parsed kind name target
  | unbind name =>
      exact alike.answer_unbind name
  | route raw =>
      exact alike.answer_route raw
  | find name =>
      refine ⟨congrArg Reply.found ?_, alike⟩
      change indexed.table.live[name]?.map Binding.plain =
        flat.table.live[name]?
      rw [alike.live_eq, Bindings.getElem?_plain]
  | contains raw =>
      refine ⟨congrArg Reply.contained ?_, alike⟩
      obtain ⟨_, alike⟩ := alike
      exact (alike.patternFree.contains_eq raw).trans
        (alike.occupied_eq raw)
  | linked raw =>
      refine ⟨congrArg Reply.linked ?_, alike⟩
      obtain ⟨_, alike⟩ := alike
      exact alike.patternFree.linked_eq raw
  | sizes =>
      refine ⟨congrArg Reply.sizes ?_, alike⟩
      obtain ⟨_, alike⟩ := alike
      simp only [Router.sizes, alike.patternFree.sizes_eq,
        alike.bindingCount_eq, alike.addressCount_eq]
  | clear =>
      obtain ⟨flatTokens, _⟩ := alike
      exact ⟨rfl, .intro flatTokens (.clear _ _)⟩
  | parse raw =>
      exact plain.elim
  | config =>
      exact plain.elim

/-- Runs of plain requests get the same replies. -/
theorem run
    (alike : Alike indexed flat)
    {requests : List Request}
    (plain :
      ∀ request ∈ requests, request.Plain indexed.config.tokens) :
    (indexed.run requests).1.map Reply.plain = (flat.run requests).1 ∧
      Alike (indexed.run requests).2 (flat.run requests).2 := by
  induction requests generalizing indexed flat with
  | nil =>
      exact ⟨rfl, alike⟩
  | cons request rest inductionHypothesis =>
      obtain ⟨firstPlain, restPlain⟩ := List.forall_mem_cons.mp plain
      obtain ⟨sameReply, nextAlike⟩ := alike.answer firstPlain
      -- The tokens stay, so the other requests are plain for the next router.
      have sameConfig := (alike.sound.answer request).2
      rw [← sameConfig] at restPlain
      obtain ⟨sameReplies, finalAlike⟩ :=
        inductionHypothesis nextAlike restPlain
      refine ⟨?_, finalAlike⟩
      simp only [Router.run, List.map_cons, sameReply, sameReplies]

end Alike

end Router

/--
Two routers, one with wildcard routing and one without, answer every run of
requests alike as long as each address that is bound reads as a concrete one
under the tokens of the first.  Texts that are sent to or asked about need
not even be addresses.  Bindings are compared by their name, the text of
their address and their target.
-/
theorem plain_runs_answer_alike
    {tokens flatTokens : Tokens}
    {indexed flat : Router}
    (indexedCreated :
      Router.create { wildcardRouting := true, tokens } = .ok indexed)
    (flatCreated :
      Router.create { wildcardRouting := false, tokens := flatTokens } =
        .ok flat)
    {requests : List Router.Request}
    (plain : ∀ request ∈ requests, request.Plain tokens) :
    (indexed.run requests).1.map Router.Reply.plain =
      (flat.run requests).1 := by
  cases flatCreated
  cases Router.eq_wildcard_of_create rfl indexedCreated
  have alike :
      Router.Alike (.wildcard { tokens }) (.flat flatTokens {}) :=
    .intro flatTokens (.clear { tokens } {})
  exact (alike.run plain).1

/-- A name taken, a pattern and a bad text do not tell the routers apart. -/
theorem concrete_texts_answer_alike :
    let tokens : Tokens := {}
    let flatTokens : Tokens := ⟨'/', '/', '/'⟩
    let requests : List Router.Request :=
      [.bind "orders.eu" "audit" "log", .bind "orders.eu" "ship" "van",
        .bind "parcels" "audit" "van", .route "orders.*",
        .route "orders..eu", .route "orders.eu", .linked "orders.eu",
        .unbind "audit", .sizes, .unbind "ship", .contains "orders.eu"]
    ∃ indexed flat,
      Router.create { wildcardRouting := true, tokens } = .ok indexed ∧
        Router.create { wildcardRouting := false, tokens := flatTokens } =
            .ok flat ∧
          (indexed.run requests).1.map Router.Reply.plain =
              (flat.run requests).1 ∧
            (flat.run requests).1.drop 8 =
              [.sizes { bindings := 1, occupied := 1, concrete := 1 },
                .unbound
                  ⟨"ship", ⟨"orders.eu", [.literal "orders.eu"]⟩, "van"⟩,
                .contained false] := by
  intro tokens flatTokens requests
  have plain : ∀ request ∈ requests, request.Plain tokens := by
    simp only [requests, List.forall_mem_cons]
    refine ⟨⟨_, rfl, rfl⟩, ⟨_, rfl, rfl⟩, ⟨_, rfl, rfl⟩, ?_⟩
    simp [Router.Request.Plain]
  exact ⟨_, _, rfl, rfl, plain_runs_answer_alike rfl rfl plain,
    by decide +kernel⟩

end BrokerRouting
