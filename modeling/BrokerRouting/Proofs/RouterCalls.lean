import BrokerRouting.Proofs.FlatRegistry
import BrokerRouting.Proofs.FlatTable

namespace BrokerRouting

/-!
# What each call does to a router

Both kinds of routers refuse the same calls, and their live bindings change
alike, whatever the sets and links behind them.  What requests lead to is
sound: a partitioned table, or a canonical index.  There every text gives the
live bindings that reach it under the configuration.
-/

namespace Binding

/-- With wildcard routing the configuration decides as the tokens do. -/
theorem ReadWith.reaches_iff_config
    {binding : Binding}
    {config : RouterConfig}
    (read : binding.ReadWith config.tokens)
    (wildcard : config.wildcardRouting = true)
    {raw : String} :
    binding.Reaches config.tokens raw ↔
      config.reaches raw binding = true := by
  cases parsed : Address.parse config.tokens raw with
  | error refusal =>
      have otherText : binding.address.raw ≠ raw := by
        rintro rfl
        cases parsed.symm.trans read
      simp [Reaches, RouterConfig.reaches, wildcard, parsed, otherText]
  | ok address =>
      rw [reaches_iff parsed]
      simp [RouterConfig.reaches, wildcard, parsed, and_assoc,
        Address.side_eq_concrete_iff, Address.side_eq_pattern_iff]

end Binding

namespace Router

variable {router : Router}

/-- The router once a binding has been made. -/
def bound
    (router : Router)
    (binding : Binding) :
    Router :=
  match router with
  | .flat tokens table => .flat tokens (table.gained binding)
  | .wildcard index => .wildcard (index.bound binding)

/-- The router once the binding of a name has ended. -/
def ended
    (router : Router)
    (name : String)
    (binding : Binding) :
    Router :=
  match router with
  | .flat tokens table => .flat tokens (table.lost name binding)
  | .wildcard index => .wildcard (index.ended name binding)

/-- A bind is refused for its address first, and then for its name. -/
theorem bind_eq
    (router : Router)
    (raw name target : String) :
    router.bind raw name target =
      match router.parse raw with
      | .error refusal => .error refusal
      | .ok address =>
          if router.table.live.contains name then
            .error (.nameTaken name)
          else
            .ok (router.table.occupied address.raw,
              router.bound ⟨name, address, target⟩) := by
  unfold bind
  cases router.parse raw with
  | error refusal =>
      rfl
  | ok address =>
      cases router with
      | flat tokens table =>
          simp only [Table.add_eq, Router.table, bound]
          by_cases taken : table.live.contains name = true <;>
            simp [taken, Except.map]
      | wildcard index =>
          simp only [Index.bind_eq, Router.table, bound]
          by_cases taken : index.table.live.contains name = true <;>
            simp [taken, Except.map]

/-- An unbind is refused for an unknown name only. -/
theorem unbind_eq
    (router : Router)
    (name : String) :
    router.unbind name =
      match router.table.live[name]? with
      | none => .error (.unknownName name)
      | some binding => .ok (binding, router.ended name binding) := by
  cases router with
  | flat tokens table =>
      simp only [unbind, Table.remove_eq, Router.table, ended]
      cases table.live[name]? <;> rfl
  | wildcard index =>
      simp only [unbind, Index.unbind_eq, Router.table, ended]
      cases index.table.live[name]? <;> rfl

@[simp]
theorem live_bound
    (router : Router)
    (binding : Binding) :
    (router.bound binding).table.live =
      router.table.live.add binding := by
  cases router with
  | flat tokens table =>
      rfl
  | wildcard index =>
      exact Index.live_bound index binding _

@[simp]
theorem live_ended
    (router : Router)
    (name : String)
    (binding : Binding) :
    (router.ended name binding).table.live =
      router.table.live.erase name := by
  cases router with
  | flat tokens table =>
      rfl
  | wildcard index =>
      exact Index.live_ended index name binding _

/-- Sending through a flat router changes nothing. -/
theorem route_flat
    (tokens : Tokens)
    (table : Table)
    (raw : String) :
    (Router.flat tokens table).route raw =
      (table.bindingsAt raw, .flat tokens table) :=
  rfl

@[simp]
theorem live_route
    (router : Router)
    (raw : String) :
    (router.route raw).2.table.live = router.table.live := by
  cases router with
  | flat tokens table =>
      rfl
  | wildcard index =>
      rw [route_wildcard]
      exact (Index.step_apply index (.route raw)).live_eq

@[simp]
theorem live_clear (router : Router) : router.clear.table.live = ∅ := by
  cases router <;> rfl

/-- No call changes how addresses are read. -/
theorem config_bound
    (router : Router)
    (binding : Binding) :
    (router.bound binding).config = router.config := by
  cases router <;> rfl

theorem config_ended
    (router : Router)
    (name : String)
    (binding : Binding) :
    (router.ended name binding).config = router.config := by
  cases router <;> rfl

theorem config_route
    (router : Router)
    (raw : String) :
    (router.route raw).2.config = router.config := by
  cases router with
  | flat tokens table =>
      rfl
  | wildcard index =>
      rw [route_wildcard]
      exact congrArg (RouterConfig.mk true)
        (Index.step_apply index (.route raw)).tokens_eq

theorem config_clear (router : Router) :
    router.clear.config = router.config := by
  cases router <;> rfl

/-- What holds of every router that requests lead to. -/
def Sound : Router → Prop
  | .flat _ table => table.Partitioned
  | .wildcard index => index.Canonical

namespace Sound

theorem keyed (sound : router.Sound) : router.table.live.Keyed := by
  cases router with
  | flat tokens table =>
      exact Table.Partitioned.keyed sound
  | wildcard index =>
      exact Index.Canonical.keyed sound

theorem bound
    (sound : router.Sound)
    {raw name : String}
    {address : Address}
    (parsed : router.parse raw = .ok address)
    (free : router.table.live[name]? = none)
    (target : String) :
    (router.bound ⟨name, address, target⟩).Sound := by
  cases router with
  | flat tokens table =>
      exact Table.Partitioned.gained sound free
  | wildcard index =>
      exact Index.Canonical.bound sound (Address.parse_raw parsed) free

theorem ended
    (sound : router.Sound)
    {name : String}
    {binding : Binding}
    (found : router.table.live[name]? = some binding) :
    (router.ended name binding).Sound := by
  cases router with
  | flat tokens table =>
      exact Table.Partitioned.lost sound found
  | wildcard index =>
      exact Index.Canonical.ended sound found

theorem route
    (sound : router.Sound)
    (raw : String) :
    (router.route raw).2.Sound := by
  cases router with
  | flat tokens table =>
      exact sound
  | wildcard index =>
      rw [route_wildcard]
      exact Index.Canonical.step sound
        (Index.step_apply index (.route raw)) trivial

theorem clear (router : Router) : router.clear.Sound := by
  cases router with
  | flat tokens table =>
      exact Table.Partitioned.clear table
  | wildcard index =>
      exact Index.Canonical.clear index

/-- Sending gives exactly the live bindings that reach the text. -/
theorem route_fst_eq
    (sound : router.Sound)
    (raw : String) :
    (router.route raw).1 =
      Ledger.receivers router.config router.table.live raw := by
  cases router with
  | flat tokens table =>
      rw [route_flat, Table.Partitioned.bindingsAt_eq sound]
      simp [Ledger.receivers, Ledger.boundTo, RouterConfig.reaches, config,
        Router.table]
  | wildcard index =>
      have canonical : index.Canonical := sound
      rw [route_wildcard, canonical.route_fst_eq]
      apply TextMap.eq_of_entries
      intro name binding
      have decided
          (found : index.table.live[name]? = some binding) :
          binding.Reaches index.tokens raw ↔
            (Router.wildcard index).config.reaches raw binding = true := by
        have read :
            binding.ReadWith (Router.wildcard index).config.tokens :=
          canonical.read found
        exact read.reaches_iff_config rfl
      rw [Ledger.getElem?_reaching, Ledger.receivers,
        Std.ExtTreeMap.getElem?_filter']
      simp only [Option.filter_eq_some_iff, Router.table]
      exact and_congr_right decided

/-- Every request leaves a sound router with the same configuration. -/
theorem answer
    (sound : router.Sound)
    (request : Request) :
    (router.answer request).2.Sound ∧
      (router.answer request).2.config = router.config := by
  cases request with
  | bind raw name target =>
      simp only [Router.answer, bind_eq]
      cases parsed : router.parse raw with
      | error refusal =>
          exact ⟨sound, rfl⟩
      | ok address =>
          cases taken : router.table.live.contains name with
          | true =>
              exact ⟨sound, rfl⟩
          | false =>
              have free :=
                Std.ExtTreeMap.getElem?_eq_none_of_contains_eq_false taken
              exact ⟨sound.bound parsed free target,
                config_bound router _⟩
  | unbind name =>
      simp only [Router.answer, unbind_eq]
      cases found : router.table.live[name]? with
      | none =>
          exact ⟨sound, rfl⟩
      | some binding =>
          exact ⟨sound.ended found, config_ended router name binding⟩
  | route raw =>
      exact ⟨sound.route raw, config_route router raw⟩
  | clear =>
      exact ⟨clear router, config_clear router⟩
  | parse raw =>
      simp only [Router.answer]
      cases router.parse raw <;> exact ⟨sound, rfl⟩
  | _ =>
      exact ⟨sound, rfl⟩

theorem run
    (sound : router.Sound)
    (requests : List Request) :
    (router.run requests).2.Sound ∧
      (router.run requests).2.config = router.config := by
  induction requests generalizing router with
  | nil =>
      exact ⟨sound, rfl⟩
  | cons request rest inductionHypothesis =>
      obtain ⟨nextSound, sameConfig⟩ := sound.answer request
      obtain ⟨finalSound, finalConfig⟩ := inductionHypothesis nextSound
      exact ⟨finalSound, finalConfig.trans sameConfig⟩

end Sound

/-- A created router is empty and reads addresses as it was told to. -/
theorem sound_of_create
    {config : RouterConfig}
    (created : create config = .ok router) :
    router.Sound ∧ router.config = config ∧ router.table.live = ∅ := by
  have fresh : router = empty config := by
    unfold create at created
    split at created <;> cases created
    rfl
  rcases config with ⟨wildcardRouting, tokens⟩
  cases wildcardRouting with
  | true =>
      exact fresh ▸ ⟨Index.Canonical.start tokens, rfl, rfl⟩
  | false =>
      exact fresh ▸ ⟨Table.Partitioned.empty, rfl, rfl⟩

/-- A request that is carried out is recorded among the live bindings. -/
theorem live_answer
    (router : Router)
    (request : Request) :
    (router.answer request).2.table.live =
      match request.change? router with
      | none => router.table.live
      | some change =>
          if (router.answer request).1.isRefused then router.table.live
          else Ledger.record router.table.live change := by
  cases request with
  | bind raw name target =>
      simp only [answer, bind_eq, Request.change?]
      cases router.parse raw with
      | error refusal =>
          rfl
      | ok address =>
          cases taken : router.table.live.contains name <;>
            simp [Reply.isRefused, Ledger.record, taken]
  | unbind name =>
      simp only [answer, unbind_eq, Request.change?]
      cases router.table.live[name]? <;>
        simp [Reply.isRefused, Ledger.record]
  | route raw =>
      exact live_route router raw
  | clear =>
      exact live_clear router
  | parse raw =>
      simp only [answer, Request.change?]
      cases router.parse raw <;> rfl
  | _ =>
      rfl

/-- The live bindings are those of the registry of accepted calls. -/
theorem live_run
    (router : Router)
    (requests : List Request) :
    (router.run requests).2.table.live =
      (router.accepted requests).foldl Ledger.record
        router.table.live := by
  induction requests generalizing router with
  | nil =>
      rfl
  | cons request rest inductionHypothesis =>
      have recorded := live_answer router request
      simp only [run, accepted, inductionHypothesis]
      cases made : request.change? router with
      | none =>
          simp only [made] at recorded
          rw [recorded]
      | some change =>
          simp only [made] at recorded
          rw [recorded]
          cases (router.answer request).1.isRefused <;> rfl

end Router

end BrokerRouting
