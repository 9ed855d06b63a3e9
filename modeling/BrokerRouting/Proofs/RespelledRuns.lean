import BrokerRouting.Proofs.RespelledIndex
import BrokerRouting.Proofs.RouterCalls
import Mathlib.Logic.Equiv.Basic

namespace BrokerRouting

/-!
# Runs answer alike in every spelling

A router whose tokens are respelled gives to respelled requests the respelled
replies.  Each call keeps two indexes apart in spelling only, and what it
tells is decided by what corresponds between them.
-/

namespace Index

variable {index : Index}

namespace Respelled

variable
  {respelling : Respelling}
  {respelled : Index}

theorem start
    (respelling : Respelling)
    (tokens : Tokens) :
    Respelled respelling { tokens }
      { tokens := respelling.tokens tokens } where
  canonical := .start tokens
  respelledCanonical := .start (respelling.tokens tokens)
  tokens := rfl
  live := rfl
  routed _ := by simp

theorem clear (alike : Respelled respelling index respelled) :
    Respelled respelling index.clear respelled.clear where
  canonical := .clear index
  respelledCanonical := .clear respelled
  tokens := alike.tokens
  live := rfl
  routed _ := by simp [Index.clear]

theorem readWith
    (alike : Respelled respelling index respelled)
    {binding : Binding}
    (read : binding.ReadWith index.tokens) :
    (respelling.binding binding).ReadWith respelled.tokens := by
  change Address.parse respelled.tokens
    (respelling.text binding.address.raw) = _
  rw [alike.parse_eq, read]
  rfl

theorem free
    (alike : Respelled respelling index respelled)
    {name : String}
    (free : index.table.live[name]? = none) :
    respelled.table.live[name]? = none := by
  rw [alike.live, respelling.getElem?_bindings, free]
  rfl

theorem bound
    (alike : Respelled respelling index respelled)
    {binding : Binding}
    (read : binding.ReadWith index.tokens)
    (free : index.table.live[binding.name]? = none) :
    Respelled respelling (index.bound binding)
      (respelled.bound (respelling.binding binding)) where
  canonical := alike.canonical.bound read free
  respelledCanonical :=
    alike.respelledCanonical.bound (alike.readWith read) (alike.free free)
  tokens := alike.tokens
  live := by
    rw [Index.live_bound, Index.live_bound, alike.live,
      respelling.bindings_add]
  routed := by
    simp only [Index.routed_bound]
    exact alike.routed

theorem ended
    (alike : Respelled respelling index respelled)
    {name : String}
    {binding : Binding}
    (found : index.table.live[name]? = some binding) :
    Respelled respelling (index.ended name binding)
      (respelled.ended name (respelling.binding binding)) := by
  have respelledFound :
      respelled.table.live[name]? = some (respelling.binding binding) := by
    rw [alike.live, respelling.getElem?_bindings, found]
    rfl
  have leftOver :
      respelled.table.live.erase name =
        respelling.bindings (index.table.live.erase name) := by
    rw [alike.live, respelling.bindings_erase]
  exact
    { canonical := alike.canonical.ended found
      respelledCanonical := alike.respelledCanonical.ended respelledFound
      tokens := alike.tokens
      live := by
        rw [Index.live_ended, Index.live_ended, leftOver]
      routed := fun raw => by
        rw [alike.respelledCanonical.mem_routed_ended_iff respelledFound,
          alike.canonical.mem_routed_ended_iff found, alike.routed, leftOver,
          alike.tokens, respelling.reached_iff] }

/-- The same bindings are reached, and the same text becomes routed. -/
theorem route
    (alike : Respelled respelling index respelled)
    (raw : String) :
    (respelled.route (respelling.text raw)).1 =
        respelling.bindings (index.route raw).1 ∧
      Respelled respelling (index.route raw).2
        (respelled.route (respelling.text raw)).2 := by
  have made := step_apply index (.route raw)
  have respelledMade := step_apply respelled (.route (respelling.text raw))
  constructor
  · rw [alike.respelledCanonical.route_fst_eq, alike.canonical.route_fst_eq,
      alike.tokens, alike.live, respelling.reaching_eq]
  · exact
      { canonical := alike.canonical.step made trivial
        respelledCanonical :=
          alike.respelledCanonical.step respelledMade trivial
        tokens :=
          respelledMade.tokens_eq.trans
            (alike.tokens.trans
              (congrArg respelling.tokens made.tokens_eq.symm))
        live :=
          respelledMade.live_eq.trans
            (alike.live.trans
              (congrArg respelling.bindings made.live_eq.symm))
        routed := fun other => by
          change
            _ ∈ (respelled.apply (.route _)).tracking.routed ↔
              other ∈ (index.apply (.route raw)).tracking.routed
          rw [alike.respelledCanonical.mem_routed_route_iff,
            alike.canonical.mem_routed_route_iff, alike.routed,
            respelling.text_inj, alike.known_iff, alike.reached_iff] }

end Respelled

end Index

namespace Router

/-- Two routers with wildcard routing that differ in spelling only. -/
inductive Respelled (respelling : Respelling) : Router → Router → Prop where
  | intro
      {index respelled : Index}
      (alike : index.Respelled respelling respelled) :
      Respelled respelling (.wildcard index) (.wildcard respelled)

namespace Respelled

variable
  {respelling : Respelling}
  {router respelled : Router}

theorem parse_eq
    (alike : Respelled respelling router respelled)
    (raw : String) :
    respelled.parse (respelling.text raw) =
      respelling.reading (router.parse raw) := by
  obtain ⟨alike⟩ := alike
  exact alike.parse_eq raw

theorem live_eq (alike : Respelled respelling router respelled) :
    respelled.table.live = respelling.bindings router.table.live := by
  obtain ⟨alike⟩ := alike
  exact alike.live

/-- Both routers accept the same binds, and refuse others alike. -/
theorem answer_bind
    (alike : Respelled respelling router respelled)
    (raw name target : String) :
    (respelled.answer (.bind (respelling.text raw) name target)).1 =
        respelling.reply (router.answer (.bind raw name target)).1 ∧
      Respelled respelling (router.answer (.bind raw name target)).2
        (respelled.answer (.bind (respelling.text raw) name target)).2 := by
  simp only [answer, bind_eq, alike.parse_eq, alike.live_eq,
    respelling.contains_bindings]
  cases parsed : router.parse raw with
  | error refusal =>
      exact ⟨rfl, alike⟩
  | ok address =>
      simp only [Respelling.reading]
      cases taken : router.table.live.contains name with
      | true =>
          exact ⟨rfl, alike⟩
      | false =>
          obtain ⟨alike⟩ := alike
          have free :=
            Std.ExtTreeMap.getElem?_eq_none_of_contains_eq_false taken
          have read :
              Binding.ReadWith _ ⟨name, address, target⟩ :=
            Address.parse_raw parsed
          exact ⟨congrArg Reply.bound (alike.occupied_eq address.raw),
            .intro (alike.bound read free)⟩

theorem answer_unbind
    (alike : Respelled respelling router respelled)
    (name : String) :
    (respelled.answer (.unbind name)).1 =
        respelling.reply (router.answer (.unbind name)).1 ∧
      Respelled respelling (router.answer (.unbind name)).2
        (respelled.answer (.unbind name)).2 := by
  simp only [answer, unbind_eq, alike.live_eq, respelling.getElem?_bindings]
  cases found : router.table.live[name]? with
  | none =>
      exact ⟨rfl, alike⟩
  | some binding =>
      obtain ⟨alike⟩ := alike
      exact ⟨rfl, .intro (alike.ended found)⟩

theorem answer_route
    (alike : Respelled respelling router respelled)
    (raw : String) :
    (respelled.answer (.route (respelling.text raw))).1 =
        respelling.reply (router.answer (.route raw)).1 ∧
      Respelled respelling (router.answer (.route raw)).2
        (respelled.answer (.route (respelling.text raw))).2 := by
  obtain ⟨alike⟩ := alike
  obtain ⟨sameBindings, nextAlike⟩ := alike.route raw
  simp only [answer, route_wildcard]
  exact ⟨congrArg Reply.routed sameBindings, .intro nextAlike⟩

/-- Every respelled request gets the respelled reply. -/
theorem answer
    (alike : Respelled respelling router respelled)
    (request : Request) :
    (respelled.answer (respelling.request request)).1 =
        respelling.reply (router.answer request).1 ∧
      Respelled respelling (router.answer request).2
        (respelled.answer (respelling.request request)).2 := by
  cases request with
  | bind raw name target =>
      exact alike.answer_bind raw name target
  | unbind name =>
      exact alike.answer_unbind name
  | route raw =>
      exact alike.answer_route raw
  | find name =>
      refine ⟨congrArg Reply.found ?_, alike⟩
      change respelled.table.live[name]? = router.table.live[name]?.map _
      rw [alike.live_eq, respelling.getElem?_bindings]
  | contains raw =>
      refine ⟨congrArg Reply.contained ?_, alike⟩
      obtain ⟨alike⟩ := alike
      exact alike.contains_eq raw
  | linked raw =>
      refine ⟨congrArg Reply.linked ?_, alike⟩
      obtain ⟨alike⟩ := alike
      exact alike.linked_eq raw
  | sizes =>
      refine ⟨congrArg Reply.sizes ?_, alike⟩
      obtain ⟨alike⟩ := alike
      exact alike.sizes_eq
  | clear =>
      obtain ⟨alike⟩ := alike
      exact ⟨rfl, .intro alike.clear⟩
  | parse raw =>
      simp only [Router.answer, Respelling.request, alike.parse_eq]
      cases router.parse raw <;> exact ⟨rfl, alike⟩
  | config =>
      refine ⟨congrArg Reply.config ?_, alike⟩
      obtain ⟨alike⟩ := alike
      exact congrArg (RouterConfig.mk true) alike.tokens

/-- Runs of respelled requests get the respelled replies. -/
theorem run
    (alike : Respelled respelling router respelled)
    (requests : List Request) :
    (respelled.run (requests.map respelling.request)).1 =
        (router.run requests).1.map respelling.reply ∧
      Respelled respelling (router.run requests).2
        (respelled.run (requests.map respelling.request)).2 := by
  induction requests generalizing router respelled with
  | nil =>
      exact ⟨rfl, alike⟩
  | cons request rest inductionHypothesis =>
      obtain ⟨sameReply, nextAlike⟩ := alike.answer request
      obtain ⟨sameReplies, finalAlike⟩ := inductionHypothesis nextAlike
      refine ⟨?_, finalAlike⟩
      simp only [List.map_cons, Router.run, sameReply, sameReplies]

end Respelled

end Router

/-- Tokens can be told apart in every spelling or in none. -/
theorem Respelling.conflict?_eq
    (respelling : Respelling)
    (tokens : Tokens) :
    (respelling.tokens tokens).conflict? = tokens.conflict? := by
  simp only [Tokens.conflict?, Respelling.tokens, respelling.injective.eq_iff]

theorem Respelling.validate_eq
    (respelling : Respelling)
    (config : RouterConfig) :
    (respelling.config config).validate = config.validate := by
  simp only [RouterConfig.validate, Respelling.config, Tokens.validate,
    respelling.conflict?_eq]

/--
Exchanging characters one for one, in the tokens of a valid configuration and
in all addresses, changes no answer of a router with wildcard routing but for
the same exchange in the addresses it shows.  It does not matter which
characters are tokens, because texts are read and matched alike.
-/
theorem respelled_runs_answer_alike
    (respelling : Respelling)
    {config : RouterConfig}
    {router : Router}
    (wildcard : config.wildcardRouting = true)
    (created : Router.create config = .ok router) :
    (∃ respelled,
      Router.create (respelling.config config) = .ok respelled ∧
        ∀ requests : List Router.Request,
          (respelled.run (requests.map respelling.request)).1 =
            (router.run requests).1.map respelling.reply) ∧
      (∀ raw,
        Address.parse (respelling.config config).tokens
            (respelling.text raw) =
          respelling.reading (Address.parse config.tokens raw)) ∧
        ∀ pattern candidate : Segments,
          (respelling.segments pattern).covers
              (respelling.segments candidate) =
            pattern.covers candidate := by
  refine ⟨⟨Router.empty (respelling.config config), ?_, ?_⟩,
    respelling.parse_eq config.tokens, respelling.covers_eq⟩
  · unfold Router.create at created ⊢
    rw [respelling.validate_eq]
    cases valid : config.validate with
    | error refusal =>
        rw [valid] at created
        cases created
    | ok _ =>
        rfl
  · intro requests
    cases Router.eq_wildcard_of_create wildcard created
    have alike :
        Router.Respelled respelling (.wildcard { tokens := config.tokens })
          (Router.empty (respelling.config config)) := by
      simp only [Router.empty, Respelling.config, wildcard, ↓reduceIte]
      exact .intro (.start respelling config.tokens)
    exact (alike.run requests).1

/-- A letter of the addresses changes places with a token. -/
theorem letter_as_token_answers_alike :
    let respelling : Respelling :=
      (Equiv.swap '.' '/').trans (Equiv.swap '*' 'o')
    let requests : List Router.Request :=
      [.bind "orders.*" "audit" "log", .bind "orders.#.eu" "ship" "van",
        .route "orders.eu", .linked "orders.*", .sizes]
    ∃ respelled,
      Router.create { tokens := ⟨'/', 'o', '#'⟩ } = .ok respelled ∧
        (respelled.run
            [.bind "*rders/o" "audit" "log", .bind "*rders/#/eu" "ship" "van",
              .route "*rders/eu", .linked "*rders/o", .sizes]).1 =
            ((Router.empty {}).run requests).1.map respelling.reply := by
  intro respelling requests
  have created : Router.create {} = .ok (Router.empty {}) := by
    rfl
  obtain ⟨⟨respelled, respelledCreated, alike⟩, _⟩ :=
    respelled_runs_answer_alike respelling rfl created
  have config :
      respelling.config {} = { tokens := ⟨'/', 'o', '#'⟩ } := by
    decide +kernel
  have asked :
      requests.map respelling.request =
        [.bind "*rders/o" "audit" "log", .bind "*rders/#/eu" "ship" "van",
          .route "*rders/eu", .linked "*rders/o", .sizes] := by
    decide +kernel
  exact ⟨respelled, config ▸ respelledCreated, asked ▸ alike requests⟩

end BrokerRouting
