import BrokerRouting.Proofs.CanonicalForm
import BrokerRouting.Proofs.FlatRegistry
import BrokerRouting.Router.Sharing

namespace BrokerRouting

/-!
# Reading first and changing later

Whether a text has to begin to be tracked is told without a change, from the
tables alone.  In a canonical index that answer is exact, so a caller that
only reads gets what it would get by sending.  A caller that has to come back
sends then, to whatever router it finds; so callers that share a router get
the answers of one caller that makes all the requests in some order.
-/

namespace Index

/-- A live binding was made on a pattern that covers the address. -/
def CoveredByLive
    (index : Index)
    (address : Address) :
    Prop :=
  ∃ (name : String) (binding : Binding),
    index.find? name = some binding ∧
      binding.address.hasWildcard = true ∧
        binding.address.covers address = true

/-- What can be told about a text by reading agrees with sending to it. -/
structure ReadsAsRouted
    (index : Index)
    (raw : String) :
    Prop where
  /-- Only an untracked concrete address under a live pattern is tracked. -/
  needs :
    index.needsTracking raw = true ↔
      index.contains raw = false ∧
        ∃ address,
          Address.parse index.tokens raw = .ok address ∧
            address.hasWildcard = false ∧ index.CoveredByLive address
  /-- A text with a set gives this set, and nothing changes. -/
  hit :
    ∀ bindings,
      index.lookup? raw = some bindings →
      index.route raw = (bindings, index)
  /-- A text without one that is not tracked now gives nothing. -/
  miss :
    index.lookup? raw = none →
    index.needsTracking raw = false →
    index.route raw = (∅, index)
  /-- A text that is tracked now has a set from then on. -/
  tracked :
    index.needsTracking raw = true →
    ∃ bindings next,
      index.route raw = (bindings, next) ∧
        bindings ≠ ∅ ∧
          next.lookup? raw = some bindings ∧
            next.needsTracking raw = false ∧
              next.route raw = (bindings, next)

variable
  {index : Index}
  {raw : String}

theorem needsTracking_iff :
    index.needsTracking raw = true ↔
      index.lookup? raw = none ∧
        ∃ address, index.covered? raw = some address := by
  rw [needsTracking, Bool.and_eq_true, Bool.not_eq_true',
    Option.isSome_iff_exists, Table.occupied_eq_isSome,
    Option.isSome_eq_false_iff, Option.isNone_iff_eq_none]
  rfl

theorem needsTracking_of_lookup?
    {bindings : Bindings}
    (found : index.lookup? raw = some bindings) :
    index.needsTracking raw = false := by
  rw [Bool.eq_false_iff]
  intro needs
  cases found.symm.trans (needsTracking_iff.mp needs).1

/-- A text without a set that need not be tracked gives nothing. -/
theorem route_of_not_needsTracking
    (vacant : index.lookup? raw = none)
    (settled : index.needsTracking raw = false) :
    index.route raw = (∅, index) := by
  apply route_of_uncovered vacant
  cases covered : index.covered? raw with
  | none =>
      rfl
  | some address =>
      rw [needsTracking_iff.mpr ⟨vacant, address, covered⟩] at settled
      cases settled

namespace Canonical

theorem contains_eq_false_iff
    (canonical : Canonical index) :
    index.contains raw = false ↔ index.lookup? raw = none := by
  rw [canonical.contains_eq, Option.isSome_eq_false_iff,
    Option.isNone_iff_eq_none]

/-- A concrete address without a set is covered by a live pattern or not. -/
theorem covered_iff_coveredByLive
    (canonical : Canonical index)
    (vacant : index.lookup? raw = none) :
    (∃ address, index.covered? raw = some address) ↔
      ∃ address,
        Address.parse index.tokens raw = .ok address ∧
          address.hasWildcard = false ∧ index.CoveredByLive address := by
  have unknown := canonical.lookup?_eq_none_iff.mp vacant
  constructor
  · rintro ⟨address, covered⟩
    obtain ⟨parsed, kind, covers⟩ := covered?_eq_some_iff.mp covered
    obtain ⟨name, binding, found, reaches⟩ :=
      canonical.reached_of_covers parsed kind covers
    obtain ⟨pattern, coversAddress⟩ :=
      (reaches_of_unknown_iff parsed kind unknown found).mp reaches
    exact ⟨address, parsed, Address.side_eq_concrete_iff.mp kind,
      name, binding, found, Address.side_eq_pattern_iff.mp pattern,
      coversAddress⟩
  · rintro ⟨address, parsed, given, name, binding, found, wildcard,
      coversAddress⟩
    have kind := Address.side_eq_concrete_iff.mpr given
    have pattern := Address.side_eq_pattern_iff.mpr wildcard
    have reaches : binding.Reaches index.tokens raw :=
      (reaches_of_unknown_iff parsed kind unknown found).mpr
        ⟨pattern, coversAddress⟩
    exact canonical.covered_of_reached unknown
      ⟨name, binding, found, reaches⟩

/-- The address that a live pattern covers is the one the text is read as. -/
theorem covered?_of_coveredByLive
    (canonical : Canonical index)
    (vacant : index.lookup? raw = none)
    {address : Address}
    (parsed : Address.parse index.tokens raw = .ok address)
    (given : address.hasWildcard = false)
    (covered : index.CoveredByLive address) :
    index.covered? raw = some address := by
  obtain ⟨other, resolved⟩ :=
    (canonical.covered_iff_coveredByLive vacant).mpr
      ⟨address, parsed, given, covered⟩
  have otherParsed := (covered?_eq_some_iff.mp resolved).1
  rw [resolved, Except.ok.inj (otherParsed.symm.trans parsed)]

/-- A text that begins to be tracked gets the set that is given. -/
theorem route_of_needsTracking
    (canonical : Canonical index)
    (needs : index.needsTracking raw = true) :
    (index.route raw).2.lookup? raw = some (index.route raw).1 ∧
      (index.route raw).1 ≠ ∅ := by
  obtain ⟨vacant, address, covered⟩ := needsTracking_iff.mp needs
  have next : Canonical (index.sentTo raw address) :=
    canonical.sentTo vacant covered
  have known : (index.sentTo raw address).Known raw :=
    known_sentTo_iff.mpr (Or.inr rfl)
  have set :
      (index.sentTo raw address).lookup? raw =
        some ((index.sentTo raw address).table.bindingsAt raw) :=
    Table.lookup?_eq_some_iff.mpr ⟨next.occupied_iff.mpr known, rfl⟩
  rw [route_fst, route_of_covered vacant covered]
  refine ⟨set, ?_⟩
  intro empty
  exact next.noEmptySet raw (empty ▸ set)

theorem readsAsRouted
    (canonical : Canonical index)
    (raw : String) :
    index.ReadsAsRouted raw := by
  refine
    { needs := ?_
      hit := fun _ => route_of_occupied
      miss := route_of_not_needsTracking
      tracked := ?_ }
  · rw [needsTracking_iff, canonical.contains_eq_false_iff]
    exact and_congr_right canonical.covered_iff_coveredByLive
  · intro needs
    obtain ⟨set, nonempty⟩ := canonical.route_of_needsTracking needs
    exact ⟨_, _, rfl, nonempty, set, needsTracking_of_lookup? set,
      route_of_occupied set⟩

end Canonical

end Index

namespace Router

/-- Sending reads first and changes the router only where it has to. -/
theorem route_eq_peek
    (router : Router)
    (raw : String) :
    router.route raw =
      match router.peek? raw with
      | some bindings => (bindings, router)
      | none => router.resolve raw := by
  cases router with
  | flat tokens table =>
      rfl
  | wildcard index =>
      have peeked :
          (Router.wildcard index).peek? raw = index.peek? raw := rfl
      rw [peeked]
      cases known : index.peek? raw with
      | some bindings =>
          simp only [route, known]
      | none =>
          simp only [route, resolve, known]

/-- Whoever does not read first gets and does the same. -/
theorem resolve_eq_route
    (router : Router)
    (raw : String) :
    router.resolve raw = router.route raw := by
  cases router with
  | flat tokens table =>
      rfl
  | wildcard index =>
      exact (route_wildcard index raw).symm

theorem run_append
    (router : Router)
    (earlier later : List Request) :
    router.run (earlier ++ later) =
      ((router.run earlier).1 ++ ((router.run earlier).2.run later).1,
        ((router.run earlier).2.run later).2) := by
  induction earlier generalizing router with
  | nil =>
      rfl
  | cons request rest inductionHypothesis =>
      simp only [List.cons_append, run, inductionHypothesis]

namespace Shared

/-- The requests among some answers that one caller made. -/
def answeredTo
    (name : Nat)
    (answers : List Answer) :
    List Request :=
  (answers.filter fun answer => answer.caller = name).map Answer.request

/-- How many turns a caller takes at most until nothing is left to do. -/
def turnsLeft
    (shared : Shared)
    (name : Nat) :
    Nat :=
  2 * (shared.callers name).requests.length +
    (shared.callers name).delayed.isSome.toNat

/-- What a caller can do in one turn. -/
inductive Turn
    (shared : Shared)
    (name : Nat) : List Answer → Shared → Prop where
  /-- It has nothing left to do. -/
  | idle :
      shared.callers name = { requests := [] } →
      Turn shared name [] shared
  /-- Its first request is answered, as if it were made in one piece. -/
  | answered {request : Request} {rest : List Request} :
      (shared.callers name).unanswered = request :: rest →
      Turn shared name
        [⟨name, request, (shared.router.answer request).1⟩]
        (shared.update (shared.router.answer request).2 name
          { requests := rest })
  /-- Reading has not told it enough, so it has to come back. -/
  | delayed {raw : String} {rest : List Request} :
      shared.callers name = { requests := .route raw :: rest } →
      Turn shared name []
        (shared.update shared.router name
          { delayed := some raw, requests := rest })

/-- Every turn is one of these. -/
theorem turn_turn
    (shared : Shared)
    (name : Nat) :
    Turn shared name (shared.turn name).1 (shared.turn name).2 := by
  cases standing : shared.callers name with
  | mk delayed requests =>
      cases delayed with
      | some raw =>
          have resolved := shared.router.resolve_eq_route raw
          have first :
              (shared.callers name).unanswered =
                .route raw :: requests := by
            simp [standing, Caller.unanswered]
          simp only [turn, standing, resolved]
          exact .answered first
      | none =>
          cases requests with
          | nil =>
              simp only [turn, standing]
              exact .idle standing
          | cons request rest =>
              have first :
                  (shared.callers name).unanswered = request :: rest := by
                simp [standing, Caller.unanswered]
              cases request with
              | route raw =>
                  have sent := route_eq_peek shared.router raw
                  cases told : shared.router.peek? raw with
                  | none =>
                      simp only [turn, standing, told]
                      exact .delayed standing
                  | some bindings =>
                      have turned := Turn.answered first
                      simp only [told] at sent
                      simp only [answer, sent] at turned
                      simp only [turn, standing, told]
                      exact turned
              | _ =>
                  simp only [turn, standing]
                  exact .answered first

namespace Turn

variable
  {shared next : Shared}
  {name : Nat}
  {answers : List Answer}

/-- What is answered is what the router answers at that moment. -/
theorem run_eq
    (turn : Turn shared name answers next) :
    shared.router.run (answers.map Answer.request) =
      (answers.map Answer.reply, next.router) := by
  cases turn with
  | idle | delayed =>
      rfl
  | answered =>
      simp [Router.run]

/-- A caller loses the requests it is answered, others lose none. -/
theorem unanswered_eq
    (turn : Turn shared name answers next)
    (other : Nat) :
    answeredTo other answers ++ (next.callers other).unanswered =
      (shared.callers other).unanswered := by
  by_cases own : other = name
  · subst own
    cases turn with
    | idle =>
        rfl
    | answered first =>
        simp [answeredTo, Caller.unanswered, ← first]
    | delayed standing =>
        simp [answeredTo, Caller.unanswered, standing]
  · cases turn with
    | idle =>
        rfl
    | answered | delayed =>
        simp [answeredTo, own, Ne.symm own]

/-- Its own turn brings a caller nearer to its end, the others' do not. -/
theorem turnsLeft_le
    (turn : Turn shared name answers next)
    (other : Nat) :
    next.turnsLeft other ≤
      shared.turnsLeft other - if other = name then 1 else 0 := by
  by_cases own : other = name
  · subst own
    cases turn with
    | idle standing =>
        simp [turnsLeft, standing]
    | delayed standing =>
        simp [turnsLeft, standing]
        omega
    | answered first =>
        cases standing : shared.callers other with
        | mk delayed requests =>
            simp only [standing, Caller.unanswered] at first
            cases delayed with
            | none =>
                cases first
                simp [turnsLeft, standing]
                omega
            | some raw =>
                cases first
                simp [turnsLeft, standing]
  · cases turn with
    | idle =>
        simp [own]
    | answered | delayed =>
        simp [turnsLeft, own]

end Turn

/-- Turns that are taken give the answers of one run of requests. -/
theorem run_eq
    (shared : Shared)
    (turns : List Nat) :
    shared.router.run ((shared.run turns).1.map Answer.request) =
      ((shared.run turns).1.map Answer.reply,
        (shared.run turns).2.router) := by
  induction turns generalizing shared with
  | nil =>
      rfl
  | cons name rest inductionHypothesis =>
      have first := (shared.turn_turn name).run_eq
      have later := inductionHypothesis (shared.turn name).2
      simp only [run, List.map_append, run_append, first, later]

/-- Every caller is answered its requests in their order, each once. -/
theorem unanswered_eq
    (shared : Shared)
    (turns : List Nat)
    (name : Nat) :
    answeredTo name (shared.run turns).1 ++
        ((shared.run turns).2.callers name).unanswered =
      (shared.callers name).unanswered := by
  induction turns generalizing shared with
  | nil =>
      rfl
  | cons first rest inductionHypothesis =>
      have answered := (shared.turn_turn first).unanswered_eq name
      have later := inductionHypothesis (shared.turn first).2
      rw [← answered, ← later]
      simp only [run, answeredTo, List.filter_append, List.map_append,
        List.append_assoc]

theorem turnsLeft_le
    (shared : Shared)
    (turns : List Nat)
    (name : Nat) :
    (shared.run turns).2.turnsLeft name ≤
      shared.turnsLeft name - turns.count name := by
  induction turns generalizing shared with
  | nil =>
      exact Nat.le_refl _
  | cons first rest inductionHypothesis =>
      have here := (shared.turn_turn first).turnsLeft_le name
      have later := inductionHypothesis (shared.turn first).2
      rw [List.count_cons]
      simp only [run]
      by_cases own : name = first
      · simp only [own, ↓reduceIte, beq_self_eq_true] at here later ⊢
        omega
      · have different : (first == name) = false := by
          simp [Ne.symm own]
        simp only [own, different, ↓reduceIte, Bool.false_eq_true]
          at here later ⊢
        omega

/-- A caller with no turn left to take has all its answers. -/
theorem unanswered_of_turnsLeft
    {shared : Shared}
    {name : Nat}
    (done : shared.turnsLeft name = 0) :
    (shared.callers name).unanswered = [] := by
  cases standing : shared.callers name with
  | mk delayed requests =>
      cases delayed with
      | none =>
          have noTurn : 2 * requests.length = 0 := by
            simpa [turnsLeft, standing] using done
          have noRequest : requests.length = 0 := by
            omega
          exact List.length_eq_zero_iff.mp noRequest
      | some raw =>
          simp [turnsLeft, standing] at done

end Shared

end Router

/--
In an index after any history over addresses read with its tokens, what is
told about a text without a change is what sending to it gives and leaves.
Through a router sending is sending through its index; and callers that share
a router, each free to change it between the reading and the sending of
another, get the answers of one run of their requests, which keeps the order
of each caller, leaves the same router and makes nobody wait for ever.
-/
theorem reading_agrees_with_sending :
    (∀ (tokens : Tokens) (history : History),
        (∀ change ∈ history, change.ReadWith tokens) →
        ∀ raw, (Index.after tokens history).ReadsAsRouted raw) ∧
      (∀ (index : Index) (raw : String),
        (Router.wildcard index).route raw =
          ((index.route raw).1, .wildcard (index.route raw).2)) ∧
        ∀ (router : Router) (requests : Nat → List Router.Request)
          (turns : List Nat),
          let outcome := (Router.Shared.start router requests).run turns
          router.run (outcome.1.map Router.Answer.request) =
              (outcome.1.map Router.Answer.reply, outcome.2.router) ∧
            ∀ caller,
              Router.Shared.answeredTo caller outcome.1 ++
                    (outcome.2.callers caller).unanswered =
                  requests caller ∧
                (2 * (requests caller).length ≤ turns.count caller →
                  Router.Shared.answeredTo caller outcome.1 =
                    requests caller) := by
  refine ⟨?_, Router.route_wildcard, ?_⟩
  · intro tokens history read raw
    obtain ⟨_, canonical⟩ := Index.Canonical.after read
    exact canonical.readsAsRouted raw
  · intro router requests turns
    let shared := Router.Shared.start router requests
    refine ⟨shared.run_eq turns, fun caller => ?_⟩
    have inOrder := shared.unanswered_eq turns caller
    refine ⟨inOrder, fun enough => ?_⟩
    have left := shared.turnsLeft_le turns caller
    have noneLeft : shared.turnsLeft caller - turns.count caller = 0 :=
      Nat.sub_eq_zero_of_le enough
    have done :=
      Router.Shared.unanswered_of_turnsLeft
        (Nat.le_zero.mp (noneLeft ▸ left))
    rw [done, List.append_nil] at inOrder
    exact inOrder

/--
A text is sent to by one caller while another one ends the only binding that
reaches it, after the first has found out that it has to come back.
-/
theorem late_change_reaches_delayed_caller :
    let audit : Binding :=
      ⟨"audit", ⟨"orders.*", [.literal "orders", .singleWord]⟩, "log"⟩
    let history : History := [.bind audit]
    let requests : Nat → List Router.Request := fun caller =>
      if caller = 0 then
        [.bind "orders.*" "audit" "log", .unbind "audit"]
      else if caller = 1 then [.route "orders.eu"]
      else []
    let answers :=
      ((Router.Shared.start (.empty {}) requests).run [0, 1, 0, 1]).1
    (Index.after {} history).needsTracking "orders.eu" = true ∧
      (∃ bindings next,
        (Index.after {} history).route "orders.eu" = (bindings, next) ∧
          bindings ≠ ∅ ∧ next.route "orders.eu" = (bindings, next)) ∧
        answers.map Router.Answer.request =
            [.bind "orders.*" "audit" "log", .unbind "audit",
              .route "orders.eu"] ∧
          ((Router.empty {}).run
              (answers.map Router.Answer.request)).1 =
            [.bound false, .unbound audit, .routed ∅] := by
  intro audit history requests answers
  have read : ∀ change ∈ history, change.ReadWith {} := by
    have auditRead : audit.ReadWith {} := by
      change Address.parse {} "orders.*" = _
      rfl
    simp only [history, List.forall_mem_cons]
    exact ⟨auditRead, by simp⟩
  obtain ⟨indexes, _, routers⟩ := reading_agrees_with_sending
  have needs :
      (Index.after {} history).needsTracking "orders.eu" = true := by
    decide +kernel
  obtain ⟨bindings, next, sent, reached, _, _, again⟩ :=
    (indexes {} history read "orders.eu").tracked needs
  have inOneRun := (routers (.empty {}) requests [0, 1, 0, 1]).1
  refine ⟨needs, ⟨bindings, next, sent, reached, again⟩, ?_, ?_⟩
  · decide +kernel
  · rw [inOneRun]
    decide +kernel

end BrokerRouting
