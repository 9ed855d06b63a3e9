import BrokerRouting.Broker.Basic
import BrokerRouting.Proofs.RouterCalls

namespace BrokerRouting

/-!
# Every reaching binding gets one copy

A published message is offered once for each live binding that reaches its
address, to the sink the binding names.  Sinks only see how often their name
comes up, so several bindings of one sink give as many copies, and a closed
sink in between disturbs no other.
-/

namespace Sink

/-- The sink once some copies of a message have been offered to it. -/
def offered
    (sink : Sink)
    (message : Message)
    (copies : Nat) :
    Sink :=
  if sink.isOpen then
    { sink with
      waiting := sink.waiting ++ List.replicate copies message
      accepted := sink.accepted + copies }
  else
    sink

@[simp]
theorem offered_zero
    (sink : Sink)
    (message : Message) :
    sink.offered message 0 = sink := by
  simp [offered]

/-- Offering one copy is delivering the message. -/
theorem deliver_eq
    (sink : Sink)
    (message : Message) :
    sink.deliver message = (sink.isOpen, sink.offered message 1) := by
  cases isOpen : sink.isOpen <;> simp [deliver, offered, isOpen]

@[simp]
theorem isOpen_offered
    (sink : Sink)
    (message : Message)
    (copies : Nat) :
    (sink.offered message copies).isOpen = sink.isOpen := by
  cases isOpen : sink.isOpen <;> simp [offered, isOpen]

/-- Copies offered one after the other add up. -/
theorem offered_offered
    (sink : Sink)
    (message : Message)
    (first second : Nat) :
    (sink.offered message first).offered message second =
      sink.offered message (second + first) := by
  cases isOpen : sink.isOpen
  · simp [offered, isOpen]
  · simp only [offered, isOpen, ↓reduceIte, List.append_assoc,
      List.replicate_append_replicate, Nat.add_assoc,
      Nat.add_comm first second]

end Sink

namespace Sinks

variable {message : Message}

/-- A delivery reaches the sink that is named and no other. -/
theorem get_deliver
    (sinks : Sinks)
    (name other : String) :
    (sinks.deliver name message).2.get other =
      if name = other then (sinks.get name).offered message 1
      else sinks.get other := by
  simp [deliver, get, Sink.deliver_eq, Std.ExtTreeMap.getD_insert]

theorem deliver_fst
    (sinks : Sinks)
    (name : String) :
    (sinks.deliver name message).1 = (sinks.get name).isOpen := by
  simp [deliver, Sink.deliver_eq]

@[simp]
theorem isOpen_get_deliver
    (sinks : Sinks)
    (name other : String) :
    ((sinks.deliver name message).2.get other).isOpen =
      (sinks.get other).isOpen := by
  rw [get_deliver]
  split
  · rename_i same
    simp [same]
  · rfl

/-- The sinks, and who accepted, after a message was offered to one more. -/
theorem handOver_cons
    (sinks : Sinks)
    (name : String)
    (rest : List String) :
    sinks.handOver message (name :: rest) =
      let handed := (sinks.deliver name message).2.handOver message rest
      if (sinks.get name).isOpen then
        { handed with accepted := handed.accepted + 1 }
      else
        { handed with refused := handed.refused + 1 } := by
  have taken :
      (sinks.deliver name message).1 = (sinks.get name).isOpen :=
    deliver_fst sinks name
  simp only [handOver, taken]

/-- Each sink is offered as many copies as its name comes up. -/
theorem get_handOver
    (sinks : Sinks)
    (names : List String)
    (other : String) :
    (sinks.handOver message names).sinks.get other =
      (sinks.get other).offered message (names.count other) := by
  induction names generalizing sinks with
  | nil =>
      simp [handOver]
  | cons name rest inductionHypothesis =>
      have offeredLater := inductionHypothesis (sinks.deliver name message).2
      have handed :
          (sinks.handOver message (name :: rest)).sinks =
            ((sinks.deliver name message).2.handOver message rest).sinks := by
        rw [handOver_cons]
        dsimp only
        split <;> rfl
      rw [handed, offeredLater, get_deliver]
      by_cases same : name = other
      · subst same
        simp [Sink.offered_offered]
      · simp [same]

/-- A copy is accepted wherever the sink is open, and refused elsewhere. -/
theorem handOver_counts
    (sinks : Sinks)
    (names : List String) :
    (sinks.handOver message names).accepted =
        names.countP (fun name => (sinks.get name).isOpen) ∧
      (sinks.handOver message names).refused =
        names.countP (fun name => !(sinks.get name).isOpen) := by
  induction names generalizing sinks with
  | nil =>
      exact ⟨rfl, rfl⟩
  | cons name rest inductionHypothesis =>
      obtain ⟨accepted, refused⟩ :=
        inductionHypothesis (sinks.deliver name message).2
      simp only [isOpen_get_deliver] at accepted refused
      rw [handOver_cons]
      cases isOpen : (sinks.get name).isOpen <;>
        simp [isOpen, accepted, refused]

/-- How many messages wait in several sinks together. -/
def waitingIn
    (sinks : Sinks)
    (names : List String) :
    Nat :=
  names.foldr
    (fun name total => (sinks.get name).waiting.length + total) 0

theorem waitingIn_cons
    (sinks : Sinks)
    (first : String)
    (rest : List String) :
    sinks.waitingIn (first :: rest) =
      (sinks.get first).waiting.length + sinks.waitingIn rest :=
  rfl

/-- One more message waits in the sink that accepted a delivery. -/
theorem length_waiting_deliver
    (sinks : Sinks)
    (name other : String) :
    ((sinks.deliver name message).2.get other).waiting.length =
      (sinks.get other).waiting.length +
        if name = other ∧ (sinks.get name).isOpen then 1 else 0 := by
  rw [get_deliver]
  by_cases same : name = other
  · subst same
    cases isOpen : (sinks.get name).isOpen <;> simp [Sink.offered, isOpen]
  · simp [same]

/-- A delivery to none of the sinks leaves what waits in them. -/
theorem waitingIn_deliver_other
    (sinks : Sinks)
    {name : String}
    {names : List String}
    (apart : name ∉ names) :
    (sinks.deliver name message).2.waitingIn names =
      sinks.waitingIn names := by
  induction names with
  | nil =>
      rfl
  | cons other rest inductionHypothesis =>
      have differs : name ≠ other := List.ne_of_not_mem_cons apart
      have notInRest : name ∉ rest := List.not_mem_of_not_mem_cons apart
      rw [waitingIn_cons, waitingIn_cons, inductionHypothesis notInRest]
      simp [length_waiting_deliver, differs]

/-- A delivery to one of several distinct sinks counts once. -/
theorem waitingIn_deliver
    (sinks : Sinks)
    {name : String}
    {names : List String}
    (distinct : names.Nodup)
    (member : name ∈ names) :
    (sinks.deliver name message).2.waitingIn names =
      sinks.waitingIn names +
        if (sinks.get name).isOpen then 1 else 0 := by
  induction names with
  | nil =>
      simp at member
  | cons first rest inductionHypothesis =>
      obtain ⟨notInRest, restDistinct⟩ := List.nodup_cons.mp distinct
      rw [waitingIn_cons, waitingIn_cons, length_waiting_deliver]
      by_cases isFirst : name = first
      · subst isFirst
        rw [waitingIn_deliver_other sinks notInRest]
        simp only [true_and]
        omega
      · have inRest := (List.mem_cons.mp member).resolve_left isFirst
        rw [inductionHypothesis restDistinct inRest]
        simp only [isFirst, false_and, ↓reduceIte]
        omega

/-- All accepted copies are found among what waits. -/
theorem waitingIn_handOver
    (sinks : Sinks)
    {targets names : List String}
    (distinct : names.Nodup)
    (covered : ∀ target ∈ targets, target ∈ names) :
    (sinks.handOver message targets).sinks.waitingIn names =
      sinks.waitingIn names + (sinks.handOver message targets).accepted := by
  induction targets generalizing sinks with
  | nil =>
      rfl
  | cons target rest inductionHypothesis =>
      obtain ⟨targetNamed, restNamed⟩ := List.forall_mem_cons.mp covered
      have later :=
        inductionHypothesis (sinks.deliver target message).2 restNamed
      have delivered :
          (sinks.deliver target message).2.waitingIn names =
            sinks.waitingIn names +
              if (sinks.get target).isOpen then 1 else 0 :=
        waitingIn_deliver sinks distinct targetNamed
      rw [handOver_cons]
      cases isOpen : (sinks.get target).isOpen <;>
        simp only [isOpen, Bool.false_eq_true, ↓reduceIte] at delivered ⊢ <;>
        omega

end Sinks

namespace Broker

/-- How many of several bindings name a sink. -/
def share
    (reaching : List Binding)
    (sink : String) :
    Nat :=
  reaching.countP fun binding => binding.target = sink

/-- What publishing has to do, told from the bindings that reach the address. -/
structure FansOut
    (broker : Broker)
    (message : Message)
    (reaching : List Binding)
    (copies : Nat)
    (next : Broker) : Prop where
  /-- An open sink gets one copy for each binding that names it. -/
  openSink :
    ∀ name,
      (broker.sinks.get name).isOpen = true →
      next.sinks.get name =
        { broker.sinks.get name with
          waiting :=
            (broker.sinks.get name).waiting ++
              List.replicate (share reaching name) message
          accepted :=
            (broker.sinks.get name).accepted + share reaching name }
  closedSink :
    ∀ name,
      (broker.sinks.get name).isOpen = false →
      next.sinks.get name = broker.sinks.get name
  unnamedSink :
    ∀ name,
      share reaching name = 0 →
      next.sinks.get name = broker.sinks.get name
  /-- So many more messages wait in all sinks together. -/
  appended :
    ∀ names : List String,
      names.Nodup →
      (∀ binding ∈ reaching, binding.target ∈ names) →
      next.sinks.waitingIn names = broker.sinks.waitingIn names + copies
  accepted : next.counts.accepted = broker.counts.accepted + copies
  /-- Every reaching binding of a closed sink is one refusal. -/
  refused :
    next.counts.refused =
      broker.counts.refused +
        reaching.countP fun binding =>
          !(broker.sinks.get binding.target).isOpen
  unroutable :
    reaching = [] →
      next.counts.unroutable = broker.counts.unroutable + 1 ∧
        next.counts.routed = broker.counts.routed
  routed :
    reaching ≠ [] →
      next.counts.routed = broker.counts.routed + 1 ∧
        next.counts.unroutable = broker.counts.unroutable

variable {broker : Broker} {message : Message}

theorem count_targets
    (reaching : List Binding)
    (name : String) :
    (reaching.map Binding.target).count name = share reaching name := by
  rw [share, List.count, List.countP_map]
  rfl

/-- A message that reaches no binding is only counted. -/
theorem publish_of_unreached
    (unreached : (broker.router.route message.address).1 = ∅) :
    broker.publish message =
      (0, { broker with
        router := (broker.router.route message.address).2
        counts :=
          { broker.counts with
            unroutable := broker.counts.unroutable + 1 } }) := by
  simp [publish, unreached]

/-- Any other message is handed over to the sinks of all that it reaches. -/
theorem publish_of_reached
    (reached : (broker.router.route message.address).1 ≠ ∅) :
    broker.publish message =
      let handed := broker.sinks.handOver message
        ((broker.router.route message.address).1.contents.map Binding.target)
      (handed.accepted, { broker with
        router := (broker.router.route message.address).2
        sinks := handed.sinks
        counts := { broker.counts with
          routed := broker.counts.routed + 1
          accepted := broker.counts.accepted + handed.accepted
          refused := broker.counts.refused + handed.refused } }) := by
  have occupied :
      (broker.router.route message.address).1.isEmpty = false := by
    simpa [Std.ExtTreeMap.isEmpty_iff] using reached
  simp [publish, occupied]

/-- Publishing fans out to whatever the router gives for the address. -/
theorem publish_fansOut
    (broker : Broker)
    (message : Message) :
    broker.FansOut message
      (broker.router.route message.address).1.contents
      (broker.publish message).1
      (broker.publish message).2 := by
  by_cases unreached : (broker.router.route message.address).1 = ∅
  · have nothing :
        (broker.router.route message.address).1.contents = [] := by
      simp [unreached, TextMap.contents]
    rw [nothing, publish_of_unreached unreached]
    exact
      { openSink := by simp [share]
        closedSink := by simp
        unnamedSink := by simp
        appended := by simp
        accepted := rfl
        refused := rfl
        unroutable := by simp
        routed := by simp }
  · have something :
        (broker.router.route message.address).1.contents ≠ [] := by
      simpa [TextMap.contents] using unreached
    rw [publish_of_reached unreached]
    -- From here on only the targets count, not how the router found them.
    generalize (broker.router.route message.address).1.contents = reaching
      at something
    have offered :
        ∀ name,
          (broker.sinks.handOver message
              (reaching.map Binding.target)).sinks.get name =
            (broker.sinks.get name).offered message
              (share reaching name) := by
      intro name
      rw [Sinks.get_handOver, count_targets]
    obtain ⟨_, refused⟩ :=
      @Sinks.handOver_counts message broker.sinks
        (reaching.map Binding.target)
    exact
      { openSink := fun name isOpen => by simp [offered, Sink.offered, isOpen]
        closedSink := fun name closed => by
          simp [offered, Sink.offered, closed]
        unnamedSink := fun name unnamed => by simp [offered, unnamed]
        appended := fun names distinct covered =>
          Sinks.waitingIn_handOver broker.sinks distinct
            (by simpa using covered)
        accepted := rfl
        refused := by simp [refused, List.countP_map, Function.comp_def]
        unroutable := fun nothing => (something nothing).elim
        routed := fun _ => ⟨rfl, rfl⟩ }

end Broker

/--
Whatever requests a router has answered, with wildcard routing or without,
and whatever state the sinks are in, publishing offers the message once for
each live binding that reaches its address, and counts accordingly.
-/
theorem publish_reaches_each_binding_once
    {config : RouterConfig}
    {router : Router}
    (created : Router.create config = .ok router)
    (requests : List Router.Request)
    (sinks : Sinks)
    (counts : DeliveryCounts)
    (message : Message) :
    let live := Ledger.after (router.accepted requests)
    let broker : Broker :=
      { router := (router.run requests).2, sinks, counts }
    broker.FansOut message
      (live.receivers config message.address).contents
      (broker.publish message).1
      (broker.publish message).2 := by
  intro live broker
  obtain ⟨sound, sameConfig, nothingLive⟩ := Router.sound_of_create created
  obtain ⟨finalSound, finalConfig⟩ := sound.run requests
  have finalLive : (router.run requests).2.table.live = live := by
    rw [Router.live_run, nothingLive]
    rfl
  have routed :
      (broker.router.route message.address).1 =
        live.receivers config message.address := by
    rw [finalSound.route_fst_eq, finalConfig, sameConfig, finalLive]
  rw [← routed]
  exact broker.publish_fansOut message

/-- Two bindings of one sink, a closed sink between them, and a pattern. -/
theorem published_message_skips_closed_sink :
    let requests : List Router.Request :=
      [.bind "orders.*" "audit" "log", .bind "orders.eu" "both" "gone",
        .bind "orders.eu" "ship" "log", .bind "parcels" "other" "van"]
    let message : Message := ⟨"orders.eu", [1, 2]⟩
    let sinks : Sinks := (Sinks.close ∅ "gone").2
    let broker : Broker :=
      { router := ((Router.empty {}).run requests).2, sinks }
    let next := (broker.publish message).2
    (next.sinks.get "log").waiting = [message, message] ∧
      next.sinks.get "gone" = sinks.get "gone" ∧
        next.sinks.get "van" = sinks.get "van" ∧
          next.counts = ⟨1, 0, 2, 1⟩ := by
  intro requests message sinks broker next
  have created : Router.create {} = .ok (Router.empty {}) := by
    rfl
  have fansOut : broker.FansOut message _ _ next :=
    publish_reaches_each_binding_once created requests sinks {} message
  refine ⟨?_, fansOut.closedSink "gone" (by decide +kernel),
    fansOut.unnamedSink "van" (by decide +kernel), ?_⟩
  · rw [fansOut.openSink "log" (by decide +kernel)]
    decide +kernel
  · have reached := fansOut.routed (by decide +kernel)
    have accepted := fansOut.accepted
    have refused := fansOut.refused
    have counted : next.counts =
        ⟨next.counts.routed, next.counts.unroutable,
          next.counts.accepted, next.counts.refused⟩ := rfl
    rw [counted, reached.1, reached.2, accepted, refused]
    decide +kernel

end BrokerRouting
