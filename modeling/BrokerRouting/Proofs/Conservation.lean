import BrokerRouting.Proofs.SinkQueues

namespace BrokerRouting

/-!
# No message is lost or counted twice

The counters of a broker and those of its sinks are kept apart and change at
different moments.  Over a whole run they still agree with the journal: every
copy of a published message is taken or refused, what a sink took is read or
still waits, in order, and a closed sink takes nothing.
-/

namespace Broker

/-- How a journal accounts for the way from one broker to another. -/
structure Accounts
    (start : Broker)
    (journal : Journal)
    (final : Broker) : Prop where
  messages :
    final.counts.messages =
      start.counts.messages + journal.countP Entry.publishes
  accepted :
    final.counts.accepted =
      start.counts.accepted + (journal.map Entry.copies).sum
  refused : final.counts.refused = start.counts.refused + journal.refusals
  reached :
    final.counts.accepted + final.counts.refused =
      start.counts.accepted + start.counts.refused +
        (journal.map fun entry => entry.reaching.length).sum
  /-- What the sinks accepted was published, or else delivered directly. -/
  total :
    final.sinks.total + start.counts.accepted =
      start.sinks.total + final.counts.accepted +
        journal.countP Entry.deliversDirectly
  follows :
    ∀ name,
      (start.sinks.get name).Follows (journal.taken name)
        (journal.drained name) (journal.closes name)
        (final.sinks.get name)

namespace Accounts

theorem refl (broker : Broker) : broker.Accounts [] broker where
  messages := rfl
  accepted := rfl
  refused := rfl
  reached := rfl
  total := rfl
  follows name := .refl (broker.sinks.get name)

/-- Journals are continued by one another. -/
theorem trans
    {first second third : Broker}
    {journal next : Journal}
    (earlier : first.Accounts journal second)
    (later : second.Accounts next third) :
    first.Accounts (journal ++ next) third where
  messages := by
    rw [later.messages, earlier.messages, List.countP_append, Nat.add_assoc]
  accepted := by
    rw [later.accepted, earlier.accepted, List.map_append,
      List.sum_append_nat, Nat.add_assoc]
  refused := by
    rw [later.refused, earlier.refused, Nat.add_assoc]
    simp only [Journal.refusals, Journal.handOffs, List.filter_append,
      List.flatMap_append, List.countP_append]
  reached := by
    rw [later.reached, earlier.reached, List.map_append,
      List.sum_append_nat, Nat.add_assoc]
  total := by
    -- What was accepted between the two journals cancels out.
    have totalEarlier := earlier.total
    have totalLater := later.total
    rw [List.countP_append]
    omega
  follows name := by
    have joined := (earlier.follows name).trans (later.follows name)
    simpa only [Journal.taken, Journal.drained, Journal.closes,
      Journal.handOffs, HandOff.takenBy, List.flatMap_append,
      List.filter_append, List.map_append, List.any_append] using joined

end Accounts

/-- A request that only concerns one sink leaves all others alone. -/
theorem accounts_of_sink
    {broker : Broker}
    {entry : Entry}
    {sink : String}
    {after : Sink}
    (unpublished : entry.publishes = false)
    (uncopied : entry.copies = 0)
    (unreached : entry.reaching = [])
    (follows :
      (broker.sinks.get sink).Follows (Journal.taken [entry] sink)
        (Journal.drained [entry] sink) (Journal.closes [entry] sink) after)
    (elsewhere :
      ∀ other, sink ≠ other →
        Journal.taken [entry] other = [] ∧
          Journal.drained [entry] other = [] ∧
            Journal.closes [entry] other = false)
    (direct :
      (Journal.taken [entry] sink).length =
        [entry].countP Entry.deliversDirectly) :
    broker.Accounts [entry]
      { broker with sinks := broker.sinks.insert sink after } where
  messages := by simp [unpublished]
  accepted := by simp [uncopied]
  refused := by simp [Journal.refusals, Journal.handOffs, unpublished]
  reached := by simp [unreached]
  total := by
    have changed := Sinks.total_of_follows follows
    rw [← direct]
    dsimp only
    omega
  follows name := by
    dsimp only
    rw [Sinks.get_insert]
    by_cases same : sink = name
    · subst same
      rwa [if_pos rfl]
    · obtain ⟨taken, drained, closes⟩ := elsewhere name same
      rw [if_neg same, taken, drained, closes]
      exact .refl (broker.sinks.get name)

/-- A message that is handed over is taken or refused once for each binding. -/
theorem accounts_of_handOver
    (broker : Broker)
    (message : Message)
    (reaching : List Binding)
    (router : Router) :
    let names := reaching.map Binding.target
    let handed := broker.sinks.handOver message names
    broker.Accounts
      [⟨.publish message, .published handed.accepted, reaching,
        broker.sinks.handOffs message names⟩]
      { router
        sinks := handed.sinks
        counts := { broker.counts with
          routed := broker.counts.routed + 1
          accepted := broker.counts.accepted + handed.accepted
          refused := broker.counts.refused + handed.refused } } := by
  intro names handed
  have total : handed.sinks.total = broker.sinks.total + handed.accepted :=
    Sinks.total_handOver broker.sinks names
  have offered : handed.accepted + handed.refused = reaching.length := by
    rw [Sinks.accepted_add_refused, List.length_map]
  have refused :
      handed.refused =
        (broker.sinks.handOffs message names).countP fun handOff =>
          !handOff.taken :=
    Sinks.refused_handOver broker.sinks names
  exact
    { messages := Nat.add_right_comm ..
      accepted := by simp [Entry.copies]
      refused := by
        simp [Journal.refusals, Journal.handOffs, List.filter_cons,
          Entry.publishes, refused]
      reached := by
        simp only [List.map_cons, List.map_nil, List.sum_singleton]
        omega
      total := by
        simp only [total, List.countP_singleton, Entry.deliversDirectly]
        simp [Nat.add_right_comm, Nat.add_assoc]
      follows := fun name => by
        have follows := @Sinks.follows_handOver message broker.sinks names name
        simpa [Journal.taken, Journal.handOffs, Journal.drained,
          Journal.closes, Entry.drainedFrom] using follows }

theorem reachedBy_of_unreached
    {broker : Broker}
    {message : Message}
    (unreached : (broker.router.route message.address).1 = ∅) :
    broker.reachedBy (.publish message) = [] := by
  simp [reachedBy, unreached, TextMap.contents]

theorem accounts_publish
    (broker : Broker)
    (message : Message) :
    broker.Accounts [broker.enter (.publish message)]
      (broker.publish message).2 := by
  by_cases unreached : (broker.router.route message.address).1 = ∅
  · have entered :
        broker.enter (.publish message) =
          ⟨.publish message, .published 0, [], []⟩ := by
      simp [enter, handOffs, reachedBy_of_unreached unreached, answer,
        publish_of_unreached unreached, Sinks.handOffs]
    rw [entered, publish_of_unreached unreached]
    exact
      { messages := rfl
        accepted := rfl
        refused := rfl
        reached := rfl
        total := rfl
        follows := fun name => .refl (broker.sinks.get name) }
  · have entered :
        broker.enter (.publish message) =
          ⟨.publish message, .published (broker.publish message).1,
            (broker.router.route message.address).1.contents,
            broker.sinks.handOffs message
              ((broker.router.route message.address).1.contents.map
                Binding.target)⟩ := by
      rfl
    rw [entered, publish_of_reached unreached]
    exact accounts_of_handOver broker message _ _

theorem accounts_deliver
    (broker : Broker)
    (sink : String)
    (message : Message) :
    broker.Accounts [broker.enter (.deliver sink message)]
      { broker with sinks := (broker.sinks.deliver sink message).2 } := by
  have delivered :
      (broker.sinks.deliver sink message).2 =
        broker.sinks.insert sink
          ((broker.sinks.get sink).offered message 1) := by
    simp [Sinks.deliver, Sink.deliver_eq]
  have taken (name : String) :
      Journal.taken [broker.enter (.deliver sink message)] name =
        if (broker.sinks.get name).isOpen then
          List.replicate ([sink].count name) message
        else [] := by
    rw [← Sinks.takenBy_handOffs]
    rfl
  rw [delivered]
  apply accounts_of_sink rfl rfl rfl
  · rw [taken, List.count_singleton_self]
    exact .offered (broker.sinks.get sink) message 1
  · intro other different
    refine ⟨?_, rfl, rfl⟩
    simp [taken, different]
  · rw [taken]
    cases isOpen : (broker.sinks.get sink).isOpen <;>
      simp [isOpen, enter, Entry.deliversDirectly, answer,
        Sinks.deliver_fst]

theorem accounts_drain
    (broker : Broker)
    (sink : String) :
    broker.Accounts [broker.enter (.drain sink)]
      { broker with
        sinks := broker.sinks.insert sink
          (broker.sinks.get sink).drain.2 } := by
  have drained (name : String) :
      Journal.drained [broker.enter (.drain sink)] name =
        if sink = name then (broker.sinks.get sink).drain.1.getD []
        else [] := by
    have entered :
        broker.enter (.drain sink) =
          ⟨.drain sink, .drained (broker.sinks.get sink).drain.1,
            [], []⟩ := by
      rfl
    rw [entered]
    cases (broker.sinks.get sink).drain.1 <;>
      simp [Journal.drained, Entry.drainedFrom]
  apply accounts_of_sink rfl rfl rfl
  · rw [drained, if_pos rfl]
    exact .drain (broker.sinks.get sink)
  · intro other different
    exact ⟨rfl, by rw [drained, if_neg different], rfl⟩
  · rfl

theorem accounts_close
    (broker : Broker)
    (sink : String) :
    broker.Accounts [broker.enter (.close sink)]
      { broker with
        sinks := broker.sinks.insert sink
          (broker.sinks.get sink).close.2 } := by
  have closes (name : String) :
      Journal.closes [broker.enter (.close sink)] name =
        decide (sink = name) := by
    simp [Journal.closes, enter]
  apply accounts_of_sink rfl rfl rfl
  · rw [closes, decide_eq_true rfl]
    exact .close (broker.sinks.get sink)
  · intro other different
    exact ⟨rfl, rfl, by rw [closes, decide_eq_false different]⟩
  · rfl

theorem accounts_answer
    (broker : Broker)
    (request : Request) :
    broker.Accounts [broker.enter request] (broker.answer request).2 := by
  cases request with
  | publish message =>
      exact accounts_publish broker message
  | deliver sink message =>
      exact accounts_deliver broker sink message
  | drain sink =>
      exact accounts_drain broker sink
  | close sink =>
      exact accounts_close broker sink
  | _ =>
      exact
        { messages := rfl
          accepted := rfl
          refused := rfl
          reached := rfl
          total := rfl
          follows := fun name => .refl (broker.sinks.get name) }

/-- A run is accounted for by its journal. -/
theorem accounts_run
    (broker : Broker)
    (requests : List Request) :
    broker.Accounts (broker.journal requests) (broker.run requests).2 := by
  induction requests generalizing broker with
  | nil =>
      exact .refl broker
  | cons request rest inductionHypothesis =>
      exact (accounts_answer broker request).trans
        (inductionHypothesis (broker.answer request).2)

/-- What the parts of one entry have to do with each other. -/
structure Entry.Consistent (entry : Entry) : Prop where
  offered :
    (entry.handOffs.map fun handOff => (handOff.sink, handOff.message)) =
      entry.offers
  /-- The copies that are told are those that were taken. -/
  copies :
    entry.publishes = true →
      entry.copies = entry.handOffs.countP HandOff.taken
  direct :
    ∀ taken,
      entry.reply = .delivered taken →
        entry.handOffs.map HandOff.taken = [taken]

theorem fst_publish
    (broker : Broker)
    (message : Message) :
    (broker.publish message).1 =
      (broker.sinks.handOver message
        ((broker.reachedBy (.publish message)).map
          Binding.target)).accepted := by
  by_cases unreached : (broker.router.route message.address).1 = ∅
  · rw [publish_of_unreached unreached, reachedBy_of_unreached unreached]
    rfl
  · rw [publish_of_reached unreached]
    rfl

theorem consistent_enter
    (broker : Broker)
    (request : Request) :
    (broker.enter request).Consistent := by
  cases request with
  | publish message =>
      exact
        { offered := by
            simp [enter, handOffs, Entry.offers, Sinks.handOffs_eq]
          copies := fun _ =>
            (broker.fst_publish message).trans
              (Sinks.accepted_handOver broker.sinks _)
          direct := fun _ told => by
            simp [enter, answer] at told }
  | deliver sink message =>
      exact
        { offered := rfl
          copies := fun published => by cases published
          direct := fun _ told => by
            cases told
            rfl }
  | _ =>
      exact
        { offered := rfl
          copies := fun published => by cases published
          direct := fun _ told => by
            simp [enter, answer] at told }

theorem consistent_journal
    (broker : Broker)
    (requests : List Request) :
    ∀ entry ∈ broker.journal requests, entry.Consistent := by
  induction requests generalizing broker with
  | nil =>
      simp [journal]
  | cons request rest inductionHypothesis =>
      exact List.forall_mem_cons.mpr
        ⟨broker.consistent_enter request,
          inductionHypothesis (broker.answer request).2⟩

/-- Whether an offer is taken is decided by the sink it is made to. -/
theorem taken_enter
    (broker : Broker)
    (request : Request) :
    ∀ handOff ∈ (broker.enter request).handOffs,
      handOff.taken = (broker.sinks.get handOff.sink).isOpen := by
  have taken (message : Message) (names : List String) :
      ∀ handOff ∈ broker.sinks.handOffs message names,
        handOff.taken = (broker.sinks.get handOff.sink).isOpen := by
    simp [Sinks.handOffs_eq]
  cases request with
  | publish message =>
      exact taken message _
  | deliver sink message =>
      exact taken message _
  | _ =>
      simp [enter, handOffs]

/-- A sink that is open in the end took whatever it was offered. -/
theorem taken_of_open
    (broker : Broker)
    (requests : List Request) :
    ∀ handOff ∈ Journal.handOffs (broker.journal requests),
      ((broker.run requests).2.sinks.get handOff.sink).isOpen = true →
        handOff.taken = true := by
  induction requests generalizing broker with
  | nil =>
      simp [journal, Journal.handOffs]
  | cons request rest inductionHypothesis =>
      intro handOff member isOpen
      rcases List.mem_append.mp member with here | later
      · have opened :
            ((broker.run (request :: rest)).2.sinks.get
              handOff.sink).isOpen = _ :=
          ((broker.accounts_run (request :: rest)).follows _).isOpen
        rw [opened, Bool.and_eq_true] at isOpen
        rw [broker.taken_enter request handOff here]
        exact isOpen.1
      · exact inductionHypothesis (broker.answer request).2 handOff later
          isOpen

/-- A journal has one entry for each request, with the reply of the run. -/
theorem replies_journal
    (broker : Broker)
    (requests : List Request) :
    (broker.journal requests).map Entry.request = requests ∧
      (broker.journal requests).map Entry.reply =
        (broker.run requests).1 := by
  induction requests generalizing broker with
  | nil =>
      exact ⟨rfl, rfl⟩
  | cons request rest inductionHypothesis =>
      obtain ⟨sameRequests, sameReplies⟩ :=
        inductionHypothesis (broker.answer request).2
      simp only [journal, run, List.map_cons, sameRequests, sameReplies]
      exact ⟨rfl, rfl⟩

theorem run_append
    (broker : Broker)
    (earlier later : List Request) :
    (broker.run (earlier ++ later)).2 =
      ((broker.run earlier).2.run later).2 := by
  induction earlier generalizing broker with
  | nil =>
      rfl
  | cons request rest inductionHypothesis =>
      exact inductionHypothesis (broker.answer request).2

theorem journal_append
    (broker : Broker)
    (earlier later : List Request) :
    broker.journal (earlier ++ later) =
      broker.journal earlier ++ (broker.run earlier).2.journal later := by
  induction earlier generalizing broker with
  | nil =>
      rfl
  | cons request rest inductionHypothesis =>
      exact congrArg (broker.enter request :: ·)
        (inductionHypothesis (broker.answer request).2)

theorem isOpen_run_close
    (broker : Broker)
    (earlier : List Request)
    (name : String) :
    ((broker.run (earlier ++ [.close name])).2.sinks.get name).isOpen =
      false := by
  rw [run_append]
  simp [run, answer, Sinks.close, Sinks.get_insert, Sink.close]

/-- How the counters of a broker and its sinks agree with a whole journal. -/
structure Balanced
    (final : Broker)
    (journal : Journal) :
    Prop where
  messages : final.counts.messages = journal.countP Entry.publishes
  accepted : final.counts.accepted = (journal.map Entry.copies).sum
  /-- Every binding that a message reached stands for one copy. -/
  reached :
    final.counts.accepted + final.counts.refused =
      (journal.map fun entry => entry.reaching.length).sum
  refused : final.counts.refused = journal.refusals
  total :
    final.sinks.total =
      final.counts.accepted + journal.countP Entry.deliversDirectly
  acceptedBy :
    ∀ name, (final.sinks.get name).accepted = (journal.taken name).length
  /-- A sink that was not closed took whatever it was offered. -/
  accepting :
    ∀ handOff ∈ journal.handOffs,
      journal.closes handOff.sink = false → handOff.taken = true
  /-- What a sink took has been read or waits, in the order of arrival. -/
  queue :
    ∀ name,
      journal.closes name = false →
        journal.drained name ++ (final.sinks.get name).waiting =
          journal.taken name

/-- From no counts and no sinks, every run leaves them in balance. -/
theorem balanced_run
    (router : Router)
    (requests : List Request) :
    (run { router } requests).2.Balanced (journal { router } requests) := by
  have accounts := accounts_run { router } requests
  have stillOpen :
      ∀ name,
        (journal { router } requests).closes name = false →
          ((run { router } requests).2.sinks.get name).isOpen = true := by
    intro name neverClosed
    rw [(accounts.follows name).isOpen, neverClosed]
    simp [Sinks.get]
  exact
    { messages := by simpa [DeliveryCounts.messages] using accounts.messages
      accepted := by simpa using accounts.accepted
      reached := by simpa using accounts.reached
      refused := by simpa using accounts.refused
      total := by
        have nothingYet : Sinks.total ∅ = 0 := rfl
        simpa [nothingYet] using accounts.total
      acceptedBy := fun name => by
        simpa [Sinks.get] using (accounts.follows name).accepted
      accepting := fun handOff member neverClosed =>
        taken_of_open { router } requests handOff member
          (stillOpen handOff.sink neverClosed)
      queue := fun name neverClosed => by
        simpa [Sinks.get] using
          (accounts.follows name).queue (stillOpen name neverClosed) }

/-- A closed sink refuses whatever it is offered from then on. -/
theorem Accounts.refused_of_closed
    {start final : Broker}
    {journal : Journal}
    {name : String}
    (accounts : start.Accounts journal final)
    (closed : (start.sinks.get name).isOpen = false) :
    (final.sinks.get name).accepted = (start.sinks.get name).accepted ∧
      ∀ handOff ∈ journal.handOffs,
        handOff.sink = name → handOff.taken = false := by
  have follows := accounts.follows name
  have nothingTaken := follows.refusing closed
  constructor
  · rw [follows.accepted, nothingTaken]
    rfl
  · intro handOff member own
    simp only [Journal.taken, HandOff.takenBy, List.map_eq_nil_iff,
      List.filter_eq_nil_iff] at nothingTaken
    simpa [own] using nothingTaken handOff member

end Broker

/--
Whatever requests a broker without sinks has answered, each copy of a
published message was accepted or refused, and counted as such once by the
broker and once by the sink that took it.  An open sink loses no message and
keeps their order.  After a close all that the sink is offered is refused.
-/
theorem runs_conserve_messages
    (router : Router)
    (requests : List Broker.Request) :
    let start : Broker := { router }
    let journal := start.journal requests
    let final := (start.run requests).2
    journal.map Broker.Entry.request = requests ∧
      journal.map Broker.Entry.reply = (start.run requests).1 ∧
        (∀ entry ∈ journal, entry.Consistent) ∧
          final.Balanced journal ∧
            ∀ earlier later name,
              requests = earlier ++ .close name :: later →
                let closed := (start.run (earlier ++ [.close name])).2
                journal =
                    start.journal (earlier ++ [.close name]) ++
                      closed.journal later ∧
                  (final.sinks.get name).accepted =
                      (closed.sinks.get name).accepted ∧
                    ∀ handOff ∈
                        Broker.Journal.handOffs (closed.journal later),
                      handOff.sink = name → handOff.taken = false := by
  intro start journal final
  obtain ⟨sameRequests, sameReplies⟩ := start.replies_journal requests
  refine ⟨sameRequests, sameReplies, start.consistent_journal requests,
    Broker.balanced_run router requests, ?_⟩
  intro earlier later name asked closed
  have splits : requests = (earlier ++ [.close name]) ++ later := by
    simp [asked]
  have isClosed : (closed.sinks.get name).isOpen = false :=
    start.isOpen_run_close earlier name
  have finalLater : final = (closed.run later).2 := by
    rw [← Broker.run_append, ← splits]
  rw [finalLater]
  exact ⟨by rw [← Broker.journal_append, ← splits],
    (closed.accounts_run later).refused_of_closed isClosed⟩

-- Of three copies offered to the sink the one after its close is refused.
example :
    let order : Message := ⟨"orders.eu", [1]⟩
    let journal :=
      Broker.journal { router := Router.empty {} }
        [.router (.bind "orders.*" "audit" "log"), .publish order,
          .deliver "log" order, .close "log", .publish order]
    journal.taken "log" = [order, order] ∧ journal.refusals = 1 := by
  decide +kernel

end BrokerRouting
