import BrokerRouting.Proofs.FlatTableHistory
import BrokerRouting.Proofs.Refusals

namespace BrokerRouting

/-!
# How often sets are opened

A set is opened deep inside a call, when a binding is put where no set is.
One call either puts bindings in or takes them out, never both.  So a set that
a call opens is still there when the call ends, and whoever only looks at the
table between calls sees it appear.  Counting what was seen to appear then
counts what was opened, over runs of any length.
-/

namespace Table

variable {table next : Table}

/-- How often a set was opened for a text since the table was made. -/
def timesOpened
    (table : Table)
    (raw : String) :
    Nat :=
  table.opened.getD raw 0

/-- Whether a text without a set has one in a later table. -/
def gains
    (table next : Table)
    (raw : String) :
    Bool :=
  !table.occupied raw && next.occupied raw

/-- A set was opened exactly for the texts that gained one, once for each. -/
def CountsGains (table next : Table) : Prop :=
  ∀ raw,
    next.timesOpened raw =
      table.timesOpened raw + if table.gains next raw then 1 else 0

/-- Bindings were put in and none was taken out. -/
structure Grown (table next : Table) : Prop where
  countsGains : table.CountsGains next
  keeps : ∀ raw, table.occupied raw = true → next.occupied raw = true

/-- Bindings were taken out and none was put in. -/
structure Shrunk (table next : Table) : Prop where
  opened_eq : next.opened = table.opened
  drops : ∀ raw, next.occupied raw = true → table.occupied raw = true

/-- Putting a binding in opens a set only where there is none. -/
theorem timesOpened_put
    (table : Table)
    (raw other : String)
    (binding : Binding) :
    (table.put raw binding).timesOpened other =
      table.timesOpened other +
        if raw = other ∧ table.occupied raw = false then 1 else 0 := by
  cases present : table.occupied raw with
  | true =>
      simp [timesOpened, put, present]
  | false =>
      by_cases own : raw = other
      · subst own
        simp [timesOpened, put, present]
      · simp [timesOpened, put, present, own, Std.ExtTreeMap.getD_insert]

theorem occupied_of_withdraw
    {raw other name : String}
    (remains : (table.withdraw raw name).occupied other = true) :
    table.occupied other = true := by
  rw [occupied_eq_isSome, lookup?_withdraw] at remains
  split at remains
  · rename_i own
    subst own
    split at remains
    · cases remains
    · rename_i notVacated
      -- Something is left, so something was there to take a name out of.
      rw [occupied_eq_isSome]
      cases found : table.lookup? raw with
      | some bindings =>
          rfl
      | none =>
          simp [bindingsAt, found] at notVacated
  · rw [occupied_eq_isSome]
    exact remains

/-- Where no set came, none was opened. -/
theorem Shrunk.countsGains
    (shrunk : Shrunk table next) :
    table.CountsGains next := by
  intro raw
  have notGained : table.gains next raw = false := by
    rw [gains]
    cases present : next.occupied raw with
    | true =>
        rw [shrunk.drops raw present]
        rfl
    | false =>
        exact Bool.and_false _
  simp [timesOpened, shrunk.opened_eq, notGained]

namespace Shrunk

/-- The live bindings have no part in which sets there are. -/
theorem withLive
    (table : Table)
    (live : Bindings) :
    Shrunk table { table with live } where
  opened_eq := rfl
  drops _ present := present

theorem refl (table : Table) : Shrunk table table :=
  withLive table table.live

theorem clear (table : Table) : Shrunk table table.clear where
  opened_eq := rfl
  drops raw present := by
    simp [Table.clear, occupied] at present

theorem withdraw
    (shrunk : Shrunk table next)
    (raw name : String) :
    Shrunk table (next.withdraw raw name) where
  opened_eq := shrunk.opened_eq
  drops other remains := shrunk.drops other (occupied_of_withdraw remains)

theorem withdrawAll
    (shrunk : Shrunk table next)
    (raw : String)
    (bindings : Bindings) :
    Shrunk table (next.withdrawAll raw bindings) :=
  List.foldlRecOn bindings.keys _ shrunk
    fun _ sofar name _ => sofar.withdraw raw name

theorem retract
    (shrunk : Shrunk table next)
    (name : String)
    (addresses : List String) :
    Shrunk table (next.retract name addresses) :=
  List.foldlRecOn addresses _ shrunk
    fun _ sofar raw _ => sofar.withdraw raw name

theorem release
    (shrunk : Shrunk table next)
    (raw : String)
    (patterns : List String) :
    Shrunk table (next.release raw patterns) :=
  List.foldlRecOn patterns _ shrunk
    fun sofar shrunkSofar pattern _ =>
      shrunkSofar.withdrawAll raw (sofar.bindingsAt pattern)

end Shrunk

namespace Grown

theorem withLive
    (table : Table)
    (live : Bindings) :
    Grown table { table with live } where
  countsGains := (Shrunk.withLive table live).countsGains
  keeps _ present := present

theorem put
    (grown : Grown table next)
    (raw : String)
    (binding : Binding) :
    Grown table (next.put raw binding) where
  countsGains other := by
    have kept := grown.keeps other
    rw [timesOpened_put, grown.countsGains other, Nat.add_assoc]
    simp only [gains, occupied_put]
    by_cases own : raw = other
    · subst own
      by_cases present : table.occupied raw = true
      · simp [present, kept present]
      · -- Only the first binding put in opens the set.
        by_cases presentNext : next.occupied raw = true <;>
          simp [present, presentNext]
    · simp [own]
  keeps other present := by
    simp [occupied_put, grown.keeps other present]

theorem putAll
    (grown : Grown table next)
    (raw : String)
    (bindings : Bindings) :
    Grown table (next.putAll raw bindings) :=
  List.foldlRecOn bindings.contents _ grown
    fun _ sofar binding _ => sofar.put raw binding

theorem spread
    (grown : Grown table next)
    (binding : Binding)
    (addresses : List String) :
    Grown table (next.spread binding addresses) :=
  List.foldlRecOn addresses _ grown
    fun _ sofar raw _ => sofar.put raw binding

theorem drawIn
    (grown : Grown table next)
    (raw : String)
    (patterns : List String) :
    Grown table (next.drawIn raw patterns) :=
  List.foldlRecOn patterns _ grown
    fun sofar grownSofar pattern _ =>
      grownSofar.putAll raw (sofar.bindingsAt pattern)

end Grown

/-- Making a call on a table opens the sets that it brings. -/
theorem countsGains_apply
    (table : Table)
    (change : Change) :
    table.CountsGains (table.apply change) := by
  cases change with
  | bind binding =>
      simp only [apply, add_eq]
      cases table.live.contains binding.name with
      | true =>
          exact (Shrunk.refl table).countsGains
      | false =>
          exact ((Grown.withLive table _).put _ binding).countsGains
  | unbind name =>
      simp only [apply, remove_eq]
      cases table.live[name]? with
      | none =>
          exact (Shrunk.refl table).countsGains
      | some binding =>
          exact ((Shrunk.withLive table _).withdraw _ name).countsGains
  | route raw =>
      exact (Shrunk.refl table).countsGains
  | clear =>
      exact (Shrunk.clear table).countsGains

/-- How a call may add to the record of opened sets. -/
structure OpensAsNeeded (table next : Table) : Prop where
  atMostOnce :
    ∀ raw, next.timesOpened raw ≤ table.timesOpened raw + 1
  notWhereOccupied :
    ∀ raw,
      table.occupied raw = true →
      next.timesOpened raw = table.timesOpened raw
  notWhereVacant :
    ∀ raw,
      next.occupied raw = false →
      next.timesOpened raw = table.timesOpened raw
  /-- A set that was opened has a binding when the call ends. -/
  filled :
    ∀ raw,
      next.timesOpened raw ≠ table.timesOpened raw →
      ∃ bindings,
        next.lookup? raw = some bindings ∧ bindings ≠ ∅

/-- Opening what is gained is all that is needed where no set is empty. -/
theorem CountsGains.opensAsNeeded
    (countsGains : table.CountsGains next)
    (noEmpty : next.NoEmptySet) :
    table.OpensAsNeeded next where
  atMostOnce raw := by
    rw [countsGains raw]
    split <;> omega
  notWhereOccupied raw present := by
    simp [countsGains raw, gains, present]
  notWhereVacant raw absent := by
    simp [countsGains raw, gains, absent]
  filled raw opened := by
    have present : next.occupied raw = true := by
      apply Classical.byContradiction
      intro absent
      exact opened (by simp [countsGains raw, gains, absent])
    rw [occupied_eq_isSome, Option.isSome_iff_exists] at present
    obtain ⟨bindings, found⟩ := present
    exact ⟨bindings, found, fun empty => noEmpty raw (empty ▸ found)⟩

end Table

namespace Index

/-- A new binding and its copies along the links are only put in. -/
theorem grown_filled
    (index : Index)
    (binding : Binding)
    (visiting : Visiting) :
    Table.Grown index.table (index.filled binding visiting) := by
  have added : Table.Grown index.table (index.added binding) :=
    (Table.Grown.withLive index.table _).put _ binding
  simp only [filled]
  split
  · exact added.spread binding _
  · split
    · exact added
    · exact added.drawIn _ _

/-- An ended binding and what was drawn in for it are only taken out. -/
theorem shrunk_emptied
    (index : Index)
    (name : String)
    (binding : Binding)
    (visiting : Visiting) :
    Table.Shrunk index.table (index.emptied name binding visiting) := by
  have removed : Table.Shrunk index.table (index.removed name binding) :=
    (Table.Shrunk.withLive index.table _).withdraw _ name
  simp only [emptied]
  split
  · exact removed.retract name _
  · split
    · exact removed
    · exact removed.release _ _

/-- A step on an index opens the sets that it brings. -/
theorem Step.countsGains
    {index next : Index}
    {change : Change}
    (step : Step index change next) :
    index.table.CountsGains next.table := by
  cases step with
  | bindTaken binding taken =>
      exact (Table.Shrunk.refl index.table).countsGains
  | bind binding visiting free =>
      exact (grown_filled index binding visiting).countsGains
  | unbindUnknown name unknown =>
      exact (Table.Shrunk.refl index.table).countsGains
  | @unbind name binding visiting found =>
      exact (shrunk_emptied index name binding visiting).countsGains
  | routeSettled raw settled =>
      exact (Table.Shrunk.refl index.table).countsGains
  | @route raw address visiting vacant covered =>
      exact ((Table.Grown.withLive index.table _).drawIn raw _).countsGains
  | clear =>
      exact (Table.Shrunk.clear index.table).countsGains

/-- No step leaves an empty set. -/
theorem Step.noEmptySet
    {index next : Index}
    {change : Change}
    (step : Step index change next)
    (noEmpty : index.table.NoEmptySet) :
    next.table.NoEmptySet := by
  cases step with
  | bindTaken binding taken =>
      exact noEmpty
  | bind binding visiting free =>
      exact (rearranged_filled index binding visiting).noEmptySet noEmpty
  | unbindUnknown name unknown =>
      exact noEmpty
  | @unbind name binding visiting found =>
      exact (rearranged_emptied index name binding visiting).noEmptySet noEmpty
  | routeSettled raw settled =>
      exact noEmpty
  | route visiting vacant covered =>
      exact (Table.Rearranged.drawIn _ _ _).noEmptySet noEmpty
  | clear =>
      exact (Table.Partitioned.clear index.table).noEmptySet

/-- No set is ever left empty, whatever addresses bindings are made for. -/
theorem noEmptySet_afterCalls
    (tokens : Tokens)
    (calls : List Call) :
    (afterCalls tokens calls).table.NoEmptySet :=
  afterCalls_of_invariant
    (fun index => index.table.NoEmptySet)
    (fun _ => True)
    Table.Partitioned.empty.noEmptySet
    (fun step noEmpty _ => step.noEmptySet noEmpty)
    (fun _ _ => trivial)

end Index

section Runs

variable
  {State Call : Type}
  (make : State → Call → State)
  (table : State → Table)

/-- How many calls of a run bring a set to a text that had none. -/
def appearances (raw : String) : State → List Call → Nat
  | _, [] => 0
  | state, call :: rest =>
      (if (table state).gains (table (make state call)) raw then 1 else 0) +
        appearances raw (make state call) rest

/-- If every call opens what it brings, a run opens what was seen to come. -/
theorem timesOpened_foldl
    (countsGains :
      ∀ state call,
        (table state).CountsGains (table (make state call)))
    (raw : String)
    (state : State)
    (calls : List Call) :
    (table (calls.foldl make state)).timesOpened raw =
      (table state).timesOpened raw +
        appearances make table raw state calls := by
  induction calls generalizing state with
  | nil =>
      rfl
  | cons call rest inductionHypothesis =>
      rw [List.foldl_cons, inductionHypothesis, countsGains state call raw,
        appearances, Nat.add_assoc]

/-- How a run of calls opens sets, and how the next call would. -/
structure OpensAsSeen
    (start : State)
    (calls : List Call) :
    Prop where
  /-- As often as a text was seen to get a set, one was opened for it. -/
  total :
    ∀ raw,
      (table (calls.foldl make start)).timesOpened raw =
        appearances make table raw start calls
  next :
    ∀ call,
      (table (calls.foldl make start)).OpensAsNeeded
        (table (make (calls.foldl make start) call))

end Runs

namespace Writes

/-- If the call is refused, what was written before opened no set. -/
def SparesSets
    {State Answer : Type}
    (writes : Writes State Answer)
    (table : State → Table)
    (state : State)
    (outcome : Except Refusal (Answer × State)) : Prop :=
  ∀ refusal,
    outcome = .error refusal →
    ∃ left,
      writes state = .error refusal left ∧
        (table left).opened = (table state).opened

theorem CarriesOut.sparesSets
    {State Answer : Type}
    {writes : Writes State Answer}
    {state : State}
    {outcome : Except Refusal (Answer × State)}
    (carriesOut : writes.CarriesOut state outcome)
    (table : State → Table) :
    writes.SparesSets table state outcome :=
  fun _ refused =>
    ⟨state, carriesOut.refused.mpr ⟨refused, rfl⟩, rfl⟩

end Writes

namespace Index

/-- Where a call on an index opens no set at all. -/
structure SparesSets (index : Index) : Prop where
  bind :
    ∀ binding visiting,
      (writeBind binding visiting).SparesSets Index.table index
        (index.bind binding visiting)
  unbind :
    ∀ name visiting,
      (writeUnbind name visiting).SparesSets Index.table index
        (index.unbind name visiting)
  /-- A text with a set is looked up only. -/
  route :
    ∀ raw visiting bindings,
      index.lookup? raw = some bindings →
      (index.route raw visiting).2.table.opened = index.table.opened

theorem sparesSets (index : Index) : SparesSets index where
  bind binding visiting :=
    (Writes.CarriesOut.of_eq
      (writeBind_eq index binding visiting)).sparesSets _
  unbind name visiting :=
    (Writes.CarriesOut.of_eq
      (writeUnbind_eq index name visiting)).sparesSets _
  route raw visiting bindings found := by
    rw [route_of_occupied found]

/-- An index opens sets for what is bound and sent to as they appear. -/
theorem opensAsSeen
    (tokens : Tokens)
    (calls : List Call) :
    OpensAsSeen Index.make Index.table { tokens } calls where
  total raw := by
    have counted :=
      timesOpened_foldl Index.make Index.table
        (fun index call => (step_make index call).countsGains)
        raw { tokens } calls
    exact counted.trans (Nat.zero_add _)
  next call := by
    have step := step_make (calls.foldl make { tokens }) call
    exact step.countsGains.opensAsNeeded
      (step.noEmptySet (noEmptySet_afterCalls tokens calls))

end Index

namespace Table

/-- Where a call on a table opens no set at all. -/
structure SparesSets (table : Table) : Prop where
  add :
    ∀ binding,
      (writeAdd binding).SparesSets id table (table.add binding)
  remove :
    ∀ name,
      (writeRemove name).SparesSets id table (table.remove name)

theorem sparesSets (table : Table) : SparesSets table where
  add binding :=
    (Writes.CarriesOut.of_eq (writeAdd_eq table binding)).sparesSets id
  remove name :=
    (Writes.CarriesOut.of_eq (writeRemove_eq table name)).sparesSets id

/-- A table opens sets for what is bound as they appear. -/
theorem opensAsSeen (history : History) :
    OpensAsSeen Table.apply id {} history where
  total raw := by
    have counted :=
      timesOpened_foldl Table.apply id countsGains_apply raw {} history
    exact counted.trans (Nat.zero_add _)
  next change :=
    (countsGains_apply _ change).opensAsNeeded
      ((Partitioned.after history).apply change).noEmptySet

end Table

/--
In any run of calls on an index or on a flat table, with addresses of any
origin and with refused calls among them, a text was opened a set for exactly
as often as it was seen to get one.  On an index every call may visit linked
texts in an order of its own.  No call opens two sets for one text, or one
that is empty or gone when the call ends, and neither a refused call nor a
look-up that finds a set opens any.
-/
theorem sets_are_opened_as_they_appear :
    (∀ (tokens : Tokens) (calls : List Index.Call),
        OpensAsSeen Index.make Index.table { tokens } calls) ∧
      (∀ history : History, OpensAsSeen Table.apply id {} history) ∧
        (∀ index : Index, index.SparesSets) ∧
          ∀ table : Table, table.SparesSets :=
  ⟨Index.opensAsSeen, Table.opensAsSeen, Index.sparesSets,
    Table.sparesSets⟩

/-- A text that is sent to again after its set was dropped gets another. -/
example :
    let audit : Binding :=
      ⟨"audit", ⟨"orders.*", [.literal "orders", .singleWord]⟩, "log"⟩
    let calls : List Index.Call :=
      [{ change := .bind audit }, { change := .route "orders.eu" },
        { change := .bind audit }, { change := .unbind "audit" },
        { change := .bind audit }, { change := .route "orders.eu" },
        { change := .route "orders.eu" }]
    (Index.afterCalls {} calls).table.timesOpened "orders.eu" = 2 ∧
      appearances Index.make Index.table "orders.eu" {} calls = 2 := by
  decide +kernel

end BrokerRouting
