import BrokerRouting.Proofs.RouterCalls
import BrokerRouting.Router.Writes

namespace BrokerRouting

/-!
# Refused calls

Which calls are refused is told by the requests answered so far: a name is
taken while the last word on it is that it was bound.  A refusal comes before
the first write that would be noticed, so a refused call leaves every map as
it was although nothing is taken back.
-/

namespace Writes

variable
  {State Answer Next : Type}
  {state left : State}
  {writes : Writes State Answer}
  {rest : Answer → Writes State Next}

/-- Writes that are done go on from the state they leave. -/
theorem bind_of_ok
    {answer : Answer}
    (done : writes state = .ok answer left) :
    (writes >>= rest) state = rest answer left := by
  simp [Bind.bind, EStateM.bind, done]

/-- Refused writes are not gone on with. -/
theorem bind_of_error
    {refusal : Refusal}
    (refused : writes state = .error refusal left) :
    (writes >>= rest) state = .error refusal left := by
  simp [Bind.bind, EStateM.bind, refused]

/-- Writes that answer as a call does and keep nothing once refused. -/
structure CarriesOut
    (writes : Writes State Answer)
    (state : State)
    (outcome : Except Refusal (Answer × State)) : Prop where
  done :
    ∀ {answer : Answer} {next : State},
      writes state = .ok answer next ↔ outcome = .ok (answer, next)
  refused :
    ∀ {refusal : Refusal} {left : State},
      writes state = .error refusal left ↔
        outcome = .error refusal ∧ left = state

theorem CarriesOut.of_eq
    {outcome : Except Refusal (Answer × State)}
    (same : writes state = allOrNothing state outcome) :
    writes.CarriesOut state outcome := by
  cases outcome with
  | error refusal =>
      exact
        { done := by simp [same, allOrNothing]
          refused := by simp [same, allOrNothing, eq_comm] }
  | ok answered =>
      exact
        { done := by simp [same, allOrNothing, Prod.ext_iff]
          refused := by simp [same, allOrNothing] }

theorem get_bind
    (state : State)
    (rest : State → Writes State Next) :
    (get >>= rest) state = rest state state :=
  rfl

theorem modify_bind
    (change : State → State)
    (state : State)
    (rest : PUnit → Writes State Next) :
    (modify change >>= rest) state = rest ⟨⟩ (change state) :=
  rfl

end Writes

namespace Table

/-- A taken name is noticed before anything is written. -/
theorem writeAdd_eq
    (table : Table)
    (binding : Binding) :
    writeAdd binding table =
      Writes.allOrNothing table (table.add binding) := by
  rw [add_eq, writeAdd, Writes.get_bind]
  cases table.live.contains binding.name <;> rfl

/-- An unknown name is noticed after a write that changes nothing. -/
theorem writeRemove_eq
    (table : Table)
    (name : String) :
    writeRemove name table =
      Writes.allOrNothing table (table.remove name) := by
  rw [remove_eq, writeRemove, Writes.get_bind]
  cases unknown : table.live[name]? with
  | none =>
      have unchanged :
          { table with live := table.live.erase name } = table := by
        rw [TextMap.erase_of_absent unknown]
      exact congrArg (EStateM.Result.error (Refusal.unknownName name))
        unchanged
  | some binding =>
      rfl

end Table

namespace Index

variable {index : Index}

theorem onTable_eq
    {Answer : Type}
    (writes : Writes Table Answer)
    (index : Index) :
    onTable writes index =
      writes.within (fun table => { index with table }) index.table :=
  rfl

/-- Once the table took the binding, nothing is refused any more. -/
theorem writeBind_eq
    (index : Index)
    (binding : Binding)
    (visiting : Visiting) :
    writeBind binding visiting index =
      Writes.allOrNothing index (index.bind binding visiting) := by
  rw [bind_eq]
  by_cases taken : index.table.live.contains binding.name = true
  · have refused :
        onTable (Table.writeAdd binding) index =
          .error (.nameTaken binding.name) index := by
      simp [onTable_eq, Writes.within, Table.writeAdd_eq, Table.add_eq,
        taken, Writes.allOrNothing]
    rw [writeBind, Writes.bind_of_error refused, if_pos taken]
    rfl
  · have added :
        onTable (Table.writeAdd binding) index =
          .ok (index.table.occupied binding.address.raw)
            { index with table := index.table.gained binding } := by
      simp [onTable_eq, Writes.within, Table.writeAdd_eq, Table.add_eq,
        taken, Writes.allOrNothing]
    rw [writeBind, Writes.bind_of_ok added, if_neg taken, bound, filled]
    simp only [Writes.get_bind, Writes.modify_bind]
    cases binding.address.place.side with
    | pattern =>
        rfl
    | concrete =>
        cases index.tracking.tracks binding.address.place <;> rfl

/-- Once the table gave the binding up, nothing is refused any more. -/
theorem writeUnbind_eq
    (index : Index)
    (name : String)
    (visiting : Visiting) :
    writeUnbind name visiting index =
      Writes.allOrNothing index (index.unbind name visiting) := by
  rw [unbind_eq]
  cases found : index.table.live[name]? with
  | none =>
      have refused :
          onTable (Table.writeRemove name) index =
            .error (.unknownName name) index := by
        simp [onTable_eq, Writes.within, Table.writeRemove_eq,
          Table.remove_eq, found, Writes.allOrNothing]
      rw [writeUnbind, Writes.bind_of_error refused]
      rfl
  | some binding =>
      have removed :
          onTable (Table.writeRemove name) index =
            .ok binding
              { index with table := index.table.lost name binding } := by
        simp [onTable_eq, Writes.within, Table.writeRemove_eq,
          Table.remove_eq, found, Writes.allOrNothing]
      have sameTable :
          index.removed name binding = index.table.lost name binding := rfl
      rw [writeUnbind, Writes.bind_of_ok removed]
      simp only [Writes.get_bind, ended, emptied, sameTable]
      cases binding.address.place.side with
      | pattern =>
          rfl
      | concrete =>
          simp only [Writes.get_bind]
          by_cases lasting :
              (decide (binding.address.place.name ∈ index.tracking.routed) ||
                (index.table.lost name binding).ownsBinding
                  binding.address.place.name) = true
          · simp only [lasting]
            rfl
          · simp only [lasting]
            rfl

end Index

namespace Router

/-- Written out, a bind answers the same and is carried out or not at all. -/
theorem writeBind_eq
    (router : Router)
    (raw name target : String) :
    writeBind raw name target router =
      Writes.allOrNothing router (router.bind raw name target) := by
  unfold writeBind Router.bind
  cases router.parse raw with
  | error refusal =>
      rfl
  | ok address =>
      cases router with
      | flat tokens table =>
          simp only [Writes.within, Table.writeAdd_eq]
          cases table.add ⟨name, address, target⟩ <;> rfl
      | wildcard index =>
          simp only [Writes.within, Index.writeBind_eq]
          cases index.bind ⟨name, address, target⟩ <;> rfl

/-- Written out, an unbind answers the same and is carried out or not at all. -/
theorem writeUnbind_eq
    (router : Router)
    (name : String) :
    writeUnbind name router =
      Writes.allOrNothing router (router.unbind name) := by
  cases router with
  | flat tokens table =>
      simp only [writeUnbind, unbind, Writes.within, Table.writeRemove_eq]
      cases table.remove name <;> rfl
  | wildcard index =>
      simp only [writeUnbind, unbind, Writes.within, Index.writeUnbind_eq]
      cases index.unbind name <;> rfl

variable {router : Router}

/-- How a router reads addresses is all in its configuration. -/
theorem parse_eq
    (router : Router)
    (raw : String) :
    router.parse raw =
      if router.config.wildcardRouting then
        Address.parse router.config.tokens raw
      else
        Address.literal raw := by
  cases router <;> rfl

theorem raw_of_parse
    {raw : String}
    {address : Address}
    (parsed : router.parse raw = .ok address) :
    address.raw = raw := by
  cases router with
  | flat tokens table =>
      simp only [parse, Address.literal] at parsed
      split at parsed <;> cases parsed
      rfl
  | wildcard index =>
      exact Address.raw_of_parse parsed

/-- A text that is no address is refused as malformed. -/
theorem malformed_of_parse
    {raw : String}
    {refusal : Refusal}
    (unreadable : router.parse raw = .error refusal) :
    ∃ fault, refusal = .malformed raw fault := by
  cases router with
  | flat tokens table =>
      simp only [parse, Address.literal] at unreadable
      split at unreadable <;> cases unreadable
      exact ⟨_, rfl⟩
  | wildcard index =>
      simp only [parse, Index.parse, Address.parse] at unreadable
      split at unreadable <;> cases unreadable
      exact ⟨_, rfl⟩

/--
What an answered request tells of a name: the text and the target it is bound
to from now on, that it is bound no more, or nothing.
-/
def Request.tells
    (name : String) :
    Request → Reply → Option (Option (String × String))
  | .bind raw other target, .bound _ =>
      if other = name then some (some (raw, target)) else none
  | .unbind other, .unbound _ =>
      if other = name then some none else none
  | .clear, .cleared =>
      some none
  | _, _ =>
      none

/-- The last word on a name that a list of answered requests has. -/
def lastWord?
    (answered : List (Request × Reply))
    (name : String) :
    Option (Option (String × String)) :=
  answered.reverse.findSome? fun (request, reply) => request.tells name reply

/--
The text and the target that a name is bound to after some requests, if the
last of them that concerned it was a bind.
-/
def standing?
    (router : Router)
    (requests : List Request)
    (name : String) :
    Option (String × String) :=
  (lastWord? (requests.zip (router.run requests).1) name).join

end Router

/-- The text and the target of a binding. -/
def Binding.terms (binding : Binding) : String × String :=
  (binding.address.raw, binding.target)

namespace Router

variable {router : Router}

theorem lastWord?_cons
    (first : Request × Reply)
    (later : List (Request × Reply))
    (name : String) :
    lastWord? (first :: later) name =
      (lastWord? later name).or (first.1.tells name first.2) := by
  rw [lastWord?, List.reverse_cons, List.findSome?_append,
    List.findSome?_singleton]
  rfl

/-- A request changes what a name is bound to exactly as its reply tells. -/
theorem terms_answer
    (router : Router)
    (request : Request)
    (name : String) :
    ((router.answer request).2.find? name).map Binding.terms =
      (request.tells name (router.answer request).1).getD
        ((router.find? name).map Binding.terms) := by
  simp only [find?, Table.find?]
  cases request with
  | bind raw other target =>
      simp only [answer, bind_eq]
      cases parsed : router.parse raw with
      | error refusal =>
          rfl
      | ok address =>
          cases router.table.live.contains other with
          | true =>
              rfl
          | false =>
              by_cases same : other = name <;>
                simp [Request.tells, Bindings.getElem?_add, same,
                  Binding.terms, raw_of_parse parsed]
  | unbind other =>
      simp only [answer, unbind_eq]
      cases router.table.live[other]? with
      | none =>
          rfl
      | some binding =>
          by_cases same : other = name <;>
            simp [Request.tells, Bindings.getElem?_erase, same]
  | route raw =>
      simp [answer, Request.tells]
  | clear =>
      simp [answer, Request.tells]
  | parse raw =>
      simp only [answer]
      cases router.parse raw <;> rfl
  | _ =>
      rfl

/-- A run leaves a name bound as the last word on it says. -/
theorem terms_run
    (router : Router)
    (requests : List Request)
    (name : String) :
    ((router.run requests).2.find? name).map Binding.terms =
      (lastWord? (requests.zip (router.run requests).1) name).getD
        ((router.find? name).map Binding.terms) := by
  induction requests generalizing router with
  | nil =>
      rfl
  | cons request rest inductionHypothesis =>
      have later := inductionHypothesis (router.answer request).2
      rw [terms_answer] at later
      simp only [run, List.zip_cons_cons, lastWord?_cons]
      rw [later]
      cases lastWord? (rest.zip ((router.answer request).2.run rest).1)
        name <;> rfl

/-- From nothing, what a name is bound to is decided by the requests. -/
theorem terms_eq_standing?
    (nothingLive : router.table.live = ∅)
    (requests : List Request)
    (name : String) :
    ((router.run requests).2.find? name).map Binding.terms =
      router.standing? requests name := by
  have unbound : (router.find? name).map Binding.terms = none := by
    simp [find?, Table.find?, nothingLive]
  rw [terms_run, unbound, standing?]
  cases lastWord? (requests.zip (router.run requests).1) name <;> rfl

/-- A name stands for nothing exactly when no live binding has it. -/
theorem standing?_eq_none_iff
    (nothingLive : router.table.live = ∅)
    {requests : List Request}
    {name : String} :
    router.standing? requests name = none ↔
      (router.run requests).2.table.live[name]? = none := by
  rw [← terms_eq_standing? nothingLive, Option.map_eq_none_iff]
  rfl

/-- A name that stands for something has a live binding of these terms. -/
theorem found_of_standing?
    (nothingLive : router.table.live = ∅)
    {requests : List Request}
    {name raw target : String}
    (stands : router.standing? requests name = some (raw, target)) :
    ∃ binding,
      (router.run requests).2.table.live[name]? = some binding ∧
        binding.address.raw = raw ∧ binding.target = target := by
  rw [← terms_eq_standing? nothingLive] at stands
  obtain ⟨binding, found, terms⟩ := Option.map_eq_some_iff.mp stands
  exact ⟨binding, found, congrArg Prod.fst terms, congrArg Prod.snd terms⟩

/-- A bind is refused as malformed exactly when its text is no address. -/
theorem bind_malformed_iff {raw name target : String} :
    (∃ fault, router.bind raw name target =
        .error (.malformed raw fault)) ↔
      ∃ refusal, router.parse raw = .error refusal := by
  rw [bind_eq]
  cases unreadable : router.parse raw with
  | error refusal =>
      obtain ⟨fault, rfl⟩ := malformed_of_parse unreadable
      simp
  | ok address =>
      by_cases taken : router.table.live.contains name = true <;>
        simp [taken]

/-- A bind is refused for its name only if its text is an address. -/
theorem bind_nameTaken_iff {raw name target : String} :
    router.bind raw name target = .error (.nameTaken name) ↔
      (∃ address, router.parse raw = .ok address) ∧
        router.table.live[name]? ≠ none := by
  rw [bind_eq]
  cases unreadable : router.parse raw with
  | error refusal =>
      obtain ⟨fault, rfl⟩ := malformed_of_parse unreadable
      simp
  | ok address =>
      rw [Std.ExtTreeMap.contains_eq_isSome_getElem?]
      cases router.table.live[name]? <;> simp

theorem bind_ok_iff {raw name target : String} :
    (∃ existed next,
        router.bind raw name target = .ok (existed, next)) ↔
      (∃ address, router.parse raw = .ok address) ∧
        router.table.live[name]? = none := by
  rw [bind_eq]
  cases router.parse raw with
  | error refusal =>
      simp
  | ok address =>
      rw [Std.ExtTreeMap.contains_eq_isSome_getElem?]
      cases router.table.live[name]? <;> simp

theorem unbind_unknownName_iff {name : String} :
    router.unbind name = .error (.unknownName name) ↔
      router.table.live[name]? = none := by
  rw [unbind_eq]
  cases router.table.live[name]? <;> simp

end Router

/--
Whatever requests a router has answered, with wildcard routing or without, a
bind is refused as malformed exactly for a text that is no address, and
otherwise for its name exactly while that stands for something; an unbind is
refused exactly for a name that stands for nothing, and otherwise gives the
binding that was asked for.  Carried out write by write, both answer the same,
and a refusal leaves the whole router, and the record of opened sets in it,
as it was.
-/
theorem refusals_are_exact_and_atomic
    {config : RouterConfig}
    {router : Router}
    (created : Router.create config = .ok router)
    (requests : List Router.Request) :
    let final := (router.run requests).2
    let standing := router.standing? requests
    (∀ raw name target : String,
        ((∃ fault, final.bind raw name target =
              .error (.malformed raw fault)) ↔
            ∃ refusal, router.parse raw = .error refusal) ∧
          (final.bind raw name target = .error (.nameTaken name) ↔
            (∃ address, router.parse raw = .ok address) ∧
              (standing name).isSome = true) ∧
          ((∃ existed next,
              final.bind raw name target = .ok (existed, next)) ↔
            (∃ address, router.parse raw = .ok address) ∧
              standing name = none) ∧
          (Router.writeBind raw name target).CarriesOut final
            (final.bind raw name target)) ∧
      ∀ name : String,
        (final.unbind name = .error (.unknownName name) ↔
            standing name = none) ∧
          (∀ raw target,
            standing name = some (raw, target) →
            ∃ binding next,
              final.unbind name = .ok (binding, next) ∧
                binding.name = name ∧
                  binding.address.raw = raw ∧
                    binding.target = target) ∧
          (Router.writeUnbind name).CarriesOut final
            (final.unbind name) := by
  intro final standing
  obtain ⟨sound, sameConfig, nothingLive⟩ := Router.sound_of_create created
  obtain ⟨finalSound, finalConfig⟩ := sound.run requests
  have sameParse : ∀ raw, final.parse raw = router.parse raw := by
    intro raw
    rw [Router.parse_eq, Router.parse_eq, finalConfig]
  have unbound :
      ∀ {name},
        standing name = none ↔ final.table.live[name]? = none :=
    Router.standing?_eq_none_iff nothingLive
  refine ⟨fun raw name target => ⟨?_, ?_, ?_, ?_⟩,
    fun name => ⟨?_, ?_, ?_⟩⟩
  · rw [Router.bind_malformed_iff, sameParse]
  · rw [Router.bind_nameTaken_iff, sameParse, ne_eq, ← unbound,
      Option.isSome_iff_ne_none]
  · rw [Router.bind_ok_iff, sameParse, unbound]
  · exact .of_eq (Router.writeBind_eq final raw name target)
  · rw [Router.unbind_unknownName_iff, unbound]
  · intro raw target stands
    obtain ⟨binding, found, sameText, sameTarget⟩ :=
      Router.found_of_standing? nothingLive stands
    have ended :
        final.unbind name = .ok (binding, final.ended name binding) := by
      rw [Router.unbind_eq, found]
    exact ⟨binding, _, ended, finalSound.keyed found, sameText, sameTarget⟩
  · exact .of_eq (Router.writeUnbind_eq final name)

/-- A name whose binding has ended is free again, another is still taken. -/
theorem ended_name_is_free_again :
    let requests : List Router.Request :=
      [.bind "orders.*" "audit" "log", .bind "orders.eu" "ship" "van",
        .route "orders.us", .unbind "ship"]
    let final := ((Router.empty {}).run requests).2
    (∃ fault, final.bind "orders..eu" "audit" "van" =
        .error (.malformed "orders..eu" fault)) ∧
      final.bind "orders.us" "audit" "van" =
          .error (.nameTaken "audit") ∧
        (∃ existed next, final.bind "orders.us" "ship" "van" =
            .ok (existed, next)) ∧
          Router.writeUnbind "ship" final =
              .error (.unknownName "ship") final ∧
            ∃ binding next,
              final.unbind "audit" = .ok (binding, next) ∧
                binding.name = "audit" ∧
                  binding.address.raw = "orders.*" ∧
                    binding.target = "log" := by
  intro requests final
  have created : Router.create {} = .ok (Router.empty {}) := by
    rfl
  have readable :
      (Router.empty {}).parse "orders.us" =
        .ok ⟨"orders.us", [.literal "orders", .literal "us"]⟩ := by
    rfl
  have unreadable :
      (Router.empty {}).parse "orders..eu" =
        .error (.malformed "orders..eu" .emptySegment) := by
    rfl
  obtain ⟨binds, unbinds⟩ := refusals_are_exact_and_atomic created requests
  obtain ⟨malformed, _, _, _⟩ := binds "orders..eu" "audit" "van"
  obtain ⟨_, taken, _, _⟩ := binds "orders.us" "audit" "van"
  obtain ⟨_, _, free, _⟩ := binds "orders.us" "ship" "van"
  obtain ⟨unknown, _, carriedOut⟩ := unbinds "ship"
  obtain ⟨_, live, _⟩ := unbinds "audit"
  refine ⟨malformed.mpr ⟨_, unreadable⟩,
    taken.mpr ⟨⟨_, readable⟩, by decide +kernel⟩,
    free.mpr ⟨⟨_, readable⟩, by decide +kernel⟩,
    carriedOut.refused.mpr ⟨unknown.mpr (by decide +kernel), rfl⟩,
    live "orders.*" "log" (by decide +kernel)⟩

end BrokerRouting
