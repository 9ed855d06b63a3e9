import BrokerRouting.Proofs.HeldAfterCalls

namespace BrokerRouting

/-!
# The order in which links are followed

A call that copies bindings along links, or takes copies out, visits the
linked texts one after the other.  Of two bindings of one name the later one
stays in a set, so in general the order counts.  It does not count as long as
no text is tracked on both sides: then whatever is drawn in is live, and live
bindings of one name are the same.  Calls that visit links in any order then
give the same answers and leave the same index, in particular where all
addresses are read with the tokens of the index.
-/

namespace Table

/-- Tables are the same when they look up, know and have opened the same. -/
theorem eq_of_lookup?
    {first second : Table}
    (lookup : ∀ raw, first.lookup? raw = second.lookup? raw)
    (live : first.live = second.live)
    (opened : first.opened = second.opened) :
    first = second := by
  have sets : first.sets = second.sets :=
    Std.ExtTreeMap.ext_getElem? lookup
  cases first
  cases second
  simp_all

theorem getElem?_opened_put
    (table : Table)
    (raw other : String)
    (binding : Binding) :
    (table.put raw binding).opened[other]? =
      if raw = other ∧ table.occupied raw = false then
        some (table.opened[raw]?.getD 0 + 1)
      else
        table.opened[other]? := by
  cases present : table.occupied raw with
  | true =>
      simp [put, present]
  | false =>
      simp [put, present, Std.ExtTreeMap.getElem?_insert,
        Std.ExtTreeMap.getD_eq_getD_getElem?]

section Order

variable
  (table : Table)
  {raw other : String}

/-- Which set is opened first leaves no trace. -/
theorem opened_put_put
    (binding later : Binding) :
    ((table.put raw binding).put other later).opened =
      ((table.put other later).put raw binding).opened := by
  apply Std.ExtTreeMap.ext_getElem?
  intro text
  simp only [getElem?_opened_put, occupied_put]
  by_cases same : raw = other
  · subst same
    simp
  · by_cases first : raw = text
    · subst first
      simp [same, Ne.symm same]
    · simp [first, same, Ne.symm same]

/-- Two bindings go in in either order, unless one takes the other's place. -/
theorem put_put_comm
    {binding later : Binding}
    (agree : raw = other → binding.name = later.name → binding = later) :
    (table.put raw binding).put other later =
      (table.put other later).put raw binding := by
  refine eq_of_lookup? ?_ rfl (table.opened_put_put binding later)
  intro text
  simp only [lookup?_put, bindingsAt_put]
  by_cases same : raw = other
  · subst same
    have traded := (table.bindingsAt raw).add_comm (agree rfl)
    simp only [↓reduceIte, traded]
    split <;> rfl
  · -- Neither write reads the set that the other one changes.
    by_cases first : raw = text
    · subst first
      simp [Ne.symm same]
    · simp [first, same]

/-- Two names come out in either order. -/
theorem withdraw_withdraw_comm
    (name later : String) :
    (table.withdraw raw name).withdraw other later =
      (table.withdraw other later).withdraw raw name := by
  refine eq_of_lookup? ?_ rfl rfl
  intro text
  simp only [lookup?_withdraw, bindingsAt_withdraw]
  by_cases same : raw = other
  · subst same
    have traded := (table.bindingsAt raw).erase_comm name later
    simp only [↓reduceIte, traded]
    by_cases own : raw = text
    · simp only [if_pos own]
    · simp only [if_neg own]
  · by_cases first : raw = text
    · subst first
      simp [Ne.symm same]
    · simp [first, same]

end Order

section Visits

variable
  {table : Table}
  {raw : String}
  {order other : List String}

theorem spread_perm
    (binding : Binding)
    (perm : order.Perm other) :
    table.spread binding order = table.spread binding other :=
  perm.foldl_eq'
    (fun _ _ _ _ between => between.put_put_comm fun _ _ => rfl) table

theorem retract_perm
    (name : String)
    (perm : order.Perm other) :
    table.retract name order = table.retract name other :=
  perm.foldl_eq'
    (fun _ _ _ _ between => between.withdraw_withdraw_comm name name) table

/-- Where all sets hold live bindings, patterns are drawn in in any order. -/
theorem drawIn_perm
    {live : Bindings}
    (keyed : live.Keyed)
    (within : ∀ text, (table.bindingsAt text).Within live)
    (apart : raw ∉ order)
    (perm : order.Perm other) :
    table.drawIn raw order = table.drawIn raw other := by
  rw [drawIn_eq_foldl apart, drawIn_eq_foldl (mt perm.mem_iff.mpr apart)]
  refine (perm.flatMap_right _).foldl_eq' ?_ table
  intro binding drawn later laterDrawn between
  apply between.put_put_comm
  -- Under one name both are the live binding of that name.
  intro _ sameName
  have foundLive := live_of_drawn keyed within drawn
  rw [sameName, live_of_drawn keyed within laterDrawn] at foundLive
  exact (Option.some.inj foundLive).symm

theorem release_perm
    (apart : raw ∉ order)
    (perm : order.Perm other) :
    table.release raw order = table.release raw other := by
  rw [release_eq_foldl apart, release_eq_foldl (mt perm.mem_iff.mpr apart)]
  exact (perm.flatMap_right _).foldl_eq'
    (fun name _ later _ between => between.withdraw_withdraw_comm name later)
    table

end Visits

end Table

namespace Index

namespace HeldAlongLinks

variable
  {index : Index}
  {raw : String}
  {binding : Binding}
  {address : Address}

/-- Following the links of a new binding comes to the same in any order. -/
theorem filled_visiting
    (along : HeldAlongLinks index)
    (apart : (index.tracking.track binding.address).SidesApart)
    (free : index.table.live[binding.name]? = none)
    (visiting other : Visiting) :
    index.filled binding visiting = index.filled binding other := by
  have perm := visiting.order_perm other
    ((index.tracking.track binding.address).links binding.address.place)
  cases kind : binding.address.side with
  | pattern =>
      rw [filled_of_pattern kind, filled_of_pattern kind]
      exact Table.spread_perm binding perm
  | concrete =>
      cases tracked : index.tracking.tracks binding.address.place with
      | true =>
          rw [filled_of_tracked kind tracked, filled_of_tracked kind tracked]
      | false =>
          have notOwn :=
            apart.not_mem_own_links (along.graph.track binding.address)
              binding.address.place
          rw [filled_of_untracked kind tracked,
            filled_of_untracked kind tracked]
          exact Table.drawIn_perm (keyed_added along.keyed free)
            (fun _ => along.holdsLive.added_within free)
            (mt Visiting.mem_order.mp notOwn) perm

/-- So does following the links of a binding that has ended. -/
theorem emptied_visiting
    (along : HeldAlongLinks index)
    (name : String)
    (binding : Binding)
    (visiting other : Visiting) :
    index.emptied name binding visiting =
      index.emptied name binding other := by
  have perm := visiting.order_perm other
    (index.tracking.links binding.address.place)
  cases kind : binding.address.side with
  | pattern =>
      rw [emptied_of_pattern kind, emptied_of_pattern kind]
      exact Table.retract_perm name perm
  | concrete =>
      have notOwn :
          binding.address.raw ∉ index.tracking.links binding.address.place :=
        along.apart.not_mem_own_links along.graph binding.address.place
      have released :
          (index.removed name binding).release binding.address.raw
              (visiting.order (index.tracking.links binding.address.place)) =
            (index.removed name binding).release binding.address.raw
              (other.order (index.tracking.links binding.address.place)) :=
        Table.release_perm (mt Visiting.mem_order.mp notOwn) perm
      rw [emptied_of_concrete kind, emptied_of_concrete kind, released]

/-- So does drawing in what reaches a text that begins to be tracked. -/
theorem sentTo_visiting
    (along : HeldAlongLinks index)
    (vacant : index.lookup? raw = none)
    (covered : index.covered? raw = some address)
    (visiting other : Visiting) :
    index.sentTo raw address visiting = index.sentTo raw address other := by
  obtain ⟨parsed, kind, _⟩ := covered?_eq_some_iff.mp covered
  have sameText : address.raw = raw := Address.raw_of_parse parsed
  subst sameText
  have apart := along.apart.track (along.untracked_of_vacant vacant)
  have notOwn :
      address.raw ∉
        (index.tracking.track address).links ⟨.concrete, address.raw⟩ :=
    apart.not_mem_own_links (along.graph.track address) _
  have sameTable :=
    Table.drawIn_perm along.keyed along.holdsLive
      (mt Visiting.mem_order.mp notOwn)
      (visiting.order_perm other _)
  simp only [Index.sentTo, sameTable]

/-! What a call answers and leaves is the same in any order of visiting. -/

theorem bind_visiting
    (along : HeldAlongLinks index)
    (apart : (index.apply (.bind binding)).tracking.SidesApart)
    (visiting other : Visiting) :
    index.bind binding visiting = index.bind binding other := by
  rw [bind_eq, bind_eq]
  cases taken : index.table.live.contains binding.name with
  | true =>
      rfl
  | false =>
      have free : index.table.live[binding.name]? = none :=
        Std.ExtTreeMap.getElem?_eq_none_of_contains_eq_false taken
      have made : index.apply (.bind binding) = index.bound binding := by
        simp [apply, make, bind_eq, taken]
      rw [made] at apart
      have sameTable := along.filled_visiting apart free visiting other
      simp only [Index.bound, sameTable]

theorem unbind_visiting
    (along : HeldAlongLinks index)
    (name : String)
    (visiting other : Visiting) :
    index.unbind name visiting = index.unbind name other := by
  rw [unbind_eq, unbind_eq]
  cases index.table.live[name]? with
  | none =>
      rfl
  | some binding =>
      have sameTable := along.emptied_visiting name binding visiting other
      simp only [Index.ended, sameTable]

theorem route_visiting
    (along : HeldAlongLinks index)
    (raw : String)
    (visiting other : Visiting) :
    index.route raw visiting = index.route raw other := by
  cases found : index.lookup? raw with
  | some bindings =>
      rw [route_of_occupied found, route_of_occupied found]
  | none =>
      cases covered : index.covered? raw with
      | none =>
          rw [route_of_uncovered found covered,
            route_of_uncovered found covered]
      | some address =>
          have sameNext :
              (index.route raw visiting).2 = (index.route raw other).2 := by
            rw [route_of_covered found covered,
              route_of_covered found covered,
              along.sentTo_visiting found covered visiting other]
          refine Prod.ext ?_ sameNext
          rw [route_fst, route_fst, sameNext]

theorem make_eq_apply
    (along : HeldAlongLinks index)
    (call : Call)
    (apart : (index.apply call.change).tracking.SidesApart) :
    index.make call = index.apply call.change := by
  rcases call with ⟨change, visiting⟩
  cases change with
  | bind binding =>
      simp only [make, apply, along.bind_visiting apart visiting .ascending]
  | unbind name =>
      simp only [make, apply, along.unbind_visiting name visiting .ascending]
  | route raw =>
      simp only [make, apply, along.route_visiting raw visiting .ascending]
  | clear =>
      rfl

/-- Calls come to the history of their changes while no text is on two sides. -/
theorem foldl_make_eq
    (along : HeldAlongLinks index)
    {calls : List Call}
    (apart :
      ∀ part,
        part <+: calls.map Call.change →
        (part.foldl Index.apply index).tracking.SidesApart) :
    calls.foldl make index =
      (calls.map Call.change).foldl Index.apply index := by
  induction calls generalizing index with
  | nil =>
      rfl
  | cons call rest inductionHypothesis =>
      have firstApart : (index.apply call.change).tracking.SidesApart :=
        apart [call.change] ⟨rest.map Call.change, rfl⟩
      rw [List.foldl_cons, along.make_eq_apply call firstApart]
      refine inductionHypothesis
        (along.step (step_apply index call.change) fun _ _ => firstApart) ?_
      intro part leading
      exact apart (call.change :: part)
        (List.cons_prefix_cons.mpr ⟨rfl, leading⟩)

end HeldAlongLinks

/--
As long as no text is tracked on both sides, calls leave what the history of
their changes leaves, in whatever order each of them visits linked texts.
-/
theorem afterCalls_eq_after_of_apart
    {tokens : Tokens}
    {calls : List Call}
    (apart :
      ∀ part,
        part <+: calls.map Call.change →
        (Index.after tokens part).tracking.SidesApart) :
    afterCalls tokens calls =
      Index.after tokens (calls.map Call.change) :=
  (HeldAlongLinks.start tokens).foldl_make_eq apart

/-- No text ever is on both sides where addresses are read with the tokens. -/
theorem afterCalls_eq_after_of_read
    {tokens : Tokens}
    {calls : List Call}
    (read : ∀ call ∈ calls, call.change.ReadWith tokens) :
    afterCalls tokens calls =
      Index.after tokens (calls.map Call.change) := by
  apply afterCalls_eq_after_of_apart
  intro part leading
  have partRead : ∀ change ∈ part, change.ReadWith tokens := by
    intro change member
    obtain ⟨call, listed, rfl⟩ := List.mem_map.mp (leading.subset member)
    exact read call listed
  exact (Canonical.after partRead).2.sidesApart

end Index

/--
Where a text is tracked on both sides the order can be seen.  Under other
tokens `orders.e` is read as a pattern and `orders.#` as a concrete address,
and a copy of an ended binding stays behind at `orders.#`.  Whether that copy
or the live binding of its name is drawn in last decides if `orders.e` is kept.
-/
example :
    let descending : Visiting :=
      ⟨fun texts => texts.toList.reverse,
        fun texts => texts.toList.reverse_perm⟩
    let east : Address := ⟨"orders.e", [.literal "orders", .literal "e"]⟩
    let history : History :=
      [.bind ⟨"each", ⟨"orders.e", [.literal "orders", .singleWord]⟩, "log"⟩,
        .bind ⟨"ship", east, "depot"⟩,
        .bind ⟨"sign", ⟨"orders.#", [.literal "orders", .literal "#"]⟩, "log"⟩,
        .unbind "ship", .unbind "each",
        .bind ⟨"rest", ⟨"orders.#", [.literal "orders", .anyWords]⟩, "log"⟩,
        .bind ⟨"ship", ⟨"*.e", [.singleWord, .literal "e"]⟩, "depot"⟩,
        .bind ⟨"own", east, "desk"⟩, .unbind "own"]
    let left (visiting : Visiting) : Index :=
      Index.afterCalls {} (history.map fun change => { change, visiting })
    (left .ascending).contains "orders.e" = true ∧
      (left descending).contains "orders.e" = false := by
  decide +kernel

end BrokerRouting
