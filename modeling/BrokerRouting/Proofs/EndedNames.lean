import BrokerRouting.Proofs.HeldAfterCalls
import Mathlib.Data.List.Infix

namespace BrokerRouting

/-!
# Names that have ended

Once a binding has ended, no set holds its name and nothing routes to it until
the name is bound again, and what is tracked has bindings.  Addresses of any
origin may be bound, as long as no text is tracked both as a concrete address
and as a pattern.  Where one is, the set of that text is shared: the bindings
of the concrete address are taken for those of the pattern and copied along
its links, and ending them does not find the copies.
-/

namespace Index

variable
  {index : Index}
  {name : String}

/-- A name that is free stays free until it is bound. -/
theorem free_apply
    (free : index.table.live[name]? = none)
    {change : Change}
    (others : ∀ binding, change = .bind binding → binding.name ≠ name) :
    (index.apply change).table.live[name]? = none := by
  rw [live_apply]
  cases change with
  | bind binding =>
      rw [Ledger.record]
      split
      · exact free
      · rw [Bindings.getElem?_add, if_neg (others binding rfl)]
        exact free
  | unbind ended =>
      rw [Ledger.record, Bindings.getElem?_erase, free]
      exact ite_self none
  | route raw =>
      exact free
  | clear =>
      simp [Ledger.record]

theorem free_foldl_apply
    {history : History}
    (free : index.table.live[name]? = none)
    (others : ∀ binding, .bind binding ∈ history → binding.name ≠ name) :
    (history.foldl Index.apply index).table.live[name]? = none := by
  induction history generalizing index with
  | nil =>
      exact free
  | cons change rest inductionHypothesis =>
      apply inductionHypothesis
      · apply free_apply free
        rintro binding rfl
        exact others binding (by simp)
      · intro binding member
        exact others binding (by simp [member])

namespace HeldAlongLinks

/-- No set holds a name that is free. -/
theorem not_mem_of_free
    (along : HeldAlongLinks index)
    (free : index.table.live[name]? = none)
    (raw : String) :
    name ∉ index.table.bindingsAt raw := by
  intro member
  obtain ⟨binding, found⟩ := Option.isSome_iff_exists.mp
    (Std.ExtTreeMap.mem_iff_isSome_getElem?.mp member)
  have foundLive := along.holdsLive raw found
  rw [free] at foundLive
  cases foundLive

/-- Nothing is routed to a name that is free. -/
theorem not_mem_route_of_free
    (along : HeldAlongLinks index)
    (free : index.table.live[name]? = none)
    (raw : String) :
    name ∉ (index.route raw).1 := by
  have next : HeldAlongLinks (index.apply (.route raw)) :=
    along.step (step_apply index _) nofun
  rw [route_fst]
  exact next.not_mem_of_free (free_apply free nofun) raw

/-- What is tracked has a set, and the set is not empty. -/
theorem set_of_tracked
    (along : HeldAlongLinks index)
    {place : Place}
    (tracked : index.tracking.tracks place = true) :
    ∃ bindings,
      index.lookup? place.name = some bindings ∧ bindings ≠ ∅ := by
  have set : index.lookup? place.name = some _ :=
    Table.lookup?_eq_some_iff.mpr ⟨along.occupied tracked, rfl⟩
  refine ⟨_, set, fun empty => ?_⟩
  exact along.noEmptySet place.name (empty ▸ set)

end HeldAlongLinks

end Index

/--
After any history over any addresses that never tracks a text on both sides,
a live binding can be ended, and until its name is bound again no set holds
the name and no sending reaches it.  Meanwhile every tracked address has a
set that is not empty.
-/
theorem ended_name_leaves_every_set
    {tokens : Tokens}
    {earlier later : History}
    {name : String}
    {binding : Binding}
    (apart :
      ∀ part,
        part <+: earlier ++ .unbind name :: later →
        (Index.after tokens part).tracking.SidesApart)
    (found : (Index.after tokens earlier).find? name = some binding)
    (unbound : ∀ other, .bind other ∈ later → other.name ≠ name) :
    let final := Index.after tokens (earlier ++ .unbind name :: later)
    (∃ next,
        (Index.after tokens earlier).unbind name = .ok (binding, next)) ∧
      (∀ raw bindings,
        final.lookup? raw = some bindings → name ∉ bindings) ∧
        (∀ raw, name ∉ (final.route raw).1) ∧
          ∀ place,
            final.tracking.tracks place = true →
            ∃ bindings,
              final.lookup? place.name = some bindings ∧ bindings ≠ ∅ := by
  intro final
  have along : final.HeldAlongLinks := Index.HeldAlongLinks.after apart
  have ended :
      (Index.after tokens earlier).unbind name =
        .ok (binding, (Index.after tokens earlier).ended name binding) := by
    rw [Index.find?, Table.find?] at found
    simp only [Index.unbind_eq, found]
  have finalEq :
      final =
        later.foldl Index.apply
          ((Index.after tokens earlier).ended name binding) := by
    simp only [final, Index.after_append, List.foldl_cons, Index.apply,
      Index.make, ended]
  have free : final.table.live[name]? = none := by
    rw [finalEq]
    refine Index.free_foldl_apply ?_ unbound
    rw [Index.live_ended, Bindings.getElem?_erase, if_pos rfl]
  refine ⟨⟨_, ended⟩, ?_, along.not_mem_route_of_free free,
    fun _ => along.set_of_tracked⟩
  intro raw bindings set
  obtain ⟨_, rfl⟩ := Table.lookup?_eq_some_iff.mp set
  exact along.not_mem_of_free free raw

/-- A literal text and patterns read with other tokens come and go. -/
theorem ended_pattern_leaves_covered_text :
    let plus : Tokens := { delimiter := '/', singleWord := '+' }
    let news : Binding := ⟨"news", ⟨"news.*", [.literal "news.*"]⟩, "log"⟩
    let audit : Binding :=
      ⟨"audit", ⟨"orders.*", [.literal "orders", .singleWord]⟩, "log"⟩
    let slash : Binding :=
      ⟨"slash", ⟨"orders/+", [.literal "orders", .singleWord]⟩, "log"⟩
    let ship : Binding :=
      ⟨"ship", ⟨"orders.eu", [.literal "orders", .literal "eu"]⟩, "van"⟩
    let earlier : History :=
      [.bind news, .bind audit, .bind slash, .route "orders.us", .bind ship]
    let later : History := [.unbind "news", .route "orders.eu"]
    let final := Index.after {} (earlier ++ .unbind "audit" :: later)
    Address.parse plus "orders/+" = .ok slash.address ∧
      (∀ part,
        part <+: earlier ++ .unbind "audit" :: later →
        (Index.after {} part).tracking.SidesApart) ∧
        (Index.after {} earlier).find? "audit" = some audit ∧
          "audit" ∉ (final.route "orders.us").1 := by
  intro plus news audit slash ship earlier later final
  have read : Address.parse plus "orders/+" = .ok slash.address := by
    rfl
  have apartInits :
      ∀ part ∈ (earlier ++ .unbind "audit" :: later).inits,
        (Index.after {} part).tracking.SidesApart := by
    decide +kernel
  have apart :
      ∀ part,
        part <+: earlier ++ .unbind "audit" :: later →
        (Index.after {} part).tracking.SidesApart :=
    fun part leading => apartInits part ((List.mem_inits part _).mpr leading)
  have found : (Index.after {} earlier).find? "audit" = some audit := by
    decide +kernel
  have unbound :
      ∀ other : Binding, .bind other ∈ later → other.name ≠ "audit" := by
    simp [later]
  obtain ⟨_, _, unrouted, _⟩ :=
    ended_name_leaves_every_set apart found unbound
  exact ⟨read, apart, found, unrouted "orders.us"⟩

/--
A literal address and a pattern share a text.  The concrete binding is copied
with the pattern's to the text they cover, stays there when it has ended, and
the literal address stays tracked when the shared set is gone.
-/
theorem shared_text_keeps_ended_name :
    let raw : Binding := ⟨"lit", ⟨"a.*", [.literal "a.*"]⟩, "sink"⟩
    let pattern : Binding :=
      ⟨"pat", ⟨"a.*", [.literal "a", .singleWord]⟩, "sink"⟩
    let own : Binding :=
      ⟨"own", ⟨"a.b", [.literal "a", .literal "b"]⟩, "sink"⟩
    let earlier : History := [.bind raw, .bind pattern, .bind own]
    let index := Index.after {} (earlier ++ [.unbind "lit"])
    let final := Index.after {} (earlier ++ [.unbind "lit", .unbind "pat"])
    Address.literal "a.*" = .ok raw.address ∧
      Address.parse {} "a.*" = .ok pattern.address ∧
        Address.parse {} "a.b" = .ok own.address ∧
          (Index.after {} earlier).find? "lit" = some raw ∧
            index.find? "lit" = none ∧
              (index.route "a.b").1["lit"]? = some raw ∧
                final.contains "a.*" = true ∧
                  final.lookup? "a.*" = none := by
  decide +kernel

end BrokerRouting
