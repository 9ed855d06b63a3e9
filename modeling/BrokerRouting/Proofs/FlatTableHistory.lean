import BrokerRouting.Proofs.RouterCalls

namespace BrokerRouting

/-!
# Histories of a flat table

A flat table keeps its bindings twice, by name and by the text of their
address.  Whatever calls it answers, refused ones among them, both are views
of the same live bindings.  A text is only compared here, so it does not
matter how it was read or which characters it has.
-/

namespace Ledger

/-- The texts that live bindings were made for. -/
def boundTexts (ledger : Ledger) : TextSet :=
  .ofList (ledger.contents.map fun binding => binding.address.raw)

/-- A list has the live bindings made for a text and has each of them once. -/
structure ListsBoundTo
    (live : Ledger)
    (raw : String)
    (listed : List Binding) : Prop where
  distinct : (listed.map Binding.name).Nodup
  mem_iff :
    ∀ binding,
      binding ∈ listed ↔
        live[binding.name]? = some binding ∧ binding.address.raw = raw

theorem mem_boundTexts
    {ledger : Ledger}
    {raw : String} :
    raw ∈ ledger.boundTexts ↔ ledger.Bound raw := by
  rw [boundTexts, Std.ExtTreeSet.mem_ofList, List.contains_iff_mem]
  simp only [List.mem_map, TextMap.mem_contents, Bound]
  constructor
  · rintro ⟨binding, ⟨name, found⟩, own⟩
    exact ⟨name, binding, found, own⟩
  · rintro ⟨name, binding, found, own⟩
    exact ⟨binding, ⟨name, found⟩, own⟩

/-- Going through all live bindings lists those made for a text. -/
theorem listsBoundTo_boundTo
    {live : Ledger}
    (keyed : Bindings.Keyed live)
    (raw : String) :
    live.ListsBoundTo raw (live.boundTo raw).contents := by
  have ownIff :
      ∀ {name : String} {binding : Binding},
        (live.boundTo raw)[name]? = some binding ↔
          live[name]? = some binding ∧ binding.address.raw = raw := by
    simp [boundTo, Option.filter_eq_some_iff]
  have ownKeyed : Bindings.Keyed (live.boundTo raw) :=
    fun found => keyed (ownIff.mp found).1
  exact
    { distinct := ownKeyed.nodup_names
      mem_iff := fun binding => by rw [ownKeyed.mem_contents, ownIff] }

end Ledger

namespace Table

variable {table : Table}

/-- Live bindings change as the ledger says, refused calls included. -/
theorem live_apply
    (table : Table)
    (change : Change) :
    (table.apply change).live = Ledger.record table.live change := by
  cases change with
  | bind binding =>
      simp only [apply, add_eq, Ledger.record]
      cases table.live.contains binding.name <;> rfl
  | unbind name =>
      simp only [apply, remove_eq, Ledger.record]
      cases unknown : table.live[name]? with
      | none =>
          exact (TextMap.erase_of_absent unknown).symm
      | some binding =>
          rfl
  | route raw =>
      rfl
  | clear =>
      rfl

theorem live_after (history : History) :
    (Table.after history).live = Ledger.after history :=
  (List.foldl_hom live fun table change =>
    (live_apply table change).symm).symm

namespace Partitioned

/-- No call takes the sets and the live bindings apart. -/
theorem apply
    (partitioned : Partitioned table)
    (change : Change) :
    Partitioned (table.apply change) := by
  cases change with
  | bind binding =>
      simp only [Table.apply, add_eq]
      cases taken : table.live.contains binding.name with
      | true =>
          exact partitioned
      | false =>
          exact partitioned.gained
            (Std.ExtTreeMap.getElem?_eq_none_of_contains_eq_false taken)
  | unbind name =>
      simp only [Table.apply, remove_eq]
      cases found : table.live[name]? with
      | none =>
          exact partitioned
      | some binding =>
          exact partitioned.lost found
  | route raw =>
      exact partitioned
  | clear =>
      exact Partitioned.clear table

theorem after (history : History) : Partitioned (Table.after history) :=
  List.foldlRecOn history Table.apply empty
    fun _ partitioned change _ => partitioned.apply change

end Partitioned

/-- What a table tells of the bindings that are live. -/
structure SharesOut
    (table : Table)
    (live : Ledger) :
    Prop where
  /-- A text has a set exactly while a live binding was made for it. -/
  hasSet :
    ∀ raw,
      (∃ bindings, table.lookup? raw = some bindings) ↔ live.Bound raw
  set :
    ∀ raw bindings,
      table.lookup? raw = some bindings →
      live.ListsBoundTo raw bindings.contents
  found : ∀ name, table.find? name = live[name]?
  /-- A free name is accepted, and told whether its text had bindings. -/
  added :
    ∀ binding existed,
      (∃ next, table.add binding = .ok (existed, next)) ↔
        live[binding.name]? = none ∧
          (existed = true ↔ live.Bound binding.address.raw)
  bindingCount : table.bindingCount = live.size
  addressCount : table.addressCount = live.boundTexts.size

namespace Partitioned

theorem lookup?_isSome_iff
    (partitioned : Partitioned table)
    (raw : String) :
    (∃ bindings, table.lookup? raw = some bindings) ↔
      Ledger.Bound table.live raw := by
  rw [← partitioned.occupied_iff, occupied_eq_isSome,
    Option.isSome_iff_exists]

theorem listsBoundTo_bindingsAt
    (partitioned : Partitioned table)
    (raw : String) :
    Ledger.ListsBoundTo table.live raw (table.bindingsAt raw).contents := by
  rw [partitioned.bindingsAt_eq]
  exact Ledger.listsBoundTo_boundTo partitioned.keyed raw

theorem add_ok_iff
    (partitioned : Partitioned table)
    {binding : Binding}
    {existed : Bool} :
    (∃ next, table.add binding = .ok (existed, next)) ↔
      table.live[binding.name]? = none ∧
        (existed = true ↔
          Ledger.Bound table.live binding.address.raw) := by
  rw [add_eq, ← partitioned.occupied_iff, ← Bool.eq_iff_iff,
    Std.ExtTreeMap.contains_eq_isSome_getElem?]
  cases table.live[binding.name]? <;> simp [eq_comm]

/-- Every text is counted once, however many bindings were made for it. -/
theorem addressCount_eq (partitioned : Partitioned table) :
    table.addressCount = (Ledger.boundTexts table.live).size := by
  rw [← Std.ExtTreeSet.length_toList]
  apply TextMap.size_eq_length (TextSet.nodup_toList _)
  intro raw
  rw [Std.ExtTreeSet.mem_toList, Ledger.mem_boundTexts,
    ← partitioned.occupied_iff]
  rfl

theorem sharesOut (partitioned : Partitioned table) :
    SharesOut table table.live where
  hasSet := partitioned.lookup?_isSome_iff
  set raw bindings set := by
    obtain ⟨_, rfl⟩ := lookup?_eq_some_iff.mp set
    exact partitioned.listsBoundTo_bindingsAt raw
  found name := rfl
  added binding existed := partitioned.add_ok_iff
  bindingCount := rfl
  addressCount := partitioned.addressCount_eq

end Partitioned

end Table

namespace Router

/-- Without wildcard routing a text reaches what was bound to this text. -/
theorem listsBoundTo_route
    (tokens : Tokens)
    (requests : List Request)
    (raw : String) :
    let router := empty { wildcardRouting := false, tokens }
    (Ledger.after (router.accepted requests)).ListsBoundTo raw
      ((router.run requests).2.route raw).1.contents := by
  intro router
  have created :
      create { wildcardRouting := false, tokens } = .ok router := rfl
  obtain ⟨sound, sameConfig, nothingLive⟩ := sound_of_create created
  obtain ⟨finalSound, finalConfig⟩ := sound.run requests
  have finalLive := live_run router requests
  rw [nothingLive] at finalLive
  rw [Ledger.after, ← finalLive]
  cases final : (router.run requests).2 with
  | flat tokens table =>
      rw [final] at finalSound
      exact Table.Partitioned.listsBoundTo_bindingsAt finalSound raw
  | wildcard index =>
      rw [final, sameConfig] at finalConfig
      simp [config] at finalConfig

end Router

/--
After any calls to a flat table, refused ones included and with addresses of
any origin, its sets share out the live bindings by the texts they were made
for, and its names and its counts are those of the live bindings.  So without
wildcard routing sending to a text, whatever it is made of, reaches exactly
the live bindings made for this text.
-/
theorem flat_table_shares_out_live_bindings :
    (∀ history : History,
        (Table.after history).SharesOut (Ledger.after history)) ∧
      ∀ (tokens : Tokens) (requests : List Router.Request),
        let router := Router.empty { wildcardRouting := false, tokens }
        Router.create { wildcardRouting := false, tokens } = .ok router ∧
          ∀ raw,
            (Ledger.after (router.accepted requests)).ListsBoundTo raw
              ((router.run requests).2.route raw).1.contents := by
  constructor
  · intro history
    rw [← Table.live_after]
    exact (Table.Partitioned.after history).sharesOut
  · intro tokens requests
    exact ⟨rfl, Router.listsBoundTo_route tokens requests⟩

/-- One text, taken as a word and as a pattern, has one set for both. -/
example :
    let word : Binding := ⟨"word", ⟨"a.*", [.literal "a.*"]⟩, "log"⟩
    let pattern : Binding :=
      ⟨"pattern", ⟨"a.*", [.literal "a", .singleWord]⟩, "log"⟩
    let table := Table.after [.bind word, .bind pattern, .bind word]
    (table.bindingCount, table.addressCount) = (2, 1) ∧
      ((table.apply (.unbind "word")).bindingsAt "a.*").contents =
        [pattern] := by
  decide +kernel

end BrokerRouting
