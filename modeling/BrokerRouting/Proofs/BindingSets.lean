import BrokerRouting.Table

namespace BrokerRouting

/-!
# Binding sets along links

Copying bindings along links only ever puts bindings into sets and takes
names out of them, so what both keep is kept by all of it.  The set of a text
after such a step is given by which binding it has under each name.
-/

namespace Bindings

/-- Every binding is kept under its own name. -/
def Keyed (bindings : Bindings) : Prop :=
  ∀ {name : String} {binding : Binding},
    bindings[name]? = some binding → binding.name = name

/-- Whatever is kept under a name is kept under it in the other map too. -/
def Within (bindings live : Bindings) : Prop :=
  ∀ {name : String} {binding : Binding},
    bindings[name]? = some binding → live[name]? = some binding

theorem getElem?_add
    (bindings : Bindings)
    (binding : Binding)
    (name : String) :
    (bindings.add binding)[name]? =
      if binding.name = name then some binding else bindings[name]? := by
  simp [add, Std.ExtTreeMap.getElem?_insert]

theorem getElem?_erase
    (bindings : Bindings)
    (name other : String) :
    (bindings.erase name)[other]? =
      if name = other then none else bindings[other]? := by
  simp [Std.ExtTreeMap.getElem?_erase]

theorem add_add
    (bindings : Bindings)
    (binding : Binding) :
    (bindings.add binding).add binding = bindings.add binding := by
  apply Std.ExtTreeMap.ext_getElem?
  intro name
  simp only [getElem?_add]
  split <;> rfl

theorem erase_erase
    (bindings : Bindings)
    (name : String) :
    (bindings.erase name).erase name = bindings.erase name := by
  apply Std.ExtTreeMap.ext_getElem?
  intro other
  simp only [getElem?_erase]
  split <;> rfl

/-- Two bindings can be added in either order if sharing a name they agree. -/
theorem add_comm
    (bindings : Bindings)
    {binding later : Binding}
    (agree : binding.name = later.name → binding = later) :
    (bindings.add binding).add later = (bindings.add later).add binding := by
  apply Std.ExtTreeMap.ext_getElem?
  intro name
  simp only [getElem?_add]
  by_cases first : binding.name = name
  · by_cases second : later.name = name
    · simp [agree (first.trans second.symm)]
    · simp [first, second]
  · simp [first]

theorem erase_comm
    (bindings : Bindings)
    (name later : String) :
    (bindings.erase name).erase later =
      (bindings.erase later).erase name := by
  apply Std.ExtTreeMap.ext_getElem?
  intro other
  simp only [getElem?_erase]
  by_cases first : name = other <;> simp [first]

theorem eq_empty_iff
    {bindings : Bindings} :
    bindings = ∅ ↔
      ∀ (name : String) (binding : Binding),
        bindings[name]? ≠ some binding := by
  constructor
  · rintro rfl name binding
    simp
  · intro none
    apply Std.ExtTreeMap.ext_getElem?
    intro name
    cases found : bindings[name]? with
    | none =>
        simp
    | some binding =>
        exact (none name binding found).elim

theorem Within.keyed
    {bindings live : Bindings}
    (within : bindings.Within live)
    (keyed : live.Keyed) :
    bindings.Keyed :=
  fun found => keyed (within found)

/-- In a keyed map the contents are found under their own names. -/
theorem Keyed.mem_contents_iff
    {bindings : Bindings}
    (keyed : bindings.Keyed)
    {name : String}
    {binding : Binding} :
    binding ∈ bindings.contents ∧ binding.name = name ↔
      bindings[name]? = some binding := by
  rw [TextMap.mem_contents]
  constructor
  · intro listed
    obtain ⟨⟨other, found⟩, named⟩ := listed
    have sameName : other = name := (keyed found).symm.trans named
    exact sameName ▸ found
  · intro found
    exact ⟨⟨name, found⟩, keyed found⟩

/--
Adding live bindings to a set of live bindings overwrites nothing, so the
order does not matter.
-/
theorem getElem?_foldl_add
    {live bindings : Bindings}
    {items : List Binding}
    (within : bindings.Within live)
    (itemsLive : ∀ item ∈ items, live[item.name]? = some item)
    {name : String}
    {binding : Binding} :
    (items.foldl add bindings)[name]? = some binding ↔
      bindings[name]? = some binding ∨
        binding ∈ items ∧ binding.name = name := by
  induction items generalizing bindings with
  | nil =>
      simp
  | cons first rest inductionHypothesis =>
      have firstLive := itemsLive first (by simp)
      have addedWithin : (bindings.add first).Within live := by
        intro other held found
        rw [getElem?_add] at found
        split at found
        · rename_i same
          cases found
          exact same ▸ firstLive
        · exact within found
      rw [List.foldl_cons,
        inductionHypothesis addedWithin
          (fun item member => itemsLive item (by simp [member])),
        getElem?_add, List.mem_cons]
      by_cases same : first.name = name
      · simp only [same, ↓reduceIte, Option.some.injEq]
        constructor
        · intro added
          rcases added with rfl | inRest
          · exact Or.inr ⟨Or.inl rfl, same⟩
          · exact Or.inr ⟨Or.inr inRest.1, inRest.2⟩
        · intro added
          rcases added with held | ⟨rfl | inRest, named⟩
          · have heldLive := within held
            rw [← same, firstLive] at heldLive
            exact Or.inl (Option.some.inj heldLive)
          · exact Or.inl rfl
          · exact Or.inr ⟨inRest, named⟩
      · have notFirst : binding.name = name → binding ≠ first := by
          rintro named rfl
          exact same named
        simp only [same, ↓reduceIte]
        constructor
        · intro added
          rcases added with held | inRest
          · exact Or.inl held
          · exact Or.inr ⟨Or.inr inRest.1, inRest.2⟩
        · intro added
          rcases added with held | ⟨isFirst | inRest, named⟩
          · exact Or.inl held
          · exact (notFirst named isFirst).elim
          · exact Or.inr ⟨inRest, named⟩

/-- Erasing several names leaves what has another name. -/
theorem getElem?_foldl_erase
    (bindings : Bindings)
    (names : List String)
    {name : String}
    {binding : Binding} :
    (names.foldl Std.ExtTreeMap.erase bindings)[name]? = some binding ↔
      bindings[name]? = some binding ∧ name ∉ names := by
  induction names generalizing bindings with
  | nil =>
      simp
  | cons first rest inductionHypothesis =>
      rw [List.foldl_cons, inductionHypothesis, getElem?_erase,
        List.mem_cons]
      by_cases same : first = name
      · simp [same]
      · simp [same, Ne.symm same]

end Bindings

namespace Table

theorem bindingsAt_put
    (table : Table)
    (raw other : String)
    (binding : Binding) :
    (table.put raw binding).bindingsAt other =
      if raw = other then (table.bindingsAt raw).add binding
      else table.bindingsAt other := by
  rw [bindingsAt, lookup?_put]
  split <;> rfl

theorem bindingsAt_withdraw
    (table : Table)
    (raw other name : String) :
    (table.withdraw raw name).bindingsAt other =
      if raw = other then (table.bindingsAt raw).erase name
      else table.bindingsAt other := by
  rw [bindingsAt, lookup?_withdraw]
  by_cases same : raw = other
  · by_cases vacated : ((table.bindingsAt raw).erase name).isEmpty = true
    · simp [same, Std.ExtTreeMap.isEmpty_iff.mp (same ▸ vacated)]
    · simp [same, same ▸ vacated]
  · simp only [same, ↓reduceIte]
    rfl

/-- Every set that is kept holds a binding. -/
def NoEmptySet (table : Table) : Prop :=
  ∀ raw, table.lookup? raw ≠ some ∅

theorem occupied_eq_isSome
    (table : Table)
    (raw : String) :
    table.occupied raw = (table.lookup? raw).isSome :=
  Std.ExtTreeMap.contains_eq_isSome_getElem?

theorem lookup?_eq_some_iff
    {table : Table}
    {raw : String}
    {bindings : Bindings} :
    table.lookup? raw = some bindings ↔
      table.occupied raw = true ∧ bindings = table.bindingsAt raw := by
  rw [occupied_eq_isSome, bindingsAt]
  cases table.lookup? raw <;> simp [eq_comm]

theorem occupied_put
    (table : Table)
    (raw other : String)
    (binding : Binding) :
    (table.put raw binding).occupied other =
      (raw = other || table.occupied other) := by
  rw [Bool.eq_iff_iff]
  simp [occupied, put, Std.ExtTreeMap.contains_insert]

/-- A text has a set exactly when something can be reached there. -/
theorem NoEmptySet.occupied_iff
    {table : Table}
    (noEmpty : NoEmptySet table)
    {raw : String} :
    table.occupied raw = true ↔
      ∃ (name : String) (binding : Binding),
        (table.bindingsAt raw)[name]? = some binding := by
  rw [occupied_eq_isSome, bindingsAt]
  cases found : table.lookup? raw with
  | none =>
      simp
  | some bindings =>
      simp only [Option.isSome_some, Option.getD_some, true_iff]
      apply Classical.byContradiction
      intro nothing
      have isEmpty : bindings = ∅ :=
        Bindings.eq_empty_iff.mpr
          fun name binding held => nothing ⟨name, binding, held⟩
      exact noEmpty raw (isEmpty ▸ found)

/-- One table comes from another by changing single entries of sets. -/
inductive Rearranged (table : Table) : Table → Prop where
  | refl : Rearranged table table
  | put {next : Table} (raw : String) (binding : Binding) :
      Rearranged table next →
      Rearranged table (next.put raw binding)
  | withdraw {next : Table} (raw name : String) :
      Rearranged table next →
      Rearranged table (next.withdraw raw name)

namespace Rearranged

variable {table next : Table}

theorem trans
    {last : Table}
    (first : Rearranged table next)
    (second : Rearranged next last) :
    Rearranged table last := by
  induction second with
  | refl =>
      exact first
  | put raw binding _ inductionHypothesis =>
      exact .put raw binding inductionHypothesis
  | withdraw raw name _ inductionHypothesis =>
      exact .withdraw raw name inductionHypothesis

theorem foldl
    {Item : Type}
    {change : Table → Item → Table}
    (each : ∀ table item, Rearranged table (change table item))
    (table : Table)
    (items : List Item) :
    Rearranged table (items.foldl change table) := by
  induction items generalizing table with
  | nil =>
      exact .refl
  | cons item rest inductionHypothesis =>
      exact (each table item).trans
        (inductionHypothesis (change table item))

theorem spread
    (table : Table)
    (binding : Binding)
    (addresses : List String) :
    Rearranged table (table.spread binding addresses) :=
  foldl (fun _ raw => .put raw binding .refl) table _

theorem retract
    (table : Table)
    (name : String)
    (addresses : List String) :
    Rearranged table (table.retract name addresses) :=
  foldl (fun _ raw => .withdraw raw name .refl) table _

theorem drawIn
    (table : Table)
    (raw : String)
    (patterns : List String) :
    Rearranged table (table.drawIn raw patterns) :=
  foldl
    (fun table _ =>
      foldl (fun _ binding => .put raw binding .refl) table _)
    table _

theorem release
    (table : Table)
    (raw : String)
    (patterns : List String) :
    Rearranged table (table.release raw patterns) :=
  foldl
    (fun table _ =>
      foldl (fun _ name => .withdraw raw name .refl) table _)
    table _

theorem live_eq (rearranged : Rearranged table next) :
    next.live = table.live := by
  induction rearranged with
  | refl =>
      rfl
  | put _ _ _ inductionHypothesis =>
      exact inductionHypothesis
  | withdraw _ _ _ inductionHypothesis =>
      exact inductionHypothesis

theorem noEmptySet
    (rearranged : Rearranged table next)
    (noEmpty : NoEmptySet table) :
    NoEmptySet next := by
  induction rearranged with
  | refl =>
      exact noEmpty
  | @put between raw binding _ inductionHypothesis =>
      intro other
      rw [lookup?_put]
      split
      · intro empty
        have held := Bindings.getElem?_add
          (between.bindingsAt raw) binding binding.name
        rw [Option.some.inj empty] at held
        simp at held
      · exact inductionHypothesis other
  | withdraw raw name _ inductionHypothesis =>
      intro other
      rw [lookup?_withdraw]
      split
      · split
        · simp
        · rename_i occupied
          intro empty
          exact occupied
            (Std.ExtTreeMap.isEmpty_iff.mpr (Option.some.inj empty))
      · exact inductionHypothesis other

end Rearranged

section Folds

variable {Item : Type}

/-- Making the same change at several texts makes it at each of them. -/
theorem bindingsAt_foldl_texts
    (change : Table → String → Table)
    (effect : Bindings → Bindings)
    (changed :
      ∀ table raw other,
        (change table raw).bindingsAt other =
          if raw = other then effect (table.bindingsAt raw)
          else table.bindingsAt other)
    (again : ∀ bindings, effect (effect bindings) = effect bindings)
    (table : Table)
    (addresses : List String)
    (raw : String) :
    (addresses.foldl change table).bindingsAt raw =
      if raw ∈ addresses then effect (table.bindingsAt raw)
      else table.bindingsAt raw := by
  induction addresses generalizing table with
  | nil =>
      simp
  | cons first rest inductionHypothesis =>
      rw [List.foldl_cons, inductionHypothesis, changed]
      by_cases same : first = raw
      · subst same
        by_cases repeated : first ∈ rest <;> simp [repeated, again]
      · simp [same, Ne.symm same]

/-- Several changes at one text are several changes of its set. -/
theorem bindingsAt_foldl_items
    {change : Table → Item → Table}
    {effect : Bindings → Item → Bindings}
    {raw : String}
    (changed :
      ∀ table item other,
        (change table item).bindingsAt other =
          if raw = other then effect (table.bindingsAt raw) item
          else table.bindingsAt other)
    (table : Table)
    (items : List Item)
    (other : String) :
    (items.foldl change table).bindingsAt other =
      if raw = other then items.foldl effect (table.bindingsAt raw)
      else table.bindingsAt other := by
  induction items generalizing table with
  | nil =>
      by_cases same : raw = other <;> simp [same]
  | cons first rest inductionHypothesis =>
      rw [List.foldl_cons, inductionHypothesis, changed, changed]
      by_cases same : raw = other <;> simp [same]

/-- What no single change touches, several leave alone. -/
theorem bindingsAt_foldl_other
    {change : Table → Item → Table}
    {other : String}
    (untouched :
      ∀ table item,
        (change table item).bindingsAt other = table.bindingsAt other)
    (table : Table)
    (items : List Item) :
    (items.foldl change table).bindingsAt other =
      table.bindingsAt other := by
  induction items generalizing table with
  | nil =>
      rfl
  | cons first rest inductionHypothesis =>
      rw [List.foldl_cons, inductionHypothesis, untouched]

/--
Changes at one text leave what other texts hold, so what is read off those on
the way can all be read off at the start.
-/
theorem foldl_visits
    {change : Table → Item → Table}
    {effect : Bindings → Item → Bindings}
    {raw : String}
    (changed :
      ∀ table item other,
        (change table item).bindingsAt other =
          if raw = other then effect (table.bindingsAt raw) item
          else table.bindingsAt other)
    (items : Bindings → List Item)
    (table : Table)
    {texts : List String}
    (apart : raw ∉ texts) :
    texts.foldl
        (fun table text => (items (table.bindingsAt text)).foldl change table)
        table =
      (texts.flatMap fun text => items (table.bindingsAt text)).foldl
        change table := by
  induction texts generalizing table with
  | nil =>
      rfl
  | cons first rest inductionHypothesis =>
      simp only [List.mem_cons, not_or] at apart
      obtain ⟨_, notRest⟩ := apart
      have restHeld :
          ∀ text ∈ rest,
            items (((items (table.bindingsAt first)).foldl
                change table).bindingsAt text) =
              items (table.bindingsAt text) := by
        intro text member
        have different : raw ≠ text := fun same => notRest (same ▸ member)
        rw [bindingsAt_foldl_items changed, if_neg different]
      rw [List.foldl_cons, inductionHypothesis _ notRest,
        List.flatMap_cons, List.foldl_append, List.flatMap_def,
        List.flatMap_def, List.map_congr_left restHeld]

end Folds

/-- A spread binding is in the sets of exactly the named texts. -/
theorem bindingsAt_spread
    (table : Table)
    (binding : Binding)
    (addresses : List String)
    (raw : String) :
    (table.spread binding addresses).bindingsAt raw =
      if raw ∈ addresses then (table.bindingsAt raw).add binding
      else table.bindingsAt raw :=
  bindingsAt_foldl_texts
    (fun table raw => table.put raw binding)
    (fun bindings => bindings.add binding)
    (fun table raw other => table.bindingsAt_put raw other binding)
    (fun bindings => bindings.add_add binding)
    table addresses raw

/-- A retracted name is gone from the sets of exactly the named texts. -/
theorem bindingsAt_retract
    (table : Table)
    (name : String)
    (addresses : List String)
    (raw : String) :
    (table.retract name addresses).bindingsAt raw =
      if raw ∈ addresses then (table.bindingsAt raw).erase name
      else table.bindingsAt raw :=
  bindingsAt_foldl_texts
    (fun table raw => table.withdraw raw name)
    (fun bindings => bindings.erase name)
    (fun table raw other => table.bindingsAt_withdraw raw other name)
    (fun bindings => bindings.erase_erase name)
    table addresses raw

theorem bindingsAt_putAll
    (table : Table)
    (raw other : String)
    (bindings : Bindings) :
    (table.putAll raw bindings).bindingsAt other =
      if raw = other then
        bindings.contents.foldl Bindings.add (table.bindingsAt raw)
      else
        table.bindingsAt other :=
  bindingsAt_foldl_items
    (fun table binding other => table.bindingsAt_put raw other binding)
    table bindings.contents other

theorem bindingsAt_withdrawAll
    (table : Table)
    (raw other : String)
    (bindings : Bindings) :
    (table.withdrawAll raw bindings).bindingsAt other =
      if raw = other then
        bindings.keys.foldl Std.ExtTreeMap.erase (table.bindingsAt raw)
      else
        table.bindingsAt other :=
  bindingsAt_foldl_items
    (fun table name other => table.bindingsAt_withdraw raw other name)
    table bindings.keys other

/-- Drawing in changes one set only. -/
theorem bindingsAt_drawIn_other
    (table : Table)
    (patterns : List String)
    {raw other : String}
    (different : raw ≠ other) :
    (table.drawIn raw patterns).bindingsAt other =
      table.bindingsAt other := by
  refine bindingsAt_foldl_other (fun table pattern => ?_) table _
  rw [bindingsAt_putAll, if_neg different]

/-- Releasing changes one set only. -/
theorem bindingsAt_release_other
    (table : Table)
    (patterns : List String)
    {raw other : String}
    (different : raw ≠ other) :
    (table.release raw patterns).bindingsAt other =
      table.bindingsAt other := by
  refine bindingsAt_foldl_other (fun table pattern => ?_) table _
  rw [bindingsAt_withdrawAll, if_neg different]

section LiveSets

variable
  {table : Table}
  {live : Bindings}
  {raw name : String}
  {binding : Binding}

/-- Drawing in puts in what the patterns held before, one after the other. -/
theorem drawIn_eq_foldl
    {patterns : List String}
    (apart : raw ∉ patterns) :
    table.drawIn raw patterns =
      (patterns.flatMap fun pattern =>
        (table.bindingsAt pattern).contents).foldl
          (fun table binding => table.put raw binding) table :=
  foldl_visits
    (fun table binding other => table.bindingsAt_put raw other binding)
    TextMap.contents table apart

/-- Releasing takes out the names that the patterns held before. -/
theorem release_eq_foldl
    {patterns : List String}
    (apart : raw ∉ patterns) :
    table.release raw patterns =
      (patterns.flatMap fun pattern =>
        (table.bindingsAt pattern).keys).foldl
          (fun table name => table.withdraw raw name) table :=
  foldl_visits
    (fun table name other => table.bindingsAt_withdraw raw other name)
    Std.ExtTreeMap.keys table apart

/-- What is drawn in from sets of live bindings is live under its name. -/
theorem live_of_drawn
    (keyed : live.Keyed)
    (within : ∀ text, (table.bindingsAt text).Within live)
    {patterns : List String}
    (drawn :
      binding ∈ patterns.flatMap fun pattern =>
        (table.bindingsAt pattern).contents) :
    live[binding.name]? = some binding := by
  obtain ⟨pattern, _, held⟩ := List.mem_flatMap.mp drawn
  obtain ⟨name, found⟩ := TextMap.mem_contents.mp held
  have foundLive := within pattern found
  exact (keyed foundLive).symm ▸ foundLive

/-- Drawing in adds what the patterns hold, in whatever order. -/
theorem getElem?_bindingsAt_drawIn
    (keyed : live.Keyed)
    (within : ∀ text, (table.bindingsAt text).Within live)
    {patterns : List String}
    (apart : raw ∉ patterns) :
    ((table.drawIn raw patterns).bindingsAt raw)[name]? = some binding ↔
      (table.bindingsAt raw)[name]? = some binding ∨
        ∃ pattern ∈ patterns,
          (table.bindingsAt pattern)[name]? = some binding := by
  rw [drawIn_eq_foldl apart,
    bindingsAt_foldl_items
      (fun table binding other => table.bindingsAt_put raw other binding),
    if_pos rfl,
    Bindings.getElem?_foldl_add (within raw)
      (fun _ drawn => live_of_drawn keyed within drawn)]
  have listed :
      ∀ pattern,
        binding ∈ (table.bindingsAt pattern).contents ∧
            binding.name = name ↔
          (table.bindingsAt pattern)[name]? = some binding :=
    fun pattern => Bindings.Keyed.mem_contents_iff
      (Bindings.Within.keyed (within pattern) keyed)
  simp only [List.mem_flatMap, ← listed]
  apply or_congr_right
  constructor
  · intro drawn
    obtain ⟨⟨pattern, member, held⟩, named⟩ := drawn
    exact ⟨pattern, member, held, named⟩
  · intro drawn
    obtain ⟨pattern, member, held, named⟩ := drawn
    exact ⟨⟨pattern, member, held⟩, named⟩

/-- Releasing takes out every name that some pattern holds. -/
theorem getElem?_bindingsAt_release
    {patterns : List String}
    (apart : raw ∉ patterns) :
    ((table.release raw patterns).bindingsAt raw)[name]? = some binding ↔
      (table.bindingsAt raw)[name]? = some binding ∧
        ∀ pattern ∈ patterns, name ∉ table.bindingsAt pattern := by
  rw [release_eq_foldl apart,
    bindingsAt_foldl_items
      (fun table name other => table.bindingsAt_withdraw raw other name),
    if_pos rfl, Bindings.getElem?_foldl_erase, List.mem_flatMap]
  simp only [Std.ExtTreeMap.mem_keys, not_exists, not_and]

end LiveSets

theorem ownsBinding_iff
    {table : Table}
    {raw : String} :
    table.ownsBinding raw = true ↔
      ∃ (name : String) (binding : Binding),
        (table.bindingsAt raw)[name]? = some binding ∧
          binding.address.raw = raw := by
  simp only [ownsBinding, List.any_eq_true, TextMap.mem_contents,
    decide_eq_true_eq]
  constructor
  · intro owned
    obtain ⟨binding, ⟨name, held⟩, own⟩ := owned
    exact ⟨name, binding, held, own⟩
  · intro owned
    obtain ⟨name, binding, held, own⟩ := owned
    exact ⟨binding, ⟨name, held⟩, own⟩

end Table

end BrokerRouting
