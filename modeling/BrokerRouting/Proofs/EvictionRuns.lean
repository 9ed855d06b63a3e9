import BrokerRouting.Index.Worklist
import BrokerRouting.Proofs.EvictionClosure

namespace BrokerRouting

/-!
# Evicting with a worklist

A pass changes the index, but not what the eviction comes to in the end.  So
the order in which neighbours are visited makes no difference, and a worklist
leaves what eviction leaves.  Each pass uses up one pending place, and only
links that it cuts bring new ones, so the links pay for the passes.
-/

namespace Tracking

variable
  {tracking : Tracking}
  {occupied : String → Bool}
  {place : Place}
  {order : List String}

/-- Cutting links to a place leaves its own side alone. -/
theorem on_side_foldl_cut
    (tracking : Tracking)
    (place : Place)
    (order : List String) :
    (order.foldl (cut place) tracking).on place.side =
      tracking.on place.side := by
  induction order generalizing tracking with
  | nil =>
      rfl
  | cons first rest inductionHypothesis =>
      rw [List.foldl_cons, inductionHypothesis]
      rcases place with ⟨side, name⟩
      cases side <;> rfl

/-- Across, each entry that is visited loses its link to the place. -/
theorem getElem?_on_opposite_foldl_cut
    (tracking : Tracking)
    (place : Place)
    (order : List String)
    (name : String) :
    ((order.foldl (cut place) tracking).on place.side.opposite)[name]? =
      (tracking.on place.side.opposite)[name]?.map fun other =>
        if name ∈ order then
          { other with links := other.links.erase place.name }
        else
          other := by
  induction order generalizing tracking with
  | nil =>
      simp
  | cons first rest inductionHypothesis =>
      rw [List.foldl_cons, inductionHypothesis, cut, on_update_same,
        Std.ExtTreeMap.getElem?_modify]
      simp only [Std.compare_eq_iff_eq, List.mem_cons]
      by_cases visited : first = name
      · subst visited
        cases (tracking.on place.side.opposite)[first]? with
        | none =>
            simp
        | some other =>
            -- The name may come again, but its link is gone by then.
            have goneByThen :
                (other.links.erase place.name).erase place.name =
                  other.links.erase place.name :=
              Std.ExtTreeSet.ext_mem (by simp)
            by_cases again : first ∈ rest <;> simp [again, goneByThen]
      · simp [visited, Ne.symm visited]

@[simp]
theorem routed_foldl_cut
    (tracking : Tracking)
    (place : Place)
    (order : List String) :
    (order.foldl (cut place) tracking).routed = tracking.routed := by
  induction order generalizing tracking with
  | nil =>
      rfl
  | cons first rest inductionHypothesis =>
      rw [List.foldl_cons, inductionHypothesis]
      rcases place with ⟨side, name⟩
      cases side <;> rfl

/-- Cutting the links one by one, in any order, is forgetting the place. -/
theorem unmarkRouted_foldl_cut
    (visitsAll : order.Perm (tracking.links place).toList) :
    (order.foldl (cut place) (tracking.drop place)).unmarkRouted
        place.name =
      tracking.forget place := by
  have visited :
      ∀ name, name ∈ order ↔ name ∈ tracking.links place := by
    intro name
    rw [visitsAll.mem_iff, Std.ExtTreeSet.mem_toList]
  apply eq_of_on
  · intro side
    change (order.foldl (cut place) (tracking.drop place)).on side = _
    rcases Side.eq_or_eq_opposite side place.side with rfl | rfl
    · rw [on_side_foldl_cut, on_side_forget, drop, on_update_same]
    · apply Std.ExtTreeMap.ext_getElem?
      intro name
      rw [getElem?_on_opposite_foldl_cut, on_opposite_forget, drop,
        on_update_opposite, Std.ExtTreeMap.getElem?_map]
      simp only [visited]
  · change (order.foldl (cut place) (tracking.drop place)).routed.erase
      place.name = _
    rw [routed_foldl_cut]
    rcases place with ⟨side, name⟩
    cases side <;> rfl

/-- Nothing is evicted from a place that is not vacant. -/
theorem evict_cons_of_not_vacant
    {rest : List Place}
    (notVacant : ¬tracking.vacant occupied place = true) :
    tracking.evict occupied (place :: rest) =
      tracking.evict occupied rest := by
  apply evict_congr
  intro other isVacant
  rw [List.mem_cons]
  apply or_iff_right
  rintro rfl
  exact notVacant isVacant

/-- Once a vacant place is forgotten, its neighbours stand for it. -/
theorem evict_cons_of_vacant
    {rest : List Place}
    (isVacant : tracking.vacant occupied place = true)
    (visitsAll : order.Perm (tracking.links place).toList) :
    tracking.evict occupied (place :: rest) =
      (tracking.forget place).evict occupied
        ((order.map place.across).reverse ++ rest) := by
  have found :
      (place :: rest).find? (tracking.vacant occupied) = some place :=
    List.find?_cons_of_pos isVacant
  rw [evict_of_vacant found]
  apply evict_congr
  intro other stillVacant
  have different : other ≠ place := (vacant_forget.mp stillVacant).1
  have visited :
      other ∈ tracking.neighbours place ↔ other ∈ order.map place.across :=
    (visitsAll.map place.across).symm.mem_iff
  simp [visited, different]

end Tracking

namespace Worklist

variable
  {index : Index}
  {place : Place}
  {rest : List Place}
  {order : List String}

theorem foldl_visit
    (worklist : Worklist)
    (place : Place)
    (order : List String) :
    order.foldl (visit place) worklist =
      { worklist.retrack fun tracking =>
          order.foldl (Tracking.cut place) tracking with
        pending :=
          (order.map place.across).reverse ++ worklist.pending } := by
  induction order generalizing worklist with
  | nil =>
      rfl
  | cons first rest inductionHypothesis =>
      rw [List.foldl_cons, inductionHypothesis, List.map_cons,
        List.reverse_cons, List.append_assoc]
      rfl

/-- In any order, the place is forgotten and its neighbours are pushed. -/
theorem forget_eq
    (visitsAll : order.Perm (index.tracking.links place).toList) :
    forget ⟨index, rest⟩ place order =
      ⟨{ index with tracking := index.tracking.forget place },
        (order.map place.across).reverse ++ rest⟩ := by
  rw [forget, foldl_visit, ← Tracking.unmarkRouted_foldl_cut visitsAll]
  rfl

theorem outcome_of_settled (index : Index) :
    outcome ⟨index, []⟩ = index := by
  rw [outcome, Tracking.evict_of_none_vacant rfl]

theorem outcome_of_not_vacant
    (notVacant :
      ¬index.tracking.vacant index.table.occupied place = true) :
    outcome ⟨index, place :: rest⟩ = outcome ⟨index, rest⟩ := by
  simp only [outcome, Tracking.evict_cons_of_not_vacant notVacant]

theorem outcome_of_vacant
    (isVacant : index.tracking.vacant index.table.occupied place = true)
    (visitsAll : order.Perm (index.tracking.links place).toList) :
    outcome ⟨index, place :: rest⟩ =
      outcome (forget ⟨index, rest⟩ place order) := by
  rw [forget_eq visitsAll]
  simp only [outcome, Tracking.evict_cons_of_vacant isVacant visitsAll]

namespace Pass

variable {earlier later : Worklist}

/-- No pass changes what the eviction comes to. -/
theorem outcome_eq (pass : earlier.Pass later) :
    later.outcome = earlier.outcome := by
  cases pass with
  | occupied isOccupied =>
      refine (outcome_of_not_vacant ?_).symm
      simp [Tracking.vacant, isOccupied]
  | untracked unoccupied isUntracked =>
      refine (outcome_of_not_vacant ?_).symm
      simp [Tracking.vacant, isUntracked]
  | vacant unoccupied tracked visitsAll =>
      have isVacant :=
        Tracking.vacant_iff.mpr ⟨Tracking.tracks_iff.mp tracked, unoccupied⟩
      exact (outcome_of_vacant isVacant visitsAll).symm

/-- Links stay kept at both ends. -/
theorem symmetric
    (pass : earlier.Pass later)
    (symmetric : earlier.index.tracking.Symmetric) :
    later.index.tracking.Symmetric := by
  cases pass with
  | occupied isOccupied =>
      exact symmetric
  | untracked unoccupied isUntracked =>
      exact symmetric
  | @vacant index place rest order unoccupied tracked visitsAll =>
      rw [forget_eq visitsAll]
      exact symmetric.forget place

/-- A pass takes one from the budget: what it pushes it has cut. -/
theorem budget_eq
    (pass : earlier.Pass later)
    (symmetric : earlier.index.tracking.Symmetric) :
    later.budget + 1 = earlier.budget := by
  cases pass with
  | occupied isOccupied =>
      simp only [budget, List.length_cons]
      omega
  | untracked unoccupied isUntracked =>
      simp only [budget, List.length_cons]
      omega
  | @vacant index place rest order unoccupied tracked visitsAll =>
      have cut : (index.tracking.forget place).linkCount +
          (index.tracking.links place).size = index.tracking.linkCount :=
        symmetric.linkCount_forget place
      have pushed : order.length = (index.tracking.links place).size := by
        rw [visitsAll.length_eq, Std.ExtTreeSet.length_toList]
      rw [forget_eq visitsAll]
      simp only [budget, List.length_append, List.length_reverse,
        List.length_map, List.length_cons]
      omega

/--
Also where links are kept at one end only there is no endless eviction:
fewer places are tracked after a pass, or as many and fewer are pending.
-/
theorem wellFounded :
    WellFounded fun later earlier : Worklist => earlier.Pass later := by
  have lexicographic : WellFounded (Prod.Lex Nat.lt Nat.lt) :=
    (Prod.lex Nat.lt_wfRel Nat.lt_wfRel).wf
  refine Subrelation.wf ?_ (InvImage.wf rank lexicographic)
  intro later earlier pass
  cases pass with
  | occupied isOccupied =>
      exact .right _ (Nat.lt_succ_self _)
  | untracked unoccupied isUntracked =>
      exact .right _ (Nat.lt_succ_self _)
  | vacant unoccupied tracked visitsAll =>
      rw [forget_eq visitsAll]
      exact .left _ _ (Tracking.size_forget_lt tracked)

/-- While a place is pending there is a next pass. -/
theorem exists_of_pending
    (index : Index)
    (place : Place)
    (rest : List Place) :
    ∃ later, Pass ⟨index, place :: rest⟩ later := by
  cases isOccupied : index.table.occupied place.name with
  | true =>
      exact ⟨_, .occupied isOccupied⟩
  | false =>
      cases tracked : index.tracking.tracks place with
      | false =>
          exact ⟨_, .untracked isOccupied tracked⟩
      | true =>
          exact ⟨_, .vacant isOccupied tracked (.refl _)⟩

end Pass

namespace Passes

variable
  {count : Nat}
  {first last : Worklist}

theorem outcome_eq (passes : Passes count first last) :
    last.outcome = first.outcome := by
  induction passes with
  | none worklist =>
      rfl
  | next pass _ inductionHypothesis =>
      exact inductionHypothesis.trans pass.outcome_eq

/-- Each pass of a run takes one from the budget. -/
theorem budget_eq
    (passes : Passes count first last)
    (symmetric : first.index.tracking.Symmetric) :
    last.budget + count = first.budget := by
  induction passes with
  | none worklist =>
      rfl
  | next pass _ inductionHypothesis =>
      have later := inductionHypothesis (pass.symmetric symmetric)
      have now := pass.budget_eq symmetric
      omega

/-- A run that leaves nothing pending has reached the outcome. -/
theorem index_eq
    (passes : Passes count first last)
    (settled : last.pending = []) :
    last.index = first.outcome := by
  rcases last with ⟨index, pending⟩
  cases settled
  rw [← passes.outcome_eq, outcome_of_settled]

/-- Every eviction can be carried on to its outcome. -/
theorem exists_to_outcome (worklist : Worklist) :
    ∃ count, Passes count worklist ⟨worklist.outcome, []⟩ := by
  induction worklist using Pass.wellFounded.induction with
  | h worklist inductionHypothesis =>
      rcases worklist with ⟨index, pending⟩
      cases pending with
      | nil =>
          rw [outcome_of_settled]
          exact ⟨0, .none _⟩
      | cons place rest =>
          obtain ⟨later, pass⟩ := Pass.exists_of_pending index place rest
          obtain ⟨count, passes⟩ := inductionHypothesis later pass
          rw [pass.outcome_eq] at passes
          exact ⟨count + 1, .next pass passes⟩

end Passes

end Worklist

namespace Index

/--
Ending a binding comes to the same as clearing its sets and then making passes
from its address until nothing is pending.
-/
theorem ended_of_passes
    {index : Index}
    {name : String}
    {binding : Binding}
    {visiting : Visiting}
    {count : Nat}
    {last : Worklist}
    (passes :
      Worklist.Passes count
        ({ index with
            table := index.emptied name binding visiting }.evictionFrom
          binding.address)
        last)
    (settled : last.pending = []) :
    last.index = index.ended name binding visiting :=
  passes.index_eq settled

/-- What evicting some places from an index leaves. -/
structure Evicts
    (index : Index)
    (gone : Place → Prop)
    (next : Index) : Prop where
  tokens : next.tokens = index.tokens
  table : next.table = index.table
  removed :
    ∀ place,
      gone place →
      index.tracking.tracks place = true ∧
        next.tracking.tracks place = false
  kept :
    ∀ place,
      ¬gone place →
      next.tracking.segments? place = index.tracking.segments? place
  /-- An address with a binding set stays. -/
  unoccupied :
    ∀ place, gone place → index.table.occupied place.name = false
  /-- Exactly the links that end at what is gone are gone. -/
  links :
    ∀ place name,
      name ∈ next.tracking.links place ↔
        name ∈ index.tracking.links place ∧
          ¬gone place ∧ ¬gone (place.across name)
  routed :
    ∀ name,
      name ∈ next.tracking.routed ↔
        name ∈ index.tracking.routed ∧ ∀ side, ¬gone ⟨side, name⟩

/-- What goes decides what is left. -/
theorem Evicts.unique
    {index next other : Index}
    {gone : Place → Prop}
    (evicts : index.Evicts gone next)
    (otherEvicts : index.Evicts gone other) :
    next = other := by
  have sameTracking : next.tracking = other.tracking := by
    apply Tracking.eq_of_segments_links
    · intro place
      by_cases isGone : gone place
      · rw [Tracking.tracks_eq_false_iff.mp (evicts.removed place isGone).2,
          Tracking.tracks_eq_false_iff.mp
            (otherEvicts.removed place isGone).2]
      · rw [evicts.kept place isGone, otherEvicts.kept place isGone]
    · intro place
      apply Std.ExtTreeSet.ext_mem
      intro name
      rw [evicts.links, otherEvicts.links]
    · apply Std.ExtTreeSet.ext_mem
      intro name
      rw [evicts.routed, otherEvicts.routed]
  have sameTokens := evicts.tokens.trans otherEvicts.tokens.symm
  have sameTable := evicts.table.trans otherEvicts.table.symm
  cases next
  cases other
  simp_all

end Index

/-- The outcome of an eviction is what removing the vacated places leaves. -/
theorem Worklist.evicts_outcome
    {worklist : Worklist}
    (symmetric : worklist.index.tracking.Symmetric) :
    worklist.index.Evicts
      (worklist.index.tracking.Vacated worklist.index.table.occupied
        worklist.pending)
      worklist.outcome where
  tokens := rfl
  table := rfl
  removed place gone := by
    constructor
    · exact Tracking.tracks_iff.mpr (Tracking.vacant_iff.mp gone.vacant).1
    · rw [Tracking.tracks_eq_false_iff, Option.eq_none_iff_forall_ne_some]
      intro segments kept
      exact ((Tracking.segments?_evict _ _ _).mp kept).2 gone
  kept place stays := by
    apply Option.ext
    intro segments
    exact (Tracking.segments?_evict _ _ _).trans (and_iff_left stays)
  unoccupied place gone := (Tracking.vacant_iff.mp gone.vacant).2
  links place name := symmetric.mem_links_evict_iff
  routed name := Tracking.mem_routed_evict _ _ _

/--
Whatever an index holds, as long as links are kept at both ends: an eviction
takes one pass more than it cuts links, in whatever order it visits
neighbours, and always leaves the same.  It is the only index in which just
the vacant places are gone that links through vacant places join to the start,
with the links that ended there and their texts where they were routed.
-/
theorem eviction_closes_along_links
    {index : Index}
    (symmetric : index.tracking.Symmetric)
    (address : Address) :
    let start := index.evictionFrom address
    (∀ count between,
        Worklist.Passes count start between →
        count ≤ index.tracking.linkCount + 1 ∧
          ∃ more, Worklist.Passes more between ⟨start.outcome, []⟩) ∧
      (∀ count last,
        Worklist.Passes count start last →
        last.pending = [] →
        last.index = start.outcome ∧
          last.index.tracking.linkCount + count =
            index.tracking.linkCount + 1) ∧
        ∀ next,
          index.Evicts
              (index.tracking.Vacated index.table.occupied [address.place])
              next ↔
            next = start.outcome := by
  intro start
  have evicts := start.evicts_outcome symmetric
  have budget : start.budget = index.tracking.linkCount + 1 :=
    Nat.add_comm 1 _
  refine ⟨?_, ?_, ?_⟩
  · intro count between passes
    have spent := passes.budget_eq symmetric
    refine ⟨by omega, ?_⟩
    rw [← passes.outcome_eq]
    exact Worklist.Passes.exists_to_outcome between
  · intro count last passes settled
    have spent := passes.budget_eq symmetric
    refine ⟨passes.index_eq settled, ?_⟩
    simp only [Worklist.budget, settled, List.length_nil] at spent budget
    omega
  · intro next
    constructor
    · intro described
      exact described.unique evicts
    · rintro rfl
      exact evicts

/--
Two patterns and two concrete addresses in a circle of links go together, but
not the address that only an occupied pattern joins to them.
-/
theorem circle_of_vacant_addresses_goes :
    let every : Address := ⟨"#", [.anyWords]⟩
    let star : Address := ⟨"orders.*", [.literal "orders", .singleWord]⟩
    let hash : Address := ⟨"orders.#", [.literal "orders", .anyWords]⟩
    let eu : Address := ⟨"orders.eu", [.literal "orders", .literal "eu"]⟩
    let us : Address := ⟨"orders.us", [.literal "orders", .literal "us"]⟩
    let parcels : Address := ⟨"parcels", [.literal "parcels"]⟩
    let tracking : Tracking :=
      (((((({} : Tracking).track every).track star).track eu).track hash).track
        us).track parcels
    let index : Index :=
      { table := (Index.after {} [.bind ⟨"audit", every, "log"⟩]).table
        tracking :=
          (tracking.markRouted "orders.us").markRouted "parcels" }
    index.tracking.Symmetric ∧
      ∃ last,
        Worklist.Passes 7 (index.evictionFrom eu) last ∧
          last.pending = [] ∧
            last.index.contains "orders.#" = false ∧
              last.index.linked "#" = .ofList ["parcels"] ∧
                last.index.tracking.routed = .ofList ["parcels"] := by
  intro every star hash eu us parcels tracking index
  have graph : tracking.LinkGraph :=
    (((((Tracking.LinkGraph.empty.track every).track star).track eu).track
      hash).track us).track parcels
  have symmetric : index.tracking.Symmetric :=
    ((graph.markRouted "orders.us").markRouted "parcels").symmetric
  obtain ⟨carriesOn, finishes, _⟩ :=
    eviction_closes_along_links symmetric eu
  obtain ⟨_, count, passes⟩ := carriesOn 0 _ (.none _)
  obtain ⟨_, spent⟩ := finishes count _ passes rfl
  have left : (index.evictionFrom eu).outcome.tracking.linkCount = 1 := by
    decide +kernel
  have linked : index.tracking.linkCount = 7 := by
    decide +kernel
  have seven : count = 7 := by
    simp only [left, linked] at spent
    omega
  subst seven
  exact ⟨symmetric, _, passes, rfl, by decide +kernel⟩

end BrokerRouting
