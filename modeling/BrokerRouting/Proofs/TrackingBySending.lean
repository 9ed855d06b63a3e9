import BrokerRouting.Proofs.ReadPath
import BrokerRouting.Proofs.UndoneBinding

namespace BrokerRouting

/-!
# What sending to a new text leaves behind

Sending to an untracked concrete address under a live pattern makes the index
track it: one set, one tracked address, one link at each pattern that covers
it, one routed text.  Nothing else changes, and no text is resolved in another
way than before.  Once nothing reaches the address any more all of this is
gone, and the index is the one that it was never sent through.
-/

/-- The live bindings on patterns that cover an address. -/
def Ledger.covering
    (ledger : Ledger)
    (address : Address) :
    Bindings :=
  ledger.filter fun _ binding =>
    binding.address.hasWildcard && binding.address.covers address

theorem Ledger.getElem?_covering
    {ledger : Ledger}
    {address : Address}
    {name : String}
    {binding : Binding} :
    (ledger.covering address)[name]? = some binding ↔
      ledger[name]? = some binding ∧
        binding.address.side = .pattern ∧
          binding.address.covers address = true := by
  simp [covering, Option.filter_eq_some_iff, Address.side_eq_pattern_iff]

namespace Index

/-- An index that differs from another by tracking one more address. -/
structure TracksAlso
    (index : Index)
    (address : Address)
    (next : Index) : Prop where
  tokens : next.tokens = index.tokens
  live : next.table.live = index.table.live
  /-- The address has a set with all live bindings that cover it. -/
  sets :
    next.table.sets =
      index.table.sets.insert address.raw
        (Ledger.covering index.table.live address)
  /-- It is tracked, and linked to the tracked patterns that cover it. -/
  concrete :
    ∃ links : TextSet,
      next.tracking.concrete =
          index.tracking.concrete.insert address.raw
            { segments := address.segments, links } ∧
        ∀ name,
          name ∈ links ↔
            ∃ pattern,
              index.tracking.patterns[name]? = some pattern ∧
                pattern.segments.covers address.segments = true
  /-- Each of these patterns is linked to it as well. -/
  patterns :
    ∀ name : String,
      next.tracking.patterns[name]? =
        index.tracking.patterns[name]?.map fun pattern =>
          if pattern.segments.covers address.segments then
            { pattern with links := pattern.links.insert address.raw }
          else
            pattern
  routed :
    next.tracking.routed = index.tracking.routed.insert address.raw
  /-- Sending to any text gives what it gave before. -/
  answers : ∀ raw, (next.route raw).1 = (index.route raw).1

namespace Canonical

variable
  {index : Index}
  {address : Address}

/-- The set of the new address is what covers it; the other sets stay. -/
theorem lookup?_sentTo
    (canonical : Canonical index)
    (vacant : index.lookup? address.raw = none)
    (covered : index.covered? address.raw = some address)
    (raw : String) :
    (index.sentTo address.raw address).lookup? raw =
      if address.raw = raw then
        some (Ledger.covering index.table.live address)
      else
        index.lookup? raw := by
  obtain ⟨parsed, kind, _⟩ := covered?_eq_some_iff.mp covered
  have unknown := canonical.lookup?_eq_none_iff.mp vacant
  have next : Canonical (index.sentTo address.raw address) :=
    canonical.sentTo vacant covered
  apply Option.ext
  intro bindings
  rw [Index.lookup?, Table.lookup?_eq_some_iff, next.occupied_iff,
    known_sentTo_iff]
  by_cases own : address.raw = raw
  · subst own
    have set :
        (index.sentTo address.raw address).table.bindingsAt address.raw =
          Ledger.covering index.table.live address := by
      apply TextMap.eq_of_entries
      intro name binding
      rw [canonical.held_sentTo_iff parsed kind unknown,
        Ledger.getElem?_covering]
      constructor
      · rintro ⟨_, found, reaches⟩
        exact ⟨found,
          (reaches_of_unknown_iff parsed kind unknown found).mp reaches⟩
      · rintro ⟨found, covers⟩
        exact ⟨Or.inr rfl, found,
          (reaches_of_unknown_iff parsed kind unknown found).mpr covers⟩
    simp [set, eq_comm]
  · rw [if_neg own, Index.lookup?, Table.lookup?_eq_some_iff,
      canonical.occupied_iff, Index.sentTo,
      Table.bindingsAt_drawIn_other _ _ own]
    simp [own]

/-- Sending to such an address gives what covers it. -/
theorem route_of_covered?
    (canonical : Canonical index)
    (vacant : index.lookup? address.raw = none)
    (covered : index.covered? address.raw = some address) :
    index.route address.raw =
      (Ledger.covering index.table.live address,
        index.sentTo address.raw address) := by
  have set := canonical.lookup?_sentTo vacant covered address.raw
  rw [if_pos rfl] at set
  obtain ⟨_, sameSet⟩ := Table.lookup?_eq_some_iff.mp set
  apply Prod.ext
  · rw [route_fst, route_of_covered vacant covered]
    exact sameSet.symm
  · exact route_of_covered vacant covered

/-- An address that begins to be tracked is all that changes. -/
theorem tracksAlso
    (canonical : Canonical index)
    (vacant : index.lookup? address.raw = none)
    (covered : index.covered? address.raw = some address) :
    index.TracksAlso address (index.sentTo address.raw address) := by
  obtain ⟨parsed, kind, _⟩ := covered?_eq_some_iff.mp covered
  have unknown := canonical.lookup?_eq_none_iff.mp vacant
  have next : Canonical (index.sentTo address.raw address) :=
    canonical.sentTo vacant covered
  have untracked : index.tracking.tracks address.place = false := by
    rw [Bool.eq_false_iff]
    intro tracked
    exact unknown ((canonical.tracks_iff parsed).mp tracked)
  have ownSide := Tracking.on_side_track untracked
  have otherSide := Tracking.on_opposite_track untracked
  rw [kind] at ownSide otherSide
  refine
    { tokens := rfl
      live := live_sentTo index address.raw address _
      sets := ?_
      concrete := ⟨_, ownSide, ?_⟩
      patterns := ?_
      routed := ?_
      answers := ?_ }
  · apply Std.ExtTreeMap.ext_getElem?
    intro raw
    rw [Std.ExtTreeMap.getElem?_insert]
    simp only [Std.compare_eq_iff_eq]
    exact canonical.lookup?_sentTo vacant covered raw
  · intro name
    simp only [TextMap.mem_namesWhere, Address.meets_of_concrete kind]
    rfl
  · intro name
    have entry :
        (index.sentTo address.raw address).tracking.patterns[name]? =
          ((index.tracking.track address).on .pattern)[name]? :=
      rfl
    have otherSide :
        (index.tracking.track address).on .pattern = _ := otherSide
    rw [entry, otherSide, Std.ExtTreeMap.getElem?_map]
    simp only [Address.meets_of_concrete kind]
    rfl
  · simp only [Index.sentTo, Tracking.markRouted, Tracking.routed_track]
  · intro raw
    rw [next.route_fst_eq, canonical.route_fst_eq, live_sentTo]
    rfl

/-- Which texts are routed after a call. -/
theorem mem_routed_apply_iff
    (canonical : Canonical index)
    (change : Change)
    {text : String} :
    text ∈ (index.apply change).tracking.routed ↔
      match change with
      | .bind _ => text ∈ index.tracking.routed
      | .unbind name =>
          text ∈ index.tracking.routed ∧
            Ledger.Reached (index.table.live.erase name) index.tokens text
      | .route raw =>
          text ∈ index.tracking.routed ∨
            raw = text ∧
              ¬index.Known raw ∧
                Ledger.Reached index.table.live index.tokens raw
      | .clear => False := by
  cases change with
  | bind binding =>
      have made := step_apply index (.bind binding)
      generalize index.apply (.bind binding) = next at made
      cases made with
      | bindTaken _ _ =>
          rfl
      | bind _ _ _ =>
          rw [routed_bound]
  | unbind name =>
      have made := step_apply index (.unbind name)
      generalize index.apply (.unbind name) = next at made
      cases made with
      | unbindUnknown _ unknown =>
          simp only [TextMap.erase_of_absent unknown]
          exact (and_iff_left_of_imp
            fun isRouted => (canonical.routed isRouted).1).symm
      | unbind _ found =>
          exact canonical.mem_routed_ended_iff found
  | route raw =>
      exact canonical.mem_routed_route_iff
  | clear =>
      simp [apply, Index.make, Index.clear]

end Canonical

/-- Two indexes that differ at most by what was sent to one text. -/
structure AlikeBut
    (raw : String)
    (index other : Index) :
    Prop where
  canonical : Canonical index
  otherCanonical : Canonical other
  tokens : index.tokens = other.tokens
  live : index.table.live = other.table.live
  routed :
    ∀ {text : String},
      raw ≠ text →
      (text ∈ index.tracking.routed ↔ text ∈ other.tracking.routed)

namespace AlikeBut

variable
  {raw : String}
  {index other : Index}

theorem known_iff
    (alike : AlikeBut raw index other)
    {text : String}
    (different : raw ≠ text) :
    index.Known text ↔ other.Known text := by
  rw [Known, Known, alike.routed different, alike.live]

/-- Sending to the text makes no other difference. -/
theorem of_route
    (canonical : Canonical index)
    (raw : String) :
    AlikeBut raw (index.apply (.route raw)) index where
  canonical := canonical.step (step_apply index _) trivial
  otherCanonical := canonical
  tokens := (step_apply index _).tokens_eq
  live := live_apply index (.route raw)
  routed {text} different := by
    rw [canonical.mem_routed_apply_iff]
    simp [different]

/-- The same call on both makes no other difference either. -/
theorem apply
    (alike : AlikeBut raw index other)
    {change : Change}
    (read : change.ReadWith index.tokens) :
    AlikeBut raw (index.apply change) (other.apply change) where
  canonical := alike.canonical.step (step_apply index change) read
  otherCanonical :=
    alike.otherCanonical.step (step_apply other change)
      (alike.tokens ▸ read)
  tokens := by
    rw [(step_apply index change).tokens_eq,
      (step_apply other change).tokens_eq, alike.tokens]
  live := by
    rw [live_apply, live_apply, alike.live]
  routed {text} different := by
    rw [alike.canonical.mem_routed_apply_iff,
      alike.otherCanonical.mem_routed_apply_iff]
    cases change with
    | bind binding =>
        exact alike.routed different
    | unbind name =>
        simp only [alike.routed different, alike.live, alike.tokens]
    | route sent =>
        simp only [alike.routed different, alike.live, alike.tokens]
        apply or_congr_right
        apply and_congr_right
        rintro rfl
        rw [alike.known_iff different]
    | clear =>
        rfl

theorem foldl_apply
    (alike : AlikeBut raw index other)
    {later : History}
    (read : ∀ change ∈ later, change.ReadWith index.tokens) :
    AlikeBut raw (later.foldl Index.apply index)
      (later.foldl Index.apply other) := by
  induction later generalizing index other with
  | nil =>
      exact alike
  | cons change rest inductionHypothesis =>
      have sameTokens := (step_apply index change).tokens_eq
      apply inductionHypothesis (alike.apply (read change (by simp)))
      intro later member
      rw [sameTokens]
      exact read later (by simp [member])

/-- Where nothing reaches the text, it is routed on neither side. -/
theorem agrees
    (alike : AlikeBut raw index other)
    (unreached :
      ¬Ledger.Reached index.table.live index.tokens raw) :
    index.Agrees other := by
  refine alike.canonical.agrees alike.otherCanonical alike.tokens alike.live
    (Std.ExtTreeSet.ext_mem fun text => ?_)
  by_cases own : raw = text
  · subst own
    have otherUnreached :
        ¬Ledger.Reached other.table.live other.tokens raw := by
      rw [← alike.live, ← alike.tokens]
      exact unreached
    exact iff_of_false
      (fun isRouted => unreached (alike.canonical.routed isRouted).1)
      (fun isRouted =>
        otherUnreached (alike.otherCanonical.routed isRouted).1)
  · exact alike.routed own

end AlikeBut

/-- Nothing is kept of a text that is not known. -/
structure HasNoTrace
    (index : Index)
    (raw : String) :
    Prop where
  sets : raw ∉ index.table.sets
  concrete : raw ∉ index.tracking.concrete
  patterns : raw ∉ index.tracking.patterns
  links : ∀ place, raw ∉ index.tracking.links place
  routed : raw ∉ index.tracking.routed

/-- A text that nothing reaches leaves nothing behind. -/
theorem Canonical.hasNoTrace
    {index : Index}
    {raw : String}
    (canonical : Canonical index)
    (unreached :
      ¬Ledger.Reached index.table.live index.tokens raw) :
    index.HasNoTrace raw := by
  have unknown : ¬index.Known raw := fun known =>
    unreached (canonical.reached_of_known known)
  have untracked : ∀ side, raw ∉ index.tracking.on side :=
    fun side tracked => unknown (canonical.mem_on_iff.mp tracked).1
  exact
    { sets := fun occupied => unknown (canonical.occupied_iff.mp occupied)
      concrete := untracked .concrete
      patterns := untracked .pattern
      links := by
        intro place linked
        obtain ⟨_, _, _, kept, _⟩ :=
          canonical.graph.mem_links_iff.mp linked
        exact unknown (canonical.kept.mp kept).1
      routed := fun isRouted => unknown (Or.inl isRouted) }

end Index

/--
After any history over addresses read with its tokens, sending to an untracked
concrete address under a live pattern gives the live bindings that cover it,
makes the index track this address with its set and links, and changes nothing
else.  Whatever follows, once no live binding reaches the address nothing is
kept of it, and the index is the one without the sending.
-/
theorem sending_only_tracks_its_address
    {tokens : Tokens}
    {history : History}
    (read : ∀ change ∈ history, change.ReadWith tokens)
    {raw : String}
    {address : Address}
    (parsed : Address.parse tokens raw = .ok address)
    (concrete : address.hasWildcard = false)
    (untracked : (Index.after tokens history).contains raw = false)
    (covered : (Index.after tokens history).CoveredByLive address) :
    let index := Index.after tokens history
    (∃ next,
        index.route raw =
            (Ledger.covering index.table.live address, next) ∧
          address.raw = raw ∧ index.TracksAlso address next) ∧
      ∀ later : History,
        (∀ change ∈ later, change.ReadWith tokens) →
        let final := Index.after tokens (history ++ .route raw :: later)
        (∀ name binding,
          final.find? name = some binding →
          binding.reaches address = false) →
        final.HasNoTrace raw ∧
          final.Agrees (Index.after tokens (history ++ later)) := by
  intro index
  obtain ⟨hasTokens, canonical⟩ := Index.Canonical.after read
  have sameText : address.raw = raw := Address.raw_of_parse parsed
  subst sameText
  constructor
  · have vacant : index.lookup? address.raw = none :=
      canonical.contains_eq_false_iff.mp untracked
    have resolved : index.covered? address.raw = some address :=
      canonical.covered?_of_coveredByLive vacant
        (hasTokens.symm ▸ parsed) concrete covered
    exact ⟨_, canonical.route_of_covered? vacant resolved, rfl,
      canonical.tracksAlso vacant resolved⟩
  · intro later laterRead final unreaching
    have finalEq :
        final =
          later.foldl Index.apply
            (index.apply (.route address.raw)) :=
      Index.after_append tokens history (.route address.raw :: later)
    have alike :
        Index.AlikeBut address.raw final
          (Index.after tokens (history ++ later)) := by
      rw [finalEq, Index.after_append]
      refine (Index.AlikeBut.of_route canonical address.raw).foldl_apply ?_
      intro change member
      rw [(Index.step_apply index _).tokens_eq, hasTokens]
      exact laterRead change member
    have finalTokens : final.tokens = tokens :=
      alike.tokens.trans
        (Index.Canonical.after
          (List.forall_mem_append.mpr ⟨read, laterRead⟩)).1
    have unreached :
        ¬Ledger.Reached final.table.live final.tokens address.raw := by
      rintro ⟨name, binding, found, other, otherParsed, reaches⟩
      rw [finalTokens, parsed] at otherParsed
      cases otherParsed
      rw [unreaching name binding found] at reaches
      cases reaches
    exact ⟨alike.canonical.hasNoTrace unreached, alike.agrees unreached⟩

/-- A text is sent to, bound, and left by its pattern and its own binding. -/
theorem sending_is_forgotten_with_last_binding :
    let audit : Binding :=
      ⟨"audit", ⟨"orders.*", [.literal "orders", .singleWord]⟩, "log"⟩
    let ship : Binding :=
      ⟨"ship", ⟨"orders.eu", [.literal "orders", .literal "eu"]⟩, "van"⟩
    let history : History := [.bind audit]
    let later : History :=
      [.bind ship, .unbind "audit", .unbind "ship"]
    let index := Index.after {} history
    let final := Index.after {} (history ++ .route "orders.eu" :: later)
    index.contains "orders.eu" = false ∧
      (∃ next,
        index.route "orders.eu" =
            (Ledger.covering index.table.live ship.address, next) ∧
          index.TracksAlso ship.address next) ∧
        final.HasNoTrace "orders.eu" ∧
          final.Agrees (Index.after {} (history ++ later)) := by
  intro audit ship history later index final
  have auditRead : Address.parse {} "orders.*" = .ok audit.address := by
    rfl
  have shipRead : Address.parse {} "orders.eu" = .ok ship.address := by
    rfl
  have read : ∀ change ∈ history, change.ReadWith {} := by
    simp only [history, List.forall_mem_cons]
    exact ⟨auditRead, by simp⟩
  have laterRead : ∀ change ∈ later, change.ReadWith {} := by
    simp only [later, List.forall_mem_cons]
    exact ⟨shipRead, trivial, trivial, by simp⟩
  have untracked : index.contains "orders.eu" = false := by
    decide +kernel
  have covered : index.CoveredByLive ship.address :=
    ⟨"audit", audit, by decide +kernel, rfl, by decide +kernel⟩
  obtain ⟨⟨next, sent, _, tracksAlso⟩, afterwards⟩ :=
    sending_only_tracks_its_address read shipRead rfl untracked covered
  have noneLive : final.table.live = ∅ := by
    decide +kernel
  have unreaching :
      ∀ name binding,
        final.find? name = some binding →
        binding.reaches ship.address = false := by
    intro name binding found
    rw [Index.find?, Table.find?, noneLive] at found
    simp at found
  obtain ⟨noTrace, agrees⟩ := afterwards later laterRead unreaching
  exact ⟨untracked, ⟨next, sent, tracksAlso⟩, noTrace, agrees⟩

end BrokerRouting
