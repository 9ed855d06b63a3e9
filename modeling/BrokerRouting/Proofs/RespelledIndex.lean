import BrokerRouting.Proofs.CanonicalForm
import BrokerRouting.Proofs.RespelledAddresses

namespace BrokerRouting

/-!
# Indexes that differ in spelling

Two indexes in canonical form differ in spelling only when their tokens, live
bindings and routed texts do.  Everything else that can be seen of them then
corresponds: which texts are known, what is tracked for them, the links
between them, and the sizes.
-/

namespace Respelling

variable
  (respelling : Respelling)
  {raw name : String}

@[simp]
theorem getElem?_bindings
    (bindings : Bindings)
    (name : String) :
    (respelling.bindings bindings)[name]? =
      bindings[name]?.map respelling.binding := by
  simp [Respelling.bindings]

@[simp]
theorem contains_bindings
    (bindings : Bindings)
    (name : String) :
    (respelling.bindings bindings).contains name = bindings.contains name := by
  simp [Respelling.bindings]

@[simp]
theorem size_bindings (bindings : Bindings) :
    (respelling.bindings bindings).size = bindings.size :=
  Std.ExtTreeMap.size_map

theorem bindings_add
    (bindings : Bindings)
    (binding : Binding) :
    respelling.bindings (bindings.add binding) =
      (respelling.bindings bindings).add (respelling.binding binding) := by
  apply Std.ExtTreeMap.ext_getElem?
  intro name
  rw [getElem?_bindings, Bindings.getElem?_add, Bindings.getElem?_add,
    getElem?_bindings]
  exact apply_ite (Option.map respelling.binding) ..

theorem bindings_erase
    (bindings : Bindings)
    (name : String) :
    respelling.bindings (bindings.erase name) =
      (respelling.bindings bindings).erase name := by
  apply Std.ExtTreeMap.ext_getElem?
  intro other
  rw [getElem?_bindings, Bindings.getElem?_erase, Bindings.getElem?_erase,
    getElem?_bindings]
  exact apply_ite (Option.map respelling.binding) ..

/-- A live binding was made for a respelled text if one was for the text. -/
theorem bound_iff {ledger : Ledger} :
    Ledger.Bound (respelling.bindings ledger) (respelling.text raw) ↔
      Ledger.Bound ledger raw := by
  simp [Ledger.Bound, Respelling.binding, Respelling.address]

theorem reached_iff
    {ledger : Ledger}
    {tokens : Tokens} :
    Ledger.Reached (respelling.bindings ledger) (respelling.tokens tokens)
        (respelling.text raw) ↔
      Ledger.Reached ledger tokens raw := by
  simp [Ledger.Reached, reaches_iff]

theorem reaching_eq
    (ledger : Ledger)
    (tokens : Tokens)
    (raw : String) :
    Ledger.reaching (respelling.tokens tokens) (respelling.bindings ledger)
        (respelling.text raw) =
      respelling.bindings (ledger.reaching tokens raw) := by
  apply TextMap.eq_of_entries
  intro name binding
  rw [Ledger.getElem?_reaching, getElem?_bindings, getElem?_bindings]
  simp only [Option.map_eq_some_iff, Ledger.getElem?_reaching]
  constructor
  · rintro ⟨⟨own, found, rfl⟩, reaches⟩
    exact ⟨own, ⟨found, respelling.reaches_iff.mp reaches⟩, rfl⟩
  · rintro ⟨own, ⟨found, reaches⟩, rfl⟩
    exact ⟨⟨own, found, rfl⟩, respelling.reaches_iff.mpr reaches⟩

/-- A set holds the respelling of a text when it held the text before. -/
theorem text_mem_texts {texts : TextSet} :
    respelling.text raw ∈ respelling.texts texts ↔ raw ∈ texts := by
  rw [Respelling.texts, Std.ExtTreeSet.mem_ofList, List.contains_iff_mem,
    List.mem_map]
  simp [text_inj]

/-- Sets are told apart by the respelled texts in them. -/
theorem eq_texts
    {texts respelled : TextSet}
    (sameTexts :
      ∀ raw, respelling.text raw ∈ respelled ↔ raw ∈ texts) :
    respelled = respelling.texts texts := by
  apply Std.ExtTreeSet.ext_mem
  intro raw
  obtain ⟨own, rfl⟩ := respelling.exists_text raw
  rw [sameTexts, text_mem_texts]

/-- Maps with the same texts but for spelling have the same size. -/
theorem size_eq
    {First Second : Type}
    {map : TextMap First}
    {respelled : TextMap Second}
    (sameTexts :
      ∀ raw, respelling.text raw ∈ respelled ↔ raw ∈ map) :
    respelled.size = map.size := by
  have distinct : (map.keys.map respelling.text).Nodup := by
    apply List.Pairwise.map respelling.text ?_ Std.ExtTreeMap.nodup_keys
    intro first second different same
    exact different (respelling.text_inj.mp same)
  rw [← Std.ExtTreeMap.length_keys (t := map),
    ← List.length_map (f := respelling.text)]
  apply TextMap.size_eq_length distinct
  intro raw
  obtain ⟨own, rfl⟩ := respelling.exists_text raw
  rw [sameTexts]
  simp

end Respelling

namespace Index

/-- One index keeps, in another spelling, what the other keeps. -/
structure Respelled
    (respelling : Respelling)
    (index respelled : Index) : Prop where
  canonical : index.Canonical
  respelledCanonical : respelled.Canonical
  tokens : respelled.tokens = respelling.tokens index.tokens
  live : respelled.table.live = respelling.bindings index.table.live
  routed :
    ∀ raw,
      respelling.text raw ∈ respelled.tracking.routed ↔
        raw ∈ index.tracking.routed

namespace Respelled

variable
  {respelling : Respelling}
  {index respelled : Index}
  {raw : String}

theorem parse_eq
    (alike : Respelled respelling index respelled)
    (raw : String) :
    Address.parse respelled.tokens (respelling.text raw) =
      respelling.reading (Address.parse index.tokens raw) := by
  rw [alike.tokens, respelling.parse_eq]

theorem known_iff (alike : Respelled respelling index respelled) :
    respelled.Known (respelling.text raw) ↔ index.Known raw := by
  rw [Known, Known, alike.routed, alike.live, respelling.bound_iff]

theorem reached_iff (alike : Respelled respelling index respelled) :
    Ledger.Reached respelled.table.live respelled.tokens
        (respelling.text raw) ↔
      Ledger.Reached index.table.live index.tokens raw := by
  rw [alike.live, alike.tokens, respelling.reached_iff]

theorem occupied_eq
    (alike : Respelled respelling index respelled)
    (raw : String) :
    respelled.table.occupied (respelling.text raw) =
      index.table.occupied raw := by
  apply Bool.eq_iff_iff.mpr
  rw [alike.respelledCanonical.occupied_iff, alike.canonical.occupied_iff,
    alike.known_iff]

theorem contains_eq
    (alike : Respelled respelling index respelled)
    (raw : String) :
    respelled.contains (respelling.text raw) = index.contains raw := by
  rw [alike.respelledCanonical.contains_eq, alike.canonical.contains_eq]
  simp only [Index.lookup?, ← Table.occupied_eq_isSome]
  exact alike.occupied_eq raw

/-- Respelled segments are kept exactly for the texts that are tracked. -/
theorem segments?_eq
    (alike : Respelled respelling index respelled)
    (side : Side)
    (raw : String) :
    respelled.tracking.segments? ⟨side, respelling.text raw⟩ =
      (index.tracking.segments? ⟨side, raw⟩).map respelling.segments := by
  apply Option.ext
  intro segments
  rw [alike.respelledCanonical.kept, alike.known_iff, alike.parse_eq,
    Option.map_eq_some_iff]
  constructor
  · rintro ⟨known, reads, placed⟩
    cases parsed : Address.parse index.tokens raw with
    | error refusal =>
        rw [parsed] at reads
        cases reads
    | ok address =>
        rw [parsed] at reads
        have sameText : address.raw = raw := Address.raw_of_parse parsed
        subst sameText
        cases reads
        -- Open words stay open, so the address stands on the same side.
        have kind : address.side = side :=
          (respelling.side_eq address).symm.trans
            (congrArg Place.side placed)
        subst kind
        exact ⟨_, (alike.canonical.kept_iff parsed).mpr ⟨known, rfl⟩, rfl⟩
  · rintro ⟨own, kept, rfl⟩
    obtain ⟨known, parsed, placed⟩ := alike.canonical.kept.mp kept
    refine ⟨known, congrArg respelling.reading parsed, ?_⟩
    have kind : Address.side ⟨raw, own⟩ = side :=
      congrArg Place.side placed
    exact congrArg (Place.mk · (respelling.text raw))
      ((respelling.side_eq ⟨raw, own⟩).trans kind)

theorem tracks_eq
    (alike : Respelled respelling index respelled)
    (side : Side)
    (raw : String) :
    respelled.tracking.tracks ⟨side, respelling.text raw⟩ =
      index.tracking.tracks ⟨side, raw⟩ := by
  apply Bool.eq_iff_iff.mpr
  rw [Tracking.tracks_iff, Tracking.tracks_iff,
    ← Option.isSome_iff_exists, ← Option.isSome_iff_exists,
    alike.segments?_eq, Option.isSome_map]

/-- Links join respelled texts where they joined the texts. -/
theorem mem_links_iff
    (alike : Respelled respelling index respelled)
    {side : Side}
    {other : String} :
    respelling.text other ∈
        respelled.tracking.links ⟨side, respelling.text raw⟩ ↔
      other ∈ index.tracking.links ⟨side, raw⟩ := by
  rw [alike.respelledCanonical.graph.mem_links_iff,
    alike.canonical.graph.mem_links_iff]
  simp only [Place.across, alike.segments?_eq, Option.map_eq_some_iff]
  constructor
  · rintro ⟨_, _, ⟨own, kept, rfl⟩, ⟨across, keptAcross, rfl⟩, met⟩
    refine ⟨own, across, kept, keptAcross, ?_⟩
    rwa [← respelling.meets_eq]
  · rintro ⟨own, across, kept, keptAcross, met⟩
    refine ⟨_, _, ⟨own, kept, rfl⟩, ⟨across, keptAcross, rfl⟩, ?_⟩
    rwa [← respelling.meets_eq] at met

theorem links_eq
    (alike : Respelled respelling index respelled)
    (side : Side)
    (raw : String) :
    respelled.tracking.links ⟨side, respelling.text raw⟩ =
      respelling.texts (index.tracking.links ⟨side, raw⟩) :=
  respelling.eq_texts fun _ => alike.mem_links_iff

theorem linked_eq
    (alike : Respelled respelling index respelled)
    (raw : String) :
    respelled.linked (respelling.text raw) =
      respelling.texts (index.linked raw) := by
  simp only [Index.linked, alike.tracks_eq, alike.links_eq]
  split <;> rfl

theorem mem_on_iff
    (alike : Respelled respelling index respelled)
    (side : Side)
    (raw : String) :
    respelling.text raw ∈ respelled.tracking.on side ↔
      raw ∈ index.tracking.on side := by
  change respelled.tracking.tracks ⟨side, respelling.text raw⟩ = true ↔
    index.tracking.tracks ⟨side, raw⟩ = true
  rw [alike.tracks_eq]

/-- There are as many links as before, between respelled texts. -/
theorem linkCount_eq (alike : Respelled respelling index respelled) :
    respelled.tracking.linkCount = index.tracking.linkCount := by
  let both := Prod.map respelling.text respelling.text
  have distinct :
      ((index.tracking.linkPairs .concrete).map both).Nodup := by
    apply List.Pairwise.map both ?_
      (Tracking.nodup_linkPairs index.tracking .concrete)
    intro pair other different same
    apply different
    simpa [both, Prod.ext_iff] using same
  have samePairs :
      ((index.tracking.linkPairs .concrete).map both).Perm
        (respelled.tracking.linkPairs .concrete) := by
    apply (List.perm_ext_iff_of_nodup distinct
      (Tracking.nodup_linkPairs _ _)).mpr
    rintro ⟨name, other⟩
    obtain ⟨own, rfl⟩ := respelling.exists_text name
    obtain ⟨linked, rfl⟩ := respelling.exists_text other
    rw [Tracking.mem_linkPairs, alike.mem_links_iff,
      ← Tracking.mem_linkPairs]
    simp [both]
  calc
    respelled.tracking.linkCount =
        (respelled.tracking.linkPairs .concrete).length :=
      (Tracking.length_linkPairs respelled.tracking .concrete).symm
    _ = (index.tracking.linkPairs .concrete).length := by
      rw [← samePairs.length_eq, List.length_map]
    _ = index.tracking.linkCount :=
      Tracking.length_linkPairs index.tracking .concrete

theorem sizes_eq (alike : Respelled respelling index respelled) :
    respelled.sizes = index.sizes := by
  have bindings :
      respelled.table.bindingCount = index.table.bindingCount := by
    rw [Table.bindingCount, alike.live, respelling.size_bindings]
    rfl
  have occupied :
      respelled.table.addressCount = index.table.addressCount := by
    apply respelling.size_eq
    intro raw
    exact Bool.eq_iff_iff.mp (alike.occupied_eq raw)
  have concrete :
      respelled.tracking.concrete.size = index.tracking.concrete.size :=
    respelling.size_eq (alike.mem_on_iff .concrete)
  have patterns :
      respelled.tracking.patterns.size = index.tracking.patterns.size :=
    respelling.size_eq (alike.mem_on_iff .pattern)
  simp only [Index.sizes, bindings, occupied, concrete, patterns,
    alike.linkCount_eq]

end Respelled

end Index

end BrokerRouting
