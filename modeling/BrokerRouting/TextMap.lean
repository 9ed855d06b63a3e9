import Std.Data.ExtTreeMap
import Std.Data.ExtTreeSet

namespace BrokerRouting

/-!
# Maps and sets of texts

Names, addresses and sinks are all looked up by their text.  Both containers
are ordered by code point and extensional: two maps with the same entries are
the same map, so an equation between two states says that they agree on every
entry.  A loop over a set is told in which order it visits the texts.
-/

/-- Values kept under texts. -/
abbrev TextMap (Value : Type) := Std.ExtTreeMap String Value

/-- A set of texts. -/
abbrev TextSet := Std.ExtTreeSet String

namespace TextMap

variable {Value : Type}

/-- The values of a map in the order of their texts. -/
def contents (map : TextMap Value) : List Value :=
  map.toList.map Prod.snd

/-- The texts with a value that passes a test. -/
def namesWhere
    (map : TextMap Value)
    (test : Value → Bool) :
    TextSet :=
  .ofList (map.filter fun _ value => test value).keys

/-- Maps are the same when they have the same entries. -/
theorem eq_of_entries
    {first second : TextMap Value}
    (sameEntries :
      ∀ (name : String) (value : Value),
        first[name]? = some value ↔ second[name]? = some value) :
    first = second :=
  Std.ExtTreeMap.ext_getElem? fun name => Option.ext (sameEntries name)

/-- A value is among the contents exactly when some text has it. -/
theorem mem_contents
    {map : TextMap Value}
    {value : Value} :
    value ∈ map.contents ↔ ∃ name : String, map[name]? = some value := by
  simp [contents, Std.ExtTreeMap.mem_toList_iff_getElem?_eq_some]

/-- A text is selected exactly when it has a value that passes the test. -/
theorem mem_namesWhere
    {map : TextMap Value}
    {test : Value → Bool}
    {name : String} :
    name ∈ map.namesWhere test ↔
      ∃ value, map[name]? = some value ∧ test value = true := by
  rw [namesWhere, Std.ExtTreeSet.mem_ofList, List.contains_iff_mem,
    Std.ExtTreeMap.mem_keys, Std.ExtTreeMap.mem_iff_isSome_getElem?]
  cases found : map[name]? <;> simp [found]

/-- Erasing a text that is present leaves fewer entries. -/
theorem size_erase_lt
    {map : TextMap Value}
    {name : String}
    (present : map.contains name = true) :
    (map.erase name).size < map.size := by
  have nonempty : map.size ≠ 0 := fun empty =>
    Std.ExtTreeMap.ne_empty_of_mem present
      (Std.ExtTreeMap.eq_empty_iff_size_eq_zero.mpr empty)
  rw [Std.ExtTreeMap.size_erase, if_pos present]
  omega

/-- Erasing a text that is absent changes nothing. -/
theorem erase_of_absent
    {map : TextMap Value}
    {name : String}
    (absent : map[name]? = none) :
    map.erase name = map := by
  apply Std.ExtTreeMap.ext_getElem?
  intro other
  rw [Std.ExtTreeMap.getElem?_erase]
  split
  · rename_i same
    rw [← Std.compare_eq_iff_eq.mp same, absent]
  · rfl

/-- No entry is listed twice. -/
theorem nodup_toList (map : TextMap Value) : map.toList.Nodup :=
  Std.ExtTreeMap.distinct_keys_toList.imp
    fun distinct same => distinct (by simp [same])

/-- A map has as many entries as a list without repetition names its texts. -/
theorem size_eq_length
    {map : TextMap Value}
    {texts : List String}
    (distinct : texts.Nodup)
    (sameTexts : ∀ text, text ∈ map ↔ text ∈ texts) :
    map.size = texts.length := by
  rw [← Std.ExtTreeMap.length_keys]
  apply List.Perm.length_eq
  apply (List.perm_ext_iff_of_nodup Std.ExtTreeMap.nodup_keys distinct).mpr
  intro text
  rw [Std.ExtTreeMap.mem_keys, sameTexts]

end TextMap

/-- No text is listed twice. -/
theorem TextSet.nodup_toList (texts : TextSet) : texts.toList.Nodup :=
  texts.distinct_toList.imp fun distinct same => distinct (by simp [same])

/-- For every set of texts, an order in which to visit them. -/
structure Visiting where
  order : TextSet → List String
  perm : ∀ texts, (order texts).Perm texts.toList

namespace Visiting

/-- Texts by code point. -/
def ascending : Visiting where
  order texts := texts.toList
  perm _ := .refl _

/-- Exactly the texts of a set are visited. -/
@[simp]
theorem mem_order
    {visiting : Visiting}
    {texts : TextSet}
    {text : String} :
    text ∈ visiting.order texts ↔ text ∈ texts := by
  rw [(visiting.perm texts).mem_iff, Std.ExtTreeSet.mem_toList]

/-- Any two orders of visiting list the same texts. -/
theorem order_perm
    (visiting other : Visiting)
    (texts : TextSet) :
    (visiting.order texts).Perm (other.order texts) :=
  (visiting.perm texts).trans (other.perm texts).symm

/-- Any order of the texts of one set is an order in which to visit them. -/
theorem exists_of_perm
    {texts : TextSet}
    {order : List String}
    (perm : order.Perm texts.toList) :
    ∃ visiting : Visiting, visiting.order texts = order := by
  refine ⟨⟨fun other => if other = texts then order else other.toList, ?_⟩,
    if_pos rfl⟩
  intro other
  split
  · rename_i same
    exact same ▸ perm
  · exact .refl _

end Visiting

end BrokerRouting
