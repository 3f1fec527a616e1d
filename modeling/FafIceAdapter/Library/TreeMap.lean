import Mathlib.Data.Option.Basic
import Std.Data.ExtTreeMap
import Std.Data.ExtTreeSet

namespace TreeMap
open Std

variable {K V : Type} [Ord K] [TransOrd K] {map : ExtTreeMap K V} {set : ExtTreeSet K}

theorem mem_iff {key : K} : key ∈ map ↔ ∃ value, map[key]? = some value := by
  rw [ExtTreeMap.mem_iff_isSome_getElem?, Option.isSome_iff_exists]

theorem eq_none_iff {key : K} : map[key]? = none ↔ key ∉ map := by
  rw [ExtTreeMap.mem_iff_isSome_getElem?, Option.not_isSome_iff_eq_none]

theorem size_insert_of_notMem {key : K} (absent : key ∉ map) (value : V) :
    (map.insert key value).size = map.size + 1 := by
  rw [ExtTreeMap.size_insert, if_neg (mt ExtTreeMap.mem_iff_contains.mpr absent)]

theorem size_erase_of_mem {key : K} (present : key ∈ map) : (map.erase key).size + 1 = map.size := by
  have positive : map.size ≠ 0 := by
    intro empty
    rw [ExtTreeMap.eq_empty_iff_size_eq_zero.mpr empty] at present
    exact ExtTreeMap.not_mem_empty present
  rw [ExtTreeMap.size_erase, if_pos (ExtTreeMap.mem_iff_contains.mp present)]
  omega

variable [LawfulEqOrd K]

theorem get_insert [DecidableEq K] (key other : K) (value : V) :
    (map.insert key value)[other]? = if key = other then some value else map[other]? := by
  rw [ExtTreeMap.getElem?_insert]
  by_cases same : key = other
  · rw [if_pos (Std.compare_eq_iff_eq.mpr same), if_pos same]
  · rw [if_neg (mt Std.compare_eq_iff_eq.mp same), if_neg same]

theorem get_erase [DecidableEq K] (key other : K) :
    (map.erase key)[other]? = if key = other then none else map[other]? := by
  rw [ExtTreeMap.getElem?_erase]
  by_cases same : key = other
  · rw [if_pos (Std.compare_eq_iff_eq.mpr same), if_pos same]
  · rw [if_neg (mt Std.compare_eq_iff_eq.mp same), if_neg same]

/-- A key that is in the map keeps its value. -/
theorem insertIfNew_of_mem {key : K} (present : key ∈ map) (value : V) : map.insertIfNew key value = map := by
  ext other
  rw [ExtTreeMap.getElem?_insertIfNew, if_neg fun absent => absent.2 present]

theorem insertIfNew_of_notMem {key : K} (absent : key ∉ map) (value : V) :
    map.insertIfNew key value = map.insert key value := by
  ext other
  rw [ExtTreeMap.getElem?_insertIfNew, ExtTreeMap.getElem?_insert]
  by_cases same : compare key other = .eq
  · rw [if_pos ⟨same, absent⟩, if_pos same]
  · rw [if_neg fun both => same both.1, if_neg same]

theorem mem_insert {key other : K} : other ∈ set.insert key ↔ other = key ∨ other ∈ set := by
  rw [ExtTreeSet.mem_insert, Std.compare_eq_iff_eq, eq_comm]

theorem mem_erase {key other : K} : other ∈ set.erase key ↔ other ≠ key ∧ other ∈ set := by
  rw [ExtTreeSet.mem_erase, ne_eq, Std.compare_eq_iff_eq, ne_eq, eq_comm]

end TreeMap
