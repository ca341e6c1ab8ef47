/- module: Boo/Lib/OrderedMap
   digest: A finite map kept in key order, with a limit that drops its smallest keys. -/

import Mathlib.Data.Finset.Card
import Mathlib.Data.List.Basic
import Mathlib.Order.Defs.LinearOrder

set_option autoImplicit false
set_option relaxedAutoImplicit false

namespace Boo.Lib.OrderedMap

scoped instance linearOrderUInt64 : LinearOrder UInt64 where
  le_refl := fun a => UInt64.le_refl a
  le_trans := fun _ _ _ => UInt64.le_trans
  le_antisymm := fun _ _ => UInt64.le_antisymm
  le_total := fun a b => UInt64.le_total a b
  lt_iff_le_not_ge := fun a b => by
    simp only [UInt64.lt_iff_toNat_lt, UInt64.le_iff_toNat_le]
    omega
  toDecidableLE := inferInstance
  toDecidableEq := inferInstance
  toDecidableLT := inferInstance

/-- Entries in strictly increasing order of their keys. -/
structure SortedMap (K V : Type) [LinearOrder K] where
  entries : List (K × V)
  sorted : entries.Pairwise fun first later => first.1 < later.1

namespace SortedMap

variable {K V : Type} [LinearOrder K]

def empty : SortedMap K V := ⟨[], List.Pairwise.nil⟩

def find? (map : SortedMap K V) (key : K) : Option V :=
  (map.entries.find? fun entry => entry.1 = key).map Prod.snd

def size (map : SortedMap K V) : Nat := map.entries.length

def insertEntry (key : K) (value : V) : List (K × V) → List (K × V)
  | [] => [(key, value)]
  | entry :: entries =>
      if key < entry.1 then (key, value) :: entry :: entries
      else if key = entry.1 then (key, value) :: entries
      else entry :: insertEntry key value entries

theorem key_insertEntry {key : K} {value : V} {entries : List (K × V)} {entry : K × V}
    (member : entry ∈ insertEntry key value entries) : entry.1 = key ∨ entry ∈ entries := by
  induction entries with
  | nil => exact .inl (congrArg Prod.fst (List.mem_singleton.mp member))
  | cons first entries ih =>
      unfold insertEntry at member
      split at member
      · rcases List.mem_cons.mp member with same | old
        · exact .inl (congrArg Prod.fst same)
        · exact .inr old
      · split at member
        · rcases List.mem_cons.mp member with same | old
          · exact .inl (congrArg Prod.fst same)
          · exact .inr (List.mem_cons_of_mem _ old)
        · rcases List.mem_cons.mp member with same | old
          · exact .inr (same ▸ List.mem_cons_self)
          · exact (ih old).imp id (List.mem_cons_of_mem _)

theorem sorted_insertEntry (key : K) (value : V) {entries : List (K × V)}
    (sorted : entries.Pairwise fun first later => first.1 < later.1) :
    (insertEntry key value entries).Pairwise fun first later => first.1 < later.1 := by
  induction entries with
  | nil => exact List.pairwise_singleton _ _
  | cons first entries ih =>
      obtain ⟨below, tail⟩ := List.pairwise_cons.mp sorted
      unfold insertEntry
      split
      · rename_i before
        refine List.pairwise_cons.mpr ⟨fun entry member => ?_, sorted⟩
        rcases List.mem_cons.mp member with rfl | later
        · exact before
        · exact before.trans (below entry later)
      · rename_i notBefore
        split
        · rename_i same
          exact List.pairwise_cons.mpr ⟨fun entry member => same ▸ below entry member, tail⟩
        · rename_i different
          have after : first.1 < key :=
            lt_of_le_of_ne (not_lt.mp notBefore) (Ne.symm different)
          refine List.pairwise_cons.mpr ⟨fun entry member => ?_, ih tail⟩
          rcases key_insertEntry member with same | old
          · exact same ▸ after
          · exact below entry old

def insert (map : SortedMap K V) (key : K) (value : V) : SortedMap K V :=
  ⟨insertEntry key value map.entries, sorted_insertEntry key value map.sorted⟩

def insertAll (map : SortedMap K V) (rows : List (K × V)) : SortedMap K V :=
  rows.foldl (fun map row => map.insert row.1 row.2) map

/-- The entries with the `max` largest keys. -/
def keepLargest (max : Nat) (map : SortedMap K V) : SortedMap K V :=
  ⟨map.entries.drop (map.size - max), map.sorted.sublist (List.drop_sublist _ _)⟩

def keys (map : SortedMap K V) : Finset K := (map.entries.map Prod.fst).toFinset

private theorem find?_insertEntry (key other : K) (value : V) (entries : List (K × V)) :
    ((insertEntry key value entries).find? fun entry => entry.1 = other).map Prod.snd =
      if other = key then some value
      else (entries.find? fun entry => entry.1 = other).map Prod.snd := by
  induction entries with
  | nil => by_cases same : other = key <;> simp [insertEntry, same, eq_comm]
  | cons first entries ih =>
      unfold insertEntry
      split
      · by_cases same : other = key <;> simp [same, eq_comm]
      · split
        · rename_i here
          by_cases same : other = key
          · simp [same]
          · have elsewhere : first.1 ≠ other := fun this => same (this ▸ here.symm)
            have elsewhere' : key ≠ other := Ne.symm same
            simp [same, elsewhere, elsewhere']
        · rename_i different
          by_cases here : first.1 = other
          · have same : other ≠ key := fun this => different (this ▸ here.symm)
            simp [here, same]
          · rw [List.find?_cons_of_neg (by simpa using here),
              List.find?_cons_of_neg (by simpa using here), ih]

@[simp] theorem find?_insert (map : SortedMap K V) (key other : K) (value : V) :
    (map.insert key value).find? other = if other = key then some value else map.find? other :=
  find?_insertEntry key other value map.entries

theorem find?_eq_some_iff {map : SortedMap K V} {key : K} {value : V} :
    map.find? key = some value ↔ (key, value) ∈ map.entries := by
  obtain ⟨entries, sorted⟩ := map
  show (entries.find? fun entry => entry.1 = key).map Prod.snd = some value ↔ _ ∈ entries
  induction entries with
  | nil => simp
  | cons first entries ih =>
      obtain ⟨below, tail⟩ := List.pairwise_cons.mp sorted
      by_cases here : first.1 = key
      · rw [List.find?_cons_of_pos (by simpa using here), Option.map_some, List.mem_cons]
        constructor
        · intro same
          exact .inl (Prod.ext here.symm (Option.some.inj same).symm)
        · rintro (same | later)
          · rw [← same]
          · exact absurd here (ne_of_lt (below _ later))
      · rw [List.find?_cons_of_neg (by simpa using here), ih tail, List.mem_cons]
        constructor
        · exact .inr
        · rintro (same | later)
          · exact absurd (congrArg Prod.fst same).symm here
          · exact later

theorem mem_keys {map : SortedMap K V} {key : K} : key ∈ map.keys ↔ (map.find? key).isSome := by
  rw [keys, List.mem_toFinset, List.mem_map, Option.isSome_iff_exists]
  constructor
  · rintro ⟨⟨_, value⟩, member, rfl⟩
    exact ⟨value, find?_eq_some_iff.mpr member⟩
  · rintro ⟨value, found⟩
    exact ⟨(key, value), find?_eq_some_iff.mp found, rfl⟩

/-- The value of the last row with this key. -/
def lastOf (rows : List (K × V)) (key : K) : Option V :=
  (rows.reverse.find? fun row => row.1 = key).map Prod.snd

theorem mem_of_lastOf {rows : List (K × V)} {key : K} {value : V}
    (last : lastOf rows key = some value) : (key, value) ∈ rows := by
  obtain ⟨row, found, rfl⟩ := Option.map_eq_some_iff.mp last
  have same : row.1 = key := by simpa using List.find?_some found
  rw [← same]
  exact List.mem_reverse.mp (List.mem_of_find?_eq_some found)

theorem find?_insertAll (map : SortedMap K V) (rows : List (K × V)) (key : K) :
    (map.insertAll rows).find? key = (lastOf rows key).or (map.find? key) := by
  induction rows generalizing map with
  | nil => rfl
  | cons row rows ih =>
      show ((map.insert row.1 row.2).insertAll rows).find? key = _
      rw [ih, find?_insert, lastOf, lastOf, List.reverse_cons, List.find?_append]
      cases later : rows.reverse.find? fun row => decide (row.1 = key) with
      | some found => simp
      | none => by_cases here : key = row.1 <;> simp [here, eq_comm]

theorem keys_insertAll (map : SortedMap K V) (rows : List (K × V)) :
    (map.insertAll rows).keys = map.keys ∪ (rows.map Prod.fst).toFinset := by
  ext key
  rw [mem_keys, find?_insertAll, Finset.mem_union, mem_keys, List.mem_toFinset, Option.isSome_or,
    Bool.or_eq_true, or_comm, lastOf, Option.isSome_map, List.find?_isSome]
  simp

theorem card_above (map : SortedMap K V) (key : K) :
    (map.keys.filter (key < ·)).card =
      (map.entries.filter fun entry => key < entry.1).length := by
  have distinct : ((map.entries.map Prod.fst).filter (key < ·)).Nodup := by
    refine List.Nodup.filter _ (List.Pairwise.map Prod.fst ?_ map.sorted)
    exact fun first later before => ne_of_lt before
  have filtered : map.keys.filter (key < ·) =
      ((map.entries.map Prod.fst).filter (key < ·)).toFinset := by
    ext other
    simp [keys]
  rw [filtered, List.toFinset_card_of_nodup distinct, List.filter_map, List.length_map]
  rfl

/-- An entry stays exactly when fewer than `max` keys are larger. -/
theorem find?_keepLargest (max : Nat) (map : SortedMap K V) (key : K) :
    (map.keepLargest max).find? key =
      if (map.keys.filter (key < ·)).card < max then map.find? key else none := by
  have parts : map.entries.take (map.size - max) ++ (map.keepLargest max).entries = map.entries :=
    List.take_append_drop _ _
  have above := card_above map key
  rw [← parts, List.filter_append, List.length_append] at above
  have kept : (map.keepLargest max).entries.length = map.size - (map.size - max) :=
    List.length_drop
  have ordered := map.sorted
  rw [← parts, List.pairwise_append] at ordered
  obtain ⟨-, -, across⟩ := ordered
  cases found : map.find? key with
  | none =>
      have missing : (map.keepLargest max).find? key = none := by
        cases held : (map.keepLargest max).find? key with
        | none => rfl
        | some value =>
            have member := List.mem_of_mem_drop (find?_eq_some_iff.mp held)
            rw [find?_eq_some_iff.mpr member] at found
            cases found
      rw [missing, ite_self]
  | some value =>
      have member := find?_eq_some_iff.mp found
      rw [← parts, List.mem_append] at member
      rcases member with dropped | stays
      · -- all kept keys are larger than a dropped one
        have all : (map.keepLargest max).entries.filter (fun entry => key < entry.1) =
            (map.keepLargest max).entries := by
          rw [List.filter_eq_self]
          exact fun entry later => decide_eq_true (across _ dropped _ later)
        have some_ : 0 < (map.entries.take (map.size - max)).length :=
          List.length_pos_of_mem dropped
        rw [List.length_take] at some_
        rw [all, kept] at above
        rw [if_neg (by omega)]
        cases held : (map.keepLargest max).find? key with
        | none => rfl
        | some other =>
            exact absurd (across _ dropped _ (find?_eq_some_iff.mp held)) (lt_irrefl _)
      · -- only kept keys are larger, and not this one
        have none_ : (map.entries.take (map.size - max)).filter (fun entry => key < entry.1) =
            [] := by
          rw [List.filter_eq_nil_iff]
          intro entry early
          have before : entry.1 < key := across _ early _ stays
          simpa using before.le
        have fewer : ((map.keepLargest max).entries.filter fun entry => key < entry.1).length <
            (map.keepLargest max).entries.length := by
          rw [List.length_filter_lt_length_iff_exists]
          exact ⟨_, stays, by simp⟩
        rw [none_, List.length_nil, Nat.zero_add] at above
        rw [if_pos (by omega), find?_eq_some_iff.mpr stays]

/-- What a bounded map holds after some rows was among them, or was there before. -/
theorem find?_insertAll_keepLargest {max : Nat} {map : SortedMap K V} {rows : List (K × V)}
    {key : K} {value : V}
    (found : ((map.insertAll rows).keepLargest max).find? key = some value) :
    (key, value) ∈ rows ∨ map.find? key = some value := by
  rw [find?_keepLargest] at found
  split at found
  · rw [find?_insertAll, Option.or_eq_some_iff] at found
    rcases found with last | ⟨-, old⟩
    · exact .inl (mem_of_lastOf last)
    · exact .inr old
  · cases found

end SortedMap

end Boo.Lib.OrderedMap
