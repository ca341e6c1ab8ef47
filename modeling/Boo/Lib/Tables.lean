/- module: Boo/Lib/Tables
   digest: Finite maps as lists of entries, and when the order of insertion does not show. -/

import Mathlib.Data.List.Induction
import Mathlib.Data.List.Perm.Basic

set_option autoImplicit false
set_option relaxedAutoImplicit false

namespace Boo.Lib.Tables

variable {K V E : Type} [DecidableEq K]

/-- The entries with a value for `key`, in place of the one it had. -/
def insertEntry (key : K) (value : V) (entries : List (K × V)) : List (K × V) :=
  (key, value) :: entries.filter (·.1 ≠ key)

/-- The entries of a map, each key once. The order in which they stand says nothing. -/
structure Table (K V : Type) where
  entries : List (K × V)
  nodup : (entries.map Prod.fst).Nodup

namespace Table

def empty : Table K V := ⟨[], List.nodup_nil⟩

def insert (table : Table K V) (key : K) (value : V) : Table K V where
  entries := insertEntry key value table.entries
  nodup := by
    rw [insertEntry, List.map_cons, List.nodup_cons]
    constructor
    · intro member
      obtain ⟨entry, held, same⟩ := List.mem_map.mp member
      simp [same] at held
    · exact table.nodup.sublist ((List.filter_sublist).map _)

end Table

section Lookup

variable [BEq K] [LawfulBEq K]

theorem lookup_filter_ne {key other : K} (differs : other ≠ key) (entries : List (K × V)) :
    (entries.filter (·.1 ≠ key)).lookup other = entries.lookup other := by
  induction entries with
  | nil => rfl
  | cons entry entries ih =>
      obtain ⟨own, value⟩ := entry
      by_cases same : own = key
      · have skipped : (other == own) = false := by simp [same, differs]
        rw [List.filter_cons_of_neg (by simp [same]), ih, List.lookup_cons, skipped]
      · rw [List.filter_cons_of_pos (by simp [same]), List.lookup_cons, List.lookup_cons, ih]

theorem lookup_insertEntry (key other : K) (value : V) (entries : List (K × V)) :
    (insertEntry key value entries).lookup other =
      if other = key then some value else entries.lookup other := by
  rw [insertEntry, List.lookup_cons]
  by_cases same : other = key
  · simp [same]
  · have skipped : (other == key) = false := by simp [same]
    rw [skipped, if_neg same]
    exact lookup_filter_ne same entries

omit [DecidableEq K] in
theorem mem_of_lookup {entries : List (K × V)} {key : K} {value : V}
    (found : entries.lookup key = some value) : (key, value) ∈ entries := by
  obtain ⟨before, after, rfl, -⟩ := List.lookup_eq_some_iff.mp found
  exact List.mem_append_right _ List.mem_cons_self

end Lookup

section Orders

variable [BEq K] [LawfulBEq K]

/-- The entries after some insertions, the last one last. -/
def build (pairs : List (K × V)) : List (K × V) :=
  pairs.foldl (fun entries pair => insertEntry pair.1 pair.2 entries) []

/-- No key has two values. -/
def Functional (pairs : List (K × V)) : Prop :=
  ∀ key first second, (key, first) ∈ pairs → (key, second) ∈ pairs → first = second

omit [DecidableEq K] [BEq K] [LawfulBEq K] in
theorem Functional.of_perm {pairs other : List (K × V)} (functional : Functional pairs)
    (perm : other.Perm pairs) : Functional other :=
  fun key first second one two =>
    functional key first second (perm.mem_iff.mp one) (perm.mem_iff.mp two)

theorem lookup_build_concat (pairs : List (K × V)) (pair : K × V) (key : K) :
    (build (pairs ++ [pair])).lookup key =
      if key = pair.1 then some pair.2 else (build pairs).lookup key := by
  rw [build, List.foldl_append, List.foldl_cons, List.foldl_nil, lookup_insertEntry, ← build]

/-- What is found was inserted. -/
theorem mem_of_lookup_build {pairs : List (K × V)} {key : K} {value : V}
    (found : (build pairs).lookup key = some value) : (key, value) ∈ pairs := by
  induction pairs using List.reverseRecOn with
  | nil => cases found
  | append_singleton pairs pair ih =>
      rw [lookup_build_concat] at found
      split at found
      · rename_i same
        cases found
        rw [same]
        exact List.mem_append_right _ List.mem_cons_self
      · exact List.mem_append_left _ (ih found)

omit [BEq K] [LawfulBEq K] in
theorem mem_of_mem_build {pairs : List (K × V)} {entry : K × V} (held : entry ∈ build pairs) :
    entry ∈ pairs := by
  induction pairs using List.reverseRecOn with
  | nil => cases held
  | append_singleton pairs pair ih =>
      rw [build, List.foldl_append, List.foldl_cons, List.foldl_nil, ← build, insertEntry] at held
      rcases List.mem_cons.mp held with rfl | earlier
      · exact List.mem_append_right _ List.mem_cons_self
      · exact List.mem_append_left _ (ih (List.mem_of_mem_filter earlier))

theorem isSome_lookup_build {pairs : List (K × V)} {key : K} {value : V}
    (member : (key, value) ∈ pairs) : ((build pairs).lookup key).isSome := by
  induction pairs using List.reverseRecOn with
  | nil => cases member
  | append_singleton pairs pair ih =>
      rw [lookup_build_concat]
      split
      · rfl
      · rename_i differs
        rcases List.mem_append.mp member with early | late
        · exact ih early
        · obtain rfl := List.mem_singleton.mp late
          exact absurd rfl differs

theorem lookup_build_iff {pairs : List (K × V)} (functional : Functional pairs) {key : K}
    {value : V} : (build pairs).lookup key = some value ↔ (key, value) ∈ pairs := by
  constructor
  · exact mem_of_lookup_build
  · intro member
    obtain ⟨other, found⟩ := Option.isSome_iff_exists.mp (isSome_lookup_build member)
    rw [found, functional key other value (mem_of_lookup_build found) member]

/-- Entries whose keys all differ stay when they are inserted one after the other. -/
theorem mem_build_iff {pairs : List (K × V)} (functional : Functional pairs) {entry : K × V} :
    entry ∈ build pairs ↔ entry ∈ pairs := by
  constructor
  · exact mem_of_mem_build
  · intro member
    exact mem_of_lookup ((lookup_build_iff functional).mpr member)

/-- The order of the insertions does not show exactly when no key gets two values. -/
theorem lookup_build_perm_iff (f : E → Option (K × V)) (entries : List E) :
    (∀ order : List E, order.Perm entries → ∀ key,
      (build (order.filterMap f)).lookup key = (build (entries.filterMap f)).lookup key) ↔
    Functional (entries.filterMap f) := by
  constructor
  · intro same key first second one two
    have last (value : V) (member : (key, value) ∈ entries.filterMap f) :
        (build (entries.filterMap f)).lookup key = some value := by
      obtain ⟨entry, held, isPair⟩ := List.mem_filterMap.mp member
      obtain ⟨before, after, rfl⟩ := List.append_of_mem held
      have moved : (before ++ after ++ [entry]).Perm (before ++ entry :: after) :=
        (List.perm_append_singleton entry _).trans List.perm_middle.symm
      have found := same _ moved key
      rw [List.filterMap_append, List.filterMap_cons_some isPair, List.filterMap_nil,
        lookup_build_concat, if_pos rfl] at found
      exact found.symm
    exact Option.some.inj ((last first one).symm.trans (last second two))
  · intro functional order perm key
    have other := functional.of_perm (perm.filterMap f)
    apply Option.ext
    intro value
    rw [lookup_build_iff other, lookup_build_iff functional]
    exact (perm.filterMap f).mem_iff

end Orders

end Boo.Lib.Tables
