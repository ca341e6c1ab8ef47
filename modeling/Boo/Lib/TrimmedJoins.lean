/- module: Boo/Lib/TrimmedJoins
   digest: Lists joined from pieces, some of them left out, and when this shows behind a trimmed end. -/

import Mathlib.Data.List.DropRight

set_option autoImplicit false
set_option relaxedAutoImplicit false

namespace Boo.Lib.TrimmedJoins

variable {α ι : Type} {p : α → Bool} {front back whole : List α}

theorem rdropWhile_append : (front ++ back).rdropWhile p =
    if back.rdropWhile p = [] then front.rdropWhile p else front ++ back.rdropWhile p := by
  simp only [List.rdropWhile, List.reverse_append, List.dropWhile_append, List.isEmpty_iff,
    List.reverse_eq_nil_iff]
  split
  · rfl
  · rw [List.reverse_append, List.reverse_reverse]

theorem rdropWhile_append_cons {solid : α} (kept : p solid = false) :
    (front ++ solid :: back).rdropWhile p = front ++ solid :: back.rdropWhile p := by
  have last : [solid].rdropWhile p = [solid] := List.rdropWhile_concat_neg _ [] _ (by simp [kept])
  rw [← List.singleton_append, rdropWhile_append, rdropWhile_append, last]
  by_cases blank : back.rdropWhile p = []
  · simp [blank]
  · simp [blank]

/-- A weaker trim after a narrower one. -/
theorem rdropWhile_rdropWhile_of_imp {q : α → Bool} (weaker : ∀ a, q a = true → p a = true)
    (whole : List α) : (whole.rdropWhile q).rdropWhile p = whole.rdropWhile p := by
  have blank : (whole.rtakeWhile q).rdropWhile p = [] :=
    List.rdropWhile_eq_nil_iff.mpr fun a member => weaker a (List.mem_rtakeWhile_imp member)
  have cut : whole.rdropWhile q ++ whole.rtakeWhile q = whole := List.rdropWhile_append_rtakeWhile
  have trimmed := @rdropWhile_append _ p (whole.rdropWhile q) (whole.rtakeWhile q)
  rw [cut, if_pos blank] at trimmed
  exact trimmed.symm

theorem rdropWhile_append_cancel {other : List α} :
    (front ++ back).rdropWhile p = (front ++ other).rdropWhile p ↔
      back.rdropWhile p = other.rdropWhile p := by
  rw [rdropWhile_append, rdropWhile_append]
  have short := (List.rdropWhile_prefix p front).length_le
  by_cases none : back.rdropWhile p = [] <;> by_cases blank : other.rdropWhile p = []
  · rw [if_pos none, if_pos blank, none, blank]
    exact iff_of_true rfl rfl
  · have long := List.length_pos_iff.mpr blank
    rw [if_pos none, if_neg blank, none]
    refine iff_of_false (fun same => ?_) (Ne.symm blank)
    rw [same, List.length_append] at short
    omega
  · have long := List.length_pos_iff.mpr none
    rw [if_neg none, if_pos blank, blank]
    refine iff_of_false (fun same => ?_) none
    rw [← same, List.length_append] at short
    omega
  · rw [if_neg none, if_neg blank, List.append_cancel_left_eq]

theorem dropWhile_sublist_dropWhile (sub : List.Sublist front whole) :
    List.Sublist (front.dropWhile p) (whole.dropWhile p) := by
  induction sub with
  | slnil => exact List.Sublist.refl _
  | cons a sub ih =>
      rw [List.dropWhile_cons]
      split
      · exact ih
      · exact ((List.dropWhile_sublist p).trans sub).cons a
  | cons_cons a sub ih =>
      rw [List.dropWhile_cons, List.dropWhile_cons]
      split
      · exact ih
      · exact sub.cons_cons a

theorem rdropWhile_sublist_rdropWhile (sub : List.Sublist front whole) :
    List.Sublist (front.rdropWhile p) (whole.rdropWhile p) :=
  (dropWhile_sublist_dropWhile sub.reverse).reverse

section Pieces

theorem flatMap_filter_sublist (pieces : List ι) (piece : ι → List α) (kept : ι → Bool) :
    List.Sublist ((pieces.filter kept).flatMap piece) (pieces.flatMap piece) := by
  induction pieces with
  | nil => exact List.Sublist.refl _
  | cons first pieces ih =>
      rw [List.filter_cons, List.flatMap_cons]
      split
      · rw [List.flatMap_cons]
        exact ih.append_left _
      · exact ih.trans (List.sublist_append_right _ _)

variable {pieces : List ι} {piece : ι → List α} {kept : ι → Bool}

/-- Pieces that are not empty and left out show. -/
theorem flatMap_filter_iff (solid : ∀ own ∈ pieces, piece own ≠ []) :
    pieces.flatMap piece = (pieces.filter kept).flatMap piece ↔ ∀ own ∈ pieces, kept own := by
  constructor
  · intro same
    induction pieces with
    | nil => exact fun own member => absurd member List.not_mem_nil
    | cons first pieces ih =>
        have later : ∀ own ∈ pieces, piece own ≠ [] :=
          fun own member => solid own (List.mem_cons_of_mem _ member)
        rw [List.filter_cons, List.flatMap_cons] at same
        split at same
        · rename_i own
          rw [List.flatMap_cons, List.append_cancel_left_eq] at same
          exact List.forall_mem_cons.mpr ⟨own, ih later same⟩
        · have long := List.length_pos_iff.mpr (solid first List.mem_cons_self)
          have short := (flatMap_filter_sublist pieces piece kept).length_le
          rw [← same, List.length_append] at short
          omega
  · intro all
    rw [List.filter_eq_self.mpr all]

/-- Behind a trimmed end, pieces that are left out show unless from the first of them on there are
only trimmed elements. -/
theorem rdropWhile_flatMap_filter_iff (solid : ∀ own ∈ pieces, piece own ≠ []) :
    (pieces.flatMap piece).rdropWhile p = ((pieces.filter kept).flatMap piece).rdropWhile p ↔
      ∀ own ∈ pieces.dropWhile kept, ∀ a ∈ piece own, p a := by
  induction pieces with
  | nil => simp
  | cons first pieces ih =>
      have later : ∀ own ∈ pieces, piece own ≠ [] :=
        fun own member => solid own (List.mem_cons_of_mem _ member)
      rw [List.filter_cons, List.dropWhile_cons, List.flatMap_cons]
      by_cases keeps : kept first
      · rw [if_pos keeps, if_pos keeps, List.flatMap_cons, rdropWhile_append_cancel, ih later]
      · rw [if_neg keeps, if_neg keeps]
        have sub := rdropWhile_sublist_rdropWhile (p := p) (flatMap_filter_sublist pieces piece kept)
        constructor
        · intro same
          have blank : (pieces.flatMap piece).rdropWhile p = [] := by
            by_contra shows
            have long := List.length_pos_iff.mpr (solid first List.mem_cons_self)
            have short := sub.length_le
            rw [← same, rdropWhile_append, if_neg shows, List.length_append] at short
            omega
          rw [rdropWhile_append, if_pos blank] at same
          have own : (piece first).rdropWhile p = [] := by
            rw [same]
            exact List.eq_nil_of_sublist_nil (blank ▸ sub)
          rw [List.rdropWhile_eq_nil_iff] at own blank
          refine List.forall_mem_cons.mpr ⟨own, fun other member a inside => ?_⟩
          exact blank a (List.mem_flatMap.mpr ⟨other, member, inside⟩)
        · intro blank
          have all : ((piece first) ++ pieces.flatMap piece).rdropWhile p = [] := by
            rw [List.rdropWhile_eq_nil_iff]
            intro a inside
            obtain inside | inside := List.mem_append.mp inside
            · exact blank first List.mem_cons_self a inside
            · obtain ⟨other, member, inside⟩ := List.mem_flatMap.mp inside
              exact blank other (List.mem_cons_of_mem _ member) a inside
          have none : (pieces.flatMap piece).rdropWhile p = [] := by
            rw [List.rdropWhile_eq_nil_iff] at all ⊢
            exact fun a inside => all a (List.mem_append_right _ inside)
          rw [all]
          exact (List.eq_nil_of_sublist_nil (none ▸ sub)).symm

end Pieces

section Joining

variable {rows : List ι} {long short : ι → List α} (separator : List α)

theorem intercalate_sublist (sub : ∀ row ∈ rows, List.Sublist (short row) (long row)) :
    List.Sublist (separator.intercalate (rows.map short)) (separator.intercalate (rows.map long)) := by
  induction rows with
  | nil => exact List.Sublist.refl _
  | cons first rows ih =>
      have own := sub first List.mem_cons_self
      have later := ih fun row member => sub row (List.mem_cons_of_mem _ member)
      cases rows with
      | nil => simpa using own
      | cons second rows =>
          simp only [List.map_cons, List.intercalate_cons_cons] at later ⊢
          exact (own.append_right separator).append later

/-- Joined rows are the same exactly if the rows are, where all differences leave something out. -/
theorem intercalate_eq_iff (sub : ∀ row ∈ rows, List.Sublist (short row) (long row)) :
    separator.intercalate (rows.map long) = separator.intercalate (rows.map short) ↔
      ∀ row ∈ rows, long row = short row := by
  constructor
  · intro same
    induction rows with
    | nil => exact fun row member => absurd member List.not_mem_nil
    | cons first rows ih =>
        have own := sub first List.mem_cons_self
        have later : ∀ row ∈ rows, List.Sublist (short row) (long row) :=
          fun row member => sub row (List.mem_cons_of_mem _ member)
        have joined := intercalate_sublist separator later
        cases rows with
        | nil =>
            simp only [List.map_cons, List.map_nil, List.intercalate_singleton] at same
            exact List.forall_mem_singleton.mpr same
        | cons second rows =>
            simp only [List.map_cons, List.intercalate_cons_cons] at same joined ih
            have lengths := congrArg List.length same
            have short' := own.length_le
            have below := joined.length_le
            simp only [List.length_append] at lengths
            have equal : long first = short first := (own.eq_of_length (by omega)).symm
            rw [equal, List.append_cancel_left_eq] at same
            exact List.forall_mem_cons.mpr ⟨equal, ih later same⟩
  · intro equal
    rw [List.map_congr_left equal]

end Joining

end Boo.Lib.TrimmedJoins
