/- module: Boo/Runtime/LeafRemoval
   digest: A removed leaf takes its parent split with it and leaves every other split in place. -/

import Boo.Runtime.SplitContexts

set_option autoImplicit false
set_option relaxedAutoImplicit false

namespace Boo.Runtime.LeafRemoval

open Boo.Runtime.Splits hiding removeLeaf
open Boo.Runtime.Leaves
open Boo.Runtime.SplitContexts

inductive RemoveResult
  | removed (pane : LivePane) (remaining : Option Node)
  | notFound (node : Node)

/-- `remove_leaf` with the tree that a failed search gives back. -/
def removeLeaf (target : LeafId) : Node → RemoveResult
  | .leaf id pane => if id = target then .removed pane none else .notFound (.leaf id pane)
  | .split direction ratio first second =>
      match removeLeaf target first with
      | .removed pane (some remainingFirst) =>
          .removed pane (some (.split direction ratio remainingFirst second))
      | .removed pane none => .removed pane (some second)
      | .notFound firstNode =>
          match removeLeaf target second with
          | .removed pane (some remainingSecond) =>
              .removed pane (some (.split direction ratio firstNode remainingSecond))
          | .removed pane none => .removed pane (some firstNode)
          | .notFound secondNode => .notFound (.split direction ratio firstNode secondNode)

/-- What is left of a tree: nothing of a single leaf, else the tree with the parent split of the
leaf replaced by the sibling. -/
inductive Spliced (target : LeafId) (pane : LivePane) : Node → Option Node → Prop
  | only : Spliced target pane (.leaf target pane) none
  | parent (context : Context) (layer : Layer) :
      Spliced target pane (plug context (layer.fill (.leaf target pane)))
        (some (plug context layer.sibling))

variable {target : LeafId} {pane : LivePane} {node : Node} {remaining : Option Node}

theorem Spliced.under (layer : Layer) {rest : Node}
    (spliced : Spliced target pane node (some rest)) :
    Spliced target pane (layer.fill node) (some (layer.fill rest)) := by
  cases spliced with
  | parent context inner => exact .parent (layer :: context) inner

/-- The leaves that stay keep their order. -/
theorem Spliced.leaves (spliced : Spliced target pane node remaining) :
    ∃ before after, collectLeaves node = before ++ (target, pane) :: after ∧
      leavesOf remaining = before ++ after := by
  cases spliced with
  | only => exact ⟨[], [], rfl, rfl⟩
  | parent context layer =>
      obtain ⟨before, after, leaves⟩ := leaves_plug context
      obtain ⟨direction, ratio, second, sibling⟩ := layer
      rw [leavesOf, Option.map_some, Option.getD_some, leaves, leaves]
      cases second with
      | false =>
          refine ⟨before, collectLeaves sibling ++ after, ?_, by rw [List.append_assoc]⟩
          rw [fill_first, collectLeaves, collectLeaves]
          simp only [List.append_assoc, List.cons_append, List.nil_append]
      | true =>
          refine ⟨before ++ collectLeaves sibling, after, ?_, rfl⟩
          rw [fill_second, collectLeaves, collectLeaves]
          simp only [List.append_assoc, List.cons_append, List.nil_append]

/-- The tree operations read the result without the tree that a failed search gives back. -/
theorem removeLeaf_eq (target : LeafId) (node : Node) :
    removeLeaf target node = match Splits.removeLeaf target node with
      | some (pane, remaining) => .removed pane remaining
      | none => .notFound node := by
  induction node with
  | leaf id pane =>
      rw [removeLeaf, Splits.removeLeaf]
      split <;> rfl
  | split direction ratio first second ihFirst ihSecond =>
      rw [removeLeaf, Splits.removeLeaf, ihFirst, ihSecond]
      rcases Splits.removeLeaf target first with _ | ⟨pane, _ | remaining⟩
      · rcases Splits.removeLeaf target second with _ | ⟨pane, _ | remaining⟩ <;> rfl
      · rfl
      · rfl

/-- A removal that succeeds takes the leaf and its parent split, and nothing else. -/
theorem spliced_of_removeLeaf (removed : Splits.removeLeaf target node = some (pane, remaining)) :
    Spliced target pane node remaining := by
  induction node generalizing remaining with
  | leaf id old =>
      rw [Splits.removeLeaf] at removed
      split at removed
      · rename_i same
        subst same
        cases removed
        exact .only
      · cases removed
  | split direction ratio first second ihFirst ihSecond =>
      rw [Splits.removeLeaf] at removed
      split at removed
      · rename_i found
        cases removed
        exact (ihFirst found).under ⟨direction, ratio, false, second⟩
      · rename_i found
        cases removed
        obtain rfl := eq_leaf_of_removeLeaf found
        exact .parent [] ⟨direction, ratio, false, second⟩
      · split at removed
        · rename_i found
          cases removed
          exact (ihSecond found).under ⟨direction, ratio, true, first⟩
        · rename_i found
          cases removed
          obtain rfl := eq_leaf_of_removeLeaf found
          exact .parent [] ⟨direction, ratio, true, first⟩
        · cases removed

/-- A removal is local: the leaf's pane comes back, the other leaves keep their order, the
parent split gives way to the sibling and every other split stays as and where it is; without
such a leaf the tree comes back as it was. -/
theorem removeLeaf_local (target : LeafId) (node : Node) (distinct : (collectLeafIds node).Nodup) :
    (target ∈ collectLeafIds node → ∃ pane remaining,
      removeLeaf target node = .removed pane remaining ∧
      (target, pane) ∈ collectLeaves node ∧
      leavesOf remaining = (collectLeaves node).filter (·.1 ≠ target) ∧
      Spliced target pane node remaining) ∧
    (target ∉ collectLeafIds node → removeLeaf target node = .notFound node) := by
  constructor
  · intro member
    have present : Splits.removeLeaf target node ≠ none := fun missing =>
      removeLeaf_eq_none_iff.mp missing member
    obtain ⟨⟨pane, remaining⟩, removed⟩ := Option.ne_none_iff_exists'.mp present
    have spliced := spliced_of_removeLeaf removed
    obtain ⟨before, after, whole, rest⟩ := spliced.leaves
    refine ⟨pane, remaining, by rw [removeLeaf_eq, removed], ?_, ?_, spliced⟩
    · rw [whole]
      exact List.mem_append_right _ List.mem_cons_self
    · rw [← map_fst_collectLeaves, whole, List.map_append, List.map_cons, List.nodup_middle,
        List.nodup_cons, List.mem_append, not_or] at distinct
      have others : ∀ leaves : List (LeafId × LivePane), target ∉ leaves.map Prod.fst →
          leaves.filter (·.1 ≠ target) = leaves := by
        intro leaves foreign
        apply List.filter_eq_self.mpr
        intro leaf held
        exact decide_eq_true fun same => foreign (same ▸ List.mem_map_of_mem held)
      rw [rest, whole, List.filter_append, List.filter_cons_of_neg (by simp),
        others before distinct.1.1, others after distinct.1.2]
  · intro missing
    rw [removeLeaf_eq, removeLeaf_eq_none_iff.mpr missing]

/-- A leaf between two others, below another split. -/
def nested : Node :=
  .split .horizontal (1 / 2) (.leaf 0 ⟨1, live_one⟩)
    (.split .horizontal (2 / 5) (.split .vertical (3 / 5) (.leaf 1 ⟨2, live_two⟩)
      (.leaf 2 ⟨3, live_three⟩)) (.leaf 3 ⟨4, live_four⟩))

theorem removeLeaf_local_nested : ∃ pane remaining,
    removeLeaf 2 nested = .removed pane remaining ∧ (2, pane) ∈ collectLeaves nested ∧
      leavesOf remaining = (collectLeaves nested).filter (·.1 ≠ 2) ∧
      Spliced 2 pane nested remaining :=
  (removeLeaf_local 2 nested (by decide)).1 (by decide)

end Boo.Runtime.LeafRemoval
