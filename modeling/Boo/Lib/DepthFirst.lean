/- module: Boo/Lib/DepthFirst
   digest: What a depth-first visit adds to the nodes it has seen. -/

import Mathlib.Logic.Relation
import Mathlib.Data.Set.Insert

set_option autoImplicit false
set_option relaxedAutoImplicit false

namespace Boo.Lib.DepthFirst

variable {N : Type} (next : N → List N)

/-- `node` can be reached from `start` along the edges. -/
def Reaches (start node : N) : Prop := Relation.ReflTransGen (fun a b => b ∈ next a) start node

/-- The nodes that are new in `after` have all their successors there. The successors of a node
that was in `before` may still be on the stack of the visit. -/
def ClosedSince (before after : Set N) : Prop :=
  ∀ node ∈ after, node ∉ before → ∀ successor ∈ next node, successor ∈ after

/-- A visit of `roots` that had seen `before` and ends having seen `after`. -/
structure Explored (before : Set N) (roots : List N) (after : Set N) : Prop where
  grows : before ⊆ after
  finds : ∀ root ∈ roots, root ∈ after
  closed : ClosedSince next before after
  reached : ∀ node ∈ after, node ∉ before → ∃ root ∈ roots, Reaches next root node

variable {next} {before between after : Set N}

theorem explored_nil (seen : Set N) : Explored next seen [] seen where
  grows := subset_rfl
  finds := by simp
  closed := fun _ member new => absurd member new
  reached := fun _ member new => absurd member new

/-- A node that was seen is not visited again. -/
theorem explored_seen {node : N} (seen : node ∈ before) : Explored next before [node] before where
  grows := subset_rfl
  finds := by simpa using seen
  closed := fun _ member new => absurd member new
  reached := fun _ member new => absurd member new

theorem Explored.append {first later : List N} (start : Explored next before first between)
    (rest : Explored next between later after) : Explored next before (first ++ later) after where
  grows := start.grows.trans rest.grows
  finds := by
    intro root member
    rcases List.mem_append.mp member with early | late
    · exact rest.grows (start.finds root early)
    · exact rest.finds root late
  closed := by
    intro node member new successor edge
    by_cases early : node ∈ between
    · exact rest.grows (start.closed node early new successor edge)
    · exact rest.closed node member early successor edge
  reached := by
    intro node member new
    by_cases early : node ∈ between
    · obtain ⟨root, among, path⟩ := start.reached node early new
      exact ⟨root, List.mem_append_left _ among, path⟩
    · obtain ⟨root, among, path⟩ := rest.reached node member early
      exact ⟨root, List.mem_append_right _ among, path⟩

/-- A new node is marked first, then its successors are visited. -/
theorem explored_node {node : N} (rest : Explored next (insert node before) (next node) after) :
    Explored next before [node] after where
  grows := (Set.subset_insert node before).trans rest.grows
  finds := by
    simpa using rest.grows (Set.mem_insert node before)
  closed := by
    intro other member new successor edge
    by_cases same : other = node
    · subst same
      exact rest.finds successor edge
    · exact rest.closed other member (by simp [same, new]) successor edge
  reached := by
    intro other member new
    refine ⟨node, List.mem_singleton_self node, ?_⟩
    by_cases same : other = node
    · subst same
      exact .refl
    · obtain ⟨root, edge, path⟩ := rest.reached other member (by simp [same, new])
      exact .head edge path

/-- From nothing seen, a visit of one node sees what the node reaches. -/
theorem Explored.mem_iff {start : N} (whole : Explored next ∅ [start] after) (node : N) :
    node ∈ after ↔ Reaches next start node := by
  constructor
  · intro member
    obtain ⟨root, among, path⟩ := whole.reached node member (Set.notMem_empty node)
    rw [List.mem_singleton.mp among] at path
    exact path
  · intro path
    induction path with
    | refl => exact whole.finds start (List.mem_singleton_self start)
    | tail _ edge ih => exact whole.closed _ ih (Set.notMem_empty _) _ edge

end Boo.Lib.DepthFirst
