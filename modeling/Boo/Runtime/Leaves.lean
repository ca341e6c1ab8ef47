/- module: Boo/Runtime/Leaves
   digest: The leaves of a split tree, and what each operation does to the ids and the panes. -/

import Boo.Runtime.Splits
import Mathlib.Data.List.Nodup
import Mathlib.Data.List.Range

set_option autoImplicit false
set_option relaxedAutoImplicit false

namespace Boo.Runtime.Leaves

open Boo.Server.Frames
open Boo.Runtime.Splits

/-- The leaves in order, each with its pane. -/
def collectLeaves : Node → List (LeafId × LivePane)
  | .leaf id pane => [(id, pane)]
  | .split _ _ first second => collectLeaves first ++ collectLeaves second

/-- The leaves that a removal leaves behind. -/
def leavesOf (root : Option Node) : List (LeafId × LivePane) := (root.map collectLeaves).getD []

section Nodes

variable {node : Node} {target newId : LeafId} {pane : LivePane}

theorem map_fst_collectLeaves (node : Node) :
    (collectLeaves node).map Prod.fst = collectLeafIds node := by
  induction node with
  | leaf id pane => rfl
  | split direction ratio first second ihFirst ihSecond =>
      rw [collectLeaves, collectLeafIds, List.map_append, ihFirst, ihSecond]

theorem map_snd_collectLeaves (node : Node) :
    (collectLeaves node).map Prod.snd = collectPanes node := by
  induction node with
  | leaf id pane => rfl
  | split direction ratio first second ihFirst ihSecond =>
      rw [collectLeaves, collectPanes, List.map_append, ihFirst, ihSecond]

theorem length_collectLeaves (node : Node) : (collectLeaves node).length = countLeaves node := by
  induction node with
  | leaf id pane => rfl
  | split direction ratio first second ihFirst ihSecond =>
      rw [collectLeaves, countLeaves, List.length_append, ihFirst, ihSecond]

theorem findLeaf_eq_find? (target : LeafId) (node : Node) :
    findLeaf target node = ((collectLeaves node).find? (·.1 = target)).map Prod.snd := by
  induction node with
  | leaf id pane =>
      rw [findLeaf, collectLeaves]
      by_cases same : id = target <;> simp [same]
  | split direction ratio first second ihFirst ihSecond =>
      rw [findLeaf, collectLeaves, List.find?_append, Option.map_or, ihFirst, ihSecond]

theorem findLeafIdByPane_eq_find? (paneId : PaneId) (node : Node) :
    findLeafIdByPane paneId node =
      ((collectLeaves node).find? (·.2.val = paneId)).map Prod.fst := by
  induction node with
  | leaf id pane =>
      rw [findLeafIdByPane, collectLeaves]
      by_cases same : pane.val = paneId <;> simp [same]
  | split direction ratio first second ihFirst ihSecond =>
      rw [findLeafIdByPane, collectLeaves, List.find?_append, Option.map_or, ihFirst, ihSecond]

theorem splitNode_foreign (direction : Direction) (pane : LivePane) (ratio : ℚ)
    (foreign : target ∉ collectLeafIds node) :
    splitNodeWithRatio target direction newId pane ratio node = node := by
  induction node with
  | leaf id old =>
      rw [collectLeafIds, List.mem_singleton] at foreign
      rw [splitNodeWithRatio, if_neg (Ne.symm foreign)]
  | split existing existingRatio first second ihFirst ihSecond =>
      rw [collectLeafIds, List.mem_append, not_or] at foreign
      rw [splitNodeWithRatio, ihFirst foreign.1, ihSecond foreign.2]

/-- A split of a leaf adds the new leaf, once. -/
theorem leaves_splitNode (direction : Direction) (pane : LivePane) (ratio : ℚ)
    (distinct : (collectLeafIds node).Nodup) (member : target ∈ collectLeafIds node) :
    (collectLeaves (splitNodeWithRatio target direction newId pane ratio node)).Perm
      ((newId, pane) :: collectLeaves node) := by
  induction node with
  | leaf id old =>
      rw [collectLeafIds, List.mem_singleton] at member
      rw [splitNodeWithRatio, if_pos member.symm]
      exact List.Perm.swap _ _ _
  | split existing existingRatio first second ihFirst ihSecond =>
      rw [collectLeafIds, List.nodup_append] at distinct
      obtain ⟨firstDistinct, secondDistinct, apart⟩ := distinct
      rw [collectLeafIds, List.mem_append] at member
      rw [splitNodeWithRatio, collectLeaves, collectLeaves]
      rcases member with member | member
      · have other : target ∉ collectLeafIds second := fun held => apart _ member _ held rfl
        rw [splitNode_foreign direction pane ratio other]
        exact (ihFirst firstDistinct member).append_right _
      · have other : target ∉ collectLeafIds first := fun held => apart _ held _ member rfl
        rw [splitNode_foreign direction pane ratio other]
        exact ((ihSecond secondDistinct member).append_left _).trans List.perm_middle

theorem removeLeaf_eq_none_iff : removeLeaf target node = none ↔ target ∉ collectLeafIds node := by
  induction node with
  | leaf id old => simp [removeLeaf, collectLeafIds, eq_comm]
  | split direction ratio first second ihFirst ihSecond =>
      rw [removeLeaf, collectLeafIds, List.mem_append, not_or, ← ihFirst, ← ihSecond]
      constructor
      · intro missing
        split at missing
        · cases missing
        · cases missing
        · rename_i firstMissing
          split at missing
          · cases missing
          · cases missing
          · rename_i secondMissing
            exact ⟨firstMissing, secondMissing⟩
      · rintro ⟨firstMissing, secondMissing⟩
        rw [firstMissing, secondMissing]

/-- A removal takes one leaf with the target's id and keeps the others. -/
theorem leaves_removeLeaf {remaining : Option Node}
    (removed : removeLeaf target node = some (pane, remaining)) :
    (collectLeaves node).Perm ((target, pane) :: leavesOf remaining) := by
  induction node generalizing remaining with
  | leaf id old =>
      rw [removeLeaf] at removed
      split at removed
      · rename_i same
        cases removed
        rw [same]
        exact List.Perm.refl _
      · cases removed
  | split direction ratio first second ihFirst ihSecond =>
      rw [removeLeaf] at removed
      rw [collectLeaves]
      split at removed
      · rename_i found
        cases removed
        exact (ihFirst found).append_right _
      · rename_i found
        cases removed
        exact (ihFirst found).append_right _
      · split at removed
        · rename_i found
          cases removed
          exact ((ihSecond found).append_left _).trans List.perm_middle
        · rename_i found
          cases removed
          have moved := ((ihSecond found).append_left (collectLeaves first)).trans List.perm_middle
          rw [leavesOf, Option.map_none, Option.getD_none, List.append_nil] at moved
          exact moved
        · cases removed

/-- Only a tree that is this one leaf has nothing left. -/
theorem eq_leaf_of_removeLeaf (removed : removeLeaf target node = some (pane, none)) :
    node = .leaf target pane := by
  cases node with
  | leaf id old =>
      rw [removeLeaf] at removed
      split at removed
      · rename_i same
        cases removed
        rw [same]
      · cases removed
  | split direction ratio first second =>
      rw [removeLeaf] at removed
      split at removed
      · cases removed
      · cases removed
      · split at removed <;> cases removed

theorem findLeaf_of_mem (distinct : (collectLeafIds node).Nodup)
    (member : (target, pane) ∈ collectLeaves node) : findLeaf target node = some pane := by
  induction node with
  | leaf id old =>
      rw [collectLeaves, List.mem_singleton] at member
      cases member
      rw [findLeaf, if_pos rfl]
  | split direction ratio first second ihFirst ihSecond =>
      rw [collectLeafIds, List.nodup_append] at distinct
      obtain ⟨firstDistinct, secondDistinct, apart⟩ := distinct
      rw [collectLeaves, List.mem_append] at member
      rw [findLeaf]
      rcases member with member | member
      · rw [ihFirst firstDistinct member]
        rfl
      · have held : target ∈ collectLeafIds second := by
          rw [← map_fst_collectLeaves]
          exact List.mem_map_of_mem member
        have missing : findLeaf target first = none := by
          rw [← Option.not_isSome_iff_eq_none, findLeaf_isSome]
          exact fun inFirst => apart _ inFirst _ held rfl
        rw [missing, ihSecond secondDistinct member]
        rfl

/-- Reading the panes leaf by leaf gives the panes of the tree. -/
theorem filterMap_findLeaf (distinct : (collectLeafIds node).Nodup) :
    (collectLeafIds node).filterMap (findLeaf · node) = collectPanes node := by
  rw [← map_fst_collectLeaves, ← map_snd_collectLeaves, List.filterMap_map]
  rw [List.filterMap_congr (g := some ∘ Prod.snd), List.filterMap_eq_map]
  intro leaf member
  exact findLeaf_of_mem distinct member

end Nodes

section PaneChanges

variable {node changed : Node} {target other : LeafId} {pane old : LivePane}

theorem setLeafPane_eq_none_iff :
    setLeafPane target pane node = none ↔ findLeaf target node = none := by
  induction node with
  | leaf id held =>
      rw [setLeafPane, findLeaf]
      split <;> simp
  | split direction ratio first second ihFirst ihSecond =>
      rw [setLeafPane, findLeaf, Option.or_eq_none_iff, ← ihFirst, ← ihSecond]
      split
      · rename_i firstChanged setFirst
        simp [setFirst]
      · rename_i missing
        simp [missing]

/-- A new pane on a leaf takes the place of the old one. -/
theorem panes_setLeafPane (found : findLeaf target node = some old)
    (set : setLeafPane target pane node = some changed) :
    (old :: collectPanes changed).Perm (pane :: collectPanes node) := by
  induction node generalizing changed with
  | leaf id held =>
      rw [findLeaf] at found
      rw [setLeafPane] at set
      split at set
      · rename_i same
        rw [if_pos same] at found
        cases found
        cases set
        exact List.Perm.swap _ _ _
      · cases set
  | split direction ratio first second ihFirst ihSecond =>
      rw [setLeafPane] at set
      rw [findLeaf] at found
      split at set
      · rename_i firstChanged setFirst
        cases set
        have inFirst : findLeaf target first ≠ none := by
          rw [ne_eq, ← @setLeafPane_eq_none_iff first target pane, setFirst]
          exact Option.some_ne_none _
        obtain ⟨held, isHeld⟩ := Option.ne_none_iff_exists'.mp inFirst
        rw [isHeld, Option.some_or] at found
        cases found
        exact (ihFirst isHeld setFirst).append_right _
      · rename_i missing
        rw [Option.map_eq_some_iff] at set
        obtain ⟨secondChanged, setSecond, rfl⟩ := set
        rw [setLeafPane_eq_none_iff.mp missing, Option.none_or] at found
        rw [collectPanes, collectPanes]
        exact (List.perm_middle.symm.trans
          ((ihSecond found setSecond).append_left _)).trans List.perm_middle

theorem findLeaf_setLeafPane (set : setLeafPane target pane node = some changed) :
    findLeaf other changed = if other = target then some pane else findLeaf other node := by
  induction node generalizing changed with
  | leaf id held =>
      rw [setLeafPane] at set
      split at set
      · rename_i same
        cases set
        subst same
        rw [findLeaf, findLeaf]
        by_cases here : id = other
        · rw [if_pos here, if_pos here.symm]
        · rw [if_neg here, if_neg (Ne.symm here), if_neg here]
      · cases set
  | split direction ratio first second ihFirst ihSecond =>
      rw [setLeafPane] at set
      split at set
      · rename_i firstChanged setFirst
        cases set
        rw [findLeaf, findLeaf, ihFirst setFirst]
        split <;> rfl
      · rename_i missing
        rw [Option.map_eq_some_iff] at set
        obtain ⟨secondChanged, setSecond, rfl⟩ := set
        rw [findLeaf, findLeaf, ihSecond setSecond]
        split
        · rename_i here
          rw [here, setLeafPane_eq_none_iff.mp missing]
          rfl
        · rfl

theorem panes_swapLeafPanes {first second : LeafId}
    (swap : SplitTree.swapLeafPanes node first second = some changed) :
    (collectPanes changed).Perm (collectPanes node) := by
  rw [SplitTree.swapLeafPanes] at swap
  split at swap
  · rename_i onFirst onSecond foundFirst foundSecond
    rw [Option.bind_eq_some_iff] at swap
    obtain ⟨once, setOnce, setTwice⟩ := swap
    have still : findLeaf second once = some onSecond := by
      rw [findLeaf_setLeafPane setOnce]
      split
      · rfl
      · exact foundSecond
    have whole := (panes_setLeafPane still setTwice).trans (panes_setLeafPane foundFirst setOnce)
    exact (List.perm_cons onSecond).mp whole
  · cases swap

private theorem panes_assign_map (ids : List LeafId) (panes : List LivePane) (node : Node) :
    collectPanes (assignLeafPanes ids panes node) = (collectLeaves node).map fun leaf =>
      ((ids.findIdx? (· = leaf.1)).bind (panes[·]?)).getD leaf.2 := by
  induction node with
  | leaf id pane =>
      rw [assignLeafPanes, collectLeaves, List.map_singleton]
      split
      · rename_i index found
        rw [found]
        rfl
      · rename_i missing
        rw [missing]
        rfl
  | split direction ratio first second ihFirst ihSecond =>
      rw [assignLeafPanes, collectPanes, collectLeaves, List.map_append, ihFirst, ihSecond]

private theorem findIdx_of_nodup {ids : List LeafId} (distinct : ids.Nodup) {index : Nat}
    (inside : index < ids.length) : ids.findIdx? (· = ids[index]) = some index := by
  rw [List.findIdx?_eq_some_iff_getElem]
  refine ⟨inside, by simp, fun earlier before => ?_⟩
  simpa using fun same => Nat.ne_of_lt before ((List.Nodup.getElem_inj_iff distinct).mp same)

/-- Assigned panes stand in the order of the leaves. -/
theorem panes_assignLeafPanes {panes : List LivePane} (distinct : (collectLeafIds node).Nodup)
    (count : panes.length = (collectLeafIds node).length) :
    collectPanes (assignLeafPanes (collectLeafIds node) panes node) = panes := by
  have leaves : (collectLeaves node).length = (collectLeafIds node).length := by
    rw [← map_fst_collectLeaves, List.length_map]
  rw [panes_assign_map]
  apply List.ext_getElem
  · rw [List.length_map, leaves, count]
  · intro index inLeaves inPanes
    have inside : index < (collectLeafIds node).length := count ▸ inPanes
    have idAt : (collectLeaves node)[index].1 = (collectLeafIds node)[index] := by
      simp only [← map_fst_collectLeaves, List.getElem_map]
    rw [List.getElem_map, idAt, findIdx_of_nodup distinct inside, Option.bind_some,
      List.getElem?_eq_getElem inPanes, Option.getD_some]

theorem perm_rotated (forward : Bool) (panes : List LivePane) :
    (SplitTree.rotated forward panes).Perm panes := by
  cases forward with
  | true =>
      rcases List.eq_nil_or_concat panes with rfl | ⟨front, last, rfl⟩
      · exact List.Perm.refl _
      · rw [List.concat_eq_append]
        simpa [SplitTree.rotated] using (List.perm_append_comm : ([last] ++ front).Perm _)
  | false =>
      cases panes with
      | nil => exact List.Perm.refl _
      | cons first rest => exact List.perm_append_comm

end PaneChanges

/-- Every further pane goes to a leaf of its own, under the next id. -/
theorem leaves_rebuildNode (panes : List LivePane) (splits : List (Direction × ℚ)) {root : Node}
    {newId : LeafId} (ids : (collectLeafIds root).Perm (List.range newId)) (positive : 0 < newId) :
    (collectLeafIds (SplitTree.rebuildNode splits root newId panes)).Perm
        (List.range (newId + panes.length)) ∧
      (collectPanes (SplitTree.rebuildNode splits root newId panes)).Perm
        (collectPanes root ++ panes) := by
  induction panes generalizing splits root newId with
  | nil => exact ⟨ids, by rw [List.append_nil]; exact List.Perm.refl _⟩
  | cons pane panes ih =>
      have distinct : (collectLeafIds root).Nodup := ids.nodup_iff.mpr List.nodup_range
      have newest : newId - 1 ∈ collectLeafIds root :=
        ids.mem_iff.mpr (List.mem_range.mpr (Nat.sub_lt positive Nat.one_pos))
      rw [SplitTree.rebuildNode]
      generalize splits.head?.getD (.vertical, 1 / 2) = spec
      have split := @leaves_splitNode root (newId - 1) newId spec.1 pane spec.2 distinct newest
      have splitIds := split.map Prod.fst
      have splitPanes := split.map Prod.snd
      rw [map_fst_collectLeaves, List.map_cons, map_fst_collectLeaves] at splitIds
      rw [map_snd_collectLeaves, List.map_cons, map_snd_collectLeaves] at splitPanes
      have next : (newId :: collectLeafIds root).Perm (List.range (newId + 1)) := by
        rw [List.range_succ]
        exact (ids.cons newId).trans (List.perm_append_singleton newId (List.range newId)).symm
      obtain ⟨later, held⟩ := ih splits.tail (splitIds.trans next) (Nat.succ_pos newId)
      refine ⟨?_, held.trans ?_⟩
      · rw [List.length_cons, Nat.add_comm panes.length, ← Nat.add_assoc]
        exact later
      · exact (splitPanes.append_right panes).trans List.perm_middle.symm

/-- A tree with at least one leaf, whose leaf ids are its own and below its counter. -/
structure Sound (tree : SplitTree) : Prop where
  nonempty : tree.root ≠ none
  distinct : tree.leafIds.Nodup
  fresh : ∀ id ∈ tree.leafIds, id < tree.nextId

section Trees

open SplitTree

variable {tree : SplitTree} {pane : LivePane}

theorem leafIds_eq {root : Node} (held : tree.root = some root) :
    tree.leafIds = collectLeafIds root := by
  rw [leafIds, held]
  rfl

theorem len_eq_zero_iff (tree : SplitTree) : tree.len = 0 ↔ tree.root = none := by
  rw [len]
  cases tree.root with
  | none => simp
  | some root => simpa using (countLeaves_pos root).ne'

theorem sound_addRoot (pane : LivePane) : Sound (SplitTree.new.addRoot pane) where
  nonempty := Option.some_ne_none _
  distinct := List.nodup_singleton _
  fresh := fun id member => by
    rw [List.mem_singleton.mp member]
    exact Nat.one_pos

/-- Another tree over leaves with the same ids is as sound. -/
theorem Sound.sameIds (sound : Sound tree) {root : Node} {focusedId : LeafId}
    (same : collectLeafIds root = tree.leafIds) : Sound ⟨some root, tree.nextId, focusedId⟩ where
  nonempty := Option.some_ne_none _
  distinct := (congrArg List.Nodup same).mpr sound.distinct
  fresh := fun id member => sound.fresh id ((congrArg (id ∈ ·) same).mp member)

theorem Sound.setFocus (sound : Sound tree) (id : LeafId) : Sound (tree.setFocus id) where
  nonempty := sound.nonempty
  distinct := sound.distinct
  fresh := sound.fresh

theorem Sound.splitFocusedWithRatio (sound : Sound tree) (direction : Direction) (pane : LivePane)
    (ratio : ℚ) : Sound (tree.splitFocusedWithRatio direction pane ratio) := by
  obtain ⟨root, held⟩ := Option.ne_none_iff_exists'.mp sound.nonempty
  have distinct := sound.distinct
  have fresh := sound.fresh
  rw [leafIds_eq held] at distinct fresh
  have ids : (collectLeafIds (splitNodeWithRatio tree.focusedId direction tree.nextId pane ratio
      root)).Nodup ∧ ∀ id ∈ collectLeafIds (splitNodeWithRatio tree.focusedId direction tree.nextId
        pane ratio root), id < tree.nextId + 1 := by
    by_cases member : tree.focusedId ∈ collectLeafIds root
    · have split := (@leaves_splitNode root tree.focusedId tree.nextId direction pane ratio distinct
        member).map Prod.fst
      rw [map_fst_collectLeaves, List.map_cons, map_fst_collectLeaves] at split
      have unused : tree.nextId ∉ collectLeafIds root := fun held => Nat.lt_irrefl _ (fresh _ held)
      refine ⟨split.nodup_iff.mpr (List.nodup_cons.mpr ⟨unused, distinct⟩), fun id held => ?_⟩
      rcases List.mem_cons.mp (split.mem_iff.mp held) with rfl | held
      · exact Nat.lt_succ_self _
      · exact Nat.lt_succ_of_lt (fresh id held)
    · rw [splitNode_foreign direction pane ratio member]
      exact ⟨distinct, fun id held => Nat.lt_succ_of_lt (fresh id held)⟩
  rw [SplitTree.splitFocusedWithRatio, held]
  exact ⟨Option.some_ne_none _, ids.1, ids.2⟩

/-- A split of a tree whose focus names a leaf takes the new pane in. -/
theorem panes_splitFocusedWithRatio (sound : Sound tree) (focus : tree.FocusOk)
    (direction : Direction) (pane : LivePane) (ratio : ℚ) :
    (tree.splitFocusedWithRatio direction pane ratio).allPanes.Perm (pane :: tree.allPanes) := by
  obtain ⟨root, held, member⟩ := focus.root
  have distinct := sound.distinct
  rw [leafIds_eq held] at distinct
  have split := (@leaves_splitNode root tree.focusedId tree.nextId direction pane ratio distinct
    member).map Prod.snd
  rw [map_snd_collectLeaves, List.map_cons, map_snd_collectLeaves] at split
  rw [SplitTree.splitFocusedWithRatio, held, mem_paneIds held]
  exact split

theorem leafIds_keepRemaining (tree : SplitTree) (remaining : Option Node) :
    (tree.keepRemaining remaining).leafIds = (leavesOf remaining).map Prod.fst := by
  cases remaining with
  | none => rfl
  | some root => exact (map_fst_collectLeaves root).symm

theorem allPanes_keepRemaining (tree : SplitTree) (remaining : Option Node) :
    (tree.keepRemaining remaining).allPanes = (leavesOf remaining).map Prod.snd := by
  cases remaining with
  | none => rfl
  | some root => exact (map_snd_collectLeaves root).symm

/-- What a removal by leaf id gives back and what it keeps. -/
theorem removeLeafId_spec {target : LeafId} {removed : SplitTree}
    (removal : tree.removeLeafId target = some (pane, removed)) :
    tree.leafIds.Perm (target :: removed.leafIds) ∧
      tree.allPanes.Perm (pane :: removed.allPanes) ∧ removed.nextId = tree.nextId := by
  rw [removeLeafId] at removal
  split at removal
  · rename_i gone remaining found
    cases removal
    obtain ⟨root, held, taken⟩ := Option.bind_eq_some_iff.mp found
    have leaves := leaves_removeLeaf taken
    have ids := leaves.map Prod.fst
    have panes := leaves.map Prod.snd
    rw [map_fst_collectLeaves, List.map_cons, ← leafIds_keepRemaining tree] at ids
    rw [map_snd_collectLeaves, List.map_cons, ← allPanes_keepRemaining tree] at panes
    rw [leafIds_eq held, mem_paneIds held]
    exact ⟨ids, panes, rfl⟩
  · cases removal

theorem Sound.removeLeafId (sound : Sound tree) {target : LeafId} {removed : SplitTree}
    (removal : tree.removeLeafId target = some (pane, removed)) (nonempty : removed.len ≠ 0) :
    Sound removed := by
  obtain ⟨ids, -, next⟩ := removeLeafId_spec removal
  refine ⟨fun empty => nonempty ((len_eq_zero_iff removed).mpr empty), ?_, fun id member => ?_⟩
  · exact (List.nodup_cons.mp (ids.nodup_iff.mp sound.distinct)).2
  · rw [next]
    exact sound.fresh id (ids.mem_iff.mpr (List.mem_cons_of_mem _ member))

theorem removePane_spec {paneId : PaneId} {removed : SplitTree}
    (removal : tree.removePane paneId = some (pane, removed)) :
    ∃ target, tree.removeLeafId target = some (pane, removed) := by
  rw [removePane, Option.bind_eq_some_iff] at removal
  obtain ⟨target, -, removal⟩ := removal
  exact ⟨target, removal⟩

theorem swapFocusedWithAdjacent_spec {next : Bool} {swapped : SplitTree}
    (swap : tree.swapFocusedWithAdjacent next = some swapped) :
    ∃ root changed otherId, tree.root = some root ∧
      swapLeafPanes root tree.focusedId otherId = some changed ∧
      swapped = ⟨some changed, tree.nextId, tree.focusedId⟩ := by
  rw [swapFocusedWithAdjacent] at swap
  split at swap
  · rename_i root position held _
    dsimp only at swap
    split at swap
    · cases swap
    · split at swap
      · cases swap
      · rename_i otherId _
        rw [Option.map_eq_some_iff] at swap
        obtain ⟨changed, swapLeaves, rfl⟩ := swap
        exact ⟨root, changed, otherId, held, swapLeaves, rfl⟩
  · cases swap

theorem leafIds_swapLeafPanes {root changed : Node} {first second : LeafId}
    (swap : swapLeafPanes root first second = some changed) :
    collectLeafIds changed = collectLeafIds root := by
  rw [swapLeafPanes] at swap
  split at swap
  · rw [Option.bind_eq_some_iff] at swap
    obtain ⟨once, setOnce, setTwice⟩ := swap
    rw [leafIds_setLeafPane setTwice, leafIds_setLeafPane setOnce]
  · cases swap

theorem Sound.swapFocusedWithAdjacent (sound : Sound tree) {next : Bool} {swapped : SplitTree}
    (swap : tree.swapFocusedWithAdjacent next = some swapped) : Sound swapped := by
  obtain ⟨root, changed, otherId, held, swapLeaves, rfl⟩ := swapFocusedWithAdjacent_spec swap
  exact sound.sameIds (by rw [leafIds_swapLeafPanes swapLeaves, leafIds_eq held])

theorem panes_swapFocusedWithAdjacent {next : Bool} {swapped : SplitTree}
    (swap : tree.swapFocusedWithAdjacent next = some swapped) :
    swapped.allPanes.Perm tree.allPanes := by
  obtain ⟨root, changed, otherId, held, swapLeaves, rfl⟩ := swapFocusedWithAdjacent_spec swap
  rw [mem_paneIds held]
  exact panes_swapLeafPanes swapLeaves

theorem rotatePanes_spec {forward : Bool} {rotated : SplitTree}
    (rotate : tree.rotatePanes forward = some rotated) :
    ∃ root, tree.root = some root ∧
      (tree.leafIds.filterMap (findLeaf · root)).length = tree.leafIds.length ∧
      rotated = ⟨some (assignLeafPanes tree.leafIds
        (SplitTree.rotated forward (tree.leafIds.filterMap (findLeaf · root))) root), tree.nextId,
          tree.focusedId⟩ := by
  rw [rotatePanes] at rotate
  split at rotate
  · cases rotate
  · rename_i root held
    split at rotate
    · cases rotate
    · dsimp only at rotate
      split at rotate
      · cases rotate
      · rename_i count
        cases rotate
        exact ⟨root, held, not_not.mp count, rfl⟩

theorem Sound.rotatePanes (sound : Sound tree) {forward : Bool} {rotated : SplitTree}
    (rotate : tree.rotatePanes forward = some rotated) : Sound rotated := by
  obtain ⟨root, held, -, rfl⟩ := rotatePanes_spec rotate
  exact sound.sameIds (by rw [leafIds_assignLeafPanes, leafIds_eq held])

theorem panes_rotatePanes (sound : Sound tree) {forward : Bool} {rotated : SplitTree}
    (rotate : tree.rotatePanes forward = some rotated) : rotated.allPanes.Perm tree.allPanes := by
  obtain ⟨root, held, count, rfl⟩ := rotatePanes_spec rotate
  have distinct := sound.distinct
  rw [leafIds_eq held] at distinct count
  have panes := filterMap_findLeaf distinct
  rw [panes] at count
  have turned := perm_rotated forward (collectPanes root)
  have assigned := panes_assignLeafPanes distinct (turned.length_eq.trans count)
  rw [mem_paneIds held, leafIds_eq held, panes]
  show (collectPanes _).Perm _
  rw [assigned]
  exact turned

theorem Sound.rebalance (sound : Sound tree) : Sound tree.rebalance := by
  obtain ⟨root, held⟩ := Option.ne_none_iff_exists'.mp sound.nonempty
  rw [SplitTree.rebalance, held]
  exact sound.sameIds (by rw [leafIds_rebalanceNode, leafIds_eq held])

theorem Sound.retune (sound : Sound tree) (ratios : List Bool → Option ℚ) :
    Sound (tree.retune ratios) := by
  obtain ⟨root, held⟩ := Option.ne_none_iff_exists'.mp sound.nonempty
  rw [SplitTree.retune, held]
  exact sound.sameIds (by rw [leafIds_retuneNode, leafIds_eq held])

theorem panes_rebalanceNode (node : Node) : collectPanes (rebalanceNode node) = collectPanes node := by
  induction node with
  | leaf id pane => rfl
  | split direction ratio first second ihFirst ihSecond =>
      rw [rebalanceNode, collectPanes, collectPanes, ihFirst, ihSecond]

theorem panes_retuneNode (ratios : List Bool → Option ℚ) (node : Node) :
    collectPanes (retuneNode ratios node) = collectPanes node := by
  induction node generalizing ratios with
  | leaf id pane => rfl
  | split direction ratio first second ihFirst ihSecond =>
      rw [retuneNode, collectPanes, collectPanes, ihFirst, ihSecond]

/-- A rebuilt tree is sound whatever the tree was before, and holds the panes it was given. -/
theorem rebuildFromPanes_spec (tree : SplitTree) {panes : List LivePane} (nonempty : panes ≠ [])
    (splits : List (Direction × ℚ)) (paneId : PaneId) :
    Sound (tree.rebuildFromPanes panes splits paneId).1 ∧
      (tree.rebuildFromPanes panes splits paneId).1.allPanes.Perm panes := by
  obtain ⟨pane, rest, rfl⟩ := List.exists_cons_of_ne_nil nonempty
  obtain ⟨ids, held⟩ := @leaves_rebuildNode rest splits (.leaf 0 pane) 1 (List.Perm.refl _)
    Nat.one_pos
  have any : ∀ focusedId, Sound ⟨some (rebuildNode splits (.leaf 0 pane) 1 rest),
      (pane :: rest).length, focusedId⟩ := by
    intro focusedId
    refine ⟨Option.some_ne_none _, ids.nodup_iff.mpr List.nodup_range, fun id member => ?_⟩
    have below : id < 1 + rest.length := List.mem_range.mp (ids.mem_iff.mp member)
    rw [Nat.add_comm] at below
    exact below
  have shape : ∃ focusedId, (tree.rebuildFromPanes (pane :: rest) splits paneId).1 =
      ⟨some (rebuildNode splits (.leaf 0 pane) 1 rest), (pane :: rest).length, focusedId⟩ := by
    rw [rebuildFromPanes]
    dsimp only
    split
    · rw [setFocusToPane, Option.bind_some]
      cases findLeafIdByPane paneId (rebuildNode splits (.leaf 0 pane) 1 rest) with
      | none => exact ⟨_, rfl⟩
      | some id => exact ⟨_, rfl⟩
    · rw [setFocusToPane, Option.bind_some]
      cases findLeafIdByPane paneId (rebuildNode splits (.leaf 0 pane) 1 rest) with
      | none => exact ⟨_, rfl⟩
      | some id => exact ⟨_, rfl⟩
  obtain ⟨focusedId, same⟩ := shape
  rw [same]
  exact ⟨any focusedId, held⟩

end Trees

end Boo.Runtime.Leaves
