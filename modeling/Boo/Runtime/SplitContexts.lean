/- module: Boo/Runtime/SplitContexts
   digest: A split tree with a hole: what stands around a subtree, and what it leaves alone. -/

import Boo.Runtime.Leaves

set_option autoImplicit false
set_option relaxedAutoImplicit false

namespace Boo.Runtime.SplitContexts

open Boo.Runtime.Splits
open Boo.Runtime.Leaves

/-- One split above a hole: which side the hole is on, and the subtree on the other side. -/
structure Layer where
  direction : Direction
  ratio : ℚ
  second : Bool
  sibling : Node
  deriving DecidableEq

/-- The splits above a hole, the root first. -/
abbrev Context := List Layer

/-- The split with the hole filled. -/
def Layer.fill (layer : Layer) (hole : Node) : Node :=
  if layer.second then .split layer.direction layer.ratio layer.sibling hole
  else .split layer.direction layer.ratio hole layer.sibling

def plug (context : Context) (hole : Node) : Node := context.foldr Layer.fill hole

/-- Which side each split takes on the way to the hole. -/
def place (context : Context) : List Bool := context.map Layer.second

/-- The frame of the subtree on the hole's side. -/
def Layer.frame (frame : Rect) (layer : Layer) : Rect :=
  if layer.second then (splitFrame frame layer.direction layer.ratio).2
  else (splitFrame frame layer.direction layer.ratio).1

/-- The frame of the hole. -/
def frameAt (frame : Rect) (context : Context) : Rect := context.foldl Layer.frame frame

section Plug

variable {context : Context} {layer : Layer} {hole : Node}

@[simp] theorem plug_nil (hole : Node) : plug [] hole = hole := rfl

@[simp] theorem plug_cons (layer : Layer) (context : Context) (hole : Node) :
    plug (layer :: context) hole = layer.fill (plug context hole) := rfl

theorem plug_append (outer inner : Context) (hole : Node) :
    plug (outer ++ inner) hole = plug outer (plug inner hole) := List.foldr_append

theorem fill_first (direction : Direction) (ratio : ℚ) (first second : Node) :
    Layer.fill ⟨direction, ratio, false, second⟩ first = .split direction ratio first second := rfl

theorem fill_second (direction : Direction) (ratio : ℚ) (first second : Node) :
    Layer.fill ⟨direction, ratio, true, first⟩ second = .split direction ratio first second := rfl

/-- A hole's leaves stand together, between those of the subtrees around it. -/
theorem leaves_plug (context : Context) : ∃ before after, ∀ hole,
    collectLeaves (plug context hole) = before ++ collectLeaves hole ++ after := by
  induction context with
  | nil => exact ⟨[], [], fun hole => by simp⟩
  | cons layer context ih =>
      obtain ⟨before, after, leaves⟩ := ih
      obtain ⟨direction, ratio, second, sibling⟩ := layer
      cases second with
      | false =>
          refine ⟨before, after ++ collectLeaves sibling, fun hole => ?_⟩
          rw [plug_cons, fill_first, collectLeaves, leaves, List.append_assoc]
      | true =>
          refine ⟨collectLeaves sibling ++ before, after, fun hole => ?_⟩
          rw [plug_cons, fill_second, collectLeaves, leaves]
          simp only [List.append_assoc]

/-- Every leaf of a tree is the hole of a context. -/
theorem exists_plug_leaf {node : Node} {id : LeafId} (member : id ∈ collectLeafIds node) :
    ∃ context pane, node = plug context (.leaf id pane) := by
  induction node with
  | leaf own pane =>
      obtain rfl := List.mem_singleton.mp member
      exact ⟨[], pane, rfl⟩
  | split direction ratio first second ihFirst ihSecond =>
      rw [collectLeafIds, List.mem_append] at member
      rcases member with member | member
      · obtain ⟨context, pane, rfl⟩ := ihFirst member
        exact ⟨⟨direction, ratio, false, second⟩ :: context, pane, rfl⟩
      · obtain ⟨context, pane, rfl⟩ := ihSecond member
        exact ⟨⟨direction, ratio, true, first⟩ :: context, pane, rfl⟩

theorem retuneNode_none (node : Node) : retuneNode (fun _ => none) node = node := by
  induction node with
  | leaf id pane => rfl
  | split direction ratio first second ihFirst ihSecond =>
      rw [retuneNode, ihFirst, ihSecond, Option.getD_none]

/-- Another ratio of the one split around a hole is a retuning of the whole tree. -/
theorem retuneNode_at (outer : Context) (layer : Layer) (hole : Node) (ratio : ℚ) :
    retuneNode (fun path => if path = place outer then some ratio else none)
        (plug outer (layer.fill hole)) =
      plug outer ({ layer with ratio := ratio }.fill hole) := by
  induction outer with
  | nil =>
      obtain ⟨direction, old, second, sibling⟩ := layer
      cases second <;>
        simp [place, Layer.fill, retuneNode, retuneNode_none]
  | cons above outer ih =>
      obtain ⟨direction, old, second, sibling⟩ := above
      cases second with
      | false =>
          rw [plug_cons, fill_first, plug_cons, fill_first, retuneNode]
          simp only [place, List.map_cons, List.cons.injEq, true_and, reduceCtorEq, false_and,
            if_false, Option.getD_none, retuneNode_none]
          rw [← ih]
          rfl
      | true =>
          rw [plug_cons, fill_second, plug_cons, fill_second, retuneNode]
          simp only [place, List.map_cons, List.cons.injEq, true_and, reduceCtorEq, false_and,
            if_false, Option.getD_none, retuneNode_none]
          rw [← ih]
          rfl

end Plug

end Boo.Runtime.SplitContexts
