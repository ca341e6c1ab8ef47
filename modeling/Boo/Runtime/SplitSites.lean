/- module: Boo/Runtime/SplitSites
   digest: The splits of a tree in reading order, each with its frame and what stands around it. -/

import Boo.Runtime.PaneFrames
import Boo.Runtime.SplitContexts

set_option autoImplicit false
set_option relaxedAutoImplicit false

namespace Boo.Runtime.SplitSites

open Boo.Runtime.Splits
open Boo.Runtime.SplitContexts
open Boo.Runtime.PaneFrames

/-- A split in its place in the tree. -/
structure Site where
  outer : Context
  direction : Direction
  ratio : ℚ
  first : Node
  second : Node
  frame : Rect

namespace Site

def under (layer : Layer) (site : Site) : Site := { site with outer := layer :: site.outer }

/-- The whole tree, with another ratio for this split. -/
def withRatio (site : Site) (ratio : ℚ) : Node :=
  plug site.outer (.split site.direction ratio site.first site.second)

def path (site : Site) : List Bool := place site.outer

end Site

/-- The splits in the order in which the searches come by them: a split, its first side, its
second side. -/
def sites (frame : Rect) : Node → List Site
  | .leaf _ _ => []
  | .split direction ratio first second =>
      ⟨[], direction, ratio, first, second, frame⟩ ::
        ((sites (splitFrame frame direction ratio).1 first).map
            (Site.under ⟨direction, ratio, false, second⟩) ++
          (sites (splitFrame frame direction ratio).2 second).map
            (Site.under ⟨direction, ratio, true, first⟩))

/-- The ratio of the split at a place. -/
def ratioAt : List Bool → Node → Option ℚ
  | _, .leaf _ _ => none
  | [], .split _ ratio _ _ => some ratio
  | false :: path, .split _ _ first _ => ratioAt path first
  | true :: path, .split _ _ _ second => ratioAt path second

section Places

variable {frame : Rect} {node : Node} {site : Site}

theorem withRatio_under (layer : Layer) (site : Site) (ratio : ℚ) :
    (site.under layer).withRatio ratio = layer.fill (site.withRatio ratio) := rfl

/-- With its own ratio every split gives the tree back. -/
theorem withRatio_self (member : site ∈ sites frame node) : site.withRatio site.ratio = node := by
  induction node generalizing frame site with
  | leaf id pane => cases member
  | split direction ratio first second ihFirst ihSecond =>
      rcases List.mem_cons.mp member with rfl | member
      · rfl
      · rcases List.mem_append.mp member with member | member
        · obtain ⟨inner, listed, rfl⟩ := List.mem_map.mp member
          rw [withRatio_under]
          exact congrArg (Layer.fill ⟨direction, ratio, false, second⟩) (ihFirst listed)
        · obtain ⟨inner, listed, rfl⟩ := List.mem_map.mp member
          rw [withRatio_under]
          exact congrArg (Layer.fill ⟨direction, ratio, true, first⟩) (ihSecond listed)

/-- No two splits have one place. -/
theorem paths_nodup (frame : Rect) (node : Node) : ((sites frame node).map Site.path).Nodup := by
  induction node generalizing frame with
  | leaf id pane => exact List.nodup_nil
  | split direction ratio first second ihFirst ihSecond =>
      have under : ∀ (layer : Layer) (inner : List Site),
          (inner.map (Site.under layer)).map Site.path =
            (inner.map Site.path).map (layer.second :: ·) := by
        intro layer inner
        rw [List.map_map, List.map_map]
        rfl
      rw [sites, List.map_cons, List.map_append, under, under, List.nodup_cons,
        List.nodup_append]
      refine ⟨?_, ?_, ?_, ?_⟩
      · simp [Site.path, place]
      · exact (ihFirst _).map fun one two same => (List.cons.inj same).2
      · exact (ihSecond _).map fun one two same => (List.cons.inj same).2
      · intro path inFirst other inSecond same
        obtain ⟨one, -, rfl⟩ := List.mem_map.mp inFirst
        obtain ⟨two, -, rfl⟩ := List.mem_map.mp inSecond
        exact Bool.noConfusion (List.cons.inj same).1

theorem ratioAt_withRatio (site : Site) (ratio : ℚ) :
    ratioAt site.path (site.withRatio ratio) = some ratio := by
  obtain ⟨outer, direction, old, first, second, frame⟩ := site
  induction outer with
  | nil => rfl
  | cons layer outer ih =>
      obtain ⟨above, own, side, sibling⟩ := layer
      cases side <;> exact ih

/-- Another ratio of one split leaves the ratios at all other places. -/
theorem ratioAt_other (site : Site) (one two : ℚ) {path : List Bool} (other : path ≠ site.path) :
    ratioAt path (site.withRatio one) = ratioAt path (site.withRatio two) := by
  obtain ⟨outer, direction, old, first, second, frame⟩ := site
  induction outer generalizing path with
  | nil =>
      cases path with
      | nil => exact absurd rfl other
      | cons side path => cases side <;> rfl
  | cons layer outer ih =>
      obtain ⟨above, own, side, sibling⟩ := layer
      cases path with
      | nil => cases side <;> rfl
      | cons turn path =>
          cases side <;> cases turn
          · exact ih fun same => other (congrArg (false :: ·) same)
          · rfl
          · rfl
          · exact ih fun same => other (congrArg (true :: ·) same)

/-- No split stands twice in the order. -/
theorem path_apart {front back : List Site} {site other : Site}
    (listed : sites frame node = front ++ site :: back) (member : other ∈ front ++ back) :
    other.path ≠ site.path := by
  have distinct := paths_nodup frame node
  rw [listed, List.map_append, List.map_cons, List.nodup_middle, List.nodup_cons,
    ← List.map_append] at distinct
  exact fun same => distinct.1 (same ▸ List.mem_map_of_mem member)

theorem withRatio_inj (site : Site) {one two : ℚ} :
    site.withRatio one = site.withRatio two ↔ one = two := by
  constructor
  · intro same
    have read := congrArg (ratioAt site.path) same
    rw [ratioAt_withRatio, ratioAt_withRatio] at read
    exact Option.some.inj read
  · exact fun same => same ▸ rfl

/-- Changes of two splits give the same tree only where neither changes anything. -/
theorem withRatio_eq_iff {front back : List Site} {site other : Site} (one two : ℚ)
    (listed : sites frame node = front ++ site :: back) (member : other ∈ front ++ back) :
    site.withRatio one = other.withRatio two ↔ one = site.ratio ∧ two = other.ratio := by
  have siteMember : site ∈ sites frame node := by
    rw [listed]
    exact List.mem_append_right _ List.mem_cons_self
  have otherMember : other ∈ sites frame node := by
    rw [listed]
    rcases List.mem_append.mp member with held | held
    · exact List.mem_append_left _ held
    · exact List.mem_append_right _ (List.mem_cons_of_mem _ held)
  have apart := path_apart listed member
  have whole := withRatio_self siteMember
  have otherWhole := withRatio_self otherMember
  constructor
  · intro same
    have atSite : some one = some site.ratio := by
      rw [← ratioAt_withRatio site one, ← ratioAt_withRatio site site.ratio, same,
        ratioAt_other other two other.ratio (Ne.symm apart), whole, otherWhole]
    have atOther : some two = some other.ratio := by
      rw [← ratioAt_withRatio other two, ← ratioAt_withRatio other other.ratio, ← same,
        ratioAt_other site one site.ratio apart, whole, otherWhole]
    exact ⟨Option.some.inj atSite, Option.some.inj atOther⟩
  · rintro ⟨rfl, rfl⟩
    rw [whole, otherWhole]

end Places

section Searches

variable {frame : Rect} {node : Node}

/-- A search that looks only at a split's direction, ratio and frame goes on below a split as
it does in the tree. -/
theorem find?_under {p : Site → Bool} (layer : Layer) (inner : List Site)
    (inPlace : ∀ site, p (site.under layer) = p site) :
    (inner.map (Site.under layer)).find? p = (inner.find? p).map (Site.under layer) := by
  rw [List.find?_map]
  congr 2
  exact funext inPlace

/-- The point is on the split's divider. -/
def Site.takes (point : ℚ × ℚ) (site : Site) : Bool :=
  onDivider site.direction site.ratio site.frame point

/-- The divider at a point is that of the first split that takes it. -/
theorem dividerAtNode_eq (frame : Rect) (point : ℚ × ℚ) (node : Node) :
    dividerAtNode frame point node =
      ((sites frame node).find? (Site.takes point)).map Site.direction := by
  induction node generalizing frame with
  | leaf id pane => rfl
  | split direction ratio first second ihFirst ihSecond =>
      rw [dividerAtNode, sites, List.find?_cons]
      cases here : onDivider direction ratio frame point with
      | true =>
          have taken : Site.takes point ⟨[], direction, ratio, first, second, frame⟩ = true := here
          rw [taken]
          rfl
      | false =>
          have passed : Site.takes point ⟨[], direction, ratio, first, second, frame⟩ = false := here
          rw [passed, if_neg Bool.false_ne_true, ihFirst, ihSecond, List.find?_append,
            find?_under _ _ fun _ => rfl, find?_under _ _ fun _ => rfl]
          dsimp only
          cases (sites (splitFrame frame direction ratio).1 first).find? (Site.takes point) with
          | none =>
              simp only [Option.map_none, Option.none_or, Option.map_map]
              rfl
          | some site => rfl

end Searches

end Boo.Runtime.SplitSites
