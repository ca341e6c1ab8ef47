/- module: Boo/Runtime/NamedLayouts
   digest: The shape that a named layout gives a tab, and up to how many panes. -/

import Boo.Runtime.KeptFocus
import Boo.Runtime.PaneFrames
import Boo.Runtime.SplitContexts

set_option autoImplicit false
set_option relaxedAutoImplicit false

namespace Boo.Runtime.NamedLayouts

open Boo.Lib.Spans
open Boo.Server.Frames
open Boo.Runtime.Splits
open Boo.Runtime.Leaves
open Boo.Runtime.Tabs
open Boo.Runtime.SplitContexts
open Boo.Runtime.PaneFrames

/-- The chain that a layout builds: each pane shares its frame with all the panes behind it. -/
def chain (splits : List (Direction × ℚ)) (id : LeafId) (pane : LivePane) :
    List LivePane → Node
  | [] => .leaf id pane
  | next :: rest =>
      let (direction, ratio) := splits.head?.getD (.vertical, 1 / 2)
      .split direction (clampRatio ratio) (.leaf id pane) (chain splits.tail (id + 1) next rest)

section Chains

variable {context : Context} {target newId id : LeafId} {hole : Node}

theorem splitNode_plug (direction : Direction) (pane : LivePane) (ratio : ℚ)
    (foreign : ∀ layer ∈ context, target ∉ collectLeafIds layer.sibling) :
    splitNodeWithRatio target direction newId pane ratio (plug context hole) =
      plug context (splitNodeWithRatio target direction newId pane ratio hole) := by
  induction context with
  | nil => rfl
  | cons layer context ih =>
      rw [List.forall_mem_cons] at foreign
      obtain ⟨above, own, second, sibling⟩ := layer
      cases second with
      | false =>
          rw [plug_cons, fill_first, splitNodeWithRatio, ih foreign.2,
            splitNode_foreign direction pane ratio foreign.1, plug_cons, fill_first]
      | true =>
          rw [plug_cons, fill_second, splitNodeWithRatio, ih foreign.2,
            splitNode_foreign direction pane ratio foreign.1, plug_cons, fill_second]

/-- The loop of the source, always splitting the newest leaf, builds the chain. -/
theorem rebuildNode_plug (panes : List LivePane) (splits : List (Direction × ℚ)) (pane : LivePane)
    (older : ∀ layer ∈ context, ∀ other ∈ collectLeafIds layer.sibling, other < id) :
    SplitTree.rebuildNode splits (plug context (.leaf id pane)) (id + 1) panes =
      plug context (chain splits id pane panes) := by
  induction panes generalizing context splits id pane with
  | nil => rfl
  | cons next rest ih =>
      rw [SplitTree.rebuildNode, chain, Nat.add_sub_cancel]
      generalize splits.head?.getD (.vertical, 1 / 2) = spec
      have foreign : ∀ layer ∈ context, id ∉ collectLeafIds layer.sibling :=
        fun layer member held => Nat.lt_irrefl _ (older layer member id held)
      dsimp only
      rw [splitNode_plug spec.1 next spec.2 foreign, splitNodeWithRatio, if_pos rfl]
      have deeper := @ih (context ++ [⟨spec.1, clampRatio spec.2, true, .leaf id pane⟩]) (id + 1)
        splits.tail next (by
          intro layer member other held
          rcases List.mem_append.mp member with member | member
          · exact Nat.lt_succ_of_lt (older layer member other held)
          · obtain rfl := List.mem_singleton.mp member
            obtain rfl := List.mem_singleton.mp held
            exact Nat.lt_succ_self _)
      rw [plug_append, plug_append] at deeper
      exact deeper

theorem rebuildNode_eq_chain (splits : List (Direction × ℚ)) (pane : LivePane)
    (rest : List LivePane) :
    SplitTree.rebuildNode splits (.leaf 0 pane) 1 rest = chain splits 0 pane rest :=
  @rebuildNode_plug [] 0 rest splits pane fun layer member => by cases member

theorem collectPanes_chain (splits : List (Direction × ℚ)) (id : LeafId) (pane : LivePane)
    (rest : List LivePane) : collectPanes (chain splits id pane rest) = pane :: rest := by
  induction rest generalizing splits id pane with
  | nil => rfl
  | cons next rest ih =>
      rw [chain]
      dsimp only
      rw [collectPanes, ih]
      rfl

end Chains

/-! Sizes along a chain, with borders of no width. -/

/-- The two sides of such a split share the size as its ratio says. -/
def Shared (size : Rect → ℚ) (direction : Direction) : Prop :=
  ∀ frame ratio, size (cutFrame 0 frame direction ratio).1 = size frame * ratio ∧
    size (cutFrame 0 frame direction ratio).2 = size frame * (1 - ratio)

/-- Such a split leaves the size to both sides. -/
def Passed (size : Rect → ℚ) (direction : Direction) : Prop :=
  ∀ frame ratio, size (cutFrame 0 frame direction ratio).1 = size frame ∧
    size (cutFrame 0 frame direction ratio).2 = size frame

/-- Each split gives its pane one share of those that remain. -/
def Cascade (splits : List (Direction × ℚ)) : Prop :=
  ∀ position spec, splits[position]? = some spec →
    spec.2 = 1 / ((splits.length - position + 1 : ℕ) : ℚ)

section Sizes

variable {size : Rect → ℚ} {frame : Rect} {splits : List (Direction × ℚ)} {id : LeafId}
  {pane : LivePane} {rest : List LivePane}

theorem shared_extent (direction : Direction) :
    Shared (fun frame => (span frame direction).extent) direction := by
  intro frame ratio
  obtain ⟨lower, upper, -⟩ := span_cutFrame 0 frame direction ratio
  dsimp only
  rw [lower, upper]
  exact ⟨Span.extent_lower_zero _ ratio, Span.extent_upper_zero _ ratio⟩

theorem passed_extent (direction : Direction) :
    Passed (fun frame => (span frame (transverse direction)).extent) direction := by
  intro frame ratio
  obtain ⟨first, second, -⟩ := span_across 0 frame direction ratio
  exact ⟨congrArg Span.extent first, congrArg Span.extent second⟩

theorem shared_area (direction : Direction) : Shared area direction := by
  intro frame ratio
  cases direction <;> constructor <;> simp only [area, cutFrame] <;> ring

private theorem cons_of_count {next : LivePane} (count : (next :: rest).length = splits.length) :
    ∃ spec others, splits = spec :: others ∧ rest.length = others.length := by
  cases splits with
  | nil => exact absurd count (Nat.succ_ne_zero _)
  | cons spec others => exact ⟨spec, others, rfl, Nat.succ.inj count⟩

theorem passed_chain (passed : ∀ spec ∈ splits, Passed size spec.1)
    (count : rest.length = splits.length) :
    ∀ leaf ∈ leafFrames 0 frame (chain splits id pane rest), size leaf.2 = size frame := by
  induction rest generalizing frame splits id pane with
  | nil =>
      intro leaf member
      obtain rfl := List.mem_singleton.mp member
      rfl
  | cons next rest ih =>
      obtain ⟨spec, others, rfl, sameCount⟩ := cons_of_count count
      rw [List.forall_mem_cons] at passed
      obtain ⟨first, second⟩ := passed.1 frame (clampRatio spec.2)
      intro leaf member
      rcases List.mem_append.mp member with member | member
      · obtain rfl := List.mem_singleton.mp member
        exact first
      · exact (ih passed.2 sameCount leaf member).trans second

theorem Cascade.tail {spec : Direction × ℚ} (cascade : Cascade (spec :: splits)) :
    Cascade splits := by
  intro position other held
  rw [cascade (position + 1) other held, List.length_cons]
  congr 3
  omega

theorem clampRatio_share {count : ℕ} (several : 2 ≤ count) :
    clampRatio (1 / (count : ℚ)) = if count ≤ 10 then 1 / (count : ℚ) else 1 / 10 := by
  have positive : (0 : ℚ) < count := by exact_mod_cast (by omega : 0 < count)
  have most : 1 / (count : ℚ) ≤ 1 / 2 :=
    one_div_le_one_div_of_le (by norm_num) (by exact_mod_cast several)
  rw [clampRatio]
  split
  · rename_i small
    rw [if_neg]
    intro few
    have least : (1 : ℚ) / 10 ≤ 1 / count :=
      one_div_le_one_div_of_le positive (by exact_mod_cast few)
    exact absurd small (not_lt.mpr least)
  · rename_i enough
    have notMore : ¬ (9 / 10 : ℚ) < 1 / count := by
      rw [not_lt]
      exact most.trans (by norm_num)
    rw [if_neg notMore]
    split
    · rfl
    · rename_i many
      have less : 1 / (count : ℚ) < 1 / 10 :=
        one_div_lt_one_div_of_lt (by norm_num) (by exact_mod_cast Nat.not_le.mp many)
      exact absurd less enough

/-- Up to ten panes get equal shares along a chain. -/
theorem shares_chain (cascade : Cascade splits) (shared : ∀ spec ∈ splits, Shared size spec.1)
    (count : rest.length = splits.length) (few : rest.length + 1 ≤ 10) :
    ∀ leaf ∈ leafFrames 0 frame (chain splits id pane rest),
      size leaf.2 = size frame / ((rest.length + 1 : ℕ) : ℚ) := by
  induction rest generalizing frame splits id pane with
  | nil =>
      intro leaf member
      obtain rfl := List.mem_singleton.mp member
      simp
  | cons next rest ih =>
      obtain ⟨spec, others, rfl, sameCount⟩ := cons_of_count count
      have share : clampRatio spec.2 = 1 / ((rest.length + 2 : ℕ) : ℚ) := by
        have own := cascade 0 spec rfl
        rw [List.length_cons, ← sameCount, Nat.sub_zero] at own
        rw [own, clampRatio_share (by omega), if_pos (by simpa using few)]
      rw [List.forall_mem_cons] at shared
      obtain ⟨first, second⟩ := shared.1 frame (clampRatio spec.2)
      intro leaf member
      rcases List.mem_append.mp member with member | member
      · obtain rfl := List.mem_singleton.mp member
        refine first.trans ?_
        rw [share, List.length_cons]
        ring
      · have left : (1 - 1 / ((rest.length + 2 : ℕ) : ℚ)) / ((rest.length + 1 : ℕ) : ℚ) =
            1 / ((rest.length + 2 : ℕ) : ℚ) := by
          push_cast
          field_simp
          ring
        rw [ih cascade.tail shared.2 sameCount (by simp at few; omega) leaf member, second, share,
          List.length_cons, mul_div_assoc, left]
        ring

/-- Of more than ten panes the first gets a tenth. -/
theorem shares_chain_iff (cascade : Cascade splits)
    (shared : ∀ spec ∈ splits, Shared size spec.1) (count : rest.length = splits.length)
    (nonzero : size frame ≠ 0) :
    (∀ leaf ∈ leafFrames 0 frame (chain splits id pane rest),
      size leaf.2 = size frame / ((rest.length + 1 : ℕ) : ℚ)) ↔ rest.length + 1 ≤ 10 := by
  refine ⟨fun shares => ?_, shares_chain cascade shared count⟩
  by_contra many
  cases rest with
  | nil => exact many (by decide)
  | cons next rest =>
      obtain ⟨spec, others, rfl, sameCount⟩ := cons_of_count count
      have share : clampRatio spec.2 = 1 / 10 := by
        have own := cascade 0 spec rfl
        rw [List.length_cons, ← sameCount, Nat.sub_zero] at own
        rw [own, clampRatio_share (by omega), if_neg (by simpa using many)]
      have first := (shared spec List.mem_cons_self frame (clampRatio spec.2)).1
      have own := shares (id, (cutFrame 0 frame spec.1 (clampRatio spec.2)).1) List.mem_cons_self
      rw [first, share, div_eq_mul_one_div (size frame)] at own
      have same := mul_left_cancel₀ nonzero own
      have less : 1 / (((next :: rest).length + 1 : ℕ) : ℚ) < 1 / 10 :=
        one_div_lt_one_div_of_lt (by norm_num) (by exact_mod_cast Nat.not_le.mp many)
      exact absurd same less.ne'

end Sizes

/-! The layouts. -/

/-- The frames that a named layout promises, in the order of the panes. -/
def HasShape (layout : TabLayout) (frame : Rect) (shown : List Rect) : Prop :=
  match layout with
  | .manual => True
  | .evenHorizontal => ∀ pane ∈ shown,
      pane.width = frame.width / (shown.length : ℚ) ∧ pane.height = frame.height
  | .evenVertical => ∀ pane ∈ shown,
      pane.height = frame.height / (shown.length : ℚ) ∧ pane.width = frame.width
  | .tiled => ∀ pane ∈ shown, area pane = area frame / (shown.length : ℚ)
  | .mainVertical => (∀ pane ∈ shown.head?, pane.width = 6 / 10 * frame.width) ∧
      ∀ pane ∈ shown.tail, area pane = 4 / 10 / ((shown.length : ℚ) - 1) * area frame
  | .mainHorizontal => (∀ pane ∈ shown.head?, pane.height = 6 / 10 * frame.height) ∧
      ∀ pane ∈ shown.tail, area pane = 4 / 10 / ((shown.length : ℚ) - 1) * area frame

/-- Up to how many panes a layout has its shape. -/
def mostPanes : TabLayout → ℕ
  | .mainVertical | .mainHorizontal => 11
  | _ => 10

section Layouts

theorem cascade_map {count start : ℕ} (directions : ℕ → Direction) {total : ℕ}
    (whole : total = count + start) :
    Cascade ((List.range count).map fun offset =>
      (directions offset, evenShare total (offset + start))) := by
  intro position spec held
  rw [List.getElem?_map, Option.map_eq_some_iff] at held
  obtain ⟨offset, inRange, rfl⟩ := held
  obtain ⟨inside, same⟩ := List.getElem?_eq_some_iff.mp inRange
  rw [List.getElem_range] at same
  rw [List.length_range] at inside
  subst same
  rw [List.length_map, List.length_range]
  show 1 / ((total - (position + start) + 1 : ℕ) : ℚ) = _
  congr 3
  omega

/-- The splits of the layouts that go on in one way. -/
theorem layoutSplits_even (count : ℕ) :
    layoutSplits .evenHorizontal (count + 1) = (List.range count).map
        (fun offset => (.horizontal, evenShare (count + 1) (offset + 1))) ∧
      layoutSplits .evenVertical (count + 1) = (List.range count).map
        (fun offset => (.vertical, evenShare (count + 1) (offset + 1))) ∧
      layoutSplits .tiled (count + 1) = (List.range count).map
        (fun offset => (if (offset + 1) % 2 = 1 then .horizontal else .vertical,
          evenShare (count + 1) (offset + 1))) := ⟨rfl, rfl, rfl⟩

/-- The layouts with a main pane split it off first. -/
theorem layoutSplits_main (count : ℕ) :
    layoutSplits .mainVertical (count + 2) = (.horizontal, mainShare) :: (List.range count).map
        (fun offset => (.vertical, evenShare (count + 2) (offset + 2))) ∧
      layoutSplits .mainHorizontal (count + 2) = (.vertical, mainShare) :: (List.range count).map
        (fun offset => (.horizontal, evenShare (count + 2) (offset + 2))) := by
  constructor
  · rw [layoutSplits, show count + 2 - 1 = count + 1 from rfl, List.range_succ_eq_map,
      List.map_cons, List.map_map]
    rfl
  · rw [layoutSplits, show count + 2 - 1 = count + 1 from rfl, List.range_succ_eq_map,
      List.map_cons, List.map_map]
    rfl

theorem length_leafFrames (border : ℚ) (frame : Rect) (node : Node) :
    (leafFrames border frame node).length = (collectPanes node).length := by
  induction node generalizing frame with
  | leaf id pane => rfl
  | split direction ratio first second ihFirst ihSecond =>
      rw [leafFrames, collectPanes, List.length_append, List.length_append, ihFirst, ihSecond]

def unit : Rect := ⟨0, 0, 1, 1⟩

/-- One size shared out along the whole chain, in every frame. -/
theorem shared_everywhere_iff {size : Rect → ℚ} {splits : List (Direction × ℚ)} (id : LeafId)
    (pane : LivePane) {rest : List LivePane} (cascade : Cascade splits)
    (shared : ∀ spec ∈ splits, Shared size spec.1) (count : rest.length = splits.length)
    (nonzero : size unit ≠ 0) :
    (∀ frame, ∀ leaf ∈ leafFrames 0 frame (chain splits id pane rest),
      size leaf.2 = size frame / ((rest.length + 1 : ℕ) : ℚ)) ↔ rest.length + 1 ≤ 10 :=
  ⟨fun shares => (shares_chain_iff cascade shared count nonzero).mp (shares unit),
    fun few _ => shares_chain cascade shared count few⟩

/-- A main pane, and the others' shares of what it leaves. -/
theorem main_iff (direction : Direction) (next : LivePane) {rest : List LivePane}
    {splits : List (Direction × ℚ)} (cascade : Cascade splits)
    (count : rest.length = splits.length) :
    (∀ frame, (span (cutFrame 0 frame direction (clampRatio mainShare)).1 direction).extent =
          6 / 10 * (span frame direction).extent ∧
        ∀ leaf ∈ leafFrames 0 (cutFrame 0 frame direction (clampRatio mainShare)).2
            (chain splits 1 next rest),
          area leaf.2 = 4 / 10 / ((rest.length + 1 : ℕ) : ℚ) * area frame) ↔
      rest.length + 1 ≤ 10 := by
  have main : clampRatio mainShare = 6 / 10 := by norm_num [clampRatio, mainShare]
  have left : ∀ frame, area (cutFrame 0 frame direction (6 / 10)).2 = 4 / 10 * area frame := by
    intro frame
    rw [(shared_area direction frame (6 / 10)).2]
    ring
  have shared : ∀ spec ∈ splits, Shared area spec.1 := fun spec _ => shared_area spec.1
  rw [main]
  constructor
  · intro shape
    have nonzero : area (cutFrame 0 unit direction (6 / 10)).2 ≠ 0 := by
      rw [left]
      norm_num [area, unit]
    refine (@shares_chain_iff area _ splits 1 next rest cascade shared count nonzero).mp ?_
    intro leaf member
    rw [(shape unit).2 leaf member, left]
    ring
  · intro few frame
    refine ⟨?_, fun leaf member => ?_⟩
    · exact (shared_extent direction frame (6 / 10)).1.trans (mul_comm _ _)
    · rw [shares_chain cascade shared count few leaf member, left]
      ring

private theorem length_shown (frame : Rect) (splits : List (Direction × ℚ)) (id : LeafId)
    (pane : LivePane) (rest : List LivePane) :
    ((leafFrames 0 frame (chain splits id pane rest)).map Prod.snd).length = rest.length + 1 := by
  rw [List.length_map, length_leafFrames, collectPanes_chain, List.length_cons]

/-- Splits along one direction: equal shares along it, everything across it. -/
theorem even_iff (direction : Direction) (pane next : LivePane) {rest : List LivePane}
    {splits : List (Direction × ℚ)} (cascade : Cascade splits)
    (along : ∀ spec ∈ splits, spec.1 = direction) (count : (next :: rest).length = splits.length) :
    (∀ frame, ∀ shown ∈ (leafFrames 0 frame (chain splits 0 pane (next :: rest))).map Prod.snd,
      (span shown direction).extent = (span frame direction).extent /
          (((leafFrames 0 frame (chain splits 0 pane (next :: rest))).map
            Prod.snd).length : ℚ) ∧
        (span shown (transverse direction)).extent =
          (span frame (transverse direction)).extent) ↔ rest.length + 2 ≤ 10 := by
  have shared : ∀ spec ∈ splits,
      Shared (fun frame => (span frame direction).extent) spec.1 := by
    intro spec member
    rw [along spec member]
    exact shared_extent direction
  have passed : ∀ spec ∈ splits,
      Passed (fun frame => (span frame (transverse direction)).extent) spec.1 := by
    intro spec member
    rw [along spec member]
    exact passed_extent direction
  have nonzero : (span unit direction).extent ≠ 0 := by
    cases direction <;> exact one_ne_zero
  have shares := shared_everywhere_iff 0 pane cascade shared count nonzero
  simp only [length_shown, List.forall_mem_map]
  constructor
  · exact fun shape => shares.mp fun frame leaf member => (shape frame leaf member).1
  · exact fun few frame leaf member =>
      ⟨shares.mpr few frame leaf member, passed_chain passed count leaf member⟩

/-- Splits along any directions: equal shares of the area. -/
theorem tiled_iff (pane next : LivePane) {rest : List LivePane} {splits : List (Direction × ℚ)}
    (cascade : Cascade splits) (count : (next :: rest).length = splits.length) :
    (∀ frame, ∀ shown ∈ (leafFrames 0 frame (chain splits 0 pane (next :: rest))).map Prod.snd,
      area shown = area frame / (((leafFrames 0 frame (chain splits 0 pane (next :: rest))).map
        Prod.snd).length : ℚ)) ↔ rest.length + 2 ≤ 10 := by
  have nonzero : area unit ≠ 0 := by norm_num [area, unit]
  have shares := shared_everywhere_iff 0 pane cascade (fun spec _ => shared_area spec.1) count nonzero
  simp only [length_shown, List.forall_mem_map]
  exact shares

/-- A main pane that is split off first, along the direction. -/
theorem mainShape_iff (direction : Direction) (pane next : LivePane) {rest : List LivePane}
    {splits : List (Direction × ℚ)} (cascade : Cascade splits)
    (count : rest.length = splits.length) :
    (∀ frame, (∀ shown ∈ ((leafFrames 0 frame (chain ((direction, mainShare) :: splits) 0 pane
          (next :: rest))).map Prod.snd).head?,
        (span shown direction).extent = 6 / 10 * (span frame direction).extent) ∧
      ∀ shown ∈ ((leafFrames 0 frame (chain ((direction, mainShare) :: splits) 0 pane
          (next :: rest))).map Prod.snd).tail,
        area shown = 4 / 10 / ((((leafFrames 0 frame (chain ((direction, mainShare) :: splits) 0
          pane (next :: rest))).map Prod.snd).length : ℚ) - 1) * area frame) ↔
      rest.length + 2 ≤ 11 := by
  have parts : ∀ frame, (leafFrames 0 frame (chain ((direction, mainShare) :: splits) 0 pane
      (next :: rest))).map Prod.snd =
        (cutFrame 0 frame direction (clampRatio mainShare)).1 ::
          (leafFrames 0 (cutFrame 0 frame direction (clampRatio mainShare)).2
            (chain splits 1 next rest)).map Prod.snd := fun _ => rfl
  have count' : (((next :: rest).length + 1 : ℕ) : ℚ) - 1 = ((rest.length + 1 : ℕ) : ℚ) := by
    rw [List.length_cons]
    push_cast
    ring
  simp only [length_shown, count']
  simp only [parts, List.head?_cons, List.tail_cons, List.forall_mem_map, Option.mem_some_iff,
    forall_eq']
  rw [main_iff direction next cascade count]
  omega

/-- A layout has its shape in every frame up to its number of panes, and not beyond. -/
theorem hasShape_iff {layout : TabLayout} (named : layout ≠ .manual) (pane next : LivePane)
    (rest : List LivePane) :
    (∀ frame, HasShape layout frame ((leafFrames 0 frame
      (chain (layoutSplits layout (rest.length + 2)) 0 pane (next :: rest))).map Prod.snd)) ↔
      rest.length + 2 ≤ mostPanes layout := by
  have count : ∀ directions : ℕ → Direction, (next :: rest).length =
      ((List.range (rest.length + 1)).map fun offset =>
        (directions offset, evenShare (rest.length + 2) (offset + 1))).length := by
    intro directions
    rw [List.length_map, List.length_range, List.length_cons]
  have others : ∀ direction : Direction, rest.length =
      ((List.range rest.length).map fun offset =>
        (direction, evenShare (rest.length + 2) (offset + 2))).length := by
    intro direction
    rw [List.length_map, List.length_range]
  have along : ∀ direction : Direction, ∀ spec ∈ (List.range (rest.length + 1)).map
      (fun offset => (direction, evenShare (rest.length + 2) (offset + 1))),
        spec.1 = direction := by
    intro direction spec member
    obtain ⟨offset, -, rfl⟩ := List.mem_map.mp member
    rfl
  obtain ⟨horizontal, vertical, alternating⟩ := layoutSplits_even (rest.length + 1)
  obtain ⟨mainLeft, mainTop⟩ := layoutSplits_main rest.length
  cases layout with
  | manual => exact absurd rfl named
  | evenHorizontal =>
      rw [horizontal]
      exact even_iff .horizontal pane next (cascade_map _ rfl) (along .horizontal)
        (count fun _ => .horizontal)
  | evenVertical =>
      rw [vertical]
      exact even_iff .vertical pane next (cascade_map _ rfl) (along .vertical)
        (count fun _ => .vertical)
  | mainHorizontal =>
      rw [mainTop]
      exact mainShape_iff .vertical pane next (cascade_map _ rfl) (others .horizontal)
  | mainVertical =>
      rw [mainLeft]
      exact mainShape_iff .horizontal pane next (cascade_map _ rfl) (others .vertical)
  | tiled =>
      rw [alternating]
      exact tiled_iff pane next (cascade_map _ rfl)
        (count fun offset => if (offset + 1) % 2 = 1 then .horizontal else .vertical)

end Layouts

section Tabs

variable {tabs : TabManager} {tab : Tab}

/-- The tree of the active tab once the layout is applied. -/
theorem activeTree_applyLayout {layout : TabLayout} (active : tabs.tabs[tabs.active]? = some tab)
    (several : 2 ≤ tab.tree.allPanes.length) :
    (tabs.applyLayoutToActive layout).activeTree =
      some (tab.tree.rebuildFromPanes tab.tree.allPanes
        (layoutSplits layout tab.tree.allPanes.length) tab.tree.focusedPane).1 := by
  rw [TabManager.activeTree, TabManager.tabTree]
  show ((tabs.tabs.modify tabs.active _)[tabs.active]?).map Tab.tree = _
  rw [List.getElem?_modify_eq, active, Option.map_eq_map, Option.map_some, Option.map_some]
  dsimp only
  rw [if_neg (by omega)]

theorem root_rebuildFromPanes (tree : SplitTree) (pane : LivePane) (rest : List LivePane)
    (splits : List (Direction × ℚ)) (focused : PaneId) :
    (tree.rebuildFromPanes (pane :: rest) splits focused).1.root =
      some (chain splits 0 pane rest) := by
  rw [SplitTree.rebuildFromPanes, rebuildNode_eq_chain]
  dsimp only
  split
  · simp only [SplitTree.setFocusToPane, Option.bind_some]
    cases findLeafIdByPane focused (chain splits 0 pane rest) <;> rfl
  · simp only [SplitTree.setFocusToPane, Option.bind_some]
    cases findLeafIdByPane focused (chain splits 0 pane rest) <;> rfl

/-- A named layout keeps the order of the panes and the focused pane, and has its shape in every
frame, exactly up to its number of panes. -/
theorem applyLayout_shape_iff (tabs : TabManager) (tab : Tab) (layout : TabLayout)
    (named : layout ≠ .manual) (active : tabs.tabs[tabs.active]? = some tab)
    (several : 2 ≤ tab.tree.allPanes.length) :
    (∃ tree root, (tabs.applyLayoutToActive layout).activeTree = some tree ∧
      tree.root = some root ∧ tree.allPanes = tab.tree.allPanes ∧
      (tab.tree.focusedPane ≠ 0 → tree.focusedPane = tab.tree.focusedPane) ∧
      ∀ frame, HasShape layout frame ((leafFrames 0 frame root).map Prod.snd)) ↔
      tab.tree.allPanes.length ≤ mostPanes layout := by
  obtain ⟨pane, next, rest, panes⟩ :
      ∃ pane next rest, tab.tree.allPanes = pane :: next :: rest := by
    rcases shape : tab.tree.allPanes with _ | ⟨pane, _ | ⟨next, rest⟩⟩
    · rw [shape] at several
      exact absurd several (by decide)
    · rw [shape] at several
      exact absurd several (by simp)
    · exact ⟨pane, next, rest, rfl⟩
  have applied := @activeTree_applyLayout tabs tab layout active several
  have root := root_rebuildFromPanes tab.tree pane (next :: rest)
    (layoutSplits layout tab.tree.allPanes.length) tab.tree.focusedPane
  rw [← panes] at root
  have length : tab.tree.allPanes.length = rest.length + 2 := by rw [panes]; rfl
  rw [length] at root ⊢
  rw [← hasShape_iff named pane next rest]
  rw [length] at applied
  constructor
  · rintro ⟨tree, own, isApplied, isRoot, -, -, shape⟩
    rw [applied] at isApplied
    obtain rfl := Option.some.inj isApplied
    rw [root] at isRoot
    obtain rfl := Option.some.inj isRoot
    exact shape
  · intro shape
    refine ⟨_, _, applied, root, ?_, fun live => ?_, shape⟩
    · rw [SplitTree.mem_paneIds root, collectPanes_chain, panes]
    · exact KeptFocus.focusedPane_rebuildFromPanes _ live

end Tabs

def numbered (number : Nat) : LivePane :=
  let id := UInt64.ofNat number
  if live : id ≠ 0 then ⟨id, live⟩ else ⟨1, live_one⟩

def elevenPanes : List LivePane := (List.range 11).map fun index => numbered (index + 1)

/-- A tab with its panes one below the other. -/
def stacked (panes : List LivePane) : Tab where
  id := 1
  tree := (SplitTree.new.rebuildFromPanes panes [] 1).1
  title := ""
  layout := .manual
  runningCommand := none

/-- That tab alone. -/
def onlyTab (tab : Tab) : TabManager where
  tabs := [tab]
  active := 0
  prevActive := 0
  nextTabId := 2

theorem applyLayout_shape_four : ∃ tree root,
    ((onlyTab (stacked (elevenPanes.take 4))).applyLayoutToActive .mainVertical).activeTree =
        some tree ∧ tree.root = some root ∧
      ∀ frame, HasShape .mainVertical frame ((leafFrames 0 frame root).map Prod.snd) := by
  obtain ⟨tree, root, applied, held, -, -, shape⟩ :=
    (applyLayout_shape_iff (onlyTab (stacked (elevenPanes.take 4))) (stacked (elevenPanes.take 4))
      .mainVertical (by decide) rfl (by decide +kernel)).mpr (by decide +kernel)
  exact ⟨tree, root, applied, held, shape⟩

/-- The first of eleven panes side by side gets a tenth of the width. -/
theorem elevenPanes_uneven :
    ¬ ∀ (tabs : TabManager) (tab : Tab) (layout : TabLayout), layout ≠ .manual →
      tabs.tabs[tabs.active]? = some tab → 2 ≤ tab.tree.allPanes.length →
        ∃ tree root, (tabs.applyLayoutToActive layout).activeTree = some tree ∧
          tree.root = some root ∧ tree.allPanes = tab.tree.allPanes ∧
          (tab.tree.focusedPane ≠ 0 → tree.focusedPane = tab.tree.focusedPane) ∧
          ∀ frame, HasShape layout frame ((leafFrames 0 frame root).map Prod.snd) := by
  intro all
  obtain ⟨tree, root, applied, held, -, -, shape⟩ := all (onlyTab (stacked elevenPanes))
    (stacked elevenPanes) .evenHorizontal (by decide) rfl (by decide +kernel)
  have shown : (((onlyTab (stacked elevenPanes)).applyLayoutToActive .evenHorizontal).activeTree.bind
      SplitTree.root).map (fun root => ((leafFrames 0 ⟨0, 0, 110, 10⟩ root).map Prod.snd).head?) =
        some (some ⟨0, 0, 11, 10⟩) := by decide +kernel
  have length : (((onlyTab (stacked elevenPanes)).applyLayoutToActive .evenHorizontal).activeTree.bind
      SplitTree.root).map (fun root => ((leafFrames 0 ⟨0, 0, 110, 10⟩ root).map Prod.snd).length) =
        some 11 := by decide +kernel
  rw [applied, Option.bind_some, held, Option.map_some] at shown length
  have first := (shape ⟨0, 0, 110, 10⟩ ⟨0, 0, 11, 10⟩
    (List.mem_of_mem_head? (Option.some.inj shown))).1
  rw [Option.some.inj length] at first
  norm_num at first

end Boo.Runtime.NamedLayouts
