/- module: Boo/Server/StatusBar
   digest: The status bar over all updates, and what a click on it does. -/

import Boo.Lib.KeyedList
import Boo.Server.StatusComponents
import Mathlib.Algebra.Order.BigOperators.Group.List
import Mathlib.Algebra.Order.Ring.Rat
import Mathlib.Data.List.Induction
import Mathlib.Tactic.Linarith

set_option autoImplicit false
set_option relaxedAutoImplicit false

namespace Boo.Server.StatusBar

open Boo.Lib.KeyedList
open Boo.Server.StatusComponents

structure UiStatusComponent where
  source : String
  text : String
  style : StatusStyle
  click : Option StatusClick
  deriving DecidableEq

/-- The components of one entry as the snapshot lists them. -/
def uiComponents (entry : StatusComponentsUpdate) : List UiStatusComponent :=
  entry.components.map fun component =>
    ⟨entry.source, component.text, component.style, component.click⟩

/-- The action of a component whose click has an id. -/
def actionOf (clickId : String) (component : StatusComponent) : Option String :=
  component.click.bind fun click => if click.id = clickId then click.action else none

/-- `snapshot`, one zone of it. -/
def snapshotZone (store : StatusComponentStore) (zone : StatusBarZone) : List UiStatusComponent :=
  (store.entries.filter fun entry => entry.zone = zone).flatMap uiComponents

def clickAction (store : StatusComponentStore) (source clickId : String) : Option String :=
  store.entries.findSome? fun entry =>
    if entry.source = source then entry.components.findSome? (actionOf clickId) else none

/-- The command that `invoke_status_component` executes. -/
def invokeStatusComponent (store : StatusComponentStore) (source clickId : String) :
    Option String :=
  (clickAction store source clickId).filter fun action => !action.isEmpty

/-- The loop over the segments of a zone; `x` is where the next segment begins. -/
def segmentAt (width : String → ℚ) (point : ℚ) :
    ℚ → List UiStatusComponent → Option (String × String × ℚ)
  | _, [] => none
  | x, segment :: segments =>
      if x ≤ point ∧ point < x + width segment.text then
        match segment.click with
        | some click => some (segment.source, click.id, point - x)
        | none => segmentAt width point (x + width segment.text) segments
      else segmentAt width point (x + width segment.text) segments

def totalWidth (width : String → ℚ) (segments : List UiStatusComponent) : ℚ :=
  (segments.map fun segment => width segment.text).sum

/-- `status_component_at_point` in exact numbers, for a bar from `barTop` to `height`. -/
def statusComponentAtPoint (width : String → ℚ) (barTop barWidth height : ℚ)
    (store : StatusComponentStore) (point : ℚ × ℚ) : Option (String × String × ℚ) :=
  if point.2 < barTop ∨ height ≤ point.2 then none
  else
    match segmentAt width point.1 0 (snapshotZone store .left) with
    | some hit => some hit
    | none =>
        let right := snapshotZone store .right
        segmentAt width point.1 (max (barWidth - totalWidth width right) 0) right

/-- What panes and the control socket do to the store. -/
inductive StoreOp
  | set (update : StatusComponentsUpdate)
  | clear (source : String) (zone : Option StatusBarZone)

def StoreOp.apply (store : StatusComponentStore) : StoreOp → StatusComponentStore × Bool
  | .set update => store.set update
  | .clear source zone => store.clear source zone

def run (ops : List StoreOp) : StatusComponentStore :=
  ops.foldl (fun store op => (op.apply store).1) .empty

section Abstract

/-- A source has one list of components in each zone. -/
abbrev Bar := Keyed (StatusBarZone × String) (List StatusComponent)

/-- What an update means: an empty list takes the source out of the zone, any other list is what
it shows there from now on. -/
def StoreOp.applyBar (bar : Bar) : StoreOp → Bar
  | .set update =>
      if update.source = "" then bar
      else if update.components = [] then bar.erase (update.zone, update.source)
      else bar.set (update.zone, update.source) update.components
  | .clear source (some zone) => bar.erase (zone, source)
  | .clear source none => (bar.erase (.left, source)).erase (.right, source)

def runBar (ops : List StoreOp) : Bar := ops.foldl StoreOp.applyBar .empty

def entryOf (bar : Bar) (key : StatusBarZone × String) : StatusComponentsUpdate :=
  ⟨key.1, key.2, (bar.value key).getD []⟩

/-- The entries, in order of first arrival. -/
def entriesOf (bar : Bar) : List StatusComponentsUpdate := bar.order.map (entryOf bar)

/-- Nothing without a source or without components is kept. -/
def Filled (bar : Bar) : Prop :=
  ∀ key components, bar.value key = some components → key.2 ≠ "" ∧ components ≠ []

end Abstract

section Refinement

variable {bar : Bar} {store : StatusComponentStore}

theorem entriesOf_erase (bar : Bar) (key : StatusBarZone × String) :
    entriesOf (bar.erase key) =
      (entriesOf bar).filter fun entry => (entry.zone, entry.source) ≠ key := by
  have order : (bar.erase key).order = bar.order.filter (· ≠ key) := rfl
  rw [entriesOf, entriesOf, List.filter_map, order]
  refine List.map_congr_left fun other member => ?_
  have apart : other ≠ key := by simpa using List.of_mem_filter member
  rw [entryOf, entryOf, Keyed.value_erase, if_neg apart]

theorem filled_erase (filled : Filled bar) (key : StatusBarZone × String) :
    Filled (bar.erase key) := by
  intro other components held
  rw [Keyed.value_erase] at held
  split at held
  · cases held
  · exact filled other components held

/-- The store holds the entries of a bar. -/
structure Refines (store : StatusComponentStore) (bar : Bar) : Prop where
  entries : store.entries = entriesOf bar
  filled : Filled bar

theorem refines_clear (refines : Refines store bar) (source : String) (zone : StatusBarZone) :
    Refines (store.clear source (some zone)).1 (bar.erase (zone, source)) := by
  refine ⟨?_, filled_erase refines.filled _⟩
  rw [entriesOf_erase, ← refines.entries]
  refine List.filter_congr fun entry _ => ?_
  rw [Bool.eq_iff_iff]
  simp only [Option.map_some, Option.getD_some, Bool.not_eq_true', Bool.and_eq_false_iff,
    decide_eq_false_iff_not, ne_eq, decide_eq_true_iff, Prod.mk.injEq, not_and]
  constructor
  · rintro (other | other) same source_
    · exact other source_
    · exact other same.symm
  · intro apart
    by_cases same : entry.source = source
    · exact .inr fun zone_ => apart zone_.symm same
    · exact .inl same

theorem refines_clearAll (refines : Refines store bar) (source : String) :
    Refines (store.clear source none).1 ((bar.erase (.left, source)).erase (.right, source)) := by
  refine ⟨?_, filled_erase (filled_erase refines.filled _) _⟩
  rw [entriesOf_erase, entriesOf_erase, ← refines.entries, List.filter_filter]
  refine List.filter_congr fun entry _ => ?_
  cases entry.zone <;> simp

theorem filled_set (filled : Filled bar) {key : StatusBarZone × String}
    {components : List StatusComponent} (named : key.2 ≠ "") (some_ : components ≠ []) :
    Filled (bar.set key components) := by
  intro other held found
  rw [Keyed.value_set] at found
  split at found
  · rename_i same
    cases found
    exact ⟨same ▸ named, some_⟩
  · exact filled other held found

/-- A source that is not in the zone comes to the end. -/
theorem entriesOf_set_fresh {key : StatusBarZone × String} (components : List StatusComponent)
    (fresh : key ∉ bar.order) :
    entriesOf (bar.set key components) = entriesOf bar ++ [⟨key.1, key.2, components⟩] := by
  have order : (bar.set key components).order = bar.order ++ [key] := by
    rw [bar.mem_order] at fresh
    exact if_neg fresh
  rw [entriesOf, entriesOf, order, List.map_append]
  congr 1
  · refine List.map_congr_left fun other member => ?_
    have apart : other ≠ key := fun same => fresh (same ▸ member)
    rw [entryOf, entryOf, Keyed.value_set, if_neg apart]
  · simp [entryOf]

/-- A source that is in the zone keeps its place. -/
theorem entriesOf_set_held {key : StatusBarZone × String} (components : List StatusComponent)
    {index : Nat} (held : bar.order[index]? = some key) :
    entriesOf (bar.set key components) =
      (entriesOf bar).set index ⟨key.1, key.2, components⟩ := by
  have inside : index < bar.order.length := (List.getElem?_eq_some_iff.mp held).1
  have order : (bar.set key components).order = bar.order :=
    if_pos ((bar.mem_order key).mp (List.mem_of_getElem? held))
  rw [entriesOf, entriesOf, order]
  apply List.ext_getElem?
  intro other
  rw [List.getElem?_map, List.getElem?_set, List.getElem?_map, List.length_map]
  by_cases same : index = other
  · subst same
    rw [held, Option.map_some, if_pos rfl, if_pos inside, entryOf, Keyed.value_set, if_pos rfl]
    rfl
  · rw [if_neg same]
    cases found : bar.order[other]? with
    | none => rfl
    | some key' =>
        have apart : key' ≠ key := by
          rintro rfl
          exact same ((List.getElem?_inj inside bar.nodup).mp (held.trans found.symm))
        rw [Option.map_some, Option.map_some, entryOf, entryOf, Keyed.value_set, if_neg apart]

theorem refines_set (refines : Refines store bar) (update : StatusComponentsUpdate) :
    Refines (store.set update).1 ((StoreOp.set update).applyBar bar) := by
  rw [StatusComponentStore.set, StoreOp.applyBar]
  by_cases anonymous : update.source = ""
  · rw [if_pos anonymous, if_pos (by simp [anonymous])]
    exact refines
  rw [if_neg anonymous, if_neg (by simpa using anonymous)]
  by_cases empty : update.components = []
  · rw [if_pos empty, if_pos (by simp [empty])]
    exact refines_clear refines update.source update.zone
  rw [if_neg empty, if_neg (by simpa using empty)]
  refine ⟨?_, filled_set refines.filled anonymous empty⟩
  have search : (store.entries.findIdx? fun entry =>
      entry.source = update.source && entry.zone = update.zone) =
        bar.order.findIdx? (· = (update.zone, update.source)) := by
    rw [refines.entries, entriesOf, List.findIdx?_map]
    congr 1
    funext key
    rw [Bool.eq_iff_iff, Function.comp_apply, Bool.and_eq_true, decide_eq_true_iff,
      decide_eq_true_iff, decide_eq_true_iff, and_comm]
    exact (@Prod.ext_iff _ _ key (update.zone, update.source)).symm
  rw [search]
  cases found : bar.order.findIdx? (· = (update.zone, update.source)) with
  | none =>
      have fresh : (update.zone, update.source) ∉ bar.order := by
        intro member
        simpa using List.findIdx?_eq_none_iff.mp found _ member
      rw [entriesOf_set_fresh _ fresh, ← refines.entries]
  | some index =>
      obtain ⟨inside, here, -⟩ := List.findIdx?_eq_some_iff_getElem.mp found
      have held : bar.order[index]? = some (update.zone, update.source) := by
        rw [List.getElem?_eq_getElem inside, Option.some.injEq]
        exact of_decide_eq_true here
      rw [entriesOf_set_held _ held, ← refines.entries]
      dsimp only
      split
      · rename_i same
        obtain ⟨_, stored⟩ := List.getElem?_eq_some_iff.mp same
        exact (List.set_getElem_self _).symm.trans (by rw [stored])
      · rfl

theorem run_refines (ops : List StoreOp) : Refines (run ops) (runBar ops) := by
  induction ops using List.reverseRecOn with
  | nil => exact ⟨rfl, fun _ _ held => by cases held⟩
  | append_singleton ops op ih =>
      rw [run, runBar, List.foldl_append, List.foldl_append]
      cases op with
      | set update => exact refines_set ih update
      | clear source zone =>
          cases zone with
          | none => exact refines_clearAll ih source
          | some zone => exact refines_clear ih source zone

theorem clear_flag (store : StatusComponentStore) (source : String)
    (zone : Option StatusBarZone) :
    (store.clear source zone).2 = true ↔ (store.clear source zone).1.entries ≠ store.entries := by
  rw [StatusComponentStore.clear]
  simp only [ne_eq, decide_not, Bool.not_eq_true', decide_eq_false_iff_not]
  refine not_congr ⟨fun same => ?_, fun same => congrArg List.length same⟩
  exact List.filter_sublist.eq_of_length same

/-- The server is told of a change exactly if there was one. -/
theorem apply_flag (store : StatusComponentStore) (op : StoreOp) :
    (op.apply store).2 = true ↔ (op.apply store).1.entries ≠ store.entries := by
  cases op with
  | clear source zone => exact clear_flag store source zone
  | set update =>
      rw [StoreOp.apply, StatusComponentStore.set]
      split
      · simp
      · split
        · exact clear_flag store update.source (some update.zone)
        · split
          · rename_i index found
            obtain ⟨inside, -, -⟩ := List.findIdx?_eq_some_iff_getElem.mp found
            split
            · simp
            · rename_i differs
              simp only [ne_eq, true_iff]
              intro same
              have stored := congrArg (fun entries => entries[index]?) same
              simp only [List.getElem?_set_self inside] at stored
              exact differs stored.symm
          · simp

end Refinement

section Clicks

variable {width : String → ℚ} {point offset : ℚ} {source clickId : String}

/-- The point is over a segment that takes clicks: `before` are the segments to its left. -/
def Over (width : String → ℚ) (start : ℚ) (segments : List UiStatusComponent) (point : ℚ)
    (source clickId : String) (offset : ℚ) : Prop :=
  ∃ before segment after click, segments = before ++ segment :: after ∧
    segment.click = some click ∧ source = segment.source ∧ clickId = click.id ∧
      offset = point - (start + totalWidth width before) ∧ 0 ≤ offset ∧
        offset < width segment.text

theorem totalWidth_nonneg (positive : ∀ text, 0 ≤ width text)
    (segments : List UiStatusComponent) : 0 ≤ totalWidth width segments := by
  refine List.sum_nonneg fun extent member => ?_
  obtain ⟨segment, -, rfl⟩ := List.mem_map.mp member
  exact positive _

theorem over_cons {start : ℚ} {segment : UiStatusComponent} {segments : List UiStatusComponent} :
    Over width start (segment :: segments) point source clickId offset ↔
      (∃ click, segment.click = some click ∧ source = segment.source ∧ clickId = click.id ∧
          offset = point - start ∧ 0 ≤ offset ∧ offset < width segment.text) ∨
        Over width (start + width segment.text) segments point source clickId offset := by
  have total (before : List UiStatusComponent) : totalWidth width (segment :: before) =
      width segment.text + totalWidth width before := by simp [totalWidth]
  constructor
  · rintro ⟨before, found, after, click, split, takes, rfl, rfl, rfl, low, high⟩
    cases before with
    | nil =>
        obtain ⟨rfl, rfl⟩ := List.cons.inj split
        refine .inl ⟨click, takes, rfl, rfl, ?_, low, high⟩
        simp [totalWidth]
    | cons first before =>
        obtain ⟨rfl, rfl⟩ := List.cons.inj split
        refine .inr ⟨before, found, after, click, rfl, takes, rfl, rfl, ?_, low, high⟩
        rw [total, add_assoc]
  · rintro (⟨click, takes, rfl, rfl, rfl, low, high⟩ |
      ⟨before, found, after, click, rfl, takes, rfl, rfl, rfl, low, high⟩)
    · refine ⟨[], segment, segments, click, rfl, takes, rfl, rfl, ?_, low, high⟩
      simp [totalWidth]
    · refine ⟨segment :: before, found, after, click, rfl, takes, rfl, rfl, ?_, low, high⟩
      rw [total, add_assoc]

/-- To the left of where the segments begin there is none. -/
theorem Over.start_le (positive : ∀ text, 0 ≤ width text) {start : ℚ}
    {segments : List UiStatusComponent}
    (covers : Over width start segments point source clickId offset) : start ≤ point := by
  obtain ⟨before, found, after, click, -, -, -, -, rfl, low, -⟩ := covers
  have left := totalWidth_nonneg positive before
  linarith

theorem segmentAt_iff (positive : ∀ text, 0 ≤ width text) (start : ℚ)
    (segments : List UiStatusComponent) :
    segmentAt width point start segments = some (source, clickId, offset) ↔
      Over width start segments point source clickId offset := by
  induction segments generalizing start with
  | nil => simp [segmentAt, Over]
  | cons segment segments ih =>
      rw [segmentAt, over_cons]
      by_cases inside : start ≤ point ∧ point < start + width segment.text
      · rw [if_pos inside]
        cases takes : segment.click with
        | none => simp [ih]
        | some click =>
            have beyond : ¬ Over width (start + width segment.text) segments point source clickId
                offset := fun covers => absurd (covers.start_le positive) (not_le.mpr inside.2)
            simp only [Option.some.injEq, Prod.mk.injEq, beyond, or_false]
            constructor
            · rintro ⟨rfl, rfl, rfl⟩
              exact ⟨click, rfl, rfl, rfl, rfl, sub_nonneg.mpr inside.1, by linarith [inside.2]⟩
            · rintro ⟨_, rfl, rfl, rfl, rfl, -, -⟩
              exact ⟨rfl, rfl, rfl⟩
      · rw [if_neg inside, ih]
        refine ⟨.inr, ?_⟩
        rintro (⟨click, -, -, -, rfl, low, high⟩ | covers)
        · exact absurd ⟨by linarith, by linarith⟩ inside
        · exact covers

/-- Behind where the segments end there is none. -/
theorem Over.lt_end (positive : ∀ text, 0 ≤ width text) {start : ℚ}
    {segments : List UiStatusComponent}
    (covers : Over width start segments point source clickId offset) :
    point < start + totalWidth width segments := by
  obtain ⟨before, found, after, click, rfl, -, -, -, rfl, -, high⟩ := covers
  have total : totalWidth width (before ++ found :: after) =
      totalWidth width before + (width found.text + totalWidth width after) := by simp [totalWidth]
  have right := totalWidth_nonneg positive after
  linarith

/-- What a point shows, each segment as far as its text is wide: the left zone lies over the right
one. How the bar is drawn is left out. -/
def Hit (width : String → ℚ) (barTop barWidth height : ℚ) (store : StatusComponentStore)
    (point : ℚ × ℚ) (source clickId : String) (offset : ℚ) : Prop :=
  barTop ≤ point.2 ∧ point.2 < height ∧
    (Over width 0 (snapshotZone store .left) point.1 source clickId offset ∨
      (∀ source clickId offset,
          ¬ Over width 0 (snapshotZone store .left) point.1 source clickId offset) ∧
        Over width (max (barWidth - totalWidth width (snapshotZone store .right)) 0)
          (snapshotZone store .right) point.1 source clickId offset)

theorem statusComponentAtPoint_iff (positive : ∀ text, 0 ≤ width text) (barTop barWidth height : ℚ)
    (store : StatusComponentStore) (point : ℚ × ℚ) :
    statusComponentAtPoint width barTop barWidth height store point =
        some (source, clickId, offset) ↔
      Hit width barTop barWidth height store point source clickId offset := by
  rw [statusComponentAtPoint, Hit]
  by_cases outside : point.2 < barTop ∨ height ≤ point.2
  · rw [if_pos outside]
    refine ⟨fun none => (by cases none), ?_⟩
    rintro ⟨low, high, -⟩
    rcases outside with above | below
    · exact absurd low (not_le.mpr above)
    · exact absurd high (not_lt.mpr below)
  · obtain ⟨low, high⟩ := not_or.mp outside
    rw [if_neg outside, and_iff_right (not_lt.mp low), and_iff_right (not_le.mp high)]
    cases left : segmentAt width point.1 0 (snapshotZone store .left) with
    | none =>
        have free (source clickId : String) (offset : ℚ) :
            ¬ Over width 0 (snapshotZone store .left) point.1 source clickId offset := by
          intro covers
          rw [← segmentAt_iff positive, left] at covers
          cases covers
        dsimp only
        rw [segmentAt_iff positive]
        exact ⟨fun covers => .inr ⟨free, covers⟩, fun shown => shown.elim
          (fun covers => absurd covers (free _ _ _)) And.right⟩
    | some hit =>
        obtain ⟨source', clickId', offset'⟩ := hit
        have there := (segmentAt_iff positive 0 (snapshotZone store .left)).mp left
        have overLeft : some (source', clickId', offset') = some (source, clickId, offset) ↔
            Over width 0 (snapshotZone store .left) point.1 source clickId offset := by
          rw [← left, segmentAt_iff positive]
        exact overLeft.trans
          ⟨.inl, fun shown => shown.elim id fun free => absurd there (free.1 _ _ _)⟩

/-- All components of a source, of the zone that it came to first and of the other one. -/
def componentsOf (store : StatusComponentStore) (source : String) : List StatusComponent :=
  (store.entries.filter fun entry => entry.source = source).flatMap
    StatusComponentsUpdate.components

theorem clickAction_eq (store : StatusComponentStore) (source clickId : String) :
    clickAction store source clickId =
      (componentsOf store source).findSome? (actionOf clickId) := by
  rw [clickAction, componentsOf]
  induction store.entries with
  | nil => rfl
  | cons entry entries ih =>
      rw [List.findSome?_cons, List.filter_cons]
      by_cases same : entry.source = source
      · rw [if_pos same, if_pos (decide_eq_true same), List.flatMap_cons, List.findSome?_append, ih]
        cases entry.components.findSome? (actionOf clickId) <;> rfl
      · rw [if_neg same, if_neg (by simpa using same), ih]

/-- A click runs the first action under its id among the components of its source. -/
theorem invokeStatusComponent_iff (store : StatusComponentStore) {action : String} :
    invokeStatusComponent store source clickId = some action ↔ action ≠ "" ∧
      ∃ before component after, componentsOf store source = before ++ component :: after ∧
        actionOf clickId component = some action ∧
          ∀ earlier ∈ before, actionOf clickId earlier = none := by
  rw [invokeStatusComponent, clickAction_eq, Option.filter_eq_some_iff, and_comm,
    List.findSome?_eq_some_iff]
  refine and_congr (by simp) (exists_congr fun before => ?_)
  exact ⟨fun ⟨component, after, rest⟩ => ⟨component, after, rest⟩,
    fun ⟨component, after, rest⟩ => ⟨component, after, rest⟩⟩

/-- After whatever updates: the store holds what each source last put into each zone, in order of
first arrival, and says of every further update whether it changes that; and a click, wherever it
falls, reaches the component that is drawn there and the first action under its id. -/
theorem statusBar_click (ops : List StoreOp) (positive : ∀ text, 0 ≤ width text)
    (barTop barWidth height : ℚ) (point : ℚ × ℚ) {action : String} :
    Refines (run ops) (runBar ops) ∧
      (∀ op : StoreOp, (op.apply (run ops)).2 = true ↔
        entriesOf (op.applyBar (runBar ops)) ≠ entriesOf (runBar ops)) ∧
      (statusComponentAtPoint width barTop barWidth height (run ops) point =
          some (source, clickId, offset) ↔
        Hit width barTop barWidth height (run ops) point source clickId offset) ∧
      (invokeStatusComponent (run ops) source clickId = some action ↔ action ≠ "" ∧
        ∃ before component after, componentsOf (run ops) source = before ++ component :: after ∧
          actionOf clickId component = some action ∧
            ∀ earlier ∈ before, actionOf clickId earlier = none) := by
  have refines := run_refines ops
  refine ⟨refines, fun op => ?_,
    statusComponentAtPoint_iff positive barTop barWidth height (run ops) point,
    invokeStatusComponent_iff (run ops)⟩
  have next := run_refines (ops ++ [op])
  rw [run, runBar, List.foldl_append, List.foldl_append] at next
  have stepped : (op.apply (run ops)).1.entries = entriesOf (op.applyBar (runBar ops)) :=
    next.entries
  rw [apply_flag, stepped, refines.entries]

def plainStyle : StatusStyle := ⟨none, none, false, false, none, false⟩

/-- A text without a click. -/
def labelText : StatusComponent := ⟨"job", plainStyle, none⟩

def button (id action : String) : StatusComponent := ⟨id, plainStyle, some ⟨id, some action⟩⟩

/-- A source that comes to both zones, and another one that goes again. -/
def bothZones : List StoreOp :=
  [.set ⟨.left, "clock", [labelText]⟩,
    .set ⟨.left, "tool", [labelText, button "run" "split-right"]⟩,
    .set ⟨.right, "tool", [button "end" "close-pane", labelText]⟩, .clear "clock" none]

/-- A click on the first component of the right zone. -/
theorem statusBar_click_right :
    (statusComponentAtPoint (fun _ => 3) 0 80 1 (run bothZones) (75, 0) =
        some ("tool", "end", 1) ∧
      invokeStatusComponent (run bothZones) "tool" "end" = some "close-pane") ∧
      ((StoreOp.clear "tool" (some .right)).apply (run bothZones)).2 = true := by
  have positive : ∀ _ : String, (0 : ℚ) ≤ 3 := fun _ => by norm_num
  have zone : snapshotZone (run bothZones) .right =
      [⟨"tool", "end", plainStyle, some ⟨"end", some "close-pane"⟩⟩,
        ⟨"tool", "job", plainStyle, none⟩] := by decide
  have left : snapshotZone (run bothZones) .left =
      [⟨"tool", "job", plainStyle, none⟩,
        ⟨"tool", "run", plainStyle, some ⟨"run", some "split-right"⟩⟩] := by decide
  have click := @statusBar_click (fun _ => 3) 1 "tool" "end" bothZones positive 0 80 1 (75, 0)
    "close-pane"
  refine ⟨⟨click.2.2.1.mpr ⟨by norm_num, by norm_num, .inr ⟨?_, ?_⟩⟩,
    click.2.2.2.mpr ⟨by decide, ?_⟩⟩, (click.2.1 _).mpr (by decide)⟩
  · intro source clickId offset covers
    have ends := covers.lt_end positive
    rw [left] at ends
    norm_num [totalWidth] at ends
  · rw [zone]
    exact ⟨[], _, _, ⟨"end", some "close-pane"⟩, rfl, rfl, rfl, rfl, by norm_num [totalWidth],
      by norm_num, by norm_num⟩
  · exact ⟨[labelText, button "run" "split-right"], button "end" "close-pane", [labelText], by decide,
      by decide, by decide⟩

end Clicks

end Boo.Server.StatusBar
