/- module: Boo/Runtime/PreviousTab
   digest: When the previous tab that is kept as an index is the tab that was active before. -/

import Boo.Lib.Runs
import Boo.Runtime.Tabs
import Mathlib.Data.List.InsertIdx

set_option autoImplicit false
set_option relaxedAutoImplicit false

namespace Boo.Runtime.PreviousTab

open Boo.Lib.Entries
open Boo.Lib.Runs
open Boo.Server.Frames
open Boo.Runtime.Splits
open Boo.Runtime.Tabs

/-- Whatever an operation on panes does to the tree of one tab. -/
abbrev TreeEdit :=
  { update : SplitTree → SplitTree // ∀ tree, tree.FocusOk → (update tree).FocusOk }

inductive TabStep
  | newTab (pane : LivePane)
  | gotoTab (index : Nat)
  | nextTab
  | prevTab
  | removeTab (index : Nat)
  | breakPane
  | inTab (index : Nat) (edit : TreeEdit)

def TabStep.apply (tabs : TabManager) : TabStep → TabManager
  | newTab pane => tabs.newTab pane
  | gotoTab index => tabs.gotoTab index
  | nextTab => tabs.nextTab
  | prevTab => tabs.prevTab
  | removeTab index => tabs.removeTab index
  | breakPane => tabs.breakActivePaneToTab.getD tabs
  | inTab index edit => tabs.updateTree index edit.val

/-- The tabs with what the user saw: the tab that was active before the active one. -/
structure Recorded where
  tabs : TabManager
  previous : Option TabId

/-- Another tab has become active, or the same one is active still. -/
def Recorded.moved (state : Recorded) (after : TabManager) : Recorded where
  tabs := after
  previous :=
    if after.activeTabId = state.tabs.activeTabId then state.previous else state.tabs.activeTabId

def record (state : Recorded) (step : TabStep) : Recorded := state.moved (step.apply state.tabs)

def tabIds (tabs : TabManager) : List TabId := tabs.tabs.map Tab.id

/-- The tab that is active after the action `PreviousTab`. -/
def goesBackTo (tabs : TabManager) : Option TabId := (tabs.gotoTab tabs.previousActive).activeTabId

/-- The tab that was active before still exists. -/
def Recorded.Lives (state : Recorded) : Prop := ∃ id ∈ tabIds state.tabs, state.previous = some id

def Returns (state : Recorded) : Prop :=
  state.Lives → goesBackTo state.tabs = state.previous

/-- Breaking the active pane out leaves other panes in its tab. -/
def LeavesPanes (tabs : TabManager) : Prop :=
  ∃ removed ∈ tabs.activeTree.bind SplitTree.removeFocused, removed.2.len ≠ 0

/-- A tab is opened only where the kept index is that of the active tab, and no tab in front of
the previous one is removed, unless the previous one is the last. -/
def Remembers (state : Recorded) : TabStep → Prop
  | .newTab _ => state.tabs.tabs = [] ∨ state.tabs.prevActive = state.tabs.active
  | .removeTab index => index ≠ state.tabs.active → state.Lives →
      index < state.tabs.prevActive → state.tabs.tabs.length ≤ state.tabs.prevActive + 1
  | .breakPane => LeavesPanes state.tabs → state.tabs.prevActive = state.tabs.active
  | _ => True

section Ids

open TabManager

variable {tabs after : TabManager} {state : Recorded}

theorem activeTabId_eq (tabs : TabManager) : tabs.activeTabId = (tabIds tabs)[tabs.active]? := by
  rw [activeTabId, tabIds, List.getElem?_map]

theorem length_tabIds (tabs : TabManager) : (tabIds tabs).length = tabs.tabs.length :=
  List.length_map _

theorem nodup_tabIds (ok : TabsOk tabs) : (tabIds tabs).Nodup := ok.ids

theorem goesBackTo_eq (tabs : TabManager) :
    goesBackTo tabs = (tabIds tabs)[min tabs.prevActive ((tabIds tabs).length - 1)]? := by
  rw [length_tabIds, goesBackTo, activeTabId_eq]
  unfold TabManager.gotoTab previousActive
  split
  · rename_i still
    rcases still with none' | here
    · have empty : tabs.tabs.length = 0 := by omega
      rw [List.getElem?_eq_none (by rw [length_tabIds]; omega),
        List.getElem?_eq_none (by rw [length_tabIds]; omega)]
    · rw [here]
  · rfl

theorem moved_previous (moves : after.activeTabId ≠ state.tabs.activeTabId) :
    (state.moved after).previous = state.tabs.activeTabId := if_neg moves

/-- The tab that was active is gone, so the law asks nothing. -/
theorem returns_of_gone (moves : after.activeTabId ≠ state.tabs.activeTabId)
    (gone : ∀ id ∈ state.tabs.activeTabId, id ∉ tabIds after) : Returns (state.moved after) := by
  rintro ⟨id, member, previous⟩
  rw [moved_previous moves] at previous
  exact absurd member (gone id previous)

theorem returns_of_same (ids : tabIds after = tabIds state.tabs)
    (active : after.active = state.tabs.active) (kept : after.prevActive = state.tabs.prevActive) :
    Returns (state.moved after) ↔ Returns state := by
  have same : after.activeTabId = state.tabs.activeTabId := by
    rw [activeTabId_eq, activeTabId_eq, ids, active]
  have previous : (state.moved after).previous = state.previous := if_pos same
  have back : goesBackTo after = goesBackTo state.tabs := by
    rw [goesBackTo_eq, goesBackTo_eq, ids, kept]
  have lives : (state.moved after).Lives ↔ state.Lives := by
    rw [Recorded.Lives, Recorded.Lives, previous]
    exact iff_of_eq (congrArg (fun ids => ∃ id ∈ ids, state.previous = some id) ids)
  rw [Returns, Returns, lives, previous]
  exact imp_congr_right fun _ => by rw [← back]; rfl

/-- After a `goto_tab` the index of the tab before is kept. -/
theorem returns_gotoTab (ok : TabsOk state.tabs) (law : Returns state) (index : Nat) :
    Returns (state.moved (state.tabs.gotoTab index)) := by
  rw [TabManager.gotoTab]
  split
  · exact (returns_of_same rfl rfl rfl).mpr law
  · rename_i inside
    rw [not_or, Nat.not_le] at inside
    obtain ⟨inside, elsewhere⟩ := inside
    have bound : state.tabs.active < (tabIds state.tabs).length := by
      have := ok.active
      rw [length_tabIds]
      omega
    have moves : (tabIds state.tabs)[index]? ≠ state.tabs.activeTabId := by
      rw [activeTabId_eq, Ne, List.getElem?_inj (by rw [length_tabIds]; exact inside)
        (nodup_tabIds ok)]
      exact elsewhere
    intro _
    rw [moved_previous (by rw [activeTabId_eq]; exact moves)]
    show goesBackTo _ = _
    rw [goesBackTo_eq, activeTabId_eq]
    show (tabIds state.tabs)[min state.tabs.active ((tabIds state.tabs).length - 1)]? = _
    rw [Nat.min_eq_left (by omega)]

/-- A tab opened at the end does not change the kept index. -/
theorem returns_opened (ok : TabsOk state.tabs) {fresh : TabId}
    (ids : tabIds after = tabIds state.tabs ++ [fresh]) (new : fresh ∉ tabIds state.tabs)
    (active : after.active = state.tabs.tabs.length)
    (kept : after.prevActive = state.tabs.prevActive) :
    Returns (state.moved after) ↔
      state.tabs.tabs = [] ∨ state.tabs.prevActive = state.tabs.active := by
  have opened : after.activeTabId = some fresh := by
    rw [activeTabId_eq, ids, active, ← length_tabIds, List.getElem?_concat_length]
  have moves : after.activeTabId ≠ state.tabs.activeTabId := by
    rw [opened, activeTabId_eq]
    exact fun same => new (List.mem_of_getElem? same.symm)
  have previous := moved_previous moves
  have distinct : (tabIds state.tabs ++ [fresh]).Nodup := by
    rw [List.nodup_append]
    exact ⟨ok.ids, List.nodup_singleton _, fun id member other isFresh same =>
      new (List.mem_singleton.mp isFresh ▸ same ▸ member)⟩
  by_cases none' : state.tabs.tabs = []
  · simp only [none', true_or, iff_true]
    rintro ⟨id, -, isPrevious⟩
    rw [previous, activeTabId_eq, tabIds, none'] at isPrevious
    cases isPrevious
  · have bound : state.tabs.active < (tabIds state.tabs).length := by
      have := ok.active
      have := List.length_pos_iff.mpr none'
      rw [length_tabIds]
      omega
    have lives : (state.moved after).Lives := by
      refine ⟨(tabIds state.tabs)[state.tabs.active], ?_, ?_⟩
      · show _ ∈ tabIds after
        rw [ids]
        exact List.mem_append_left _ (List.getElem_mem bound)
      · rw [previous, activeTabId_eq, List.getElem?_eq_getElem bound]
    have before : state.tabs.activeTabId =
        (tabIds state.tabs ++ [fresh])[state.tabs.active]? := by
      rw [activeTabId_eq, List.getElem?_append_left bound]
    simp only [none', false_or]
    rw [Returns, previous, before]
    show (_ → goesBackTo after = _) ↔ _
    rw [goesBackTo_eq, ids, kept, List.length_append, List.length_singleton, Nat.add_sub_cancel,
      List.getElem?_inj (by rw [List.length_append, List.length_singleton]; omega) distinct]
    constructor
    · intro law
      have := law lives
      omega
    · intro same _
      omega

theorem tabIds_removeTab {index : Nat} (inside : index < tabs.tabs.length) :
    tabIds (tabs.removeTab index) = (tabIds tabs).eraseIdx index := by
  rw [TabManager.removeTab, if_neg (Nat.not_le.mpr inside)]
  exact (List.eraseIdx_map _ _ _).symm

/-- The active tab stays active while another one is removed. -/
theorem activeTabId_removeTab (ok : TabsOk tabs) {index : Nat} (inside : index < tabs.tabs.length)
    (other : index ≠ tabs.active) : (tabs.removeTab index).activeTabId = tabs.activeTabId := by
  have bound : tabs.active < (tabIds tabs).length := by
    have := ok.active
    rw [length_tabIds]
    omega
  have at_ := List.getElem?_eq_getElem bound
  rw [activeTabId_eq, activeTabId_eq, tabIds_removeTab inside, at_,
    getElem?_eraseIdx_eq_iff (nodup_tabIds ok) at_]
  rw [length_tabIds] at bound
  rw [TabManager.removeTab, if_neg (Nat.not_le.mpr inside)]
  dsimp only
  unfold activeAfterRemoval
  split <;> split <;> (try split) <;> (try split) <;> omega

/-- The removal of any other tab leaves the tab that was active before as it is. -/
theorem previous_removeTab (ok : TabsOk state.tabs) {index : Nat}
    (inside : index < state.tabs.tabs.length) (other : index ≠ state.tabs.active) :
    (record state (.removeTab index)).previous = state.previous :=
  if_pos (activeTabId_removeTab ok inside other)

/-- A removal moves the entries behind the removed one, and not the kept index, which still
names the previous tab only where it lies in front of them or past the end. -/
theorem returns_removeTab_iff (ok : TabsOk state.tabs) (law : Returns state) (index : Nat) :
    Returns (state.moved (state.tabs.removeTab index)) ↔ Remembers state (.removeTab index) := by
  by_cases inside : index < state.tabs.tabs.length
  swap
  · have outside : state.tabs.removeTab index = state.tabs := if_pos (Nat.not_lt.mp inside)
    rw [outside, returns_of_same rfl rfl rfl, Remembers, iff_true_left law]
    intro _ _ before
    omega
  have ids := tabIds_removeTab inside
  have distinct := nodup_tabIds ok
  by_cases other : index = state.tabs.active
  · have gone : ∀ id ∈ state.tabs.activeTabId, id ∉ tabIds (state.tabs.removeTab index) := by
      intro id isActive
      rw [activeTabId_eq] at isActive
      rw [ids, mem_eraseIdx_iff distinct isActive]
      exact not_not.mpr other
    have moves : (state.tabs.removeTab index).activeTabId ≠ state.tabs.activeTabId := by
      intro same
      have active : state.tabs.active < (tabIds state.tabs).length := by
        rwa [length_tabIds, ← other]
      have isActive : state.tabs.activeTabId = some (tabIds state.tabs)[state.tabs.active] := by
        rw [activeTabId_eq, List.getElem?_eq_getElem active]
      apply gone _ isActive
      rw [isActive, activeTabId_eq] at same
      exact List.mem_of_getElem? same
    rw [Remembers, iff_true_left (returns_of_gone moves gone)]
    exact fun elsewhere => absurd other elsewhere
  · have previous : (state.moved (state.tabs.removeTab index)).previous = state.previous :=
      previous_removeTab ok inside other
    have lives : (state.moved (state.tabs.removeTab index)).Lives ↔
        ∃ id ∈ (tabIds state.tabs).eraseIdx index, state.previous = some id := by
      rw [Recorded.Lives, previous, ← ids]
      rfl
    rw [Remembers, Returns, previous, lives]
    show (_ → goesBackTo (state.tabs.removeTab index) = _) ↔ _
    by_cases before : state.Lives
    · obtain ⟨id, member, isPrevious⟩ := before
      have at_ := law ⟨id, member, isPrevious⟩
      rw [goesBackTo_eq, isPrevious, length_tabIds] at at_
      have kept : (state.tabs.removeTab index).prevActive = state.tabs.prevActive := by
        rw [TabManager.removeTab, if_neg (Nat.not_le.mpr inside)]
      have length : (tabIds (state.tabs.removeTab index)).length = state.tabs.tabs.length - 1 := by
        rw [ids, List.length_eraseIdx_of_lt (by rwa [length_tabIds]), length_tabIds]
      have stays : (∃ kept ∈ (tabIds state.tabs).eraseIdx index, some id = some kept) ↔
          index ≠ min state.tabs.prevActive (state.tabs.tabs.length - 1) := by
        rw [← @mem_eraseIdx_iff _ _ _ index _ distinct at_]
        simp
      have there : state.Lives := ⟨id, member, isPrevious⟩
      rw [goesBackTo_eq, isPrevious, kept, length, ids, getElem?_eraseIdx_eq_iff distinct at_,
        stays]
      simp only [there, other, ne_eq, not_false_eq_true, true_imp_iff]
      split <;> omega
    · have missing : ¬ ∃ id ∈ (tabIds state.tabs).eraseIdx index, state.previous = some id := by
        rintro ⟨id, member, isPrevious⟩
        exact before ⟨id, List.mem_of_mem_eraseIdx member, isPrevious⟩
      simp only [missing, before, false_imp_iff, implies_true]

theorem tabIds_newTab (tabs : TabManager) (pane : LivePane) :
    tabIds (tabs.newTab pane) = tabIds tabs ++ [tabs.nextTabId] :=
  List.map_append

theorem tabIds_updateTab (tabs : TabManager) (index : Nat) {update : Tab → Tab}
    (sameId : ∀ tab, (update tab).id = tab.id) :
    tabIds (tabs.updateTab index update) = tabIds tabs :=
  map_modify_same tabs.tabs index sameId

theorem fresh_notMem (ok : TabsOk tabs) : tabs.nextTabId ∉ tabIds tabs := by
  intro member
  obtain ⟨tab, held, same⟩ := List.mem_map.mp member
  exact absurd (ok.fresh tab held) (same ▸ Nat.lt_irrefl _)

/-- The active tab has given way to a new one. -/
theorem returns_replaced (ok : TabsOk state.tabs) (pane : LivePane)
    (others : tabIds tabs = (tabIds state.tabs).eraseIdx state.tabs.active)
    (next : tabs.nextTabId = state.tabs.nextTabId) :
    Returns (state.moved (tabs.newTab pane)) := by
  have new := fresh_notMem ok
  have opened : (tabs.newTab pane).activeTabId = some state.tabs.nextTabId := by
    rw [activeTabId_eq, tabIds_newTab, next]
    show (_ ++ _)[tabs.tabs.length]? = _
    rw [← length_tabIds, List.getElem?_concat_length]
  apply returns_of_gone
  · rw [opened, activeTabId_eq]
    exact fun same => new (List.mem_of_getElem? same.symm)
  · intro id isActive
    rw [activeTabId_eq] at isActive
    rw [tabIds_newTab, others, next, List.mem_append, List.mem_singleton, not_or,
      mem_eraseIdx_iff (nodup_tabIds ok) isActive, not_not]
    exact ⟨rfl, fun same => new (same ▸ List.mem_of_getElem? isActive)⟩

theorem returns_breakPane_iff (ok : TabsOk state.tabs) (law : Returns state) :
    Returns (state.moved (state.tabs.breakActivePaneToTab.getD state.tabs)) ↔
      Remembers state .breakPane := by
  rw [Remembers, LeavesPanes, breakActivePaneToTab]
  cases taken : state.tabs.activeTree.bind SplitTree.removeFocused with
  | none =>
      rw [Option.getD_none, returns_of_same rfl rfl rfl, iff_true_left law]
      rintro ⟨removed, isNone, -⟩
      cases isNone
  | some removed =>
      obtain ⟨pane, tree⟩ := removed
      obtain ⟨old, held, -⟩ := Option.bind_eq_some_iff.mp taken
      have inside : state.tabs.active < state.tabs.tabs.length := inside_of_tabTree held
      have ids : tabIds (state.tabs.putTree state.tabs.active tree) = tabIds state.tabs :=
        tabIds_updateTab _ _ fun _ => rfl
      have count : (state.tabs.putTree state.tabs.active tree).tabs.length =
          state.tabs.tabs.length := List.length_modify _ _ _
      dsimp only
      rw [Option.getD_some]
      by_cases alone : tree.len = 0
      · have others : tabIds ((state.tabs.putTree state.tabs.active tree).removeTab
            state.tabs.active) = (tabIds state.tabs).eraseIdx state.tabs.active := by
          rw [tabIds_removeTab (by rwa [count]), ids]
        have next : ((state.tabs.putTree state.tabs.active tree).removeTab
            state.tabs.active).nextTabId = state.tabs.nextTabId := by
          rw [TabManager.removeTab]
          split <;> rfl
        rw [if_pos alone, iff_true_left (returns_replaced ok pane others next)]
        rintro ⟨removed, isRemoved, leaves⟩
        cases isRemoved
        exact absurd alone leaves
      · rw [if_neg alone]
        have opened := @returns_opened
          ((state.tabs.putTree state.tabs.active tree).newTab pane) state ok state.tabs.nextTabId
          (by rw [tabIds_newTab, ids]; rfl) (fresh_notMem ok) count rfl
        rw [opened, or_iff_right (List.ne_nil_of_length_pos (by omega))]
        exact ⟨fun same _ => same, fun same => same ⟨_, rfl, alone⟩⟩

/-- One step keeps the law exactly where the kept index goes on naming the tab before. -/
theorem returns_record_iff (ok : TabsOk state.tabs) (law : Returns state) (step : TabStep) :
    Returns (record state step) ↔ Remembers state step := by
  have trivially : ∀ {after : TabManager}, Returns (state.moved after) →
      (Returns (state.moved after) ↔ True) := fun holds => iff_true_intro holds
  cases step with
  | newTab pane =>
      exact returns_opened ok (tabIds_newTab state.tabs pane) (fresh_notMem ok) rfl rfl
  | gotoTab index => exact trivially (returns_gotoTab ok law index)
  | nextTab =>
      apply trivially
      show Returns (state.moved state.tabs.nextTab)
      rw [TabManager.nextTab]
      split
      · exact (returns_of_same rfl rfl rfl).mpr law
      · exact returns_gotoTab ok law _
  | prevTab =>
      apply trivially
      show Returns (state.moved state.tabs.prevTab)
      rw [TabManager.prevTab]
      split
      · exact (returns_of_same rfl rfl rfl).mpr law
      · exact returns_gotoTab ok law _
  | removeTab index => exact returns_removeTab_iff ok law index
  | breakPane => exact returns_breakPane_iff ok law
  | inTab index edit =>
      have ids : tabIds (state.tabs.updateTree index edit.val) = tabIds state.tabs :=
        tabIds_updateTab _ _ fun _ => rfl
      exact trivially ((returns_of_same ids rfl rfl).mpr law)

theorem tabsOk_record (ok : TabsOk state.tabs) (step : TabStep) :
    TabsOk (record state step).tabs := by
  cases step with
  | newTab pane => exact ok.newTab pane
  | gotoTab index => exact ok.gotoTab index
  | nextTab => exact ok.nextTab
  | prevTab => exact ok.prevTab
  | removeTab index => exact ok.removeTab index
  | breakPane =>
      show TabsOk (state.tabs.breakActivePaneToTab.getD state.tabs)
      cases broken : state.tabs.breakActivePaneToTab with
      | none => exact ok
      | some tabs => exact ok.breakActivePaneToTab broken
  | inTab index edit =>
      exact ok.updateTab index (fun _ => rfl) fun tab focus => edit.property tab.tree focus

end Ids

section Runs

open TabManager

/-- Along a run `PreviousTab` always goes to the tab that was active before, while it exists,
exactly when every step remembers it. -/
theorem previous_tab_iff (start : Recorded) (steps : List TabStep) (ok : TabsOk start.tabs)
    (law : Returns start) :
    Throughout record Returns start steps ↔ Always record Remembers start steps :=
  throughout_iff (fun _ step known => tabsOk_record known step)
    (fun _ step known holds => returns_record_iff known holds step) ok law

/-- No tabs, and nothing was active before. -/
def nothingYet : Recorded := ⟨TabManager.new, none⟩

theorem returns_nothingYet : Returns nothingYet := by
  rintro ⟨id, member, -⟩
  cases member

/-- A second tab that is opened, left and entered again. -/
theorem previous_tab_twoTabs :
    Throughout record Returns nothingYet
      [.newTab ⟨1, live_one⟩, .newTab ⟨2, live_two⟩, .gotoTab 0, .nextTab] :=
  (previous_tab_iff nothingYet _ tabsOk_new returns_nothingYet).mpr
    ⟨.inl rfl, .inr rfl, trivial, trivial, trivial⟩

def threeTabs : List TabStep :=
  [.newTab ⟨1, live_one⟩, .newTab ⟨2, live_two⟩, .newTab ⟨3, live_three⟩]

def visited : List TabStep := threeTabs ++ [.gotoTab 1, .gotoTab 2]

/-- The third of three tabs is opened from the second, and the action goes to the first; when
the first is removed after a visit of the second and the third, it stays where it is. -/
theorem kept_index_goes_astray :
    ¬ (∀ steps : List TabStep, Throughout record Returns nothingYet steps) ∧
      ¬ (∀ (steps : List TabStep) (index : Nat), Returns (steps.foldl record nothingYet) →
        Returns (record (steps.foldl record nothingYet) (.removeTab index))) := by
  constructor
  · intro all
    have last := (all threeTabs).final
    have back := last ⟨2, by decide +kernel, by decide +kernel⟩
    exact absurd back (by decide +kernel)
  · intro all
    have visits : Returns (visited.foldl record nothingYet) := by
      intro _
      decide +kernel
    have last := all visited 0 visits
    have back := last ⟨2, by decide +kernel, by decide +kernel⟩
    exact absurd back (by decide +kernel)

end Runs

end Boo.Runtime.PreviousTab
