/- module: Boo/Runtime/LayoutTitles
   digest: Which tabs a loaded layout gives its titles and layouts to. -/

import Boo.Runtime.LayoutReload

set_option autoImplicit false
set_option relaxedAutoImplicit false

namespace Boo.Runtime.LayoutTitles

open Boo.Lib.Entries
open Boo.Lib.TextLines
open Boo.Runtime.Splits
open Boo.Runtime.Tabs
open Boo.Runtime.LayoutText
open Boo.Runtime.LayoutReload
open Boo.Runtime.Ui (Spawned UiRuntime)

/-- The tab that is created for an entry: its panes, its layout and its title, if it has one. -/
def Created (entry : LayoutTab) (tab : Tab) : Prop :=
  tab.tree.len = entry.panes.length ∧ tab.layout = entry.layout ∧
    (entry.title ≠ [] → tab.title = String.ofList entry.title)

/-- A tab that existed before. -/
def Kept (old tab : Tab) : Prop :=
  tab.id = old.id ∧ tab.title = old.title ∧ tab.layout = old.layout

/-- The tabs that existed stay as they were, and behind them stand the created ones. -/
def LoadsRight (before : List Tab) (entries : List LayoutTab) (after : List Tab) : Prop :=
  ∃ kept created, after = kept ++ created ∧ List.Forall₂ Kept before kept ∧
    List.Forall₂ Created entries created

/-- An entry that asks for nothing. -/
def Plain (entry : LayoutTab) : Prop := entry.title = [] ∧ entry.layout = .manual

/-- There is no tab yet, or no entry has a title or a layout, and the tabs at the places of the
entries have none to lose. -/
def Harmless (before : List Tab) (entries : List LayoutTab) : Prop :=
  before = [] ∨ (∀ entry ∈ entries, Plain entry) ∧
    ∀ tab ∈ before.take entries.length, tab.layout = .manual

/-- What `load_layout` writes to the tab at the place of the entry. -/
def mark (entry : LayoutTab) (tab : Tab) : Tab :=
  { tab with
    title := if entry.title = [] then tab.title else String.ofList entry.title
    layout := entry.layout }

/-- The first tabs are marked by the entries, one by one. -/
def markAll : List LayoutTab → List Tab → List Tab
  | entry :: entries, tab :: tabs => mark entry tab :: markAll entries tabs
  | _, tabs => tabs

/-- A tab right after its panes were created. -/
def Opened (entry : LayoutTab) (tab : Tab) : Prop :=
  tab.tree.len = entry.panes.length ∧ tab.layout = .manual ∧ tab.title = ""

section Loading

theorem countLeaves_comb (id : LeafId) (pane : LivePane) (pieces : List Piece) :
    countLeaves (comb id pane pieces) = pieces.length + 1 := by
  induction pieces generalizing id pane with
  | nil => rfl
  | cons piece pieces ih => rw [comb, countLeaves, ih, countLeaves, List.length_cons, Nat.add_comm]

theorem loadPanes_opened (rt : UiRuntime) (spawn : Nat → Spawned) {entry : LayoutTab}
    (nonempty : entry.panes ≠ []) :
    ∃ tab, (rt.loadPanes (answered spawn entry)).tabs.tabs = rt.tabs.tabs ++ [tab] ∧
      Opened entry tab := by
  obtain ⟨first, others, supplied, spawned, -⟩ := supplied_answered spawn nonempty
  have count : others.length + 1 = entry.panes.length := by
    have same := congrArg List.length spawned
    simpa using same
  have shape : answered spawn entry = ⟨String.ofList entry.title, entry.layout,
      (first :: others).map fun pane => (some pane.1, pane.2)⟩ := by
    rw [← supplied]
    rfl
  rw [shape, loadPanes_tabs]
  simp only [TabManager.updateTab, TabManager.updateActiveTree, TabManager.updateTree,
    TabManager.newTab, modify_last]
  refine ⟨_, rfl, ?_, rfl, rfl⟩
  rw [TabManager.freshTab, foldl_graft, SplitTree.len, Option.map_some, Option.getD_some,
    countLeaves_comb, List.length_zip, length_givenSplits, List.length_map, List.length_map,
    Nat.min_self, count]

theorem isEmpty_ofList (text : Text) : (String.ofList text).isEmpty = true ↔ text = [] := by
  rw [String.isEmpty_iff, String.ofList_eq_empty_iff]

/-- Each entry opens a tab at the end and marks the tab at its own place. -/
theorem loadEntries_tabs (rt : UiRuntime) (spawn : Nat → Nat → Spawned) {entries : List LayoutTab}
    (nonempty : ∀ entry ∈ entries, entry.panes ≠ []) (offset : Nat) {done rest : List Tab}
    (tabs : rt.tabs.tabs = done ++ rest) (place : done.length = offset) :
    ∃ opened, List.Forall₂ Opened entries opened ∧
      ((((entries.zipIdx offset).map fun (entry, index) =>
          answered (spawn index) entry).zipIdx offset).foldl
        (fun (rt : UiRuntime) (layoutTab, index) =>
          (rt.loadPanes layoutTab).updateTabs (·.updateTab index fun tab => { tab with
            title := if layoutTab.title.isEmpty then tab.title else layoutTab.title
            layout := layoutTab.layout })) rt).tabs.tabs =
        done ++ markAll entries (rest ++ opened) := by
  induction entries generalizing rt offset done rest with
  | nil => exact ⟨[], .nil, by rw [List.append_nil]; exact tabs⟩
  | cons entry entries ih =>
      obtain ⟨tab, appended, opened⟩ :=
        loadPanes_opened rt (spawn offset) (nonempty entry List.mem_cons_self)
      obtain ⟨next, later, split⟩ : ∃ next later, rest ++ [tab] = next :: later :=
        List.exists_cons_of_ne_nil (by simp)
      rw [List.zipIdx_cons, List.map_cons, List.zipIdx_cons, List.foldl_cons]
      dsimp only
      generalize loaded : (rt.loadPanes (answered (spawn offset) entry)).updateTabs _ = after
      have marked : after.tabs.tabs = (done ++ [mark entry next]) ++ later := by
        rw [← loaded]
        show (rt.loadPanes (answered (spawn offset) entry)).tabs.tabs.modify offset _ = _
        have same : mark entry next = { next with
            title := if (String.ofList entry.title).isEmpty then next.title
              else String.ofList entry.title
            layout := entry.layout } := by
          rw [mark]
          simp only [isEmpty_ofList]
        rw [appended, tabs, List.append_assoc, split, ← place, modify_middle, same,
          List.append_assoc]
        rfl
      obtain ⟨others, openedOthers, result⟩ := ih after
        (fun other member => nonempty other (List.mem_cons_of_mem _ member)) (offset + 1) marked
        (by rw [List.length_append, place]; rfl)
      refine ⟨tab :: others, .cons opened openedOthers, ?_⟩
      rw [result, List.append_cons rest tab others, split, List.cons_append, markAll,
        List.append_assoc, List.singleton_append]

theorem loadLayout_tabs (rt : UiRuntime) (spawn : Nat → Nat → Spawned) {layout : Layout}
    (nonempty : ∀ entry ∈ layout.tabs, entry.panes ≠ []) :
    ∃ opened, List.Forall₂ Opened layout.tabs opened ∧
      (replay rt spawn layout).tabs.tabs = markAll layout.tabs (rt.tabs.tabs ++ opened) :=
  loadEntries_tabs rt spawn nonempty 0 (List.nil_append _).symm rfl

/-- Every tab of a parsed layout lists a pane. -/
theorem panes_parseLayout (home : Option Text) (name content : Text) :
    ∀ entry ∈ (parseLayout home name content).tabs, entry.panes ≠ [] := by
  intro entry member
  obtain ⟨parsed, -, rfl⟩ := List.mem_map.mp member
  split
  · exact List.cons_ne_nil _ _
  · rename_i some_
    exact some_

end Loading

section Marks

variable {entry : LayoutTab} {entries : List LayoutTab} {tab : Tab} {before opened : List Tab}

theorem getElem?_markAll (entries : List LayoutTab) (tabs : List Tab) (index : Nat) :
    (markAll entries tabs)[index]? =
      tabs[index]?.map fun tab => (entries[index]?.map (mark · tab)).getD tab := by
  induction entries generalizing tabs index with
  | nil => simp [markAll]
  | cons entry entries ih =>
      cases tabs with
      | nil => simp [markAll]
      | cons tab tabs =>
          rw [markAll]
          cases index with
          | zero => rfl
          | succ index => simp only [List.getElem?_cons_succ, ih]

/-- With no tabs before, every entry marks the tab that it has opened. -/
theorem created_markAll (isOpened : List.Forall₂ Opened entries opened) :
    List.Forall₂ Created entries (markAll entries opened) := by
  induction isOpened with
  | nil => exact .nil
  | cons here later ih =>
      obtain ⟨panes, -, -⟩ := here
      exact .cons ⟨panes, rfl, fun titled => if_neg titled⟩ ih

theorem mark_plain (plain : Plain entry) (manual : tab.layout = .manual) :
    mark entry tab = tab := by
  obtain ⟨title, layout⟩ := plain
  rw [mark, if_pos title, layout, ← manual]

/-- Entries that ask for nothing change nothing in tabs that have nothing to lose. -/
theorem markAll_plain {tabs : List Tab} (plain : ∀ entry ∈ entries, Plain entry)
    (manual : ∀ tab ∈ tabs.take entries.length, tab.layout = .manual) :
    markAll entries tabs = tabs := by
  induction entries generalizing tabs with
  | nil => rfl
  | cons entry entries ih =>
      cases tabs with
      | nil => rfl
      | cons tab tabs =>
          rw [List.length_cons, List.take_succ_cons] at manual
          rw [markAll, mark_plain (plain entry List.mem_cons_self) (manual tab List.mem_cons_self),
            ih (fun other member => plain other (List.mem_cons_of_mem _ member))
              (fun other member => manual other (List.mem_cons_of_mem _ member))]

theorem manual_of_opened (isOpened : List.Forall₂ Opened entries opened) :
    ∀ tab ∈ opened, tab.layout = .manual := by
  induction isOpened with
  | nil => exact fun tab member => by cases member
  | cons here later ih =>
      intro tab member
      rcases List.mem_cons.mp member with rfl | member
      · exact here.2.1
      · exact ih tab member

theorem created_of_plain (plain : ∀ entry ∈ entries, Plain entry)
    (isOpened : List.Forall₂ Opened entries opened) : List.Forall₂ Created entries opened := by
  induction isOpened with
  | nil => exact .nil
  | cons here later ih =>
      obtain ⟨title, layout⟩ := plain _ List.mem_cons_self
      obtain ⟨panes, manual, -⟩ := here
      exact .cons ⟨panes, manual.trans layout.symm, fun titled => absurd title titled⟩
        (ih fun other member => plain other (List.mem_cons_of_mem _ member))

theorem kept_refl (tabs : List Tab) : List.Forall₂ Kept tabs tabs :=
  List.forall₂_same.mpr fun _ _ => ⟨rfl, rfl, rfl⟩

/-- The last entries find their tabs unmarked, and so do those whose tabs they have marked. -/
theorem plain_of_loadsRight (isOpened : List.Forall₂ Opened entries opened)
    (some_ : before ≠ []) (right : LoadsRight before entries (markAll entries (before ++ opened)))
    {index : Nat} (at_ : entries[index]? = some entry) : Plain entry := by
  obtain ⟨kept, created, split, isKept, isCreated⟩ := right
  have count : kept.length = before.length := isKept.length_eq.symm
  have several : 0 < before.length := List.length_pos_iff.mpr some_
  induction far : entries.length - index using Nat.strong_induction_on generalizing index entry with
  | _ distance ih =>
      have inside : index < entries.length := (List.getElem?_eq_some_iff.mp at_).1
      obtain ⟨tab, atTab, -, layout, title⟩ := forall₂_getElem? isCreated at_
      obtain ⟨old, atOld, -, manual, untitled⟩ := forall₂_getElem? isOpened at_
      have there : (markAll entries (before ++ opened))[before.length + index]? = some tab := by
        rw [split, ← count, List.getElem?_append_right (Nat.le_add_right _ _),
          Nat.add_sub_cancel_left, atTab]
      rw [getElem?_markAll, List.getElem?_append_right (Nat.le_add_right _ _),
        Nat.add_sub_cancel_left, atOld, Option.map_some, Option.some.injEq] at there
      have blank : tab.layout = .manual ∧ tab.title = "" := by
        cases marks : entries[before.length + index]? with
        | none =>
            rw [marks] at there
            rw [← there]
            exact ⟨manual, untitled⟩
        | some other =>
            have plain : Plain other := ih _ (by omega) marks rfl
            rw [marks, Option.map_some, Option.getD_some, mark_plain plain manual] at there
            rw [← there]
            exact ⟨manual, untitled⟩
      refine ⟨?_, layout.symm.trans blank.1⟩
      by_contra titled
      have same := (title titled).symm.trans blank.2
      exact titled ((isEmpty_ofList _).mp (String.isEmpty_iff.mpr same))

theorem loadsRight_markAll_iff (isOpened : List.Forall₂ Opened entries opened) :
    LoadsRight before entries (markAll entries (before ++ opened)) ↔ Harmless before entries := by
  constructor
  · intro right
    by_cases none' : before = []
    · exact .inl none'
    · have plain : ∀ entry ∈ entries, Plain entry := by
        intro entry member
        obtain ⟨index, at_⟩ := List.mem_iff_getElem?.mp member
        exact plain_of_loadsRight isOpened none' right at_
      refine .inr ⟨plain, fun tab member => ?_⟩
      obtain ⟨kept, created, split, isKept, -⟩ := right
      obtain ⟨index, at_⟩ := List.mem_iff_getElem?.mp member
      rw [List.getElem?_take] at at_
      split at at_
      · rename_i inside
        obtain ⟨same, atSame, -, -, layout⟩ := forall₂_getElem? isKept at_
        have bound : index < before.length := (List.getElem?_eq_some_iff.mp at_).1
        have atEntry := List.getElem?_eq_getElem inside
        have there : (markAll entries (before ++ opened))[index]? = some same := by
          rw [split, List.getElem?_append_left (by rwa [← isKept.length_eq]), atSame]
        rw [getElem?_markAll, List.getElem?_append_left bound, at_, atEntry, Option.map_some,
          Option.map_some, Option.getD_some, Option.some.injEq] at there
        rw [← layout, ← there]
        exact (plain _ (List.mem_of_getElem? atEntry)).2
      · cases at_
  · rintro (rfl | ⟨plain, manual⟩)
    · exact ⟨[], _, rfl, .nil, created_markAll isOpened⟩
    · have blank : ∀ tab ∈ (before ++ opened).take entries.length, tab.layout = .manual := by
        intro tab member
        rw [List.take_append, List.mem_append] at member
        rcases member with member | member
        · exact manual tab member
        · exact manual_of_opened isOpened tab (List.mem_of_mem_take member)
      rw [markAll_plain plain blank]
      exact ⟨before, opened, rfl, kept_refl before, created_of_plain plain isOpened⟩

end Marks

section Layouts

/-- A parsed layout reaches the right tabs exactly if there was none before, or it has nothing to
give and the tabs at its places have nothing to lose. -/
theorem layout_loads_right_iff (home : Option Text) (name content : Text)
    (spawn : Nat → Nat → Spawned) (rt : UiRuntime) :
    LoadsRight rt.tabs.tabs (parseLayout home name content).tabs
        (replay rt spawn (parseLayout home name content)).tabs.tabs ↔
      Harmless rt.tabs.tabs (parseLayout home name content).tabs := by
  obtain ⟨opened, isOpened, loaded⟩ :=
    loadLayout_tabs rt spawn (panes_parseLayout home name content)
  rw [loaded]
  exact loadsRight_markAll_iff isOpened

/-- The runtime with the initial tab of `init_surface`. -/
def started : UiRuntime := emptyRuntime.newTab (shellPane 9 9)

/-- At start-up the window has its initial tab, which then takes the title of the layout's. -/
theorem startup_titles_initial_tab :
    ¬ ∀ (home : Option Text) (name content : Text) (spawn : Nat → Nat → Spawned) (rt : UiRuntime),
      LoadsRight rt.tabs.tabs (parseLayout home name content).tabs
        (replay rt spawn (parseLayout home name content)).tabs.tabs := by
  intro all
  have parsed : (parseLayout none "work".toList "tab = edit".toList).tabs =
      [⟨"edit".toList, .manual, [⟨none, none, none⟩]⟩] := by
    decide +kernel
  have right := all none "work".toList "tab = edit".toList shellPane started
  obtain ⟨opened, isOpened, loaded⟩ := loadLayout_tabs started shellPane
    (panes_parseLayout none "work".toList "tab = edit".toList)
  rw [loaded, loadsRight_markAll_iff isOpened, parsed] at right
  rcases right with none' | ⟨plain, -⟩
  · cases none'
  · have untitled := (plain _ List.mem_cons_self).1
    exact absurd untitled (by decide)

end Layouts

end Boo.Runtime.LayoutTitles
