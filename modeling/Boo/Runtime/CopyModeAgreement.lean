/- module: Boo/Runtime/CopyModeAgreement
   digest: Copy mode is noted twice, by the bindings and by the program; when the two agree. -/

import Boo.Lib.Runs
import Boo.Runtime.CopyMode
import Boo.Runtime.KeptFocus

set_option autoImplicit false
set_option relaxedAutoImplicit false

namespace Boo.Runtime.CopyModeAgreement

open Boo.Lib.Runs
open Boo.Server.Frames
open Boo.Runtime.CopyMode
open Boo.Runtime.CopySelection
open Boo.Runtime.KeptFocus
open Boo.Runtime.KeyBindings
open Boo.Runtime.Keys
open Boo.Runtime.SelectionText
open Boo.Runtime.Splits
open Boo.Runtime.TabOps
open Boo.Runtime.Tabs
open Boo.Runtime.Ui

inductive SplitDirection
  | right | down | left | up
  deriving DecidableEq

def SplitDirection.axis : SplitDirection → Direction
  | right | left => .horizontal
  | down | up => .vertical

inductive TabTarget
  | index (index : ℕ)
  | last
  deriving DecidableEq

/-- `bindings::Action`. -/
inductive BindingAction
  | newSplit (direction : SplitDirection)
  | gotoSplit (direction : PaneFocusDirection)
  | resizeSplit (direction : CopyDirection) (amount : UInt16)
  | closeSurface | breakPane
  | newTab | nextTab | prevTab | closeTab
  | gotoTab (target : TabTarget)
  | search | enterCopyMode | copy | paste | chooseBuffer | chooseTree | findWindow | setTabTitle
  | displayPanes | markPane | clearMarkedPane
  | joinMarkedPane (direction : SplitDirection)
  | rotatePanesForward | rotatePanesBackward | swapPaneNext | swapPanePrevious
  | selectLayout (layout : TabLayout)
  | nextLayout | previousLayout | rebalanceLayout
  | toggleZoom | openCommandPrompt | nextPane | previousPane | previousTab | reloadConfig

/-- What `from_config` reads for the bindings. -/
structure Keymap where
  prefixKey : Option PrefixKey
  table : List (Char × BindingAction)
  direct : List ((UInt32 × Mods) × BindingAction)

/-- What an event finds: the focused pane, and the answers of geometry, backend and configuration. -/
structure Surroundings (Style : Type) where
  view : PaneView Style
  geometry : Geometry
  pane : FocusedPane Style
  leaf : Option ℕ
  ratios : List Bool → Option ℚ
  answer : Option Spawned
  keymap : Keymap
  appearance : UiAppearance

/-- Copy mode with the pane that it was entered on; the source keeps the state alone. -/
structure Session where
  pane : PaneId
  state : CopyModeState

structure CopyApp where
  runtime : UiRuntime
  bindings : Bindings BindingAction
  copyMode : Option Session

def fromConfig (keymap : Keymap) : Bindings BindingAction where
  prefixKey := keymap.prefixKey
  table := keymap.table
  direct := keymap.direct
  mode := .normal

/-- The program at its start. -/
def startup (runtime : UiRuntime) (keymap : Keymap) : CopyApp := ⟨runtime, fromConfig keymap, none⟩

/-- What `execute_command` makes of its text. -/
inductive Command
  | action (action : BindingAction)
  | setTabTitle (title : String)
  | scroll
  | gotoLine (row : ℤ)
  | lineNumber (row : ℤ)
  | loadLayout (layoutTabs : List LayoutTab)
  | set | saveLayout | listLayouts | unknown

/-- A key that no overlay keeps, an action or a command of a client or the prompt, any other change
of the tabs, a tab destroyed by a client, and a pane whose child has exited. -/
inductive Event
  | key (keyChar : Option Char) (keycode : UInt32) (mods : Mods) (namedKey : Option NamedKey)
  | action (action : BindingAction)
  | command (command : Command)
  | effect (effect : UiEffect)
  | destroyTab (index : ℕ)
  | paneExited (paneId : PaneId)

structure Occurrence (Style : Type) where
  surroundings : Surroundings Style
  event : Event

section Steps

variable {Style : Type} (around : Surroundings Style)

/-- What an action does to tabs and splits. -/
def BindingAction.uiEffect : BindingAction → Option UiEffect
  | newSplit direction => some (.newSplit direction.axis around.answer)
  | gotoSplit _ => around.leaf.map .focusLeaf
  | resizeSplit _ _ => some (.resize around.ratios)
  | closeSurface => some .closeSurface
  | breakPane => some .breakPane
  | newTab => some (.newTab around.answer)
  | nextTab => some .nextTab
  | prevTab => some .prevTab
  | closeTab => some .closeTab
  | gotoTab (.index index) => some (.gotoTab index)
  | gotoTab .last => some .gotoLastTab
  | markPane => some .markPane
  | clearMarkedPane => some .clearMarkedPane
  | joinMarkedPane direction => some (.joinMarkedPane direction.axis)
  | rotatePanesForward => some (.rotatePanes true)
  | rotatePanesBackward => some (.rotatePanes false)
  | swapPaneNext => some (.swapPane true)
  | swapPanePrevious => some (.swapPane false)
  | selectLayout layout => some (.selectLayout layout)
  | nextLayout => some (.cycleLayout true)
  | previousLayout => some (.cycleLayout false)
  | rebalanceLayout => some .rebalanceLayout
  | nextPane => some .nextPane
  | previousPane => some .previousPane
  | previousTab => some .previousTab
  | reloadConfig => some (.reloadConfig around.appearance)
  | search | enterCopyMode | copy | paste | chooseBuffer | chooseTree | findWindow | setTabTitle
  | displayPanes | toggleZoom | openCommandPrompt => none

namespace CopyApp

variable (app : CopyApp)

def applyEffect (effect : Option UiEffect) : CopyApp :=
  { app with runtime := (effect.map fun effect => effect.apply app.runtime).getD app.runtime }

def enterCopyMode : CopyApp :=
  match CopyMode.enterCopyMode around.geometry around.view.scrollbar around.pane with
  | none => app
  | some state => { app with
      copyMode := some ⟨app.runtime.tabs.focusedPane, state⟩
      bindings := { app.bindings with mode := .copyMode } }

/-- A reload makes the bindings anew, and they begin in normal mode. -/
def dispatchBindingAction (action : BindingAction) : CopyApp :=
  let changed := app.applyEffect (action.uiEffect around)
  match action with
  | .enterCopyMode => changed.enterCopyMode around
  | .reloadConfig => { changed with bindings := fromConfig around.keymap }
  | _ => changed

/-- `exit_copy_mode` is called exactly where the effects say that copy mode is left. -/
def leaves : CopyEffect → Bool
  | .leave => true
  | _ => false

/-- A panic ends the program in the state that it had reached. -/
def dispatchCopyModeAction (isAlphanumeric : Char → Bool) (action : CopyModeAction) : CopyApp :=
  match CopyMode.dispatchCopyModeAction isAlphanumeric around.view (app.copyMode.map Session.state)
    action with
  | none => app
  | some (state, effects) => { app with
      copyMode := app.copyMode.bind fun session => state.map fun state => ⟨session.pane, state⟩
      bindings := { app.bindings with
        mode := if effects.any leaves then .normal else app.bindings.mode } }

def moveCursor (row : ℤ) : CopyApp :=
  { app with copyMode := app.copyMode.map fun session =>
      ⟨session.pane, { session.state with cursor := ⟨row, 0⟩ }⟩ }

def executeCommand : Command → CopyApp
  | .action action => app.dispatchBindingAction around action
  | .setTabTitle title => app.applyEffect (some (.setTabTitle title))
  | .loadLayout layoutTabs => app.applyEffect (some (.loadLayout layoutTabs))
  | .gotoLine row => app.moveCursor row
  | .lineNumber row => if app.bindings.isCopyMode then app.moveCursor row else app
  | .scroll | .set | .saveLayout | .listLayouts | .unknown => app

/-- `handle_key` of the bindings and `dispatch_binding_result`. -/
def bindKey (isAlphanumeric : Char → Bool) (keyChar : Option Char) (keycode : UInt32) (mods : Mods)
    (namedKey : Option NamedKey) : CopyApp :=
  let (bindings, result) := app.bindings.handleKey keyChar keycode mods namedKey
  let next := { app with bindings := bindings }
  match result with
  | .consumed (some action) => next.dispatchBindingAction around action
  | .copyMode action => next.dispatchCopyModeAction around isAlphanumeric action
  | .consumed none | .forward => next

end CopyApp

end Steps

def step {Style : Type} (isAlphanumeric : Char → Bool) (app : CopyApp)
    (occurrence : Occurrence Style) : CopyApp :=
  let around := occurrence.surroundings
  match occurrence.event with
  | .key keyChar keycode mods namedKey =>
      app.bindKey around isAlphanumeric keyChar keycode mods namedKey
  | .action action => app.dispatchBindingAction around action
  | .command command => app.executeCommand around command
  | .effect effect => app.applyEffect (some effect)
  | .destroyTab index => { app with runtime := app.runtime.updateTabs (·.removeTab index) }
  | .paneExited paneId => { app with runtime := app.runtime.closePaneById paneId }

/-- The bindings are in copy mode exactly while the program is, and on the focused pane. -/
structure Agrees (app : CopyApp) : Prop where
  mode : app.bindings.isCopyMode = app.copyMode.isSome
  pane : ∀ session ∈ app.copyMode, session.pane = app.runtime.tabs.focusedPane

section Conditions

variable {Style : Type} (around : Surroundings Style) (rt : UiRuntime)

/-- An action that does not reload the configuration and keeps the focus. -/
def ActionSpares (action : BindingAction) : Prop :=
  match action with
  | .reloadConfig => False
  | _ => ∀ effect ∈ action.uiEffect around, KeepsFocus rt effect

def CommandSpares : Command → Prop
  | .action action => ActionSpares around rt action
  | .loadLayout layoutTabs => KeepsFocus rt (.loadLayout layoutTabs)
  | .setTabTitle _ | .gotoLine _ | .lineNumber _ | .scroll | .set | .saveLayout | .listLayouts
  | .unknown => True

/-- Keys ask nothing of the state: in copy mode they reach nothing else. -/
def EventSpares : Event → Prop
  | .key _ _ _ _ => True
  | .action action => ActionSpares around rt action
  | .command command => CommandSpares around rt command
  | .effect effect => KeepsFocus rt effect
  | .destroyTab index => rt.tabs.tabs.length ≤ index ∨
      rt.tabs.active < rt.tabs.tabs.length ∧ index ≠ rt.tabs.active
  | .paneExited paneId => rt.tabs.findPaneLocation paneId = none

end Conditions

/-- Outside copy mode anything may happen. -/
def Spares {Style : Type} (app : CopyApp) (occurrence : Occurrence Style) : Prop :=
  app.copyMode.isSome → EventSpares occurrence.surroundings app.runtime occurrence.event

section Agreement

variable {Style : Type} {around : Surroundings Style} {app : CopyApp}

/-- Changes of the program that leave copy mode alone keep the agreement if they keep the focus. -/
theorem Agrees.withRuntime (agrees : Agrees app) {rt : UiRuntime}
    (kept : app.copyMode.isSome → rt.tabs.focusedPane = app.runtime.tabs.focusedPane) :
    Agrees { app with runtime := rt } := by
  refine ⟨agrees.mode, fun session member => ?_⟩
  have inside : app.copyMode.isSome := Option.isSome_iff_exists.mpr ⟨session, member⟩
  exact (agrees.pane session member).trans (kept inside).symm

theorem Agrees.applyEffect (agrees : Agrees app) {effect : Option UiEffect}
    (keeps : app.copyMode.isSome → ∀ other ∈ effect, KeepsFocus app.runtime other) :
    Agrees (app.applyEffect effect) := by
  refine agrees.withRuntime fun inside => ?_
  cases effect with
  | none => rfl
  | some effect => exact focusedPane_apply (keeps inside effect rfl)

theorem Agrees.enterCopyMode (agrees : Agrees app) : Agrees (app.enterCopyMode around) := by
  unfold CopyApp.enterCopyMode
  split
  · exact agrees
  · refine ⟨rfl, fun session member => ?_⟩
    obtain rfl := Option.some.inj member
    rfl

/-- Only a reload in copy mode, and a lost focus, can set the two apart. -/
theorem Agrees.dispatchBindingAction (agrees : Agrees app) (action : BindingAction)
    (spares : app.copyMode.isSome → ActionSpares around app.runtime action) :
    Agrees (app.dispatchBindingAction around action) := by
  cases action with
  | reloadConfig =>
      have outside : app.copyMode = none := by
        cases held : app.copyMode with
        | none => rfl
        | some session =>
            have inside : app.copyMode.isSome := by rw [held, Option.isSome_some]
            exact (spares inside).elim
      have after : (app.dispatchBindingAction around .reloadConfig).copyMode = none := outside
      refine ⟨?_, fun session member => ?_⟩
      · rw [after]
        rfl
      · rw [after] at member
        cases member
  | enterCopyMode =>
      have same : Agrees (app.applyEffect none) :=
        agrees.applyEffect fun inside effect member => spares inside effect member
      exact same.enterCopyMode
  | _ => exact agrees.applyEffect fun inside effect member => spares inside effect member

theorem Agrees.moveCursor (agrees : Agrees app) (row : ℤ) : Agrees (app.moveCursor row) := by
  obtain ⟨mode, pane⟩ := agrees
  refine ⟨?_, fun session member => ?_⟩
  · rw [CopyApp.moveCursor, Option.isSome_map]
    exact mode
  · obtain ⟨old, held, rfl⟩ := Option.map_eq_some_iff.mp member
    exact pane old held

theorem Agrees.executeCommand (agrees : Agrees app) (command : Command)
    (spares : app.copyMode.isSome → CommandSpares around app.runtime command) :
    Agrees (app.executeCommand around command) := by
  cases command with
  | action action => exact agrees.dispatchBindingAction action spares
  | setTabTitle title =>
      refine agrees.applyEffect fun _ effect member => ?_
      obtain rfl := Option.some.inj member
      trivial
  | loadLayout layoutTabs =>
      refine agrees.applyEffect fun inside effect member => ?_
      obtain rfl := Option.some.inj member
      exact spares inside
  | gotoLine row => exact agrees.moveCursor row
  | lineNumber row =>
      show Agrees (if app.bindings.isCopyMode then app.moveCursor row else app)
      split
      · exact agrees.moveCursor row
      · exact agrees
  | scroll | set | saveLayout | listLayouts | unknown => exact agrees

end Agreement

section Keys

variable {Style : Type} {isAlphanumeric : Char → Bool} {view : PaneView Style} {cm : CopyModeState}
  {around : Surroundings Style} {app : CopyApp}

/-- Where an action goes through, copy mode ends exactly if the effects say so. -/
def Tidy (outcome : Option (Option CopyModeState × List CopyEffect)) : Prop :=
  ∀ result ∈ outcome, result.2.any CopyApp.leaves = result.1.isNone

theorem tidy_some {state : Option CopyModeState} {effects : List CopyEffect}
    (same : effects.any CopyApp.leaves = state.isNone) : Tidy (some (state, effects)) := by
  intro result member
  obtain rfl := Option.some.inj member
  exact same

theorem leaves_ensureVisible (view : PaneView Style) (cm : CopyModeState) :
    (copyModeEnsureVisible view cm).any CopyApp.leaves = false := by
  unfold copyModeEnsureVisible
  dsimp only
  split
  · rfl
  · split <;> rfl

theorem tidy_wordMove (kind : WordMotion.WordMoveKind) :
    Tidy ((copyModeWordMove isAlphanumeric view cm kind).map fun moved => (some moved.1, moved.2)) := by
  unfold copyModeWordMove
  cases readViewportLineForCursor view cm with
  | none => exact tidy_some rfl
  | some line =>
      dsimp only
      cases WordMotion.wordMove isAlphanumeric kind line cm.cursor.col with
      | none =>
          intro result member
          cases member
      | some col => exact tidy_some (leaves_ensureVisible _ _)

theorem tidy_searchWord (forward : Bool) :
    Tidy (some (some (copyModeSearchWord isAlphanumeric view cm forward).1,
      (copyModeSearchWord isAlphanumeric view cm forward).2)) := by
  unfold copyModeSearchWord
  cases copyModeWordUnderCursor isAlphanumeric view cm with
  | none => exact tidy_some rfl
  | some word => exact tidy_some rfl

theorem leaves_exit (copies : List CopyEffect) :
    (copies ++ [CopyEffect.leave]).any CopyApp.leaves = true := by
  simp [CopyApp.leaves]

theorem tidy_actInCopyMode (action : CopyModeAction) :
    Tidy (actInCopyMode isAlphanumeric view cm action) := by
  cases action with
  | move | halfPageUp | halfPageDown | nextParagraph | previousParagraph | jumpToMark =>
      exact tidy_some (leaves_ensureVisible _ _)
  | wordNext | wordBack | wordEnd | bigWordNext | bigWordBack | bigWordEnd => exact tidy_wordMove _
  | scrollMiddle =>
      unfold actInCopyMode
      dsimp only
      split <;> exact tidy_some rfl
  | clearSelection =>
      unfold actInCopyMode
      dsimp only
      split <;> exact tidy_some rfl
  | swapAnchor =>
      unfold actInCopyMode
      dsimp only
      split <;> exact tidy_some (leaves_ensureVisible _ _)
  | searchWordForward | searchWordBackward => exact tidy_searchWord _
  | copyAndExit | copyToEndOfLine | appendAndCancel => exact tidy_some (leaves_exit _)
  | _ => exact tidy_some rfl

theorem tidy_dispatch (action : CopyModeAction) :
    Tidy (CopyMode.dispatchCopyModeAction isAlphanumeric view (some cm) action) := by
  unfold CopyMode.dispatchCopyModeAction
  exact tidy_actInCopyMode action

/-- The actions of the keys that take the bindings out of copy mode. -/
def exits : CopyModeAction → Bool
  | .copyAndExit | .copyToEndOfLine | .appendAndCancel | .exit => true
  | _ => false

theorem exits_of_copyPlain : ∀ entry ∈ copyPlain, entry.2.1 = true → exits entry.2.2 = true := by
  decide

theorem exits_of_leaves {keyChar : Option Char} {namedKey : Option NamedKey} {mods : Mods}
    {action : CopyModeAction}
    (bound : Bindings.copyModeAction keyChar namedKey mods = some (true, action)) :
    exits action = true := by
  have stays : ∀ found : Option CopyModeAction,
      found.map (Prod.mk false) ≠ some (true, action) := by
    intro found same
    obtain ⟨other, -, wrong⟩ := Option.map_eq_some_iff.mp same
    cases wrong
  rw [Bindings.copyModeAction, Option.or_eq_some_iff, Option.or_eq_some_iff] at bound
  rcases bound with (named | ⟨-, ctrl⟩) | ⟨-, other⟩
  · obtain ⟨key, -, wrong⟩ := Option.map_eq_some_iff.mp named
    cases wrong
  · exact (stays _ ctrl).elim
  · rw [Option.or_eq_some_iff] at other
    rcases other with alt | ⟨-, plain⟩
    · exact (stays _ alt).elim
    · obtain ⟨char, -, found⟩ := Option.bind_eq_some_iff.mp plain
      obtain ⟨before, after, listed, -⟩ := List.lookup_eq_some_iff.mp found
      refine exits_of_copyPlain (char, true, action) ?_ rfl
      rw [listed]
      exact List.mem_append_right _ List.mem_cons_self

theorem dispatch_of_exits {action : CopyModeAction} (exit : exits action = true) :
    ∃ effects, CopyMode.dispatchCopyModeAction isAlphanumeric view (some cm) action =
      some (none, effects) := by
  cases action <;> first | exact ⟨_, rfl⟩ | cases exit

/-- The bindings stay in copy mode where the program does. -/
theorem stays_of_dispatch {action : CopyModeAction} {leaves : Bool}
    {outcome : Option (Option CopyModeState × List CopyEffect)}
    (exit : leaves = true → exits action = true)
    (does : CopyMode.dispatchCopyModeAction isAlphanumeric view (some cm) action = outcome)
    (goesOn : ∀ effects, outcome ≠ some (none, effects)) : leaves = false := by
  cases leaves with
  | false => rfl
  | true =>
      obtain ⟨effects, ends⟩ := dispatch_of_exits (exit rfl)
      exact (goesOn effects (does.symm.trans ends)).elim

/-- A key that leaves copy mode for the bindings leaves it for the program. -/
theorem Agrees.dispatchCopyModeAction (agrees : Agrees app) {session : Session}
    (held : app.copyMode = some session) {leaves : Bool} {action : CopyModeAction}
    (exit : leaves = true → exits action = true) :
    Agrees (CopyApp.dispatchCopyModeAction around
      { app with bindings :=
        { app.bindings with mode := if leaves then .normal else app.bindings.mode } }
      isAlphanumeric action) := by
  have inside : app.bindings.isCopyMode = true := by rw [agrees.mode, held, Option.isSome_some]
  unfold CopyApp.dispatchCopyModeAction
  simp only [held, Option.map_some]
  cases outcome : CopyMode.dispatchCopyModeAction isAlphanumeric around.view (some session.state)
      action with
  | none =>
      have stays : leaves = false := by
        refine stays_of_dispatch exit outcome fun effects ends => ?_
        cases ends
      subst stays
      rw [← held]
      exact agrees
  | some result =>
      obtain ⟨state, effects⟩ := result
      have told := tidy_dispatch action (state, effects) outcome
      cases state with
      | none =>
          refine ⟨?_, fun other member => ?_⟩
          · simp [told, Bindings.isCopyMode]
          · cases member
      | some state =>
          have stays : leaves = false := by
            refine stays_of_dispatch exit outcome fun effects ends => ?_
            cases ends
          subst stays
          refine ⟨?_, fun other member => ?_⟩
          · simpa [told, Bindings.isCopyMode] using inside
          · obtain rfl := Option.some.inj member
            exact agrees.pane session held

/-- Out of copy mode no key is one of copy mode, and none leads into it. -/
theorem handleKey_outside {bindings : Bindings BindingAction} (outside : bindings.isCopyMode = false)
    (keyChar : Option Char) (keycode : UInt32) (mods : Mods) (namedKey : Option NamedKey) :
    (bindings.handleKey keyChar keycode mods namedKey).1.isCopyMode = false ∧
      ∀ action, (bindings.handleKey keyChar keycode mods namedKey).2 ≠ .copyMode action := by
  unfold Bindings.handleKey
  cases mode : bindings.mode with
  | normal =>
      cases bindings.direct.lookup (keycode, mods) with
      | some action =>
          refine ⟨outside, fun action same => ?_⟩
          cases same
      | none =>
          dsimp only
          split
          · refine ⟨rfl, fun action same => ?_⟩
            cases same
          · refine ⟨outside, fun action same => ?_⟩
            cases same
  | prefixed =>
      cases keyChar.bind (List.lookup · bindings.table) with
      | some action =>
          refine ⟨rfl, fun action same => ?_⟩
          cases same
      | none =>
          refine ⟨rfl, fun action same => ?_⟩
          cases same
  | copyMode =>
      rw [Bindings.isCopyMode, mode] at outside
      cases outside

theorem Agrees.bindKey (agrees : Agrees app) (keyChar : Option Char) (keycode : UInt32)
    (mods : Mods) (namedKey : Option NamedKey) :
    Agrees (app.bindKey around isAlphanumeric keyChar keycode mods namedKey) := by
  cases held : app.copyMode with
  | none =>
      have outside : app.bindings.isCopyMode = false := by rw [agrees.mode, held, Option.isSome_none]
      obtain ⟨still, plain⟩ := handleKey_outside outside keyChar keycode mods namedKey
      unfold CopyApp.bindKey
      generalize app.bindings.handleKey keyChar keycode mods namedKey = handled at still plain ⊢
      obtain ⟨bindings, result⟩ := handled
      have next : Agrees { app with bindings := bindings } := by
        refine ⟨?_, agrees.pane⟩
        show bindings.isCopyMode = app.copyMode.isSome
        rw [held, Option.isSome_none]
        exact still
      cases result with
      | consumed action =>
          cases action with
          | none => exact next
          | some action =>
              refine next.dispatchBindingAction action fun inside => ?_
              rw [show app.copyMode.isSome = false by rw [held, Option.isSome_none]] at inside
              cases inside
      | copyMode action => exact (plain action rfl).elim
      | forward => exact next
  | some session =>
      have inside : app.bindings.mode = .copyMode := by
        have mode := agrees.mode
        rw [held, Option.isSome_some] at mode
        exact of_decide_eq_true mode
      unfold CopyApp.bindKey Bindings.handleKey
      rw [inside]
      dsimp only
      unfold Bindings.handleCopyModeKey
      cases bound : Bindings.copyModeAction keyChar namedKey mods with
      | none => exact agrees
      | some entry =>
          obtain ⟨leaves, action⟩ := entry
          refine agrees.dispatchCopyModeAction held fun left => ?_
          subst left
          exact exits_of_leaves bound

end Keys

section Run

variable {Style : Type} {isAlphanumeric : Char → Bool} {app : CopyApp}
  {occurrence : Occurrence Style}

theorem closePaneById_of_missing {rt : UiRuntime} {paneId : PaneId}
    (missing : rt.tabs.findPaneLocation paneId = none) : rt.closePaneById paneId = rt := by
  rw [UiRuntime.closePaneById, missing]

/-- What a step keeps. -/
theorem step_agrees (agrees : Agrees app) (spares : Spares app occurrence) :
    Agrees (step isAlphanumeric app occurrence) := by
  obtain ⟨around, event⟩ := occurrence
  cases event with
  | key keyChar keycode mods namedKey => exact agrees.bindKey keyChar keycode mods namedKey
  | action action => exact agrees.dispatchBindingAction action spares
  | command command => exact agrees.executeCommand command spares
  | effect effect =>
      refine agrees.applyEffect fun inside other member => ?_
      obtain rfl := Option.some.inj member
      exact spares inside
  | destroyTab index =>
      refine agrees.withRuntime fun inside => ?_
      rw [tabs_updateTabs]
      exact focusedPane_removeTab (spares inside)
  | paneExited paneId =>
      refine agrees.withRuntime fun inside => ?_
      rw [closePaneById_of_missing (spares inside)]

theorem agrees_startup (runtime : UiRuntime) (keymap : Keymap) : Agrees (startup runtime keymap) := by
  refine ⟨rfl, fun session member => ?_⟩
  cases member

/-- In every run that spares copy mode while it is on, the bindings and the program agree about it
in every state, and it is on the focused pane. -/
theorem copyMode_agrees (isAlphanumeric : Char → Bool) (runtime : UiRuntime) (keymap : Keymap)
    (events : List (Occurrence Style))
    (spares : Always (step isAlphanumeric) Spares (startup runtime keymap) events) :
    Throughout (step isAlphanumeric) Agrees (startup runtime keymap) events :=
  throughout_of_invariant (fun _ _ agrees spares => step_agrees agrees spares)
    (fun _ agrees => agrees) (agrees_startup runtime keymap) spares

/-- Two tabs with a pane each. -/
def twoTabs : UiRuntime where
  tabs := (TabManager.new.newTab ⟨1, live_one⟩).newTab ⟨2, live_two⟩
  markedPaneId := none
  terminals := fun _ => none
  written := []
  terminalFrame := ⟨0, 0, 80, 24⟩
  presentation := 0
  appearance := ⟨⟨240, 240, 240⟩, ⟨0, 0, 0⟩, ⟨255, 255, 255⟩⟩
  dirtyRemoteTabs := []
  cachedRemoteTabs := none

/-- One key enters copy mode. -/
def keymap : Keymap := ⟨none, [], [((33, 0), .enterCopyMode)]⟩

/-- A native surface with its cursor in the corner; nothing answers. -/
def quiet : Surroundings Unit where
  view := ⟨⟨24, 0, 24⟩, none⟩
  geometry := ⟨8, 16, 400, 16, 640⟩
  pane := ⟨true, some (0, 16, 8, 16), none⟩
  leaf := none
  ratios := fun _ => none
  answer := none
  keymap := keymap
  appearance := twoTabs.appearance

theorem copyMode_agrees_example :
    Throughout (step Char.isAlphanum) Agrees (startup twoTabs keymap)
      [⟨quiet, .key none 33 0 none⟩, ⟨quiet, .key (some 'v') 9 0 none⟩,
        ⟨quiet, .action (.resizeSplit .left 4)⟩, ⟨quiet, .command (.setTabTitle "logs")⟩,
        ⟨quiet, .key (some 'q') 12 0 none⟩, ⟨quiet, .action .reloadConfig⟩,
        ⟨quiet, .action .nextTab⟩] := by
  refine copyMode_agrees Char.isAlphanum twoTabs keymap _
    ⟨fun _ => trivial, fun _ => trivial, fun _ effect member => ?_, fun _ => trivial,
      fun _ => trivial, fun inside => ?_, fun inside => ?_, trivial⟩
  · obtain rfl := Option.some.inj member
    trivial
  · cases inside
  · cases inside

/-- A reload in copy mode takes the bindings out of it alone; a tab that is switched to leaves copy
mode on the pane of the old one. -/
theorem copyMode_disagrees :
    (¬ ∀ events : List (Occurrence Unit), Throughout (step Char.isAlphanum)
      (fun app => app.bindings.isCopyMode = app.copyMode.isSome) (startup twoTabs keymap) events) ∧
    ¬ ∀ events : List (Occurrence Unit), Throughout (step Char.isAlphanum)
      (fun app => ∀ session ∈ app.copyMode, session.pane = app.runtime.tabs.focusedPane)
      (startup twoTabs keymap) events := by
  constructor
  · intro always
    have last := (always [⟨quiet, .action .enterCopyMode⟩, ⟨quiet, .action .reloadConfig⟩]).final
    cases last
  · intro always
    have last := (always [⟨quiet, .action .enterCopyMode⟩, ⟨quiet, .action .nextTab⟩]).final
    exact absurd (last _ rfl) (by decide)

end Run

end Boo.Runtime.CopyModeAgreement
