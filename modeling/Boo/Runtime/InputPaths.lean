/- module: Boo/Runtime/InputPaths
   digest: The three ways of a key or a text to the focused pane, and what the overlays keep of it. -/

import Boo.Runtime.OverlayStates

set_option autoImplicit false
set_option relaxedAutoImplicit false

namespace Boo.Runtime.InputPaths

open Boo.Lib.TextLines
open Boo.Runtime.Keys
open Boo.Runtime.KeyBindings
open Boo.Runtime.Prompt
open Boo.Runtime.OverlayStates

variable {Action : Type}

/-- `selection` is the text that the mouse has selected and that can be copied. -/
structure InputState (Action : Type) where
  overlays : Overlays
  bindings : Bindings Action
  view : View
  selection : Option Text

/-- What the paths call in the rest of the program, with its effects on their own state. -/
structure Program (Action : Type) where
  lower : Text → Text
  dispatchBindingAction : Action → InputState Action → InputState Action
  dispatchCopyModeAction : CopyModeAction → InputState Action → InputState Action
  executeCommand : Text → InputState Action → InputState Action

structure Outcome (Action : Type) where
  state : InputState Action
  effects : List (Effect Action)
  consumed : Bool

namespace InputState

def setChoosers (state : InputState Action) (choosers : Choosers) : InputState Action :=
  { state with overlays := { state.overlays with choosers := choosers } }

def setPrompt (state : InputState Action) (prompt : CommandPrompt) : InputState Action :=
  { state with overlays := { state.overlays with prompt := prompt } }

def setSearch (state : InputState Action) (search : Search) : InputState Action :=
  { state with overlays := { state.overlays with search := search } }

def setBindings (state : InputState Action) (bindings : Bindings Action) : InputState Action :=
  { state with bindings := bindings }

def clearMouseSelection (state : InputState Action) : InputState Action :=
  { state with selection := none }

end InputState

section Handlers

variable (program : Program Action)

def ofHandled (state : InputState Action) (handled : Handled Action) : Outcome Action :=
  ⟨state.setChoosers handled.choosers, handled.effects, handled.consumed⟩

def handleCommandKey (state : InputState Action) (key : Key) (text : Option Text) (mods : Mods) :
    Outcome Action :=
  let (prompt, command) := state.overlays.prompt.handleKey program.lower key text mods
  match command with
  | none => ⟨state.setPrompt prompt, [], true⟩
  | some input =>
      ⟨program.executeCommand input (state.setPrompt prompt), [.executeCommand input], true⟩

def handleSearchKey (state : InputState Action) (key : Key) (text : Option Text) (mods : Mods) :
    Outcome Action :=
  let (search, effects) := state.overlays.search.handleKey key text mods state.bindings.isCopyMode
  ⟨state.setSearch search, effects, true⟩

/-- `handle_key` of the bindings and `dispatch_binding_result` of what it answers. -/
def bindKey (state : InputState Action) (keyChar : Option Char) (keycode : UInt32) (mods : Mods)
    (namedKey : Option NamedKey) : Outcome Action :=
  let (bindings, result) := state.bindings.handleKey keyChar keycode mods namedKey
  let next := state.setBindings bindings
  match result with
  | .consumed (some action) =>
      ⟨program.dispatchBindingAction action next, [.bindingAction action], true⟩
  | .consumed none =>
      ⟨next, if bindings.mode = state.bindings.mode then [] else [.prefixKey], true⟩
  | .copyMode action =>
      ⟨program.dispatchCopyModeAction action next, [.copyModeAction action], true⟩
  | .forward => ⟨next, [], false⟩

/-- The next overlay of a chain of conditions, if those before it let the key through. -/
def orTry (handled : Handled Action) (active : Choosers → Bool)
    (handler : Choosers → Handled Action) : Handled Action :=
  if handled.consumed then handled
  else if active handled.choosers then
    let later := handler handled.choosers
    { later with effects := handled.effects ++ later.effects }
  else handled

/-- The choosers in the order in which `dispatch_app_key` looks at them. -/
def choosersInOrder (view : View) (key : Key) (keyChar : Option Char) :
    List ((Choosers → Bool) × (Choosers → Handled Action)) :=
  [(fun choosers => choosers.findWindowActive,
      Choosers.handleFindWindowKey program.lower view key keyChar),
    (fun choosers => choosers.chooseTreeActive, Choosers.handleChooseTreeKey view key keyChar),
    (fun choosers => choosers.chooseBufferActive, Choosers.handleChooseBufferKey key keyChar),
    (fun choosers => choosers.displayPanesActive, Choosers.handleDisplayPanesKey view key keyChar)]

/-- The first four conditions of `dispatch_app_key`. -/
def dispatchChoosers (view : View) (choosers : Choosers) (key : Key) (keyChar : Option Char) :
    Handled Action :=
  (choosersInOrder program view key keyChar).foldl
    (fun handled entry => orTry handled entry.1 entry.2) (declined choosers)

/-- The command prompt and the search bar, which all three paths look at in this order. -/
def dispatchBars (state : InputState Action) (key : Key) (text : Option Text) (mods : Mods) :
    Option (Outcome Action) :=
  if state.overlays.prompt.active then some (handleCommandKey program state key text mods)
  else if state.overlays.search.active then some (handleSearchKey state key text mods)
  else none

end Handlers

section Paths

variable (platform : Platform) (program : Program Action)

def dispatchAppKey (state : InputState Action) (event : AppKeyEvent) (keyChar : Option Char)
    (key : Key) : Outcome Action :=
  let text := event.text.or (keyChar.map fun char => [char])
  let handled := dispatchChoosers program state.view state.overlays.choosers key keyChar
  let next := ofHandled state handled
  if handled.consumed then next
  else
    let later := (dispatchBars program next.state key text event.mods).getD
      (bindKey program next.state keyChar event.keycode event.mods event.namedKey)
    { later with effects := next.effects ++ later.effects }

/-- A binding sees each character of a text, one after the other. -/
def bindText (state : InputState Action) : Text → Outcome Action
  | [] => ⟨state, [], true⟩
  | char :: rest =>
      let first := bindKey program state (some char) 0 0 none
      let later := bindText first.state rest
      { later with effects := first.effects ++ later.effects }

def displayPanesStep (view : View) (handled : Handled Action) (char : Char) : Handled Action :=
  let later := Choosers.handleDisplayPanesChar view char handled.choosers
  ⟨later.choosers, handled.effects ++ later.effects, handled.consumed || later.consumed⟩

/-- The digits of a text go to the numbers of the panes, also after the first has closed them. -/
def displayPanesText (view : View) (choosers : Choosers) (text : Text) : Handled Action :=
  text.foldl (displayPanesStep view) (declined choosers)

def handleCommittedText (state : InputState Action) (committed : Text) : Outcome Action :=
  let state := state.clearMouseSelection
  let shown : Handled Action :=
    if state.overlays.choosers.displayPanesActive then
      displayPanesText state.view state.overlays.choosers committed
    else declined state.overlays.choosers
  let next := ofHandled state shown
  if shown.consumed then next
  else
    let later := (dispatchBars program next.state (.character committed) (some committed) 0).getD
      (if next.state.bindings.isPrefixMode || next.state.bindings.isCopyMode then
        bindText program next.state committed
      else ⟨next.state, [.writeText committed], true⟩)
    { later with effects := next.effects ++ later.effects }

def isCommandCopyShortcut (event : AppKeyEvent) (keyChar : Option Char) : Bool :=
  event.mods.Has modsSuper ∧ ¬ event.mods.Has (modsCtrl ||| modsAlt) ∧
    (keyChar = some 'c' ∨ keyChar = some 'C')

/-- `push_paste_buffer` keeps the last 32 texts, each of them once. -/
def pushPasteBuffer (choosers : Choosers) (text : Text) : Choosers :=
  if text = [] then choosers
  else
    { choosers with
      pasteBuffers := (text :: choosers.pasteBuffers.filter (· ≠ text)).take 32 }

/-- A key that nothing has consumed: as text, if it has one, else as a key. The key codes of the
terminal library, and which keys macOS sends as text, are left out. -/
def forwardEvent (state : InputState Action) (event : AppKeyEvent) : Outcome Action :=
  let committed := ((event.text.or event.modifiedText).filter (· ≠ []))
  match committed with
  | some committed =>
      if event.mods.Has (modsCtrl ||| modsAlt ||| modsSuper) then
        ⟨state, [.forwardKey event.keycode event.mods (event.keyChar platform)
          (event.text.getD [])], false⟩
      else { handleCommittedText program state committed with consumed := false }
  | none =>
      ⟨state, [.forwardKey event.keycode event.mods (event.keyChar platform)
        (event.text.getD [])], false⟩

def handleAppKeyEvent (state : InputState Action) (event : AppKeyEvent) : Outcome Action :=
  let keyChar := event.keyChar platform
  match if isCommandCopyShortcut event keyChar then state.selection else none with
  | some text =>
      ⟨state.setChoosers (pushPasteBuffer state.overlays.choosers text), [.copySelection text],
        true⟩
  | none =>
      let dispatched :=
        dispatchAppKey program state event keyChar (event.keyboardKey platform)
      if dispatched.consumed then dispatched
      else
        let forwarded :=
          forwardEvent platform program dispatched.state.clearMouseSelection event
        { forwarded with effects := dispatched.effects ++ forwarded.effects }

/-- A key that is not bound goes to the terminal, under the terminal library's code for it. -/
def injectUnbound (state : InputState Action) (keyspec : Text) (keyChar : Option Char)
    (keycode : UInt32) (mods : Mods) : Outcome Action :=
  let bound := bindKey program state keyChar keycode mods none
  if bound.consumed then bound
  else
    match parseVtKeyspec keyspec with
    | none => bound
    | some (vtKeycode, _) =>
        { bound with
          effects := bound.effects ++ [.forwardKey vtKeycode mods keyChar
            (if mods.Has modsCtrl then [] else (keyChar.map fun char => [char]).getD [])] }

/-- `inject_key`, which `SendKey` and `RemoteKey` call. -/
def injectKey (state : InputState Action) (keyspec : Text) : Outcome Action :=
  match parseKeyspec platform keyspec with
  | none => ⟨state, [], false⟩
  | some (keycode, mods) =>
      let keyChar := shiftedChar platform keycode mods
      (dispatchBars program state (controlKeyToKeyboardKey keyspec keyChar)
        (keyChar.map fun char => [char]) mods).getD
          (injectUnbound program state keyspec keyChar keycode mods)

end Paths

end Boo.Runtime.InputPaths
