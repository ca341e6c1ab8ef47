/- module: Boo/Runtime/OverlayStates
   digest: The modal overlays of the interface and what a key does to each of them. -/

import Boo.Runtime.KeyBindings
import Boo.Runtime.Prompt
import Boo.Server.Frames
import Mathlib.Data.List.Infix

set_option autoImplicit false
set_option relaxedAutoImplicit false

namespace Boo.Runtime.OverlayStates

open Boo.Lib.TextLines
open Boo.Runtime.Keys
open Boo.Runtime.Prompt
open Boo.Runtime.KeyBindings (CopyModeAction)
open Boo.Server.Frames (PaneId)

structure ChooseTreeEntry where
  tabIndex : Nat
  paneId : PaneId
  paneIndex : Nat
  tabTitle : Text
  cwd : Text
  preview : Text
  deriving DecidableEq

/-- What the overlays list: the panes of all tabs, and those of the active one. -/
structure View where
  chooseTreeEntries : List ChooseTreeEntry
  visiblePanes : List PaneId
  deriving DecidableEq

/-- The four overlays that choose something. -/
structure Choosers where
  findWindowActive : Bool
  findWindowQuery : Text
  findWindowSelected : Nat
  chooseTreeActive : Bool
  chooseTreeSelected : Nat
  chooseBufferActive : Bool
  chooseBufferSelected : Nat
  pasteBuffers : List Text
  displayPanesActive : Bool
  deriving DecidableEq

structure Search where
  active : Bool
  query : Text
  deriving DecidableEq

structure Overlays where
  choosers : Choosers
  prompt : CommandPrompt
  search : Search
  deriving DecidableEq

/-- What an input path has the rest of the program do, in order. The last five are not an
overlay's: the key bindings see the key, or the focused pane gets the key or the text. -/
inductive Effect (Action : Type)
  | gotoEntry (tabIndex : Nat) (paneId : PaneId)
  | focusPane (paneId : PaneId)
  | pasteBuffer (text : Text)
  | copySelection (text : Text)
  | executeCommand (input : Text)
  | backendAction (action : Text)
  | bindingAction (action : Action)
  | copyModeAction (action : CopyModeAction)
  | prefixKey
  | forwardKey (keycode : UInt32) (mods : Mods) (keyChar : Option Char) (text : Text)
  | writeText (text : Text)
  deriving DecidableEq

variable {Action : Type}

/-- A handler's answer: the overlays as it leaves them, and whether it takes the key. -/
structure Handled (Action : Type) where
  choosers : Choosers
  effects : List (Effect Action)
  consumed : Bool

def declined (choosers : Choosers) : Handled Action := ⟨choosers, [], false⟩

def taken (choosers : Choosers) (effects : List (Effect Action)) : Handled Action :=
  ⟨choosers, effects, true⟩

/-- The next or the previous one of several entries. -/
def cycle (count selected : Nat) (forward : Bool) : Nat :=
  if forward then (selected + 1) % count else (selected + count - 1) % count

namespace Choosers

section FindWindow

variable (lower : Text → Text) (view : View)

/-- The entries whose title, directory, preview or number has the query in it. -/
def findWindowEntries (choosers : Choosers) : List ChooseTreeEntry :=
  let query := lower (trim choosers.findWindowQuery)
  view.chooseTreeEntries.filter fun entry => query = [] ∨
    [lower entry.tabTitle, lower entry.cwd, lower entry.preview,
      Nat.toDigits 10 (entry.tabIndex + 1) ++ '.' :: Nat.toDigits 10 (entry.paneIndex + 1)].any
        fun value => query <:+: value

def closeFindWindow (choosers : Choosers) : Choosers :=
  { choosers with
    findWindowActive := false
    findWindowQuery := []
    findWindowSelected := 0 }

def moveFindWindowSelection (choosers : Choosers) (forward : Bool) : Choosers :=
  let count := (choosers.findWindowEntries lower view).length
  { choosers with
    findWindowSelected :=
      if count = 0 then 0 else cycle count choosers.findWindowSelected forward }

/-- A change of tabs closes the choosers. -/
def syncAfterTabChange (choosers : Choosers) : Choosers :=
  { choosers.closeFindWindow with
    chooseTreeActive := false
    chooseBufferActive := false
    displayPanesActive := false }

def selectFindWindowEntry (choosers : Choosers) : Handled Action :=
  match (choosers.findWindowEntries lower view)[choosers.findWindowSelected]? with
  | none => taken choosers.closeFindWindow []
  | some entry =>
      taken choosers.closeFindWindow.syncAfterTabChange [.gotoEntry entry.tabIndex entry.paneId]

def handleFindWindowKey (key : Key) (keyChar : Option Char) (choosers : Choosers) :
    Handled Action :=
  match key with
  | .named .escape => taken choosers.closeFindWindow []
  | .named .enter => choosers.selectFindWindowEntry lower view
  | .named .arrowUp => taken (choosers.moveFindWindowSelection lower view false) []
  | .named .arrowDown => taken (choosers.moveFindWindowSelection lower view true) []
  | .named .backspace =>
      taken { choosers with
        findWindowQuery := choosers.findWindowQuery.dropLast
        findWindowSelected := 0 } []
  | _ =>
      match keyChar with
      | some char =>
          if ' ' ≤ char then
            taken { choosers with
              findWindowQuery := choosers.findWindowQuery ++ [char]
              findWindowSelected := 0 } []
          else taken { choosers with findWindowActive := false } []
      | none => taken { choosers with findWindowActive := false } []

end FindWindow

section ChooseTree

variable (view : View)

def moveChooseTreeSelection (choosers : Choosers) (forward : Bool) : Choosers :=
  let count := view.chooseTreeEntries.length
  if count = 0 then
    { choosers with
      chooseTreeActive := false
      chooseTreeSelected := 0 }
  else { choosers with chooseTreeSelected := cycle count choosers.chooseTreeSelected forward }

def selectChooseTreeEntry (choosers : Choosers) : Handled Action :=
  match view.chooseTreeEntries[choosers.chooseTreeSelected]? with
  | none =>
      taken { choosers with
        chooseTreeActive := false
        chooseTreeSelected := 0 } []
  | some entry => taken choosers.syncAfterTabChange [.gotoEntry entry.tabIndex entry.paneId]

def handleChooseTreeKey (key : Key) (keyChar : Option Char) (choosers : Choosers) :
    Handled Action :=
  match key with
  | .named .escape => taken { choosers with chooseTreeActive := false } []
  | .named .enter => choosers.selectChooseTreeEntry view
  | .named .arrowUp => taken (choosers.moveChooseTreeSelection view false) []
  | .named .arrowDown => taken (choosers.moveChooseTreeSelection view true) []
  | _ =>
      match keyChar with
      | some 'k' => taken (choosers.moveChooseTreeSelection view false) []
      | some 'j' => taken (choosers.moveChooseTreeSelection view true) []
      | some '\r' => choosers.selectChooseTreeEntry view
      | _ => taken { choosers with chooseTreeActive := false } []

end ChooseTree

section ChooseBuffer

def closeChooseBuffer (choosers : Choosers) : Choosers :=
  { choosers with
    chooseBufferActive := false
    chooseBufferSelected := 0 }

def moveChooseBufferSelection (choosers : Choosers) (forward : Bool) : Choosers :=
  if choosers.pasteBuffers = [] then choosers.closeChooseBuffer
  else
    { choosers with
      chooseBufferSelected :=
        cycle choosers.pasteBuffers.length choosers.chooseBufferSelected forward }

def deleteSelectedBuffer (choosers : Choosers) : Choosers :=
  if choosers.pasteBuffers = [] then choosers.closeChooseBuffer
  else
    let index := min choosers.chooseBufferSelected (choosers.pasteBuffers.length - 1)
    let rest := { choosers with pasteBuffers := choosers.pasteBuffers.eraseIdx index }
    if rest.pasteBuffers = [] then rest.closeChooseBuffer
    else
      { rest with
        chooseBufferSelected := min choosers.chooseBufferSelected (rest.pasteBuffers.length - 1) }

def pasteSelectedBuffer (choosers : Choosers) : Handled Action :=
  match choosers.pasteBuffers[choosers.chooseBufferSelected]? with
  | none => taken choosers.closeChooseBuffer []
  | some text => taken { choosers with chooseBufferActive := false } [.pasteBuffer text]

def handleChooseBufferKey (key : Key) (keyChar : Option Char) (choosers : Choosers) :
    Handled Action :=
  match key with
  | .named .escape => taken { choosers with chooseBufferActive := false } []
  | .named .enter => choosers.pasteSelectedBuffer
  | .named .arrowUp => taken (choosers.moveChooseBufferSelection false) []
  | .named .arrowDown => taken (choosers.moveChooseBufferSelection true) []
  | .named .backspace | .named .delete => taken choosers.deleteSelectedBuffer []
  | _ =>
      match keyChar with
      | some 'k' => taken (choosers.moveChooseBufferSelection false) []
      | some 'j' => taken (choosers.moveChooseBufferSelection true) []
      | some 'd' => taken choosers.deleteSelectedBuffer []
      | some 'p' | some '\r' => choosers.pasteSelectedBuffer
      | _ => taken { choosers with chooseBufferActive := false } []

end ChooseBuffer

section DisplayPanes

variable (view : View)

def hideDisplayPanes (choosers : Choosers) : Choosers :=
  { choosers with displayPanesActive := false }

def displayPanesDigitIndex (char : Char) : Option Nat :=
  if '1' ≤ char ∧ char ≤ '9' then some (char.toNat - '1'.toNat) else none

def handleDisplayPanesChar (char : Char) (choosers : Choosers) : Handled Action :=
  match (displayPanesDigitIndex char).bind (view.visiblePanes[·]?) with
  | none => taken choosers.hideDisplayPanes []
  | some paneId => taken choosers.hideDisplayPanes [.focusPane paneId]

def handleDisplayPanesKey (key : Key) (keyChar : Option Char) (choosers : Choosers) :
    Handled Action :=
  match key with
  | .named .escape | .named .enter | .named .backspace | .named .tab | .named .arrowUp
  | .named .arrowDown | .named .arrowLeft | .named .arrowRight =>
      taken choosers.hideDisplayPanes []
  | _ =>
      match keyChar with
      | some char => choosers.handleDisplayPanesChar view char
      | none => taken choosers.hideDisplayPanes []

end DisplayPanes

/-- One of the four overlays is shown. -/
def Active (choosers : Choosers) : Prop :=
  choosers.findWindowActive = true ∨ choosers.chooseTreeActive = true ∨
    choosers.chooseBufferActive = true ∨ choosers.displayPanesActive = true

instance (choosers : Choosers) : Decidable choosers.Active :=
  inferInstanceAs (Decidable (_ ∨ _))

end Choosers

section Searching

/-- `handle_search_key`; `copyMode` tells whether the bindings are in copy mode. -/
def Search.handleKey (search : Search) (key : Key) (text : Option Text) (mods : Mods)
    (copyMode : Bool) : Search × List (Effect Action) :=
  match key with
  | .named .escape => (⟨false, []⟩,
      if copyMode then [] else [.backendAction "end_search".toList])
  | .named .enter =>
      (search, [.backendAction (if mods.Has modsShift then "navigate_search:previous".toList
        else "navigate_search:next".toList)])
  | .named .backspace =>
      ({ search with query := search.query.dropLast },
        [.backendAction ("search:".toList ++ search.query.dropLast)])
  | _ =>
      match text with
      | some text =>
          let query := search.query ++ text.filter (' ' ≤ ·)
          ({ search with query := query }, [.backendAction ("search:".toList ++ query)])
      | none => (search, [])

end Searching

def Overlays.Active (overlays : Overlays) : Prop :=
  overlays.choosers.Active ∨ overlays.prompt.active = true ∨ overlays.search.active = true

instance (overlays : Overlays) : Decidable overlays.Active :=
  inferInstanceAs (Decidable (_ ∨ _))

end Boo.Runtime.OverlayStates
