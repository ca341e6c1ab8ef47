/- module: Boo/Runtime/KeyBindings
   digest: The key bindings: a prefix key, two tables and the keys of copy mode. -/

import Boo.Runtime.Keys

set_option autoImplicit false
set_option relaxedAutoImplicit false

namespace Boo.Runtime.KeyBindings

open Boo.Lib.TextLines (Text)
open Boo.Runtime.Keys

inductive CopyDirection
  | left | right | up | down
  deriving DecidableEq

/-- What a key does in copy mode. -/
inductive CopyModeAction
  | move (direction : CopyDirection)
  | wordNext | wordBack | wordEnd | bigWordNext | bigWordBack | bigWordEnd
  | lineStart | lineEnd | firstNonBlank
  | screenTop | screenMiddle | screenBottom
  | historyTop | historyBottom
  | pageUp | pageDown | halfPageUp | halfPageDown | scrollUp | scrollDown | scrollMiddle
  | startCharSelect | startLineSelect | startRectSelect | clearSelection | swapAnchor
  | jumpForward | jumpBackward | jumpToForward | jumpToBackward | jumpAgain | jumpReverse
  | nextParagraph | previousParagraph | matchingBracket
  | setMark | jumpToMark
  | searchForward | searchBackward | searchAgain | searchReverse
  | searchWordForward | searchWordBackward
  | copyAndExit | copyToEndOfLine | appendAndCancel
  | openPrompt | refreshFromPane | togglePosition | exit
  deriving DecidableEq

inductive Mode
  | normal | prefixed | copyMode
  deriving DecidableEq

structure PrefixKey where
  keycode : UInt32
  modsMask : Mods
  deriving DecidableEq

variable {Action : Type}

/-- What becomes of a key: it is consumed, perhaps with an action, or goes to the terminal. -/
inductive KeyResult (Action : Type)
  | consumed (action : Option Action)
  | copyMode (action : CopyModeAction)
  | forward

/-- `table` is looked up after the prefix key, `direct` without it. -/
structure Bindings (Action : Type) where
  prefixKey : Option PrefixKey
  table : List (Char × Action)
  direct : List ((UInt32 × Mods) × Action)
  mode : Mode

def copyNamed : NamedKey → CopyModeAction
  | .arrowUp => .move .up
  | .arrowDown => .move .down
  | .arrowLeft => .move .left
  | .arrowRight => .move .right
  | .pageUp => .pageUp
  | .pageDown => .pageDown
  | .home => .historyTop
  | .endKey => .historyBottom
  | .escape => .clearSelection

/-- The control keys, as letters and as control characters. -/
def copyCtrl : List (Char × CopyModeAction) :=
  [('b', .pageUp), (Char.ofNat 2, .pageUp), ('f', .pageDown), (Char.ofNat 6, .pageDown),
    ('u', .halfPageUp), (Char.ofNat 21, .halfPageUp), ('d', .halfPageDown),
    (Char.ofNat 4, .halfPageDown), ('y', .scrollUp), (Char.ofNat 25, .scrollUp),
    ('e', .scrollDown), (Char.ofNat 5, .scrollDown), ('v', .startRectSelect),
    (Char.ofNat 22, .startRectSelect)]

def copyAlt : List (Char × CopyModeAction) := [('x', .jumpToMark)]

/-- The plain characters; the second component says whether the key leaves copy mode. -/
def copyPlain : List (Char × Bool × CopyModeAction) :=
  [('h', false, .move .left), (Char.ofNat 8, false, .move .left), ('j', false, .move .down),
    ('k', false, .move .up), ('l', false, .move .right), ('w', false, .wordNext),
    ('b', false, .wordBack), ('e', false, .wordEnd), ('W', false, .bigWordNext),
    ('B', false, .bigWordBack), ('E', false, .bigWordEnd), ('0', false, .lineStart),
    ('$', false, .lineEnd), ('^', false, .firstNonBlank), ('H', false, .screenTop),
    ('M', false, .screenMiddle), ('L', false, .screenBottom), ('g', false, .historyTop),
    ('G', false, .historyBottom), ('z', false, .scrollMiddle), (' ', false, .startCharSelect),
    ('V', false, .startLineSelect), ('v', false, .startRectSelect), ('o', false, .swapAnchor),
    ('f', false, .jumpForward), ('F', false, .jumpBackward), ('t', false, .jumpToForward),
    ('T', false, .jumpToBackward), (';', false, .jumpAgain), (',', false, .jumpReverse),
    (Char.ofNat 123, false, .previousParagraph), (Char.ofNat 125, false, .nextParagraph),
    ('%', false, .matchingBracket), ('X', false, .setMark), ('/', false, .searchForward),
    ('?', false, .searchBackward), ('n', false, .searchAgain), ('N', false, .searchReverse),
    ('*', false, .searchWordForward), ('#', false, .searchWordBackward),
    ('\r', true, .copyAndExit), ('y', true, .copyAndExit), ('D', true, .copyToEndOfLine),
    ('A', true, .appendAndCancel), (':', false, .openPrompt), ('r', false, .refreshFromPane),
    ('P', false, .togglePosition), ('q', true, .exit)]

namespace Bindings

def isPrefixMode (bindings : Bindings Action) : Bool := bindings.mode = .prefixed

def isCopyMode (bindings : Bindings Action) : Bool := bindings.mode = .copyMode

/-- The action of a key in copy mode, and whether it leaves the mode; the named key comes first,
then the control keys, the key with alt and the plain characters. -/
def copyModeAction (keyChar : Option Char) (namedKey : Option NamedKey) (mods : Mods) :
    Option (Bool × CopyModeAction) :=
  ((namedKey.map fun key => (false, copyNamed key)).or
    ((if mods.Has modsCtrl then keyChar.bind (List.lookup · copyCtrl) else none).map (false, ·))).or
      (((if mods.Has modsAlt then keyChar.bind (List.lookup · copyAlt) else none).map (false, ·)).or
        (keyChar.bind (List.lookup · copyPlain)))

def handleCopyModeKey (bindings : Bindings Action) (keyChar : Option Char)
    (namedKey : Option NamedKey) (mods : Mods) : Bindings Action × KeyResult Action :=
  match copyModeAction keyChar namedKey mods with
  | some (leaves, action) =>
      ({ bindings with mode := if leaves then .normal else bindings.mode }, .copyMode action)
  | none => (bindings, .consumed none)

def handleKey (bindings : Bindings Action) (keyChar : Option Char) (keycode : UInt32)
    (mods : Mods) (namedKey : Option NamedKey) : Bindings Action × KeyResult Action :=
  match bindings.mode with
  | .normal =>
      match bindings.direct.lookup (keycode, mods) with
      | some action => (bindings, .consumed (some action))
      | none =>
          if bindings.prefixKey.any fun key =>
              keycode = key.keycode ∧ mods &&& key.modsMask = key.modsMask then
            ({ bindings with mode := .prefixed }, .consumed none)
          else (bindings, .forward)
  | .prefixed =>
      match keyChar.bind (List.lookup · bindings.table) with
      | some action => ({ bindings with mode := .normal }, .consumed (some action))
      | none => ({ bindings with mode := .normal }, .forward)
  | .copyMode => bindings.handleCopyModeKey keyChar namedKey mods

/-- A key that nothing is bound to in copy mode; it is consumed all the same. -/
def Ignores (bindings : Bindings Action) (keyChar : Option Char) (mods : Mods) : Prop :=
  bindings.mode = .copyMode ∧ copyModeAction keyChar none mods = none

instance (bindings : Bindings Action) (keyChar : Option Char) (mods : Mods) :
    Decidable (bindings.Ignores keyChar mods) :=
  inferInstanceAs (Decidable (_ ∧ _))

end Bindings

end Boo.Runtime.KeyBindings
