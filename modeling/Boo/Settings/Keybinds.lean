/- module: Boo/Settings/Keybinds
   digest: Configured key bindings: prefix keys, triggers, actions and the loop over entries. -/

import Boo.Runtime.CopyModeAgreement
import Boo.Settings.Parsing

set_option autoImplicit false
set_option relaxedAutoImplicit false

namespace Boo.Settings.Keybinds

open Boo.Lib.Numerals
open Boo.Lib.Tables
open Boo.Lib.TextLines
open Boo.Runtime.CopyModeAgreement
open Boo.Runtime.KeyBindings
open Boo.Runtime.Keys
open Boo.Settings.Parsing

section Keys

def macPrefixKeys : List (String × UInt32) :=
  [("a", 0x00), ("s", 0x01), ("d", 0x02), ("f", 0x03), ("h", 0x04), ("g", 0x05), ("z", 0x06),
    ("x", 0x07), ("c", 0x08), ("v", 0x09), ("b", 0x0b), ("q", 0x0c), ("w", 0x0d), ("e", 0x0e),
    ("r", 0x0f), ("y", 0x10), ("t", 0x11), ("u", 0x20), ("i", 0x22), ("o", 0x1f), ("p", 0x23),
    ("l", 0x25), ("j", 0x26), ("k", 0x28), ("n", 0x2d), ("m", 0x2e), ("1", 0x12), ("2", 0x13),
    ("3", 0x14), ("4", 0x15), ("5", 0x17), ("6", 0x16), ("7", 0x1a), ("8", 0x1c), ("9", 0x19),
    ("0", 0x1d), (",", 0x2b), ("comma", 0x2b), (".", 0x2f), ("period", 0x2f), ("/", 0x2c),
    ("slash", 0x2c), (";", 0x29), ("semicolon", 0x29), ("'", 0x27), ("quote", 0x27), ("-", 0x1b),
    ("minus", 0x1b), ("=", 0x18), ("equal", 0x18), ("[", 0x21), ("left_bracket", 0x21),
    ("]", 0x1e), ("right_bracket", 0x1e), ("space", 0x31), ("enter", 0x24), ("tab", 0x30),
    ("escape", 0x35)]

def linuxPrefixKeys : List (String × UInt32) :=
  [("a", 20), ("b", 21), ("c", 22), ("d", 23), ("e", 24), ("f", 25), ("g", 26), ("h", 27),
    ("i", 28), ("j", 29), ("k", 30), ("l", 31), ("m", 32), ("n", 33), ("o", 34), ("p", 35),
    ("q", 36), ("r", 37), ("s", 38), ("t", 39), ("u", 40), ("v", 41), ("w", 42), ("x", 43),
    ("y", 44), ("z", 45), ("0", 6), ("1", 7), ("2", 8), ("3", 9), ("4", 10), ("5", 11), ("6", 12),
    ("7", 13), ("8", 14), ("9", 15), (",", 55), ("comma", 55), (".", 56), ("period", 56),
    ("/", 57), ("slash", 57), (";", 51), ("semicolon", 51), ("'", 52), ("quote", 52), ("-", 16),
    ("minus", 16), ("=", 17), ("equal", 17), ("[", 46), ("left_bracket", 46), ("]", 47),
    ("right_bracket", 47), ("space", 63), ("enter", 58), ("tab", 64), ("escape", 120)]

def prefixKeys : Platform → List (String × UInt32)
  | .linux => linuxPrefixKeys
  | .macos => macPrefixKeys

/-- The entry under a name. -/
def named {V : Type} (table : List (String × V)) (name : Text) : Option V :=
  (table.find? fun entry => entry.1.toList = name).map Prod.snd

def singleCharToKeycode (platform : Platform) (key : Text) : Option UInt32 :=
  named (prefixKeys platform) key

def parsePrefixKey (platform : Platform) (spec : Text) : Option PrefixKey :=
  let (mods, key) := stripMods 0 spec
  (singleCharToKeycode platform key).map fun keycode => ⟨keycode, mods⟩

def namedTriggers : List (String × Char) :=
  [("space", ' '), ("tab", '\t'), ("enter", '\r'), ("return", '\r'), ("escape", Char.ofNat 0x1b),
    ("esc", Char.ofNat 0x1b)]

def parsePrefixTrigger (spec : Text) : Option Char :=
  match named namedTriggers spec with
  | some char => some char
  | none =>
      match spec with
      | [char] => some char
      | _ => none

end Keys

section Actions

/-- The actions that are called by a fixed name. -/
def namedActions : List (String × BindingAction) :=
  [("reload_config", .reloadConfig), ("close_surface", .closeSurface), ("break_pane", .breakPane),
    ("new_tab", .newTab), ("next_tab", .nextTab), ("prev_tab", .prevTab), ("close_tab", .closeTab),
    ("search", .search), ("enter_copy_mode", .enterCopyMode), ("copy", .copy), ("paste", .paste),
    ("choose_buffer", .chooseBuffer), ("choose_tree", .chooseTree), ("find_window", .findWindow),
    ("set_tab_title", .setTabTitle), ("display_panes", .displayPanes), ("mark_pane", .markPane),
    ("clear_marked_pane", .clearMarkedPane),
    ("join_marked_pane:right", .joinMarkedPane .right),
    ("move_marked_pane:right", .joinMarkedPane .right),
    ("join_marked_pane:down", .joinMarkedPane .down),
    ("move_marked_pane:down", .joinMarkedPane .down),
    ("join_marked_pane:left", .joinMarkedPane .left),
    ("move_marked_pane:left", .joinMarkedPane .left),
    ("join_marked_pane:up", .joinMarkedPane .up), ("move_marked_pane:up", .joinMarkedPane .up),
    ("rotate_panes_forward", .rotatePanesForward), ("rotate_panes_backward", .rotatePanesBackward),
    ("swap_pane_next", .swapPaneNext), ("swap_pane_previous", .swapPanePrevious),
    ("next_layout", .nextLayout), ("previous_layout", .previousLayout),
    ("rebalance_layout", .rebalanceLayout), ("select_layout:manual", .selectLayout .manual),
    ("select_layout:even-horizontal", .selectLayout .evenHorizontal),
    ("select_layout:even-vertical", .selectLayout .evenVertical),
    ("select_layout:main-horizontal", .selectLayout .mainHorizontal),
    ("select_layout:main-vertical", .selectLayout .mainVertical),
    ("select_layout:tiled", .selectLayout .tiled), ("toggle_zoom", .toggleZoom),
    ("command_prompt", .openCommandPrompt), ("next_pane", .nextPane),
    ("previous_pane", .previousPane), ("previous_tab", .previousTab),
    ("goto_split:left", .gotoSplit .left), ("goto_split:right", .gotoSplit .right),
    ("goto_split:top", .gotoSplit .up), ("goto_split:bottom", .gotoSplit .down),
    ("new_split:right", .newSplit .right), ("new_split:down", .newSplit .down),
    ("new_split:left", .newSplit .left), ("new_split:up", .newSplit .up),
    ("goto_tab:last", .gotoTab .last)]

def resizeDirections : List (String × CopyDirection) :=
  [("left", .left), ("right", .right), ("up", .up), ("down", .down)]

def parseGotoTab (number : Text) : Option BindingAction := do
  let n ← parseUnsigned (2 ^ 64) number
  pure (.gotoTab (.index (n - 1)))

def parseResizeSplit (rest : Text) : Option BindingAction := do
  let (direction, amount) ← splitOnce ',' rest
  let amount ← parseUnsigned (2 ^ 16) amount
  let direction ← named resizeDirections direction
  pure (.resizeSplit direction (UInt16.ofNat amount))

def parseAction (text : Text) : Option BindingAction :=
  match named namedActions text with
  | some action => some action
  | none =>
      match stripPrefix "goto_tab:".toList text with
      | some number => parseGotoTab number
      | none => (stripPrefix "resize_split:".toList text).bind parseResizeSplit

end Actions

section Entries

/-- An entry whose key does not name a prefix of its own. -/
def bindPlain (platform : Platform) (keymap : Keymap) (key : Text) (action : BindingAction) :
    Keymap :=
  if '+' ∈ key then
    match parsePrefixKey platform key with
    | some parsed =>
        { keymap with direct := insertEntry (parsed.keycode, parsed.modsMask) action keymap.direct }
    | none => keymap
  else
    match parsePrefixTrigger key with
    | some trigger => { keymap with table := insertEntry trigger action keymap.table }
    | none => keymap

/-- An entry behind a prefix key; the first such key is taken over when none is set. -/
def bindPrefixed (keymap : Keymap) (parsed : PrefixKey) (triggerSpec : Text)
    (action : BindingAction) : Keymap :=
  if ∃ existing ∈ keymap.prefixKey, existing ≠ parsed then keymap
  else
    match parsePrefixTrigger (trim triggerSpec) with
    | some trigger =>
        { keymap with
          prefixKey := some parsed
          table := insertEntry trigger action keymap.table }
    | none => { keymap with prefixKey := some parsed }

/-- The body of the loop in `from_config`. -/
def bindEntry (platform : Platform) (keymap : Keymap) (entry : Text × Text) : Keymap :=
  match parseAction entry.2 with
  | none => keymap
  | some action =>
      match splitOnce '>' entry.1 with
      | some (prefixSpec, triggerSpec) =>
          match parsePrefixKey platform (trim prefixSpec) with
          | none => keymap
          | some parsed => bindPrefixed keymap parsed triggerSpec action
      | none => bindPlain platform keymap entry.1 action

/-- The loop, over the entries of the map in the order in which they come. -/
def readKeymap (platform : Platform) (prefixKey : Option Text) (order : List (Text × Text)) :
    Keymap :=
  order.foldl (bindEntry platform) ⟨prefixKey.bind (parsePrefixKey platform), [], []⟩

/-- `Bindings::from_config`, for one of the orders in which the map gives its entries. -/
def bindingsOf {F : Type} (platform : Platform) (config : Config F) (order : List (Text × Text)) :
    Bindings BindingAction :=
  fromConfig (readKeymap platform config.prefixKey order)

end Entries

section Loop

variable (platform : Platform)

/-- The prefix key that an entry asks for. -/
def prefixOf (entry : Text × Text) : Option PrefixKey := do
  let _ ← parseAction entry.2
  let (prefixSpec, _) ← splitOnce '>' entry.1
  parsePrefixKey platform (trim prefixSpec)

/-- What an entry binds behind the prefix key, if its own is the one in use. -/
def triggerPair (entry : Text × Text) : Option (Char × BindingAction) := do
  let action ← parseAction entry.2
  let trigger ←
    match splitOnce '>' entry.1 with
    | some (prefixSpec, triggerSpec) =>
        (parsePrefixKey platform (trim prefixSpec)).bind fun _ =>
          parsePrefixTrigger (trim triggerSpec)
    | none => if '+' ∈ entry.1 then none else parsePrefixTrigger entry.1
  pure (trigger, action)

/-- What an entry binds without the prefix key. -/
def directPair (entry : Text × Text) : Option ((UInt32 × Mods) × BindingAction) := do
  let action ← parseAction entry.2
  match splitOnce '>' entry.1 with
  | some _ => none
  | none =>
      if '+' ∈ entry.1 then
        (parsePrefixKey platform entry.1).map fun parsed =>
          ((parsed.keycode, parsed.modsMask), action)
      else none

/-- The entry does not ask for another prefix key than the one in use. -/
def Accepts (required : Option PrefixKey) (entry : Text × Text) : Prop :=
  ∀ existing ∈ required, ∀ own ∈ prefixOf platform entry, existing = own

instance (required : Option PrefixKey) (entry : Text × Text) :
    Decidable (Accepts platform required entry) :=
  inferInstanceAs (Decidable (∀ existing ∈ required, ∀ own ∈ _, existing = own))

def tablePair (required : Option PrefixKey) (entry : Text × Text) :
    Option (Char × BindingAction) :=
  if Accepts platform required entry then triggerPair platform entry else none

/-- The prefix key in use once the entries are read. -/
def prefixInUse (start : Option PrefixKey) (order : List (Text × Text)) : Option PrefixKey :=
  start.or (order.findSome? (prefixOf platform))

variable {platform}

/-- An insertion, if there is something to insert. -/
def insertPair {K V : Type} [DecidableEq K] (entries : List (K × V)) (pair : Option (K × V)) :
    List (K × V) :=
  pair.elim entries fun pair => insertEntry pair.1 pair.2 entries

theorem bindPlain_eq (keymap : Keymap) {key text : Text} {action : BindingAction}
    (called : parseAction text = some action) (cut : splitOnce '>' key = none) :
    bindPlain platform keymap key action =
      ⟨keymap.prefixKey, insertPair keymap.table (triggerPair platform (key, text)),
        insertPair keymap.direct (directPair platform (key, text))⟩ := by
  by_cases plus : '+' ∈ key
  · cases parsed : parsePrefixKey platform key <;>
      simp [bindPlain, triggerPair, directPair, insertPair, called, cut, plus, parsed]
  · cases read : parsePrefixTrigger key <;>
      simp [bindPlain, triggerPair, directPair, insertPair, called, cut, plus, read]

theorem bindPrefixed_eq (keymap : Keymap) {key text prefixSpec triggerSpec : Text}
    {action : BindingAction} {parsed : PrefixKey} (called : parseAction text = some action)
    (cut : splitOnce '>' key = some (prefixSpec, triggerSpec))
    (own : parsePrefixKey platform (trim prefixSpec) = some parsed) :
    bindPrefixed keymap parsed triggerSpec action =
      ⟨keymap.prefixKey.or (some parsed),
        insertPair keymap.table (tablePair platform keymap.prefixKey (key, text)),
        keymap.direct⟩ := by
  obtain ⟨start, table, direct⟩ := keymap
  have asked : prefixOf platform (key, text) = some parsed := by simp [prefixOf, called, cut, own]
  have pair : triggerPair platform (key, text) =
      (parsePrefixTrigger (trim triggerSpec)).map (·, action) := by
    simp [triggerPair, called, cut, own, Option.map_eq_bind]
  by_cases other : ∃ existing ∈ start, existing ≠ parsed
  · have refused : ¬ Accepts platform start (key, text) := by simpa [Accepts, asked] using other
    obtain ⟨existing, rfl, differs⟩ := other
    rw [bindPrefixed, if_pos ⟨existing, rfl, differs⟩, tablePair, if_neg refused, insertPair]
    rfl
  · have accepts : Accepts platform start (key, text) := by simpa [Accepts, asked] using other
    have taken : start.or (some parsed) = some parsed := by
      cases start with
      | none => rfl
      | some existing => exact congrArg some (not_not.mp fun differs => other ⟨_, rfl, differs⟩)
    rw [bindPrefixed, if_neg other, tablePair, if_pos accepts, taken, pair]
    cases parsePrefixTrigger (trim triggerSpec) <;> rfl

theorem bindEntry_eq (keymap : Keymap) (entry : Text × Text) :
    bindEntry platform keymap entry =
      ⟨keymap.prefixKey.or (prefixOf platform entry),
        insertPair keymap.table (tablePair platform keymap.prefixKey entry),
        insertPair keymap.direct (directPair platform entry)⟩ := by
  obtain ⟨key, text⟩ := entry
  cases called : parseAction text with
  | none => simp [bindEntry, tablePair, triggerPair, prefixOf, directPair, insertPair, called]
  | some action =>
      cases cut : splitOnce '>' key with
      | none =>
          have asked : prefixOf platform (key, text) = none := by simp [prefixOf, called, cut]
          have accepts : Accepts platform keymap.prefixKey (key, text) := by
            simp [Accepts, asked]
          simp only [bindEntry, called, cut, bindPlain_eq keymap called cut, asked, Option.or_none,
            tablePair, if_pos accepts]
      | some parts =>
          obtain ⟨prefixSpec, triggerSpec⟩ := parts
          have direct : directPair platform (key, text) = none := by
            simp [directPair, called, cut]
          cases own : parsePrefixKey platform (trim prefixSpec) with
          | none =>
              simp [bindEntry, called, cut, own, tablePair, triggerPair, prefixOf, direct,
                insertPair]
          | some parsed =>
              have asked : prefixOf platform (key, text) = some parsed := by
                simp [prefixOf, called, cut, own]
              simp only [bindEntry, called, cut, own, bindPrefixed_eq keymap called cut own, asked,
                direct, insertPair, Option.elim_none]

/-- The prefix key in use in the end accepts an entry exactly when the one before the entry does. -/
theorem accepts_cons (start : Option PrefixKey) (entry : Text × Text) (rest : List (Text × Text)) :
    Accepts platform (prefixInUse platform start (entry :: rest)) entry ↔
      Accepts platform start entry := by
  cases start with
  | some existing => rfl
  | none =>
      refine iff_of_true ?_ (by simp [Accepts])
      intro existing inUse own asks
      rw [prefixInUse, Option.none_or, List.findSome?_cons, Option.mem_def.mp asks] at inUse
      exact Option.some.inj inUse.symm

theorem prefixInUse_cons (start : Option PrefixKey) (entry : Text × Text)
    (rest : List (Text × Text)) :
    prefixInUse platform start (entry :: rest) =
      prefixInUse platform (start.or (prefixOf platform entry)) rest := by
  rw [prefixInUse, prefixInUse, Option.or_assoc, List.findSome?_cons]
  cases prefixOf platform entry <;> rfl

/-- The loop inserts what the entries bind under the prefix key that is in use in the end. The
induction is on the entries, with the keymap open: each of them may set the prefix key. -/
theorem foldl_bindEntry (keymap : Keymap) (order : List (Text × Text)) :
    order.foldl (bindEntry platform) keymap =
      ⟨prefixInUse platform keymap.prefixKey order,
        (order.filterMap (tablePair platform (prefixInUse platform keymap.prefixKey order))).foldl
          (fun entries pair => insertEntry pair.1 pair.2 entries) keymap.table,
        (order.filterMap (directPair platform)).foldl
          (fun entries pair => insertEntry pair.1 pair.2 entries) keymap.direct⟩ := by
  induction order generalizing keymap with
  | nil => simp [prefixInUse]
  | cons entry rest ih =>
      have same : tablePair platform (prefixInUse platform keymap.prefixKey (entry :: rest)) entry =
          tablePair platform keymap.prefixKey entry := by
        simp only [tablePair, accepts_cons]
      rw [List.foldl_cons, ih, bindEntry_eq]
      simp only [List.filterMap_cons, same, ← prefixInUse_cons]
      cases tablePair platform keymap.prefixKey entry <;> cases directPair platform entry <;> rfl

theorem readKeymap_eq (prefixKey : Option Text) (order : List (Text × Text)) :
    readKeymap platform prefixKey order =
      ⟨prefixInUse platform (prefixKey.bind (parsePrefixKey platform)) order,
        build (order.filterMap
          (tablePair platform
            (prefixInUse platform (prefixKey.bind (parsePrefixKey platform)) order))),
        build (order.filterMap (directPair platform))⟩ :=
  foldl_bindEntry _ order

end Loop

end Boo.Settings.Keybinds
