/- module: Boo/Runtime/OverlayInput
   digest: When the overlays keep a key or a text to themselves, and when the paths agree on it. -/

import Boo.Runtime.InputPaths

set_option autoImplicit false
set_option relaxedAutoImplicit false

namespace Boo.Runtime.OverlayInput

open Boo.Lib.TextLines (Text)
open Boo.Runtime.Keys
open Boo.Runtime.KeyBindings
open Boo.Runtime.Prompt
open Boo.Runtime.OverlayStates
open Boo.Runtime.InputPaths

variable {Action : Type}

section Leaks

/-- The key bindings or the pane get to see the input. -/
def leaks : Effect Action → Bool
  | .bindingAction _ | .copyModeAction _ | .prefixKey | .forwardKey _ _ _ _ => true
  | .writeText text => text ≠ []
  | .gotoEntry _ _ | .focusPane _ | .pasteBuffer _ | .copySelection _ | .executeCommand _
  | .backendAction _ => false

def Leaks (effects : List (Effect Action)) : Prop := ∃ effect ∈ effects, leaks effect = true

theorem not_leaks_nil : ¬ Leaks ([] : List (Effect Action)) := by simp [Leaks]

theorem leaks_append (effects later : List (Effect Action)) :
    Leaks (effects ++ later) ↔ Leaks effects ∨ Leaks later := by
  simp [Leaks, or_and_right, exists_or]

/-- What choosing an entry has the program do. -/
def chooses : Effect Action → Bool
  | .gotoEntry _ _ | .focusPane _ | .pasteBuffer _ => true
  | _ => false

theorem leaks_of_chooses {effect : Effect Action} (choice : chooses effect = true) :
    leaks effect = false := by
  cases effect <;> first | rfl | cases choice

/-- The handler takes the key, and at most chooses something. -/
def Keeps (handled : Handled Action) : Prop :=
  handled.consumed = true ∧ ∀ effect ∈ handled.effects, chooses effect = true

theorem Keeps.not_leaks {handled : Handled Action} (keeps : Keeps handled) :
    ¬ Leaks handled.effects := by
  rintro ⟨effect, member, leak⟩
  rw [leaks_of_chooses (keeps.2 effect member)] at leak
  cases leak

theorem keeps_taken (choosers : Choosers) {effects : List (Effect Action)}
    (choice : ∀ effect ∈ effects, chooses effect = true) : Keeps (taken choosers effects) :=
  ⟨rfl, choice⟩

end Leaks

section Choosing

variable (lower : Text → Text) (view : View) (choosers : Choosers) (key : Key)
  (keyChar : Option Char)

theorem keeps_findWindow :
    Keeps (Choosers.handleFindWindowKey lower view key keyChar choosers : Handled Action) := by
  unfold Choosers.handleFindWindowKey
  split
  · exact keeps_taken _ (by simp)
  · rw [Choosers.selectFindWindowEntry]
    split <;> exact keeps_taken _ (by simp [chooses])
  · exact keeps_taken _ (by simp)
  · exact keeps_taken _ (by simp)
  · exact keeps_taken _ (by simp)
  · split
    · split <;> exact keeps_taken _ (by simp)
    · exact keeps_taken _ (by simp)

theorem keeps_selectChooseTreeEntry :
    Keeps (choosers.selectChooseTreeEntry view : Handled Action) := by
  rw [Choosers.selectChooseTreeEntry]
  split <;> exact keeps_taken _ (by simp [chooses])

theorem keeps_chooseTree :
    Keeps (Choosers.handleChooseTreeKey view key keyChar choosers : Handled Action) := by
  unfold Choosers.handleChooseTreeKey
  split
  · exact keeps_taken _ (by simp)
  · exact keeps_selectChooseTreeEntry view choosers
  · exact keeps_taken _ (by simp)
  · exact keeps_taken _ (by simp)
  · split
    · exact keeps_taken _ (by simp)
    · exact keeps_taken _ (by simp)
    · exact keeps_selectChooseTreeEntry view choosers
    · exact keeps_taken _ (by simp)

theorem keeps_pasteSelectedBuffer : Keeps (choosers.pasteSelectedBuffer : Handled Action) := by
  rw [Choosers.pasteSelectedBuffer]
  split <;> exact keeps_taken _ (by simp [chooses])

theorem keeps_chooseBuffer :
    Keeps (Choosers.handleChooseBufferKey key keyChar choosers : Handled Action) := by
  unfold Choosers.handleChooseBufferKey
  split
  · exact keeps_taken _ (by simp)
  · exact keeps_pasteSelectedBuffer choosers
  · exact keeps_taken _ (by simp)
  · exact keeps_taken _ (by simp)
  · exact keeps_taken _ (by simp)
  · exact keeps_taken _ (by simp)
  · split
    · exact keeps_taken _ (by simp)
    · exact keeps_taken _ (by simp)
    · exact keeps_taken _ (by simp)
    · exact keeps_pasteSelectedBuffer choosers
    · exact keeps_pasteSelectedBuffer choosers
    · exact keeps_taken _ (by simp)

theorem keeps_displayPanesChar (char : Char) :
    Keeps (Choosers.handleDisplayPanesChar view char choosers : Handled Action) := by
  rw [Choosers.handleDisplayPanesChar]
  split <;> exact keeps_taken _ (by simp [chooses])

theorem keeps_displayPanes :
    Keeps (Choosers.handleDisplayPanesKey view key keyChar choosers : Handled Action) := by
  unfold Choosers.handleDisplayPanesKey
  split <;> try exact keeps_taken _ (by simp)
  split
  · exact keeps_displayPanesChar view choosers _
  · exact keeps_taken _ (by simp)

end Choosing

section Chain

theorem foldl_orTry_of_consumed {handled : Handled Action} (consumed : handled.consumed = true)
    (entries : List ((Choosers → Bool) × (Choosers → Handled Action))) :
    entries.foldl (fun handled entry => orTry handled entry.1 entry.2) handled =
      handled := by
  induction entries with
  | nil => rfl
  | cons entry entries ih => rw [List.foldl_cons, orTry, if_pos consumed, ih]

/-- A chain of conditions gives the key to the first overlay that is shown. -/
theorem foldl_orTry (choosers : Choosers)
    {entries : List ((Choosers → Bool) × (Choosers → Handled Action))}
    (keeps : ∀ entry ∈ entries, Keeps (entry.2 choosers)) :
    entries.foldl (fun handled entry => orTry handled entry.1 entry.2)
        (declined choosers) =
      ((entries.find? fun entry => entry.1 choosers).map fun entry => entry.2 choosers).getD
        (declined choosers) := by
  induction entries with
  | nil => rfl
  | cons entry entries ih =>
      have later := ih fun other member => keeps other (List.mem_cons_of_mem _ member)
      rw [List.foldl_cons]
      by_cases shown : entry.1 choosers
      · have offered : orTry (declined choosers) entry.1 entry.2 = entry.2 choosers := by
          simp [orTry, declined, shown]
        rw [@List.find?_cons_of_pos _ (fun entry => entry.1 choosers) entry entries shown, offered,
          foldl_orTry_of_consumed (keeps entry List.mem_cons_self).1]
        rfl
      · have passed : orTry (declined choosers) entry.1 entry.2 = declined choosers := by
          simp [orTry, declined, shown]
        rw [@List.find?_cons_of_neg _ (fun entry => entry.1 choosers) entry entries shown, passed,
          later]

variable (program : Program Action) (view : View) (key : Key) (keyChar : Option Char)

theorem keeps_choosersInOrder (choosers : Choosers) :
    ∀ entry ∈ choosersInOrder program view key keyChar, Keeps (entry.2 choosers) := by
  simp only [choosersInOrder, List.forall_mem_cons]
  exact ⟨keeps_findWindow _ _ _ _ _, keeps_chooseTree _ _ _ _, keeps_chooseBuffer _ _ _,
    keeps_displayPanes _ _ _ _, by simp⟩

theorem dispatchChoosers_eq (choosers : Choosers) :
    dispatchChoosers program view choosers key keyChar =
      (((choosersInOrder program view key keyChar).find? fun entry => entry.1 choosers).map
        fun entry => entry.2 choosers).getD (declined choosers) :=
  foldl_orTry choosers (keeps_choosersInOrder program view key keyChar choosers)

theorem dispatchChoosers_active {choosers : Choosers} (active : choosers.Active) :
    ∃ entry ∈ choosersInOrder program view key keyChar, entry.1 choosers = true ∧
      dispatchChoosers program view choosers key keyChar = entry.2 choosers := by
  have shown : ((choosersInOrder program view key keyChar).find? fun entry =>
      entry.1 choosers).isSome := by
    rw [List.find?_isSome]
    simpa [choosersInOrder, Choosers.Active] using active
  obtain ⟨entry, found⟩ := Option.isSome_iff_exists.mp shown
  refine ⟨entry, List.mem_of_find?_eq_some found, by simpa using @List.find?_some _ _ _ _ found, ?_⟩
  rw [dispatchChoosers_eq, found]
  rfl

theorem dispatchChoosers_inactive {choosers : Choosers} (inactive : ¬ choosers.Active) :
    dispatchChoosers program view choosers key keyChar = declined choosers := by
  have hidden : ((choosersInOrder program view key keyChar).find? fun entry =>
      entry.1 choosers) = none := by
    rw [List.find?_eq_none]
    simpa [choosersInOrder, Choosers.Active, not_or] using inactive
  rw [dispatchChoosers_eq, hidden]
  rfl

end Chain

section Binding

/-- What a key is to the bindings: not theirs, so that the terminal gets it, or consumed without
any effect, as in copy mode, or bound. -/
inductive Heed
  | forwarded | ignored | bound
  deriving DecidableEq

def heed (bindings : Bindings Action) (keyChar : Option Char) (keycode : UInt32) (mods : Mods) :
    Heed :=
  match bindings.handleKey keyChar keycode mods none with
  | (_, .forward) => .forwarded
  | (next, .consumed none) => if next.mode = bindings.mode then .ignored else .bound
  | _ => .bound

variable (program : Program Action)

/-- The bindings after a key. -/
def afterKey (bindings : Bindings Action) (keyChar : Option Char) (keycode : UInt32)
    (mods : Mods) : Bindings Action := (bindings.handleKey keyChar keycode mods none).1

theorem bindKey_heed (state : InputState Action) (keyChar : Option Char) (keycode : UInt32)
    (mods : Mods) :
    match heed state.bindings keyChar keycode mods with
    | .forwarded => bindKey program state keyChar keycode mods none =
        ⟨state.setBindings (afterKey state.bindings keyChar keycode mods), [], false⟩
    | .ignored => bindKey program state keyChar keycode mods none =
        ⟨state.setBindings (afterKey state.bindings keyChar keycode mods), [], true⟩
    | .bound => (bindKey program state keyChar keycode mods none).consumed = true ∧
        Leaks (bindKey program state keyChar keycode mods none).effects := by
  rw [heed, bindKey, afterKey]
  rcases state.bindings.handleKey keyChar keycode mods none with ⟨next, ⟨action⟩ | action | _⟩
  · cases action with
    | some action => exact ⟨rfl, _, List.mem_singleton_self _, rfl⟩
    | none =>
        dsimp only
        by_cases same : next.mode = state.bindings.mode
        · simp [same]
        · simp [same, Leaks, leaks]
  · exact ⟨rfl, _, List.mem_singleton_self _, rfl⟩
  · rfl

/-- A key is ignored only in copy mode. -/
theorem heed_eq_ignored_iff (bindings : Bindings Action) (keyChar : Option Char)
    (keycode : UInt32) (mods : Mods) :
    heed bindings keyChar keycode mods = .ignored ↔ bindings.Ignores keyChar mods := by
  rw [heed, Bindings.handleKey, Bindings.Ignores]
  cases mode : bindings.mode with
  | normal =>
      simp only [reduceCtorEq, false_and, iff_false]
      cases bindings.direct.lookup (keycode, mods) with
      | some action => simp
      | none =>
          dsimp only
          split_ifs <;> simp
  | prefixed =>
      simp only [reduceCtorEq, false_and, iff_false]
      cases keyChar.bind (List.lookup · bindings.table) with
      | some action => simp
      | none => simp
  | copyMode =>
      simp only [true_and, Bindings.handleCopyModeKey]
      cases Bindings.copyModeAction keyChar none mods with
      | some action => simp
      | none => simp [mode]

/-- No character of a text is bound where the characters before it have left the bindings. -/
def Unbound (bindings : Bindings Action) : Text → Prop
  | [] => True
  | char :: rest =>
      heed bindings (some char) 0 0 ≠ .bound ∧ Unbound (afterKey bindings (some char) 0 0) rest

theorem leaks_bindText_iff (state : InputState Action) (text : Text) :
    Leaks (bindText program state text).effects ↔ ¬ Unbound state.bindings text := by
  induction text generalizing state with
  | nil => simp [bindText, Unbound, not_leaks_nil]
  | cons char rest ih =>
      have first := bindKey_heed program state (some char) 0 0
      rw [bindText, Unbound]
      dsimp only
      rw [leaks_append, ih]
      cases what : heed state.bindings (some char) 0 0 with
      | bound =>
          rw [what] at first
          simp [first.2]
      | forwarded =>
          rw [what] at first
          rw [first]
          simp [not_leaks_nil, InputState.setBindings]
      | ignored =>
          rw [what] at first
          rw [first]
          simp [not_leaks_nil, InputState.setBindings]

end Binding

section Paths

variable (platform : Platform) (program : Program Action) (state : InputState Action)

theorem handleCommandKey_keeps (key : Key) (text : Option Text) (mods : Mods) :
    (handleCommandKey program state key text mods).consumed = true ∧
      ¬ Leaks (handleCommandKey program state key text mods).effects := by
  rw [handleCommandKey]
  rcases state.overlays.prompt.handleKey program.lower key text mods with ⟨prompt, _ | input⟩
  · exact ⟨rfl, not_leaks_nil⟩
  · exact ⟨rfl, by simp [Leaks, leaks]⟩

theorem handleSearchKey_keeps (key : Key) (text : Option Text) (mods : Mods) :
    (handleSearchKey state key text mods).consumed = true ∧
      ¬ Leaks (handleSearchKey state key text mods).effects := by
  refine ⟨rfl, ?_⟩
  have asked (action : Text) : ¬ Leaks [(.backendAction action : Effect Action)] := by
    rintro ⟨effect, member, leak⟩
    rw [List.mem_singleton.mp member] at leak
    cases leak
  rw [handleSearchKey, Search.handleKey.eq_def]
  dsimp only
  split
  · cases state.bindings.isCopyMode
    · exact asked _
    · exact not_leaks_nil
  · exact asked _
  · exact asked _
  · split
    · exact asked _
    · exact not_leaks_nil

/-- The prompt or the search bar is shown. -/
def BarShown (overlays : Overlays) : Prop :=
  overlays.prompt.active = true ∨ overlays.search.active = true

/-- A shown bar takes the key, and keeps it. -/
theorem dispatchBars_shown (shown : BarShown state.overlays) (key : Key) (text : Option Text)
    (mods : Mods) :
    ∃ outcome, dispatchBars program state key text mods = some outcome ∧
      outcome.consumed = true ∧ ¬ Leaks outcome.effects := by
  rw [dispatchBars]
  by_cases prompting : state.overlays.prompt.active = true
  · rw [if_pos prompting]
    exact ⟨_, rfl, handleCommandKey_keeps program state key text mods⟩
  · rw [if_neg prompting, if_pos (shown.resolve_left prompting)]
    exact ⟨_, rfl, handleSearchKey_keeps state key text mods⟩

theorem dispatchBars_hidden (hidden : ¬ BarShown state.overlays) (key : Key) (text : Option Text)
    (mods : Mods) : dispatchBars program state key text mods = none := by
  rw [BarShown, not_or] at hidden
  rw [dispatchBars, if_neg hidden.1, if_neg hidden.2]

section AppKey

variable (event : AppKeyEvent) (keyChar : Option Char) (key : Key)

theorem dispatchAppKey_choosing (choosing : state.overlays.choosers.Active) :
    dispatchAppKey program state event keyChar key =
      ofHandled state (dispatchChoosers program state.view state.overlays.choosers key keyChar) := by
  obtain ⟨entry, member, -, same⟩ :=
    dispatchChoosers_active program state.view key keyChar choosing
  have kept := keeps_choosersInOrder program state.view key keyChar state.overlays.choosers
    entry member
  rw [← same] at kept
  rw [dispatchAppKey]
  exact if_pos kept.1

theorem dispatchAppKey_bars (idle : ¬ state.overlays.choosers.Active) :
    dispatchAppKey program state event keyChar key =
      (dispatchBars program state key (event.text.or (keyChar.map fun char => [char]))
        event.mods).getD
          (bindKey program state keyChar event.keycode event.mods event.namedKey) := by
  rw [dispatchAppKey, dispatchChoosers_inactive program state.view key keyChar idle]
  rfl

theorem dispatchAppKey_keeps (active : state.overlays.Active) :
    (dispatchAppKey program state event keyChar key).consumed = true ∧
      ¬ Leaks (dispatchAppKey program state event keyChar key).effects := by
  by_cases choosing : state.overlays.choosers.Active
  · obtain ⟨entry, member, -, same⟩ :=
      dispatchChoosers_active program state.view key keyChar choosing
    rw [dispatchAppKey_choosing program state event keyChar key choosing, same]
    have kept := keeps_choosersInOrder program state.view key keyChar state.overlays.choosers
      entry member
    exact ⟨kept.1, kept.not_leaks⟩
  · obtain ⟨outcome, isOutcome, kept⟩ := dispatchBars_shown program state
      (active.resolve_left choosing) key (event.text.or (keyChar.map fun char => [char])) event.mods
    rw [dispatchAppKey_bars program state event keyChar key choosing, isOutcome]
    exact kept

end AppKey

/-- A key event is kept by the first overlay that is shown. -/
theorem handleAppKeyEvent_keeps (active : state.overlays.Active) (event : AppKeyEvent) :
    ¬ Leaks (handleAppKeyEvent platform program state event).effects := by
  rw [handleAppKeyEvent]
  dsimp only
  split
  · simp [Leaks, leaks]
  · obtain ⟨consumed, kept⟩ := dispatchAppKey_keeps program state event
      (event.keyChar platform) (event.keyboardKey platform) active
    rw [if_pos consumed]
    exact kept

/-- What keeps an injected key from the bindings and from the pane. -/
def InjectionKept (keyspec : Text) : Prop :=
  ∀ keycode mods, parseKeyspec platform keyspec = some (keycode, mods) →
    BarShown state.overlays ∨ state.bindings.Ignores (shiftedChar platform keycode mods) mods

theorem not_leaks_injectUnbound {keyspec : Text} {keycode : UInt32} {mods : Mods}
    (parsed : parseKeyspec platform keyspec = some (keycode, mods)) (keyChar : Option Char) :
    ¬ Leaks (injectUnbound program state keyspec keyChar keycode mods).effects ↔
      state.bindings.Ignores keyChar mods := by
  have bound := bindKey_heed program state keyChar keycode mods
  obtain ⟨vtKey, isVtKey⟩ := Option.isSome_iff_exists.mp (parseVtKeyspec_isSome parsed)
  rw [← heed_eq_ignored_iff state.bindings keyChar keycode mods, injectUnbound]
  cases what : heed state.bindings keyChar keycode mods with
  | bound =>
      rw [what] at bound
      simp [bound]
  | ignored =>
      rw [what] at bound
      simp [bound, not_leaks_nil]
  | forwarded =>
      rw [what] at bound
      simp [bound, isVtKey, Leaks, leaks]

theorem not_leaks_injectKey (keyspec : Text) :
    ¬ Leaks (injectKey platform program state keyspec).effects ↔
      InjectionKept platform state keyspec := by
  rw [injectKey, InjectionKept]
  cases parsed : parseKeyspec platform keyspec with
  | none => simp [not_leaks_nil]
  | some key =>
      obtain ⟨keycode, mods⟩ := key
      by_cases shown : BarShown state.overlays
      · obtain ⟨outcome, isOutcome, -, kept⟩ := dispatchBars_shown program state shown
          (controlKeyToKeyboardKey keyspec (shiftedChar platform keycode mods))
          ((shiftedChar platform keycode mods).map fun char => [char]) mods
        simp [isOutcome, kept, shown]
      · dsimp only
        rw [dispatchBars_hidden program state shown, Option.getD_none,
          not_leaks_injectUnbound platform program state parsed]
        simp [shown]

theorem foldl_displayPanesStep (view : View) {handled : Handled Action}
    (kept : ¬ Leaks handled.effects) (text : Text) :
    ((text.foldl (displayPanesStep view) handled).consumed = true ↔
        handled.consumed = true ∨ text ≠ []) ∧
      ¬ Leaks (text.foldl (displayPanesStep view) handled).effects := by
  induction text generalizing handled with
  | nil => simpa using kept
  | cons char text ih =>
      have handles : Keeps (Choosers.handleDisplayPanesChar view char handled.choosers :
          Handled Action) := keeps_displayPanesChar view handled.choosers char
      have step : ¬ Leaks (displayPanesStep view handled char).effects := by
        rw [displayPanesStep, leaks_append, not_or]
        exact ⟨kept, handles.not_leaks⟩
      obtain ⟨consumed, later⟩ := ih step
      rw [List.foldl_cons]
      refine ⟨?_, later⟩
      rw [consumed, displayPanesStep, handles.1]
      simp

theorem displayPanesText_keeps (view : View) (choosers : Choosers) (text : Text) :
    ((displayPanesText view choosers text : Handled Action).consumed = true ↔ text ≠ []) ∧
      ¬ Leaks (displayPanesText view choosers text : Handled Action).effects := by
  have folded := @foldl_displayPanesStep Action view (declined choosers) not_leaks_nil text
  simpa [displayPanesText, declined] using folded

/-- What keeps a committed text from the bindings and from the pane. -/
def TextKept (text : Text) : Prop :=
  text = [] ∨ state.overlays.choosers.displayPanesActive = true ∨ BarShown state.overlays ∨
    (state.bindings.mode ≠ .normal ∧ Unbound state.bindings text)

section Committed

/-- The rest of the way of a text that the numbers of the panes have not taken. -/
def commitUnshown (committed : Text) : Outcome Action :=
  (dispatchBars program state (.character committed) (some committed) 0).getD
    (if state.bindings.isPrefixMode || state.bindings.isCopyMode then
      bindText program state committed
    else ⟨state, [.writeText committed], true⟩)

theorem handleCommittedText_shown (shown : state.overlays.choosers.displayPanesActive = true)
    {committed : Text} (some_ : committed ≠ []) :
    handleCommittedText program state committed = ofHandled state.clearMouseSelection
      (displayPanesText state.view state.overlays.choosers committed) := by
  have consumed :=
    (@displayPanesText_keeps Action state.view state.overlays.choosers committed).1.mpr some_
  have shown' : state.clearMouseSelection.overlays.choosers.displayPanesActive = true := shown
  rw [handleCommittedText]
  dsimp only
  rw [if_pos shown']
  exact if_pos consumed

theorem handleCommittedText_unshown {committed : Text}
    (unshown : state.overlays.choosers.displayPanesActive = false ∨ committed = []) :
    handleCommittedText program state committed =
      commitUnshown program state.clearMouseSelection committed := by
  have passed : (if state.clearMouseSelection.overlays.choosers.displayPanesActive then
      displayPanesText state.clearMouseSelection.view state.clearMouseSelection.overlays.choosers
        committed
      else declined state.clearMouseSelection.overlays.choosers : Handled Action) =
        declined state.overlays.choosers := by
    rcases unshown with hidden | rfl
    · exact if_neg (by simpa [InputState.clearMouseSelection] using hidden)
    · exact ite_self _
  rw [handleCommittedText]
  dsimp only
  rw [passed]
  rfl

theorem not_leaks_commitUnshown (committed : Text) :
    ¬ Leaks (commitUnshown program state committed).effects ↔
      committed = [] ∨ BarShown state.overlays ∨
        (state.bindings.mode ≠ .normal ∧ Unbound state.bindings committed) := by
  rw [commitUnshown]
  by_cases shown : BarShown state.overlays
  · obtain ⟨outcome, isOutcome, -, kept⟩ :=
      dispatchBars_shown program state shown (.character committed) (some committed) 0
    simp [isOutcome, kept, shown]
  have modal : (state.bindings.isPrefixMode || state.bindings.isCopyMode) = true ↔
      state.bindings.mode ≠ .normal := by
    cases mode : state.bindings.mode <;> simp [Bindings.isPrefixMode, Bindings.isCopyMode, mode]
  rw [dispatchBars_hidden program state shown, Option.getD_none]
  by_cases normal : state.bindings.mode = .normal
  · rw [if_neg (by rw [modal, normal]; simp)]
    simp [Leaks, leaks, shown, normal]
  · rw [if_pos (modal.mpr normal), leaks_bindText_iff, not_not]
    constructor
    · exact fun unbound => .inr (.inr ⟨normal, unbound⟩)
    · rintro (rfl | shown' | ⟨-, unbound⟩)
      · trivial
      · exact absurd shown' shown
      · exact unbound

end Committed

theorem not_leaks_handleCommittedText (text : Text) :
    ¬ Leaks (handleCommittedText program state text).effects ↔ TextKept state text := by
  rw [TextKept]
  by_cases shown : state.overlays.choosers.displayPanesActive = true ∧ text ≠ []
  · rw [handleCommittedText_shown program state shown.1 shown.2]
    have kept := (@displayPanesText_keeps Action state.view state.overlays.choosers text).2
    exact ⟨fun _ => .inr (.inl shown.1), fun _ => kept⟩
  · have unshown : state.overlays.choosers.displayPanesActive = false ∨ text = [] := by
      rw [not_and_or, not_not, Bool.not_eq_true] at shown
      exact shown
    rw [handleCommittedText_unshown program state unshown, not_leaks_commitUnshown]
    rcases unshown with hidden | rfl
    · simp [hidden, InputState.clearMouseSelection]
    · simp

end Paths

section Changes

variable (view : View) {choosers : Choosers} (text : Text) {char : Char}

theorem findWindow_changes (lower : Text → Text) (active : choosers.findWindowActive = true) :
    (Choosers.handleFindWindowKey lower view (.character text) (some char) choosers :
      Handled Action).choosers ≠ choosers := by
  unfold Choosers.handleFindWindowKey
  dsimp only
  split
  · intro same
    have query := congrArg Choosers.findWindowQuery same
    simp [taken] at query
  · intro same
    have hidden := congrArg Choosers.findWindowActive same
    simp [taken, active] at hidden

theorem selectChooseTreeEntry_changes (active : choosers.chooseTreeActive = true) :
    (choosers.selectChooseTreeEntry view : Handled Action).choosers ≠ choosers := by
  rw [Choosers.selectChooseTreeEntry]
  intro same
  have hidden := congrArg Choosers.chooseTreeActive same
  split at hidden <;> simp [taken, Choosers.syncAfterTabChange, active] at hidden

theorem chooseTree_changes (active : choosers.chooseTreeActive = true) (notUp : char ≠ 'k')
    (notDown : char ≠ 'j') :
    (Choosers.handleChooseTreeKey view (.character text) (some char) choosers :
      Handled Action).choosers ≠ choosers := by
  unfold Choosers.handleChooseTreeKey
  dsimp only
  split
  · exact absurd (Option.some.inj ‹_›) notUp
  · exact absurd (Option.some.inj ‹_›) notDown
  · exact selectChooseTreeEntry_changes view active
  · intro same
    have hidden := congrArg Choosers.chooseTreeActive same
    simp [taken, active] at hidden

theorem deleteSelectedBuffer_changes (active : choosers.chooseBufferActive = true) :
    choosers.deleteSelectedBuffer ≠ choosers := by
  rw [Choosers.deleteSelectedBuffer]
  by_cases empty : choosers.pasteBuffers = []
  · rw [if_pos empty]
    intro same
    have hidden := congrArg Choosers.chooseBufferActive same
    simp [Choosers.closeChooseBuffer, active] at hidden
  · rw [if_neg empty]
    intro same
    have inside : min choosers.chooseBufferSelected (choosers.pasteBuffers.length - 1) <
        choosers.pasteBuffers.length := by
      have := List.length_pos_iff.mpr empty
      omega
    have count := congrArg (fun choosers => choosers.pasteBuffers.length) same
    dsimp only at count
    split at count <;>
      simp [Choosers.closeChooseBuffer, List.length_eraseIdx, inside] at count <;> omega

theorem pasteSelectedBuffer_changes (active : choosers.chooseBufferActive = true) :
    (choosers.pasteSelectedBuffer : Handled Action).choosers ≠ choosers := by
  rw [Choosers.pasteSelectedBuffer]
  intro same
  have hidden := congrArg Choosers.chooseBufferActive same
  split at hidden <;> simp [taken, Choosers.closeChooseBuffer, active] at hidden

theorem chooseBuffer_changes (active : choosers.chooseBufferActive = true) (notUp : char ≠ 'k')
    (notDown : char ≠ 'j') :
    (Choosers.handleChooseBufferKey (.character text) (some char) choosers :
      Handled Action).choosers ≠ choosers := by
  unfold Choosers.handleChooseBufferKey
  dsimp only
  split
  · exact absurd (Option.some.inj ‹_›) notUp
  · exact absurd (Option.some.inj ‹_›) notDown
  · exact deleteSelectedBuffer_changes active
  · exact pasteSelectedBuffer_changes active
  · exact pasteSelectedBuffer_changes active
  · intro same
    have hidden := congrArg Choosers.chooseBufferActive same
    simp [taken, active] at hidden

theorem displayPanes_changes (active : choosers.displayPanesActive = true) :
    (Choosers.handleDisplayPanesKey view (.character text) (some char) choosers :
      Handled Action).choosers ≠ choosers := by
  unfold Choosers.handleDisplayPanesKey
  dsimp only
  rw [Choosers.handleDisplayPanesChar]
  intro same
  have hidden := congrArg Choosers.displayPanesActive same
  split at hidden <;> simp [taken, Choosers.hideDisplayPanes, active] at hidden

/-- A typed character changes the chooser that is shown, up and down apart. -/
theorem dispatchChoosers_changes (program : Program Action) (active : choosers.Active)
    (notUp : char ≠ 'k') (notDown : char ≠ 'j') :
    (dispatchChoosers program view choosers (.character text) (some char)).choosers ≠
      choosers := by
  obtain ⟨entry, member, shown, same⟩ :=
    dispatchChoosers_active program view (.character text) (some char) active
  rw [same]
  simp only [choosersInOrder, List.mem_cons, List.not_mem_nil, or_false] at member
  rcases member with rfl | rfl | rfl | rfl
  · exact findWindow_changes view text program.lower shown
  · exact chooseTree_changes view text shown notUp notDown
  · exact chooseBuffer_changes text shown notUp notDown
  · exact displayPanes_changes view text shown

theorem keeps_dispatchChoosers (program : Program Action) (key : Key) (keyChar : Option Char)
    (active : choosers.Active) : Keeps (dispatchChoosers program view choosers key keyChar) := by
  obtain ⟨entry, member, -, same⟩ := dispatchChoosers_active program view key keyChar active
  rw [same]
  exact keeps_choosersInOrder program view key keyChar choosers entry member

end Changes

section Typing

/-- The keys that stand for text. -/
def Key.Plain (key : Key) : Prop := key = .named .space ∨ ∃ text, key = .character text

/-- A character in the bar that is shown. -/
def typedInto (lower : Text → Text) (overlays : Overlays) (char : Char) :
    Overlays × List (Effect Action) :=
  if overlays.prompt.active then
    ({ overlays with prompt := overlays.prompt.insert lower [char] }, [])
  else
    let query := overlays.search.query ++ [char].filter (' ' ≤ ·)
    ({ overlays with search := { overlays.search with query := query } },
      [.backendAction ("search:".toList ++ query)])

variable (program : Program Action) (state : InputState Action)

theorem dispatchBars_typed (shown : BarShown state.overlays) {key : Key} (plain : Key.Plain key)
    {mods : Mods} (noCtrl : ¬ mods.Has modsCtrl) (char : Char) :
    ∃ outcome, dispatchBars program state key (some [char]) mods = some outcome ∧
      (outcome.state.overlays, outcome.effects) = typedInto program.lower state.overlays char := by
  rw [dispatchBars, typedInto]
  by_cases prompting : state.overlays.prompt.active = true
  · rw [if_pos prompting, if_pos prompting]
    refine ⟨_, rfl, ?_⟩
    rcases plain with rfl | ⟨text, rfl⟩ <;>
      simp [handleCommandKey, CommandPrompt.handleKey, noCtrl, InputState.setPrompt]
  · rw [if_neg prompting, if_pos (shown.resolve_left prompting), if_neg prompting]
    refine ⟨_, rfl, ?_⟩
    rcases plain with rfl | ⟨text, rfl⟩ <;> rfl

/-- The modifiers with which a key types no text. -/
def modsCommand : Mods := modsCtrl ||| modsAlt ||| modsSuper

theorem Mods.not_has_of_not_command {mods : Mods} (typing : ¬ mods.Has modsCommand) :
    ¬ mods.Has modsCtrl ∧ ¬ mods.Has modsSuper := by
  simp only [Mods.Has, not_not] at typing ⊢
  have ctrl : modsCommand &&& modsCtrl = modsCtrl := by decide
  have super : modsCommand &&& modsSuper = modsSuper := by decide
  rw [← ctrl, ← super, ← UInt32.and_assoc, ← UInt32.and_assoc, typing]
  exact ⟨UInt32.zero_and, UInt32.zero_and⟩

/-- A character that is typed, injected and committed. -/
structure TypedKey (platform : Platform) where
  char : Char
  event : AppKeyEvent
  keyspec : Text
  keycode : UInt32
  mods : Mods
  eventTypes : event.keyChar platform = some char
  eventText : event.text = none ∨ event.text = some [char]
  eventUnnamed : event.namedKey = none
  eventPlain : ¬ event.mods.Has modsCommand
  parsed : parseKeyspec platform keyspec = some (keycode, mods)
  specTypes : shiftedChar platform keycode mods = some char
  specPlain : ¬ mods.Has modsCommand

section TypedKeys

variable {platform : Platform} (program : Program Action) (state : InputState Action)
  (key : TypedKey platform)

theorem handleAppKeyEvent_typed (active : state.overlays.Active) :
    ∃ text, handleAppKeyEvent platform program state key.event =
      dispatchAppKey program state key.event (some key.char) (.character text) := by
  have unnamed : ∃ text, key.event.keyboardKey platform = .character text := by
    rw [AppKeyEvent.keyboardKey, key.eventUnnamed]
    exact ⟨_, rfl⟩
  obtain ⟨text, isText⟩ := unnamed
  have noShortcut : isCommandCopyShortcut key.event (some key.char) = false := by
    simp [isCommandCopyShortcut, (Mods.not_has_of_not_command key.eventPlain).2]
  refine ⟨text, ?_⟩
  obtain ⟨consumed, -⟩ := dispatchAppKey_keeps program state key.event (some key.char)
    (.character text) active
  rw [handleAppKeyEvent, key.eventTypes, isText, noShortcut]
  exact if_pos consumed

theorem injectKey_typed :
    injectKey platform program state key.keyspec =
      (dispatchBars program state (controlKeyToKeyboardKey key.keyspec (some key.char))
        (some [key.char]) key.mods).getD
          (injectUnbound program state key.keyspec (some key.char) key.keycode key.mods) := by
  rw [injectKey, key.parsed]
  dsimp only
  rw [key.specTypes]
  rfl

/-- What a character does to a bar when it comes in a key event. -/
theorem handleAppKeyEvent_bar (idle : ¬ state.overlays.choosers.Active)
    (shown : BarShown state.overlays) :
    ((handleAppKeyEvent platform program state key.event).state.overlays,
      (handleAppKeyEvent platform program state key.event).effects) =
        typedInto program.lower state.overlays key.char := by
  obtain ⟨text, same⟩ := handleAppKeyEvent_typed program state key (.inr shown)
  have typed : key.event.text.or ((some key.char).map fun char => [char]) = some [key.char] := by
    rcases key.eventText with nothing | text
    · rw [nothing]
      rfl
    · rw [text]
      rfl
  obtain ⟨outcome, isOutcome, effect⟩ := dispatchBars_typed program state shown
    (.inr ⟨text, rfl⟩ : Key.Plain (.character text))
    (Mods.not_has_of_not_command key.eventPlain).1 key.char
  rw [same, dispatchAppKey_bars program state _ _ _ idle, typed, isOutcome]
  exact effect

theorem handleCommittedText_bar (idle : ¬ state.overlays.choosers.Active)
    (shown : BarShown state.overlays) (char : Char) :
    ((handleCommittedText program state [char]).state.overlays,
      (handleCommittedText program state [char]).effects) =
        typedInto program.lower state.overlays char := by
  have hidden : state.overlays.choosers.displayPanesActive = false := by
    rw [Choosers.Active, not_or, not_or, not_or] at idle
    simpa using idle.2.2.2
  have noMods : ¬ Mods.Has 0 modsCtrl := by decide
  obtain ⟨outcome, isOutcome, effect⟩ := dispatchBars_typed program state.clearMouseSelection shown
    (.inr ⟨[char], rfl⟩ : Key.Plain (.character [char])) noMods char
  rw [handleCommittedText_unshown program state (.inl hidden), commitUnshown, isOutcome]
  exact effect

end TypedKeys

end Typing

section Agreement

variable {platform : Platform} (program : Program Action) (state : InputState Action)
  (key : TypedKey platform)

/-- The overlays are left alike, and the program is asked for the same. -/
def SameEffect (outcome other : Outcome Action) : Prop :=
  outcome.state.overlays = other.state.overlays ∧ outcome.effects = other.effects

/-- The tab key has nothing to change: the command that it takes over is typed out already, or none
is selected and the suggestions are those for the input. -/
def NothingToComplete (lower : Text → Text) (prompt : CommandPrompt) : Prop :=
  match prompt.selectedCommand with
  | some (name, args) => prompt.input = name.toList ++ if args then [' '] else []
  | none => prompt.suggestions = suggested lower prompt.input ∧ prompt.selectedSuggestion = 0

theorem complete_eq_iff (lower : Text → Text) (prompt : CommandPrompt) :
    prompt.complete lower = prompt.updateSuggestions lower ↔ NothingToComplete lower prompt := by
  unfold CommandPrompt.complete NothingToComplete
  cases prompt.selectedCommand with
  | none =>
      constructor
      · intro renewed
        exact ⟨congrArg CommandPrompt.suggestions renewed,
          congrArg CommandPrompt.selectedSuggestion renewed⟩
      · rintro ⟨suggestions, first⟩
        rw [CommandPrompt.updateSuggestions, ← suggestions, ← first]
  | some command =>
      constructor
      · intro renewed
        exact (congrArg CommandPrompt.input renewed).symm
      · intro typed
        dsimp only at typed ⊢
        rw [CommandPrompt.setInput, ← typed]

/-- When a typed character does the same on all three paths: only a bar is shown, and the key is
not enter, nor a tab that completes the prompt's input. -/
def Agreeing : Prop :=
  ¬ state.overlays.choosers.Active ∧ specName key.keyspec ≠ some .enter ∧
    (state.overlays.prompt.active = true → specName key.keyspec = some .tab →
      NothingToComplete program.lower state.overlays.prompt)

theorem injectKey_bar (shown : BarShown state.overlays)
    (notEnter : specName key.keyspec ≠ some .enter) :
    (specName key.keyspec = some .tab ∧ key.char = '\t' ∧ state.overlays.prompt.active = true ∧
      (injectKey platform program state key.keyspec).state.overlays =
        { state.overlays with prompt := state.overlays.prompt.complete program.lower } ∧
      (injectKey platform program state key.keyspec).effects = []) ∨
    ((specName key.keyspec = some .tab → state.overlays.prompt.active = false) ∧
      ((injectKey platform program state key.keyspec).state.overlays,
        (injectKey platform program state key.keyspec).effects) =
          typedInto program.lower state.overlays key.char) := by
  have noCtrl := (Mods.not_has_of_not_command key.specPlain).1
  rw [injectKey_typed, controlKeyToKeyboardKey]
  cases name : specName key.keyspec with
  | none =>
      obtain ⟨outcome, isOutcome, effect⟩ := dispatchBars_typed program state shown
        (.inr ⟨_, rfl⟩ : Key.Plain (.character [(some key.char).getD (Char.ofNat 0)])) noCtrl
        key.char
      refine .inr ⟨by simp, ?_⟩
      dsimp only
      rw [isOutcome]
      exact effect
  | some named =>
      dsimp only
      rcases specName_typed key.parsed key.specTypes name with ⟨rfl, -⟩ | ⟨rfl, tab⟩ | ⟨rfl, -⟩
      · exact absurd name notEnter
      · by_cases prompting : state.overlays.prompt.active = true
        · refine .inl ⟨rfl, tab, prompting, ?_, ?_⟩ <;> rw [dispatchBars, if_pos prompting] <;> rfl
        · refine .inr ⟨fun _ => by simpa using prompting, ?_⟩
          rw [dispatchBars, typedInto, if_neg prompting, if_neg prompting,
            if_pos (shown.resolve_left prompting)]
          rfl
      · obtain ⟨outcome, isOutcome, effect⟩ := dispatchBars_typed program state shown
          (.inl rfl) noCtrl key.char
        refine .inr ⟨by simp, ?_⟩
        rw [isOutcome]
        exact effect

theorem insert_control (lower : Text → Text) (prompt : CommandPrompt) {char : Char}
    (control : ¬ ' ' ≤ char) : prompt.insert lower [char] = prompt.updateSuggestions lower := by
  rw [CommandPrompt.insert, CommandPrompt.setInput, List.filter_cons_of_neg (by simpa using control),
    List.filter_nil, List.append_nil]

/-- An injected enter asks for something that no typed character asks for. -/
theorem injectKey_enter (shown : BarShown state.overlays)
    (enter : specName key.keyspec = some .enter) :
    (state.overlays.prompt.active = true ∧
      (injectKey platform program state key.keyspec).effects =
        [.executeCommand state.overlays.prompt.input]) ∨
    (state.overlays.prompt.active = false ∧
      ∃ direction : Text, (injectKey platform program state key.keyspec).effects =
        [.backendAction ('n' :: direction)]) := by
  rw [injectKey_typed, controlKeyToKeyboardKey, enter]
  dsimp only
  by_cases prompting : state.overlays.prompt.active = true
  · rw [dispatchBars, if_pos prompting]
    exact .inl ⟨prompting, rfl⟩
  · rw [dispatchBars, if_neg prompting, if_pos (shown.resolve_left prompting)]
    refine .inr ⟨by simpa using prompting, ?_⟩
    by_cases shift : key.mods.Has modsShift
    · exact ⟨"avigate_search:previous".toList, by
        simp [handleSearchKey, Search.handleKey, shift]⟩
    · exact ⟨"avigate_search:next".toList, by simp [handleSearchKey, Search.handleKey, shift]⟩

/-- A character that copy mode ignores moves no selection. -/
theorem not_move_of_ignores {bindings : Bindings Action} {char : Char} {mods : Mods}
    (ignores : bindings.Ignores (some char) mods) : char ≠ 'k' ∧ char ≠ 'j' := by
  have plain : List.lookup char copyPlain = none := by
    have all := ignores.2
    simp only [Bindings.copyModeAction, Option.or_eq_none_iff] at all
    exact all.2.2
  constructor
  · rintro rfl
    revert plain
    decide
  · rintro rfl
    revert plain
    decide

/-- While a chooser is shown, an injected key does not do what the same key does in the window. -/
theorem injectKey_choosing (choosing : state.overlays.choosers.Active)
    (kept : ¬ Leaks (injectKey platform program state key.keyspec).effects) :
    ¬ SameEffect (handleAppKeyEvent platform program state key.event)
      (injectKey platform program state key.keyspec) := by
  obtain ⟨text, isDispatched⟩ := handleAppKeyEvent_typed program state key (.inl choosing)
  rw [isDispatched, dispatchAppKey_choosing program state _ _ _ choosing]
  rintro ⟨overlays, effects⟩
  have choice : ∀ effect ∈ (injectKey platform program state key.keyspec).effects,
      chooses effect = true := by
    rw [← effects]
    exact (keeps_dispatchChoosers state.view program (.character text) (some key.char)
      choosing).2
  have changed := fun notUp notDown => @dispatchChoosers_changes Action state.view
    state.overlays.choosers text key.char program choosing notUp notDown
  have sameChoosers : (dispatchChoosers program state.view state.overlays.choosers
      (.character text) (some key.char)).choosers =
        (injectKey platform program state key.keyspec).state.overlays.choosers := by
    rw [← overlays]
    rfl
  have samePrompt : state.overlays.prompt =
      (injectKey platform program state key.keyspec).state.overlays.prompt := by
    rw [← overlays]
    rfl
  by_cases shown : BarShown state.overlays
  · by_cases enter : specName key.keyspec = some .enter
    · rcases injectKey_enter program state key shown enter with ⟨-, asked⟩ | ⟨-, _, asked⟩
      · rw [asked] at choice
        exact absurd (choice _ List.mem_cons_self) (by simp [chooses])
      · rw [asked] at choice
        exact absurd (choice _ List.mem_cons_self) (by simp [chooses])
    · rcases injectKey_bar program state key shown enter with
        ⟨-, tab, -, left, -⟩ | ⟨-, typed⟩
      · rw [left] at sameChoosers
        exact changed (by rw [tab]; decide) (by rw [tab]; decide) sameChoosers
      · rw [typedInto] at typed
        by_cases prompting : state.overlays.prompt.active = true
        · rw [if_pos prompting] at typed
          obtain ⟨left, -⟩ := Prod.mk.inj typed
          rw [left] at sameChoosers samePrompt
          have control : ¬ ' ' ≤ key.char := by
            intro printable
            have input := congrArg CommandPrompt.input samePrompt
            simp [CommandPrompt.insert, CommandPrompt.setInput, CommandPrompt.updateSuggestions,
              printable] at input
          refine changed ?_ ?_ sameChoosers
          · rintro up
            rw [up] at control
            exact control (by decide)
          · rintro down
            rw [down] at control
            exact control (by decide)
        · rw [if_neg prompting] at typed
          rw [(Prod.mk.inj typed).2] at choice
          exact absurd (choice _ List.mem_cons_self) (by simp [chooses])
  · have ignores := ((not_leaks_injectKey platform program state key.keyspec).mp kept
      key.keycode key.mods key.parsed).resolve_left shown
    rw [key.specTypes] at ignores
    have bound := bindKey_heed program state (some key.char) key.keycode key.mods
    rw [(heed_eq_ignored_iff state.bindings _ key.keycode key.mods).mpr ignores] at bound
    have left : injectKey platform program state key.keyspec =
        bindKey program state (some key.char) key.keycode key.mods none := by
      rw [injectKey_typed, dispatchBars_hidden program state shown, Option.getD_none,
        injectUnbound, bound]
      rfl
    rw [left, bound] at sameChoosers
    obtain ⟨notUp, notDown⟩ := not_move_of_ignores ignores
    exact changed notUp notDown sameChoosers

/-- A typed character is kept, and does the same on all three paths, exactly where the paths
agree. -/
theorem typed_agree_iff (active : state.overlays.Active) :
    ((¬ Leaks (handleAppKeyEvent platform program state key.event).effects ∧
        ¬ Leaks (injectKey platform program state key.keyspec).effects ∧
        ¬ Leaks (handleCommittedText program state [key.char]).effects) ∧
      SameEffect (handleAppKeyEvent platform program state key.event)
        (injectKey platform program state key.keyspec) ∧
      SameEffect (handleAppKeyEvent platform program state key.event)
        (handleCommittedText program state [key.char])) ↔
      Agreeing program state key := by
  constructor
  · rintro ⟨⟨-, keptInjected, -⟩, injected, -⟩
    have idle : ¬ state.overlays.choosers.Active := fun choosing =>
      injectKey_choosing program state key choosing keptInjected injected
    have shown := active.resolve_left idle
    have typed := handleAppKeyEvent_bar program state key idle shown
    rw [injected.1, injected.2, typedInto] at typed
    refine ⟨idle, ?_, ?_⟩
    · intro enter
      rcases injectKey_enter program state key shown enter with
        ⟨prompting, asked⟩ | ⟨hidden, direction, asked⟩
      · rw [if_pos prompting, asked] at typed
        cases (Prod.mk.inj typed).2
      · rw [if_neg (by simp [hidden]), asked] at typed
        have search := (Prod.mk.inj typed).2
        simp at search
    · intro prompting tab
      rcases injectKey_bar program state key shown (by rw [tab]; simp) with
        ⟨-, isTab, -, left, -⟩ | ⟨hidden, -⟩
      · rw [if_pos prompting, left] at typed
        have prompts := congrArg Overlays.prompt (Prod.mk.inj typed).1
        have control : ¬ ' ' ≤ key.char := by
          rw [isTab]
          decide
        exact (complete_eq_iff _ _).mp
          (prompts.trans (insert_control program.lower state.overlays.prompt control))
      · rw [hidden tab] at prompting
        cases prompting
  · rintro ⟨idle, notEnter, tab⟩
    have shown := active.resolve_left idle
    have typed := handleAppKeyEvent_bar program state key idle shown
    have committed := handleCommittedText_bar program state idle shown key.char
    refine ⟨⟨handleAppKeyEvent_keeps platform program state active key.event,
      (not_leaks_injectKey platform program state key.keyspec).mpr fun _ _ _ => .inl shown,
      (not_leaks_handleCommittedText program state [key.char]).mpr (.inr (.inr (.inl shown)))⟩,
      ?_, Prod.mk.inj (typed.trans committed.symm)⟩
    rcases injectKey_bar program state key shown notEnter with
      ⟨isTab, char, prompting, left, effects⟩ | ⟨-, injected⟩
    · refine Prod.mk.inj (typed.trans ?_)
      rw [left, effects, typedInto, if_pos prompting,
        (complete_eq_iff _ _).mpr (tab prompting isTab), char,
        insert_control program.lower _ (by decide)]
    · exact Prod.mk.inj (typed.trans injected.symm)

end Agreement

section Inputs

/-- A key event, a key spec, a text, or a character that comes on all three paths. -/
inductive Input (platform : Platform)
  | appKey (event : AppKeyEvent)
  | injected (keyspec : Text)
  | committed (text : Text)
  | typed (key : TypedKey platform)

variable {platform : Platform} (program : Program Action) (state : InputState Action)

/-- The overlays keep an input to themselves, and a character has one effect on them. -/
def Contained : Input platform → Prop
  | .appKey event => ¬ Leaks (handleAppKeyEvent platform program state event).effects
  | .injected keyspec => ¬ Leaks (injectKey platform program state keyspec).effects
  | .committed text => ¬ Leaks (handleCommittedText program state text).effects
  | .typed key =>
      (¬ Leaks (handleAppKeyEvent platform program state key.event).effects ∧
        ¬ Leaks (injectKey platform program state key.keyspec).effects ∧
        ¬ Leaks (handleCommittedText program state [key.char]).effects) ∧
      SameEffect (handleAppKeyEvent platform program state key.event)
        (injectKey platform program state key.keyspec) ∧
      SameEffect (handleAppKeyEvent platform program state key.event)
        (handleCommittedText program state [key.char])

/-- What keeps an input with the overlays. -/
def Reaches : Input platform → Prop
  | .appKey _ => True
  | .injected keyspec => InjectionKept platform state keyspec
  | .committed text => TextKept state text
  | .typed key => Agreeing program state key

theorem contained_iff_reaches (active : state.overlays.Active) (input : Input platform) :
    Contained program state input ↔ Reaches program state input := by
  cases input with
  | appKey event =>
      exact iff_of_true (handleAppKeyEvent_keeps platform program state active event) trivial
  | injected keyspec => exact not_leaks_injectKey platform program state keyspec
  | committed text => exact not_leaks_handleCommittedText program state text
  | typed key => exact typed_agree_iff program state key active

/-- A session without bindings, in which the window search is shown or the prompt. -/
def sampleState (finding prompting : Bool) : InputState Unit where
  overlays := {
    choosers := ⟨finding, [], 0, false, 0, false, 0, [], false⟩
    prompt := ⟨prompting, [], [], none, [], 0⟩
    search := ⟨false, []⟩ }
  bindings := ⟨none, [], [], .normal⟩
  view := ⟨[], []⟩
  selection := none

def plainProgram : Program Unit where
  lower := id
  dispatchBindingAction := fun _ state => state
  dispatchCopyModeAction := fun _ state => state
  executeCommand := fun _ state => state

/-- The letter a, as the window sends it on Linux and as a key spec. -/
def letterA : TypedKey .linux where
  char := 'a'
  event := ⟨20, 0, some ['a'], none, none, false⟩
  keyspec := ['a']
  keycode := 20
  mods := 0
  eventTypes := by decide
  eventText := .inr rfl
  eventUnnamed := rfl
  eventPlain := by decide
  parsed := by decide
  specTypes := by decide
  specPlain := by decide

/-- In the command prompt the letter does the same on all three paths. -/
theorem letterA_reaches_prompt :
    Contained plainProgram (sampleState false true) (.typed letterA) := by
  refine (contained_iff_reaches plainProgram (sampleState false true) (by decide) _).mpr ?_
  refine ⟨by decide, by decide, fun _ tab => ?_⟩
  cases tab

/-- While the window search is shown, an injected letter goes to the pane. -/
theorem letterA_leaks_past_findWindow :
    (sampleState true false).overlays.Active ∧
      ¬ Contained plainProgram (sampleState true false) (.injected ['a'] : Input .linux) := by
  refine ⟨by decide, fun kept => kept ⟨.forwardKey 20 0 (some 'a') ['a'], ?_, rfl⟩⟩
  decide

end Inputs

end Boo.Runtime.OverlayInput
