/- module: Boo/Runtime/LayoutText
   digest: Layout files: the text that is saved, and what parsing it gives back (layout.rs). -/

import Boo.Runtime.Tabs
import Boo.Lib.TextLines

set_option autoImplicit false
set_option relaxedAutoImplicit false

namespace Boo.Runtime.LayoutText

open Boo.Lib.Entries
open Boo.Lib.TextLines
open Boo.Runtime.Splits
open Boo.Runtime.Tabs

inductive SplitDir
  | right | down
  deriving DecidableEq

structure SplitSpec where
  direction : SplitDir
  ratio : ℚ
  deriving DecidableEq

structure LayoutPane where
  command : Option Text
  workingDirectory : Option Text
  split : Option SplitSpec
  deriving DecidableEq

structure LayoutTab where
  title : Text
  layout : TabLayout
  panes : List LayoutPane
  deriving DecidableEq

structure Layout where
  name : Text
  tabs : List LayoutTab
  deriving DecidableEq

section Parsing

/-- "0.6", "60%" or "60". -/
def parseRatio (text : Text) : ℚ :=
  match stripSuffix '%' text with
  | some percent => (parseDecimal percent).getD 50 / 100
  | none =>
      let value := (parseDecimal text).getD (1 / 2)
      if 1 < value then value / 100 else value

/-- `home` is the environment's `HOME`, if it is set. -/
def shellexpandHome (home : Option Text) (path : Text) : Text :=
  match home, path with
  | some home, '~' :: '/' :: rest => home ++ '/' :: rest
  | _, _ => path

/-- What `parse_layout` keeps from line to line. -/
structure Parsed where
  layout : Layout
  currentWorkingDir : Option Text
  pendingSplit : Option SplitSpec
  currentTabLayout : TabLayout

def tabLayoutOf (value : Text) : TabLayout :=
  if value = "even-horizontal".toList then .evenHorizontal
  else if value = "even-vertical".toList then .evenVertical
  else if value = "main-horizontal".toList then .mainHorizontal
  else if value = "main-vertical".toList then .mainVertical
  else if value = "tiled".toList then .tiled
  else .manual

/-- Change the last tab. -/
def modifyLast (update : LayoutTab → LayoutTab) (tabs : List LayoutTab) : List LayoutTab :=
  tabs.modify (tabs.length - 1) update

namespace Parsed

variable (parsed : Parsed)

def setTabs (tabs : List LayoutTab) : Parsed :=
  { parsed with layout := { parsed.layout with tabs := tabs } }

def parsePane (value : Text) : Parsed :=
  let tabs :=
    if parsed.layout.tabs = [] then [⟨[], parsed.currentTabLayout, []⟩] else parsed.layout.tabs
  let pane : LayoutPane := {
    command := if value = [] then none else some value
    workingDirectory := parsed.currentWorkingDir
    split := parsed.pendingSplit }
  { parsed.setTabs (modifyLast (fun tab => { tab with panes := tab.panes ++ [pane] }) tabs) with
    pendingSplit := none }

def setPendingSplit (direction : SplitDir) (ratio : ℚ) : Parsed :=
  { parsed with pendingSplit := some ⟨direction, ratio⟩ }

def parseSplit (direction : SplitDir) (value : Text) : Parsed :=
  parsed.setPendingSplit direction (if value = [] then 1 / 2 else parseRatio value)

/-- A line with a key and a value. -/
def parseKey (home : Option Text) (key value : Text) : Parsed :=
  if key = "layout-name".toList then
    { parsed with layout := { parsed.layout with name := value } }
  else if key = "working-directory".toList then
    { parsed with currentWorkingDir := some (shellexpandHome home value) }
  else if key = "layout".toList then
    { parsed.setTabs (modifyLast (fun tab => { tab with layout := tabLayoutOf value })
        parsed.layout.tabs) with
      currentTabLayout := tabLayoutOf value }
  else if key = "tab".toList then
    { parsed.setTabs (parsed.layout.tabs ++ [⟨value, .manual, []⟩]) with
      currentTabLayout := .manual }
  else if key = "split-right".toList then parsed.parseSplit .right value
  else if key = "split-down".toList then parsed.parseSplit .down value
  else if key = "pane".toList then parsed.parsePane value
  else parsed

def parseLine (home : Option Text) (line : Text) : Parsed :=
  let line := trim line
  if line = [] ∨ line.head? = some '#' then parsed
  else if line = "split-right".toList then parsed.setPendingSplit .right (1 / 2)
  else if line = "split-down".toList then parsed.setPendingSplit .down (1 / 2)
  else
    match splitOnce '=' line with
    | none => parsed
    | some (key, value) => parsed.parseKey home (trim key) (trim value)

def parseText (home : Option Text) (text : Text) : Parsed :=
  (lines text).foldl (fun parsed line => parsed.parseLine home line) parsed

/-- The last loop of `parse_layout`: every tab gets a pane. -/
def finish : Layout :=
  { parsed.layout with
    tabs := parsed.layout.tabs.map fun tab =>
      if tab.panes = [] then
        { tab with panes := [⟨none, parsed.currentWorkingDir, none⟩] }
      else tab }

end Parsed

def parseLayout (home : Option Text) (name content : Text) : Layout :=
  ((⟨⟨name, []⟩, none, none, .manual⟩ : Parsed).parseText home content).finish

end Parsing

section Saving

/-- The line that the format strings `"{key} = {value}\n"` write. -/
def keyLine (key : String) (value : Text) : Text := key.toList ++ " = ".toList ++ value ++ ['\n']

/-- What follows the directive of a split: nothing near one half, else a percentage. -/
def ratioText (ratio : ℚ) : Option Text :=
  if |ratio - 1 / 2| < 1 / 100 then none else some (formatWhole (ratio * 100) ++ ['%'])

def directive : SplitDir → String
  | .right => "split-right"
  | .down => "split-down"

def bareLine (direction : SplitDir) : Text := (directive direction).toList ++ ['\n']

def splitLine : Option SplitSpec → Text
  | none => bareLine .down
  | some spec =>
      ((ratioText spec.ratio).map (keyLine (directive spec.direction))).getD
        (bareLine spec.direction)

def layoutText : TabLayout → Option String
  | .manual => none
  | .evenHorizontal => some "even-horizontal"
  | .evenVertical => some "even-vertical"
  | .mainHorizontal => some "main-horizontal"
  | .mainVertical => some "main-vertical"
  | .tiled => some "tiled"

def paneText (pane : LayoutPane) (index : Nat) : Text :=
  (pane.workingDirectory.map (keyLine "working-directory")).getD [] ++
    (if 0 < index then splitLine pane.split else []) ++ keyLine "pane" (pane.command.getD [])

def tabText (tab : LayoutTab) : Text :=
  keyLine "tab" tab.title ++
    ((layoutText tab.layout).map fun name => keyLine "layout" name.toList).getD [] ++
      (tab.panes.zipIdx.flatMap fun (pane, index) => paneText pane index) ++ ['\n']

/-- The text that `save_layout` writes. -/
def layoutFile (layout : Layout) : Text :=
  keyLine "layout-name" layout.name ++ ['\n'] ++ layout.tabs.flatMap tabText

def splitDirOf : Direction → SplitDir
  | .horizontal => .right
  | .vertical => .down

/-- The panes that a tab is saved with. -/
def savedPanes (tree : SplitTree) : List LayoutPane :=
  tree.exportPanes.map fun exported => {
    command := none
    workingDirectory := none
    split := exported.split.map fun (direction, ratio) => ⟨splitDirOf direction, ratio⟩ }

def savedTab (tab : Tab) : LayoutTab where
  title := (TabManager.displayTitle tab (tab.runningCommand.map fun _ =>
    TabManager.firstSpinner)).toList
  layout := tab.layout
  panes := savedPanes tab.tree

/-- `save_current_layout`: what it saves of the tabs, and as what text. -/
def saveCurrentLayout (tabs : TabManager) (name : Text) : Text :=
  layoutFile ⟨name, tabs.tabs.map savedTab⟩

end Saving

section Lines

/-- A word that can stand as the key of a line. -/
def KeyWord (key : Text) : Prop :=
  key ≠ [] ∧ ∀ char ∈ key, isWhitespace char = false ∧ char ≠ '=' ∧ char ≠ '#'

instance (key : Text) : Decidable (KeyWord key) :=
  decidable_of_iff (key ≠ [] ∧
      (key.all fun char => !isWhitespace char && char != '=' && char != '#') = true) (by
    simp [KeyWord, and_assoc])

variable (home : Option Text) (parsed : Parsed)

theorem trim_keyLine {key : Text} (word : KeyWord key) (value : Text) :
    trim (key ++ " = ".toList ++ value) = key ++ [' '] ++ '=' :: trimEnd (' ' :: value) := by
  obtain ⟨nonempty, solid⟩ := word
  have shape : key ++ " = ".toList ++ value = key ++ [' '] ++ ['='] ++ ' ' :: value := by
    simp
  rw [shape, trim, trimEnd_append_of_solid (by decide)]
  cases key with
  | nil => exact absurd rfl nonempty
  | cons first key =>
      rw [List.cons_append, List.cons_append, List.cons_append,
        List.dropWhile_cons_of_neg (by simp [solid first List.mem_cons_self])]
      simp

theorem parseLine_key {key : Text} (word : KeyWord key) (value : Text) :
    parsed.parseLine home (key ++ " = ".toList ++ value) =
      parsed.parseKey home key (trim value) := by
  have noSign : '=' ∉ key ++ [' '] := by
    intro member
    rcases List.mem_append.mp member with own | blank
    · exact (word.2 _ own).2.1 rfl
    · exact absurd blank (by decide)
  have bare (text : Text) (free : '=' ∉ text) :
      key ++ [' '] ++ '=' :: trimEnd (' ' :: value) ≠ text := by
    rintro rfl
    exact free (by simp)
  have ownKey : trim (key ++ [' ']) = key := by
    rw [trim_append_blank (by decide)]
    exact trim_eq_self fun char member => (word.2 char member).1
  rw [Parsed.parseLine, trim_keyLine word]
  rw [if_neg, if_neg (bare _ (by decide)), if_neg (bare _ (by decide)),
    splitOnce_append noSign]
  · dsimp only
    rw [ownKey, trim_trimEnd, trim_cons_blank (by decide)]
  · rw [not_or]
    refine ⟨bare [] (by simp), ?_⟩
    cases key with
    | nil => exact absurd rfl word.1
    | cons first key => simpa using (word.2 first List.mem_cons_self).2.2

theorem parseText_line {line : Text} (unbroken : '\n' ∉ line) (rest : Text) :
    parsed.parseText home (line ++ '\n' :: rest) =
      (parsed.parseLine home line).parseText home rest := by
  rw [Parsed.parseText, lines_append unbroken, List.foldl_cons, Parsed.parseText]

theorem parseText_keyLine {key : String} (word : KeyWord key.toList) {value : Text}
    (unbroken : '\n' ∉ value) (rest : Text) :
    parsed.parseText home (keyLine key value ++ rest) =
      (parsed.parseKey home key.toList (trim value)).parseText home rest := by
  have plain : '\n' ∉ key.toList ++ " = ".toList ++ value := by
    rw [List.mem_append, List.mem_append, not_or, not_or]
    refine ⟨⟨fun member => ?_, by decide⟩, unbroken⟩
    exact absurd (word.2 _ member).1 (by decide)
  rw [← parseLine_key home parsed word, ← parseText_line home parsed plain, keyLine,
    List.append_assoc _ ['\n'] rest, List.singleton_append]

theorem parseText_blank (rest : Text) :
    parsed.parseText home ('\n' :: rest) = parsed.parseText home rest := by
  have line := @parseText_line home parsed [] (by simp) rest
  rwa [List.nil_append] at line

end Lines

section Ratios

/-- The ratio that is read back for one that was written. -/
def readRatio (ratio : ℚ) : ℚ := ((ratioText ratio).map parseRatio).getD (1 / 2)

theorem solid_of_isDigit {char : Char} (digit : char.isDigit = true) :
    isWhitespace char = false := by
  have bounds : 48 ≤ char.toNat ∧ char.toNat ≤ 57 := by
    simpa [Char.isDigit, UInt32.le_iff_toNat_le] using digit
  simp only [isWhitespace, Bool.or_eq_false_iff, Bool.and_eq_false_iff, decide_eq_false_iff_not,
    beq_eq_false_iff_ne]
  omega

theorem solid_formatWhole (value : ℚ) : ∀ char ∈ formatWhole value ++ ['%'],
    isWhitespace char = false := by
  have digits (n : ℕ) : ∀ char ∈ Nat.toDigits 10 n, isWhitespace char = false :=
    fun char member => solid_of_isDigit
      (Nat.isDigit_of_mem_toDigits (by decide) (by decide) member)
  intro char member
  rcases List.mem_append.mp member with number | percent
  · rw [formatWhole] at number
    split at number
    · rcases List.mem_cons.mp number with rfl | digit
      · decide
      · exact digits _ char digit
    · exact digits _ char number
  · rw [List.mem_singleton.mp percent]
    decide

theorem parseRatio_formatWhole (value : ℚ) :
    parseRatio (formatWhole value ++ ['%']) = roundWhole value / 100 := by
  simp only [parseRatio, stripSuffix_append, parseDecimal_formatWhole, Option.getD_some]

theorem readRatio_eq (ratio : ℚ) :
    readRatio ratio =
      if |ratio - 1 / 2| < 1 / 100 then 1 / 2 else roundWhole (ratio * 100) / 100 := by
  rw [readRatio, ratioText]
  split
  · rfl
  · rw [Option.map_some, parseRatio_formatWhole, Option.getD_some]

theorem readRatio_bounds (ratio : ℚ) :
    (1 / 10 ≤ readRatio ratio ↔ 19 / 200 ≤ ratio) ∧
      (readRatio ratio ≤ 9 / 10 ↔ ratio ≤ 181 / 200) := by
  rw [readRatio_eq]
  split
  · rename_i near
    have bounds := abs_lt.mp near
    constructor <;> constructor <;> intro <;> linarith
  · rw [roundWhole]
    split
    · have sign : (0 : ℚ) ≤ roundHalfEven (-(ratio * 100)) := Nat.cast_nonneg _
      constructor <;> constructor <;> intro <;> linarith
    · rename_i sign
      have low := @le_roundHalfEven_iff _ (not_lt.mp sign) 10 (by decide)
      have high := @roundHalfEven_le_iff _ (not_lt.mp sign) 90 (by decide)
      push_cast at low high
      constructor
      · rw [le_div_iff₀ (by norm_num)]
        norm_num
        rw [low]
        constructor <;> intro <;> linarith
      · rw [div_le_iff₀ (by norm_num)]
        norm_num
        rw [high]
        constructor <;> intro <;> linarith

/-- A ratio that is read back inside the clamp is written as before. -/
theorem ratioText_readRatio {ratio : ℚ} (sign : 0 ≤ ratio) :
    ratioText (readRatio ratio) = ratioText ratio := by
  rw [readRatio_eq]
  by_cases near : |ratio - 1 / 2| < 1 / 100
  · rw [if_pos near, ratioText, ratioText, if_pos near]
    simp
  · have positive : 0 ≤ ratio * 100 := by linarith
    have whole : roundWhole (ratio * 100) = roundHalfEven (ratio * 100) := by
      rw [roundWhole, if_neg (not_lt.mpr positive)]
    have away : ¬|(roundHalfEven (ratio * 100) : ℚ) / 100 - 1 / 2| < 1 / 100 := by
      have low := @le_roundHalfEven_iff _ positive 50 (by decide)
      have high := @roundHalfEven_le_iff _ positive 50 (by decide)
      push_cast at low high
      intro close
      obtain ⟨above, below⟩ := abs_lt.mp close
      have lower : (49 : ℚ) < roundHalfEven (ratio * 100) := by linarith
      have upper : (roundHalfEven (ratio * 100) : ℚ) < 51 := by linarith
      have lower' : 49 < roundHalfEven (ratio * 100) := by exact_mod_cast lower
      have upper' : roundHalfEven (ratio * 100) < 51 := by exact_mod_cast upper
      have least := low.mp lower'
      have most := high.mp (Nat.le_of_lt_succ upper')
      exact near (abs_lt.mpr ⟨by linarith, by linarith⟩)
    have back : (roundHalfEven (ratio * 100) : ℚ) / 100 * 100 = roundHalfEven (ratio * 100) :=
      div_mul_cancel₀ _ (by norm_num)
    rw [if_neg near, whole, ratioText, if_neg away, ratioText, if_neg near, back]
    simp [formatWhole, not_lt.mpr positive, roundHalfEven_natCast]

theorem ratioText_solid {ratio : ℚ} {text : Text} (written : ratioText ratio = some text) :
    text ≠ [] ∧ ∀ char ∈ text, isWhitespace char = false := by
  rw [ratioText] at written
  split at written
  · cases written
  · rw [← Option.some.inj written]
    exact ⟨by simp, solid_formatWhole _⟩

end Ratios

theorem modifyLast_append (update : LayoutTab → LayoutTab) (tabs : List LayoutTab)
    (tab : LayoutTab) : modifyLast update (tabs ++ [tab]) = tabs ++ [update tab] := by
  rw [modifyLast, List.length_append, List.length_singleton, Nat.add_sub_cancel, modify_last]

section RoundTrip

/-- A pane that was saved without a command or a directory, as it is read back. -/
def readSplit : Option SplitSpec → SplitSpec
  | none => ⟨.down, 1 / 2⟩
  | some spec => ⟨spec.direction, readRatio spec.ratio⟩

def readPane (pane : LayoutPane) (index : Nat) : LayoutPane where
  command := none
  workingDirectory := none
  split := if 0 < index then some (readSplit pane.split) else none

def readTab (tab : LayoutTab) : LayoutTab where
  title := trim tab.title
  layout := tab.layout
  panes := tab.panes.zipIdx.map fun (pane, index) => readPane pane index

/-- Between the lines of a file without directories, with no split pending. -/
def reading (name : Text) (tabs : List LayoutTab) (current : TabLayout) : Parsed :=
  ⟨⟨name, tabs⟩, none, none, current⟩

variable (home : Option Text) (name : Text) (tabs : List LayoutTab) (current : TabLayout)

theorem parseLine_directive (parsed : Parsed) (direction : SplitDir) :
    parsed.parseLine home (directive direction).toList =
      parsed.setPendingSplit direction (1 / 2) := by
  cases direction <;> rfl

theorem parseKey_directive (parsed : Parsed) (direction : SplitDir) (value : Text) :
    parsed.parseKey home (directive direction).toList value =
      parsed.parseSplit direction value := by
  cases direction <;> rfl

theorem parseKey_pane (parsed : Parsed) (value : Text) :
    parsed.parseKey home "pane".toList value = parsed.parsePane value := rfl

theorem keyWord_directive (direction : SplitDir) : KeyWord (directive direction).toList := by
  cases direction <;> decide

theorem unbroken_directive (direction : SplitDir) : '\n' ∉ (directive direction).toList := by
  cases direction <;> decide

theorem parseText_splitLine (parsed : Parsed) (split : Option SplitSpec) (rest : Text) :
    parsed.parseText home (splitLine split ++ rest) =
      (parsed.setPendingSplit (readSplit split).direction (readSplit split).ratio).parseText
        home rest := by
  have bare (direction : SplitDir) :
      parsed.parseText home ((directive direction).toList ++ '\n' :: rest) =
        (parsed.setPendingSplit direction (1 / 2)).parseText home rest := by
    rw [parseText_line home parsed (unbroken_directive direction), parseLine_directive]
  cases split with
  | none =>
      rw [splitLine, bareLine, List.append_assoc, List.singleton_append, bare, readSplit]
  | some spec =>
      cases written : ratioText spec.ratio with
      | none =>
          rw [splitLine, readSplit, readRatio, written, Option.map_none, Option.map_none,
            Option.getD_none, Option.getD_none, bareLine, List.append_assoc,
            List.singleton_append, bare]
      | some percent =>
          obtain ⟨nonempty, solid⟩ := ratioText_solid written
          have unbroken : '\n' ∉ percent := fun member => absurd (solid _ member) (by decide)
          rw [splitLine, readSplit, readRatio, written, Option.map_some, Option.map_some,
            Option.getD_some, Option.getD_some,
            parseText_keyLine home parsed (keyWord_directive _) unbroken, parseKey_directive,
            trim_eq_self solid, Parsed.parseSplit, if_neg nonempty]

theorem parseText_paneText {pane : LayoutPane} (noCommand : pane.command = none)
    (noDirectory : pane.workingDirectory = none) (tab : LayoutTab) (index : Nat) (rest : Text) :
    (reading name (tabs ++ [tab]) current).parseText home (paneText pane index ++ rest) =
      (reading name (tabs ++ [{ tab with panes := tab.panes ++ [readPane pane index] }])
        current).parseText home rest := by
  have last (pending : Option SplitSpec) :
      Parsed.parseText ⟨⟨name, tabs ++ [tab]⟩, none, pending, current⟩ home
          (keyLine "pane" [] ++ rest) =
        (reading name (tabs ++ [{ tab with panes := tab.panes ++ [⟨none, none, pending⟩] }])
          current).parseText home rest := by
    have empty : trim [] = [] := rfl
    have some_ : tabs ++ [tab] ≠ [] := by simp
    rw [parseText_keyLine home _ (by decide) (by simp), empty, parseKey_pane, Parsed.parsePane]
    simp only [some_, if_false, if_true, modifyLast_append]
    rfl
  rw [paneText, noCommand, noDirectory, readPane]
  simp only [Option.map_none, Option.getD_none, List.nil_append, List.append_assoc]
  by_cases later : 0 < index
  · rw [if_pos later, if_pos later, parseText_splitLine]
    exact last _
  · rw [if_neg later, if_neg later, List.nil_append]
    exact last none

theorem parseText_panes {panes : List LayoutPane}
    (plain : ∀ pane ∈ panes, pane.command = none ∧ pane.workingDirectory = none)
    (tab : LayoutTab) (offset : Nat) (rest : Text) :
    (reading name (tabs ++ [tab]) current).parseText home
        ((panes.zipIdx offset).flatMap (fun (pane, index) => paneText pane index) ++ rest) =
      (reading name (tabs ++ [{ tab with
        panes := tab.panes ++ (panes.zipIdx offset).map fun (pane, index) =>
          readPane pane index }]) current).parseText home rest := by
  induction panes generalizing tab offset with
  | nil => simp
  | cons pane panes ih =>
      obtain ⟨noCommand, noDirectory⟩ := plain pane List.mem_cons_self
      rw [List.zipIdx_cons, List.flatMap_cons, List.append_assoc,
        parseText_paneText home name tabs current noCommand noDirectory,
        ih (fun other member => plain other (List.mem_cons_of_mem _ member))]
      simp

theorem parseKey_tab (parsed : Parsed) (value : Text) :
    parsed.parseKey home "tab".toList value =
      { parsed.setTabs (parsed.layout.tabs ++ [⟨value, .manual, []⟩]) with
        currentTabLayout := .manual } := rfl

theorem parseKey_layout (parsed : Parsed) (value : Text) :
    parsed.parseKey home "layout".toList value =
      { parsed.setTabs (modifyLast (fun tab => { tab with layout := tabLayoutOf value })
          parsed.layout.tabs) with
        currentTabLayout := tabLayoutOf value } := rfl

theorem layoutText_spec {layout : TabLayout} {text : String}
    (named : layoutText layout = some text) :
    '\n' ∉ text.toList ∧ tabLayoutOf (trim text.toList) = layout := by
  cases layout with
  | manual => cases named
  | evenHorizontal | evenVertical | mainHorizontal | mainVertical | tiled =>
      cases named
      exact ⟨by decide, by decide⟩

/-- The line of a tab and the one of its layout, if it has one. -/
theorem parseText_tabHead {title : Text} (unbroken : '\n' ∉ title) (layout : TabLayout)
    (rest : Text) :
    (reading name tabs current).parseText home
        (keyLine "tab" title ++ (((layoutText layout).map fun text =>
          keyLine "layout" text.toList).getD [] ++ rest)) =
      (reading name (tabs ++ [⟨trim title, layout, []⟩]) layout).parseText home rest := by
  rw [parseText_keyLine home _ (by decide) unbroken, parseKey_tab]
  cases named : layoutText layout with
  | none =>
      have manual : layout = .manual := by
        cases layout <;> first | rfl | cases named
      rw [manual, Option.map_none, Option.getD_none, List.nil_append]
      rfl
  | some text =>
      obtain ⟨plain, back⟩ := layoutText_spec named
      rw [Option.map_some, Option.getD_some, parseText_keyLine home _ (by decide) plain,
        parseKey_layout, back]
      simp only [Parsed.setTabs, reading, modifyLast_append]

/-- A pane that is saved without a command and without a directory. -/
def LayoutTab.Plain (tab : LayoutTab) : Prop :=
  '\n' ∉ tab.title ∧
    ∀ pane ∈ tab.panes, pane.command = none ∧ pane.workingDirectory = none

theorem parseText_tabText {tab : LayoutTab} (plain : tab.Plain) (rest : Text) :
    (reading name tabs current).parseText home (tabText tab ++ rest) =
      (reading name (tabs ++ [readTab tab]) tab.layout).parseText home rest := by
  simp only [tabText, List.append_assoc]
  rw [parseText_tabHead home name tabs current plain.1, parseText_panes home _ _ _ plain.2,
    List.singleton_append, parseText_blank, List.nil_append, readTab]

theorem parseText_tabs {savedTabs : List LayoutTab} (plain : ∀ tab ∈ savedTabs, tab.Plain) :
    ∃ current', (reading name tabs current).parseText home (savedTabs.flatMap tabText) =
      reading name (tabs ++ savedTabs.map readTab) current' := by
  induction savedTabs generalizing tabs current with
  | nil => exact ⟨current, by simp [Parsed.parseText, lines]⟩
  | cons tab savedTabs ih =>
      rw [List.flatMap_cons, parseText_tabText home name tabs current (plain tab List.mem_cons_self)]
      obtain ⟨current', read⟩ := ih (tabs ++ [readTab tab]) tab.layout
        fun other member => plain other (List.mem_cons_of_mem _ member)
      exact ⟨current', by rw [read, List.append_assoc, List.singleton_append, List.map_cons]⟩

/-- A tab that was saved, as `parse_layout` gives it back: with one pane at least. -/
def reloadedTab (tab : LayoutTab) : LayoutTab :=
  if tab.panes = [] then { readTab tab with panes := [⟨none, none, none⟩] } else readTab tab

/-- What a saved layout without commands and directories reads back as. -/
theorem parseLayout_layoutFile (fileName : Text) {layout : Layout} (nameUnbroken : '\n' ∉ layout.name)
    (plain : ∀ tab ∈ layout.tabs, tab.Plain) :
    parseLayout home fileName (layoutFile layout) =
      ⟨trim layout.name, layout.tabs.map reloadedTab⟩ := by
  have start : (⟨⟨fileName, []⟩, none, none, .manual⟩ : Parsed).parseText home
      (layoutFile layout) =
        (reading (trim layout.name) [] .manual).parseText home
          (layout.tabs.flatMap tabText) := by
    rw [layoutFile, List.append_assoc, parseText_keyLine home _ (by decide) nameUnbroken,
      List.singleton_append, parseText_blank]
    rfl
  obtain ⟨current, read⟩ := parseText_tabs home (trim layout.name) [] .manual plain
  rw [parseLayout, start, read, Parsed.finish]
  simp only [reading, List.nil_append, List.map_map]
  congr 1
  refine List.map_congr_left fun tab _ => ?_
  rw [Function.comp_apply, reloadedTab]
  by_cases none_ : tab.panes = []
  · simp [readTab, none_]
  · have some_ : (readTab tab).panes ≠ [] := by simp [readTab, none_]
    rw [if_neg some_, if_neg none_]

end RoundTrip

end Boo.Runtime.LayoutText
