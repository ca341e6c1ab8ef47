/- module: Boo/Runtime/Prompt
   digest: The command prompt: its suggestions, its history and its keys. -/

import Boo.Runtime.Keys

set_option autoImplicit false
set_option relaxedAutoImplicit false

namespace Boo.Runtime.Prompt

open Boo.Lib.TextLines
open Boo.Runtime.Keys

/-- The names of `COMMANDS`, and which of them take arguments. -/
def commands : List (String × Bool) :=
  [("split-right", false), ("split-down", false), ("split-left", false), ("split-up", false),
    ("resize-left", true), ("resize-right", true), ("resize-up", true), ("resize-down", true),
    ("close-pane", false), ("break-pane", false), ("new-tab", false), ("next-tab", false),
    ("prev-tab", false), ("close-tab", false), ("goto-tab", true), ("next-layout", false),
    ("prev-layout", false), ("select-layout", true), ("rebalance-layout", false),
    ("last-tab", false), ("next-pane", false), ("prev-pane", false), ("swap-pane-next", false),
    ("swap-pane-prev", false), ("mark-pane", false), ("clear-marked-pane", false),
    ("join-pane", true), ("move-pane", true), ("rotate-panes-forward", false),
    ("rotate-panes-backward", false), ("copy-mode", false), ("command-prompt", false),
    ("search", false), ("copy", false), ("display-panes", false), ("choose-buffer", false),
    ("choose-tree", false), ("find-window", false), ("paste", false), ("set-tab-title", true),
    ("zoom", false), ("reload-config", false), ("goto-line", true), ("set", true),
    ("load-layout", true), ("save-layout", true), ("list-layouts", false)]

structure CommandPrompt where
  active : Bool
  input : Text
  history : List Text
  historyIdx : Option Nat
  suggestions : List Nat
  selectedSuggestion : Nat
  deriving DecidableEq

section Suggestions

-- Unicode's lower case, which the standard library of the source computes.
variable (lower : Text → Text)

/-- What is left of a query after a part that begins with its next character. -/
def advance (query part : Text) : Text :=
  match query with
  | [] => []
  | char :: rest => if part.head? = some char then rest else query

/-- A prefix scores best, then the initials of the parts, then a subsequence. -/
def fuzzyScore (query target : Text) : Int :=
  let length := 100 - (target.length : Int)
  if query = [] then 1
  else if (lower query).isPrefixOf (lower target) then 100 + length
  else if ((lower target).splitOn '-').foldl advance (lower query) = [] then 50 + length
  else if ((lower target).map fun char => [char]).foldl advance (lower query) = [] then 10 + length
  else 0

def firstWord (input : Text) : Text :=
  (input.dropWhile isWhitespace).takeWhile (!isWhitespace ·)

def suggested (input : Text) : List Nat :=
  if firstWord input = [] then List.range commands.length
  else (((commands.zipIdx.map fun ((name, _), index) =>
      (index, fuzzyScore lower (firstWord input) name.toList)).filter fun scored =>
        0 < scored.2).mergeSort fun scored other => other.2 ≤ scored.2).map Prod.fst |>.take 7

end Suggestions

namespace CommandPrompt

variable (lower : Text → Text)

def updateSuggestions (prompt : CommandPrompt) : CommandPrompt :=
  { prompt with
    suggestions := suggested lower prompt.input
    selectedSuggestion := 0 }

def selectedCommand (prompt : CommandPrompt) : Option (String × Bool) :=
  prompt.suggestions[prompt.selectedSuggestion]?.bind (commands[·]?)

def setInput (prompt : CommandPrompt) (input : Text) : CommandPrompt :=
  updateSuggestions lower { prompt with input := input }

/-- The last word goes, and the blanks after it. A blank of several bytes before the word makes the
source panic. -/
def withoutLastWord (input : Text) : Text :=
  (input.rdropWhile isWhitespace).rdropWhile (!isWhitespace ·)

/-- The tab key takes the selected command over. -/
def complete (prompt : CommandPrompt) : CommandPrompt :=
  match prompt.selectedCommand with
  | some (name, args) => prompt.setInput lower (name.toList ++ if args then [' '] else [])
  | none => prompt

def previous (prompt : CommandPrompt) : CommandPrompt :=
  if prompt.suggestions ≠ [] then
    { prompt with selectedSuggestion := prompt.selectedSuggestion - 1 }
  else if prompt.history = [] then prompt
  else
    let index := (prompt.historyIdx.map (· - 1)).getD (prompt.history.length - 1)
    { prompt with
      historyIdx := some index
      input := prompt.history[index]?.getD [] }

def next (prompt : CommandPrompt) : CommandPrompt :=
  if prompt.suggestions ≠ [] then
    { prompt with
      selectedSuggestion :=
        if prompt.selectedSuggestion + 1 < prompt.suggestions.length then
          prompt.selectedSuggestion + 1
        else prompt.selectedSuggestion }
  else match prompt.historyIdx with
    | none => prompt
    | some index =>
        if index + 1 < prompt.history.length then
          { prompt with
            historyIdx := some (index + 1)
            input := prompt.history[index + 1]?.getD [] }
        else
          { prompt with
            historyIdx := none
            input := [] }

def insert (prompt : CommandPrompt) (text : Text) : CommandPrompt :=
  prompt.setInput lower (prompt.input ++ text.filter (' ' ≤ ·))

/-- `handle_command_key`, with the command that is to be executed, if there is one. -/
def handleKey (prompt : CommandPrompt) (key : Key) (text : Option Text) (mods : Mods) :
    CommandPrompt × Option Text :=
  match key with
  | .named .escape => ({ prompt with active := false }, none)
  | .named .enter =>
      ({ prompt with
          history := if prompt.input = [] then prompt.history else prompt.history ++ [prompt.input]
          active := false }, some prompt.input)
  | .named .backspace =>
      (prompt.setInput lower (if mods.Has modsCtrl then withoutLastWord prompt.input
        else prompt.input.dropLast), none)
  | .named .tab => (prompt.complete lower, none)
  | .named .arrowUp => (prompt.previous, none)
  | .named .arrowDown => (prompt.next, none)
  | .named .home => (prompt, none)
  | _ =>
      if mods.Has modsCtrl then (prompt, none)
      else (((text.map (prompt.insert lower)).getD prompt), none)

end CommandPrompt

end Boo.Runtime.Prompt
