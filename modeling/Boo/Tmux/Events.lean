/- module: Boo/Tmux/Events
   digest: The lines of tmux control mode and the events that the parser makes of them. -/

import Boo.Lib.Numerals
import Boo.Tmux.Escapes

set_option autoImplicit false
set_option relaxedAutoImplicit false

namespace Boo.Tmux.Events

open Boo.Lib.Numerals
open Boo.Lib.TextLines
open Boo.Tmux.Escapes

inductive TmuxEvent
  | output (paneId : UInt32) (data : List UInt8)
  | windowAdd (windowId : UInt32)
  | windowClose (windowId : UInt32)
  | windowRenamed (windowId : UInt32) (name : Text)
  | layoutChanged (windowId : UInt32) (layout : Text)
  | paneModeChanged (paneId : UInt32)
  | windowPaneChanged (windowId paneId : UInt32)
  | sessionChanged (sessionId : UInt32) (name : Text)
  | sessionsChanged
  | sessionRenamed (name : Text)
  | exit (reason : Text)
  | commandOk (id : UInt32) (output : Text)
  | commandError (id : UInt32) (error : Text)
  deriving DecidableEq

section Notifications

/-- `parse::<u32>().ok()`. -/
def parseNumber (text : Text) : Option UInt32 :=
  (parseUnsigned (2 ^ 32) text).map UInt32.ofNat

/-- The decoder does not fault, so nothing is lost here. -/
def decodedOctal (input : Text) : Option (List UInt8) := (decodeOctal input).outcome.toOption

def parseOutput (rest : Text) : Option TmuxEvent := do
  let rest ← stripPrefix ['%'] rest
  let (pane, data) ← splitOnce ' ' rest
  let paneId ← parseNumber pane
  let data ← decodedOctal data
  pure (.output paneId data)

def parseId (s : Text) (mark : Char) : Option UInt32 := do
  let s ← stripPrefix [mark] (trim s)
  let word ← (words s).head?
  parseNumber word

def parseIdAndName (s : Text) (mark : Char) : Option (UInt32 × Text) := do
  let s ← stripPrefix [mark] (trim s)
  let (id, name) ← splitOnce ' ' s
  let id ← parseNumber id
  pure (id, name)

def parseLayoutChange (rest : Text) : Option TmuxEvent :=
  (parseIdAndName rest '@').map fun (windowId, layout) => .layoutChanged windowId layout

def parseWindowPaneChanged (rest : Text) : Option TmuxEvent := do
  let window ← (words rest)[0]?
  let window ← stripPrefix ['@'] window
  let windowId ← parseNumber window
  let pane ← (words rest)[1]?
  let pane ← stripPrefix ['%'] pane
  let paneId ← parseNumber pane
  pure (.windowPaneChanged windowId paneId)

def parseSessionChanged (rest : Text) : Option TmuxEvent :=
  (parseIdAndName rest '$').map fun (sessionId, name) => .sessionChanged sessionId name

/-- The lines that start with a keyword; what the parser says of them is the inner option. -/
def onKeyword (keyword : String) (parse : Text → Option TmuxEvent) (line : Text) :
    Option (Option TmuxEvent) :=
  (stripPrefix keyword.toList line).map parse

/-- The kinds of notifications, in the order in which they are tried. -/
def notificationKinds : List (Text → Option (Option TmuxEvent)) :=
  [onKeyword "%output " parseOutput,
    onKeyword "%window-add " fun rest => (parseId rest '@').map .windowAdd,
    onKeyword "%window-close " fun rest => (parseId rest '@').map .windowClose,
    onKeyword "%window-renamed " fun rest =>
      (parseIdAndName rest '@').map fun (windowId, name) => .windowRenamed windowId name,
    onKeyword "%layout-change " parseLayoutChange,
    onKeyword "%window-pane-changed " parseWindowPaneChanged,
    onKeyword "%pane-mode-changed " fun rest => (parseId rest '%').map .paneModeChanged,
    onKeyword "%session-changed " parseSessionChanged,
    fun line => if line = "%sessions-changed".toList then some (some .sessionsChanged) else none,
    onKeyword "%session-renamed " fun rest => some (.sessionRenamed rest),
    onKeyword "%exit" fun rest => some (.exit (trim rest))]

def parseNotification (line : Text) : Option TmuxEvent :=
  (notificationKinds.findSome? fun kind => kind line).join

end Notifications

section Lines

structure PendingCommand where
  id : UInt32
  lines : List Text
  deriving DecidableEq

structure TmuxParser where
  pending : Option PendingCommand
  deriving DecidableEq

def TmuxParser.new : TmuxParser := ⟨none⟩

/-- The line without the line feeds, and then the carriage returns, at its end. -/
def lineContent (line : Text) : Text := (line.rdropWhile (· = '\n')).rdropWhile (· = '\r')

def parseGuardId (line : Text) : UInt32 := ((words line)[2]?.bind parseNumber).getD 0

/-- `join("\n")`. -/
def joinLines (lines : List Text) : Text := ['\n'].intercalate lines

def beginKeyword : Text := "%begin ".toList

def endKeyword : Text := "%end ".toList

def errorKeyword : Text := "%error ".toList

/-- The end of a response, if one is under way. -/
def TmuxParser.finish (parser : TmuxParser) (event : UInt32 → Text → TmuxEvent) :
    TmuxParser × Option TmuxEvent :=
  match parser.pending with
  | some cmd => (⟨none⟩, some (event cmd.id (joinLines cmd.lines)))
  | none => (parser, none)

def TmuxParser.parseLine (parser : TmuxParser) (line : Text) : TmuxParser × Option TmuxEvent :=
  let line := lineContent line
  if beginKeyword <+: line then (⟨some ⟨parseGuardId line, []⟩⟩, none)
  else if endKeyword <+: line then parser.finish .commandOk
  else if errorKeyword <+: line then parser.finish .commandError
  else
    match parser.pending with
    | some cmd => (⟨some { cmd with lines := cmd.lines ++ [line] }⟩, none)
    | none => (parser, parseNotification line)

/-- What the parser returns for each line, and how it is left. -/
def TmuxParser.parseLines (parser : TmuxParser) : List Text → TmuxParser × List (Option TmuxEvent)
  | [] => (parser, [])
  | line :: lines =>
      let (next, event) := parser.parseLine line
      let (last, events) := next.parseLines lines
      (last, event :: events)

end Lines

end Boo.Tmux.Events
