/- module: Boo/Settings/Parsing
   digest: The configuration, its keys and values, and how the lines of a text change it. -/

import Boo.Settings.Durations
import Boo.Lib.Tables
import Boo.Runtime.Keys

set_option autoImplicit false
set_option relaxedAutoImplicit false

namespace Boo.Settings.Parsing

open Boo.Settings.Durations
open Boo.Lib.ByteOffsets
open Boo.Lib.Checked
open Boo.Lib.Numerals
open Boo.Lib.Tables
open Boo.Lib.TextLines
open Boo.Runtime.Keys (parseHex)

section Values

/-- The `f32` operations that the parser relies on. -/
structure Floats (F : Type) where
  parse : Text → Option F
  atLeastOne : F → F
  clampUnit : F → F

/-- The rational numbers in place of `f32`. -/
def rationals : Floats ℚ where
  parse := parseDecimal
  atLeastOne := max 1
  clampUnit value := max 0 (min 1 value)

abbrev RgbColor := UInt8 × UInt8 × UInt8

inductive CursorStyle
  | block | bar | underline
  deriving DecidableEq

inductive WindowDecoration
  | none | titleBar
  deriving DecidableEq

inductive NotifyOnCommandFinish
  | never | unfocused | always
  deriving DecidableEq

structure NotifyOnCommandFinishAction where
  bell : Bool
  notify : Bool
  deriving DecidableEq

def doubleQuote : Char := Char.ofNat 34

def singleQuote : Char := Char.ofNat 39

/-- The text between two quotes of one kind, if it stands between such. -/
def unquoted (quote : Char) (value : Text) : Option Text :=
  (stripPrefix [quote] value).bind (stripSuffix quote)

def stripQuotes (value : Text) : Text :=
  ((unquoted doubleQuote value).or (unquoted singleQuote value)).getD value

/-- `value.trim().to_ascii_lowercase()`. -/
def lowered (value : Text) : Text := (trim value).map Char.toLower

def among (names : List String) (value : Text) : Bool :=
  names.any fun name => name.toList = value

def parseBool (value : Text) : Option Bool :=
  if among ["true", "yes", "on", "1"] (lowered value) then some true
  else if among ["false", "no", "off", "0"] (lowered value) then some false
  else none

/-- `u8::from_str_radix` with radix 16. -/
def parseHexByte (text : Text) : Option UInt8 :=
  (parseHex text).bind fun value => if value < 256 then some value.toUInt8 else none

/-- Two bytes of a color. -/
def colorPart (hex : Text) (start : Nat) : Run (Option UInt8) := do
  let digits ← sliceText hex start (start + 2)
  pure (parseHexByte digits)

def parseRgbColor (value : Text) : Run (Option RgbColor) :=
  match stripPrefix ['#'] (trim value) with
  | none => pure none
  | some hex =>
      if byteLength hex ≠ 6 then pure none
      else do
        match ← colorPart hex 0 with
        | none => pure none
        | some red =>
            match ← colorPart hex 2 with
            | none => pure none
            | some green =>
                match ← colorPart hex 4 with
                | none => pure none
                | some blue => pure (some (red, green, blue))

def parsePaletteKey (key : Text) : Option (Fin 16) := do
  let suffix ← stripPrefix "color".toList key
  let index ← parseUnsigned (2 ^ 64) suffix
  if inside : index < 16 then some ⟨index, inside⟩ else none

def parseCursorStyle (value : Text) : Option CursorStyle :=
  if among ["block"] (lowered value) then some .block
  else if among ["bar", "beam"] (lowered value) then some .bar
  else if among ["underline"] (lowered value) then some .underline
  else none

def parseWindowDecoration (value : Text) : Option WindowDecoration :=
  if among ["none"] (lowered value) then some .none
  else if among ["titlebar", "title-bar", "native", "system"] (lowered value) then some .titleBar
  else none

def parseNotifyOnCommandFinish (value : Text) : NotifyOnCommandFinish :=
  if value = "unfocused".toList then .unfocused
  else if value = "always".toList then .always
  else .never

def parseNotifyOnCommandFinishAction (value : Text) : NotifyOnCommandFinishAction :=
  (((value.splitOn ',').map trim).filter (· ≠ [])).foldl (fun action entry =>
    if entry = "bell".toList then { action with bell := true }
    else if entry = "no-bell".toList then { action with bell := false }
    else if entry = "notify".toList then { action with notify := true }
    else if entry = "no-notify".toList then { action with notify := false }
    else action) ⟨true, false⟩

end Values

section Fields

variable {F : Type}

structure Config (F : Type) where
  prefixKey : Option Text
  controlSocket : Option Text
  remoteHost : Option Text
  remoteWorkdir : Option Text
  remoteSocket : Option Text
  remoteBinary : Option Text
  remotePreferNixProfileBinary : Bool
  remotePort : Option UInt16
  remoteBindAddress : Option Text
  keybinds : Table Text Text
  fontFamilies : List Text
  fontSize : Option F
  syncToMonitor : Bool
  windowDecoration : WindowDecoration
  backgroundOpacity : Option F
  backgroundOpacityCells : Bool
  foreground : Option RgbColor
  background : Option RgbColor
  palette : Fin 16 → Option RgbColor
  cursorColor : Option RgbColor
  selectionBackground : Option RgbColor
  selectionForeground : Option RgbColor
  cursorTextColor : Option RgbColor
  urlColor : Option RgbColor
  activeTabForeground : Option RgbColor
  activeTabBackground : Option RgbColor
  inactiveTabForeground : Option RgbColor
  inactiveTabBackground : Option RgbColor
  cursorStyle : Option CursorStyle
  cursorBlink : Bool
  cursorBlinkIntervalNs : Nat
  desktopNotifications : Bool
  notifyOnCommandFinish : NotifyOnCommandFinish
  notifyOnCommandFinishAction : NotifyOnCommandFinishAction
  notifyOnCommandFinishAfterNs : Nat

def defaultRemotePort : UInt16 := 7337

def Config.default : Config F where
  prefixKey := none
  controlSocket := none
  remoteHost := none
  remoteWorkdir := none
  remoteSocket := none
  remoteBinary := none
  remotePreferNixProfileBinary := false
  remotePort := some defaultRemotePort
  remoteBindAddress := none
  keybinds := .empty
  fontFamilies := []
  fontSize := none
  syncToMonitor := true
  windowDecoration := .none
  backgroundOpacity := none
  backgroundOpacityCells := false
  foreground := none
  background := none
  palette := fun _ => none
  cursorColor := none
  selectionBackground := none
  selectionForeground := none
  cursorTextColor := none
  urlColor := none
  activeTabForeground := none
  activeTabBackground := none
  inactiveTabForeground := none
  inactiveTabBackground := none
  cursorStyle := none
  cursorBlink := true
  cursorBlinkIntervalNs := 600000000
  desktopNotifications := true
  notifyOnCommandFinish := .never
  notifyOnCommandFinishAction := ⟨true, false⟩
  notifyOnCommandFinishAfterNs := 5 * 1000000000

inductive ColorField
  | foreground | background | cursorColor | cursorTextColor | selectionBackground
  | selectionForeground | urlColor | activeTabForeground | activeTabBackground
  | inactiveTabForeground | inactiveTabBackground

inductive DurationField
  | cursorBlinkInterval | notifyOnCommandFinishAfter

/-- The colors, the palette and the durations. -/
inductive ValueField
  | color (field : ColorField)
  | palette (index : Fin 16)
  | duration (field : DurationField)

def Config.setColor (config : Config F) (color : Option RgbColor) : ColorField → Config F
  | .foreground => { config with foreground := color }
  | .background => { config with background := color }
  | .cursorColor => { config with cursorColor := color }
  | .cursorTextColor => { config with cursorTextColor := color }
  | .selectionBackground => { config with selectionBackground := color }
  | .selectionForeground => { config with selectionForeground := color }
  | .urlColor => { config with urlColor := color }
  | .activeTabForeground => { config with activeTabForeground := color }
  | .activeTabBackground => { config with activeTabBackground := color }
  | .inactiveTabForeground => { config with inactiveTabForeground := color }
  | .inactiveTabBackground => { config with inactiveTabBackground := color }

def Config.setPalette (config : Config F) (index : Fin 16) (color : Option RgbColor) : Config F :=
  { config with palette := Function.update config.palette index color }

/-- A duration that was not read leaves the old one. -/
def Config.setDuration (config : Config F) (duration : Option Nat) : DurationField → Config F
  | .cursorBlinkInterval =>
      { config with cursorBlinkIntervalNs := duration.getD config.cursorBlinkIntervalNs }
  | .notifyOnCommandFinishAfter =>
      { config with
        notifyOnCommandFinishAfterNs := duration.getD config.notifyOnCommandFinishAfterNs }

end Fields

section Lines

variable {F : Type}

inductive ConfigKey
  | prefixKey | controlSocket | remoteHost | remoteWorkdir | remoteSocket | remoteBinary
  | remotePreferNixProfileBinary | remotePort | remoteBindAddress | fontFamily | fontSize
  | syncToMonitor | windowDecoration | backgroundOpacity | backgroundOpacityCells | cursorStyle
  | cursorBlink | desktopNotifications | notifyOnCommandFinish | notifyOnCommandFinishAction
  | keybind
  | value (field : ValueField)

def configKeys : List (String × ConfigKey) :=
  [("prefix-key", .prefixKey), ("control-socket", .controlSocket), ("remote-host", .remoteHost),
    ("remote-workdir", .remoteWorkdir), ("remote-socket", .remoteSocket),
    ("remote-binary", .remoteBinary),
    ("remote-prefer-nix-profile-binary", .remotePreferNixProfileBinary),
    ("remote-port", .remotePort), ("remote-bind-address", .remoteBindAddress),
    ("font-family", .fontFamily), ("font-size", .fontSize), ("sync-to-monitor", .syncToMonitor),
    ("window-decoration", .windowDecoration), ("background-opacity", .backgroundOpacity),
    ("background-opacity-cells", .backgroundOpacityCells),
    ("foreground", .value (.color .foreground)), ("background", .value (.color .background)),
    ("cursor", .value (.color .cursorColor)), ("cursor-color", .value (.color .cursorColor)),
    ("cursor_text_color", .value (.color .cursorTextColor)),
    ("cursor-text-color", .value (.color .cursorTextColor)),
    ("selection_background", .value (.color .selectionBackground)),
    ("selection-background", .value (.color .selectionBackground)),
    ("selection_foreground", .value (.color .selectionForeground)),
    ("selection-foreground", .value (.color .selectionForeground)),
    ("url_color", .value (.color .urlColor)), ("url-color", .value (.color .urlColor)),
    ("active_tab_foreground", .value (.color .activeTabForeground)),
    ("active-tab-foreground", .value (.color .activeTabForeground)),
    ("active_tab_background", .value (.color .activeTabBackground)),
    ("active-tab-background", .value (.color .activeTabBackground)),
    ("inactive_tab_foreground", .value (.color .inactiveTabForeground)),
    ("inactive-tab-foreground", .value (.color .inactiveTabForeground)),
    ("inactive_tab_background", .value (.color .inactiveTabBackground)),
    ("inactive-tab-background", .value (.color .inactiveTabBackground)),
    ("cursor-style", .cursorStyle), ("cursor-blink", .cursorBlink),
    ("cursor-blink-interval", .value (.duration .cursorBlinkInterval)),
    ("desktop-notifications", .desktopNotifications),
    ("notify-on-command-finish", .notifyOnCommandFinish),
    ("notify-on-command-finish-action", .notifyOnCommandFinishAction),
    ("notify-on-command-finish-after", .value (.duration .notifyOnCommandFinishAfter)),
    ("keybind", .keybind)]

def configKey (key : Text) : Option ConfigKey :=
  ((configKeys.find? fun entry => entry.1.toList = key).map Prod.snd).or
    ((parsePaletteKey key).map fun index => .value (.palette index))

/-- A text that is set unless the value is empty. -/
def orKept (value : Text) (old : Option Text) : Option Text :=
  if value = [] then old else some value

/-- What a value does to its field; the parsers of colors and durations are the ones that could
fault. -/
def ValueField.change (value : Text) : ValueField → Run (Config F → Config F)
  | .color field => do
      let color ← parseRgbColor value
      pure fun config => config.setColor color field
  | .palette index => do
      let color ← parseRgbColor value
      pure fun config => config.setPalette index color
  | .duration field => do
      let duration ← parseDurationNs value
      pure fun config => config.setDuration duration field

/-- What a line with this key and value does. -/
def ConfigKey.change (f32 : Floats F) (value : Text) : ConfigKey → Run (Config F → Config F)
  | .prefixKey => pure fun config => { config with prefixKey := some value }
  | .controlSocket => pure fun config => { config with controlSocket := some value }
  | .remoteHost => pure fun config =>
      { config with remoteHost := orKept value config.remoteHost }
  | .remoteWorkdir => pure fun config =>
      { config with remoteWorkdir := orKept value config.remoteWorkdir }
  | .remoteSocket => pure fun config =>
      { config with remoteSocket := orKept value config.remoteSocket }
  | .remoteBinary => pure fun config =>
      { config with remoteBinary := orKept value config.remoteBinary }
  | .remotePreferNixProfileBinary => pure fun config =>
      { config with remotePreferNixProfileBinary := (parseBool value).getD false }
  | .remotePort => pure fun config =>
      { config with
        remotePort := ((parseUnsigned (2 ^ 16) value).map UInt16.ofNat).or config.remotePort }
  | .remoteBindAddress => pure fun config =>
      { config with remoteBindAddress := orKept value config.remoteBindAddress }
  | .fontFamily => pure fun config =>
      { config with fontFamilies := if value = [] then [] else config.fontFamilies ++ [value] }
  | .fontSize => pure fun config =>
      { config with fontSize := ((f32.parse value).map f32.atLeastOne).or config.fontSize }
  | .syncToMonitor => pure fun config =>
      { config with syncToMonitor := (parseBool value).getD true }
  | .windowDecoration => pure fun config =>
      { config with
        windowDecoration := (parseWindowDecoration value).getD config.windowDecoration }
  | .backgroundOpacity => pure fun config =>
      { config with
        backgroundOpacity := ((f32.parse value).map f32.clampUnit).or config.backgroundOpacity }
  | .backgroundOpacityCells => pure fun config =>
      { config with backgroundOpacityCells := (parseBool value).getD false }
  | .cursorStyle => pure fun config => { config with cursorStyle := parseCursorStyle value }
  | .cursorBlink => pure fun config =>
      { config with cursorBlink := (parseBool value).getD true }
  | .desktopNotifications => pure fun config =>
      { config with desktopNotifications := (parseBool value).getD true }
  | .notifyOnCommandFinish => pure fun config =>
      { config with notifyOnCommandFinish := parseNotifyOnCommandFinish value }
  | .notifyOnCommandFinishAction => pure fun config =>
      { config with notifyOnCommandFinishAction := parseNotifyOnCommandFinishAction value }
  | .keybind => pure fun config =>
      match splitOnce '=' value with
      | some (bindKey, action) =>
          { config with
            keybinds := config.keybinds.insert (stripQuotes (trim bindKey))
              (stripQuotes (trim action)) }
      | none => config
  | .value field => field.change value

/-- The key and the value of a line that sets something. -/
def lineSetting (line : Text) : Option (ConfigKey × Text) :=
  let line := trim line
  if line = [] ∨ line.head? = some '#' then none
  else do
    let (key, value) ← splitOnce '=' line
    let key ← configKey (trim key)
    pure (key, stripQuotes (trim value))

def Config.parseLine (f32 : Floats F) (config : Config F) (line : Text) : Run (Config F) :=
  match lineSetting line with
  | none => pure config
  | some (key, value) => do
      let change ← key.change f32 value
      pure (change config)

def Config.parseLines (f32 : Floats F) (config : Config F) : List Text → Run (Config F)
  | [] => pure config
  | line :: lines => do
      let config ← config.parseLine f32 line
      config.parseLines f32 lines

def Config.parse (f32 : Floats F) (content : Text) : Run (Config F) :=
  Config.default.parseLines f32 (lines content)

end Lines

end Boo.Settings.Parsing
