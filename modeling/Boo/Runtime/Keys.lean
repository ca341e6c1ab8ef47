/- module: Boo/Runtime/Keys
   digest: Key codes, the characters that they type, and the key specs of the control socket. -/

import Boo.Lib.TextLines

set_option autoImplicit false
set_option relaxedAutoImplicit false

namespace Boo.Runtime.Keys

open Boo.Lib.TextLines (Text)

/-- The two builds; their native key codes differ. -/
inductive Platform
  | linux | macos
  deriving DecidableEq

/-- The bits of a modifier mask. -/
abbrev Mods := UInt32

def modsShift : Mods := 1

def modsCtrl : Mods := 2

def modsAlt : Mods := 4

def modsSuper : Mods := 8

/-- A mask has a bit of another one. -/
def Mods.Has (mods mask : Mods) : Prop := mods &&& mask ≠ 0

instance (mods mask : Mods) : Decidable (Mods.Has mods mask) :=
  inferInstanceAs (Decidable (_ ≠ _))

section Characters

/-- The key codes of `shifted_codepoint_vt`, with their characters without and with shift. -/
def vtChars : List (UInt32 × Char × Char) :=
  [(20, 'a', 'a'), (21, 'b', 'b'), (22, 'c', 'c'), (23, 'd', 'd'), (24, 'e', 'e'), (25, 'f', 'f'),
    (26, 'g', 'g'), (27, 'h', 'h'), (28, 'i', 'i'), (29, 'j', 'j'), (30, 'k', 'k'),
    (31, 'l', 'l'), (32, 'm', 'm'), (33, 'n', 'n'), (34, 'o', 'o'), (35, 'p', 'p'),
    (36, 'q', 'q'), (37, 'r', 'r'), (38, 's', 's'), (39, 't', 't'), (40, 'u', 'u'),
    (41, 'v', 'v'), (42, 'w', 'w'), (43, 'x', 'x'), (44, 'y', 'y'), (45, 'z', 'z'),
    (63, ' ', ' '), (58, '\r', '\r'), (64, '\t', '\t'), (7, '1', '!'), (8, '2', '@'),
    (9, '3', '#'), (10, '4', '$'), (11, '5', '%'), (12, '6', '^'), (13, '7', '&'), (14, '8', '*'),
    (15, '9', '('), (6, '0', ')'), (48, Char.ofNat 39, Char.ofNat 34), (2, Char.ofNat 92, '|'),
    (5, ',', '<'), (47, '.', '>'), (50, '/', '?'), (49, ';', ':'), (46, '-', '_'), (16, '=', '+'),
    (3, '[', '{'), (4, ']', '}'), (1, Char.ofNat 96, '~')]

def macChars : List (UInt32 × Char × Char) :=
  [(0x00, 'a', 'a'), (0x01, 's', 's'), (0x02, 'd', 'd'), (0x03, 'f', 'f'), (0x04, 'h', 'h'),
    (0x05, 'g', 'g'), (0x06, 'z', 'z'), (0x07, 'x', 'x'), (0x08, 'c', 'c'), (0x09, 'v', 'v'),
    (0x0b, 'b', 'b'), (0x0c, 'q', 'q'), (0x0d, 'w', 'w'), (0x0e, 'e', 'e'), (0x0f, 'r', 'r'),
    (0x10, 'y', 'y'), (0x11, 't', 't'), (0x20, 'u', 'u'), (0x22, 'i', 'i'), (0x1f, 'o', 'o'),
    (0x23, 'p', 'p'), (0x25, 'l', 'l'), (0x26, 'j', 'j'), (0x28, 'k', 'k'), (0x2d, 'n', 'n'),
    (0x2e, 'm', 'm'), (0x31, ' ', ' '), (0x24, '\r', '\r'), (0x30, '\t', '\t'), (0x12, '1', '!'),
    (0x13, '2', '@'), (0x14, '3', '#'), (0x15, '4', '$'), (0x17, '5', '%'), (0x16, '6', '^'),
    (0x1a, '7', '&'), (0x1c, '8', '*'), (0x19, '9', '('), (0x1d, '0', ')'),
    (0x27, Char.ofNat 39, Char.ofNat 34), (0x2a, Char.ofNat 92, '|'), (0x2b, ',', '<'),
    (0x2f, '.', '>'), (0x2c, '/', '?'), (0x29, ';', ':'), (0x1b, '-', '_'), (0x18, '=', '+'),
    (0x21, '[', '{'), (0x1e, ']', '}'), (0x32, Char.ofNat 96, '~')]

def nativeChars : Platform → List (UInt32 × Char × Char)
  | .linux => vtChars
  | .macos => macChars

/-- No character is the code point zero of the source. -/
def shiftedChar (platform : Platform) (keycode : UInt32) (mods : Mods) : Option Char :=
  ((nativeChars platform).lookup keycode).map fun (base, shifted) =>
    if mods.Has modsShift then shifted.toUpper else base

end Characters

section Keyspecs

def linuxKeys : List (String × UInt32) :=
  [("a", 20), ("b", 21), ("c", 22), ("d", 23), ("e", 24), ("f", 25), ("g", 26), ("h", 27),
    ("i", 28), ("j", 29), ("k", 30), ("l", 31), ("m", 32), ("n", 33), ("o", 34), ("p", 35),
    ("q", 36), ("r", 37), ("s", 38), ("t", 39), ("u", 40), ("v", 41), ("w", 42), ("x", 43),
    ("y", 44), ("z", 45), ("0", 6), ("1", 7), ("2", 8), ("3", 9), ("4", 10), ("5", 11), ("6", 12),
    ("7", 13), ("8", 14), ("9", 15), ("enter", 58), ("return", 58), ("tab", 64), ("space", 63),
    ("escape", 120), ("esc", 120), ("backspace", 53), ("delete", 119), ("up", 111), ("down", 116),
    ("left", 113), ("right", 114), ("pageup", 112), ("pagedown", 117), ("home", 110),
    ("end", 115)]

def macKeys : List (String × UInt32) :=
  [("a", 0x00), ("s", 0x01), ("d", 0x02), ("f", 0x03), ("h", 0x04), ("g", 0x05), ("z", 0x06),
    ("x", 0x07), ("c", 0x08), ("v", 0x09), ("b", 0x0b), ("q", 0x0c), ("w", 0x0d), ("e", 0x0e),
    ("r", 0x0f), ("y", 0x10), ("t", 0x11), ("u", 0x20), ("i", 0x22), ("o", 0x1f), ("p", 0x23),
    ("l", 0x25), ("j", 0x26), ("k", 0x28), ("n", 0x2d), ("m", 0x2e), ("enter", 0x24),
    ("return", 0x24), ("tab", 0x30), ("space", 0x31), ("escape", 0x35), ("esc", 0x35),
    ("backspace", 0x33), ("delete", 0x75), ("up", 0x7e), ("down", 0x7d), ("left", 0x7b),
    ("right", 0x7c), ("pageup", 0x74), ("pagedown", 0x79), ("home", 0x73), ("end", 0x77)]

def vtKeys : List (String × UInt32) :=
  [("a", 20), ("b", 21), ("c", 22), ("d", 23), ("e", 24), ("f", 25), ("g", 26), ("h", 27),
    ("i", 28), ("j", 29), ("k", 30), ("l", 31), ("m", 32), ("n", 33), ("o", 34), ("p", 35),
    ("q", 36), ("r", 37), ("s", 38), ("t", 39), ("u", 40), ("v", 41), ("w", 42), ("x", 43),
    ("y", 44), ("z", 45), ("0", 6), ("1", 7), ("2", 8), ("3", 9), ("4", 10), ("5", 11), ("6", 12),
    ("7", 13), ("8", 14), ("9", 15), ("enter", 58), ("return", 58), ("tab", 64), ("space", 63),
    ("escape", 120), ("esc", 120), ("backspace", 53), ("delete", 68), ("up", 73), ("down", 74),
    ("left", 71), ("right", 72), ("pageup", 75), ("pagedown", 78), ("home", 69), ("end", 70)]

def nativeKeys : Platform → List (String × UInt32)
  | .linux => linuxKeys
  | .macos => macKeys

/-- The modifiers in front of a key name, in any order and number. -/
def stripMods (mods : Mods) : Text → Mods × Text
  | 'c' :: 't' :: 'r' :: 'l' :: '+' :: rest => stripMods (mods ||| modsCtrl) rest
  | 's' :: 'h' :: 'i' :: 'f' :: 't' :: '+' :: rest => stripMods (mods ||| modsShift) rest
  | 'a' :: 'l' :: 't' :: '+' :: rest => stripMods (mods ||| modsAlt) rest
  | 's' :: 'u' :: 'p' :: 'e' :: 'r' :: '+' :: rest => stripMods (mods ||| modsSuper) rest
  | key => (mods, key)

def hexDigit (char : Char) : Option Nat :=
  if char.isDigit then some (char.toNat - '0'.toNat)
  else if 'a' ≤ char ∧ char ≤ 'f' then some (char.toNat - 'a'.toNat + 10)
  else if 'A' ≤ char ∧ char ≤ 'F' then some (char.toNat - 'A'.toNat + 10)
  else none

/-- The digits of `from_str_radix`, which takes a plus sign in front of them. -/
def hexDigits : Text → Text
  | '+' :: digits => digits
  | digits => digits

/-- `u32::from_str_radix` with radix 16. -/
def parseHex (text : Text) : Option UInt32 :=
  if hexDigits text = [] then none
  else ((hexDigits text).foldlM (fun value char => (hexDigit char).bind fun digit =>
    let next := value * 16 + digit
    if next < 2 ^ 32 then some next else none) 0).map UInt32.ofNat

/-- A key by its name, or by its code after "0x". -/
def keyCode (keys : List (String × UInt32)) (key : Text) : Option UInt32 :=
  match keys.find? fun entry => entry.1.toList = key with
  | some entry => some entry.2
  | none =>
      match key with
      | '0' :: 'x' :: digits => parseHex digits
      | _ => none

def parseSpec (keys : List (String × UInt32)) (spec : Text) : Option (UInt32 × Mods) :=
  let (mods, key) := stripMods 0 spec
  (keyCode keys key).map (·, mods)

def parseKeyspec (platform : Platform) (spec : Text) : Option (UInt32 × Mods) :=
  parseSpec (nativeKeys platform) spec

def parseVtKeyspec (spec : Text) : Option (UInt32 × Mods) := parseSpec vtKeys spec

end Keyspecs

section Events

/-- The named keys that the input paths tell apart. -/
inductive Named
  | enter | tab | space | escape | backspace | delete
  | arrowUp | arrowDown | arrowLeft | arrowRight | pageUp | pageDown | home | endKey
  deriving DecidableEq

inductive Key
  | named (key : Named)
  | character (text : Text)
  deriving DecidableEq

def keyNames : List (String × Named) :=
  [("enter", .enter), ("return", .enter), ("tab", .tab), ("space", .space), ("escape", .escape),
    ("esc", .escape), ("backspace", .backspace), ("delete", .delete), ("up", .arrowUp),
    ("down", .arrowDown), ("left", .arrowLeft), ("right", .arrowRight), ("pageup", .pageUp),
    ("pagedown", .pageDown), ("home", .home), ("end", .endKey)]

/-- What stands after the last plus sign, if there is one. -/
def lastPart : Text → Text
  | [] => []
  | char :: rest =>
      if '+' ∈ rest then lastPart rest else if char = '+' then rest else char :: rest

/-- The name that a key spec ends in, if it is the name of a key. -/
def specName (spec : Text) : Option Named :=
  (keyNames.find? fun entry => entry.1.toList = lastPart spec).map Prod.snd

def controlKeyToKeyboardKey (spec : Text) (keyChar : Option Char) : Key :=
  match specName spec with
  | some key => .named key
  | none => .character [keyChar.getD (Char.ofNat 0)]

/-- The keys that an event of the interface can name. -/
inductive NamedKey
  | arrowUp | arrowDown | arrowLeft | arrowRight | pageUp | pageDown | home | endKey | escape
  deriving DecidableEq

def NamedKey.named : NamedKey → Named
  | arrowUp => .arrowUp
  | arrowDown => .arrowDown
  | arrowLeft => .arrowLeft
  | arrowRight => .arrowRight
  | pageUp => .pageUp
  | pageDown => .pageDown
  | home => .home
  | endKey => .endKey
  | escape => .escape

structure AppKeyEvent where
  keycode : UInt32
  mods : Mods
  text : Option Text
  modifiedText : Option Text
  namedKey : Option NamedKey
  repeated : Bool
  deriving DecidableEq

def AppKeyEvent.keyChar (platform : Platform) (event : AppKeyEvent) : Option Char :=
  (shiftedChar platform event.keycode event.mods).or
    ((event.text.bind List.head?).or (event.modifiedText.bind List.head?))

def AppKeyEvent.keyboardKey (platform : Platform) (event : AppKeyEvent) : Key :=
  match event.namedKey with
  | some key => .named key.named
  | none => .character ((event.modifiedText.or (event.text.or
      ((event.keyChar platform).map fun char => [char]))).getD [])

end Events

section Names

theorem lastPart_append (front rest : Text) : lastPart (front ++ '+' :: rest) = lastPart rest := by
  have plus : lastPart ('+' :: rest) = lastPart rest := by
    by_cases later : '+' ∈ rest
    · rw [lastPart, if_pos later]
    · rw [lastPart, if_neg later, if_pos rfl]
      cases rest with
      | nil => rfl
      | cons char rest =>
          rw [List.mem_cons, not_or] at later
          rw [lastPart, if_neg later.2, if_neg (Ne.symm later.1)]
  induction front with
  | nil => exact plus
  | cons char front ih =>
      rw [List.cons_append, lastPart, if_pos (by simp), ih]

/-- Modifiers in front of a key do not change its name. -/
theorem lastPart_stripMods (mods : Mods) (spec : Text) :
    lastPart (stripMods mods spec).2 = lastPart spec := by
  induction mods, spec using stripMods.induct with
  | case1 mods rest ih =>
      rw [stripMods, ih]
      exact (lastPart_append ['c', 't', 'r', 'l'] rest).symm
  | case2 mods rest ih =>
      rw [stripMods, ih]
      exact (lastPart_append ['s', 'h', 'i', 'f', 't'] rest).symm
  | case3 mods rest ih =>
      rw [stripMods, ih]
      exact (lastPart_append ['a', 'l', 't'] rest).symm
  | case4 mods rest ih =>
      rw [stripMods, ih]
      exact (lastPart_append ['s', 'u', 'p', 'e', 'r'] rest).symm
  | case5 mods key _ _ _ _ =>
      rw [stripMods] <;> assumption

theorem lastPart_of_not_mem {text : Text} (none_ : '+' ∉ text) : lastPart text = text := by
  cases text with
  | nil => rfl
  | cons char rest =>
      rw [List.mem_cons, not_or] at none_
      rw [lastPart, if_neg none_.2, if_neg (Ne.symm none_.1)]

/-- Of the key names that both builds know, only those of enter, tab and the space bar type a
character. -/
theorem lookup_of_name (platform : Platform) : ∀ entry ∈ nativeKeys platform,
    ∀ key ∈ specName entry.1.toList, (nativeChars platform).lookup entry.2 = none ∨
      (key = .enter ∧ (nativeChars platform).lookup entry.2 = some ('\r', '\r')) ∨
      (key = .tab ∧ (nativeChars platform).lookup entry.2 = some ('\t', '\t')) ∨
      (key = .space ∧ (nativeChars platform).lookup entry.2 = some (' ', ' ')) := by
  cases platform <;> decide

theorem hexDigits_of_parseHex {text : Text} {code : UInt32} (parsed : parseHex text = some code) :
    ∀ char ∈ hexDigits text, (hexDigit char).isSome := by
  rw [parseHex] at parsed
  split at parsed
  · cases parsed
  · obtain ⟨value, folded, -⟩ := Option.map_eq_some_iff.mp parsed
    generalize hexDigits text = digits at folded
    generalize (0 : Nat) = start at folded
    induction digits generalizing start with
    | nil => simp
    | cons char digits ih =>
        rw [List.foldlM_cons] at folded
        obtain ⟨next, stepped, later⟩ := Option.bind_eq_some_iff.mp folded
        obtain ⟨digit, isDigit, -⟩ := Option.bind_eq_some_iff.mp stepped
        intro other member
        rcases List.mem_cons.mp member with rfl | tail
        · rw [isDigit]
          rfl
        · exact ih _ later other tail

/-- A key that is given by its code has no name. -/
theorem specName_hex {digits : Text} {code : UInt32} (parsed : parseHex digits = some code)
    {spec : Text} (part : lastPart spec = lastPart ('0' :: 'x' :: digits)) : specName spec = none := by
  have hex : ∀ char ∈ lastPart ('0' :: 'x' :: digits), (hexDigit char).isSome ∨ char = 'x' := by
    have all := hexDigits_of_parseHex parsed
    have noPlus : '+' ∉ hexDigits digits := fun member => absurd (all _ member) (by decide)
    by_cases plus : ∃ rest, digits = '+' :: rest
    · obtain ⟨rest, rfl⟩ := plus
      rw [show '0' :: 'x' :: '+' :: rest = ['0', 'x'] ++ '+' :: rest from rfl, lastPart_append,
        show rest = hexDigits ('+' :: rest) from rfl, lastPart_of_not_mem noPlus]
      exact fun char member => .inl (all char member)
    · have same : hexDigits digits = digits := by
        cases digits with
        | nil => rfl
        | cons char rest =>
            rw [hexDigits]
            exact fun rest' same => plus ⟨rest', same⟩
      rw [same] at all noPlus
      rw [lastPart_of_not_mem (by simpa using noPlus)]
      intro char member
      rcases List.mem_cons.mp member with rfl | member
      · exact .inl (by decide)
      · rcases List.mem_cons.mp member with rfl | member
        · exact .inr rfl
        · exact .inl (all char member)
  have names : ∀ entry ∈ keyNames,
      (entry.1.toList.any fun char => !(hexDigit char).isSome && char != 'x') = true := by decide
  rw [specName, Option.map_eq_none_iff, List.find?_eq_none]
  intro entry member isPart
  obtain ⟨char, held, not_⟩ := List.any_eq_true.mp (names entry member)
  rw [of_decide_eq_true isPart, part] at held
  rcases hex char held with isHex | isX <;> simp_all

theorem specName_congr {spec other : Text} (part : lastPart spec = lastPart other) :
    specName spec = specName other := by
  rw [specName, specName, part]

/-- A key that has a code is known by its name or given by its code. -/
theorem keyCode_spec {keys : List (String × UInt32)} {key : Text} {code : UInt32}
    (held : keyCode keys key = some code) :
    (∃ entry ∈ keys, entry.1.toList = key ∧ entry.2 = code) ∨
      ∃ digits, key = '0' :: 'x' :: digits ∧ parseHex digits = some code := by
  unfold keyCode at held
  split at held
  · rename_i entry found
    exact .inl ⟨entry, List.mem_of_find?_eq_some found, by simpa using List.find?_some found,
      Option.some.inj held⟩
  · split at held
    · exact .inr ⟨_, rfl, held⟩
    · cases held

/-- A key spec that types a character and names a key is that of enter, tab or the space bar. -/
theorem specName_typed {platform : Platform} {spec : Text} {code : UInt32} {mods : Mods}
    {char : Char} {key : Named} (parsed : parseKeyspec platform spec = some (code, mods))
    (typed : shiftedChar platform code mods = some char) (name : specName spec = some key) :
    (key = .enter ∧ char = '\r') ∨ (key = .tab ∧ char = '\t') ∨ (key = .space ∧ char = ' ') := by
  rw [parseKeyspec, parseSpec] at parsed
  obtain ⟨code', held, same⟩ := Option.map_eq_some_iff.mp parsed
  obtain ⟨rfl, rfl⟩ := Prod.mk.inj same
  have part := lastPart_stripMods 0 spec
  rcases keyCode_spec held with ⟨entry, member, isKey, rfl⟩ | ⟨digits, isHex, isCode⟩
  · rw [← isKey] at part
    rw [← specName_congr part] at name
    obtain ⟨chars, looked, isChar⟩ := Option.map_eq_some_iff.mp typed
    have known := lookup_of_name platform entry member key name
    rw [looked] at known
    rcases known with nothing | ⟨rfl, same⟩ | ⟨rfl, same⟩ | ⟨rfl, same⟩
    · cases nothing
    · obtain rfl := Option.some.inj same
      refine .inl ⟨rfl, ?_⟩
      simpa using isChar.symm
    · obtain rfl := Option.some.inj same
      refine .inr (.inl ⟨rfl, ?_⟩)
      simpa using isChar.symm
    · obtain rfl := Option.some.inj same
      refine .inr (.inr ⟨rfl, ?_⟩)
      simpa using isChar.symm
  · rw [isHex] at part
    rw [specName_hex isCode part.symm] at name
    cases name

/-- The terminal library knows every key that a key spec can give. -/
theorem parseVtKeyspec_isSome {platform : Platform} {spec : Text} {key : UInt32 × Mods}
    (parsed : parseKeyspec platform spec = some key) : (parseVtKeyspec spec).isSome := by
  have names : ∀ entry ∈ nativeKeys platform,
      (vtKeys.find? fun other => other.1.toList = entry.1.toList).isSome := by
    cases platform <;> decide
  rw [parseKeyspec, parseSpec] at parsed
  obtain ⟨code, held, -⟩ := Option.map_eq_some_iff.mp parsed
  rw [parseVtKeyspec, parseSpec]
  dsimp only
  rw [Option.isSome_map]
  cases vt : vtKeys.find? fun entry => entry.1.toList = (stripMods 0 spec).2 with
  | some entry => simp [keyCode, vt]
  | none =>
      rcases keyCode_spec held with ⟨entry, member, isKey, -⟩ | ⟨digits, isHex, isCode⟩
      · have known := names entry member
        rw [isKey, vt] at known
        cases known
      · rw [isHex] at vt
        simp [keyCode, isHex, vt, isCode]

end Names

end Boo.Runtime.Keys
