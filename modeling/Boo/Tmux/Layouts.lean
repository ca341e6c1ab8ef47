/- module: Boo/Tmux/Layouts
   digest: The layout strings of tmux: parsing ends on every text, and inverts the printing. -/

import Boo.Lib.Numerals

set_option autoImplicit false
set_option relaxedAutoImplicit false

namespace Boo.Tmux.Layouts

open Boo.Lib.TextLines
open Boo.Lib.Numerals

/-- The tree that a layout string is parsed to. -/
inductive LayoutNode
  | leaf (width height x y paneId : UInt32)
  | split (horizontal : Bool) (width height : UInt32) (children : List LayoutNode)

section Parsing

def parseU32 (s : Text) : Option (UInt32 × Text) :=
  (parseUnsigned (2 ^ 32) (s.takeWhile Char.isDigit)).map fun value =>
    (UInt32.ofNat value, s.dropWhile Char.isDigit)

/-- `WxH,X,Y`, which every node starts with. -/
structure Geometry where
  width : UInt32
  height : UInt32
  x : UInt32
  y : UInt32

def parseGeometry (s : Text) : Option (Geometry × Text) := do
  let (width, rest) ← parseU32 s
  let rest ← stripPrefix ['x'] rest
  let (height, rest) ← parseU32 rest
  let rest ← stripPrefix [','] rest
  let (x, rest) ← parseU32 rest
  let rest ← stripPrefix [','] rest
  let (y, rest) ← parseU32 rest
  pure (⟨width, height, x, y⟩, rest)

mutual

/-- The result is `none` when the calls nest deeper than `depth`; below that it is the result of
the code, with the text that is left. -/
def parseLayoutNode : Nat → Text → Option (Option (LayoutNode × Text))
  | 0, _ => none
  | depth + 1, s =>
      match parseGeometry s with
      | none => some none
      | some (at_, rest) =>
          match stripPrefix ['\x7b'] rest with
          | some rest =>
              (parseChildren depth rest '\x7d').map (Option.map fun (children, rest) =>
                (.split true at_.width at_.height children, rest))
          | none =>
              match stripPrefix ['['] rest with
              | some rest =>
                  (parseChildren depth rest ']').map (Option.map fun (children, rest) =>
                    (.split false at_.width at_.height children, rest))
              | none =>
                  match stripPrefix [','] rest with
                  | some rest =>
                      some ((parseU32 rest).map fun (paneId, rest) =>
                        (.leaf at_.width at_.height at_.x at_.y paneId, rest))
                  | none => some (some (.leaf at_.width at_.height at_.x at_.y 0, rest))

/-- One child, and then the closing bracket or a comma with the children after it. -/
def parseChildren : Nat → Text → Char → Option (Option (List LayoutNode × Text))
  | 0, _, _ => none
  | depth + 1, s, close =>
      match parseLayoutNode depth s with
      | none => none
      | some none => some none
      | some (some (child, rest)) =>
          match stripPrefix [close] rest with
          | some rest => some (some ([child], rest))
          | none =>
              match stripPrefix [','] rest with
              | some rest =>
                  (parseChildren depth rest close).map (Option.map fun (children, rest) =>
                    (child :: children, rest))
              | none => some none

end

/-- A nesting that no text of this length exceeds. -/
def depthFor (s : Text) : Nat := 2 * s.length + 1

/-- The layout without the checksum in front of it. -/
def stripChecksum (layout : Text) : Text :=
  match splitOnce ',' layout with
  | some (_, rest) => rest
  | none => layout

def parseLayout (layout : Text) : Option LayoutNode :=
  let s := stripChecksum layout
  (parseLayoutNode (depthFor s) s).join.map Prod.fst

end Parsing

section Printing

/-- A layout of tmux; a split has at least one child. -/
inductive Cell
  | pane (width height x y paneId : UInt32)
  | split (horizontal : Bool) (width height x y : UInt32) (first : Cell) (others : List Cell)

def printU32 (n : UInt32) : Text := decimal n.toNat

def printGeometry (width height x y : UInt32) : Text :=
  printU32 width ++ 'x' :: printU32 height ++ ',' :: printU32 x ++ ',' :: printU32 y

def opening (horizontal : Bool) : Char := if horizontal then '\x7b' else '['

def closing (horizontal : Bool) : Char := if horizontal then '\x7d' else ']'

mutual

def Cell.print : Cell → Text
  | .pane width height x y paneId => printGeometry width height x y ++ ',' :: printU32 paneId
  | .split horizontal width height x y first others =>
      printGeometry width height x y ++ opening horizontal ::
        (first.print ++ (printOthers others ++ [closing horizontal]))

def printOthers : List Cell → Text
  | [] => []
  | cell :: others => ',' :: (cell.print ++ printOthers others)

end

mutual

/-- What is kept of a layout: the offsets of a split are not. -/
def Cell.node : Cell → LayoutNode
  | .pane width height x y paneId => .leaf width height x y paneId
  | .split horizontal width height _ _ first others =>
      .split horizontal width height (first.node :: nodes others)

def nodes : List Cell → List LayoutNode
  | [] => []
  | cell :: others => cell.node :: nodes others

end

def printLayout (checksum : Text) (cell : Cell) : Text := checksum ++ ',' :: cell.print

end Printing

section Progress

variable {s rest : Text}

theorem length_of_stripPrefix {char : Char} (stripped : stripPrefix [char] s = some rest) :
    s.length = rest.length + 1 := by
  rw [stripPrefix_eq_some stripped]
  simp

theorem length_of_parseU32 {value : UInt32} (parsed : parseU32 s = some (value, rest)) :
    rest.length < s.length := by
  obtain ⟨n, read, same⟩ := Option.map_eq_some_iff.mp parsed
  obtain ⟨-, rfl⟩ := Prod.mk.inj same
  have digits : ∀ char ∈ s.takeWhile Char.isDigit, char.isDigit = true := fun char member =>
    List.all_eq_true.mp List.all_takeWhile char member
  have nonempty := (parseUnsigned_spec read).2.1
  rw [stripPlus_of_digits digits] at nonempty
  have whole := congrArg List.length (@List.takeWhile_append_dropWhile _ Char.isDigit s)
  have positive := List.length_pos_iff.mpr nonempty
  rw [List.length_append] at whole
  omega

theorem length_of_parseGeometry {at_ : Geometry} (parsed : parseGeometry s = some (at_, rest)) :
    rest.length < s.length := by
  simp only [parseGeometry, Option.bind_eq_bind, Option.bind_eq_some_iff, Option.pure_def,
    Option.some.injEq, Prod.exists, Prod.mk.injEq] at parsed
  obtain ⟨_, r₁, width, r₂, cross, _, r₃, height, r₄, comma, _, r₅, x, r₆, comma', _, r₇, y, -,
    rfl⟩ := parsed
  have := length_of_parseU32 width
  have := length_of_stripPrefix cross
  have := length_of_parseU32 height
  have := length_of_stripPrefix comma
  have := length_of_parseU32 x
  have := length_of_stripPrefix comma'
  have := length_of_parseU32 y
  omega

end Progress

section Termination

variable {α : Type} {s : Text}

/-- What is left after a parse is shorter than the text. -/
def Shrinks (s : Text) (result : Option (α × Text)) : Prop :=
  ∀ value rest, result = some (value, rest) → rest.length < s.length

theorem shrinks_none (s : Text) : Shrinks s (none : Option (α × Text)) :=
  fun _ _ parsed => absurd parsed (by simp)

theorem shrinks_some {value : α} {rest : Text} (less : rest.length < s.length) :
    Shrinks s (some (value, rest)) := by
  intro _ _ parsed
  cases parsed
  exact less

theorem Shrinks.map {β : Type} {later : Text} {result : Option (α × Text)}
    (shrinks : Shrinks later result) (less : later.length < s.length) (f : α → β) :
    Shrinks s (result.map fun found => (f found.1, found.2)) := by
  intro value rest parsed
  obtain ⟨⟨inner, left⟩, held, same⟩ := Option.map_eq_some_iff.mp parsed
  obtain ⟨-, rfl⟩ := Prod.mk.inj same
  exact Nat.lt_trans (shrinks inner left held) less

/-- Calls of both functions end with a result when they may nest twice as deep as the text is
long; the induction is on the nesting. -/
theorem parse_ends (depth : Nat) :
    (∀ s : Text, 2 * s.length + 1 ≤ depth →
      ∃ result, parseLayoutNode depth s = some result ∧ Shrinks s result) ∧
    (∀ (s : Text) (close : Char), 2 * s.length + 2 ≤ depth →
      ∃ result, parseChildren depth s close = some result ∧ Shrinks s result) := by
  induction depth with
  | zero => exact ⟨fun s room => by omega, fun s close room => by omega⟩
  | succ depth ih =>
      obtain ⟨ofNode, ofChildren⟩ := ih
      constructor
      · intro s room
        rw [parseLayoutNode]
        cases parsed : parseGeometry s with
        | none => exact ⟨none, rfl, shrinks_none s⟩
        | some found =>
            obtain ⟨at_, rest⟩ := found
            have less := length_of_parseGeometry parsed
            dsimp only
            cases brace : stripPrefix ['\x7b'] rest with
            | some inner =>
                have shorter := length_of_stripPrefix brace
                obtain ⟨result, ends, shrinks⟩ := ofChildren inner '\x7d' (by omega)
                refine ⟨_, ?_, shrinks.map (by omega) (.split true at_.width at_.height)⟩
                simp only [ends, Option.map_some]
            | none =>
                cases bracket : stripPrefix ['['] rest with
                | some inner =>
                    have shorter := length_of_stripPrefix bracket
                    obtain ⟨result, ends, shrinks⟩ := ofChildren inner ']' (by omega)
                    refine ⟨_, ?_, shrinks.map (by omega) (.split false at_.width at_.height)⟩
                    simp only [ends, Option.map_some]
                | none =>
                    cases comma : stripPrefix [','] rest with
                    | some inner =>
                        have shorter := length_of_stripPrefix comma
                        have inside : Shrinks inner (parseU32 inner) :=
                          fun _ _ => length_of_parseU32
                        exact ⟨_, rfl, inside.map (by omega) _⟩
                    | none => exact ⟨_, rfl, shrinks_some less⟩
      · intro s close room
        obtain ⟨result, ends, shrinks⟩ := ofNode s (by omega)
        rw [parseChildren, ends]
        cases result with
        | none => exact ⟨none, rfl, shrinks_none s⟩
        | some found =>
            obtain ⟨child, rest⟩ := found
            have less := shrinks child rest rfl
            dsimp only
            cases closed : stripPrefix [close] rest with
            | some after =>
                have shorter := length_of_stripPrefix closed
                exact ⟨_, rfl, shrinks_some (by omega)⟩
            | none =>
                cases comma : stripPrefix [','] rest with
                | none => exact ⟨none, rfl, shrinks_none s⟩
                | some after =>
                    have shorter := length_of_stripPrefix comma
                    obtain ⟨later, ends, shrinks⟩ := ofChildren after close (by omega)
                    refine ⟨_, ?_, shrinks.map (by omega) (child :: ·)⟩
                    simp only [ends, Option.map_some]

/-- A deeper nesting changes no result. -/
theorem parse_mono (depth : Nat) :
    (∀ (s : Text) result, parseLayoutNode depth s = some result →
      parseLayoutNode (depth + 1) s = some result) ∧
    (∀ (s : Text) (close : Char) result, parseChildren depth s close = some result →
      parseChildren (depth + 1) s close = some result) := by
  induction depth with
  | zero =>
      constructor
      · intro s result ends
        cases ends
      · intro s close result ends
        cases ends
  | succ depth ih =>
      obtain ⟨ofNode, ofChildren⟩ := ih
      constructor
      · intro s result ends
        rw [parseLayoutNode] at ends ⊢
        cases parsed : parseGeometry s with
        | none => rwa [parsed] at ends
        | some found =>
            obtain ⟨at_, rest⟩ := found
            rw [parsed] at ends
            dsimp only at ends ⊢
            cases brace : stripPrefix ['\x7b'] rest with
            | some inner =>
                rw [brace] at ends
                obtain ⟨within, held, rfl⟩ := Option.map_eq_some_iff.mp ends
                simp only [ofChildren _ _ _ held, Option.map_some]
            | none =>
                cases bracket : stripPrefix ['['] rest with
                | some inner =>
                    rw [brace, bracket] at ends
                    obtain ⟨within, held, rfl⟩ := Option.map_eq_some_iff.mp ends
                    simp only [ofChildren _ _ _ held, Option.map_some]
                | none => rwa [brace, bracket] at ends
      · intro s close result ends
        rw [parseChildren] at ends ⊢
        cases inner : parseLayoutNode depth s with
        | none =>
            rw [inner] at ends
            cases ends
        | some within =>
            rw [ofNode s within inner]
            rw [inner] at ends
            cases within with
            | none => exact ends
            | some found =>
                obtain ⟨child, rest⟩ := found
                dsimp only at ends ⊢
                cases closed : stripPrefix [close] rest with
                | some after => rwa [closed] at ends
                | none =>
                    cases comma : stripPrefix [','] rest with
                    | none => rwa [closed, comma] at ends
                    | some after =>
                        rw [closed, comma] at ends
                        obtain ⟨later, held, rfl⟩ := Option.map_eq_some_iff.mp ends
                        simp only [ofChildren _ _ _ held, Option.map_some]

theorem parseLayoutNode_deeper {depth deeper : Nat} {result : Option (LayoutNode × Text)}
    (ends : parseLayoutNode depth s = some result) (le : depth ≤ deeper) :
    parseLayoutNode deeper s = some result := by
  induction deeper, le using Nat.le_induction with
  | base => exact ends
  | succ deeper _ ih => exact (parse_mono deeper).1 s result ih

end Termination

section RoundTrip

variable {rest : Text}

theorem parseU32_printU32 (n : UInt32) (ends : EndsNumber rest) :
    parseU32 (printU32 n ++ rest) = some (n, rest) := by
  have digits : ∀ char ∈ printU32 n, char.isDigit = true := fun _ => isDigit_of_mem_decimal
  obtain ⟨front, after⟩ := takeWhile_digits digits ends
  have small : n.toNat < 2 ^ 32 := n.toNat_lt
  rw [parseU32, front, after, printU32, parseUnsigned_decimal small, Option.map_some,
    UInt32.ofNat_toNat]

theorem parseGeometry_print (width height x y : UInt32) (ends : EndsNumber rest) :
    parseGeometry (printGeometry width height x y ++ rest) =
      some (⟨width, height, x, y⟩, rest) := by
  have cross (later : Text) :
      parseU32 (printU32 width ++ 'x' :: later) = some (width, 'x' :: later) :=
    parseU32_printU32 width (endsNumber_cons (by decide))
  have comma (n : UInt32) (later : Text) :
      parseU32 (printU32 n ++ ',' :: later) = some (n, ',' :: later) :=
    parseU32_printU32 n (endsNumber_cons (by decide))
  have last := parseU32_printU32 y ends
  simp [parseGeometry, printGeometry, cross, comma, last, stripPrefix_cons_self]

/-- The parser reads the printed cell and leaves what follows it. -/
def Inverts (cell : Cell) : Prop :=
  ∀ (rest : Text) (depth : Nat), EndsNumber rest →
    2 * (cell.print ++ rest).length + 1 ≤ depth →
    parseLayoutNode depth (cell.print ++ rest) = some (some (cell.node, rest))

theorem inverts_pane (width height x y paneId : UInt32) :
    Inverts (.pane width height x y paneId) := by
  intro rest depth ends room
  obtain ⟨depth, rfl⟩ : ∃ less, depth = less + 1 := ⟨depth - 1, by omega⟩
  have shape : (Cell.pane width height x y paneId).print ++ rest =
      printGeometry width height x y ++ ',' :: (printU32 paneId ++ rest) := by
    simp [Cell.print]
  have comma : EndsNumber (',' :: (printU32 paneId ++ rest)) := endsNumber_cons (by decide)
  have geometry := parseGeometry_print width height x y comma
  rw [shape, parseLayoutNode, geometry]
  simp only [stripPrefix_cons_ne (show '\x7b' ≠ ',' by decide),
    stripPrefix_cons_ne (show '[' ≠ ',' by decide), stripPrefix_cons_self,
    parseU32_printU32 paneId ends, Option.map_some, Cell.node]

/-- A closing bracket is neither a digit nor a comma. -/
theorem closing_spec (horizontal : Bool) :
    (closing horizontal).isDigit = false ∧ closing horizontal ≠ ',' := by
  cases horizontal <;> decide

/-- The induction is on the children after the first one. -/
theorem parseChildren_print {first : Cell} (inverts : Inverts first) {others : List Cell}
    (all : ∀ cell ∈ others, Inverts cell) (horizontal : Bool) (rest : Text) (depth : Nat)
    (room : 2 * (first.print ++ (printOthers others ++ closing horizontal :: rest)).length + 2 ≤
      depth) :
    parseChildren depth (first.print ++ (printOthers others ++ closing horizontal :: rest))
      (closing horizontal) = some (some (first.node :: nodes others, rest)) := by
  obtain ⟨solid, notComma⟩ := closing_spec horizontal
  induction others generalizing first depth with
  | nil =>
      obtain ⟨depth, rfl⟩ : ∃ less, depth = less + 1 := ⟨depth - 1, by omega⟩
      rw [printOthers, List.nil_append] at room ⊢
      have child := inverts (closing horizontal :: rest) depth (endsNumber_cons solid) (by omega)
      rw [parseChildren, child]
      simp only [stripPrefix_cons_self, nodes]
  | cons next others ih =>
      obtain ⟨depth, rfl⟩ : ∃ less, depth = less + 1 := ⟨depth - 1, by omega⟩
      have shape : first.print ++ (printOthers (next :: others) ++ closing horizontal :: rest) =
          first.print ++ ',' :: (next.print ++ (printOthers others ++ closing horizontal :: rest)) := by
        simp [printOthers]
      rw [shape] at room ⊢
      have child := inverts (',' :: (next.print ++ (printOthers others ++ closing horizontal :: rest)))
        depth (endsNumber_cons (by decide)) (by omega)
      have later := ih (all next List.mem_cons_self)
        (fun cell member => all cell (List.mem_cons_of_mem _ member)) depth (by
          rw [List.length_append, List.length_cons] at room
          omega)
      rw [parseChildren, child]
      simp only [stripPrefix_cons_ne notComma, stripPrefix_cons_self, later, Option.map_some, nodes]

theorem inverts_split (horizontal : Bool) (width height x y : UInt32) {first : Cell}
    (inverts : Inverts first) {others : List Cell} (all : ∀ cell ∈ others, Inverts cell) :
    Inverts (.split horizontal width height x y first others) := by
  intro rest depth ends room
  obtain ⟨depth, rfl⟩ : ∃ less, depth = less + 1 := ⟨depth - 1, by omega⟩
  have shape : (Cell.split horizontal width height x y first others).print ++ rest =
      printGeometry width height x y ++ opening horizontal ::
        (first.print ++ (printOthers others ++ closing horizontal :: rest)) := by
    simp [Cell.print]
  have solid : (opening horizontal).isDigit = false := by cases horizontal <;> decide
  have opens : EndsNumber (opening horizontal ::
      (first.print ++ (printOthers others ++ closing horizontal :: rest))) := endsNumber_cons solid
  have geometry := parseGeometry_print width height x y opens
  rw [shape] at room ⊢
  have children := parseChildren_print inverts all horizontal rest depth (by
    rw [List.length_append, List.length_cons] at room
    omega)
  rw [parseLayoutNode, geometry]
  cases horizontal with
  | true =>
      have brace : opening true = '\x7b' := rfl
      have close : closing true = '\x7d' := rfl
      rw [close] at children
      simp only [brace, close, stripPrefix_cons_self, children, Option.map_some, Cell.node]
  | false =>
      have bracket : opening false = '[' := rfl
      have close : closing false = ']' := rfl
      rw [close] at children
      simp only [bracket, close, stripPrefix_cons_ne (show '\x7b' ≠ '[' by decide),
        stripPrefix_cons_self, children, Option.map_some, Cell.node]

theorem inverts (cell : Cell) : Inverts cell := by
  cases cell with
  | pane width height x y paneId => exact inverts_pane width height x y paneId
  | split horizontal width height x y first others =>
      have front := inverts first
      have later : ∀ cell ∈ others, Inverts cell := fun cell _ => inverts cell
      exact inverts_split horizontal width height x y front later

theorem stripChecksum_printLayout {checksum : Text} (plain : ',' ∉ checksum) (cell : Cell) :
    stripChecksum (printLayout checksum cell) = cell.print := by
  rw [stripChecksum, printLayout, splitOnce_append plain]

/-- A printed layout is parsed to its tree whatever the checksum is, and on every text the calls
of the parser nest at most twice as deep as the text is long: more room changes nothing. -/
theorem parseLayout_printLayout :
    (∀ (checksum : Text) (cell : Cell), ',' ∉ checksum →
      parseLayout (printLayout checksum cell) = some cell.node) ∧
    ∀ s : Text, ∃ result, ∀ depth, depthFor s ≤ depth → parseLayoutNode depth s = some result := by
  constructor
  · intro checksum cell plain
    have parsed := inverts cell [] (depthFor cell.print) endsNumber_nil (by simp [depthFor])
    rw [List.append_nil] at parsed
    simp only [parseLayout, stripChecksum_printLayout plain, parsed, Option.join_some,
      Option.map_some]
  · intro s
    obtain ⟨result, ends, -⟩ := (parse_ends (depthFor s)).1 s (Nat.le_refl _)
    exact ⟨result, fun depth room => parseLayoutNode_deeper ends room⟩

/-- Two panes side by side, the second split in two. -/
theorem parseLayout_nested :
    parseLayout "ffff,160x48,0,0\x7b80x48,0,0,1,80x48,80,0[80x24,80,0,2,80x24,80,24,3]\x7d".toList =
      some (.split true 160 48 [.leaf 80 48 0 0 1,
        .split false 80 48 [.leaf 80 24 80 0 2, .leaf 80 24 80 24 3]]) :=
  parseLayout_printLayout.1 "ffff".toList (.split true 160 48 0 0 (.pane 80 48 0 0 1)
    [.split false 80 48 80 0 (.pane 80 24 80 0 2) [.pane 80 24 80 24 3]]) (by decide)

end RoundTrip

end Boo.Tmux.Layouts
