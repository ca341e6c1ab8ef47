/- module: Boo/Runtime/Brackets
   digest: The bracket motion of copy mode ends on the balanced partner of the first bracket. -/

import Boo.Lib.FirstFound
import Boo.Runtime.CopyMode

set_option autoImplicit false
set_option relaxedAutoImplicit false

namespace Boo.Runtime.Brackets

open Boo.Lib.FirstFound
open Boo.Runtime.CopyMode

/-- How many more opening than closing brackets of one kind there are. -/
def depth (opening closing : Char) (chars : List Char) : ℤ :=
  (chars.count opening : ℤ) - chars.count closing

/-- The bracket at a place of the line: its pair, and whether it opens. -/
def bracketAt (chars : List Char) (i : ℕ) : Option (Char × Char × Bool) := chars[i]?.bind bracketOf

/-- The first bracket of the line at or after a column. -/
structure FirstBracket (chars : List Char) (col pos : ℕ) (bracket : Char × Char × Bool) :
    Prop where
  after : col ≤ pos
  here : bracketAt chars pos = some bracket
  first : ∀ i, col ≤ i → i < pos → bracketAt chars i = none

/-- The places of the line that the scan from a bracket comes by. -/
def Ahead (chars : List Char) (pos : ℕ) (opens : Bool) (i : ℕ) : Prop :=
  if opens then pos ≤ i ∧ i < chars.length else i ≤ pos

/-- From the bracket up to a place ahead, the bracket and the place included. -/
def between (chars : List Char) (pos : ℕ) (opens : Bool) (i : ℕ) : List Char :=
  if opens then (chars.take (i + 1)).drop pos else (chars.take (pos + 1)).drop i

/-- The nesting depth of the bracket's kind at a place ahead; the bracket itself counts one. -/
def depthAt (chars : List Char) (pos : ℕ) (bracket : Char × Char × Bool) (i : ℕ) : ℤ :=
  if bracket.2.2 then depth bracket.1 bracket.2.1 (between chars pos true i)
  else depth bracket.2.1 bracket.1 (between chars pos false i)

/-- The scan comes by `j` before `i`. -/
def Sooner (opens : Bool) (j i : ℕ) : Prop := if opens then j < i else i < j

/-- The nearest place ahead of a bracket at which the depth of its kind is back at zero. -/
structure Partner (chars : List Char) (pos : ℕ) (bracket : Char × Char × Bool) (i : ℕ) :
    Prop where
  ahead : Ahead chars pos bracket.2.2 i
  closes : depthAt chars pos bracket i = 0
  nearest : ∀ j, Ahead chars pos bracket.2.2 j → Sooner bracket.2.2 j i →
    depthAt chars pos bracket j ≠ 0

/-- The balanced partner of the first bracket at or after a column. -/
def Matches (chars : List Char) (col i : ℕ) : Prop :=
  ∃ pos bracket, FirstBracket chars col pos bracket ∧ Partner chars pos bracket i

section Depth

variable (opening closing : Char)

theorem depth_cons (ch : Char) (chars : List Char) :
    depth opening closing (ch :: chars) = depth opening closing chars +
      ((if ch = opening then 1 else 0) - if ch = closing then 1 else 0) := by
  simp only [depth, List.count_cons, beq_iff_eq]
  split <;> split <;> push_cast <;> ring

theorem depth_reverse (chars : List Char) :
    depth opening closing chars.reverse = depth opening closing chars := by
  simp only [depth, List.count_reverse]

/-- One turn of the scan adds what the character adds to the depth. -/
theorem balancedAt_cons (held : ℤ) (ch : Char) (i : ℕ) (rest : List (Char × ℕ)) :
    balancedAt opening closing held ((ch, i) :: rest) =
      if held + depth opening closing [ch] = 0 then some i
      else balancedAt opening closing (held + depth opening closing [ch]) rest := by
  have turn : held + depth opening closing [ch] =
      (if ch = closing then (if ch = opening then held + 1 else held) - 1
        else if ch = opening then held + 1 else held) := by
    rw [depth_cons]
    simp only [depth, List.count_nil]
    split <;> split <;> push_cast <;> ring
  rw [turn]
  rfl

/-- The scan finds the first item of the list at which the depth is back at zero. -/
theorem balancedAt_eq_some_iff {held : ℤ} {indexed : List (Char × ℕ)} {i : ℕ} :
    balancedAt opening closing held indexed = some i ↔
      ∃ k : ℕ, (indexed[k]?).map Prod.snd = some i ∧
        held + depth opening closing ((indexed.take (k + 1)).map Prod.fst) = 0 ∧
        ∀ j < k, held + depth opening closing ((indexed.take (j + 1)).map Prod.fst) ≠ 0 := by
  have step : ∀ (ch : Char) (own : ℕ) (rest : List (Char × ℕ)) (held : ℤ) (k : ℕ),
      held + depth opening closing ((((ch, own) :: rest).take (k + 1)).map Prod.fst) =
        held + depth opening closing [ch] + depth opening closing ((rest.take k).map Prod.fst) := by
    intro ch own rest held k
    rw [List.take_succ_cons, List.map_cons, depth_cons, depth_cons]
    simp only [depth, List.count_nil]
    push_cast
    ring
  have nothing : depth opening closing [] = 0 := by simp [depth]
  induction indexed generalizing held with
  | nil => simp [balancedAt]
  | cons head rest ih =>
      obtain ⟨ch, own⟩ := head
      rw [balancedAt_cons]
      by_cases here : held + depth opening closing [ch] = 0
      · rw [if_pos here]
        constructor
        · rintro found
          refine ⟨0, found, ?_, fun j before => absurd before (Nat.not_lt_zero j)⟩
          rw [step, here, List.take_zero, List.map_nil, nothing, add_zero]
        · rintro ⟨k, found, -, first⟩
          cases k with
          | zero => exact found
          | succ k =>
              refine absurd ?_ (first 0 (Nat.succ_pos k))
              rw [step, here, List.take_zero, List.map_nil, nothing, add_zero]
      · rw [if_neg here]
        refine (@ih (held + depth opening closing [ch])).trans ?_
        constructor
        · rintro ⟨k, found, zero, first⟩
          refine ⟨k + 1, found, by rw [step]; exact zero, fun j before => ?_⟩
          rw [step]
          cases j with
          | zero =>
              rw [List.take_zero, List.map_nil, nothing, add_zero]
              exact here
          | succ j => exact first j (Nat.lt_of_succ_lt_succ before)
        · rintro ⟨k, found, zero, first⟩
          cases k with
          | zero =>
              rw [step, List.take_zero, List.map_nil, nothing, add_zero] at zero
              exact absurd zero here
          | succ k =>
              refine ⟨k, found, by rw [← step]; exact zero, fun j before => ?_⟩
              rw [← step]
              exact first (j + 1) (Nat.succ_lt_succ before)

end Depth

section Line

variable {chars : List Char} {col pos i : ℕ} {bracket : Char × Char × Bool}

private theorem getElem_snd_zipIdx (j : ℕ) :
    (chars.zipIdx[j]?).map Prod.snd = if j < chars.length then some j else none := by
  rw [List.getElem?_zipIdx, Option.map_map]
  split
  · rename_i inside
    simp [List.getElem?_eq_getElem inside]
  · rename_i outside
    simp [List.getElem?_eq_none (Nat.not_lt.mp outside)]

/-- The scan of the line from an opening bracket on. -/
theorem forward_eq_some_iff (opening closing : Char) :
    balancedAt opening closing 0 (chars.zipIdx.drop pos) = some i ↔
      Partner chars pos (opening, closing, true) i := by
  have place : ∀ k, ((chars.zipIdx.drop pos)[k]?).map Prod.snd =
      if pos + k < chars.length then some (pos + k) else none := by
    intro k
    rw [List.getElem?_drop]
    exact getElem_snd_zipIdx (pos + k)
  have deep : ∀ k, 0 + depth opening closing (((chars.zipIdx.drop pos).take (k + 1)).map Prod.fst) =
      depthAt chars pos (opening, closing, true) (pos + k) := by
    intro k
    have length : pos + k + 1 - pos = k + 1 := by omega
    rw [zero_add, List.map_take, List.map_drop, List.zipIdx_map_fst]
    simp only [depthAt, between, if_true, List.drop_take, length]
  rw [balancedAt_eq_some_iff]
  constructor
  · rintro ⟨k, found, zero, first⟩
    rw [place] at found
    split at found
    · rename_i inside
      obtain rfl := Option.some.inj found
      rw [deep] at zero
      refine ⟨⟨Nat.le_add_right pos k, inside⟩, zero, ?_⟩
      rintro j ⟨after, -⟩ before
      have earlier : j - pos < k := by
        have sooner : j < pos + k := before
        omega
      have there := first (j - pos) earlier
      rwa [deep, Nat.add_sub_cancel' after] at there
    · cases found
  · rintro ⟨⟨after, inside⟩, zero, nearest⟩
    obtain ⟨k, rfl⟩ := Nat.exists_eq_add_of_le after
    refine ⟨k, by rw [place, if_pos inside], by rw [deep]; exact zero, fun j before => ?_⟩
    rw [deep]
    refine nearest (pos + j) ⟨Nat.le_add_right pos j, ?_⟩ (Nat.add_lt_add_left before pos)
    exact Nat.lt_trans (Nat.add_lt_add_left before pos) inside

/-- The scan of the line back from a closing bracket. -/
theorem backward_eq_some_iff (opening closing : Char) (inside : pos < chars.length) :
    balancedAt closing opening 0 (chars.zipIdx.take (pos + 1)).reverse = some i ↔
      Partner chars pos (opening, closing, false) i := by
  have count : (chars.zipIdx.take (pos + 1)).length = pos + 1 := by
    rw [List.length_take, List.length_zipIdx]
    omega
  have place : ∀ k, (((chars.zipIdx.take (pos + 1)).reverse)[k]?).map Prod.snd =
      if k ≤ pos then some (pos - k) else none := by
    intro k
    split
    · rename_i near
      rw [List.getElem?_reverse (by omega), count, List.getElem?_take_of_lt (by omega),
        getElem_snd_zipIdx, if_pos (by omega)]
      congr 1
    · rename_i far
      rw [List.getElem?_eq_none (by rw [List.length_reverse, count]; omega)]
      rfl
  have deep : ∀ k ≤ pos,
      0 + depth closing opening
        (((chars.zipIdx.take (pos + 1)).reverse.take (k + 1)).map Prod.fst) =
      depthAt chars pos (opening, closing, false) (pos - k) := by
    intro k near
    have dropped : pos + 1 - (k + 1) = pos - k := by omega
    rw [zero_add, List.take_reverse, List.map_reverse, depth_reverse, count, List.map_drop,
      List.map_take, List.zipIdx_map_fst, dropped]
    simp [depthAt, between]
  rw [balancedAt_eq_some_iff]
  constructor
  · rintro ⟨k, found, zero, first⟩
    rw [place] at found
    split at found
    · rename_i near
      obtain rfl := Option.some.inj found
      rw [deep k near] at zero
      refine ⟨Nat.sub_le pos k, zero, ?_⟩
      intro j back before
      have back : j ≤ pos := back
      have earlier : pos - j < k := by
        have sooner : pos - k < j := before
        omega
      have there := first (pos - j) earlier
      rwa [deep _ (Nat.sub_le pos j), Nat.sub_sub_self back] at there
    · cases found
  · rintro ⟨back, zero, nearest⟩
    have back : i ≤ pos := back
    refine ⟨pos - i, ?_, ?_, fun j before => ?_⟩
    · rw [place, if_pos (Nat.sub_le pos i), Nat.sub_sub_self back]
    · rw [deep _ (Nat.sub_le pos i), Nat.sub_sub_self back]
      exact zero
    · rw [deep j (by omega)]
      refine nearest (pos - j) (Nat.sub_le pos j) ?_
      show i < pos - j
      omega

/-- The outer loop stops at the first bracket from the column on. -/
theorem findBracket_eq_some_iff :
    ((chars.zipIdx.drop col).findSome? fun (ch, i) => (bracketOf ch).map (i, ·)) =
      some (pos, bracket) ↔ FirstBracket chars col pos bracket := by
  have place : ∀ k, ((chars.zipIdx.drop col)[k]?.bind fun (ch, i) => (bracketOf ch).map (i, ·)) =
      (bracketAt chars (col + k)).map (col + k, ·) := by
    intro k
    rw [List.getElem?_drop, List.getElem?_zipIdx, bracketAt]
    cases chars[col + k]? with
    | none => rfl
    | some ch => simp
  rw [findSome?_eq_some_iff_position]
  constructor
  · rintro ⟨k, found, first⟩
    rw [place, Option.map_eq_some_iff] at found
    obtain ⟨own, here, same⟩ := found
    obtain ⟨rfl, rfl⟩ := Prod.mk.inj same
    refine ⟨Nat.le_add_right col k, here, fun i after before => ?_⟩
    obtain ⟨j, rfl⟩ := Nat.exists_eq_add_of_le after
    have none := first j (Nat.lt_of_add_lt_add_left before)
    rwa [place, Option.map_eq_none_iff] at none
  · rintro ⟨after, here, first⟩
    obtain ⟨k, rfl⟩ := Nat.exists_eq_add_of_le after
    refine ⟨k, by rw [place, here]; rfl, fun j before => ?_⟩
    rw [place, first (col + j) (Nat.le_add_right col j) (Nat.add_lt_add_left before col)]
    rfl

theorem FirstBracket.inside (first : FirstBracket chars col pos bracket) : pos < chars.length := by
  by_contra outside
  have here := first.here
  rw [bracketAt, List.getElem?_eq_none (Nat.not_lt.mp outside)] at here
  cases here

/-- The column the motion goes to is that of the balanced partner. -/
theorem matchingColumn_eq_some_iff : matchingColumn chars col = some i ↔ Matches chars col i := by
  have scan : ∀ pos bracket, FirstBracket chars col pos bracket →
      ((if bracket.2.2 then balancedAt bracket.1 bracket.2.1 0 (chars.zipIdx.drop pos)
        else balancedAt bracket.2.1 bracket.1 0 (chars.zipIdx.take (pos + 1)).reverse) = some i ↔
        Partner chars pos bracket i) := by
    rintro pos ⟨opening, closing, opens⟩ first
    cases opens with
    | true => exact forward_eq_some_iff opening closing
    | false => exact backward_eq_some_iff opening closing first.inside
  rw [matchingColumn, Option.bind_eq_some_iff]
  constructor
  · rintro ⟨⟨pos, bracket⟩, found, closes⟩
    have first := findBracket_eq_some_iff.mp found
    exact ⟨pos, bracket, first, (scan pos bracket first).mp closes⟩
  · rintro ⟨pos, bracket, first, partner⟩
    exact ⟨(pos, bracket), findBracket_eq_some_iff.mpr first, (scan pos bracket first).mpr partner⟩

end Line

/-- The brackets are these six characters, three pairs. -/
theorem bracketOf_eq_some_iff {ch : Char} {bracket : Char × Char × Bool} :
    bracketOf ch = some bracket ↔ (ch, bracket) ∈
      [('(', '(', ')', true), (')', '(', ')', false), ('[', '[', ']', true), (']', '[', ']', false),
        (Char.ofNat 123, Char.ofNat 123, Char.ofNat 125, true),
        (Char.ofNat 125, Char.ofNat 123, Char.ofNat 125, false)] := by
  constructor
  · intro found
    obtain ⟨⟨opening, closing⟩, member, held⟩ := List.exists_of_findSome?_eq_some found
    dsimp only at held
    split at held
    · rename_i same
      obtain rfl := Option.some.inj held
      simp only [brackets, List.mem_cons, List.not_mem_nil, or_false, Prod.mk.injEq] at member
      rcases member with ⟨rfl, rfl⟩ | ⟨rfl, rfl⟩ | ⟨rfl, rfl⟩ <;> simp [same]
    · split at held
      · rename_i same
        obtain rfl := Option.some.inj held
        simp only [brackets, List.mem_cons, List.not_mem_nil, or_false, Prod.mk.injEq] at member
        rcases member with ⟨rfl, rfl⟩ | ⟨rfl, rfl⟩ | ⟨rfl, rfl⟩ <;> simp [same]
      · cases held
  · intro member
    simp only [List.mem_cons, List.not_mem_nil, or_false, Prod.mk.injEq] at member
    rcases member with ⟨rfl, rfl⟩ | ⟨rfl, rfl⟩ | ⟨rfl, rfl⟩ | ⟨rfl, rfl⟩ | ⟨rfl, rfl⟩ |
      ⟨rfl, rfl⟩ <;> rfl

/-- The motion goes to the balanced partner of the first bracket from the cursor on, and leaves
everything as it is where the line has no such bracket or the bracket no such partner. -/
theorem copyModeMatchingBracket_spec {Style : Type} (view : PaneView Style) (cm : CopyModeState) :
    (∀ line, readViewportLineForCursor view cm = some line → ∀ i, Matches line cm.cursor.col i →
      copyModeMatchingBracket view cm = cm.atCol i) ∧
    ((∀ line, readViewportLineForCursor view cm = some line → ∀ i, ¬ Matches line cm.cursor.col i) →
      copyModeMatchingBracket view cm = cm) ∧
    ∀ ch bracket, bracketOf ch = some bracket ↔ (ch, bracket) ∈
      [('(', '(', ')', true), (')', '(', ')', false), ('[', '[', ']', true), (']', '[', ']', false),
        (Char.ofNat 123, Char.ofNat 123, Char.ofNat 125, true),
        (Char.ofNat 125, Char.ofNat 123, Char.ofNat 125, false)] := by
  rw [copyModeMatchingBracket]
  cases read : readViewportLineForCursor view cm with
  | none =>
      exact ⟨(fun line held => by cases held), fun _ => rfl, fun _ _ => bracketOf_eq_some_iff⟩
  | some line =>
      dsimp only
      refine ⟨?_, ?_, fun _ _ => bracketOf_eq_some_iff⟩
      · rintro own held i partner
        obtain rfl := Option.some.inj held
        rw [matchingColumn_eq_some_iff.mpr partner, Option.getD_some]
      · intro missing
        have none : matchingColumn line cm.cursor.col = none := by
          rw [Option.eq_none_iff_forall_ne_some]
          exact fun i found => missing line rfl i (matchingColumn_eq_some_iff.mp found)
        rw [none]
        rfl

/-- A screen with the one line `(a)`. -/
def bracketView : PaneView Unit where
  scrollbar := ⟨1, 0, 1⟩
  snapshot := some
    { cols := 3
      rows := 1
      title := ""
      pwd := ""
      cursor := ⟨true, false, 0, 0, ()⟩
      rowsData := [[{ text := "(" }, { text := "a" }, { text := ")" }]]
      rowRevisions := [1]
      colors := ⟨⟨0, 0, 0⟩, ⟨0, 0, 0⟩, ⟨0, 0, 0⟩, false⟩ }

def cursorAt (col : ℕ) : CopyModeState := { cursor := ⟨0, col⟩, viewportRows := 1, viewportCols := 3 }

/-- From the opening bracket to the closing one, and from the letter back. -/
theorem copyModeMatchingBracket_spec_pair :
    copyModeMatchingBracket bracketView (cursorAt 0) = cursorAt 2 ∧
      copyModeMatchingBracket bracketView (cursorAt 1) = cursorAt 0 := by
  have line (col : ℕ) :
      readViewportLineForCursor bracketView (cursorAt col) = some ['(', 'a', ')'] := by
    rfl
  exact ⟨(copyModeMatchingBracket_spec bracketView (cursorAt 0)).1 _ (line 0) 2
      (matchingColumn_eq_some_iff.mp (by decide)),
    (copyModeMatchingBracket_spec bracketView (cursorAt 1)).1 _ (line 1) 0
      (matchingColumn_eq_some_iff.mp (by decide))⟩

end Boo.Runtime.Brackets
