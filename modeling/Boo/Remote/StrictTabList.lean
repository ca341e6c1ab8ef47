/- module: Boo/Remote/StrictTabList
   digest: The tab list decoder of the direct client, which takes nothing else. -/

import Boo.Remote.TabList

set_option autoImplicit false
set_option relaxedAutoImplicit false

namespace Boo.Remote.StrictTabList

open Boo.Lib.LittleEndian
open Boo.Remote.ReadLoop
open Boo.Remote.Texts
open Boo.Remote.TabList

/-! The readers take the payload from their offset on and return it from the next one on. -/

def readU32 (rest : List UInt8) : Except String (UInt32 × List UInt8) :=
  if rest.length < 4 then .error "payload truncated" else .ok (u32At rest 0, rest.drop 4)

def readU16 (rest : List UInt8) : Except String (UInt16 × List UInt8) :=
  if rest.length < 2 then .error "payload truncated" else .ok (u16At rest 0, rest.drop 2)

def readText (rest : List UInt8) : Except String (String × List UInt8) := do
  let (len, rest) ← readU16 rest
  if rest.length < len.toNat then .error "payload truncated"
  else
    match fromUtf8 (rest.take len.toNat) with
    | none => .error "invalid utf-8"
    | some value => .ok (value, rest.drop len.toNat)

def readFlags : List UInt8 → Except String (UInt8 × List UInt8)
  | [] => .error "payload truncated"
  | flags :: rest => .ok (flags, rest)

def readTab (rest : List UInt8) : Except String (RemoteTabInfo × List UInt8) := do
  let (id, rest) ← readU32 rest
  let (name, rest) ← readText rest
  let (title, rest) ← readText rest
  let (pwd, rest) ← readText rest
  let (flags, rest) ← readFlags rest
  .ok ({
    id, name, title, pwd
    active := flags &&& 0x01 != 0
    childExited := flags &&& 0x02 != 0 }, rest)

def readTabs : Nat → List UInt8 → Except String (List RemoteTabInfo × List UInt8)
  | 0, rest => .ok ([], rest)
  | count + 1, rest => do
      let (tab, rest) ← readTab rest
      let (tabs, rest) ← readTabs count rest
      .ok (tab :: tabs, rest)

def decodeTabListPayload (payload : List UInt8) : Except String (List RemoteTabInfo) :=
  if payload.length < 4 then .error "payload too short"
  else do
    let (tabs, rest) ← readTabs (u32At payload 0).toNat (payload.drop 4)
    if rest ≠ [] then .error "payload has trailing bytes" else .ok tabs

/-- The entry of a tab under other flags: only the two lowest are read. -/
structure WireTab where
  id : UInt32
  name : String
  title : String
  pwd : String
  flags : UInt8
  deriving DecidableEq

namespace WireTab

def bytes (tab : WireTab) : List UInt8 :=
  leU32 tab.id ++
    (pushString tab.name ++ (pushString tab.title ++ (pushString tab.pwd ++ [tab.flags])))

def info (tab : WireTab) : RemoteTabInfo where
  id := tab.id
  name := tab.name
  title := tab.title
  pwd := tab.pwd
  active := tab.flags &&& 0x01 != 0
  childExited := tab.flags &&& 0x02 != 0

structure Fits (tab : WireTab) : Prop where
  name : (textBytes tab.name).length ≤ maxTextLen
  title : (textBytes tab.title).length ≤ maxTextLen
  pwd : (textBytes tab.pwd).length ≤ maxTextLen

end WireTab

section Readers

variable {rest later : List UInt8} {R S : Type}

theorem bind_eq_ok {first : Except String R} {next : R → Except String S} {result : S} :
    (first >>= next) = .ok result ↔ ∃ value, first = .ok value ∧ next value = .ok result := by
  cases first with
  | error text => exact ⟨fun same => (by cases same), fun ⟨_, same, _⟩ => (by cases same)⟩
  | ok value =>
      constructor
      · exact fun same => ⟨value, rfl, same⟩
      · rintro ⟨other, same, found⟩
        cases same
        exact found

theorem readU32_iff {value : UInt32} :
    readU32 rest = .ok (value, later) ↔ rest = leU32 value ++ later := by
  rw [readU32]
  constructor
  · intro read
    split at read
    · cases read
    · rename_i long
      cases read
      have width : (slice rest 0 4).length = 4 := by
        rw [slice, List.length_take, List.drop_zero]
        omega
      have small : leNat (slice rest 0 4) < UInt32.size := by
        have bound := leNat_lt (slice rest 0 4)
        rwa [width] at bound
      have bytes : leU32 (u32At rest 0) = slice rest 0 4 := by
        rw [leU32, u32At, UInt32.toNat_ofNat_of_lt' small]
        nth_rewrite 1 [← width]
        exact leBytes_leNat _
      rw [bytes, slice, List.drop_zero, List.take_append_drop]
  · rintro rfl
    have whole : Rest (leU32 value ++ later) 0 (leU32 value ++ later) := rest_zero _
    have behind : (leU32 value ++ later).drop 4 = later := List.drop_left' (length_leU32 value)
    have long : ¬(leU32 value ++ later).length < 4 := by
      rw [List.length_append, length_leU32]
      omega
    rw [if_neg long, u32At_rest whole, behind]

theorem readU16_iff {value : UInt16} :
    readU16 rest = .ok (value, later) ↔ rest = leU16 value ++ later := by
  rw [readU16]
  constructor
  · intro read
    split at read
    · cases read
    · rename_i long
      cases read
      have width : (slice rest 0 2).length = 2 := by
        rw [slice, List.length_take, List.drop_zero]
        omega
      have small : leNat (slice rest 0 2) < UInt16.size := by
        have bound := leNat_lt (slice rest 0 2)
        rwa [width] at bound
      have bytes : leU16 (u16At rest 0) = slice rest 0 2 := by
        rw [leU16, u16At, UInt16.toNat_ofNat_of_lt' small]
        nth_rewrite 1 [← width]
        exact leBytes_leNat _
      rw [bytes, slice, List.drop_zero, List.take_append_drop]
  · rintro rfl
    have whole : Rest (leU16 value ++ later) 0 (leU16 value ++ later) := rest_zero _
    have behind : (leU16 value ++ later).drop 2 = later := List.drop_left' (length_leU16 value)
    have long : ¬(leU16 value ++ later).length < 2 := by
      rw [List.length_append, length_leU16]
      omega
    rw [if_neg long, u16At_rest whole, behind]

/-- Only what `pushString` writes of a text that fits is read, and as that text. -/
theorem readText_iff {text : String} :
    readText rest = .ok (text, later) ↔
      (textBytes text).length ≤ maxTextLen ∧ rest = pushString text ++ later := by
  rw [readText, bind_eq_ok]
  constructor
  · rintro ⟨⟨len, body⟩, first, second⟩
    rw [readU16_iff] at first
    dsimp only at second
    split at second
    · cases second
    · rename_i long
      split at second
      · cases second
      · rename_i decoded
        cases second
        have bytes : textBytes text = body.take len.toNat := by
          rw [textBytes, show text.toUTF8 = ⟨(body.take len.toNat).toArray⟩ from
            toByteArray_of_fromUtf8 decoded]
        have length : (textBytes text).length = len.toNat := by
          rw [bytes, List.length_take]
          omega
        have small := len.toNat_lt
        have fits : (textBytes text).length ≤ maxTextLen := by
          rw [length, maxTextLen]
          omega
        refine ⟨fits, ?_⟩
        rw [first, pushString, cutBytes, Nat.min_eq_left fits, List.take_of_length_le fits, length,
          UInt16.ofNat_toNat, bytes, List.append_assoc, List.take_append_drop]
  · rintro ⟨fits, rfl⟩
    have small : (textBytes text).length < 2 ^ 16 := by
      rw [maxTextLen] at fits
      omega
    have len : (UInt16.ofNat (textBytes text).length).toNat = (textBytes text).length := by
      rw [UInt16.toNat_ofNat', Nat.mod_eq_of_lt small]
    refine ⟨(UInt16.ofNat (textBytes text).length, textBytes text ++ later), ?_, ?_⟩
    · rw [readU16_iff, pushString, cutBytes, Nat.min_eq_left fits, List.take_of_length_le fits,
        List.append_assoc]
    · dsimp only
      rw [len, if_neg (by simp), List.take_left, fromUtf8_textBytes, List.drop_left]

theorem readFlags_iff {flags : UInt8} :
    readFlags rest = .ok (flags, later) ↔ rest = flags :: later := by
  cases rest with
  | nil => exact ⟨fun same => (by cases same), fun same => (by cases same)⟩
  | cons byte rest => simp [readFlags]

theorem readTab_iff {info : RemoteTabInfo} :
    readTab rest = .ok (info, later) ↔
      ∃ tab : WireTab, tab.Fits ∧ tab.info = info ∧ rest = tab.bytes ++ later := by
  rw [readTab, bind_eq_ok]
  constructor
  · rintro ⟨⟨id, afterId⟩, idRead, next⟩
    obtain ⟨⟨name, afterName⟩, nameRead, next⟩ := bind_eq_ok.mp next
    obtain ⟨⟨title, afterTitle⟩, titleRead, next⟩ := bind_eq_ok.mp next
    obtain ⟨⟨pwd, afterPwd⟩, pwdRead, next⟩ := bind_eq_ok.mp next
    obtain ⟨⟨flags, afterFlags⟩, flagsRead, next⟩ := bind_eq_ok.mp next
    obtain ⟨nameFits, nameBytes⟩ := readText_iff.mp nameRead
    obtain ⟨titleFits, titleBytes⟩ := readText_iff.mp titleRead
    obtain ⟨pwdFits, pwdBytes⟩ := readText_iff.mp pwdRead
    dsimp only at nameBytes titleBytes pwdBytes flagsRead next
    cases next
    refine ⟨⟨id, name, title, pwd, flags⟩, ⟨nameFits, titleFits, pwdFits⟩, rfl, ?_⟩
    rw [readU32_iff.mp idRead, nameBytes, titleBytes, pwdBytes, readFlags_iff.mp flagsRead]
    simp [WireTab.bytes]
  · rintro ⟨tab, fits, rfl, rfl⟩
    refine ⟨(tab.id, _), readU32_iff.mpr (List.append_assoc _ _ _), ?_⟩
    refine bind_eq_ok.mpr ⟨(tab.name, _),
      readText_iff.mpr ⟨fits.name, List.append_assoc _ _ _⟩, ?_⟩
    refine bind_eq_ok.mpr ⟨(tab.title, _),
      readText_iff.mpr ⟨fits.title, List.append_assoc _ _ _⟩, ?_⟩
    refine bind_eq_ok.mpr ⟨(tab.pwd, _),
      readText_iff.mpr ⟨fits.pwd, List.append_assoc _ _ _⟩, ?_⟩
    exact bind_eq_ok.mpr ⟨(tab.flags, _), readFlags_iff.mpr rfl, rfl⟩

theorem readTabs_iff {count : Nat} {tabs : List RemoteTabInfo} :
    readTabs count rest = .ok (tabs, later) ↔
      ∃ wire : List WireTab, wire.length = count ∧ (∀ tab ∈ wire, tab.Fits) ∧
        wire.map WireTab.info = tabs ∧ rest = wire.flatMap WireTab.bytes ++ later := by
  induction count generalizing rest tabs with
  | zero =>
      rw [readTabs]
      constructor
      · intro same
        cases same
        exact ⟨[], rfl, by simp, rfl, rfl⟩
      · rintro ⟨wire, none, -, rfl, rfl⟩
        rw [List.length_eq_zero_iff.mp none]
        rfl
  | succ count ih =>
      rw [readTabs, bind_eq_ok]
      constructor
      · rintro ⟨⟨info, afterTab⟩, first, next⟩
        obtain ⟨⟨others, afterTabs⟩, more, next⟩ := bind_eq_ok.mp next
        obtain ⟨tab, fits, rfl, bytes⟩ := readTab_iff.mp first
        cases next
        obtain ⟨wire, length, allFit, rfl, moreBytes⟩ := ih.mp more
        refine ⟨tab :: wire, by rw [List.length_cons, length], ?_, rfl, ?_⟩
        · intro other member
          rcases List.mem_cons.mp member with rfl | member
          · exact fits
          · exact allFit other member
        · rw [bytes, moreBytes, List.flatMap_cons, List.append_assoc]
      · rintro ⟨wire, length, allFit, rfl, rfl⟩
        cases wire with
        | nil => cases length
        | cons tab wire =>
            refine ⟨(tab.info, wire.flatMap WireTab.bytes ++ later), readTab_iff.mpr
              ⟨tab, allFit tab List.mem_cons_self, rfl, ?_⟩, ?_⟩
            · rw [List.flatMap_cons, List.append_assoc]
            · refine bind_eq_ok.mpr ⟨(wire.map WireTab.info, later), ih.mpr
                ⟨wire, Nat.succ.inj length, fun other member => ?_, rfl, rfl⟩, rfl⟩
              exact allFit other (List.mem_cons_of_mem _ member)

end Readers

theorem decodeTabListPayload_bytes {wire : List WireTab} (small : wire.length < 2 ^ 32)
    (fits : ∀ tab ∈ wire, tab.Fits) :
    decodeTabListPayload (leU32 (UInt32.ofNat wire.length) ++ wire.flatMap WireTab.bytes) =
      .ok (wire.map WireTab.info) := by
  have whole : Rest (leU32 (UInt32.ofNat wire.length) ++ wire.flatMap WireTab.bytes) 0
      (leU32 (UInt32.ofNat wire.length) ++ wire.flatMap WireTab.bytes) := rest_zero _
  have count : (u32At (leU32 (UInt32.ofNat wire.length) ++ wire.flatMap WireTab.bytes)
      0).toNat = wire.length := by
    rw [u32At_rest whole, UInt32.toNat_ofNat_of_lt' small]
  have behind : (leU32 (UInt32.ofNat wire.length) ++ wire.flatMap WireTab.bytes).drop 4 =
      wire.flatMap WireTab.bytes := List.drop_left' (length_leU32 _)
  have long : ¬(leU32 (UInt32.ofNat wire.length) ++ wire.flatMap WireTab.bytes).length < 4 := by
    rw [List.length_append, length_leU32]
    omega
  rw [decodeTabListPayload, if_neg long, count, behind]
  refine bind_eq_ok.mpr ⟨(wire.map WireTab.info, []), readTabs_iff.mpr
    ⟨wire, rfl, fits, rfl, (List.append_nil _).symm⟩, ?_⟩
  rfl

/-- The direct client accepts exactly the payloads that count and list entries of tabs and end
there, and returns these tabs: nothing is cut, skipped or left over. -/
theorem decodeTabListPayload_iff (payload : List UInt8) (tabs : List RemoteTabInfo) :
    decodeTabListPayload payload = .ok tabs ↔
      ∃ wire : List WireTab, wire.length < 2 ^ 32 ∧ (∀ tab ∈ wire, tab.Fits) ∧
        wire.map WireTab.info = tabs ∧
          payload = leU32 (UInt32.ofNat wire.length) ++ wire.flatMap WireTab.bytes := by
  constructor
  · intro decoded
    rw [decodeTabListPayload] at decoded
    split at decoded
    · cases decoded
    · rename_i long
      obtain ⟨⟨found, left⟩, read, ended⟩ := bind_eq_ok.mp decoded
      dsimp only at ended
      split at ended
      · cases ended
      · rename_i nothing
        cases ended
        obtain ⟨wire, length, fits, infos, bytes⟩ := readTabs_iff.mp read
        rw [not_not.mp nothing, List.append_nil] at bytes
        have front : readU32 payload = .ok (u32At payload 0, payload.drop 4) := if_neg long
        refine ⟨wire, length ▸ (u32At payload 0).toNat_lt, fits, infos, ?_⟩
        rw [length, UInt32.ofNat_toNat, ← bytes]
        exact readU32_iff.mp front
  · rintro ⟨wire, small, fits, rfl, rfl⟩
    exact decodeTabListPayload_bytes small fits

end Boo.Remote.StrictTabList
