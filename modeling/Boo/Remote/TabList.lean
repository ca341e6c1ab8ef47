/- module: Boo/Remote/TabList
   digest: The tab list payload, its Rust and Swift decoders, and which texts survive it. -/

import Boo.Remote.Texts
import Mathlib.Data.List.Forall2

set_option autoImplicit false
set_option relaxedAutoImplicit false

namespace Boo.Remote.TabList

open Boo.Lib.LittleEndian
open Boo.Remote.ReadLoop (fromUtf8)
open Boo.Remote.Texts

/-- An entry of the list with the id as wide as on the wire. -/
structure RemoteTabInfo where
  id : UInt32
  name : String
  title : String
  pwd : String
  active : Bool
  childExited : Bool
  deriving DecidableEq, Repr

structure DecodedWireTabInfo where
  id : UInt32
  name : String
  title : String
  pwd : String
  active : Bool
  childExited : Bool
  deriving DecidableEq, Repr

/-! remote_wire.rs -/

/-- `u16::MAX`. -/
def maxTextLen : Nat := 65535

/-- The bytes of a text that fit, cut wherever the limit falls. -/
def cutBytes (text : String) : List UInt8 := (textBytes text).take maxTextLen

def pushString (text : String) : List UInt8 :=
  leU16 (UInt16.ofNat (min (textBytes text).length maxTextLen)) ++ cutBytes text

def tabFlags (active childExited : Bool) : UInt8 :=
  (if active then 0x01 else 0) ||| (if childExited then 0x02 else 0)

def encodeTab (tab : RemoteTabInfo) : List UInt8 :=
  leU32 tab.id ++ (pushString tab.name ++ (pushString tab.title ++
    (pushString tab.pwd ++ [tabFlags tab.active tab.childExited])))

def encodeTabList (tabs : List RemoteTabInfo) : List UInt8 :=
  leU32 (UInt32.ofNat tabs.length) ++ tabs.flatMap encodeTab

/-! client_gui.rs -/

/-- The text at `offset` and the offset behind it. -/
def decodeRemoteString (payload : List UInt8) (offset : Nat) : Option (String × Nat) :=
  if payload.length < offset + 2 then none
  else
    let len := (u16At payload offset).toNat
    if payload.length < offset + 2 + len then none
    else (fromUtf8 (slice payload (offset + 2) len)).map fun value => (value, offset + 2 + len)

def decodeRemoteTab (payload : List UInt8) (offset : Nat) : Option (RemoteTabInfo × Nat) :=
  if payload.length < offset + 4 then none
  else do
    let id := u32At payload offset
    let (name, offset) ← decodeRemoteString payload (offset + 4)
    let (title, offset) ← decodeRemoteString payload offset
    let (pwd, offset) ← decodeRemoteString payload offset
    if payload.length ≤ offset then none
    else
      let flags := u8At payload offset
      some ({
        id, name, title, pwd
        active := flags &&& 0x01 != 0
        childExited := flags &&& 0x02 != 0 }, offset + 1)

def decodeRemoteTabs (payload : List UInt8) : Nat → Nat → Option (List RemoteTabInfo)
  | 0, _ => some []
  | count + 1, offset => do
      let (tab, offset) ← decodeRemoteTab payload offset
      let tabs ← decodeRemoteTabs payload count offset
      some (tab :: tabs)

def decodeRemoteTabList (payload : List UInt8) : Option (List RemoteTabInfo) :=
  if payload.length < 4 then none
  else decodeRemoteTabs payload (u32At payload 0).toNat 4

/-! WireCodec.swift -/

/-- The closure `readString`: a text that cannot be read is blank. -/
def readString (data : List UInt8) (offset : Nat) : String × Nat :=
  if ¬ offset + 2 ≤ data.length then ("", offset)
  else
    let len := (u16At data offset).toNat
    if ¬ offset + 2 + len ≤ data.length then ("", offset + 2)
    else ((fromUtf8 (slice data (offset + 2) len)).getD "", offset + 2 + len)

/-- The loop of `decodeTabList`; a short payload ends it with the tabs read so far. -/
def decodeTabs (data : List UInt8) : Nat → Nat → List DecodedWireTabInfo
  | 0, _ => []
  | count + 1, offset =>
      if ¬ offset + 4 ≤ data.length then []
      else
        let id := u32At data offset
        let (name, offset) := readString data (offset + 4)
        let (title, offset) := readString data offset
        let (pwd, offset) := readString data offset
        if ¬ offset < data.length then []
        else
          let flags := u8At data offset
          { id, name, title, pwd
            active := flags &&& 0x01 != 0
            childExited := flags &&& 0x02 != 0 } :: decodeTabs data count (offset + 1)

def decodeTabList (data : List UInt8) : List DecodedWireTabInfo :=
  if ¬ 4 ≤ data.length then [] else decodeTabs data (u32At data 0).toNat 4

section Texts

variable {data rest : List UInt8} {offset : Nat} {text : String}

theorem length_cutBytes (text : String) :
    (cutBytes text).length = min (textBytes text).length maxTextLen := by
  rw [cutBytes, List.length_take, Nat.min_comm]

theorem length_pushString (text : String) :
    (pushString text).length = 2 + (cutBytes text).length := by
  rw [pushString, List.length_append, length_leU16]

/-- Both decoders find the bytes of the text that were kept. -/
theorem pushString_read (h : Rest data offset (pushString text ++ rest)) :
    (u16At data offset).toNat = (cutBytes text).length ∧
      slice data (offset + 2) (cutBytes text).length = cutBytes text ∧
      offset + 2 + (cutBytes text).length ≤ data.length ∧
      Rest data (offset + 2 + (cutBytes text).length) rest := by
  rw [pushString, List.append_assoc] at h
  have small : min (textBytes text).length maxTextLen < 2 ^ 16 := by
    rw [maxTextLen]
    omega
  have behind := h.skip
  rw [length_leU16] at behind
  refine ⟨?_, behind.slice_eq rfl, behind.bound rfl, behind.skip⟩
  rw [u16At_rest h, UInt16.toNat_ofNat', Nat.mod_eq_of_lt small, length_cutBytes]

theorem decodeRemoteString_pushString (h : Rest data offset (pushString text ++ rest)) :
    decodeRemoteString data offset = (fromUtf8 (cutBytes text)).map fun value =>
      (value, offset + 2 + (cutBytes text).length) := by
  obtain ⟨len, bytes, bound, -⟩ := pushString_read h
  rw [decodeRemoteString, if_neg (by omega)]
  dsimp only
  rw [len, if_neg (by omega), bytes]

theorem readString_pushString (h : Rest data offset (pushString text ++ rest)) :
    readString data offset =
      ((fromUtf8 (cutBytes text)).getD "", offset + 2 + (cutBytes text).length) := by
  obtain ⟨len, bytes, bound, -⟩ := pushString_read h
  rw [readString, if_neg (by omega)]
  dsimp only
  rw [len, if_neg (by omega), bytes]

end Texts

section Tabs

variable {data rest : List UInt8} {offset : Nat}

/-- What the bytes of a tab decode to when every text that was kept is a text. -/
def cutTab (tab : RemoteTabInfo) : Option RemoteTabInfo := do
  let name ← fromUtf8 (cutBytes tab.name)
  let title ← fromUtf8 (cutBytes tab.title)
  let pwd ← fromUtf8 (cutBytes tab.pwd)
  some { tab with name, title, pwd }

def blankedTab (tab : RemoteTabInfo) : DecodedWireTabInfo where
  id := tab.id
  name := (fromUtf8 (cutBytes tab.name)).getD ""
  title := (fromUtf8 (cutBytes tab.title)).getD ""
  pwd := (fromUtf8 (cutBytes tab.pwd)).getD ""
  active := tab.active
  childExited := tab.childExited

theorem tabFlags_active (active childExited : Bool) :
    (tabFlags active childExited &&& 0x01 != 0) = active := by
  cases active <;> cases childExited <;> rfl

theorem tabFlags_childExited (active childExited : Bool) :
    (tabFlags active childExited &&& 0x02 != 0) = childExited := by
  cases active <;> cases childExited <;> rfl

theorem length_encodeTab (tab : RemoteTabInfo) : (encodeTab tab).length =
    4 + (2 + (cutBytes tab.name).length) + (2 + (cutBytes tab.title).length) +
      (2 + (cutBytes tab.pwd).length) + 1 := by
  simp only [encodeTab, List.length_append, length_leU32, length_pushString, List.length_singleton]
  omega

/-- Where the parts of an encoded tab start. -/
structure TabAt (data : List UInt8) (offset : Nat) (tab : RemoteTabInfo) (rest : List UInt8) :
    Prop where
  id : u32At data offset = tab.id
  bound : offset + 4 ≤ data.length
  name : ∃ rest, Rest data (offset + 4) (pushString tab.name ++ rest)
  title : ∃ rest, Rest data (offset + 4 + 2 + (cutBytes tab.name).length)
    (pushString tab.title ++ rest)
  pwd : ∃ rest, Rest data (offset + 4 + 2 + (cutBytes tab.name).length + 2 +
    (cutBytes tab.title).length) (pushString tab.pwd ++ rest)
  flags : Rest data (offset + 4 + 2 + (cutBytes tab.name).length + 2 +
    (cutBytes tab.title).length + 2 + (cutBytes tab.pwd).length)
      (tabFlags tab.active tab.childExited :: rest)

theorem tabAt_encodeTab {tab : RemoteTabInfo} (h : Rest data offset (encodeTab tab ++ rest)) :
    TabAt data offset tab rest := by
  simp only [encodeTab, List.append_assoc] at h
  have name := h.skip
  rw [length_leU32] at name
  obtain ⟨-, -, -, title⟩ := pushString_read name
  obtain ⟨-, -, -, pwd⟩ := pushString_read title
  obtain ⟨-, -, -, flags⟩ := pushString_read pwd
  exact ⟨u32At_rest h, h.bound (length_leU32 _), ⟨_, name⟩, ⟨_, title⟩, ⟨_, pwd⟩, flags⟩

theorem decodeRemoteTab_encodeTab {tab : RemoteTabInfo}
    (h : Rest data offset (encodeTab tab ++ rest)) :
    decodeRemoteTab data offset =
      (cutTab tab).map fun decoded => (decoded, offset + (encodeTab tab).length) := by
  obtain ⟨id, bound, ⟨_, name⟩, ⟨_, title⟩, ⟨_, pwd⟩, flags⟩ := tabAt_encodeTab h
  have inside := flags.length_eq
  rw [List.length_cons] at inside
  rw [decodeRemoteTab, if_neg (by omega), decodeRemoteString_pushString name, cutTab]
  cases fromUtf8 (cutBytes tab.name) with
  | none => rfl
  | some nameText =>
      simp only [Option.map_some, Option.bind_eq_bind, Option.bind_some]
      rw [decodeRemoteString_pushString title]
      cases fromUtf8 (cutBytes tab.title) with
      | none => rfl
      | some titleText =>
          simp only [Option.map_some, Option.bind_some]
          rw [decodeRemoteString_pushString pwd]
          cases fromUtf8 (cutBytes tab.pwd) with
          | none => rfl
          | some pwdText =>
              simp only [Option.map_some, Option.bind_some]
              rw [if_neg (by omega), u8At_rest flags, tabFlags_active, tabFlags_childExited, id,
                length_encodeTab]
              congr 2
              omega

theorem decodeRemoteTabs_encode (tabs : List RemoteTabInfo)
    (h : Rest data offset (tabs.flatMap encodeTab ++ rest)) :
    decodeRemoteTabs data tabs.length offset = tabs.mapM cutTab := by
  induction tabs generalizing offset with
  | nil => rfl
  | cons tab tabs ih =>
      rw [List.flatMap_cons, List.append_assoc] at h
      rw [List.length_cons, decodeRemoteTabs, decodeRemoteTab_encodeTab h, List.mapM_cons]
      cases cutTab tab with
      | none => rfl
      | some decoded =>
          simp only [Option.map_some, Option.bind_eq_bind, Option.bind_some]
          rw [ih h.skip]
          rfl

theorem decodeTabs_encode (tabs : List RemoteTabInfo)
    (h : Rest data offset (tabs.flatMap encodeTab ++ rest)) :
    decodeTabs data tabs.length offset = tabs.map blankedTab := by
  induction tabs generalizing offset with
  | nil => rfl
  | cons tab tabs ih =>
      rw [List.flatMap_cons, List.append_assoc] at h
      obtain ⟨id, bound, ⟨_, name⟩, ⟨_, title⟩, ⟨_, pwd⟩, flags⟩ := tabAt_encodeTab h
      have inside := flags.length_eq
      rw [List.length_cons] at inside
      have next := h.skip
      rw [length_encodeTab, show offset + (4 + (2 + (cutBytes tab.name).length) +
        (2 + (cutBytes tab.title).length) + (2 + (cutBytes tab.pwd).length) + 1) =
          offset + 4 + 2 + (cutBytes tab.name).length + 2 + (cutBytes tab.title).length + 2 +
            (cutBytes tab.pwd).length + 1 by omega] at next
      rw [List.length_cons, decodeTabs, if_neg (by omega), readString_pushString name]
      dsimp only
      rw [readString_pushString title]
      dsimp only
      rw [readString_pushString pwd]
      dsimp only
      rw [if_neg (by omega), u8At_rest flags, tabFlags_active, tabFlags_childExited, id, ih next]
      rfl

end Tabs

section RoundTrip

/-- The tabs that the count field announces: all of them below `2 ^ 32`. -/
def announced (tabs : List RemoteTabInfo) : List RemoteTabInfo := tabs.take (tabs.length % 2 ^ 32)

theorem length_announced (tabs : List RemoteTabInfo) :
    (announced tabs).length = tabs.length % 2 ^ 32 := by
  rw [announced, List.length_take, Nat.min_eq_left (Nat.mod_le _ _)]

theorem announced_eq_iff (tabs : List RemoteTabInfo) :
    (announced tabs).length = tabs.length ↔ tabs.length < 2 ^ 32 := by
  rw [length_announced]
  constructor
  · intro same
    rw [← same]
    exact Nat.mod_lt _ (by decide)
  · exact Nat.mod_eq_of_lt

private theorem rest_announced (tabs : List RemoteTabInfo) :
    Rest (encodeTabList tabs) 4
      ((announced tabs).flatMap encodeTab ++
        (tabs.drop (tabs.length % 2 ^ 32)).flatMap encodeTab) := by
  rw [announced, ← List.flatMap_append, List.take_append_drop]
  exact ⟨leU32 (UInt32.ofNat tabs.length), length_leU32 _, rfl⟩

private theorem count_encodeTabList (tabs : List RemoteTabInfo) :
    (u32At (encodeTabList tabs) 0).toNat = (announced tabs).length ∧
      4 ≤ (encodeTabList tabs).length := by
  have whole : Rest (encodeTabList tabs) 0
    (leU32 (UInt32.ofNat tabs.length) ++ tabs.flatMap encodeTab) := rest_zero _
  refine ⟨?_, ?_⟩
  · rw [u32At_rest whole, UInt32.toNat_ofNat', length_announced]
  · simpa using whole.bound (length_leU32 _)

theorem decodeRemoteTabList_encode (tabs : List RemoteTabInfo) :
    decodeRemoteTabList (encodeTabList tabs) = (announced tabs).mapM cutTab := by
  obtain ⟨count, bound⟩ := count_encodeTabList tabs
  rw [decodeRemoteTabList, if_neg (by omega), count]
  exact decodeRemoteTabs_encode _ (rest_announced tabs)

theorem decodeTabList_encode (tabs : List RemoteTabInfo) :
    decodeTabList (encodeTabList tabs) = (announced tabs).map blankedTab := by
  obtain ⟨count, bound⟩ := count_encodeTabList tabs
  rw [decodeTabList, if_neg (by omega), count]
  exact decodeTabs_encode _ (rest_announced tabs)

/-- What a reader may find of a text: all of it when it fits, else a part from its start. -/
def TextKept (text decoded : String) : Prop :=
  if (textBytes text).length ≤ maxTextLen then decoded = text else decoded.toList <+: text.toList

structure TabKept (tab decoded : RemoteTabInfo) : Prop where
  id : decoded.id = tab.id
  name : TextKept tab.name decoded.name
  title : TextKept tab.title decoded.title
  pwd : TextKept tab.pwd decoded.pwd
  active : decoded.active = tab.active
  childExited : decoded.childExited = tab.childExited

def DecodedWireTabInfo.tab (decoded : DecodedWireTabInfo) : RemoteTabInfo where
  id := decoded.id
  name := decoded.name
  title := decoded.title
  pwd := decoded.pwd
  active := decoded.active
  childExited := decoded.childExited

/-- Both decoders accept the payload and return every tab. -/
def RoundTrip (tabs : List RemoteTabInfo) : Prop :=
  (∃ decoded, decodeRemoteTabList (encodeTabList tabs) = some decoded ∧
      List.Forall₂ TabKept tabs decoded) ∧
    List.Forall₂ TabKept tabs ((decodeTabList (encodeTabList tabs)).map DecodedWireTabInfo.tab)

/-- The limit does not fall into a character of the text. -/
def CutsCleanly (text : String) : Prop :=
  (textBytes text).length ≤ maxTextLen ∨ String.Pos.Raw.IsValid text ⟨maxTextLen⟩

theorem cutsCleanly_iff (text : String) :
    CutsCleanly text ↔ (fromUtf8 (cutBytes text)).isSome := by
  rw [CutsCleanly, cutBytes]
  by_cases fits : (textBytes text).length ≤ maxTextLen
  · rw [List.take_of_length_le fits, fromUtf8_textBytes]
    simp [fits]
  · rw [isSome_fromUtf8_take_iff (by omega)]
    simp [fits]

theorem textKept_of_cut {text value : String} (decoded : fromUtf8 (cutBytes text) = some value) :
    TextKept text value := by
  rw [TextKept]
  split
  · rename_i fits
    rw [cutBytes, List.take_of_length_le fits, fromUtf8_textBytes] at decoded
    exact (Option.some.inj decoded).symm
  · exact prefix_of_fromUtf8_take decoded

theorem textKept_blanked (text : String) : TextKept text ((fromUtf8 (cutBytes text)).getD "") := by
  cases decoded : fromUtf8 (cutBytes text) with
  | some value => exact textKept_of_cut decoded
  | none =>
      have long : ¬ (textBytes text).length ≤ maxTextLen := by
        intro fits
        have clean := (cutsCleanly_iff text).mp (.inl fits)
        rw [decoded] at clean
        cases clean
      rw [TextKept, if_neg long]
      exact List.nil_prefix

theorem tabKept_blanked (tab : RemoteTabInfo) : TabKept tab (blankedTab tab).tab :=
  ⟨rfl, textKept_blanked _, textKept_blanked _, textKept_blanked _, rfl, rfl⟩

theorem tabKept_of_cutTab {tab decoded : RemoteTabInfo} (cut : cutTab tab = some decoded) :
    TabKept tab decoded := by
  rw [cutTab] at cut
  obtain ⟨name, nameCut, cut⟩ := Option.bind_eq_some_iff.mp cut
  obtain ⟨title, titleCut, cut⟩ := Option.bind_eq_some_iff.mp cut
  obtain ⟨pwd, pwdCut, cut⟩ := Option.bind_eq_some_iff.mp cut
  cases cut
  exact ⟨rfl, textKept_of_cut nameCut, textKept_of_cut titleCut, textKept_of_cut pwdCut, rfl, rfl⟩

theorem isSome_cutTab_iff (tab : RemoteTabInfo) : (cutTab tab).isSome ↔
    CutsCleanly tab.name ∧ CutsCleanly tab.title ∧ CutsCleanly tab.pwd := by
  rw [cutsCleanly_iff, cutsCleanly_iff, cutsCleanly_iff, cutTab]
  cases fromUtf8 (cutBytes tab.name) <;> cases fromUtf8 (cutBytes tab.title) <;>
    cases fromUtf8 (cutBytes tab.pwd) <;> simp

theorem mapM_eq_some_iff {A B : Type} (f : A → Option B) (items : List A) (results : List B) :
    items.mapM f = some results ↔ List.Forall₂ (fun item result => f item = some result) items
      results := by
  induction items generalizing results with
  | nil => simp [eq_comm]
  | cons item items ih =>
      rw [List.mapM_cons, List.forall₂_cons_left_iff]
      simp only [Option.bind_eq_bind, Option.bind_eq_some_iff, ih]
      constructor
      · rintro ⟨result, found, others, all, same⟩
        exact ⟨result, others, found, all, (Option.some.inj same).symm⟩
      · rintro ⟨result, others, found, all, rfl⟩
        exact ⟨result, found, others, all, rfl⟩

theorem isSome_mapM_iff {A B : Type} (f : A → Option B) (items : List A) :
    (items.mapM f).isSome ↔ ∀ item ∈ items, (f item).isSome := by
  induction items with
  | nil => simp
  | cons item items ih =>
      rw [List.forall_mem_cons, ← ih, List.mapM_cons]
      cases f item <;> cases items.mapM f <;> simp

/-- The list survives unless it is too long for the count or a text is cut inside a character. -/
theorem roundTrip_iff (tabs : List RemoteTabInfo) : RoundTrip tabs ↔
    tabs.length < 2 ^ 32 ∧ ∀ tab ∈ tabs,
      CutsCleanly tab.name ∧ CutsCleanly tab.title ∧ CutsCleanly tab.pwd := by
  rw [RoundTrip, decodeRemoteTabList_encode, decodeTabList_encode, List.map_map]
  constructor
  · rintro ⟨⟨decoded, accepted, -⟩, kept⟩
    have all : announced tabs = tabs := by
      have long := kept.length_eq
      rw [List.length_map] at long
      exact (List.take_prefix _ _).eq_of_length long.symm
    refine ⟨(announced_eq_iff tabs).mp (congrArg List.length all), fun tab member => ?_⟩
    have every := (isSome_mapM_iff cutTab (announced tabs)).mp (by rw [accepted]; rfl)
    exact (isSome_cutTab_iff tab).mp (every tab (all.symm ▸ member))
  · rintro ⟨few, clean⟩
    have all : announced tabs = tabs := by
      rw [announced, Nat.mod_eq_of_lt few, List.take_length]
    rw [all]
    have accepted := (isSome_mapM_iff cutTab tabs).mpr fun tab member =>
      (isSome_cutTab_iff tab).mpr (clean tab member)
    obtain ⟨decoded, accepted⟩ := Option.isSome_iff_exists.mp accepted
    refine ⟨⟨decoded, accepted, ?_⟩, ?_⟩
    · exact ((mapM_eq_some_iff cutTab tabs decoded).mp accepted).imp fun _ _ => tabKept_of_cutTab
    · rw [List.forall₂_map_right_iff, List.forall₂_same]
      exact fun tab _ => tabKept_blanked tab

private theorem utf8ByteSize_twoByte (n : Nat) :
    (String.ofList (List.replicate n 'é')).utf8ByteSize = 2 * n := by
  induction n with
  | zero => rfl
  | succ n ih =>
      rw [List.replicate_succ, ← List.singleton_append, String.ofList_append,
        String.utf8ByteSize_append, ih, show (String.ofList ['é']).utf8ByteSize = 2 from rfl]
      omega

/-- A title of `32768` two-byte characters: the GUI client refuses the whole list. -/
theorem longTitle_rejected :
    ¬ RoundTrip [⟨1, "", String.ofList (List.replicate 32768 'é'), "", true, false⟩] := by
  rintro ⟨⟨decoded, accepted, -⟩, -⟩
  rw [decodeRemoteTabList_encode] at accepted
  have every := (isSome_mapM_iff cutTab _).mp (Option.isSome_of_eq_some accepted) _
    List.mem_cons_self
  obtain ⟨-, title, -⟩ := (isSome_cutTab_iff _).mp every
  rcases title with fits | boundary
  · rw [length_textBytes, utf8ByteSize_twoByte] at fits
    exact absurd fits (by decide)
  · obtain ⟨i, size⟩ := String.Pos.Raw.isValid_ofList.mp boundary
    rw [List.take_replicate, utf8ByteSize_twoByte] at size
    dsimp only [maxTextLen] at size
    omega

end RoundTrip

end Boo.Remote.TabList
