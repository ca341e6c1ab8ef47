/- module: Boo/Server/StatusComponents
   digest: The status components that panes and the control socket put into the status bar. -/

import Boo.Server.Frames
import Mathlib.Data.List.Basic

set_option autoImplicit false
set_option relaxedAutoImplicit false

namespace Boo.Server.StatusComponents

open Boo.Server.Frames

inductive StatusBarZone
  | left | right
  deriving DecidableEq

structure StatusStyle where
  fg : Option String
  bg : Option String
  bold : Bool
  italic : Bool
  underline : Option String
  strikethrough : Bool
  deriving DecidableEq

structure StatusClick where
  id : String
  action : Option String
  deriving DecidableEq

structure StatusComponent where
  text : String
  style : StatusStyle
  click : Option StatusClick
  deriving DecidableEq

structure StatusComponentsUpdate where
  zone : StatusBarZone
  source : String
  components : List StatusComponent
  deriving DecidableEq

structure StatusComponentStore where
  entries : List StatusComponentsUpdate

def oscSourceForPane (paneId : PaneId) : String := "pane:" ++ toString paneId ++ ":osc"

namespace StatusComponentStore

def empty : StatusComponentStore := ⟨[]⟩

/-- Without a zone the source goes from both. The flag tells whether anything went. -/
def clear (store : StatusComponentStore) (source : String) (zone : Option StatusBarZone) :
    StatusComponentStore × Bool :=
  let kept := store.entries.filter fun entry =>
    !(entry.source = source && (zone.map fun zone => decide (zone = entry.zone)).getD true)
  (⟨kept⟩, kept.length ≠ store.entries.length)

def set (store : StatusComponentStore) (update : StatusComponentsUpdate) :
    StatusComponentStore × Bool :=
  if update.source.isEmpty then (store, false)
  else if update.components.isEmpty then store.clear update.source (some update.zone)
  else
    match store.entries.findIdx? fun entry =>
        entry.source = update.source && entry.zone = update.zone with
    | some index =>
        if store.entries[index]? = some update then (store, false)
        else (⟨store.entries.set index update⟩, true)
    | none => (⟨store.entries ++ [update]⟩, true)

def sources (store : StatusComponentStore) : List String :=
  store.entries.map StatusComponentsUpdate.source

/-- `poll_backend` sets every reported update. -/
def setAll (store : StatusComponentStore) (updates : List StatusComponentsUpdate) :
    StatusComponentStore :=
  updates.foldl (fun store update => (store.set update).1) store

/-- It clears the components of every pane that has exited. -/
def clearPanes (store : StatusComponentStore) (panes : List PaneId) : StatusComponentStore :=
  panes.foldl (fun store paneId => (store.clear (oscSourceForPane paneId) none).1) store

end StatusComponentStore

/-- Two panes have two sources. -/
theorem oscSourceForPane_injective : Function.Injective oscSourceForPane := by
  intro first second same
  have digits : first.toNat.repr = second.toNat.repr :=
    (String.append_right_inj _).mp ((String.append_left_inj _).mp same)
  have chars := congrArg String.toList digits
  rw [Nat.toList_repr, Nat.toList_repr] at chars
  apply UInt64.toNat_inj.mp
  rw [← @Nat.ofDigitChars_ten_toDigits first.toNat, chars, Nat.ofDigitChars_ten_toDigits]

section Sources

open StatusComponentStore

variable {store : StatusComponentStore} {source other : String} {update : StatusComponentsUpdate}

theorem mem_sources_clear {zone : Option StatusBarZone}
    (member : other ∈ (store.clear source zone).1.sources) : other ∈ store.sources := by
  obtain ⟨entry, kept, rfl⟩ := List.mem_map.mp member
  exact List.mem_map_of_mem (List.mem_of_mem_filter kept)

theorem not_mem_sources_clear : source ∉ (store.clear source none).1.sources := by
  intro member
  obtain ⟨entry, kept, same⟩ := List.mem_map.mp member
  have open_ := (List.mem_filter.mp kept).2
  simp [same] at open_

theorem mem_sources_set (member : other ∈ (store.set update).1.sources) :
    other ∈ store.sources ∨ (other = update.source ∧ update.components ≠ []) := by
  unfold StatusComponentStore.set at member
  split at member
  · exact .inl member
  · split at member
    · exact .inl (mem_sources_clear member)
    · rename_i components
      rw [List.isEmpty_iff] at components
      split at member
      · split at member
        · exact .inl member
        · obtain ⟨entry, listed, rfl⟩ := List.mem_map.mp member
          rcases List.mem_or_eq_of_mem_set listed with old | rfl
          · exact .inl (List.mem_map_of_mem old)
          · exact .inr ⟨rfl, components⟩
      · obtain ⟨entry, listed, rfl⟩ := List.mem_map.mp member
        rcases List.mem_append.mp listed with old | new
        · exact .inl (List.mem_map_of_mem old)
        · rw [List.mem_singleton.mp new]
          exact .inr ⟨rfl, components⟩

theorem mem_sources_setAll {updates : List StatusComponentsUpdate}
    (member : other ∈ (store.setAll updates).sources) :
    other ∈ store.sources ∨ ∃ update ∈ updates, other = update.source := by
  induction updates generalizing store with
  | nil => exact .inl member
  | cons update updates ih =>
      rcases ih member with earlier | ⟨later, listed, same⟩
      · rcases mem_sources_set earlier with old | ⟨same, -⟩
        · exact .inl old
        · exact .inr ⟨update, List.mem_cons_self, same⟩
      · exact .inr ⟨later, List.mem_cons_of_mem _ listed, same⟩

/-- What the cleared panes leave was there before and is no source of theirs. -/
theorem mem_sources_clearPanes {panes : List PaneId}
    (member : other ∈ (store.clearPanes panes).sources) :
    other ∈ store.sources ∧ ∀ paneId ∈ panes, other ≠ oscSourceForPane paneId := by
  induction panes generalizing store with
  | nil => exact ⟨member, fun _ none => by cases none⟩
  | cons paneId panes ih =>
      obtain ⟨kept, apart⟩ := ih member
      refine ⟨mem_sources_clear kept, fun later listed => ?_⟩
      rcases List.mem_cons.mp listed with rfl | listed
      · rintro rfl
        exact not_mem_sources_clear kept
      · exact apart later listed

end Sources

end Boo.Server.StatusComponents
