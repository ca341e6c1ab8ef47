/- module: Boo/Runtime/Notifications
   digest: Desktop notifications that OSC 99 sequences bring in parts, per identifier. -/

import Boo.Lib.KeyedParts
import Boo.Lib.TextLines
import Mathlib.Logic.Function.Basic

set_option autoImplicit false
set_option relaxedAutoImplicit false

namespace Boo.Runtime.Notifications

open Boo.Lib.KeyedParts
open Boo.Lib.TextLines

/-- The fields of `Osc99Metadata`. -/
structure Osc99Metadata where
  payloadType : Option Text := none
  identifier : Option Text := none
  done : Bool := true
  base64 : Bool := false
  deriving DecidableEq

/-- One entry of a metadata text, once it is split at its equals sign. -/
def Osc99Metadata.assign (fields : Osc99Metadata) (key value : Text) : Osc99Metadata :=
  if key = ['p'] then { fields with payloadType := some value }
  else if key = ['i'] then { fields with identifier := some value }
  else if key = ['d'] then { fields with done := value ≠ ['0'] }
  else if key = ['e'] then { fields with base64 := value = ['1'] }
  else fields

def parseOsc99Metadata (metadata : Text) : Osc99Metadata :=
  ((metadata.splitOn ':').filter (· ≠ [])).foldl (fun fields entry =>
    match splitOnce '=' entry with
    | none => fields
    | some (key, value) => fields.assign key value) {}

/-- `PendingNotification` and `DesktopNotification`. -/
structure Notification where
  title : Text
  body : Text
  deriving DecidableEq

/-- The notifications of a `VtPane`; `completed` lists all of them, taken or not. -/
structure Notifier where
  pending : Text → Option Notification
  completed : List Notification

def Notifier.new : Notifier where
  pending := fun _ => none
  completed := []

/-- The payload types that are no part of a notification. -/
def otherTypes : List Text :=
  ["close".toList, "?".toList, "alive".toList, "icon".toList, "buttons".toList]

def handleOsc99 (notifier : Notifier) (rest : Text) : Notifier :=
  match splitOnce ';' rest with
  | none => notifier
  | some (metadata, payload) =>
      let fields := parseOsc99Metadata metadata
      if fields.base64 || fields.payloadType.any (· ∈ otherTypes) then notifier
      else
        let id := fields.identifier.getD ['0']
        let started := (notifier.pending id).getD ⟨[], []⟩
        let removed := Function.update notifier.pending id none
        let notification : Notification :=
          if fields.payloadType.getD "title".toList = "body".toList then
            { started with body := started.body ++ payload }
          else { started with title := started.title ++ payload }
        if fields.done then
          let title := if notification.title.isEmpty then notification.body else notification.title
          if title.isEmpty then { notifier with pending := removed }
          else { pending := removed, completed := notifier.completed ++ [⟨title, notification.body⟩] }
        else { notifier with pending := Function.update removed id (some notification) }

/-- The part of `handle_osc_payload` that concerns notifications: the other two payloads that it
tells apart do not. -/
def handleOscPayload (notifier : Notifier) (payload : Text) : Notifier :=
  if (stripPrefix "1337;SetUserVar=".toList payload).isSome then notifier
  else if (stripPrefix "133;".toList payload).isSome then notifier
  else
    match stripPrefix "99;".toList payload with
    | none => notifier
    | some rest => handleOsc99 notifier rest

/-- One part of a notification. -/
structure Part where
  id : Text
  isBody : Bool
  text : Text
  done : Bool
  deriving DecidableEq

/-- The text of the title parts, or of the body parts, in order. -/
def textOf (isBody : Bool) (parts : List Part) : Text :=
  (parts.filter fun part => part.isBody = isBody).flatMap Part.text

/-- The notification that some parts make up, unless they have no text. Without a title the body
stands for it. -/
def assembled (parts : List Part) : Option Notification :=
  if textOf false parts = [] ∧ textOf true parts = [] then none
  else some {
    title := if textOf false parts = [] then textOf true parts else textOf false parts
    body := textOf true parts }

/-- The same with a title of title text alone. -/
def apart (parts : List Part) : Option Notification :=
  if textOf false parts = [] ∧ textOf true parts = [] then none
  else some ⟨textOf false parts, textOf true parts⟩

/-- A sequence as programs write it: metadata entries, and the text of the part. -/
structure WrittenPart where
  entries : List (Text × Text)
  text : Text

namespace WrittenPart

def metadata (part : WrittenPart) : Text :=
  [':'].intercalate (part.entries.map fun entry => entry.1 ++ '=' :: entry.2)

def payload (part : WrittenPart) : Text :=
  "99;".toList ++ part.metadata ++ ';' :: part.text

/-- No key or value contains what separates them. -/
def WellFormed (part : WrittenPart) : Prop :=
  ∀ entry ∈ part.entries, (':' ∉ entry.1 ∧ ';' ∉ entry.1 ∧ '=' ∉ entry.1) ∧
    ':' ∉ entry.2 ∧ ';' ∉ entry.2

instance (part : WrittenPart) : Decidable part.WellFormed :=
  inferInstanceAs (Decidable (∀ entry ∈ part.entries, _))

/-- The last entry of a key counts. -/
def field (part : WrittenPart) (key : Text) : Option Text := part.entries.reverse.lookup key

/-- The part that is written: of identifier 0, a title and final unless its entries say otherwise.
Encoded parts, icons, buttons and queries are no parts. -/
def read (part : WrittenPart) : Option Part :=
  if part.field ['e'] = some ['1'] ∨ (part.field ['p']).any (· ∈ otherTypes) then none
  else some {
    id := (part.field ['i']).getD ['0']
    isBody := part.field ['p'] = some "body".toList
    text := part.text
    done := part.field ['d'] ≠ some ['0'] }

end WrittenPart

section Reading

variable {part : WrittenPart}

theorem foldl_assign (entries : List (Text × Text)) :
    entries.foldl (fun fields entry => Osc99Metadata.assign fields entry.1 entry.2) {} =
      { payloadType := entries.reverse.lookup ['p']
        identifier := entries.reverse.lookup ['i']
        done := entries.reverse.lookup ['d'] ≠ some ['0']
        base64 := entries.reverse.lookup ['e'] = some ['1'] } := by
  induction entries using List.reverseRecOn with
  | nil => rfl
  | append_singleton entries entry ih =>
      obtain ⟨key, value⟩ := entry
      rw [List.foldl_append, List.foldl_cons, List.foldl_nil, ih, List.reverse_append,
        List.reverse_singleton, List.singleton_append]
      simp only [List.lookup_cons, Osc99Metadata.assign]
      by_cases isType : key = ['p']
      · subst isType; simp
      · by_cases isId : key = ['i']
        · subst isId; simp
        · by_cases isDone : key = ['d']
          · subst isDone; simp
          · by_cases isEncoding : key = ['e']
            · subst isEncoding; simp
            · simp [isType, isId, isDone, isEncoding, beq_false_of_ne, Ne.symm]

theorem mem_intercalate {char separator : Char} {pieces : List Text}
    (member : char ∈ [separator].intercalate pieces) :
    char = separator ∨ ∃ piece ∈ pieces, char ∈ piece := by
  obtain ⟨piece, listed, inside⟩ := List.mem_flatten.mp member
  induction pieces with
  | nil => simp at listed
  | cons first later ih =>
      cases later with
      | nil => exact .inr ⟨piece, listed, inside⟩
      | cons second later =>
          rw [List.intersperse_cons_cons, List.mem_cons, List.mem_cons] at listed
          obtain rfl | rfl | listed := listed
          · exact .inr ⟨piece, List.mem_cons_self, inside⟩
          · exact .inl (List.mem_singleton.mp inside)
          · refine (ih (List.mem_flatten.mpr ⟨piece, listed, inside⟩) listed).imp_right ?_
            exact fun ⟨own, memberLater, insideOwn⟩ => ⟨own, .tail _ memberLater, insideOwn⟩

/-- Splitting a written metadata text gives its entries back. -/
theorem parse_metadata (wellFormed : part.WellFormed) :
    parseOsc99Metadata part.metadata =
      { payloadType := part.field ['p']
        identifier := part.field ['i']
        done := part.field ['d'] ≠ some ['0']
        base64 := part.field ['e'] = some ['1'] } := by
  have pieces : (part.metadata.splitOn ':').filter (· ≠ []) =
      part.entries.map fun entry => entry.1 ++ '=' :: entry.2 := by
    unfold WrittenPart.metadata
    cases nonempty : part.entries with
    | nil => rfl
    | cons first later =>
        rw [← nonempty, List.splitOn_intercalate]
        · refine List.filter_eq_self.mpr fun piece member => ?_
          obtain ⟨entry, _, rfl⟩ := List.mem_map.mp member
          simp
        · intro piece member
          obtain ⟨entry, written, rfl⟩ := List.mem_map.mp member
          obtain ⟨⟨noColon, _, _⟩, noColon', _⟩ := wellFormed entry written
          simp [noColon, noColon']
        · simp [nonempty]
  unfold parseOsc99Metadata
  rw [pieces, List.foldl_map]
  refine Eq.trans (List.foldl_ext _ _ _ fun fields entry written => ?_) (foldl_assign part.entries)
  rw [splitOnce_append (wellFormed entry written).1.2.2]

/-- No entry contains the semicolon that ends the metadata. -/
theorem semicolon_not_mem (wellFormed : part.WellFormed) : ';' ∉ part.metadata := by
  intro member
  unfold WrittenPart.metadata at member
  obtain ⟨piece, listed, inside⟩ : ∃ piece ∈ part.entries.map
      (fun entry => entry.1 ++ '=' :: entry.2), ';' ∈ piece :=
    (mem_intercalate member).resolve_left (by decide)
  obtain ⟨entry, written, rfl⟩ := List.mem_map.mp listed
  obtain ⟨⟨_, noSemicolon, _⟩, _, noSemicolon'⟩ := wellFormed entry written
  simp [noSemicolon, noSemicolon'] at inside

end Reading

section Handling

variable {part : WrittenPart} (notifier : Notifier)

/-- A notification without text is not shown; without a title the body stands for it. -/
def Notification.finished (notification : Notification) : Option Notification :=
  let title := if notification.title.isEmpty then notification.body else notification.title
  if title.isEmpty then none else some ⟨title, notification.body⟩

theorem complete_eq (pending : Text → Option Notification) (completed : List Notification)
    (notification : Notification) :
    (let title := if notification.title.isEmpty then notification.body else notification.title
      if title.isEmpty then Notifier.mk pending completed
      else ⟨pending, completed ++ [⟨title, notification.body⟩]⟩) =
      ⟨pending, completed ++ notification.finished.toList⟩ := by
  obtain ⟨title, body⟩ := notification
  cases title <;> cases body <;> simp [Notification.finished]

/-- One part joins what is pending under its identifier. -/
def Notifier.receive (notifier : Notifier) (part : Part) : Notifier :=
  let started := (notifier.pending part.id).getD ⟨[], []⟩
  let notification : Notification :=
    if part.isBody then { started with body := started.body ++ part.text }
    else { started with title := started.title ++ part.text }
  if part.done then
    { pending := Function.update notifier.pending part.id none
      completed := notifier.completed ++ notification.finished.toList }
  else { notifier with pending := Function.update notifier.pending part.id (some notification) }

/-- The handler reads a written part as that part. -/
theorem handleOscPayload_payload (wellFormed : part.WellFormed) :
    handleOscPayload notifier part.payload = (part.read.map notifier.receive).getD notifier := by
  have front : stripPrefix "99;".toList part.payload = some (part.metadata ++ ';' :: part.text) := by
    unfold stripPrefix WrittenPart.payload
    rw [if_pos (by rw [List.append_assoc]; exact List.prefix_append _ _)]
    rfl
  have noVariable : (stripPrefix "1337;SetUserVar=".toList part.payload).isSome = false := rfl
  have noMark : (stripPrefix "133;".toList part.payload).isSome = false := rfl
  unfold handleOscPayload
  rw [front, noVariable, noMark, if_neg Bool.false_ne_true, if_neg Bool.false_ne_true]
  unfold handleOsc99
  simp only
  rw [splitOnce_append (semicolon_not_mem wellFormed)]
  simp only
  rw [parse_metadata wellFormed]
  unfold WrittenPart.read
  by_cases other : part.field ['e'] = some ['1'] ∨ (part.field ['p']).any (· ∈ otherTypes)
  · rw [if_pos (by simpa using other), if_pos other]
    rfl
  · rw [if_neg (by simpa using other), if_neg other, Option.map_some, Option.getD_some]
    have isBody : (part.field ['p']).getD "title".toList = "body".toList ↔
        part.field ['p'] = some "body".toList := by
      cases part.field ['p'] with
      | none => decide
      | some payloadType => simp
    unfold Notifier.receive
    simp only [isBody, decide_eq_true_eq, Function.update_idem]
    by_cases done : part.field ['d'] = some ['0']
    · rw [if_neg (not_not_intro done), if_neg (not_not_intro done)]
    · rw [if_pos done, if_pos done]
      exact complete_eq _ _ _

/-- The texts of some parts, as a notification under way. -/
def underway (parts : List Part) : Notification := ⟨textOf false parts, textOf true parts⟩

theorem underway_finished (parts : List Part) : (underway parts).finished = assembled parts := by
  unfold underway Notification.finished assembled
  cases titleText : textOf false parts <;> cases bodyText : textOf true parts <;> rfl

theorem textOf_concat (isBody : Bool) (parts : List Part) (part : Part) :
    textOf isBody (parts ++ [part]) =
      textOf isBody parts ++ if part.isBody = isBody then part.text else [] := by
  unfold textOf
  rw [List.filter_append, List.flatMap_append, List.filter_singleton]
  by_cases same : part.isBody = isBody <;> simp [same]

theorem underway_concat (parts : List Part) (part : Part) :
    underway (parts ++ [part]) =
      if part.isBody then { underway parts with body := (underway parts).body ++ part.text }
      else { underway parts with title := (underway parts).title ++ part.text } := by
  unfold underway
  rw [textOf_concat, textOf_concat]
  cases part.isBody <;> simp

/-- What a list of parts makes of a notifier: the parts of each identifier since its last final one
are pending, and the final parts have completed what they end. -/
structure Assembles (parts : List Part) (notifier : Notifier) : Prop where
  pending : ∀ id, (notifier.pending id).getD ⟨[], []⟩ =
    underway (sinceFinal Part.id Part.done id parts)
  completed : notifier.completed = completions Part.id Part.done assembled parts

theorem pending_update {notifier : Notifier} {parts : List Part} {part : Part}
    {value : Option Notification} (assembles : Assembles parts notifier)
    (held : value.getD ⟨[], []⟩ = underway
      (if part.done then [] else sinceFinal Part.id Part.done part.id parts ++ [part])) (id : Text) :
    (Function.update notifier.pending part.id value id).getD ⟨[], []⟩ =
      underway (sinceFinal Part.id Part.done id (parts ++ [part])) := by
  rw [sinceFinal_concat]
  by_cases own : part.id = id
  · subst own
    rw [if_pos rfl, Function.update_self, held]
  · rw [if_neg own, Function.update_of_ne (Ne.symm own)]
    exact assembles.pending id

/-- The step: a part joins those of its identifier, and completes them if it is final. -/
theorem assembles_receive {notifier : Notifier} {parts : List Part} (part : Part)
    (assembles : Assembles parts notifier) :
    Assembles (parts ++ [part]) (notifier.receive part) := by
  have joined := underway_concat (sinceFinal Part.id Part.done part.id parts) part
  rw [← assembles.pending part.id] at joined
  unfold Notifier.receive
  simp only [← joined]
  cases done : part.done with
  | true =>
      rw [if_pos rfl]
      constructor
      · exact pending_update assembles (by rw [done, if_pos rfl]; rfl)
      · rw [completions_concat, done, if_pos rfl, ← assembles.completed, underway_finished]
  | false =>
      rw [if_neg Bool.false_ne_true]
      constructor
      · exact pending_update assembles (by rw [done, if_neg Bool.false_ne_true]; rfl)
      · rw [completions_concat, done, if_neg Bool.false_ne_true, List.append_nil]
        exact assembles.completed

end Handling

section Sequences

/-- The run: after any sequences, the notifier holds what their parts make up. -/
theorem assembles_foldl {written : List WrittenPart}
    (wellFormed : ∀ part ∈ written, part.WellFormed) :
    Assembles (written.filterMap WrittenPart.read)
      ((written.map WrittenPart.payload).foldl handleOscPayload Notifier.new) := by
  induction written using List.reverseRecOn with
  | nil => exact ⟨fun id => rfl, rfl⟩
  | append_singleton written part ih =>
      have before := ih fun earlier member => wellFormed earlier (List.mem_append_left _ member)
      rw [List.map_append, List.foldl_append, List.filterMap_append]
      simp only [List.map_cons, List.map_nil, List.foldl_cons, List.foldl_nil]
      rw [handleOscPayload_payload _ (wellFormed part (by simp))]
      cases isPart : part.read with
      | none => simpa [isPart] using before
      | some own => simpa [isPart] using assembles_receive own before

/-- For any interleaving of sequences, the completed notifications are in the order of the final
parts, each of the texts of its own identifier since the previous final part of it; where there is
no title text the body stands for the title. -/
theorem completed_assembled {written : List WrittenPart}
    (wellFormed : ∀ part ∈ written, part.WellFormed) :
    ((written.map WrittenPart.payload).foldl handleOscPayload Notifier.new).completed =
      completions Part.id Part.done assembled (written.filterMap WrittenPart.read) :=
  (assembles_foldl wellFormed).completed

/-- Two identifiers at once: neither text shows in the other's notification. -/
theorem completed_assembled_two :
    (([⟨[("i".toList, "a".toList), ("d".toList, "0".toList)], "Build".toList⟩,
      ⟨[("i".toList, "b".toList)], "Mail".toList⟩,
      ⟨[("i".toList, "a".toList), ("p".toList, "body".toList)], "done".toList⟩].map
        WrittenPart.payload).foldl handleOscPayload Notifier.new).completed =
      [⟨"Mail".toList, []⟩, ⟨"Build".toList, "done".toList⟩] :=
  (completed_assembled (by decide)).trans (by decide)

/-- A lone body is its own title, so the title is not the title text alone. -/
theorem body_titles :
    ¬ ∀ written : List WrittenPart, (∀ part ∈ written, part.WellFormed) →
      ((written.map WrittenPart.payload).foldl handleOscPayload Notifier.new).completed =
        completions Part.id Part.done apart (written.filterMap WrittenPart.read) := by
  intro always
  have alone := always [⟨[("p".toList, "body".toList)], "hello".toList⟩] (by decide)
  revert alone
  decide

end Sequences

end Boo.Runtime.Notifications
