/- module: Boo/Server/ControlCache
   digest: When the control frames that pass a client's payload cache leave it with the newest one. -/

import Boo.Lib.Runs
import Boo.Remote.Batcher
import Boo.Remote.TabList

set_option autoImplicit false
set_option relaxedAutoImplicit false

namespace Boo.Server.ControlCache

open Boo.Lib.LittleEndian
open Boo.Lib.Runs
open Boo.Wire.Message
open Boo.Server.Frames (ClientId UiRuntimeState UiAppearance frameType frameType_encodeMessage)
open Boo.Remote.Batcher (OutboundMessage)
open Boo.Remote.TabList (RemoteTabInfo encodeTabList)

/-! remote_server_control.rs -/

inductive CachedControlPayload
  | tabList | uiRuntimeState | uiAppearance
  deriving DecidableEq, Repr

def CachedControlPayload.messageType : CachedControlPayload → MessageType
  | tabList => .tabList
  | uiRuntimeState => .uiRuntimeState
  | uiAppearance => .uiAppearance

/-- What the control sends read and write of a client; `outbound` is all that was queued to it. -/
structure ControlClient where
  isLocal : Bool
  subscribedToRuntime : Bool
  lastTabListPayload : Option (List UInt8)
  lastUiRuntimeStatePayload : Option (List UInt8)
  lastUiAppearancePayload : Option (List UInt8)
  outbound : List (OutboundMessage (List UInt8))
  deriving DecidableEq

namespace ControlClient

variable (client : ControlClient)

def queue (message : OutboundMessage (List UInt8)) : ControlClient :=
  { client with outbound := client.outbound ++ [message] }

/-- `cache_slot_mut`, read. -/
def cacheSlot : CachedControlPayload → Option (List UInt8)
  | .tabList => client.lastTabListPayload
  | .uiRuntimeState => client.lastUiRuntimeStatePayload
  | .uiAppearance => client.lastUiAppearancePayload

/-- `cache_slot_mut`, written. -/
def setCacheSlot (payload : List UInt8) : CachedControlPayload → ControlClient
  | .tabList => { client with lastTabListPayload := some payload }
  | .uiRuntimeState => { client with lastUiRuntimeStatePayload := some payload }
  | .uiAppearance => { client with lastUiAppearancePayload := some payload }

def sendCachedControlPayloadBytes (slot : CachedControlPayload) (payload : List UInt8) :
    ControlClient :=
  if client.cacheSlot slot = some payload then client
  else (client.setCacheSlot payload slot).queue (.frame (encodeMessage slot.messageType payload))

/-- The body of `reply_tab_list` for a client. -/
def replyTabListBytes (payload : List UInt8) : ControlClient :=
  client.queue (.frame (encodeMessage .tabList payload))

/-- The last queued frame of a type. -/
def lastQueued (ty : MessageType) : Option (List UInt8) :=
  ((client.outbound.map OutboundMessage.content).filter
    fun frame => frameType frame = some ty).getLast?

end ControlClient

abbrev Clients := ClientId → Option ControlClient

/-- A payload that a function sends to a client, through the cache or past it. -/
inductive Addressed
  | cached (slot : CachedControlPayload) (payload : List UInt8)
  | reply (payload : List UInt8)
  deriving DecidableEq

def Addressed.slot : Addressed → CachedControlPayload
  | cached slot _ => slot
  | reply _ => .tabList

def Addressed.payload : Addressed → List UInt8
  | cached _ payload => payload
  | reply payload => payload

def ControlClient.receive (client : ControlClient) : Addressed → ControlClient
  | .cached slot payload => client.sendCachedControlPayloadBytes slot payload
  | .reply payload => client.replyTabListBytes payload

/-! Whom a send targets: one client, or those that a helper of remote_server_targets.rs collects. -/

abbrev Targets := ClientId → ControlClient → Bool

def only (target : ClientId) : Targets := fun clientId _ => clientId == target

def localClientIds : Targets := fun _ client => client.isLocal

def localViewerClientIds : Targets := fun _ client => client.isLocal && client.subscribedToRuntime

def viewerClientIds : Targets := fun _ client => client.subscribedToRuntime

/-- The functions of remote_server_control.rs and their loops over viewers in remote.rs. -/
inductive ControlSend
  | sendTabList (clientId : ClientId) (tabs : List RemoteTabInfo)
  | replyTabList (clientId : ClientId) (tabs : List RemoteTabInfo)
  | sendTabListToLocalClients (tabs : List RemoteTabInfo)
  | sendTabListToViewers (tabs : List RemoteTabInfo)
  | sendUiRuntimeState (clientId : ClientId) (state : UiRuntimeState)
  | sendUiRuntimeStateToLocalViewers (state : UiRuntimeState)
  | sendUiRuntimeStateToViewers (state : UiRuntimeState)
  | sendUiAppearance (clientId : ClientId) (appearance : UiAppearance)
  | sendUiAppearanceToLocalClients (appearance : UiAppearance)
  | sendUiAppearanceToViewers (appearance : UiAppearance)

def ControlSend.targets : ControlSend → Targets
  | .sendTabList clientId _ => only clientId
  | .replyTabList clientId _ => only clientId
  | .sendTabListToLocalClients _ => localClientIds
  | .sendTabListToViewers _ => viewerClientIds
  | .sendUiRuntimeState clientId _ => only clientId
  | .sendUiRuntimeStateToLocalViewers _ => localViewerClientIds
  | .sendUiRuntimeStateToViewers _ => viewerClientIds
  | .sendUiAppearance clientId _ => only clientId
  | .sendUiAppearanceToLocalClients _ => localClientIds
  | .sendUiAppearanceToViewers _ => viewerClientIds

section Sends

-- `serde_json::to_vec` of a runtime state and of an appearance.
variable (stateJson : UiRuntimeState → Option (List UInt8))
  (appearanceJson : UiAppearance → Option (List UInt8))

/-- What a function sends, unless its value cannot be encoded. -/
def ControlSend.sent : ControlSend → Option Addressed
  | .sendTabList _ tabs => some (.cached .tabList (encodeTabList tabs))
  | .replyTabList _ tabs => some (.reply (encodeTabList tabs))
  | .sendTabListToLocalClients tabs => some (.cached .tabList (encodeTabList tabs))
  | .sendTabListToViewers tabs => some (.cached .tabList (encodeTabList tabs))
  | .sendUiRuntimeState _ state => (stateJson state).map (.cached .uiRuntimeState)
  | .sendUiRuntimeStateToLocalViewers state => (stateJson state).map (.cached .uiRuntimeState)
  | .sendUiRuntimeStateToViewers state => (stateJson state).map (.cached .uiRuntimeState)
  | .sendUiAppearance _ appearance => (appearanceJson appearance).map (.cached .uiAppearance)
  | .sendUiAppearanceToLocalClients appearance =>
      (appearanceJson appearance).map (.cached .uiAppearance)
  | .sendUiAppearanceToViewers appearance =>
      (appearanceJson appearance).map (.cached .uiAppearance)

/-- What a function sends to a client. -/
def addressed (clientId : ClientId) (client : ControlClient) (send : ControlSend) :
    Option Addressed :=
  if send.targets clientId client then send.sent stateJson appearanceJson else none

def step (clients : Clients) (send : ControlSend) : Clients := fun clientId =>
  (clients clientId).map fun client =>
    (addressed stateJson appearanceJson clientId client send).elim client client.receive

/-- Every connected client that a send targets has its payload in the last frame of the kind. -/
def Carried (clients : Clients) (send : ControlSend) : Prop :=
  ∀ clientId client, clients clientId = some client →
    ∀ received ∈ addressed stateJson appearanceJson clientId client send,
      ∃ after, step stateJson appearanceJson clients send clientId = some after ∧
        after.lastQueued received.slot.messageType =
          some (encodeMessage received.slot.messageType received.payload)

/-- A client that has just connected. -/
def connected (isLocal subscribedToRuntime : Bool) : ControlClient where
  isLocal := isLocal
  subscribedToRuntime := subscribedToRuntime
  lastTabListPayload := none
  lastUiRuntimeStatePayload := none
  lastUiAppearancePayload := none
  outbound := []

/-- A server whose clients have just connected: who is local, and who views the runtime. -/
def start (peers : ClientId → Option (Bool × Bool)) : Clients := fun clientId =>
  (peers clientId).map fun peer => connected peer.1 peer.2

/-- No tab list that repeats the last cached one comes after a reply with another one: `cached` is
the last payload sent through the cache, `latest` the last one sent at all. -/
def RepliesAgree (cached latest : Option (List UInt8)) : List Addressed → Prop
  | [] => True
  | .reply payload :: later => RepliesAgree cached (some payload) later
  | .cached .tabList payload :: later =>
      (cached = some payload → latest = some payload) ∧
        RepliesAgree (some payload) (some payload) later
  | .cached .uiRuntimeState _ :: later => RepliesAgree cached latest later
  | .cached .uiAppearance _ :: later => RepliesAgree cached latest later

/-- What a client is sent by a list of sends. -/
def receivedBy (clientId : ClientId) (client : ControlClient) (sends : List ControlSend) :
    List Addressed :=
  sends.filterMap (addressed stateJson appearanceJson clientId client)

end Sends

section Caches

variable (client : ControlClient)

theorem lastQueued_queue (ty : MessageType) (frame : List UInt8) :
    (client.queue (.frame frame)).lastQueued ty =
      if frameType frame = some ty then some frame else client.lastQueued ty := by
  rw [ControlClient.lastQueued, ControlClient.queue, List.map_append, List.filter_append,
    List.map_singleton, List.filter_singleton, OutboundMessage.content]
  by_cases kind : frameType frame = some ty
  · simp [kind]
  · simp [kind, ControlClient.lastQueued]

theorem lastQueued_frame (ty other : MessageType) (payload : List UInt8) :
    (client.queue (.frame (encodeMessage other payload))).lastQueued ty =
      if other = ty then some (encodeMessage ty payload) else client.lastQueued ty := by
  rw [lastQueued_queue]
  simp only [frameType_encodeMessage, Option.some.injEq]
  split
  · rename_i same
    rw [same]
  · rfl

theorem encodeMessage_inj {ty : MessageType} {payload other : List UInt8} :
    encodeMessage ty payload = encodeMessage ty other ↔ payload = other := by
  constructor
  · intro same
    have tails := congrArg (List.drop headerLen) same
    have header : ∀ payload : List UInt8,
        (magic ++ [ty.toByte] ++ leU32 (UInt32.ofNat payload.length)).length = headerLen := by
      intro payload
      simp [magic, headerLen]
    rwa [encodeMessage, encodeMessage, List.drop_left' (header payload),
      List.drop_left' (header other)] at tails
  · exact congrArg _

/-- The last frame of a type is the one that its cache stands for. -/
structure Coherent (client : ControlClient) (latest : Option (List UInt8)) : Prop where
  tabList : client.lastQueued .tabList = latest.map (encodeMessage .tabList)
  runtimeState : client.lastQueued .uiRuntimeState =
    client.lastUiRuntimeStatePayload.map (encodeMessage .uiRuntimeState)
  appearance : client.lastQueued .uiAppearance =
    client.lastUiAppearancePayload.map (encodeMessage .uiAppearance)

/-- A client has what it was sent in the last frame of the kind. -/
def CarriedBy (client : ControlClient) (received : Addressed) : Prop :=
  (client.receive received).lastQueued received.slot.messageType =
    some (encodeMessage received.slot.messageType received.payload)

variable {client} {latest : Option (List UInt8)}

private theorem map_encode_eq_some {ty : MessageType} {payload : List UInt8} :
    latest.map (encodeMessage ty) = some (encodeMessage ty payload) ↔ latest = some payload := by
  cases latest with
  | none => simp
  | some held => rw [Option.map_some, Option.some.injEq, encodeMessage_inj, Option.some.injEq]

theorem coherent_reply (coherent : Coherent client latest) (payload : List UInt8) :
    CarriedBy client (.reply payload) ∧ Coherent (client.receive (.reply payload)) (some payload) := by
  have last := fun ty => lastQueued_frame client ty .tabList payload
  refine ⟨?_, ?_, ?_, ?_⟩
  · exact (last .tabList).trans (if_pos rfl)
  · exact (last .tabList).trans (if_pos rfl)
  · exact (last .uiRuntimeState).trans ((if_neg (by decide)).trans coherent.runtimeState)
  · exact (last .uiAppearance).trans ((if_neg (by decide)).trans coherent.appearance)

theorem carriedBy_tabList (coherent : Coherent client latest) (payload : List UInt8) :
    CarriedBy client (.cached .tabList payload) ↔
      (client.lastTabListPayload = some payload → latest = some payload) := by
  show (client.sendCachedControlPayloadBytes .tabList payload).lastQueued .tabList =
    some (encodeMessage .tabList payload) ↔ _
  rw [ControlClient.sendCachedControlPayloadBytes, ControlClient.cacheSlot]
  split
  · rename_i held
    rw [coherent.tabList, map_encode_eq_some]
    exact ⟨fun same _ => same, fun same => same held⟩
  · rename_i missing
    rw [lastQueued_frame]
    exact ⟨fun _ held => absurd held missing, fun _ => if_pos rfl⟩

/-- A tab list through the cache leaves the last two payloads equal, if it is not lost. -/
theorem coherent_tabList (coherent : Coherent client latest) {payload : List UInt8}
    (agree : client.lastTabListPayload = some payload → latest = some payload) :
    (client.receive (.cached .tabList payload)).lastTabListPayload = some payload ∧
      Coherent (client.receive (.cached .tabList payload)) (some payload) := by
  show (client.sendCachedControlPayloadBytes .tabList payload).lastTabListPayload = some payload ∧
    Coherent (client.sendCachedControlPayloadBytes .tabList payload) (some payload)
  rw [ControlClient.sendCachedControlPayloadBytes, ControlClient.cacheSlot]
  split
  · rename_i held
    rw [← agree held]
    exact ⟨held.trans (agree held).symm, coherent⟩
  · have last := fun ty => lastQueued_frame (client.setCacheSlot payload .tabList) ty .tabList payload
    refine ⟨rfl, ?_, ?_, ?_⟩
    · exact (last .tabList).trans (if_pos rfl)
    · exact (last .uiRuntimeState).trans ((if_neg (by decide)).trans coherent.runtimeState)
    · exact (last .uiAppearance).trans ((if_neg (by decide)).trans coherent.appearance)

theorem carriedBy_runtimeState (coherent : Coherent client latest) (payload : List UInt8) :
    CarriedBy client (.cached .uiRuntimeState payload) ∧
      (client.receive (.cached .uiRuntimeState payload)).lastTabListPayload =
        client.lastTabListPayload ∧
      Coherent (client.receive (.cached .uiRuntimeState payload)) latest := by
  rw [CarriedBy]
  show (client.sendCachedControlPayloadBytes .uiRuntimeState payload).lastQueued .uiRuntimeState =
      some (encodeMessage .uiRuntimeState payload) ∧
    (client.sendCachedControlPayloadBytes .uiRuntimeState payload).lastTabListPayload =
      client.lastTabListPayload ∧
    Coherent (client.sendCachedControlPayloadBytes .uiRuntimeState payload) latest
  rw [ControlClient.sendCachedControlPayloadBytes, ControlClient.cacheSlot]
  split
  · rename_i held
    exact ⟨by rw [coherent.runtimeState, held, Option.map_some], rfl, coherent⟩
  · have last := fun ty =>
      lastQueued_frame (client.setCacheSlot payload .uiRuntimeState) ty .uiRuntimeState payload
    refine ⟨(last .uiRuntimeState).trans (if_pos rfl), rfl, ?_, ?_, ?_⟩
    · exact (last .tabList).trans ((if_neg (by decide)).trans coherent.tabList)
    · exact (last .uiRuntimeState).trans (if_pos rfl)
    · exact (last .uiAppearance).trans ((if_neg (by decide)).trans coherent.appearance)

theorem carriedBy_appearance (coherent : Coherent client latest) (payload : List UInt8) :
    CarriedBy client (.cached .uiAppearance payload) ∧
      (client.receive (.cached .uiAppearance payload)).lastTabListPayload =
        client.lastTabListPayload ∧
      Coherent (client.receive (.cached .uiAppearance payload)) latest := by
  rw [CarriedBy]
  show (client.sendCachedControlPayloadBytes .uiAppearance payload).lastQueued .uiAppearance =
      some (encodeMessage .uiAppearance payload) ∧
    (client.sendCachedControlPayloadBytes .uiAppearance payload).lastTabListPayload =
      client.lastTabListPayload ∧
    Coherent (client.sendCachedControlPayloadBytes .uiAppearance payload) latest
  rw [ControlClient.sendCachedControlPayloadBytes, ControlClient.cacheSlot]
  split
  · rename_i held
    exact ⟨by rw [coherent.appearance, held, Option.map_some], rfl, coherent⟩
  · have last := fun ty =>
      lastQueued_frame (client.setCacheSlot payload .uiAppearance) ty .uiAppearance payload
    refine ⟨(last .uiAppearance).trans (if_pos rfl), rfl, ?_, ?_, ?_⟩
    · exact (last .tabList).trans ((if_neg (by decide)).trans coherent.tabList)
    · exact (last .uiRuntimeState).trans ((if_neg (by decide)).trans coherent.runtimeState)
    · exact (last .uiAppearance).trans (if_pos rfl)

/-- One client: nothing it is sent gets lost exactly when the replies agree with the cache. -/
theorem carriedBy_always_iff (received : List Addressed) (coherent : Coherent client latest) :
    Always ControlClient.receive CarriedBy client received ↔
      RepliesAgree client.lastTabListPayload latest received := by
  induction received generalizing client latest with
  | nil => exact Iff.rfl
  | cons first later ih =>
      cases first with
      | reply payload =>
          obtain ⟨carried, next⟩ := coherent_reply coherent payload
          rw [Always, ih next, RepliesAgree]
          exact and_iff_right carried
      | cached slot payload =>
          cases slot with
          | tabList =>
              rw [Always, carriedBy_tabList coherent payload, RepliesAgree]
              refine and_congr_right fun agree => ?_
              obtain ⟨held, next⟩ := coherent_tabList coherent agree
              rw [ih next, held]
          | uiRuntimeState =>
              obtain ⟨carried, held, next⟩ := carriedBy_runtimeState coherent payload
              rw [Always, ih next, held, RepliesAgree]
              exact and_iff_right carried
          | uiAppearance =>
              obtain ⟨carried, held, next⟩ := carriedBy_appearance coherent payload
              rw [Always, ih next, held, RepliesAgree]
              exact and_iff_right carried

end Caches

section Run

variable (stateJson : UiRuntimeState → Option (List UInt8))
  (appearanceJson : UiAppearance → Option (List UInt8))

/-- What a client is sent depends on nothing that a send changes. -/
theorem receivedBy_receive (clientId : ClientId) (client : ControlClient) (received : Addressed)
    (sends : List ControlSend) :
    receivedBy stateJson appearanceJson clientId (client.receive received) sends =
      receivedBy stateJson appearanceJson clientId client sends := by
  have peers : (client.receive received).isLocal = client.isLocal ∧
      (client.receive received).subscribedToRuntime = client.subscribedToRuntime := by
    cases received with
    | reply payload => exact ⟨rfl, rfl⟩
    | cached slot payload =>
        show (client.sendCachedControlPayloadBytes slot payload).isLocal = _ ∧
          (client.sendCachedControlPayloadBytes slot payload).subscribedToRuntime = _
        rw [ControlClient.sendCachedControlPayloadBytes]
        split
        · exact ⟨rfl, rfl⟩
        · cases slot <;> exact ⟨rfl, rfl⟩
  have targets : ∀ send : ControlSend,
      send.targets clientId (client.receive received) = send.targets clientId client := by
    intro send
    cases send <;>
      simp [ControlSend.targets, only, localClientIds, localViewerClientIds, viewerClientIds,
        peers.1, peers.2]
  unfold receivedBy
  congr 1
  funext send
  rw [addressed, addressed, targets]

/-- The clients of a run do not depend on each other. -/
theorem carried_always_iff (sends : List ControlSend) (clients : Clients) :
    Always (step stateJson appearanceJson) (Carried stateJson appearanceJson) clients sends ↔
      ∀ clientId client, clients clientId = some client →
        Always ControlClient.receive CarriedBy client
          (receivedBy stateJson appearanceJson clientId client sends) := by
  induction sends generalizing clients with
  | nil => exact ⟨fun _ _ _ _ => trivial, fun _ => trivial⟩
  | cons send sends ih =>
      rw [Always, ih]
      have here : ∀ clientId client, clients clientId = some client →
          step stateJson appearanceJson clients send clientId =
            some ((addressed stateJson appearanceJson clientId client send).elim client
              client.receive) := by
        intro clientId client held
        rw [step, held, Option.map_some]
      constructor
      · rintro ⟨carried, later⟩ clientId client held
        have rest := later clientId _ (here clientId client held)
        rw [receivedBy, List.filterMap_cons]
        cases sent : addressed stateJson appearanceJson clientId client send with
        | none =>
            rw [sent] at rest
            exact rest
        | some received =>
            rw [sent] at rest
            obtain ⟨after, isAfter, last⟩ := carried clientId client held received sent
            rw [here clientId client held, sent] at isAfter
            cases isAfter
            refine ⟨last, ?_⟩
            rw [← receivedBy, ← receivedBy_receive stateJson appearanceJson clientId client received]
            exact rest
      · intro all
        refine ⟨?_, ?_⟩
        · intro clientId client held received sent
          have first := all clientId client held
          rw [receivedBy, List.filterMap_cons, sent] at first
          exact ⟨_, here clientId client held, sent ▸ first.1⟩
        · intro clientId after isAfter
          cases held : clients clientId with
          | none =>
              rw [step, held] at isAfter
              cases isAfter
          | some client =>
              have first := all clientId client held
              rw [here clientId client held] at isAfter
              cases isAfter
              rw [receivedBy, List.filterMap_cons] at first
              cases sent : addressed stateJson appearanceJson clientId client send with
              | none =>
                  rw [sent] at first
                  exact first
              | some received =>
                  rw [sent] at first
                  have rest := first.2
                  rw [← receivedBy, ← receivedBy_receive stateJson appearanceJson clientId client
                    received] at rest
                  exact rest

/-- Every send of a run leaves its payload in the last frame of its kind exactly when for each
client no tab list repeats the last cached one after a reply with another. -/
theorem controlSends_carried_iff (peers : ClientId → Option (Bool × Bool))
    (sends : List ControlSend) :
    Always (step stateJson appearanceJson) (Carried stateJson appearanceJson) (start peers) sends ↔
      ∀ clientId peer, peers clientId = some peer →
        RepliesAgree none none (receivedBy stateJson appearanceJson clientId
          (connected peer.1 peer.2) sends) := by
  rw [carried_always_iff]
  have fresh : ∀ peer : Bool × Bool, Coherent (connected peer.1 peer.2) none :=
    fun _ => ⟨rfl, rfl, rfl⟩
  constructor
  · intro all clientId peer held
    have connects : start peers clientId = some (connected peer.1 peer.2) := by
      rw [start, held, Option.map_some]
    exact (carriedBy_always_iff _ (fresh peer)).mp (all clientId _ connects)
  · intro all clientId client connects
    rw [start, Option.map_eq_some_iff] at connects
    obtain ⟨peer, held, rfl⟩ := connects
    exact (carriedBy_always_iff _ (fresh peer)).mpr (all clientId peer held)

/-- A client asks for the tabs while a tab is there that the sends before and after do not show. -/
def askedBetween : List ControlSend :=
  [.sendTabListToViewers [], .replyTabList 1 [⟨1, "", "", "", true, false⟩],
    .sendTabListToViewers []]

theorem tabList_skipped :
    ¬ ∀ (stateJson : UiRuntimeState → Option (List UInt8))
      (appearanceJson : UiAppearance → Option (List UInt8))
      (peers : ClientId → Option (Bool × Bool)) (sends : List ControlSend),
        Always (step stateJson appearanceJson) (Carried stateJson appearanceJson) (start peers)
          sends := by
  intro all
  have run := all (fun _ => none) (fun _ => none) (fun _ => some (false, true)) askedBetween
  have client := (carried_always_iff _ _ askedBetween _).mp run 1 (connected false true) rfl
  have fresh : Coherent (connected false true) none := ⟨rfl, rfl, rfl⟩
  have agree := (carriedBy_always_iff _ fresh).mp client
  have sent : receivedBy (fun _ => none) (fun _ => none) 1 (connected false true) askedBetween =
      [.cached .tabList (encodeTabList []),
        .reply (encodeTabList [⟨1, "", "", "", true, false⟩]),
        .cached .tabList (encodeTabList [])] := rfl
  rw [sent] at agree
  have same := Option.some.inj (agree.2.1 rfl)
  have lengths := congrArg List.length same
  revert lengths
  decide

end Run

end Boo.Server.ControlCache
