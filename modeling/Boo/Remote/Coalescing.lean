/- module: Boo/Remote/Coalescing
   digest: When a client of the coalescing batcher ends with the screens of the full queue. -/

import Boo.Server.View
import Boo.Wire.SwiftDelta

set_option autoImplicit false
set_option relaxedAutoImplicit false

namespace Boo.Remote.Coalescing

open Boo.Lib.LittleEndian
open Boo.Lib.SnapshotLog
open Boo.Wire.Message
open Boo.Wire.Delta
open Boo.Wire.Overlay
open Boo.Wire.SwiftCodec
open Boo.Wire.SwiftDelta
open Boo.Server.Frames
open Boo.Server.View
open Boo.Remote.Batcher

/-! The client: the wire reducer and the pane decoders of the mobile client, applied to every
frame it receives. -/

@[ext]
structure ClientScreens where
  screen : Option DecodedWireScreenState
  panes : PaneId → Option DecodedWireScreenState

def ClientScreens.at (screens : ClientScreens) : Slot → Option DecodedWireScreenState
  | .screen => screens.screen
  | .pane paneId => screens.panes paneId

theorem ClientScreens.eq_iff (screens others : ClientScreens) :
    screens = others ↔ ∀ slot, screens.at slot = others.at slot := by
  constructor
  · rintro rfl slot
    rfl
  · intro same
    ext1
    · exact same .screen
    · funext paneId
      exact same (.pane paneId)

def ClientScreens.setPane (screens : ClientScreens) (paneId : PaneId)
    (state : DecodedWireScreenState) : ClientScreens :=
  { screens with panes := Function.update screens.panes paneId (some state) }

def receiveFrame (isLocal : Bool) (screens : ClientScreens) (frame : List UInt8) :
    ClientScreens :=
  let payload := frame.drop headerLen
  match frameType frame with
  | some .fullState => { screens with screen := decodeFullState payload isLocal }
  | some .delta =>
      match screens.screen with
      | none => screens
      | some screen =>
          match applyDelta payload screen isLocal with
          | (true, applied) => { screens with screen := some applied }
          | (false, _) => screens
  | some .uiPaneFullState =>
      match decodePaneFullState payload with
      | none => screens
      | some (update, state) => screens.setPane update.paneId state
  | some .uiPaneDelta =>
      match decodePaneDelta payload with
      | none => screens
      | some (update, deltaPayload) =>
          match screens.panes update.paneId with
          | none => screens
          | some state =>
              match applyPaneDelta deltaPayload state with
              | (true, applied) => screens.setPane update.paneId applied
              | (false, _) => screens
  | _ => screens

def receive (isLocal : Bool) (screens : ClientScreens) (frames : List (List UInt8)) :
    ClientScreens :=
  frames.foldl (receiveFrame isLocal) screens

/-! The sender: what is queued for one client between two wake-ups of its writer. -/

/-- The sends to a client and the changes of its view that the sends read. -/
inductive StreamOp
  | sendState (source : PaneId) (nextState : Grid)
  | sendPaneState (header : PaneHeader) (nextState : Grid)
  | sendFrame (frame : ControlFrame)
  | touchView
  | focusPane (paneId : Option PaneId)
  | recordInputSeq (inputSeq : Option UInt64)
  | subscribe
  | unsubscribe

def StreamOp.perform (client : ClientState) : StreamOp → ClientState
  | sendState source nextState => client.sendStateToClient source nextState
  | sendPaneState header nextState => client.sendPaneStateToClient header nextState
  | sendFrame frame => client.sendFrame frame
  | touchView => client.updateView ClientRuntimeView.touchView
  | focusPane paneId => client.updateView fun view => { view with focusedPaneId := paneId }
  | recordInputSeq inputSeq => client.updateView fun view => view.recordInputSeq inputSeq
  | subscribe => client.updateView ClientRuntimeView.subscribe
  | unsubscribe => client.updateView ClientRuntimeView.unsubscribe

/-- The writer has taken everything out of the channel. -/
def taken (client : ClientState) : ClientState := { client with outbound := [] }

/-- The messages that each wake-up of the writer finds queued. -/
def queuedRounds (client : ClientState) : List (List StreamOp) → List (List (OutboundMessage Frame))
  | [] => []
  | ops :: rounds =>
      let after := ops.foldl StreamOp.perform (taken client)
      after.outbound :: queuedRounds after rounds

section Wire

variable (controlPayload : ControlFrame → List UInt8)

/-- The frames of a round, uncoalesced. -/
def queuedFrames (messages : List (OutboundMessage Frame)) : List (List UInt8) :=
  messages.map fun message => message.content.bytes controlPayload

/-- The frames that the writer puts on the wire for a round. -/
def emittedFrames (messages : List (OutboundMessage Frame)) : List (List UInt8) :=
  match messages.map (OutboundMessage.map (Frame.bytes controlPayload)) with
  | [] => []
  | first :: available => (collectOutboundBatch frameType true first available).frames

end Wire

/-! Slots: which updates reach which screen. -/

def updateIn (slot : Slot) : Frame → Option Update
  | .control _ => none
  | .screen _ _ _ update => if slot = .screen then some update else none
  | .pane header update => if slot = .pane header.paneId then some update else none

def structuredType (frame : Frame) : Option MessageType := some frame.messageType

def queuedUpdates (slot : Slot) (messages : List (OutboundMessage Frame)) : List Update :=
  messages.filterMap fun message => updateIn slot message.content

/-- A screen update survives when no later screen update stands before the next barrier; of a
pane, the last focused and the last unfocused update do, in this order. -/
def survivingUpdates (slot : Slot) (messages : List (OutboundMessage Frame)) : List Update :=
  ((messages.splitOnP (isBarrier structuredType)).flatMap (survivors slot)).filterMap
    (updateIn slot)

def render (state : Grid) : DecodedWireScreenState := decodedScreen state.val

def patch (delta : StateDelta) (screen : DecodedWireScreenState) : DecodedWireScreenState :=
  overlaid delta.previous.val delta.current.val screen

/-- Everything of a screen but its grid. -/
structure ScreenStamp where
  cursorX : UInt16
  cursorY : UInt16
  cursorVisible : Bool
  cursorBlinking : Bool
  cursorStyle : Int32
  rowReplica : Option DecodedRowReplicaMetadata
  deriving DecidableEq

def stampOf (screen : DecodedWireScreenState) : ScreenStamp where
  cursorX := screen.cursorX
  cursorY := screen.cursorY
  cursorVisible := screen.cursorVisible
  cursorBlinking := screen.cursorBlinking
  cursorStyle := screen.cursorStyle
  rowReplica := screen.rowReplica

/-- The row segments that a list of deltas writes, in order. -/
def segmentsOf (deltas : List StateDelta) : List ChangedRow :=
  deltas.flatMap fun delta => changedRows delta.previous.val delta.current.val

/-- The cell at a grid position once the deltas are applied to `start`: the one that the last
delta writing the position carries, else the one `start` has there. -/
def cellAfter (deltas : List StateDelta) (start : DecodedWireScreenState) (i : Nat) :
    Option DecodedWireCell :=
  start.cells[i]?.map fun own =>
    ((written start.rows.toNat start.cols.toNat i (segmentsOf deltas)).map decodedCell).getD own

def stampAfter (deltas : List StateDelta) (start : DecodedWireScreenState) : ScreenStamp :=
  match deltas.getLast? with
  | none => stampOf start
  | some delta => stampOf (patch delta start)

/-- Two logs leave the same grid dimensions, the same cell at every position, and the cursor
and row replica of their last message. -/
structure Agree (deltas others : List StateDelta) (start otherStart : DecodedWireScreenState) :
    Prop where
  rows : start.rows = otherStart.rows
  cols : start.cols = otherStart.cols
  cell : ∀ i, cellAfter deltas start i = cellAfter others otherStart i
  stamp : stampAfter deltas start = stampAfter others otherStart

/-- Nothing that the superseded messages of a slot carried is missing: the surviving messages
start from a full state, or the client's own screen, exactly when all queued ones do, and then
every position last written by a superseded message holds that cell anyway. -/
def Lossless (own : Option DecodedWireScreenState) (queued kept : List Update) : Prop :=
  match base render own queued, base render own kept with
  | none, none => True
  | some start, some otherStart =>
      Agree (patchesSince queued) (patchesSince kept) start otherStart
  | _, _ => False

private theorem patched (deltas : List StateDelta) (start : DecodedWireScreenState) :
    let final := deltas.foldl (fun screen delta => patch delta screen) start
    final.rows = start.rows ∧ final.cols = start.cols ∧
      final.cells = overlay decodedCell start.rows.toNat start.cols.toNat start.cells
        (segmentsOf deltas) ∧
      stampOf final = stampAfter deltas start := by
  induction deltas generalizing start with
  | nil => exact ⟨rfl, rfl, rfl, rfl⟩
  | cons delta deltas ih =>
      obtain ⟨rows, cols, cells, stamp⟩ := ih (patch delta start)
      have segments : segmentsOf (delta :: deltas) =
          changedRows delta.previous.val delta.current.val ++ segmentsOf deltas := List.flatMap_cons
      refine ⟨rows, cols, ?_, ?_⟩
      · rw [List.foldl_cons, cells, segments, overlay_append]
        rfl
      · rw [List.foldl_cons, stamp, stampAfter, stampAfter, List.getLast?_cons]
        cases deltas.getLast? <;> rfl

private theorem screen_eq_iff (screen other : DecodedWireScreenState) :
    screen = other ↔ screen.rows = other.rows ∧ screen.cols = other.cols ∧
      (∀ i : Nat, screen.cells[i]? = other.cells[i]?) ∧ stampOf screen = stampOf other := by
  constructor
  · rintro rfl
    exact ⟨rfl, rfl, fun _ => rfl, rfl⟩
  · rintro ⟨rows, cols, cells, stamp⟩
    have grid := List.ext_getElem? cells
    cases screen
    cases other
    simp only [stampOf, ScreenStamp.mk.injEq] at stamp
    simp_all

private theorem patched_eq_iff (deltas others : List StateDelta)
    (start otherStart : DecodedWireScreenState) :
    deltas.foldl (fun screen delta => patch delta screen) start =
        others.foldl (fun screen delta => patch delta screen) otherStart ↔
      Agree deltas others start otherStart := by
  obtain ⟨rows, cols, cells, stamp⟩ := patched deltas start
  obtain ⟨rows', cols', cells', stamp'⟩ := patched others otherStart
  rw [screen_eq_iff, rows, cols, cells, stamp, rows', cols', cells', stamp']
  simp only [getElem?_overlay]
  constructor
  · rintro ⟨hRows, hCols, hCells, hStamp⟩
    exact ⟨hRows, hCols, hCells, hStamp⟩
  · rintro ⟨hRows, hCols, hCells, hStamp⟩
    exact ⟨hRows, hCols, hCells, hStamp⟩

/-- Two update logs of a slot end in the same screen exactly when nothing is lost. -/
theorem replay_eq_iff (own : Option DecodedWireScreenState) (queued kept : List Update) :
    replay render patch own kept = replay render patch own queued ↔
      Lossless own queued kept := by
  rw [replay_eq, replay_eq, Lossless]
  cases base render own queued with
  | none => cases base render own kept <;> simp
  | some start =>
      cases base render own kept with
      | none => simp
      | some otherStart =>
          rw [Option.map_some, Option.map_some, Option.some_inj, eq_comm]
          exact patched_eq_iff (patchesSince queued) (patchesSince kept) start otherStart

/-- Superseding is harmless when the newest update is a full state. -/
theorem lossless_of_full (own : Option DecodedWireScreenState) (queued kept : List Update)
    (state : Grid) : Lossless own (queued ++ [.full state]) (kept ++ [.full state]) := by
  rw [← replay_eq_iff, replay_append, replay_append]
  rfl

/-! Receiving the bytes of a frame applies its update to its slot. -/

/-- A message that the sends to a client with this prefix flag produce. -/
def Tagged (isLocal : Bool) : OutboundMessage Frame → Prop
  | .frame (.control _) => True
  | .screenUpdate (.screen _ _ flag _) => flag = isLocal
  | .paneUpdate paneId _ (.pane header _) => paneId = header.paneId
  | _ => False

def FitsClient (isLocal : Bool) : Frame → Prop
  | .screen _ _ flag _ => flag = isLocal
  | _ => True

theorem Tagged.fitsClient {isLocal : Bool} {message : OutboundMessage Frame}
    (tagged : Tagged isLocal message) : FitsClient isLocal message.content := by
  cases message with
  | frame frame => cases frame <;> trivial
  | screenUpdate frame =>
      cases frame with
      | screen source seq flag update => exact tagged
      | _ => trivial
  | paneUpdate paneId focused frame =>
      cases frame with
      | pane header update => trivial
      | _ => cases tagged

theorem Tagged.reads {isLocal : Bool} {message : OutboundMessage Frame}
    (tagged : Tagged isLocal message) (slot : Slot) : Reads slot (updateIn slot) message := by
  intro outside
  cases message with
  | frame frame =>
      cases frame with
      | control frame => rfl
      | _ => cases tagged
  | screenUpdate frame =>
      cases frame with
      | screen source seq flag update =>
          by_cases here : slot = .screen
          · simp [slotFrame, leading, here] at outside
          · simp [OutboundMessage.content, updateIn, here]
      | _ => cases tagged
  | paneUpdate paneId focused frame =>
      cases frame with
      | pane header update =>
          have same : paneId = header.paneId := tagged
          by_cases here : slot = .pane header.paneId
          · cases focused <;> simp [slotFrame, leading, trailing, here, same] at outside
          · simp [OutboundMessage.content, updateIn, here]
      | _ => cases tagged

theorem StateDelta.sameShape (delta : StateDelta) :
    SameShape delta.previous.val delta.current.val := by
  obtain ⟨rows, cols⟩ := encodeDelta_dims (delta.encodeDelta_eq none true)
  exact ⟨delta.previous.property, delta.current.property, rows, cols⟩

private theorem applyDelta_payload (delta : StateDelta) (seq : Option UInt64) (isLocal : Bool)
    (screen : DecodedWireScreenState) :
    applyDelta (updatePayload seq isLocal (.patch delta)) screen isLocal =
      (true, patch delta screen) :=
  applyDelta_encodeDelta (StateDelta.sameShape delta) (delta.encodeDelta_eq seq isLocal) screen

private theorem drop_header (ty : MessageType) (payload : List UInt8) :
    (encodeMessage ty payload).drop headerLen = payload := by
  rw [encodeMessage, List.drop_left']
  simp [magic, headerLen]

private theorem length_encode (header : PaneHeader) (payload : List UInt8) :
    (header.encode payload).length = uiPaneUpdateHeaderLen + payload.length := by
  simp only [PaneHeader.encode, encodeUiPaneUpdatePayload, List.length_append, length_leU32,
    length_leU64, uiPaneUpdateHeaderLen]

private theorem drop_encode (header : PaneHeader) (payload : List UInt8) :
    (header.encode payload).drop uiPaneUpdateHeaderLen = payload := by
  rw [PaneHeader.encode, encodeUiPaneUpdatePayload, List.drop_left']
  simp only [List.length_append, length_leU32, length_leU64, uiPaneUpdateHeaderLen]

private theorem decode_header (header : PaneHeader) (payload : List UInt8) :
    (decodePaneUpdateHeader (header.encode payload)).paneId = header.paneId := by
  have h0 : Rest (header.encode payload) 0 (header.encode payload) := rest_zero _
  nth_rewrite 2 [PaneHeader.encode] at h0
  rw [encodeUiPaneUpdatePayload] at h0
  simp only [List.append_assoc] at h0
  have h4 := h0.skip
  rw [length_leU32] at h4
  exact u64At_rest h4

private theorem decodePaneFullState_bytes (header : PaneHeader) (state : Grid) :
    decodePaneFullState (header.encode (updatePayload none true (.full state))) =
      some (decodePaneUpdateHeader (header.encode (updatePayload none true (.full state))),
        render state) := by
  have long : ¬ (header.encode (updatePayload none true (.full state))).length <
      uiPaneUpdateHeaderLen := by
    rw [length_encode]
    omega
  rw [decodePaneFullState, if_neg long]
  dsimp only
  rw [drop_encode, updatePayload, decodeFullState_encodeFullState state.property]
  rfl

private theorem decodePaneDelta_bytes (header : PaneHeader) (payload : List UInt8) :
    decodePaneDelta (header.encode payload) =
      some (decodePaneUpdateHeader (header.encode payload), payload) := by
  have long : ¬ (header.encode payload).length < uiPaneUpdateHeaderLen := by
    rw [length_encode]
    omega
  rw [decodePaneDelta, if_neg long, drop_encode]

private theorem at_setPane (screens : ClientScreens) (paneId : PaneId)
    (state : DecodedWireScreenState) (slot : Slot) :
    (screens.setPane paneId state).at slot =
      if slot = .pane paneId then some state else screens.at slot := by
  cases slot with
  | screen => rfl
  | pane other => simp [ClientScreens.setPane, ClientScreens.at, Function.update_apply]

/-- Where a frame leads a client: one update step in the frame's slot, nothing elsewhere. -/
theorem receiveFrame_at (controlPayload : ControlFrame → List UInt8) {isLocal : Bool}
    {frame : Frame} (fits : FitsClient isLocal frame) (screens : ClientScreens) (slot : Slot) :
    (receiveFrame isLocal screens (frame.bytes controlPayload)).at slot =
      match updateIn slot frame with
      | none => screens.at slot
      | some update => step render patch (screens.at slot) update := by
  rw [receiveFrame, Frame.bytes, frameType_encodeMessage, drop_header]
  cases frame with
  | control frame =>
      have quiet := frame.not_carriesScreen
      simp only [CarriesScreen, not_or] at quiet
      obtain ⟨notFull, notDelta, notPaneFull, notPaneDelta⟩ := quiet
      simp only [Frame.messageType, updateIn]
      split <;> simp_all
  | screen source seq flag update =>
      have same : flag = isLocal := fits
      subst same
      cases update with
      | full state =>
          have decoded := decodeFullState_encodeFullState state.property seq flag
          simp only [Frame.messageType, Frame.payload, updatePayload, decoded, updateIn]
          cases slot <;> rfl
      | patch delta =>
          simp only [Frame.messageType, Frame.payload, updateIn]
          cases held : screens.screen with
          | none => cases slot <;> simp [ClientScreens.at, held, step]
          | some screen =>
              simp only [applyDelta_payload]
              cases slot <;> simp [ClientScreens.at, held, step]
  | pane header update =>
      cases update with
      | full state =>
          simp only [Frame.messageType, Frame.payload, decodePaneFullState_bytes, decode_header,
            at_setPane, updateIn]
          split <;> rfl
      | patch delta =>
          simp only [Frame.messageType, Frame.payload, decodePaneDelta_bytes, decode_header,
            updateIn]
          cases held : screens.panes header.paneId with
          | none =>
              dsimp only
              by_cases here : slot = .pane header.paneId
              · simp [here, ClientScreens.at, held, step]
              · simp [here]
          | some state =>
              simp only [applyPaneDelta, applyDelta_payload, at_setPane]
              by_cases here : slot = .pane header.paneId
              · simp [here, ClientScreens.at, held, step]
              · simp [here]

theorem receive_at (controlPayload : ControlFrame → List UInt8) {isLocal : Bool}
    (frames : List Frame) (fits : ∀ frame ∈ frames, FitsClient isLocal frame)
    (screens : ClientScreens) (slot : Slot) :
    (receive isLocal screens (frames.map (Frame.bytes controlPayload))).at slot =
      replay render patch (screens.at slot) (frames.filterMap (updateIn slot)) := by
  induction frames generalizing screens with
  | nil => rfl
  | cons frame frames ih =>
      have later := ih (fun other member => fits other (List.mem_cons_of_mem _ member))
        (receiveFrame isLocal screens (frame.bytes controlPayload))
      have now := receiveFrame_at controlPayload (fits frame List.mem_cons_self) screens slot
      rw [List.map_cons, List.filterMap_cons]
      refine later.trans ?_
      rw [now]
      cases updateIn slot frame with
      | none => rfl
      | some update => rfl

/-! Every message in the queue is tagged with its slot. -/

def QueueTagged (client : ClientState) : Prop :=
  ∀ message ∈ client.outbound, Tagged client.isLocal message

private theorem queueTagged_queue {client : ClientState} {message : OutboundMessage Frame}
    (tagged : QueueTagged client) (fresh : Tagged client.isLocal message) :
    QueueTagged (client.queue message) := by
  intro other member
  rw [ClientState.queue, List.mem_append, List.mem_singleton] at member
  rcases member with old | rfl
  · exact tagged other old
  · exact fresh

theorem queueTagged_perform {client : ClientState} (tagged : QueueTagged client) (op : StreamOp) :
    (op.perform client).isLocal = client.isLocal ∧ QueueTagged (op.perform client) := by
  cases op with
  | sendState source nextState =>
      rw [StreamOp.perform, ClientState.sendStateToClient]
      split
      · exact ⟨rfl, @queueTagged_queue (client.updateView _) _ tagged rfl⟩
      · exact ⟨rfl, tagged⟩
  | sendPaneState header nextState =>
      rw [StreamOp.perform, ClientState.sendPaneStateToClient]
      split
      · exact ⟨rfl, @queueTagged_queue (client.updateView _) _ tagged rfl⟩
      · exact ⟨rfl, tagged⟩
  | sendFrame frame => exact ⟨rfl, queueTagged_queue tagged trivial⟩
  | touchView => exact ⟨rfl, tagged⟩
  | focusPane paneId => exact ⟨rfl, tagged⟩
  | recordInputSeq inputSeq => exact ⟨rfl, tagged⟩
  | subscribe => exact ⟨rfl, tagged⟩
  | unsubscribe => exact ⟨rfl, tagged⟩

private theorem queueTagged_foldl (ops : List StreamOp) {client : ClientState}
    (tagged : QueueTagged client) :
    (ops.foldl StreamOp.perform client).isLocal = client.isLocal ∧
      QueueTagged (ops.foldl StreamOp.perform client) := by
  induction ops generalizing client with
  | nil => exact ⟨rfl, tagged⟩
  | cons op ops ih =>
      obtain ⟨flag, next⟩ := queueTagged_perform tagged op
      obtain ⟨later, final⟩ := ih next
      exact ⟨later.trans flag, final⟩

theorem tagged_queuedRounds (client : ClientState) (rounds : List (List StreamOp)) :
    ∀ messages ∈ queuedRounds client rounds, ∀ message ∈ messages,
      Tagged client.isLocal message := by
  induction rounds generalizing client with
  | nil => simp [queuedRounds]
  | cons ops rounds ih =>
      obtain ⟨flag, tagged⟩ := @queueTagged_foldl ops (taken client)
        (fun _ member => by cases member)
      intro messages member message inside
      rw [queuedRounds, List.mem_cons] at member
      rcases member with rfl | later
      · have here := tagged message inside
        rw [flag] at here
        exact here
      · have there := ih _ messages later message inside
        rw [flag] at there
        exact there

/-! The client of the batcher and the client of the whole queue, slot by slot. -/

section Clients

variable (controlPayload : ControlFrame → List UInt8) {isLocal : Bool}

private theorem receive_append (screens : ClientScreens) (frames more : List (List UInt8)) :
    receive isLocal screens (frames ++ more) =
      receive isLocal (receive isLocal screens frames) more :=
  List.foldl_append

theorem receive_queued (messages : List (OutboundMessage Frame))
    (tagged : ∀ message ∈ messages, Tagged isLocal message) (screens : ClientScreens)
    (slot : Slot) :
    (receive isLocal screens (queuedFrames controlPayload messages)).at slot =
      replay render patch (screens.at slot) (queuedUpdates slot messages) := by
  have fits : ∀ frame ∈ messages.map OutboundMessage.content, FitsClient isLocal frame := by
    intro frame member
    obtain ⟨message, inside, rfl⟩ := List.mem_map.mp member
    exact (tagged message inside).fitsClient
  have received := receive_at controlPayload (messages.map OutboundMessage.content) fits screens slot
  rw [List.map_map, List.filterMap_map] at received
  exact received

theorem receive_emitted (messages : List (OutboundMessage Frame))
    (tagged : ∀ message ∈ messages, Tagged isLocal message) (screens : ClientScreens)
    (slot : Slot) :
    (receive isLocal screens (emittedFrames controlPayload messages)).at slot =
      replay render patch (screens.at slot) (survivingUpdates slot messages) := by
  cases messages with
  | nil => rfl
  | cons first available =>
      have bytes := frames_collectOutboundBatch_map (Frame.bytes controlPayload) structuredType
        frameType (fun frame => frameType_encodeMessage _ _) true first available
      have fits := collectOutboundBatch_forall (P := FitsClient isLocal) structuredType true first
        available fun message member => (tagged message member).fitsClient
      rw [emittedFrames, List.map_cons]
      dsimp only
      rw [bytes, receive_at controlPayload _ fits,
        collectOutboundBatch_slot structuredType slot (updateIn slot) first available
          fun message member => (tagged message member).reads slot]
      rfl

/-- Over any number of rounds, each client replays its own update log of every slot. -/
theorem receive_rounds (deliver : List (OutboundMessage Frame) → List (List UInt8))
    (log : Slot → List (OutboundMessage Frame) → List Update)
    (rounds : List (List (OutboundMessage Frame)))
    (delivers : ∀ messages ∈ rounds, ∀ screens slot,
      (receive isLocal screens (deliver messages)).at slot =
        replay render patch (screens.at slot) (log slot messages))
    (screens : ClientScreens) (slot : Slot) :
    (receive isLocal screens (rounds.flatMap deliver)).at slot =
      replay render patch (screens.at slot) (rounds.flatMap (log slot)) := by
  induction rounds generalizing screens with
  | nil => rfl
  | cons messages rounds ih =>
      rw [List.flatMap_cons, List.flatMap_cons, receive_append, replay_append,
        ih (fun other member => delivers other (List.mem_cons_of_mem _ member)),
        delivers messages List.mem_cons_self]

end Clients

/-- The final screen of a slot for both clients, whatever was queued and wherever the writer
woke up. -/
theorem received_at (controlPayload : ControlFrame → List UInt8) (client : ClientState)
    (rounds : List (List StreamOp)) (screens : ClientScreens) (slot : Slot) :
    (receive client.isLocal screens
        ((queuedRounds client rounds).flatMap (emittedFrames controlPayload))).at slot =
      replay render patch (screens.at slot)
        ((queuedRounds client rounds).flatMap (survivingUpdates slot)) ∧
    (receive client.isLocal screens
        ((queuedRounds client rounds).flatMap (queuedFrames controlPayload))).at slot =
      replay render patch (screens.at slot)
        ((queuedRounds client rounds).flatMap (queuedUpdates slot)) := by
  have tagged := tagged_queuedRounds client rounds
  constructor
  · exact receive_rounds (emittedFrames controlPayload) survivingUpdates _
      (fun messages member screens slot =>
        receive_emitted controlPayload messages (tagged messages member) screens slot) screens slot
  · exact receive_rounds (queuedFrames controlPayload) queuedUpdates _
      (fun messages member screens slot =>
        receive_queued controlPayload messages (tagged messages member) screens slot) screens slot

/-- Coalescing preserves every screen of the client exactly when it loses no update. -/
theorem coalescing_preserves_iff (controlPayload : ControlFrame → List UInt8)
    (client : ClientState) (rounds : List (List StreamOp)) (screens : ClientScreens) :
    receive client.isLocal screens
        ((queuedRounds client rounds).flatMap (emittedFrames controlPayload)) =
      receive client.isLocal screens
        ((queuedRounds client rounds).flatMap (queuedFrames controlPayload)) ↔
    ∀ slot, Lossless (screens.at slot)
      ((queuedRounds client rounds).flatMap (queuedUpdates slot))
      ((queuedRounds client rounds).flatMap (survivingUpdates slot)) := by
  rw [ClientScreens.eq_iff]
  apply forall_congr'
  intro slot
  obtain ⟨emitted, queued⟩ := received_at controlPayload client rounds screens slot
  rw [emitted, queued, replay_eq_iff]

/-- The state with the given first and last cell, the other two blank. -/
def cornerGrid (first last : UInt32) : Grid :=
  smallScreen first 0 0 last

/-- A remote client that has been sent `recorded`. -/
def streamingClient (recorded : Grid) : ClientState where
  outbound := []
  isLocal := false
  runtimeView := { ClientRuntimeView.idle with
    subscribedToRuntime := true
    lastState := some recorded }

/-- Two deltas queued before the writer wakes: the first cell never reaches the client. -/
theorem coalescing_loses_superseded_delta :
    let screens : ClientScreens := ⟨some (render (cornerGrid 0 0)), fun _ => none⟩
    let client := streamingClient (cornerGrid 0 0)
    let rounds := [[.sendState 1 (cornerGrid 65 0), .sendState 1 (cornerGrid 65 66)]]
    receive client.isLocal screens
        ((queuedRounds client rounds).flatMap (emittedFrames fun _ => [])) ≠
      receive client.isLocal screens
        ((queuedRounds client rounds).flatMap (queuedFrames fun _ => [])) := by
  intro screens client rounds same
  obtain ⟨emitted, queued⟩ := received_at (fun _ => []) client rounds screens .screen
  rw [same, queued] at emitted
  have cells := congrArg (Option.map DecodedWireScreenState.cells) emitted
  revert cells
  decide

end Boo.Remote.Coalescing
