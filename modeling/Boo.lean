import Boo.Lib.LittleEndian
import Boo.Lib.WriteRun
import Boo.Wire.Message
import Boo.Wire.Delta
import Boo.Wire.Overlay
import Boo.Wire.SwiftCodec
import Boo.Wire.SwiftDelta
import Boo.Client.Snapshot
import Boo.Client.SnapshotDelta
import Boo.Lib.TickStream
import Boo.Remote.ReadLoop
import Boo.Remote.Reassembly
import Boo.Lib.KeyedList
import Boo.Lib.SnapshotLog
import Boo.Server.Frames
import Boo.Lib.Segments
import Boo.Remote.Batcher
import Boo.Server.View
import Boo.Remote.Coalescing
import Boo.Remote.Recency
import Boo.Lib.Script
import Boo.Runtime.Splits
import Boo.Runtime.Tabs
import Boo.Runtime.Ui
import Boo.Server.RowCache
import Boo.Server.App
import Boo.Server.Actions
import Boo.Server.Handlers
import Boo.Server.Streams
import Boo.Server.StreamSteps
import Boo.Client.FullStates
import Boo.Server.RowRanges
import Boo.Server.StatusComponents
import Boo.Server.PaneStores
import Boo.Server.InputRouting
import Boo.Server.ViewIsolation
import Boo.Server.ActionAcks
import Boo.Server.InputAcks
import Boo.Server.PaneLog
import Boo.Server.TabRuns
import Boo.Server.TabPublication
import Boo.Server.ViewValidity
import Boo.Server.ToldViews
import Boo.Ios.ProtocolClient
import Boo.Lib.Runs
import Boo.Ios.Deliveries
import Boo.Ios.ClientSteps
import Boo.Ios.History
import Boo.Ios.RowRequests
import Boo.Ios.RowReplica
import Boo.Ios.LegacyScreen
import Boo.Ios.PaneBase
import Boo.Runtime.Exits
import Boo.Server.PolledOutput
import Boo.Client.Gui
import Boo.Server.Outbound
import Boo.Client.GuiMirror
import Boo.Client.RowRevisions
import Boo.Remote.AuthOk
import Boo.Remote.TabList
import Boo.Runtime.OverlayInput
import Boo.Runtime.TabOps
import Boo.Runtime.PaneCount
import Boo.Runtime.ClosedPanes
import Boo.Runtime.FullRefresh
import Boo.Lib.TextLines
import Boo.Runtime.LayoutReload
import Boo.Server.Wakeup
import Boo.Remote.BatchAccounts
import Boo.Runtime.PtyBacklog
import Boo.Runtime.OscObservation
import Boo.Server.ControlCache
import Boo.Server.RowRetention
import Boo.Server.StaleRows
import Boo.Server.WireAdapters
import Boo.Wire.TruncatedDelta
import Boo.Lib.Records
import Boo.Client.CheckedDecoders
import Boo.Client.CheckedDelta
import Boo.Client.DecoderSafety
import Boo.Server.GuiCoherence
import Boo.Lib.KeyedParts
import Boo.Runtime.Notifications
import Boo.Runtime.OscSequences
import Boo.Runtime.Hyperlinks
import Boo.Lib.TrimmedJoins
import Boo.Runtime.WordMotion
import Boo.Runtime.SelectionText
import Boo.Runtime.CopySelection
import Boo.Runtime.CopiedRegion
import Boo.Lib.Entries
import Boo.Lib.FirstFound
import Boo.Runtime.CopyMode
import Boo.Runtime.Paragraphs
import Boo.Runtime.CopyModeBounds
import Boo.Runtime.KeptFocus
import Boo.Runtime.CopyModeAgreement
import Boo.Remote.FocusOrder
import Boo.Server.FocusAttribution
import Boo.Runtime.BackgroundRemoval
import Boo.Runtime.Brackets
import Boo.Runtime.SplitContexts
import Boo.Runtime.LeafRemoval
import Boo.Runtime.KeyboardResize
import Boo.Lib.Spans
import Boo.Runtime.PaneFrames
import Boo.Runtime.SplitSites
import Boo.Runtime.DividerDrag
import Boo.Lib.KeptBest
import Boo.Runtime.DirectionalFocus
import Boo.Runtime.LayoutTitles
import Boo.Runtime.NamedLayouts
import Boo.Runtime.PreviousTab
import Boo.Lib.Numerals
import Boo.Tmux.Layouts
import Boo.Lib.ByteOffsets
import Boo.Tmux.Escapes
import Boo.Settings.Durations
import Boo.Tmux.Events
import Boo.Tmux.Blocks
import Boo.Lib.Tables
import Boo.Settings.Parsing
import Boo.Settings.Totality
import Boo.Settings.Keybinds
import Boo.Settings.BindOrder
import Boo.Settings.ConfiguredKeys
import Boo.Settings.Quotes
import Boo.Lib.Descriptors
import Boo.Runtime.PtyDescriptors
import Boo.Client.RowRuns
import Boo.Client.SelectionSpans
import Boo.Lib.DepthFirst
import Boo.Remote.DirectTransport
import Boo.Runtime.PaneWorker
import Boo.Runtime.StoppedWorkers
import Boo.Settings.Includes
import Boo.Client.RowBands
import Boo.Remote.ClientSessions
import Boo.Server.StatusBar
import Boo.Client.TextLayer
import Boo.Ios.ConnectionMonitor
import Boo.Runtime.SnapshotMirror
import Boo.Ios.Heartbeats
