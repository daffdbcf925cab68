import TermPlux.Machine
import TermPlux.Placement
import TermPlux.Graphics
import TermPlux.FrameState
import TermPlux.LiveRequest
import TermPlux.ClipboardSync
import TermPlux.Overwrites
import TermPlux.XKeySymAndroid
import TermPlux.SchemaMigration
import TermPlux.MainDb
import TermPlux.Utf16
import TermPlux.TermPty
import TermPlux.CLoops
import TermPlux.NativeVnc
import TermPlux.Paths
import TermPlux.FileTree
import TermPlux.CandidateSearch
import TermPlux.DocumentsProvider
import TermPlux.XKeySymUnicode
import TermPlux.HeldKeys
import TermPlux.KeyHandler
import TermPlux.KeyHandlerRuns
import TermPlux.BitMask
import TermPlux.Messenger
import TermPlux.Drain
import TermPlux.Dispatcher
import TermPlux.TouchHandler
import TermPlux.TouchRuns
import TermPlux.FrameRuns
import TermPlux.FrameScroller
import TermPlux.PinchZoom
import TermPlux.Reconnection
import TermPlux.RecordCodec
import TermPlux.ServerProfile
import TermPlux.ServerProfileDao
import TermPlux.PrefsViewModel
import TermPlux.Discovery
import TermPlux.LiveData
import TermPlux.Delivery
import TermPlux.LiveEvent
import TermPlux.PointerBounds
import TermPlux.PointerPositions
import TermPlux.RowMajor
import TermPlux.CursorComposition
import TermPlux.LevelOrder
import TermPlux.LinkedTree
import TermPlux.DocumentSearch
import TermPlux.DocumentRepeats
import TermPlux.DocumentMatches
import TermPlux.SerialQueue
import TermPlux.ServiceResolution
import TermPlux.DiscoveredServers
import TermPlux.FakeShift
import TermPlux.SwipeDecision
import TermPlux.RemoteScroll
import TermPlux.FrameVisibility
import TermPlux.CutText
import TermPlux.MessageQueue
import TermPlux.VirtualKeys
import TermPlux.LinkedMap
import TermPlux.JsonValue
import TermPlux.JsonText
import TermPlux.Default
import TermPlux.ContainerProps
import TermPlux.DocumentCreation
import TermPlux.Fitting
import TermPlux.BaseScale
import TermPlux.SearchTable
import TermPlux.LegacyKeysym
import TermPlux.PointerMoves
import TermPlux.BoxSwitches
import TermPlux.TextLines
import TermPlux.ShellCommands
import TermPlux.WineSwitch
import TermPlux.LoginFragment
import TermPlux.Connection
import TermPlux.ConnectionRuns
import TermPlux.ConnectionCleanup
import TermPlux.ByteDecoder
import TermPlux.RfbSocket
import TermPlux.Raster
import TermPlux.FrameBuffer
import TermPlux.Subrects
import TermPlux.RawEncoding
import TermPlux.RreEncoding
import TermPlux.HextileColours
import TermPlux.HextileEncoding
import TermPlux.FramebufferUpdate
import TermPlux.CopyRegion
import TermPlux.ScreenUpdates
import TermPlux.SpanList
import TermPlux.SpanSets
import TermPlux.SraRegion
import TermPlux.ServerScreen
import TermPlux.UpdateRequests
import TermPlux.ScreenSession
