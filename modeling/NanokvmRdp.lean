import NanokvmRdp.Lib.BigEndian
import NanokvmRdp.Lib.RingBuffer
import NanokvmRdp.Protocol.Frame
import NanokvmRdp.Protocol.Receive
import NanokvmRdp.Protocol.Framing
import NanokvmRdp.Lib.BoundedBuffer
import NanokvmRdp.Rtp.AccessUnit
import NanokvmRdp.Rtp.Reassembler
import NanokvmRdp.Rtp.Client
import NanokvmRdp.Lib.Allocation
import NanokvmRdp.Rtp.Buffers
import NanokvmRdp.Rtp.BufferLaws
import NanokvmRdp.Rtp.Link
import NanokvmRdp.Rtp.RoundTrip
import NanokvmRdp.Rtp.Loss
import NanokvmRdp.Rtp.Markers
import NanokvmRdp.Rtp.Fragments
import NanokvmRdp.Rtp.Oversize
import NanokvmRdp.Hid.QueueOrder
import NanokvmRdp.Hid.Buttons
import NanokvmRdp.Hid.EndpointOrder
import NanokvmRdp.Hid.PointerOrder
import NanokvmRdp.Agent.Convergence
import NanokvmRdp.Lib.Machine
import NanokvmRdp.Lib.Log
import NanokvmRdp.Gateway.FrameFlow
import NanokvmRdp.Gateway.FlowLaws
import NanokvmRdp.Lib.Ledger
import NanokvmRdp.Gateway.FlowArrays
import NanokvmRdp.Gateway.FlowLedger
import NanokvmRdp.Gateway.Pacing
import NanokvmRdp.Gateway.Admission
import NanokvmRdp.Gateway.Slots
import NanokvmRdp.Gateway.VideoThread
import NanokvmRdp.Gateway.ReferenceChain
import NanokvmRdp.Gateway.Transport
import NanokvmRdp.Gateway.TransportLaws
import NanokvmRdp.Gateway.Heartbeat
import NanokvmRdp.Gateway.Stream
import NanokvmRdp.Gateway.StreamCalls
import NanokvmRdp.Lib.Erasure
import NanokvmRdp.Gateway.Connections
import NanokvmRdp.Lib.Pieces
import NanokvmRdp.Lib.Utf8
import NanokvmRdp.Lib.Memory
import NanokvmRdp.Lib.CString
import NanokvmRdp.Lib.Unsigned
import NanokvmRdp.Gateway.Wires
import NanokvmRdp.Gateway.WireLaws
import NanokvmRdp.Gateway.WireFrames
import NanokvmRdp.Agent.Buttons
import NanokvmRdp.Agent.Modifiers
import NanokvmRdp.Gateway.InputRouter
import NanokvmRdp.Gateway.Routing
import NanokvmRdp.Gateway.HeldInput
import NanokvmRdp.Gateway.Keepalive
import NanokvmRdp.Gateway.H264
import NanokvmRdp.Gateway.ParameterSets
import NanokvmRdp.Gateway.NalScan
import NanokvmRdp.Gateway.RebuiltMask
import NanokvmRdp.Gateway.VideoSource
import NanokvmRdp.Gateway.DeviceSession
import NanokvmRdp.Gateway.Recovery
import NanokvmRdp.Gateway.Tiles
import NanokvmRdp.Gateway.TileLaws
import NanokvmRdp.Gateway.Progressive
import NanokvmRdp.Gateway.BitmapOutput
import NanokvmRdp.Gateway.ClientSession
import NanokvmRdp.Hid.Typing
import NanokvmRdp.Hid.Codec
import NanokvmRdp.Hid.TypedText
import NanokvmRdp.Hid.Rest
import NanokvmRdp.Hid.RelativeMotion
import NanokvmRdp.Gateway.HttpText
import NanokvmRdp.Gateway.HttpUnicode
import NanokvmRdp.Gateway.HttpPointer
import NanokvmRdp.Gateway.PointerMapping
import NanokvmRdp.Gateway.WheelAgreement
import NanokvmRdp.Gateway.UnicodeCodec
import NanokvmRdp.Gateway.JsonText
import NanokvmRdp.Gateway.HttpRequest
import NanokvmRdp.Gateway.HttpFragments
import NanokvmRdp.Agent.Settled
import NanokvmRdp.Agent.PasteOrder
import NanokvmRdp.Agent.TextDelivery
import NanokvmRdp.Agent.VideoLoop
import NanokvmRdp.Gateway.Config
import NanokvmRdp.Gateway.PeerThreads
import NanokvmRdp.Gateway.PeerLaws
import NanokvmRdp.Lib.Chain
import NanokvmRdp.Gateway.HttpVideo
import NanokvmRdp.Gateway.Handover
import NanokvmRdp.Gateway.Snapshot
import NanokvmRdp.Gateway.SnapshotLaws
import NanokvmRdp.Protocol.Consumed
import NanokvmRdp.Agent.MainLoop
import NanokvmRdp.Agent.LoopLaws
import NanokvmRdp.Agent.Pulse
import NanokvmRdp.Lib.Clock
import NanokvmRdp.System.Session
import NanokvmRdp.System.Liveness
import NanokvmRdp.Lib.Numeral
import NanokvmRdp.Gateway.HttpForms
import NanokvmRdp.Gateway.InputAccount
import NanokvmRdp.Gateway.HttpInput
import NanokvmRdp.Gateway.HttpViewer
import NanokvmRdp.System.InputSources
