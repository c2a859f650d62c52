import FreeRDS.Manager.UserToken
import FreeRDS.Manager.Reattach
import FreeRDS.Manager.Isolation
import FreeRDS.Manager.SwitchCompletion
import FreeRDS.Manager.ConnectionLookup
import FreeRDS.Manager.SessionTimeout
import FreeRDS.Manager.SharedSession
import FreeRDS.Manager.Deadlock
import FreeRDS.Manager.DupEnv
import FreeRDS.Rpc.SwitchEndpoint
import FreeRDS.Rpc.Requests
import FreeRDS.Rpc.CallLifetime
import FreeRDS.Rpc.Reassembly
import FreeRDS.Pbrpc.Transactions
import FreeRDS.Pbrpc.PayloadLifetime
import FreeRDS.Pbrpc.Frames
import FreeRDS.Pbrpc.SendFailures
import FreeRDS.Pbrpc.Reception
import FreeRDS.Core.Completeness
import FreeRDS.Core.ConnectionLifetime
import FreeRDS.Core.EndpointOwnership
import FreeRDS.Backend.BufferSafety
import FreeRDS.Backend.ClientCalls
import FreeRDS.Backend.ReaderSafety
import FreeRDS.Core.PointerMasks
import FreeRDS.Core.Alignment
import FreeRDS.Core.MessageBalance
import FreeRDS.Core.EncoderCodecs
import FreeRDS.Core.Tiling
import FreeRDS.Core.Fragmentation
import FreeRDS.Core.NoLostDamage
import FreeRDS.Fdsapi.Release
import FreeRDS.Fdsapi.Senders
import FreeRDS.Fdsapi.Reconnection
import FreeRDS.Fdsapi.Requests
import FreeRDS.Fdsapi.Enumerate
import FreeRDS.Fdsapi.ReceiveBounds
import FreeRDS.Fdsapi.Query
import FreeRDS.Fdsapi.Conversation
import FreeRDS.Utils.SignalingQueue
import FreeRDS.Rpc.CodecRoundTrip
import FreeRDS.Rpc.DecoderSafety
import FreeRDS.Core.ChannelForwarding
import FreeRDS.X11.ModuleStart
import FreeRDS.X11.Attachment
import FreeRDS.X11.ModeTable
import FreeRDS.X11.ModeOrder
import FreeRDS.X11.Input
import FreeRDS.Manager.ModuleState
import FreeRDS.Core.EventHandles
import FreeRDS.ChannelServer.PluginState
import FreeRDS.ChannelServer.Credentials
import FreeRDS.Rdpdr.OpendirQueue
import FreeRDS.Rdpdr.Writes
import FreeRDS.Rdpsnd.Rewind
import FreeRDS.Cliprdr.Targets
