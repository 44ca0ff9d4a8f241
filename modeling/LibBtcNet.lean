import LibBtcNet.MessageFraming
import LibBtcNet.GracefulClose
import LibBtcNet.ProxyAcceptance
import LibBtcNet.ProxySoundness
import LibBtcNet.ConnectionKinds
import LibBtcNet.RetryBudget
import LibBtcNet.Bookkeeping
import LibBtcNet.CallbackProtocol
import LibBtcNet.OnionNames
import LibBtcNet.OriginalRequest
import LibBtcNet.OutgoingLimit
import LibBtcNet.StartedRequests
import LibBtcNet.Shutdown
import LibBtcNet.StaleEvents
import LibBtcNet.LockDiscipline
import LibBtcNet.DecodeReads
import LibBtcNet.HeaderLayout
import LibBtcNet.EndpointText
import LibBtcNet.RealAddresses
import LibBtcNet.InitialTimeout
import LibBtcNet.WriteBuffer
import LibBtcNet.QueuedOutput
import LibBtcNet.ByteTotals
import LibBtcNet.RestoredBudget
import LibBtcNet.ProxyGate
import LibBtcNet.ReadWatermarks
import LibBtcNet.RequestLifetimes
import LibBtcNet.DroppedRequests
import LibBtcNet.ProxyHandOver
import LibBtcNet.MethodAssertions
import LibBtcNet.ConnectCalls
import LibBtcNet.HandlerAssertions
import LibBtcNet.SocketOwner
import LibBtcNet.HistoryRuns
import LibBtcNet.Provenance
import LibBtcNet.MessageStreams
import LibBtcNet.HeardStreams
import LibBtcNet.PromptDelivery
import LibBtcNet.Linearization
import LibBtcNet.ThreadedRuns
import LibBtcNet.RequestLedger
import LibBtcNet.ResponseRuns
import LibBtcNet.Sessions
