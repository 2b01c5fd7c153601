import CtsTraffic.Basic
import CtsTraffic.PatternState.Machine
import CtsTraffic.PatternState.Run
import CtsTraffic.PatternState.Udp
import CtsTraffic.PatternState.Protocol
import CtsTraffic.PatternState.Laws
import CtsTraffic.MediaStream.Datagram
import CtsTraffic.MediaStream.ConnectionId
import CtsTraffic.MediaStream.SendRequests
import CtsTraffic.Accept.AcceptEx
import CtsTraffic.Accept.AcceptSocket
import CtsTraffic.RateLimit.Throttle
import CtsTraffic.Broker.SocketBroker
import CtsTraffic.Broker.Population
import CtsTraffic.IOBuffers.ConnectionIdPool
import CtsTraffic.IOBuffers.Partition
import CtsTraffic.Driver.Socket
import CtsTraffic.Driver.SendRecv
import CtsTraffic.Driver.ReadWrite
import CtsTraffic.Driver.Events
import CtsTraffic.Driver.Threads
import CtsTraffic.Driver.Interleaved
import CtsTraffic.Driver.Serialized
import CtsTraffic.Driver.ReadWriteThreads
import CtsTraffic.Driver.ReadWriteInterleaved
import CtsTraffic.Driver.ReadWriteSerialized
import CtsTraffic.Config.MediaStreamSettings
import CtsTraffic.Broker.SocketState
import CtsTraffic.Status.PrintStatus
import CtsTraffic.Status.Lines
