import ARNetworkAL.Library.Memory
import ARNetworkAL.Library.Pointer
import ARNetworkAL.Library.ByteOrder
import ARNetworkAL.Library.Run
import ARNetworkAL.Library.Records
import ARNetworkAL.Library.Channel
import ARNetworkAL.Library.Announce
import ARNetworkAL.Library.Ledger
import ARNetworkAL.Library.Latch
import ARNetworkAL.Library.Hook
import ARNetworkAL.Library.HexText
import ARNetworkAL.Library.Ring
import ARNetworkAL.Library.Semaphore
import ARNetworkAL.Library.Requests
import ARNetworkAL.Library.Account
import ARNetworkAL.Library.Pipe
import ARNetworkAL.Library.Tally
import ARNetworkAL.Frame
import ARNetworkAL.Wifi.Object
import ARNetworkAL.Wifi.Sender
import ARNetworkAL.Wifi.SendQueue
import ARNetworkAL.Wifi.DatagramLimit
import ARNetworkAL.Wifi.Receiver
import ARNetworkAL.Wifi.ReceiveWindow
import ARNetworkAL.Wifi.PayloadCheck
import ARNetworkAL.Wifi.Datagram
import ARNetworkAL.Wifi.Drain
import ARNetworkAL.Wifi.Delivery
import ARNetworkAL.Wifi.Transport
import ARNetworkAL.Wifi.Reencode
import ARNetworkAL.Wifi.ReceptionDate
import ARNetworkAL.Wifi.FlushedData
import ARNetworkAL.Wifi.Flow
import ARNetworkAL.Wifi.DumpLog
import ARNetworkAL.Wifi.NothingReceived
import ARNetworkAL.Wifi.Threads
import ARNetworkAL.Wifi.WakeUp
import ARNetworkAL.Wifi.SocketCapacity
import ARNetworkAL.Wifi.Bandwidth
import ARNetworkAL.Wifi.Shutdown
import ARNetworkAL.Wifi.Metering
import ARNetworkAL.Wifi.Handshake
import ARNetworkAL.Mux.Object
import ARNetworkAL.Mux.Lengths
import ARNetworkAL.Mux.Agreement
import ARNetworkAL.Mux.Transport
import ARNetworkAL.Mux.Flow
import ARNetworkAL.Mux.Ownership
import ARNetworkAL.Mux.Session
import ARNetworkAL.Mux.Disconnection
import ARNetworkAL.Ble.Packet
import ARNetworkAL.Ble.Ios
import ARNetworkAL.Ble.Android
import ARNetworkAL.Ble.Agreement
import ARNetworkAL.Ble.FrameChecks
import ARNetworkAL.Ble.Transport
import ARNetworkAL.Ble.Flow
import ARNetworkAL.Ble.Bandwidth
import ARNetworkAL.Ble.Metering
import ARNetworkAL.Ble.Connection
import ARNetworkAL.Ble.AndroidConnection
import ARNetworkAL.Ble.Teardown
import ARNetworkAL.Ble.References
import ARNetworkAL.Ble.Interruption
import ARNetworkAL.Ble.Listener
import ARNetworkAL.Manager
import ARNetworkAL.Manager.Transports
import ARNetworkAL.Manager.InitContract
import ARNetworkAL.Manager.PublicCalls
import ARNetworkAL.Manager.Resources
import ARNetworkAL.Manager.Rollback
import ARNetworkAL.Manager.FailedPop
import ARNetworkAL.Manager.Facade
import ARNetworkAL.Manager.Contexts
