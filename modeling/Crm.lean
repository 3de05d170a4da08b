import Crm.Ctrl.Model
import Crm.Ctrl.Effects
import Crm.Ctrl.Requests
import Crm.Ctrl.Ready
import Crm.Cla.Broadcast
import Crm.Cla.Loop
import Crm.Cla.Fsm
import Crm.Cla.Rules
import Crm.Cla.Marks
import Crm.Cla.Tally
import Crm.Cla.Acks
import Crm.Cla.Waiting
import Crm.Cla.Acquire
import Crm.Cla.Clean
import Crm.Cla.Mode
import Crm.Cla.View
import Crm.Cla.Legal
import Crm.Cla.Flow
import Crm.Cla.Contract
import Crm.Ctrl.Deeds
import Crm.Ctrl.Oos
import Crm.Ctrl.Report
import Crm.Ctrl.Busy
import Crm.Ctrl.Slot
import Crm.Ctrl.Upload
import Crm.Cla.Deals
import Crm.Cla.Pending
import Crm.Cla.Backup
import Crm.Cla.RestartCalls
import Crm.Wire.Accept
import Crm.Wire.Request
import Crm.Wire.RoundTrip
import Crm.Mdmcli.Notify
import Crm.Mdmcli.Model
import Crm.Mdmcli.Daemon
import Crm.Mdmcli.Register
import Crm.Mdmcli.Acquire
import Crm.Ctrl.Calls
import Crm.Ctrl.Timer
import Crm.Ctrl.Elect
import Crm.Ctrl.Typing
import Crm.Ctrl.Watchdog
import Crm.Lib.Bits
import Crm.Ctrl.Watched
import Crm.Esc.Bounded
import Crm.Esc.Oos
import Crm.Lib.Slots
import Crm.Lib.Memmove
import Crm.Cla.Compact
import Crm.Hal.Sockets
import Crm.Hal.Registered
import Crm.Wake.Agree
import Crm.Wake.Thread
import Crm.Bridge.Moves
import Crm.Bridge.Link
import Crm.Bridge.Aggregate
import Crm.Lib.Ledger
import Crm.Bridge.Buffers
import Crm.Bridge.Delivery
import Crm.Bridge.Reassembly
import Crm.Lib.EventLoop
import Crm.Hal.Common
import Crm.Hal.Daemons
import Crm.Hal.Pcie.Model
import Crm.Hal.Pcie.Moves
import Crm.Hal.Pcie.Busy
import Crm.Hal.Pcie.PollSet
import Crm.Hal.Pcie.Connected
import Crm.Hal.Pcie.Uevent
import Crm.Hal.Pcie.Rest
import Crm.Hal.Pcie.Config
import Crm.Hal.Sofia.Model
import Crm.Hal.Sofia.Moves
import Crm.Hal.Sofia.Resources
import Crm.Hal.Sofia.Answer
import Crm.Hal.Sofia.Boot
import Crm.Lib.Ring
import Crm.Utils.Ipc
import Crm.Utils.IpcThread
import Crm.Ctrl.FwUpload
import Crm.Ctrl.Packaging
import Crm.Ctrl.Await
import Crm.Hal.Sofia.System
import Crm.Lib.Interleave
import Crm.Fact.Model
import Crm.Fact.Framing
import Crm.Fact.Slots
import Crm.Fact.Dispose
import Crm.Fact.Race
import Crm.Lib.Utf8
import Crm.Bridge.SendMsg
import Crm.Bridge.DaemonSocket
import Crm.Bridge.Items
import Crm.Bridge.Codec
import Crm.Lib.CString
import Crm.Utils.At
import Crm.Utils.AtReply
import Crm.Cla.Wakelock
import Crm.Lib.Paths
import Crm.Elector.Model
import Crm.Elector.Applied
import Crm.Bridge.Size
import Crm.Lib.Digits
import Crm.Utils.FileCopy
import Crm.Utils.Socket
import Crm.Hal.Registration
import Crm.Custo.Commands
import Crm.Lib.Tar
import Crm.Ifwd.Archive
import Crm.Wake.Service
import Crm.Ctrl.Engaged
import Crm.Cla.Heard
import Crm.System.Exchange
import Crm.Lib.Fields
import Crm.Fact.Params
import Crm.Ctrl.Dumps
import Crm.Dump.Model
import Crm.Dump.Turns
import Crm.Utils.SocketWrite
import Crm.Wire.Stream
import Crm.Lib.Session
import Crm.Ifwd.Write
import Crm.Ifwd.ReadDump
import Crm.Ctrl.Handlers
import Crm.Ctrl.Asks
import Crm.Esc.Account
import Crm.System.Escalation
import Crm.Lib.Relay
import Crm.Ctrl.Told
import Crm.Elector.Budget
import Crm.System.Customized
