import AndroidPatch.Misc.CString
import AndroidPatch.Misc.Buffer
import AndroidPatch.Misc.Run
import AndroidPatch.Misc.Lock
import AndroidPatch.Misc.Traced
import AndroidPatch.Misc.Tally
import AndroidPatch.Ril.Misc
import AndroidPatch.Ril.AtTok
import AndroidPatch.Ril.AtChannel.Defs
import AndroidPatch.Ril.AtChannel.Readline
import AndroidPatch.Ril.AtChannel.Splitter
import AndroidPatch.Ril.AtChannel.Threads
import AndroidPatch.Ril.AtChannel.Timeout
import AndroidPatch.Ril.AtChannel.Proofs.ReadlineRefines
import AndroidPatch.Ril.AtChannel.Proofs.NoRedelivery
import AndroidPatch.Ril.AtChannel.Proofs.Reopen
import AndroidPatch.Ril.AtChannel.Proofs.LineSplitting
import AndroidPatch.Ril.AtChannel.Proofs.StaleBytes
import AndroidPatch.Ril.AtChannel.Proofs.Routing
import AndroidPatch.Ril.AtChannel.Proofs.LineRouting
import AndroidPatch.Ril.AtChannel.Proofs.Pending
import AndroidPatch.Ril.AtChannel.Proofs.Steps
import AndroidPatch.Ril.AtChannel.Proofs.FirstFinal
import AndroidPatch.Ril.AtChannel.Proofs.Rejected
import AndroidPatch.Ril.AtChannel.Proofs.Serialised
import AndroidPatch.Ril.AtChannel.Proofs.Handshake
import AndroidPatch.Ril.AtChannel.Proofs.Successful
import AndroidPatch.Ril.AtChannel.Proofs.Timeout
import AndroidPatch.Ril.Altair.Defs
import AndroidPatch.Ril.Altair.Data
import AndroidPatch.Ril.Altair.Network
import AndroidPatch.Ril.Altair.Calls
import AndroidPatch.Ril.Altair.Sms
import AndroidPatch.Ril.Altair.Radio
import AndroidPatch.Ril.Altair.OnRequest
import AndroidPatch.Ril.Altair.Proofs.Emits
import AndroidPatch.Ril.Altair.Proofs.Handlers
import AndroidPatch.Ril.Altair.Proofs.NullDereference
import AndroidPatch.Ril.Altair.Proofs.OnRequest
import AndroidPatch.Ril.Altair.Proofs.NetworkSelection
import AndroidPatch.Ril.Altair.RadioThreads
import AndroidPatch.Ril.Altair.Proofs.RadioSteps
import AndroidPatch.Ril.Altair.Proofs.Connections
import AndroidPatch.Ril.Altair.Proofs.CloseEvent
import AndroidPatch.Ril.Altair.Proofs.Announce
import AndroidPatch.Ril.Altair.Proofs.SimReady
import AndroidPatch.Misc.Logged
import AndroidPatch.Misc.Reads
import AndroidPatch.Misc.Exec
import AndroidPatch.Misc.FirstOfEach
import AndroidPatch.Misc.Walk
import AndroidPatch.Ril.Altair.Sms3gpp2
import AndroidPatch.Misc.Nibbles
import AndroidPatch.Ril.Altair.Proofs.SmsAccess
import AndroidPatch.Ril.Altair.Proofs.SmsSerialize
import AndroidPatch.Ril.Altair.Proofs.SmsDeserialize
import AndroidPatch.Ril.Altair.Proofs.SmsRoundTrip
import AndroidPatch.Ril.Altair.Proofs.SmsAcknowledge
import AndroidPatch.Ril.Altair.Proofs.SmsReceive
import AndroidPatch.Ril.Altair.Proofs.SmsBounds
import AndroidPatch.Ril.Altair.AtSocket
import AndroidPatch.Ril.Altair.Proofs.AtSocketFraming
import AndroidPatch.Ril.Altair.Proofs.AtSocketReplies
import AndroidPatch.Ril.Altair.AtSocketThreads
import AndroidPatch.Ril.Altair.Proofs.AtSocketClients
import AndroidPatch.Ril.Altair.Proofs.AtSocketLengths
import AndroidPatch.Ril.Altair.Proofs.Statements
import AndroidPatch.Ril.Altair.Proofs.ReliableSender
import AndroidPatch.Ril.Altair.Proofs.Deactivate
import AndroidPatch.Ril.Proofs.AtTokFields
import AndroidPatch.Ril.Altair.Proofs.Tokens
import AndroidPatch.Ril.Proofs.AtTokGrammar
import AndroidPatch.Ril.Altair.Proofs.Registration
import AndroidPatch.Ril.Altair.Proofs.AddressMask
import AndroidPatch.Ril.Altair.Proofs.DataCallLine
import AndroidPatch.Ril.Altair.Proofs.DataCallAddress
import AndroidPatch.Ril.Altair.Proofs.DataCallVisits
import AndroidPatch.Ril.Altair.Proofs.DataCallList
import AndroidPatch.Ril.Altair.Proofs.NetworkScan
import AndroidPatch.Ril.Reference.Defs
import AndroidPatch.Ril.Reference.Modem
import AndroidPatch.Ril.Reference.NewSms
import AndroidPatch.Ril.Reference.Radio
import AndroidPatch.Ril.Reference.Calls
import AndroidPatch.Ril.Reference.Data
import AndroidPatch.Ril.Reference.Network
import AndroidPatch.Ril.Reference.Sms
import AndroidPatch.Ril.Reference.Sim
import AndroidPatch.Ril.Reference.OnRequest
import AndroidPatch.Ril.Reference.Fcp
import AndroidPatch.Ril.Reference.Proofs.Modem
import AndroidPatch.Ril.Reference.Proofs.PreferredNetwork
import AndroidPatch.Ril.Reference.Proofs.CurrentTech
import AndroidPatch.Ril.Reference.Proofs.NewSms
import AndroidPatch.Ril.Reference.Proofs.Statements
import AndroidPatch.Ril.Reference.Proofs.Handlers
import AndroidPatch.Ril.Reference.Proofs.SimHandlers
import AndroidPatch.Ril.Reference.Proofs.OnRequest
import AndroidPatch.Ril.Reference.Proofs.Completions
import AndroidPatch.Ril.Reference.Proofs.Passwords
import AndroidPatch.Ril.Reference.Proofs.Runs
import AndroidPatch.Ril.Reference.Proofs.Registration
import AndroidPatch.Ril.Reference.Proofs.Operator
import AndroidPatch.Ril.Reference.Proofs.CallList
import AndroidPatch.Ril.Reference.Proofs.SmsStorage
import AndroidPatch.Ril.Reference.Proofs.TokStrings
import AndroidPatch.Ril.Reference.Proofs.NetworkRounds
import AndroidPatch.Ril.Reference.Proofs.NetworkScan
import AndroidPatch.Ril.Reference.Proofs.DataCallList
import AndroidPatch.Ril.Reference.Proofs.Fcp
import AndroidPatch.Ril.Reference.Proofs.FcpBounds
import AndroidPatch.Nfc.Poll
import AndroidPatch.Nfc.Exchange
import AndroidPatch.Nfc.CommandQueue
import AndroidPatch.Nfc.Proofs.Poll
import AndroidPatch.Nfc.Proofs.Exchange
import AndroidPatch.Nfc.Proofs.CommandQueue
import AndroidPatch.Nfc.PollQueue
import AndroidPatch.Nfc.Target
import AndroidPatch.Nfc.Payload
import AndroidPatch.Nfc.Frame
import AndroidPatch.Nfc.Proofs.PollSteps
import AndroidPatch.Nfc.Proofs.PollList
import AndroidPatch.Nfc.Proofs.PollStop
import AndroidPatch.Nfc.Proofs.Target
import AndroidPatch.Nfc.Proofs.Payload
import AndroidPatch.Nfc.Proofs.Frame
import AndroidPatch.Nfc.Proofs.ReceivedFrame
import AndroidPatch.Hdmi.Modes
import AndroidPatch.Hdmi.Edid
import AndroidPatch.Hdmi.EdidAccess
import AndroidPatch.Hdmi.Driver
import AndroidPatch.Hdmi.ModeDb
import AndroidPatch.Hdmi.Proofs.EdidReaders
import AndroidPatch.Hdmi.Proofs.EdidAccess
import AndroidPatch.Hdmi.Proofs.EdidLoops
import AndroidPatch.Hdmi.Proofs.EdidReads
import AndroidPatch.Hdmi.Proofs.EdidSafety
import AndroidPatch.Hdmi.Proofs.CeaBlocks
import AndroidPatch.Hdmi.Proofs.EdidBlocks
import AndroidPatch.Hdmi.Proofs.PlugState
import AndroidPatch.Hdmi.Proofs.SetMode
import AndroidPatch.Hdmi.Proofs.Modelist
import AndroidPatch.Hdmi.Proofs.Clocks
import AndroidPatch.Hdmi.Registers
import AndroidPatch.Hdmi.Transmitter
import AndroidPatch.Hdmi.Proofs.Transmitter
import AndroidPatch.Hdmi.Proofs.Timing
import AndroidPatch.Hid.Multitouch
import AndroidPatch.Hid.Proofs.Multitouch
import AndroidPatch.Hid.Proofs.Frames
import AndroidPatch.Hid.Proofs.DeviceFrames
import AndroidPatch.Misc.Crc
import AndroidPatch.Misc.Progress
import AndroidPatch.Nfc.Pn544
import AndroidPatch.Nfc.Proofs.Pn544Messages
import AndroidPatch.Nfc.Proofs.Pn544RoundTrip
import AndroidPatch.Nfc.Proofs.Pn544Power
import AndroidPatch.Nfc.Pn544Irq
import AndroidPatch.Nfc.Proofs.Pn544Irq
import AndroidPatch.Misc.Holdings
import AndroidPatch.Nfc.Lifecycle
import AndroidPatch.Nfc.Proofs.Lifecycle
import AndroidPatch.Misc.Terminated
import AndroidPatch.Ril.AtChannel.Proofs.Transmit
import AndroidPatch.Ril.AtChannel.Proofs.Unsolicited
import AndroidPatch.Ril.Altair.Unsolicited
import AndroidPatch.Ril.Altair.Proofs.Unsolicited
import AndroidPatch.SystemUi.PowerUi
import AndroidPatch.SystemUi.Proofs.PowerUi
import AndroidPatch.Hid.Mapping
import AndroidPatch.Hid.Proofs.Mapping
import AndroidPatch.Hid.Proofs.Packets
