import NetworkThreatEngine.Lib.ByteReader
import NetworkThreatEngine.Config
import NetworkThreatEngine.Packet
import NetworkThreatEngine.Dissector.Wire
import NetworkThreatEngine.Lib.Numeral
import NetworkThreatEngine.Dissector.Dissect
import NetworkThreatEngine.Dissector.Safety
import NetworkThreatEngine.Dissector.Layers
import NetworkThreatEngine.Dissector.Frames
import NetworkThreatEngine.Dissector.RoundTrip
import NetworkThreatEngine.Dissector.Families
import NetworkThreatEngine.Lib.Transition
import NetworkThreatEngine.Pipeline.RingBuffer
import NetworkThreatEngine.Pipeline.Capture
import NetworkThreatEngine.Detect.Alert
import NetworkThreatEngine.Detect.Profiles
import NetworkThreatEngine.Lib.StateRules
import NetworkThreatEngine.Detect.ThreatDetector
import NetworkThreatEngine.Detect.Isolation
import NetworkThreatEngine.Detect.Suppression
import NetworkThreatEngine.Lib.ConditionVariable
import NetworkThreatEngine.Pipeline.Wakeup
import NetworkThreatEngine.Lib.InetText
import NetworkThreatEngine.Flow.Address
import NetworkThreatEngine.Flow.Key
import NetworkThreatEngine.Flow.Record
import NetworkThreatEngine.Flow.Tracker
import NetworkThreatEngine.Dissector.Network
import NetworkThreatEngine.Flow.Identity
import NetworkThreatEngine.Pipeline.Consumer
import NetworkThreatEngine.Pipeline.Drain
import NetworkThreatEngine.Lib.ThreadOwner
import NetworkThreatEngine.Pipeline.Lifecycle
import NetworkThreatEngine.Flow.Session
import NetworkThreatEngine.Flow.Evidence
import NetworkThreatEngine.Flow.Handshake
import NetworkThreatEngine.Flow.Accounting
import NetworkThreatEngine.Delivery.Writer
import NetworkThreatEngine.Detect.ScanWindow
import NetworkThreatEngine.Dissector.Fields
import NetworkThreatEngine.Detect.Measurement
import NetworkThreatEngine.Pipeline.Discard
import NetworkThreatEngine.Flow.Direction
import NetworkThreatEngine.Lib.KeyedStore
import NetworkThreatEngine.Lib.MovingAverage
import NetworkThreatEngine.Detect.Baseline
import NetworkThreatEngine.Detect.Silence
import NetworkThreatEngine.Detect.ScanResult
import NetworkThreatEngine.Detect.SynWindow
import NetworkThreatEngine.Detect.ScanMix
import NetworkThreatEngine.Detect.Conservation
import NetworkThreatEngine.Dissector.ServerName
import NetworkThreatEngine.Dissector.ClientHello
import NetworkThreatEngine.Dissector.Names
import NetworkThreatEngine.Detect.LabelLength
import NetworkThreatEngine.Dissector.DnsMessage
import NetworkThreatEngine.Dissector.DnsOverTcp
import NetworkThreatEngine.Dissector.RequestLines
import NetworkThreatEngine.Dissector.HttpFields
import NetworkThreatEngine.Dissector.Request
import NetworkThreatEngine.Dissector.Reports
import NetworkThreatEngine.Dissector.Layout
import NetworkThreatEngine.Dissector.Vlan
import NetworkThreatEngine.Dissector.CutFrames
import NetworkThreatEngine.Dissector.Padding
import NetworkThreatEngine.Dissector.Fragments
import NetworkThreatEngine.Flow.AddressText
import NetworkThreatEngine.Flow.Frame
import NetworkThreatEngine.Flow.Heard
import NetworkThreatEngine.Lib.Sweep
import NetworkThreatEngine.Pipeline.DropRate
import NetworkThreatEngine.Flow.Reaper
import NetworkThreatEngine.Flow.Timestamps
import NetworkThreatEngine.Detect.ScanEviction
import NetworkThreatEngine.Delivery.Inserts
import NetworkThreatEngine.Pipeline.Engine
import NetworkThreatEngine.Pipeline.Summary
import NetworkThreatEngine.Detect.Verdicts
import NetworkThreatEngine.Lib.Windows
import NetworkThreatEngine.Detect.Averages
import NetworkThreatEngine.Pipeline.Stored
import NetworkThreatEngine.Flow.Linear
import NetworkThreatEngine.Lib.Getopt
import NetworkThreatEngine.Pipeline.Options
import NetworkThreatEngine.Lib.Lives
import NetworkThreatEngine.Flow.Histories
import NetworkThreatEngine.Flow.FlowWindows
import NetworkThreatEngine.Lib.PeriodicWorker
import NetworkThreatEngine.Flow.ReaperThread
import NetworkThreatEngine.Lib.Budgets
import NetworkThreatEngine.Pipeline.Shutdown
import NetworkThreatEngine.Detect.Sustained
import NetworkThreatEngine.Detect.Memory
import NetworkThreatEngine.Detect.VolumeEviction
import NetworkThreatEngine.Delivery.Rows
import NetworkThreatEngine.Lib.Fnv
import NetworkThreatEngine.Flow.KeyHash
import NetworkThreatEngine.Lib.Meters
import NetworkThreatEngine.Detect.WideScan
import NetworkThreatEngine.Detect.Attacks
import NetworkThreatEngine.Pipeline.Guarantees
