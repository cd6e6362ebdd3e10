import SkylineSpeeder.Word.Arith
import SkylineSpeeder.Word.Ones
import SkylineSpeeder.Machine.Bisect
import SkylineSpeeder.Machine.Cut
import SkylineSpeeder.Machine.Disk
import SkylineSpeeder.Machine.Distinct
import SkylineSpeeder.Machine.Run
import SkylineSpeeder.Machine.DoubleBuffer
import SkylineSpeeder.Machine.Ere
import SkylineSpeeder.Machine.Journal
import SkylineSpeeder.Machine.Prog
import SkylineSpeeder.Machine.Redact
import SkylineSpeeder.Machine.Search
import SkylineSpeeder.Machine.Survivors
import SkylineSpeeder.Machine.Text
import SkylineSpeeder.Machine.Threads
import SkylineSpeeder.Machine.Windowed
import SkylineSpeeder.Cc.Abi
import SkylineSpeeder.Cc.Sock
import SkylineSpeeder.Cc.Model
import SkylineSpeeder.Cc.Window
import SkylineSpeeder.Cc.Callbacks
import SkylineSpeeder.Cc.Frame
import SkylineSpeeder.Cc.ModelRun
import SkylineSpeeder.Cc.BaseRtt
import SkylineSpeeder.Cc.BwFilter
import SkylineSpeeder.Cc.CubeRoot
import SkylineSpeeder.Cc.Reduction
import SkylineSpeeder.Cc.RoundConfig
import SkylineSpeeder.Cc.CubicEpoch
import SkylineSpeeder.Cc.LossHistory
import SkylineSpeeder.Cc.Exact
import SkylineSpeeder.Cc.FlowCount
import SkylineSpeeder.Cc.LossMonotone
import SkylineSpeeder.Cc.LossRate
import SkylineSpeeder.Cc.Neutral
import SkylineSpeeder.Cc.Publish
import SkylineSpeeder.Cc.Rounds
import SkylineSpeeder.Cc.Startup
import SkylineSpeeder.Cc.WindowCap
import SkylineSpeeder.Config.Skyline
import SkylineSpeeder.Config.Validate
import SkylineSpeeder.Config.Toml
import SkylineSpeeder.Config.Keys
import SkylineSpeeder.Config.Lowering
import SkylineSpeeder.Config.Schema
import SkylineSpeeder.Policy.Rto
import SkylineSpeeder.Policy.Debounce
import SkylineSpeeder.Policy.Documented
import SkylineSpeeder.Daemon.State
import SkylineSpeeder.Daemon.Requests
import SkylineSpeeder.Daemon.Effects
import SkylineSpeeder.Daemon.EnableDrain
import SkylineSpeeder.Daemon.Valid
import SkylineSpeeder.Daemon.Adopted
import SkylineSpeeder.Daemon.EventLog
import SkylineSpeeder.Daemon.Faithful
import SkylineSpeeder.Daemon.Flows
import SkylineSpeeder.Daemon.Interleave
import SkylineSpeeder.Daemon.GuardOrder
import SkylineSpeeder.Daemon.Redundancy
import SkylineSpeeder.Daemon.Samples
import SkylineSpeeder.Tc.Skb
import SkylineSpeeder.Tc.Parse
import SkylineSpeeder.Tc.Mark
import SkylineSpeeder.Tc.Accept
import SkylineSpeeder.Tc.Hook
import SkylineSpeeder.Tc.Marked
import SkylineSpeeder.Tc.Pass
import SkylineSpeeder.Tc.Retransmit
import SkylineSpeeder.Tc.Redundancy
import SkylineSpeeder.Qdisc.Guard
import SkylineSpeeder.Qdisc.Installer
import SkylineSpeeder.Qdisc.Agree
import SkylineSpeeder.Qdisc.Backoff
import SkylineSpeeder.Qdisc.Replace
import SkylineSpeeder.Qdisc.Rebuild
import SkylineSpeeder.Qdisc.Devices
import SkylineSpeeder.Qdisc.Retry
import SkylineSpeeder.Qdisc.Converge
import SkylineSpeeder.Qdisc.Mirror
import SkylineSpeeder.Qdisc.Uninstall
import SkylineSpeeder.Qdisc.RoundTrip
import SkylineSpeeder.Qdisc.Spare
import SkylineSpeeder.Qdisc.Status
import SkylineSpeeder.Feedback.Cipher
import SkylineSpeeder.Feedback.Curl
import SkylineSpeeder.Feedback.Dsn
import SkylineSpeeder.Scrub.Str
import SkylineSpeeder.Scrub.Utf8
import SkylineSpeeder.Scrub.Runs
import SkylineSpeeder.Scrub.Addresses
import SkylineSpeeder.Scrub.Credentials
import SkylineSpeeder.Scrub.Emails
import SkylineSpeeder.Scrub.Secrets
import SkylineSpeeder.Scrub.Homes
import SkylineSpeeder.Scrub.Tokens
import SkylineSpeeder.Scrub.Names
import SkylineSpeeder.Scrub.Network
import SkylineSpeeder.Scrub.Words
import SkylineSpeeder.Scrub.Settled
import SkylineSpeeder.Scrub.Values
import SkylineSpeeder.Scrub.Secrecy
import SkylineSpeeder.Scrub.Survival
import SkylineSpeeder.Reports.Report
import SkylineSpeeder.Reports.Record
import SkylineSpeeder.Reports.Offer
import SkylineSpeeder.Reports.Whole

/-!
Skyline Speeder, layer by layer: general libraries first, then the programs in the order
in which a setting travels from the configuration file to a packet and back to a report.

* `Word`, `Machine`: fixed-width words, runs of a partial step, threads, journals, double
  buffers, windows, searches, redaction of a text; nothing in them names this repository.
* `Cc`, `Config`, `Policy`: the congestion control as the kernel runs it, what may be
  published to it, and the retransmission timer that is tuned beside it.
* `Daemon`: the requests, what they do in which order, the journals and the flow table.
* `Tc`, `Qdisc`: the packet hooks, and the guard with the installer's half of it.
* `Feedback`, `Scrub`, `Reports`: what leaves the host, and what is taken out before.
-/
