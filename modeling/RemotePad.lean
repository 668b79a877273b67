import RemotePad.Calibration.Json
import RemotePad.Device.Identity.Json
import RemotePad.Host
import RemotePad.Settings.Json
import RemotePad.Settings.Store
import RemotePad.Transport.Scripted
import RemotePad.Transport.Udp
import RemotePad.Proofs.Tracker.Mirror
import RemotePad.Proofs.Device.Reading
import RemotePad.Proofs.Device.Lifecycle
import RemotePad.Proofs.Host.Places
import RemotePad.Proofs.Device.SoleOwner
import RemotePad.Proofs.Manager.Devices
import RemotePad.Proofs.Host.SharedPad
import RemotePad.Proofs.Host.Turns
import RemotePad.Proofs.Session.Numbering
import RemotePad.Proofs.Tracker.Replay
import RemotePad.Proofs.Tracker.News
import RemotePad.Proofs.Tracker.Repeats
import RemotePad.Proofs.Tracker.Cells
import RemotePad.Proofs.Tracker.Triggers
import RemotePad.Proofs.Host.Emissions
import RemotePad.Proofs.Host.Lifelong
import RemotePad.Proofs.Device.Snapshot
import RemotePad.Proofs.Device.Calibrations
import RemotePad.Proofs.Session.Answers
import RemotePad.Proofs.Host.Grants
import RemotePad.Proofs.Host.Laws
import RemotePad.Proofs.Host.Interpretation
import RemotePad.Proofs.Host.Unbound
import RemotePad.Proofs.Wire.Numbers
import RemotePad.Proofs.Wire.Report
import RemotePad.Proofs.Text.Utf8
import RemotePad.Proofs.Wire.Response
import RemotePad.Proofs.Session.BindingHistory
import RemotePad.Proofs.Event.Queue
import RemotePad.Proofs.Event.Fates
import RemotePad.Proofs.Host.HandedOut
import RemotePad.Proofs.Host.Buffers
import RemotePad.Proofs.Calibration.Centered
import RemotePad.Proofs.Calibration.Checked
import RemotePad.Proofs.Calibration.Exact
import RemotePad.Proofs.Calibration.Halves
import RemotePad.Proofs.Calibration.Extremes
import RemotePad.Proofs.Calibration.Linear
import RemotePad.Proofs.Calibration.Resolution
import RemotePad.Proofs.Host.Gates
import RemotePad.Proofs.Transport.Tapped
import RemotePad.Proofs.Session.Acquire
import RemotePad.Proofs.Host.Stages
import RemotePad.Proofs.Host.Releases
import RemotePad.Proofs.Net.SocketAddr
import RemotePad.Proofs.Toml.Lines
import RemotePad.Proofs.Settings.Toml
import RemotePad.Proofs.Files.Tree
import RemotePad.Proofs.Files.Writing
import RemotePad.Proofs.Settings.Store
import RemotePad.Proofs.Calibration.Shift
import RemotePad.Proofs.Files.Names
import RemotePad.Proofs.Settings.FailedSave
import RemotePad.Proofs.Host.Happenings
import RemotePad.Proofs.Host.Waiting
import RemotePad.Proofs.Host.Teardown
import RemotePad.Proofs.Host.Attempts
import RemotePad.Proofs.Layout.Visits
import RemotePad.Proofs.Calibration.Nearest
