import BouclierBleu.StrictWx.History
import BouclierBleu.Daemon.Config
import BouclierBleu.Daemon.ControlPlane
import BouclierBleu.Daemon.Delivery
import BouclierBleu.DumpRestrict.CrashMatching
import BouclierBleu.Telemetry.Agreement
import BouclierBleu.IoRestrict.TaintLifetime
import BouclierBleu.IoRestrict.ForeignTaint
import BouclierBleu.Watchlist.Coverage
import BouclierBleu.Watchlist.Exhaustion
import BouclierBleu.Watchlist.Toggles
import BouclierBleu.Watchlist.StaleProtection
import BouclierBleu.MountSecure.BothApis
import BouclierBleu.Watchlist.EntropyThreshold
import BouclierBleu.IoRestrict.Confinement
import BouclierBleu.IoRestrict.PipeIds
import BouclierBleu.Telemetry.Capacity
import BouclierBleu.Telemetry.StaleData
import BouclierBleu.Eradication.Bursts
import BouclierBleu.Eradication.Poisoning
import BouclierBleu.Eradication.Pruning
import BouclierBleu.Eradication.Lineage
import BouclierBleu.Eradication.Recycling
import BouclierBleu.MadviseRatelimit.BlindSpot
import BouclierBleu.MadviseRatelimit.Justified
import BouclierBleu.Watchlist.FilelessExecution
import BouclierBleu.MountSecure.RemovableNames
import BouclierBleu.Daemon.Ipc
import BouclierBleu.MountSecure.ComponentNames
import BouclierBleu.Watchlist.EntropyMirror
import BouclierBleu.Watchlist.ShortNames
import BouclierBleu.Watchlist.HardwareKeys
import BouclierBleu.Daemon.Sizing
import BouclierBleu.Daemon.TaintMapSize
import BouclierBleu.Daemon.FailedInit
import BouclierBleu.Daemon.ControlSocket
import BouclierBleu.Telemetry.Sink
import BouclierBleu.Telemetry.AlertLog
import BouclierBleu.Daemon.Linearization
import BouclierBleu.Daemon.LastWrite
import BouclierBleu.Daemon.Turns
import BouclierBleu.Telemetry.LogDecoding
import BouclierBleu.Watchlist.BootScan
import BouclierBleu.Eradication.TrackerSize
import BouclierBleu.MadviseRatelimit.Users
import BouclierBleu.PtraceBlock.Rights
import BouclierBleu.MountSecure.MountTable
import BouclierBleu.Daemon.RingRoom
import BouclierBleu.Daemon.Replies
import BouclierBleu.Eradication.Evidence
import BouclierBleu.Shield.Tampering
import BouclierBleu.UsernsRestrict.Sessions
import BouclierBleu.Telemetry.Reporting
import BouclierBleu.Telemetry.Provenance
import BouclierBleu.Watchlist.FromBoot
