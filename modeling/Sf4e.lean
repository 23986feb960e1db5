import Sf4e.Lib.Machine
import Sf4e.Lib.Containers
import Sf4e.Lib.Json
import Sf4e.Lib.Ledger
import Sf4e.Lib.Matching
import Sf4e.Lib.Resend
import Sf4e.Session.Step
import Sf4e.Session.Runs
import Sf4e.Session.Readiness
import Sf4e.Session.Outsiders
import Sf4e.Session.Spectators
import Sf4e.Session.Picks
import Sf4e.Session.Frozen
import Sf4e.Session.Barrier
import Sf4e.Session.Connections
import Sf4e.Session.Seats
import Sf4e.Session.Delay
import Sf4e.Session.Reuse
import Sf4e.Session.Forwarding
import Sf4e.Session.Text
import Sf4e.Session.Pairing
import Sf4e.Session.Addresses
import Sf4e.Server.Matchmaker
import Sf4e.Server.Exceptions
import Sf4e.Server.Admission
import Sf4e.Server.LobbyTable
import Sf4e.Server.Atomic
import Sf4e.Server.Relay
import Sf4e.Server.Pipe
import Sf4e.Server.SeatChange
import Sf4e.Server.MatchmakerClient
import Sf4e.Server.Exchange
import Sf4e.Netplay.WinnerStays
import Sf4e.Netplay.ReadyKept
import Sf4e.Netplay.Desyncs
import Sf4e.Netplay.NoFalseDesync
import Sf4e.Netplay.LongMatch
import Sf4e.Netplay.StaleSnapshots
import Sf4e.Netplay.SameRoad
import Sf4e.Netplay.OptOut
import Sf4e.Netplay.PunchReads
import Sf4e.Battle.SavedFrames
import Sf4e.Battle.SoundRuns
import Sf4e.Battle.FrameShift
import Sf4e.Battle.Checksum
import Sf4e.Battle.SoundPool
import Sf4e.Battle.MementoRoundTrip
import Sf4e.Netplay.InputRepair
import Sf4e.Server.RateLimit
import Sf4e.Server.ServerPing
import Sf4e.Netplay.DesyncReport
import Sf4e.Session.Statistics
import Sf4e.Netplay.DataUpdate
import Sf4e.Launcher.LibraryScan
import Sf4e.Netplay.HeaderValue
import Sf4e.Netplay.PlayerName
import Sf4e.Netplay.PlayerAddresses
import Sf4e.Battle.Timeline
import Sf4e.Battle.Holds
import Sf4e.Battle.Starving
import Sf4e.Battle.SyncVerdicts
import Sf4e.Battle.MatchSetup
import Sf4e.Netplay.WiredRoom
