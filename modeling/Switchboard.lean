import Switchboard.Cli.Machine
import Switchboard.Main
import Switchboard.Proofs.Client.Changes
import Switchboard.Proofs.Client.Loading
import Switchboard.Proofs.Config.RoundTrip
import Switchboard.Proofs.Connection.Balance
import Switchboard.Proofs.Connection.Failures
import Switchboard.Proofs.Connection.Handles
import Switchboard.Proofs.Connection.Recorded
import Switchboard.Proofs.Connection.Retirement
import Switchboard.Proofs.Connection.SingleFlight
import Switchboard.Proofs.Frame.Lengths
import Switchboard.Proofs.Invocation.Accounts
import Switchboard.Proofs.Invocation.Result
import Switchboard.Proofs.Reconnect.Backoff
import Switchboard.Proofs.Registry.History
import Switchboard.Proofs.Supervisor.Departures
import Switchboard.Proofs.Supervisor.Losses
import Switchboard.Proofs.Supervisor.Pace
import Switchboard.Proofs.Supervisor.Teardown
import Switchboard.Proofs.Target.Matching
import Switchboard.Proofs.Target.Text
import Switchboard.Proofs.Tcp.Abandoned
import Switchboard.Proofs.Tcp.Closing
import Switchboard.Proofs.Tcp.Pulse
import Switchboard.Proofs.Tcp.Replies
import Switchboard.Proofs.Tcp.Tracked
import Switchboard.Proofs.Transport.Epochs
import Switchboard.Proofs.Transport.Opening
import Switchboard.Proofs.Transport.Sends
import Switchboard.Proofs.Transport.Severed
import Switchboard.Transport.InProcess
import Switchboard.Transport.Scripted
