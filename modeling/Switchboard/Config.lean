import Switchboard.Descriptor
import Switchboard.Reconnect.Policy
import Switchboard.Target.Selector

/-!
The configuration of a client: the destinations it knows, the receivers that claim targets on them in
the order in which they are tried, and when lost destinations are connected again. A configuration is
checked before a client is made from it, and the check names the first fault.
-/
namespace Switchboard

namespace Config

structure Destination where
  name : String
  host : String
  port : UInt16
  username : Option String := none
  password : Option String := none
  connectTimeoutMs : UInt64 := 5000
  invokeTimeoutMs : UInt64 := 30000
  heartbeatIntervalMs : Option UInt64 := none
deriving DecidableEq, Repr

structure Receiver where
  destination : String
  targets : List Selector := []
deriving DecidableEq, Repr

structure Reconnect where
  enabled : Bool := true
  initialDelayMs : UInt64 := 1000
  maxDelayMs : UInt64 := 30000
  scanIntervalMs : UInt64 := 500
deriving DecidableEq, Repr

end Config

structure Config where
  name : String := "hdds-remote"
  logLevel : String := "info"
  destinations : List Config.Destination := []
  receivers : List Config.Receiver := []
  reconnect : Config.Reconnect := {}
deriving DecidableEq, Repr

namespace Config

/-- The descriptor of a destination. A password without a user name is not used. -/
def Destination.descriptor (d : Destination) : Descriptor where
  name := d.name
  host := d.host
  port := d.port
  credentials := d.username.map fun username => ⟨username, d.password⟩
  connectTimeout := .ofMillis d.connectTimeoutMs.toNat
  invokeTimeout := .ofMillis d.invokeTimeoutMs.toNat
  heartbeat := d.heartbeatIntervalMs.map fun ms => .ofMillis ms.toNat

def Reconnect.policy (r : Reconnect) : Switchboard.Reconnect.Policy where
  enabled := r.enabled
  initialDelay := .ofMillis r.initialDelayMs.toNat
  maxDelay := .ofMillis r.maxDelayMs.toNat
  scanInterval := .ofMillis r.scanIntervalMs.toNat

def single (destination : Destination) (moduleName : String) : Config where
  destinations := [destination]
  receivers := [⟨destination.name, [⟨moduleName, "*", "*"⟩]⟩]

/-- What is wrong with a configuration. Destinations without a name and receivers are known by their
place. -/
inductive Fault
  | noDestinations
  | emptyName (index : Nat)
  | duplicateDestination (name : String)
  | emptyHost (name : String)
  | zeroPort (name : String)
  | zeroTimeout (name : String)
  | zeroHeartbeat (name : String)
  | unknownDestination (index : Nat) (name : String)
  | noTargets (index : Nat)
  | delaysOutOfOrder (initialMs maxMs : UInt64)
  | zeroScanInterval
  | missingFile
deriving DecidableEq, Repr

def Fault.message : Fault → String
  | .noDestinations => "No destinations configured"
  | .emptyName index => "Destination " ++ toString index ++ ": empty name"
  | .duplicateDestination name => "Destination '" ++ name ++ "' defined more than once"
  | .emptyHost name => "Destination '" ++ name ++ "': empty host"
  | .zeroPort name => "Destination '" ++ name ++ "': port is 0"
  | .zeroTimeout name => "Destination '" ++ name ++ "': timeouts must be non-zero"
  | .zeroHeartbeat name => "Destination '" ++ name ++ "': heartbeat interval must be non-zero"
  | .unknownDestination index name =>
    "Receiver " ++ toString index ++ ": unknown destination '" ++ name ++ "'"
  | .noTargets index => "Receiver " ++ toString index ++ ": no targets"
  | .delaysOutOfOrder initial max =>
    "Reconnect initial delay (" ++ toString initial.toNat ++ " ms) exceeds max delay ("
      ++ toString max.toNat ++ " ms)"
  | .zeroScanInterval => "Reconnect scan interval must be non-zero"
  | .missingFile => "Missing --config"

/-- The first fault of one destination; `seen` holds the names before it. -/
def destinationFault (index : Nat) (seen : List String) (d : Destination) : Option Fault :=
  if d.name = "" then some (.emptyName index)
  else if d.name ∈ seen then some (.duplicateDestination d.name)
  else if d.host = "" then some (.emptyHost d.name)
  else if d.port = 0 then some (.zeroPort d.name)
  else if d.connectTimeoutMs = 0 ∨ d.invokeTimeoutMs = 0 then some (.zeroTimeout d.name)
  else if d.heartbeatIntervalMs = some 0 then some (.zeroHeartbeat d.name)
  else none

def destinationsFault : Nat → List String → List Destination → Option Fault
  | _, _, [] => none
  | index, seen, d :: rest =>
    (destinationFault index seen d).orElse fun _ => destinationsFault (index + 1) (d.name :: seen) rest

def receiverFault (index : Nat) (names : List String) (r : Receiver) : Option Fault :=
  if r.destination ∉ names then some (.unknownDestination index r.destination)
  else if r.targets = [] then some (.noTargets index)
  else none

def receiversFault (names : List String) : Nat → List Receiver → Option Fault
  | _, [] => none
  | index, r :: rest =>
    (receiverFault index names r).orElse fun _ => receiversFault names (index + 1) rest

def Reconnect.fault (r : Reconnect) : Option Fault :=
  if r.maxDelayMs < r.initialDelayMs then some (.delaysOutOfOrder r.initialDelayMs r.maxDelayMs)
  else if r.scanIntervalMs = 0 then some .zeroScanInterval
  else none

def fault (c : Config) : Option Fault :=
  if c.destinations = [] then some .noDestinations
  else
    (destinationsFault 0 [] c.destinations).orElse fun _ =>
    (receiversFault (c.destinations.map (·.name)) 0 c.receivers).orElse fun _ =>
    c.reconnect.fault

end Config

end Switchboard
