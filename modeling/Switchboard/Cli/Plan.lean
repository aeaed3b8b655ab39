import Switchboard.Cli.Arguments
import Switchboard.Report
import Switchboard.Session
import Switchboard.Transport.Tcp

/-!
What the program does for its arguments, as a plan: a chain of single actions, each telling how to go on
from what the action came to. A plan says nothing about who carries it out.
-/
namespace Switchboard.Cli

open Text (Bytes)

inductive Plan
  | exit (code : Nat)
  | print (text : String) (next : Plan)
  | complain (text : String) (next : Plan)
  | readFile (path : String) (next : Except String Bytes → Plan)
  | writeFile (path text : String) (next : Except String Unit → Plan)
  | call (s : Session Tcp) (what : Client.Call Tcp) (next : Session Tcp → Option Client.CallResult → Plan)
  /-- Keep going until interrupted, with a report every so many seconds. -/
  | keepUp (s : Session Tcp) (seconds : Nat) (report : Session Tcp → String) (next : Session Tcp → Plan)

namespace Plan

def fail (message : String) : Plan := .complain ("Error: " ++ message ++ "\n") (.exit 1)

def orFail {α : Type} (result : Except String α) (next : α → Plan) : Plan :=
  match result with
  | .ok a => next a
  | .error message => fail message

end Plan

def sampleConfig : Config where
  name := "server-one"
  destinations := [
    { name := "server-two", host := "127.0.0.1", port := 8080, username := some "quickuser1",
      password := some "quick123+", heartbeatIntervalMs := some 5000 },
    { name := "server-three", host := "10.0.0.3", port := 8080 }]
  receivers := [
    ⟨"server-two", [⟨"server-two-module", "EchoOnServerTwo", "*"⟩]⟩,
    ⟨"server-three", [⟨"shared-*", "*", "*"⟩]⟩]

def genConfig (output : String) : Plan :=
  Plan.orFail ((sampleConfig.toml?).elim (.error "the configuration cannot be written") .ok) fun toml =>
  .writeFile output ("# HDDS Remote Client Configuration\n# Generated by hdds-remote gen-config\n\n" ++ toml ++ "\n")
    fun written => Plan.orFail written fun () =>
  .print ("Generated configuration file: " ++ output ++ "\n") (.exit 0)

def summary (c : Config) : String :=
  let destination (d : Config.Destination) :=
    "  " ++ d.name ++ " -> " ++ d.descriptor.authority ++ " (connect " ++ toString d.connectTimeoutMs.toNat
      ++ " ms, invoke " ++ toString d.invokeTimeoutMs.toNat ++ " ms)\n"
  let receiver (r : Config.Receiver × Nat) :=
    "  [" ++ toString r.2 ++ "] " ++ r.1.destination ++ " <- "
      ++ ", ".intercalate (r.1.targets.map (·.text)) ++ "\n"
  "Configuration valid!\n\nClient: " ++ c.name
    ++ "\nDestinations: " ++ toString c.destinations.length ++ "\n"
    ++ String.join (c.destinations.map destination)
    ++ "Receivers: " ++ toString c.receivers.length ++ "\n"
    ++ String.join (c.receivers.zipIdx.map receiver)

/-- A configuration from what reading its file came to. -/
def configOf : Except String Bytes → Except Config.Error Config
  | .ok content => Config.ofFile content
  | .error reason => .error (.unreadable reason)

def validate (path : String) : Plan :=
  .readFile path fun content =>
    let checked : Except Config.Error Config := do
      let c ← configOf content
      c.validate
      return c
    match checked with
    | .ok c => .print (summary c) (.exit 0)
    | .error e => .complain ("Configuration invalid: " ++ e.message ++ "\n") (.exit 1)

def withConfig (args : Arguments) (next : Config → Plan) : Plan :=
  match args.config with
  | none => Plan.fail (Config.Error.invalid .missingFile).message
  | some path => .readFile path fun content =>
    Plan.orFail ((configOf content).mapError (·.message)) fun c => next { c with logLevel := args.logLevel }

/-- Make the client of a configuration, on a host that may have no network. -/
def withClient (outage : Option Tcp.Fault) (c : Config) (next : Session Tcp → Plan) : Plan :=
  let transport : Tcp := { clientName := c.name, outage := outage }
  Plan.orFail ((Client.ofConfig c transport).mapError (·.message)) fun client => next (.start client)

def withoutReconnect (c : Config) : Config := { c with reconnect := { c.reconnect with enabled := false } }

def connectAll (s : Session Tcp) : Client.Call Tcp := .connectAll (s.client.table.map (·.2)) 0 none

def status (outage : Option Tcp.Fault) (args : Arguments) : Plan :=
  withConfig args fun c =>
  withClient outage (withoutReconnect c) fun s =>
  .call s (connectAll s) fun s _ =>
  .print (Snapshot.statusText s.client.snapshots) (.exit 0)

def invoke (outage : Option Tcp.Fault) (args : Arguments) (target payload : String) : Plan :=
  withConfig args fun c =>
  withClient outage (withoutReconnect c) fun s =>
  Plan.orFail ((Target.parse target).mapError (·.message)) fun target =>
  .call s (.invoke { target := target, payload := Text.bytes payload }) fun _ result =>
  match result with
  | some (.invoked (.ok reply)) => .print (Text.readable reply ++ "\n") (.exit 0)
  | some (.invoked (.error e)) => Plan.fail e.message
  | _ => Plan.fail "the invocation has no result"

def banner (c : Config) : String :=
  let destination (d : Config.Destination) :=
    "Destination: " ++ d.name ++ " -> " ++ d.descriptor.authority ++ "\n"
  "HDDS Remote Client v" ++ version ++ "\n=====================================\n\n"
    ++ String.join (c.destinations.map destination) ++ "\nPress Ctrl+C to stop...\n\n"

def run (outage : Option Tcp.Fault) (args : Arguments) : Plan :=
  withConfig args fun c =>
  withClient outage c fun s =>
  .print (banner c) <|
  .call s (connectAll s) fun s _ =>
  .keepUp s args.statsInterval (fun s => Snapshot.statsText s.client.snapshots) fun s =>
  let s := s.perform (·.shutdown)
  .print ("\nShutting down...\n\nFinal Statistics:\n" ++ Snapshot.statsText s.client.snapshots) (.exit 0)

def plan (outage : Option Tcp.Fault) (args : List String) : Plan :=
  match Arguments.read args with
  | .error (.help text) => .print text (.exit 0)
  | .error .version => .print (name ++ " " ++ version ++ "\n") (.exit 0)
  | .error (.misuse reason) => .complain ("error: " ++ reason ++ "\n") (.exit 2)
  | .ok a => match a.command with
    | .run => run outage a
    | .genConfig output => genConfig output
    | .validate config => validate config
    | .status => status outage a
    | .invoke target payload => invoke outage a target payload

end Switchboard.Cli
