import Switchboard.Client

/-!
Tables about the destinations of a client: what they are doing, and what they have done.
-/
namespace Switchboard

structure Snapshot where
  name : String
  authority : String
  state : ConnectionState
  failures : Nat
  stats : Stats
  /-- Whole seconds since the destination was added. -/
  uptime : Nat

namespace Snapshot

def column (width : Nat) (s : String) : String := s.pushn ' ' (width - s.length)

def statusLine (s : Snapshot) : String :=
  "  " ++ column 20 s.name ++ " " ++ column 22 s.authority ++ " " ++ column 12 s.state.text
    ++ " failures: " ++ toString s.failures ++ "\n"

def statsLine (s : Snapshot) : String :=
  "  " ++ s.name ++ " [" ++ s.state.text ++ "]: "
    ++ toString s.stats.invocations.toNat ++ " calls ("
    ++ (Stats.rate s.stats.invocations.toNat s.uptime).onePlace ++ " calls/s), "
    ++ Stats.quantityText s.stats.bytesSent.toNat ++ " sent, "
    ++ Stats.quantityText s.stats.bytesReceived.toNat ++ " received, "
    ++ toString s.stats.remoteErrors.toNat ++ " remote errors, "
    ++ toString s.stats.disconnects.toNat ++ " disconnects\n"

def statusText (all : List Snapshot) : String :=
  "hdds-remote status\n-------------------\n" ++ String.join (all.map statusLine)

def statsText (all : List Snapshot) : String :=
  "--- Destination Statistics ---\n" ++ String.join (all.map statsLine)

end Snapshot

def Destination.snapshot (now : Instant) (d : Destination) : Snapshot where
  name := d.name
  authority := d.descriptor.authority
  state := d.state
  failures := d.failures
  stats := d.stats
  uptime := (now - d.created) / 1000000000

/-- The loaded destinations as they stand, by name. -/
def Client.snapshots {T : Type} [Transport T] (c : Client T) : List Snapshot :=
  (c.table.filterMap fun entry => (c.destinations[entry.2]?).map (·.snapshot c.now)).mergeSort
    fun a b => a.name ≤ b.name

end Switchboard
