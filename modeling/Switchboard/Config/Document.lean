import Switchboard.Config
import Switchboard.Datum.Decoder
import Switchboard.Text.Bytes
import Switchboard.Toml.Document
import Switchboard.Toml.Writer

/-!
Configurations as documents. Reading is the same for every format of data; a configuration is written
as a TOML document in which each table has its plain values in front of its own tables.
-/
namespace Switchboard

namespace Decoder

def word16 : Decoder UInt16 := fun dialect d => (unsigned 16 dialect d).map UInt16.ofNat

def word64 : Decoder UInt64 := fun dialect d => (unsigned 64 dialect d).map UInt64.ofNat

end Decoder

namespace Target

def fields : Fields Target :=
  (Fields.pure Target.mk
    |>.required "module" Decoder.text
    |>.required "component" Decoder.text
    |>.required "interface" Decoder.text)

def decoder : Decoder Target := fields.decoder "InvocationTarget"

def datum (t : Target) : Datum :=
  .record [("module", .text t.moduleName), ("component", .text t.component),
    ("interface", .text t.interface)]

end Target

namespace Selector

def fields : Fields Selector :=
  (Fields.pure Selector.mk
    |>.required "module" Decoder.text
    |>.defaulted "component" Decoder.text "*"
    |>.defaulted "interface" Decoder.text "*")

def decoder : Decoder Selector := fields.decoder "TargetSelector"

def datum (s : Selector) : Datum :=
  .record [("module", .text s.moduleName), ("component", .text s.component),
    ("interface", .text s.interface)]

end Selector

namespace Config

def Destination.fields : Fields Destination :=
  (Fields.pure Destination.mk
    |>.required "name" Decoder.text
    |>.required "host" Decoder.text
    |>.required "port" Decoder.word16
    |>.optional "username" Decoder.text
    |>.optional "password" Decoder.text
    |>.defaulted "connect_timeout_ms" Decoder.word64 5000
    |>.defaulted "invoke_timeout_ms" Decoder.word64 30000
    |>.optional "heartbeat_interval_ms" Decoder.word64)

def Receiver.fields : Fields Receiver :=
  (Fields.pure Receiver.mk
    |>.required "destination" Decoder.text
    |>.defaulted "targets" (Decoder.listOf Selector.decoder) [])

def Reconnect.fields : Fields Reconnect :=
  (Fields.pure Reconnect.mk
    |>.defaulted "enabled" Decoder.flag true
    |>.defaulted "initial_delay_ms" Decoder.word64 1000
    |>.defaulted "max_delay_ms" Decoder.word64 30000
    |>.defaulted "scan_interval_ms" Decoder.word64 500)

def fields : Fields Config :=
  (Fields.pure Config.mk
    |>.defaulted "name" Decoder.text "hdds-remote"
    |>.defaulted "log_level" Decoder.text "info"
    |>.defaulted "destinations" (Decoder.listOf (Destination.fields.decoder "DestinationConfig")) []
    |>.defaulted "receivers" (Decoder.listOf (Receiver.fields.decoder "ReceiverConfig")) []
    |>.defaulted "reconnect" (Reconnect.fields.decoder "ReconnectConfig") {})

def decoder : Decoder Config := fields.decoder "ClientConfig"

private def number (n : UInt64) : Datum := .int n.toNat

private def present (name : String) (d : Option Datum) : List (String × Datum) :=
  (d.map (name, ·)).toList

def Destination.datum (d : Destination) : Datum :=
  .record ([("name", .text d.name), ("host", .text d.host), ("port", .int d.port.toNat)]
    ++ present "username" (d.username.map .text)
    ++ present "password" (d.password.map .text)
    ++ [("connect_timeout_ms", number d.connectTimeoutMs), ("invoke_timeout_ms", number d.invokeTimeoutMs)]
    ++ present "heartbeat_interval_ms" (d.heartbeatIntervalMs.map number))

def Receiver.datum (r : Receiver) : Datum :=
  .record [("destination", .text r.destination), ("targets", .list (r.targets.map Selector.datum))]

def Reconnect.datum (r : Reconnect) : Datum :=
  .record [("enabled", .bool r.enabled), ("initial_delay_ms", number r.initialDelayMs),
    ("max_delay_ms", number r.maxDelayMs), ("scan_interval_ms", number r.scanIntervalMs)]

def datum (c : Config) : Datum :=
  .record [("name", .text c.name), ("log_level", .text c.logLevel),
    ("destinations", .list (c.destinations.map Destination.datum)),
    ("receivers", .list (c.receivers.map Receiver.datum)),
    ("reconnect", c.reconnect.datum)]

section Lines

open Toml (Line Plain)

private def text (name : String) (s : String) : Line := .assignment name (.text s)

private def word (name : String) (n : Nat) : Line := .assignment name (.int n)

def Destination.lines (d : Destination) : List Line :=
  [.header true [] "destinations", text "name" d.name, text "host" d.host, word "port" d.port.toNat]
    ++ (d.username.map (text "username")).toList
    ++ (d.password.map (text "password")).toList
    ++ [word "connect_timeout_ms" d.connectTimeoutMs.toNat, word "invoke_timeout_ms" d.invokeTimeoutMs.toNat]
    ++ (d.heartbeatIntervalMs.map fun ms => word "heartbeat_interval_ms" ms.toNat).toList

def targetLines (s : Selector) : List Line :=
  [.header true ["receivers"] "targets", text "module" s.moduleName, text "component" s.component,
    text "interface" s.interface]

/-- An empty list is a plain value. -/
def emptyList {α : Type} (name : String) (items : List α) : List Line :=
  if items.isEmpty then [.assignment name .noItems] else []

def Receiver.lines (r : Receiver) : List Line :=
  [.header true [] "receivers", text "destination" r.destination] ++ emptyList "targets" r.targets
    ++ r.targets.flatMap targetLines

def Reconnect.lines (r : Reconnect) : List Line :=
  [.header false [] "reconnect", .assignment "enabled" (.bool r.enabled),
    word "initial_delay_ms" r.initialDelayMs.toNat, word "max_delay_ms" r.maxDelayMs.toNat,
    word "scan_interval_ms" r.scanIntervalMs.toNat]

def lines (c : Config) : List Line :=
  [text "name" c.name, text "log_level" c.logLevel]
    ++ emptyList "destinations" c.destinations ++ emptyList "receivers" c.receivers
    ++ c.destinations.flatMap Destination.lines ++ c.receivers.flatMap Receiver.lines
    ++ c.reconnect.lines

end Lines

/-- The document of a configuration; there is none when a number exceeds 63 bits. -/
def toml? (c : Config) : Option String := Toml.write? c.lines

inductive Error
  | unreadable (reason : String)
  | notToml
  | data (e : DataError)
  | invalid (fault : Fault)

namespace Error

/-- The message without the wording of errors of syntax. -/
def message : Error → String
  | .unreadable reason => "I/O error: " ++ reason
  | .notToml => "TOML parse error:"
  | .data e => "TOML parse error: " ++ e.message .toml
  | .invalid fault => "Invalid configuration: " ++ fault.message

end Error

def ofToml (s : String) : Except Error Config :=
  match Toml.parse? s with
  | none => .error .notToml
  | some d => (decoder .toml d).mapError .data

def ofFile (content : Text.Bytes) : Except Error Config :=
  match Text.ofBytes? content with
  | none => .error (.unreadable "stream did not contain valid UTF-8")
  | some s => ofToml s

def validate (c : Config) : Except Error Unit :=
  match c.fault with
  | none => .ok ()
  | some fault => .error (.invalid fault)

end Config

end Switchboard
