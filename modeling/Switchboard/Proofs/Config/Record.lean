import Switchboard.Config.Document
import Switchboard.Proofs.Datum.Fields

/-!
A configuration is read back from the record of its values. That does not depend on the format, nor on
the order in which the values stand.
-/
namespace Switchboard

namespace Decoder

variable (dialect : Dialect)

theorem unsigned_nat {bits n : Nat} (fits : n < Nat.pow 2 bits) :
    unsigned bits dialect (.int n) = .ok n := by
  have within : (0 : Int) ≤ n ∧ (n : Int) < Nat.pow 2 bits :=
    ⟨Int.natCast_nonneg n, Int.ofNat_lt.mpr fits⟩
  rw [unsigned, if_pos within, Int.toNat_natCast]

theorem word16_toNat (n : UInt16) : word16 dialect (.int n.toNat) = .ok n := by
  rw [word16, unsigned_nat dialect n.toNat_lt, Except.map, UInt16.ofNat_toNat]

theorem word64_toNat (n : UInt64) : word64 dialect (.int n.toNat) = .ok n := by
  rw [word64, unsigned_nat dialect n.toNat_lt, Except.map, UInt64.ofNat_toNat]

theorem given_text (s : String) : text.nullable dialect (.text s) = .ok (some s) := rfl

theorem given_word64 (n : UInt64) : word64.nullable dialect (.int n.toNat) = .ok (some n) := by
  simp only [nullable, word64_toNat]
  rfl

variable {dialect}

theorem listOf_map {α : Type} {item : Decoder α} {datum : α → Datum}
    (read : ∀ a, item dialect (datum a) = .ok a) (items : List α) :
    listOf item dialect (.list (items.map datum)) = .ok items := by
  rw [listOf]
  induction items with
  | nil => rfl
  | cons a items ih =>
    rw [List.map_cons, List.mapM_cons, read, ih]
    rfl

end Decoder

theorem Selector.decoder_datum (dialect : Dialect) (s : Selector) :
    Selector.decoder dialect s.datum = .ok s := by
  have inModule := (Fields.Fits.pure dialect Selector.mk).required "module"
    (show Decoder.text dialect (.text s.moduleName) = .ok s.moduleName from rfl) (by simp)
  have ofComponent := inModule.defaulted "component"
    (show Decoder.text dialect (.text s.component) = .ok s.component from rfl) "*" (by simp)
  have fits := ofComponent.defaulted "interface"
    (show Decoder.text dialect (.text s.interface) = .ok s.interface from rfl) "*" (by simp)
  exact fits.ofNamed (by simp)

namespace Config

open Fields (Fits given)

variable (dialect : Dialect)

/-- The values of a destination, those that are absent left out. -/
def Destination.values (d : Destination) : List (String × Datum) :=
  [("name", .text d.name), ("host", .text d.host), ("port", .int d.port.toNat)]
    ++ given "username" (d.username.map .text) ++ given "password" (d.password.map .text)
    ++ [("connect_timeout_ms", .int d.connectTimeoutMs.toNat),
      ("invoke_timeout_ms", .int d.invokeTimeoutMs.toNat)]
    ++ given "heartbeat_interval_ms" (d.heartbeatIntervalMs.map fun ms => .int ms.toNat)

theorem Destination.distinct (d : Destination) : (d.values.map (·.1)).Nodup := by
  obtain ⟨_, _, _, username, password, _, _, heartbeat⟩ := d
  cases username <;> cases password <;> cases heartbeat <;> simp [values, given]

theorem Destination.read_values (d : Destination) :
    Destination.fields.decoder "DestinationConfig" dialect (.record d.values) = .ok d := by
  have named := (Fits.pure dialect Destination.mk).required "name"
    (show Decoder.text dialect (.text d.name) = .ok d.name from rfl) (by simp)
  have hosted := named.required "host"
    (show Decoder.text dialect (.text d.host) = .ok d.host from rfl) (by simp)
  have addressed := hosted.required "port" (Decoder.word16_toNat dialect d.port) (by simp)
  have user := addressed.given "username" (Decoder.given_text dialect) d.username (by simp)
  have known := user.given "password" (Decoder.given_text dialect) d.password (by simp)
  have connecting := known.defaulted "connect_timeout_ms"
    (Decoder.word64_toNat dialect d.connectTimeoutMs) 5000 (by simp)
  have invoking := connecting.defaulted "invoke_timeout_ms"
    (Decoder.word64_toNat dialect d.invokeTimeoutMs) 30000 (by simp)
  have fits := invoking.given "heartbeat_interval_ms" (Decoder.given_word64 dialect)
    d.heartbeatIntervalMs (by simp)
  exact (fits.perm (by simp [values])).ofNamed d.distinct

def Receiver.values (r : Receiver) : List (String × Datum) :=
  [("destination", .text r.destination), ("targets", .list (r.targets.map Selector.datum))]

theorem Receiver.read_values (r : Receiver) :
    Receiver.fields.decoder "ReceiverConfig" dialect (.record r.values) = .ok r := by
  have bound := (Fits.pure dialect Receiver.mk).required "destination"
    (show Decoder.text dialect (.text r.destination) = .ok r.destination from rfl) (by simp)
  have fits := bound.defaulted "targets"
    (Decoder.listOf_map (Selector.decoder_datum dialect) r.targets) [] (by simp)
  exact fits.ofNamed (by simp)

def Reconnect.values (r : Reconnect) : List (String × Datum) :=
  [("enabled", .bool r.enabled), ("initial_delay_ms", .int r.initialDelayMs.toNat),
    ("max_delay_ms", .int r.maxDelayMs.toNat), ("scan_interval_ms", .int r.scanIntervalMs.toNat)]

theorem Reconnect.read_values (r : Reconnect) :
    Reconnect.fields.decoder "ReconnectConfig" dialect (.record r.values) = .ok r := by
  have switched := (Fits.pure dialect Reconnect.mk).defaulted "enabled"
    (show Decoder.flag dialect (.bool r.enabled) = .ok r.enabled from rfl) true (by simp)
  have initial := switched.defaulted "initial_delay_ms"
    (Decoder.word64_toNat dialect r.initialDelayMs) 1000 (by simp)
  have longest := initial.defaulted "max_delay_ms"
    (Decoder.word64_toNat dialect r.maxDelayMs) 30000 (by simp)
  have fits := longest.defaulted "scan_interval_ms"
    (Decoder.word64_toNat dialect r.scanIntervalMs) 500 (by simp)
  exact fits.ofNamed (by simp)

def values (c : Config) : List (String × Datum) :=
  [("name", .text c.name), ("log_level", .text c.logLevel),
    ("destinations", .list (c.destinations.map fun d => .record d.values)),
    ("receivers", .list (c.receivers.map fun r => .record r.values)),
    ("reconnect", .record c.reconnect.values)]

/-- A configuration is read from its values, in any order. -/
theorem read_values (c : Config) {fields : List (String × Datum)} (same : fields.Perm c.values) :
    decoder dialect (.record fields) = .ok c := by
  have named := (Fits.pure dialect Config.mk).defaulted "name"
    (show Decoder.text dialect (.text c.name) = .ok c.name from rfl) "hdds-remote" (by simp)
  have logged := named.defaulted "log_level"
    (show Decoder.text dialect (.text c.logLevel) = .ok c.logLevel from rfl) "info" (by simp)
  have known := logged.defaulted "destinations"
    (Decoder.listOf_map (Destination.read_values dialect) c.destinations) [] (by simp)
  have claimed := known.defaulted "receivers"
    (Decoder.listOf_map (Receiver.read_values dialect) c.receivers) [] (by simp)
  have fits := claimed.defaulted "reconnect" (Reconnect.read_values dialect c.reconnect) {} (by simp)
  have distinct : (fields.map (·.1)).Nodup := by
    rw [(same.map (·.1)).nodup_iff]
    simp [values]
  exact (fits.perm same).ofNamed distinct

end Config

end Switchboard
