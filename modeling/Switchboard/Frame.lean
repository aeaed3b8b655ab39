import Switchboard.Datum.Variant
import Switchboard.Target
import Switchboard.Text.Bytes

/-!
The frames of the wire. A client says hello, invokes and pings; a server welcomes or rejects it and
answers each request under the request's own number.
-/
namespace Switchboard

open Text (Bytes)

inductive ClientFrame
  | hello (client : String) (username password : Option String)
  | invoke (id : UInt64) (target : Target) (payload : Bytes)
  | ping (id : UInt64)
deriving DecidableEq

inductive ServerFrame
  | welcome
  | rejected (reason : String)
  | reply (id : UInt64) (payload : Bytes)
  | appError (id : UInt64) (message : String)
  | pong (id : UInt64)
deriving DecidableEq

def Frame.tagged (tag : String) (fields : List (String × Datum)) : Datum :=
  .record (("type", .text tag) :: fields)

def Frame.idField (id : UInt64) : String × Datum := ("id", .int id.toNat)

def Frame.payloadField (payload : Bytes) : String × Datum :=
  ("payload", .list (payload.map fun b => .int b.toNat))

def Frame.nullableText : Option String → Datum
  | none => .null
  | some s => .text s

def Decoder.word : Decoder UInt64 := fun dialect d => (Decoder.unsigned 64 dialect d).map UInt64.ofNat

def Decoder.octets : Decoder Bytes :=
  Decoder.listOf fun dialect d => (Decoder.unsigned 8 dialect d).map UInt8.ofNat

/-- The frames of one side: how one is written as a datum, and how one is read, first the tag and then
what belongs to it. -/
class Frame (α : Type) where
  datum : α → Datum
  split : Datum → Except DataError (String × Content)
  ofContent : Dialect → String → Content → Except DataError α

def Frame.decoder {α : Type} [Frame α] : Decoder α := fun dialect d => do
  let (tag, content) ← Frame.split α d
  Frame.ofContent dialect tag content

namespace ClientFrame

def datum : ClientFrame → Datum
  | .hello client username password =>
    Frame.tagged "hello" [("client", .text client), ("username", Frame.nullableText username),
      ("password", Frame.nullableText password)]
  | .invoke id target payload =>
    Frame.tagged "invoke" [Frame.idField id, ("module", .text target.moduleName), ("component", .text target.component),
      ("interface", .text target.interface), Frame.payloadField payload]
  | .ping id => Frame.tagged "ping" [Frame.idField id]

def helloFields : Fields ClientFrame :=
  (Fields.pure hello
    |>.required "client" Decoder.text
    |>.optional "username" Decoder.text
    |>.optional "password" Decoder.text)

def invokeFields : Fields ClientFrame :=
  (Fields.pure (fun id m c i payload => invoke id ⟨m, c, i⟩ payload)
    |>.required "id" Decoder.word
    |>.required "module" Decoder.text
    |>.required "component" Decoder.text
    |>.required "interface" Decoder.text
    |>.required "payload" Decoder.octets)

def pingFields : Fields ClientFrame := (Fields.pure ping).required "id" Decoder.word

def ofContent (dialect : Dialect) (tag : String) (content : Content) : Except DataError ClientFrame :=
  if tag = "hello" then content.fields helloFields dialect
  else if tag = "invoke" then content.fields invokeFields dialect
  else content.fields pingFields dialect

def split : Datum → Except DataError (String × Content) :=
  Variant.split "ClientFrame" ["hello", "invoke", "ping"]

instance : Frame ClientFrame := ⟨datum, split, ofContent⟩

end ClientFrame

namespace ServerFrame

def datum : ServerFrame → Datum
  | .welcome => Frame.tagged "welcome" []
  | .rejected reason => Frame.tagged "rejected" [("reason", .text reason)]
  | .reply id payload => Frame.tagged "result" [Frame.idField id, Frame.payloadField payload]
  | .appError id message => Frame.tagged "app_error" [Frame.idField id, ("message", .text message)]
  | .pong id => Frame.tagged "pong" [Frame.idField id]

def rejectedFields : Fields ServerFrame := (Fields.pure rejected).required "reason" Decoder.text

def replyFields : Fields ServerFrame :=
  ((Fields.pure reply).required "id" Decoder.word).required "payload" Decoder.octets

def appErrorFields : Fields ServerFrame :=
  ((Fields.pure appError).required "id" Decoder.word).required "message" Decoder.text

def pongFields : Fields ServerFrame := (Fields.pure pong).required "id" Decoder.word

def ofContent (dialect : Dialect) (tag : String) (content : Content) : Except DataError ServerFrame :=
  if tag = "welcome" then content.bare .welcome
  else if tag = "rejected" then content.fields rejectedFields dialect
  else if tag = "result" then content.fields replyFields dialect
  else if tag = "app_error" then content.fields appErrorFields dialect
  else content.fields pongFields dialect

def split : Datum → Except DataError (String × Content) :=
  Variant.split "ServerFrame" ["welcome", "rejected", "result", "app_error", "pong"]

instance : Frame ServerFrame := ⟨datum, split, ofContent⟩

/-- The number of the request that a frame answers. -/
def requestId? : ServerFrame → Option UInt64
  | .reply id _ | .appError id _ | .pong id => some id
  | .welcome | .rejected _ => none

def describe : ServerFrame → String
  | .welcome => "Welcome"
  | .rejected reason => "Rejected \x7b reason: " ++ Text.quoted reason ++ " \x7d"
  | .reply id payload =>
    "Reply \x7b id: " ++ toString id.toNat ++ ", payload: ["
      ++ ", ".intercalate (payload.map fun b => toString b.toNat) ++ "] \x7d"
  | .appError id message =>
    "AppError \x7b id: " ++ toString id.toNat ++ ", message: " ++ Text.quoted message ++ " \x7d"
  | .pong id => "Pong \x7b id: " ++ toString id.toNat ++ " \x7d"

end ServerFrame

end Switchboard
