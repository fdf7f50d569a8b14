import Outbox.Broker
import Outbox.Url

/-!
# Brokers on stream servers

Where a stream server is, and the broker that appends messages to a stream on it.

## Addresses of stream servers

A server is on the network or behind a socket of this machine. Its address is a URL, whose scheme
tells which of the two: the one has the number of a database as its path; the other has the path of
the socket, and the database in its query.
-/

namespace Outbox.Broker.Stream

/-- The address of a server. -/
inductive Address
  | network (host : String) (service : Nat) (database : Int)
  | socket (path : String) (database : Int)
  deriving DecidableEq, Repr

namespace Address

/-- Why a text is no address. -/
inductive Malformed
  /-- It is no URL, or one of another kind. -/
  | noAddress
  | noHost
  | noPath
  | invalidDatabase
  /-- It asks for an encrypted connection. -/
  | encrypted
  | invalidUser
  | invalidPassword
  deriving DecidableEq, Repr

/-- What an operator is told of an address that cannot be read. -/
def Malformed.message (e : Malformed) : String :=
  (match e with
    | noAddress => "Redis URL did not parse"
    | noHost => "Missing hostname"
    | noPath => "Missing path"
    | invalidDatabase => "Invalid database number"
    | encrypted => "can't connect with TLS, the feature is not enabled"
    | invalidUser => "Username is not valid UTF-8 string"
    | invalidPassword => "Password is not valid UTF-8 string") ++ "- InvalidClientConfig"

/-- The number of the service under which servers listen unless their address says otherwise. -/
def usualService : Nat :=
  6379

/-- The number of a database, of 64 bits with a sign. -/
def database? (cs : List Char) : Option Int :=
  let signed : Option Int := match cs with
    | '+' :: ds => (Url.natural? ds).map Int.ofNat
    | '-' :: ds => (Url.natural? ds).map fun n => -Int.ofNat n
    | ds => (Url.natural? ds).map Int.ofNat
  signed.filter fun n => -9223372036854775808 ≤ n && n ≤ 9223372036854775807

/-- The address of a server on the network. -/
def onNetwork (isEncrypted : Bool) (u : Url) : Except Malformed Address :=
  match u.authority.filter (!·.host.isEmpty) with
  | none => .error .noHost
  | some a =>
    if isEncrypted then .error .encrypted
    else
      match if u.trimmedPath.isEmpty then some 0 else database? u.trimmedPath with
      | none => .error .invalidDatabase
      | some database =>
        if (Url.decoded? a.user).isNone then .error .invalidUser
        else if (Url.decoded? a.password).isNone then .error .invalidPassword
        else .ok (.network (String.ofList a.host) (a.service.getD usualService) database)

/-- The address of a server behind a socket. -/
def behindSocket (u : Url) : Except Malformed Address :=
  let isLocal := match u.authority with
    | none => true
    | some a => a.host.isEmpty || a.host = "localhost".toList
  if !isLocal || u.path.head? ≠ some '/' then .error .noPath
  else
    match (u.queryValue? "db").elim (some 0) fun s => database? s.toList with
    | none => .error .invalidDatabase
    | some database => .ok (.socket (String.ofList u.path) database)

/-- Reads an address. -/
def parse (s : String) : Except Malformed Address :=
  match Url.parse? s with
  | none => .error .noAddress
  | some u =>
    match u.scheme with
    | "redis" => onNetwork false u
    | "rediss" => onNetwork true u
    | "unix" | "redis+unix" => behindSocket u
    | _ => .error .noAddress

end Address

end Outbox.Broker.Stream

/-!
## The stream broker

This broker appends every message to a stream on a server. It connects at the first publish and
keeps that connection for good: a connection that the server has dropped fails every later publish.
`command` writes a parcel as the words of a command, and `Parcel.ofWords?` reads it back.
-/

namespace Outbox.Broker

/-- What a server replies to a command. -/
inductive Stream.Reply
  /-- The entry has this identifier. -/
  | text (s : String)
  | number (n : Int)
  | nothing
  | list
  /-- An error with its code, and what the server says about it. -/
  | error (code : String) (detail : Option String)
  deriving DecidableEq, Repr

/-- How a server behaves at one moment. -/
structure Stream.Conditions where
  /-- Why it accepts no connection, if it does not. -/
  refusal : Option String := none
  /-- What it replies to a command; without a reply it drops the connection. -/
  reply : Option Stream.Reply := some (.text "0-1")

/-- Whether a broker has a connection. -/
inductive Stream.Link
  | absent
  | established
  /-- The server dropped it. -/
  | dropped
  deriving DecidableEq, Repr

/-- A broker that appends to a stream. -/
structure Stream where
  key : String := "courier:outbox"
  /-- Roughly how long the stream may grow. -/
  cap : Option UInt64 := none
  link : Stream.Link := .absent

/-- The parcel of a message that goes to a stream: it is tagged like its shape. -/
def Parcel.ofShape (m : Message) (s : Shape) : Except Error Parcel :=
  (Parcel.of m s).map ({ · with typeTag := s.tag })

/-- The parcel that the last words of a command spell. -/
def Parcel.ofWords? : List String → Option Parcel
  | ["*", "type_tag", typeTag, "type_name", typeName, "payload", payload] =>
    some ⟨typeTag, typeName, payload⟩
  | _ :: words => ofWords? words
  | [] => none

namespace Stream

/-- The broker that appends to a stream of the server with an address. It does not connect yet, but
the address has to be one. -/
def ofAddress (address : String) (key : Option String) (cap : Option UInt64) : Except Error Stream :=
  match Address.parse address with
  | .error e => .error (.unavailable e.message)
  | .ok _ =>
    let b : Stream := { cap }
    .ok { b with key := key.getD b.key }

/-- The codes of errors that have a name of their own. -/
def namedCodes : List (String × String) :=
  [("ERR", "ResponseError"), ("EXECABORT", "ExecAbortError"), ("LOADING", "BusyLoadingError"),
    ("NOSCRIPT", "NoScriptError"), ("MOVED", "Moved"), ("ASK", "Ask"), ("TRYAGAIN", "TryAgain"),
    ("CLUSTERDOWN", "ClusterDown"), ("CROSSSLOT", "CrossSlot"), ("MASTERDOWN", "MasterDown"),
    ("READONLY", "ReadOnly"), ("NOTBUSY", "NotBusy")]

/-- What is told about a reply that is no entry. -/
def Reply.complaint : Reply → Option String
  | text _ => none
  | number n => some (incompatible ("int(" ++ toString n ++ ")"))
  | nothing => some (incompatible "nil")
  | list => some (incompatible "bulk()")
  | error code detail =>
    match namedCodes.lookup code, detail with
    | some name, some d => some ("An error was signalled by the server - " ++ name ++ ": " ++ d)
    | some name, none => some ("An error was signalled by the server- " ++ name)
    | none, some d => some (code ++ ": " ++ d)
    | none, none => some code
where
  /-- The complaint about a reply of another kind. -/
  incompatible (shown : String) : String :=
    "Response was of incompatible type - TypeError: \"Response type not string compatible.\" " ++
      "(response was " ++ shown ++ ")"

/-- The words of the command that appends a parcel. -/
def command (b : Stream) (p : Parcel) : List String :=
  ["XADD", b.key] ++
    (match b.cap with
      | some n => ["MAXLEN", "~", toString n.toNat]
      | none => []) ++
    ["*", "type_tag", p.typeTag, "type_name", p.typeName, "payload", p.payload]

/-- Why a publish failed on its way. -/
def undelivered (reason : String) : String :=
  "XADD failed: " ++ reason

/-- The error on a connection that the server has dropped. -/
def broken : Error :=
  .unavailable (undelivered "broken pipe")

/-- Sends a parcel on the connection. -/
def send (b : Stream) (c : Conditions) (p : Parcel) :
    Except Error Unit × Option (List String) × Stream :=
  match c.reply with
  | none => (.error broken, some (b.command p), { b with link := .dropped })
  | some reply =>
    (match reply.complaint with
      | none => .ok ()
      | some complaint => .error (.rejected (undelivered complaint)),
      some (b.command p), { b with link := .established })

/-- Publishes a message under a shape: the result, the command that the server got if it got one,
and the broker afterwards. -/
def publish (b : Stream) (c : Conditions) (m : Message) (s : Shape) :
    Except Error Unit × Option (List String) × Stream :=
  match Parcel.ofShape m s with
  | .error e => (.error e, none, b)
  | .ok p =>
    match b.link, c.refusal with
    | .dropped, _ => (.error broken, none, b)
    | .absent, some reason => (.error (.unavailable reason), none, b)
    | _, _ => b.send c p

/-- The broker after the server dropped its connection. -/
def hangUp (b : Stream) : Stream :=
  { b with link := if b.link = .established then .dropped else b.link }

/-- What an operator sees of a broker. -/
def describe (b : Stream) : String :=
  "RedisStreamsBroker \x7b stream_key: " ++ Text.quoted b.key ++ ", max_len: " ++
    (match b.cap with
      | some n => "Some(" ++ toString n.toNat ++ ")"
      | none => "None") ++
    ", connected: " ++ (if b.link = .absent then "false" else "true") ++ " \x7d"

end Stream

end Outbox.Broker
