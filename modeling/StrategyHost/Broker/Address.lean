import StrategyHost.Broker.Url
import StrategyHost.Failure
import StrategyHost.Text.Percent

/-!
# Brokers

Where a broker is found, by the address that the configuration gives: on a host,
or at a socket in the file system.
-/

namespace StrategyHost.Broker

/-- Where a broker is found, and which of its databases is used. -/
inductive Address where
  | network (host : String) (port : Nat) (database : Int)
  | socket (path : List UInt8) (database : Int)
  deriving DecidableEq, Repr

/-- Why an address names no broker. -/
inductive AddressFault where
  | notAnAddress
  | missingHost
  | encrypted
  | missingPath
  | database
  | user
  | password
  | protocol (given : String)
  deriving DecidableEq, Repr

namespace AddressFault

/-- The wording of a fault. -/
def message : AddressFault -> String
  | notAnAddress => "Redis URL did not parse- InvalidClientConfig"
  | missingHost => "Missing hostname- InvalidClientConfig"
  | encrypted => "can't connect with TLS, the feature is not enabled- InvalidClientConfig"
  | missingPath => "Missing path- InvalidClientConfig"
  | database => "Invalid database number- InvalidClientConfig"
  | user => "Username is not valid UTF-8 string- InvalidClientConfig"
  | password => "Password is not valid UTF-8 string- InvalidClientConfig"
  | protocol given => "Invalid protocol version - InvalidClientConfig: " ++ given

/-- A fault of an address as callers see it. -/
def toFailure (fault : AddressFault) (url : String) : Failure :=
  .config ("bad bus url '" ++ url ++ "': " ++ fault.message)

end AddressFault

namespace Address

/-- The network port of a broker that is not given one. -/
def usualPort : Nat := 6379

/-- The bytes that characters of an address stand for. -/
def decoded (characters : List Char) : List UInt8 :=
  Text.Percent.decode (Text.Utf8.encode (String.ofList characters))

/-- The names and values in a query. -/
def pairs (query : List Char) : List (List UInt8 × List UInt8) :=
  ((Text.splitOn 0x26 (Text.Utf8.encode (String.ofList query))).filter fun part =>
      !part.isEmpty).map fun part =>
    let (name, rest) := part.span (· != 0x3D)
    (Text.Percent.decodeForm name, Text.Percent.decodeForm (rest.drop 1))

/-- The value of a name in a query, the last where there are several. -/
def value? (url : Url) (name : String) : Option (List UInt8) :=
  ((pairs (url.query?.getD [])).reverse.lookup (Text.Utf8.encode name))

/-- The number of a database. -/
def readDatabase (characters : List Char) : Except AddressFault Int :=
  match Text.readInt64 characters with
  | .ok number => .ok number
  | .error _ => .error .database

/-- Check that the version of the protocol, if one is asked for, is known. -/
def checkProtocol (url : Url) : Except AddressFault Unit :=
  match value? url "protocol" with
  | none => .ok ()
  | some bytes =>
    let given := String.ofList (Text.Utf8.decodeReplacing bytes)
    if ["2", "resp2", "3", "resp3"].contains given then .ok () else .error (.protocol given)

/-- Characters without the slashes at either end. -/
def trimSlashes (characters : List Char) : List Char :=
  ((characters.dropWhile (· = '/')).reverse.dropWhile (· = '/')).reverse

/-- A broker on a host. The path is the number of the database. -/
def network? (url : Url) : Except AddressFault Address := do
  match url.host? with
  | none => throw .missingHost
  | some host =>
    if url.scheme = "rediss" then throw .encrypted
    let database <-
      match trimSlashes url.path.text with
      | [] => pure 0
      | digits => readDatabase digits
    if (Text.Utf8.decode? (decoded url.user)).isNone then throw .user
    if (Text.Utf8.decode? (decoded (url.password?.getD []))).isNone then throw .password
    checkProtocol url
    return .network host (url.port?.getD usualPort) database

/-- The path of a socket. A letter and a colon or bar at its end, as of a drive,
is followed by a slash. -/
def socketPath (segments : List (List Char)) : List UInt8 :=
  let path := segments.flatMap fun segment => 0x2F :: decoded segment
  match path.reverse with
  | mark :: letter :: _ :: _ =>
    if (mark = 0x3A || mark = 0x7C) && (Char.ofNat letter.toNat).isAlpha then path ++ [0x2F]
    else path
  | _ => path

/-- A broker at a socket. The path has to be absolute and on this machine; the
query has the number of the database. -/
def socket? (url : Url) : Except AddressFault Address := do
  let isLocal := url.host?.all (· = "localhost")
  match isLocal, url.path with
  | true, .segments segments =>
    let database <-
      match value? url "db" with
      | none => pure 0
      | some bytes =>
        match Text.Utf8.decode? bytes with
        | some text => readDatabase text.toList
        | none => throw .database
    checkProtocol url
    return .socket (socketPath segments) database
  | _, _ => throw .missingPath

/-- Read the address of a broker. -/
def read (given : String) : Except AddressFault Address :=
  match Url.read? given with
  | none => .error .notAnAddress
  | some url =>
    match url.scheme with
    | "redis" | "rediss" => network? url
    | "unix" | "redis+unix" => socket? url
    | _ => .error .notAnAddress

end Address

end StrategyHost.Broker
