import Sepigs.Lib.Buffer
import Sepigs.Protocol.Address

/-!
# The HTTP proxy (`inbound/http.ts`)

What `handleConnection` does with one client, as the list of its effects in order.
`pipe` hands the client's socket to the relay, which passes on the bytes that are still
unread; the connection's accounting and the logger are other modules' concern.
-/

namespace Sepigs

structure HttpBasicAuthConfig where
  enabled : Bool
  username : String
  password : String
deriving DecidableEq, Repr

structure ParsedHttpRequest where
  method : String
  target : String
  version : String
  headers : List String
  bodyRemainder : Bytes
deriving DecidableEq, Repr

structure ForwardHttpRequest where
  destination : Destination
  initialData : Bytes
deriving DecidableEq, Repr

/-- `buffer.toString("latin1")` -/
def latin1 (bytes : Bytes) : String := String.ofList (bytes.map fun b => Char.ofNat b.toNat)

/-- `Buffer.from(text, "latin1")` -/
def latin1Bytes (text : String) : Bytes := text.toList.map fun c => UInt8.ofNat c.toNat

/-- `"\r\n\r\n"` -/
def headerTerminator : Bytes := [13, 10, 13, 10]

def parseHttpRequest (buffer : Bytes) : Except SepigsError ParsedHttpRequest :=
  match Buffer.indexOf headerTerminator buffer with
  | none => .error (ProtocolError "missing HTTP header terminator")
  | some headerEnd =>
    let headerText := latin1 (buffer.take headerEnd)
    let lines := (Buffer.split ['\r', '\n'] headerText.toList).map String.ofList
    match lines with
    | [] => .error (ProtocolError "missing HTTP request line")
    | requestLine :: headers =>
      match JsString.split requestLine ' ' with
      | method :: target :: version :: _ =>
        if JsString.startsWith version "HTTP/" then
          .ok { method := method, target := target, version := version, headers := headers
                bodyRemainder := buffer.drop (headerEnd + 4) }
        else .error (ProtocolError "invalid HTTP request line")
      | _ => .error (ProtocolError "invalid HTTP request line")

section Parse

variable (node : Node)

def validatePort (port : Option Int) (source : String) : Except SepigsError Nat :=
  match port with
  | some n =>
    if n < 1 ∨ 65535 < n then .error (ProtocolError s!"invalid port in \"{source}\"") else .ok n.toNat
  | none => .error (ProtocolError s!"invalid port in \"{source}\"")

def parseAuthority (authority : String) (defaultPort : Nat) : Except SepigsError Destination :=
  let trimmed := JsString.trim authority
  if trimmed.toList.isEmpty then .error (ProtocolError "empty authority")
  else if JsString.startsWith trimmed "[" then
    match JsString.indexOf trimmed ']' with
    | none => .error (ProtocolError s!"invalid authority \"{authority}\"")
    | some closing =>
      let host := JsString.slice trimmed 1 closing
      let rest := JsString.sliceFrom trimmed (closing + 1)
      let port :=
        if JsString.startsWith rest ":" then node.number (JsString.sliceFrom rest 1)
        else some (defaultPort : Int)
      (validatePort port authority).map fun port => makeDestination node host port
  else
    match JsString.lastIndexOf trimmed ':', JsString.indexOf trimmed ':' with
    | some lastColon, some firstColon =>
      if 0 < lastColon ∧ lastColon = firstColon then
        let host := JsString.slice trimmed 0 lastColon
        let port := node.number (JsString.sliceFrom trimmed (lastColon + 1))
        (validatePort port authority).map fun port => makeDestination node host port
      else .ok (makeDestination node trimmed defaultPort)
    | _, _ => .ok (makeDestination node trimmed defaultPort)

/-- A header of a name, in any case. -/
def hasName (name header : String) : Bool :=
  JsString.startsWith (node.toLowerCase header) (node.toLowerCase name ++ ":")

def findHeader (headers : List String) (name : String) : Option String :=
  headers.find? (hasName node name)

/-- `header.slice(header.indexOf(":") + 1)` -/
def headerValue (header : String) : String :=
  match JsString.indexOf header ':' with
  | some i => JsString.sliceFrom header (i + 1)
  | none => header

def isAuthorized (parsed : ParsedHttpRequest) (auth : Option HttpBasicAuthConfig) : Bool :=
  match auth with
  | none => true
  | some auth =>
    if auth.enabled then
      match findHeader node parsed.headers "proxy-authorization" with
      | none => false
      | some header =>
        let value := JsString.trim (headerValue header)
        if JsString.startsWith (node.toLowerCase value) "basic " then
          let encoded := JsString.trim (JsString.sliceFrom value 6)
          let decoded := node.utf8 (node.base64 encoded)
          safeEqual decoded s!"{auth.username}:{auth.password}"
        else false
    else true

/-- `/^https?:\/\//iu.test(target)` on latin1 text. -/
def isHttpUrl (target : String) : Bool :=
  let lower := target.toList.map Char.toLower
  "http://".toList.isPrefixOf lower || "https://".toList.isPrefixOf lower

/-- Not sent on. -/
def isProxyHeader (header : String) : Bool :=
  let lower := node.toLowerCase header
  JsString.startsWith lower "proxy-connection:" || JsString.startsWith lower "proxy-authorization:"

/-- The destination of a request, the path for it, and whether a Host header must be added. -/
def forwardTarget (parsed : ParsedHttpRequest) : Except SepigsError (Destination × String × Bool) :=
  if isHttpUrl parsed.target then
    match node.url parsed.target with
    | none => .error ⟨"", "Invalid URL"⟩
    | some url =>
      if url.protocol ≠ "http:" then
        .error (ProtocolError s!"unsupported HTTP proxy URL protocol \"{url.protocol}\"")
      else
        let port :=
          if url.port.toList.isEmpty then .ok 80 else validatePort (node.number url.port) parsed.target
        port.map fun port =>
          (makeDestination node url.hostname port, url.pathname ++ url.search,
            (findHeader node parsed.headers "host").isNone)
  else
    match findHeader node parsed.headers "host" with
    | none => .error (ProtocolError "origin-form HTTP request requires Host header")
    | some hostHeader =>
      let authority := JsString.trim (headerValue hostHeader)
      (parseAuthority node authority 80).map fun destination => (destination, parsed.target, false)

/-- The header lines that are sent on. -/
def forwardHeaders (parsed : ParsedHttpRequest) (destination : Destination) (hostHeaderNeeded : Bool) :
    List String :=
  let filteredHeaders := parsed.headers.filter fun header => !isProxyHeader node header
  let hostHeader := if hostHeaderNeeded then [s!"Host: {destination.host}:{destination.port}"] else []
  hostHeader ++ filteredHeaders

def forwardHead (parsed : ParsedHttpRequest) (destination : Destination) (path : String)
    (hostHeaderNeeded : Bool) : String :=
  s!"{parsed.method} {path} {parsed.version}" ++ "\r\n" ++
    String.intercalate "\r\n" (forwardHeaders node parsed destination hostHeaderNeeded) ++ "\r\n\r\n"

def buildForwardHttpRequest (parsed : ParsedHttpRequest) : Except SepigsError ForwardHttpRequest :=
  (forwardTarget node parsed).map fun (destination, path, hostHeaderNeeded) =>
    let head := forwardHead node parsed destination path hostHeaderNeeded
    { destination := destination
      initialData := latin1Bytes head ++ parsed.bodyRemainder }

end Parse

/-- What the handler does to the world. -/
inductive HttpEffect where
  | toClient (text : String)
  | setDestination (destination : Destination)
  | openTcp (destination : Destination)
  | attachRemoteSocket
  | markEstablished
  | toRemote (data : Bytes)
  | addUploadBytes (count : Nat)
  | pipe (client : ClientSocket)
  | close (failed : Bool) (reason : String)
deriving DecidableEq, Repr

/-- What the world answers: whether the connection is accepted, what the outbound gives,
and which writes to the client fail. -/
structure HttpWorld where
  accepted : Bool
  openTcp : Destination → Except SepigsError Unit
  write : String → Except SepigsError Unit

structure HttpInboundConfig where
  auth : Option HttpBasicAuthConfig
  maxHeaderBytes : Nat
deriving DecidableEq, Repr

section Handle

variable (node : Node) (world : HttpWorld)

def httpReason (status : Nat) : String :=
  if status = 403 then "Forbidden"
  else if status = 502 then "Bad Gateway"
  else if status = 503 then "Service Unavailable"
  else "Bad Request"

/-- `sendHttpError`; a write that fails is only logged. -/
def sendHttpError (status : Nat) (message : String) : HttpEffect :=
  let reason := httpReason status
  let body := s!"{reason}: {message}\n"
  .toClient (s!"HTTP/1.1 {status} {reason}\r\nConnection: close\r\nContent-Length: " ++
    s!"{(utf8Bytes body).length}\r\n\r\n{body}")

def sendHttpAuthRequired : HttpEffect :=
  let body := "Proxy authentication required\n"
  .toClient (String.intercalate "\r\n"
    ["HTTP/1.1 407 Proxy Authentication Required", "Connection: close",
      "Proxy-Authenticate: Basic realm=\"sepigs\"", s!"Content-Length: {(utf8Bytes body).length}", "", body])

/-- The status for an outbound that could not be opened. -/
def openStatus (error : SepigsError) : Nat :=
  if errorCode error = "OUTBOUND_BLOCKED" then 403 else 502

/-- The `catch` of `handleConnection`, for a client that is not destroyed. -/
def failed (error : SepigsError) : List HttpEffect :=
  [sendHttpError (if errorCode error = "OUTBOUND_BLOCKED" then 403 else 400) error.message,
    .close true "http inbound failure"]

def openFailed (error : SepigsError) : List HttpEffect :=
  [sendHttpError (openStatus error) error.message, .close true "http outbound connect failed"]

def handleConnect (parsed : ParsedHttpRequest) (extraData : Bytes) (client : ClientSocket) :
    List HttpEffect :=
  match parseAuthority node parsed.target 443 with
  | .error error => failed error
  | .ok destination =>
    [.setDestination destination, .openTcp destination] ++
      match world.openTcp destination with
      | .error error => openFailed error
      | .ok () =>
        let established := "HTTP/1.1 200 Connection Established\r\n\r\n"
        [.attachRemoteSocket, .toClient established] ++
          match world.write established with
          | .error error => failed error
          | .ok () =>
            [.markEstablished] ++
              (if 0 < extraData.length then [.toRemote extraData, .addUploadBytes extraData.length]
              else []) ++ [.pipe client]

def handleForwardRequest (parsed : ParsedHttpRequest) (client : ClientSocket) : List HttpEffect :=
  match buildForwardHttpRequest node parsed with
  | .error error => failed error
  | .ok forward =>
    [.setDestination forward.destination, .openTcp forward.destination] ++
      match world.openTcp forward.destination with
      | .error error => openFailed error
      | .ok () =>
        [.attachRemoteSocket, .toRemote forward.initialData,
          .addUploadBytes forward.initialData.length, .markEstablished, .pipe client]

/-- The part of `handleConnection` after the head was read. -/
def handleHead (config : HttpInboundConfig) (raw : Bytes) (reader : BufferedSocketReader) : List HttpEffect :=
  match parseHttpRequest raw with
  | .error error => failed error
  | .ok parsed =>
    if isAuthorized node parsed config.auth then
      if node.toUpperCase parsed.method = "CONNECT" then
        let (extraData, reader) := reader.releaseRemainder
        handleConnect node world parsed extraData reader.socket
      else handleForwardRequest node world parsed reader.socket
    else [sendHttpAuthRequired, .close true "http authentication failed"]

def handleConnection (config : HttpInboundConfig) (client : ClientSocket) : List HttpEffect :=
  if world.accepted then
    let reader := BufferedSocketReader.create client config.maxHeaderBytes
    match reader.readUntil fun buffer => (Buffer.indexOf headerTerminator buffer).isSome with
    | .error error => failed error
    | .ok (raw, reader) => handleHead node world config raw reader
  else [sendHttpError 503 "connection limit reached"]

end Handle

/-- The bytes that are written to the remote, while both sides stay open. -/
def bytesToRemote (effects : List HttpEffect) : Bytes :=
  effects.flatMap fun effect =>
    match effect with
    | .toRemote data => data
    | .pipe client => client.unread
    | _ => []

end Sepigs
