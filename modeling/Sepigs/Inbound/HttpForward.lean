import Sepigs.Inbound.HttpTunnel

/-!
# Requests on one proxy connection

Only the first head is read, checked and rewritten; everything after it goes to the remote
of the first request as it came.
-/

namespace Sepigs

/-- A plain-HTTP request that the proxy can forward. -/
structure ForwardRequest (node : Node) where
  head : Bytes
  body : Bytes
  parsed : ParsedHttpRequest
  destination : Destination
  path : String
  hostHeaderNeeded : Bool
  isHead : IsHead head
  parsed_eq : parseHttpRequest head = .ok parsed
  notConnect : node.toUpperCase parsed.method ≠ "CONNECT"
  target_eq : forwardTarget node parsed = .ok (destination, path, hostHeaderNeeded)

/-- The lines of a head, and the body after it. -/
structure SentRequest where
  lines : List String
  body : Bytes

namespace SentRequest

def headers (sent : SentRequest) : List String := sent.lines.tail

def bytes (sent : SentRequest) : Bytes :=
  latin1Bytes (String.intercalate "\r\n" sent.lines ++ "\r\n\r\n") ++ sent.body

end SentRequest

/-- The lines of a head, the empty one at its end left out. -/
def headLines (head : Bytes) : List String :=
  (Buffer.split ['\r', '\n'] (latin1 (head.take (head.length - 4))).toList).map String.ofList

def isProxyAuthorization (node : Node) (header : String) : Bool :=
  JsString.startsWith (node.toLowerCase header) "proxy-authorization:"

/-- The remotes a connection has opened. -/
def openedRemotes (effects : List HttpEffect) : List Destination :=
  effects.filterMap fun effect =>
    match effect with
    | .openTcp destination => some destination
    | _ => none

namespace ForwardRequest

variable {node : Node}

def bytes (request : ForwardRequest node) : Bytes := request.head ++ request.body

def forwardHeaders (request : ForwardRequest node) : List String :=
  Sepigs.forwardHeaders node request.parsed request.destination request.hostHeaderNeeded

/-- The head that `buildForwardHttpRequest` writes. -/
def rewrittenHead (request : ForwardRequest node) : Bytes :=
  latin1Bytes (forwardHead node request.parsed request.destination request.path request.hostHeaderNeeded)

/-- As `buildForwardHttpRequest` writes it: without headers there is one line break too many. -/
def rewritten (request : ForwardRequest node) : SentRequest where
  lines := s!"{request.parsed.method} {request.path} {request.parsed.version}" :: request.forwardHeaders
  body := (if request.forwardHeaders = [] then [13, 10] else []) ++ request.body

/-- As it came. -/
def passedOn (request : ForwardRequest node) : SentRequest where
  lines := headLines request.head
  body := request.body

/-- What the proxy makes of the requests of one connection. -/
def relayed (first : ForwardRequest node) (later : List (ForwardRequest node)) :
    List (ForwardRequest node × SentRequest) :=
  (first, first.rewritten) :: later.map fun request => (request, request.passedOn)

/-- Every request goes to the remote of its own target, without proxy credentials. -/
def SafelySent (remotes : List Destination) (requests : List (ForwardRequest node × SentRequest)) : Prop :=
  ∀ pair ∈ requests, (∀ remote ∈ remotes, remote = pair.1.destination) ∧
    ∀ header ∈ pair.2.headers, isProxyAuthorization node header = false

end ForwardRequest

/-! ## Heads as lines -/

theorem latin1Bytes_append (s t : String) : latin1Bytes (s ++ t) = latin1Bytes s ++ latin1Bytes t := by
  simp [latin1Bytes]

theorem toNat_latin1 (b : UInt8) : UInt8.ofNat (Char.ofNat b.toNat).toNat = b := by
  have hlt := b.toNat_lt
  have hvalid : b.toNat.isValidChar := Or.inl (by omega)
  have hchar : (Char.ofNat b.toNat).toNat = b.toNat := by
    unfold Char.ofNat
    rw [dif_pos hvalid]
    rfl
  rw [hchar, UInt8.ofNat_toNat]

theorem latin1Bytes_latin1 (bytes : Bytes) : latin1Bytes (latin1 bytes) = bytes := by
  unfold latin1Bytes latin1
  rw [String.toList_ofList, List.map_map]
  conv => rhs; rw [← List.map_id bytes]
  exact List.map_congr_left fun b _ => toNat_latin1 b

/-- A head is its lines. -/
theorem headLines_bytes {head : Bytes} (hhead : IsHead head) :
    latin1Bytes (String.intercalate "\r\n" (headLines head) ++ "\r\n\r\n") = head := by
  have hsplit := Buffer.indexOf_spec hhead.ends
  have hlength := hhead.length
  have hterminator : headerTerminator.length = 4 := rfl
  rw [hterminator, show head.length - 4 + 4 = head.length by omega, List.drop_length,
    List.append_nil] at hsplit
  have hjoin : String.intercalate "\r\n" (headLines head) = latin1 (head.take (head.length - 4)) := by
    apply String.toList_inj.mp
    have hid : (String.toList ∘ String.ofList) = id := funext fun chars => String.toList_ofList
    rw [headLines, String.toList_intercalate, List.map_map, hid, List.map_id]
    exact Buffer.intercalate_splitLoop ['\r', '\n'] _ _
  rw [hjoin, latin1Bytes_append, latin1Bytes_latin1]
  exact hsplit.symm

/-- The headers are the lines after the first. -/
theorem headLines_tail {head : Bytes} {parsed : ParsedHttpRequest} (hhead : IsHead head)
    (h : parseHttpRequest head = .ok parsed) : (headLines head).tail = parsed.headers := by
  unfold parseHttpRequest at h
  rw [hhead.ends] at h
  simp only [] at h
  unfold headLines
  revert h
  cases (Buffer.split ['\r', '\n'] (latin1 (head.take (head.length - 4))).toList).map String.ofList with
  | nil =>
    intro h
    cases h
  | cons requestLine headers =>
    simp only [List.tail_cons]
    split
    · split
      · intro h
        cases h
        rfl
      · intro h
        cases h
    · intro h
      cases h

namespace ForwardRequest

variable {node : Node}

theorem passedOn_bytes (request : ForwardRequest node) : request.passedOn.bytes = request.bytes := by
  show latin1Bytes (String.intercalate "\r\n" (headLines request.head) ++ "\r\n\r\n") ++ request.body = _
  rw [headLines_bytes request.isHead]
  rfl

theorem passedOn_headers (request : ForwardRequest node) :
    request.passedOn.headers = request.parsed.headers :=
  headLines_tail request.isHead request.parsed_eq

/-- The head is its lines. -/
theorem rewritten_bytes (request : ForwardRequest node) :
    request.rewritten.bytes = request.rewrittenHead ++ request.body := by
  unfold SentRequest.bytes rewritten rewrittenHead forwardHead
  dsimp only
  rw [show Sepigs.forwardHeaders node request.parsed request.destination request.hostHeaderNeeded =
    request.forwardHeaders from rfl, ← List.append_assoc]
  congr 1
  cases request.forwardHeaders with
  | nil =>
    have hbreak : ([13, 10] : Bytes) = latin1Bytes "\r\n" := by decide
    have htwice : "\r\n\r\n" ++ "\r\n" = "\r\n" ++ "\r\n\r\n" := by decide
    rw [if_pos rfl, String.intercalate_singleton, String.intercalate_nil, String.append_empty, hbreak,
      ← latin1Bytes_append, String.append_assoc, htwice, ← String.append_assoc]
  | cons header headers =>
    rw [if_neg (List.cons_ne_nil _ _), List.append_nil, String.intercalate_cons_cons]

/-- What is added to the head it was parsed from does not change the target. -/
theorem buildForwardHttpRequest_eq (request : ForwardRequest node) (extra : Bytes) :
    buildForwardHttpRequest node { request.parsed with bodyRemainder := extra } =
      .ok ⟨request.destination, request.rewrittenHead ++ extra⟩ := by
  have htarget : forwardTarget node { request.parsed with bodyRemainder := extra } =
      .ok (request.destination, request.path, request.hostHeaderNeeded) := request.target_eq
  unfold buildForwardHttpRequest
  rw [htarget]
  rfl

/-- The rewritten head has no proxy credentials. -/
theorem rewritten_headers (request : ForwardRequest node)
    (hhost : ∀ text, JsString.startsWith (node.toLowerCase ("Host: " ++ text)) "host: " = true) :
    ∀ header ∈ request.rewritten.headers, isProxyAuthorization node header = false := by
  intro header hheader
  have hmem : header ∈ (if request.hostHeaderNeeded then
      [s!"Host: {request.destination.host}:{request.destination.port}"] else []) ++
      request.parsed.headers.filter fun header => !isProxyHeader node header := hheader
  rcases List.mem_append.mp hmem with hadded | hkept
  · cases hneeded : request.hostHeaderNeeded with
    | false =>
      rw [hneeded] at hadded
      cases hadded
    | true =>
      rw [hneeded] at hadded
      have heq : header = "Host: " ++ s!"{request.destination.host}:{request.destination.port}" := by
        rw [List.mem_singleton.mp hadded]
        simp [String.append_assoc, toString]
      have hstart := hhost s!"{request.destination.host}:{request.destination.port}"
      rw [← heq] at hstart
      -- a text cannot start with both names
      by_contra hcredentials
      have hname : isProxyAuthorization node header = true := by simpa using hcredentials
      have hshort := List.isPrefixOf_iff_prefix.mp hstart
      have hlong := List.isPrefixOf_iff_prefix.mp hname
      have hboth := List.prefix_of_prefix_length_le hshort hlong (by decide)
      exact absurd hboth (by decide)
  · have hnot := (List.mem_filter.mp hkept).2
    unfold isProxyHeader at hnot
    unfold isProxyAuthorization
    simp at hnot
    exact hnot.2

/-- What `handleForwardRequest` sends once the remote is attached. -/
theorem handleForwardRequest_spec (world : HttpWorld) (request : ForwardRequest node) (extra : Bytes)
    (client : ClientSocket) :
    (.markEstablished ∉ handleForwardRequest node world { request.parsed with bodyRemainder := extra } client →
      bytesToRemote (handleForwardRequest node world { request.parsed with bodyRemainder := extra } client) =
        []) ∧
    (.markEstablished ∈ handleForwardRequest node world { request.parsed with bodyRemainder := extra } client →
      openedRemotes (handleForwardRequest node world { request.parsed with bodyRemainder := extra } client) =
        [request.destination] ∧
      bytesToRemote (handleForwardRequest node world { request.parsed with bodyRemainder := extra } client) =
        request.rewrittenHead ++ (extra ++ client.unread)) := by
  unfold handleForwardRequest
  rw [request.buildForwardHttpRequest_eq extra]
  simp only []
  cases hopen : world.openTcp request.destination with
  | error error => simp [openFailed, sendHttpError, bytesToRemote]
  | ok remote => simp [bytesToRemote, openedRemotes]

end ForwardRequest

theorem bytesToRemote_failed (error : SepigsError) : bytesToRemote (failed error) = [] := by
  simp [failed, sendHttpError, bytesToRemote]

section Forward

variable {node : Node} (world : HttpWorld)

open ForwardRequest

/-- The requests go out one after the other. -/
theorem relayed_bytes (first : ForwardRequest node) (later : List (ForwardRequest node)) :
    (relayed first later).flatMap (fun pair => pair.2.bytes) =
      first.rewrittenHead ++ (first.body ++ later.flatMap ForwardRequest.bytes) := by
  have hlater : (later.map fun request => (request, request.passedOn)).flatMap (fun pair => pair.2.bytes) =
      later.flatMap ForwardRequest.bytes := by
    rw [List.flatMap_map]
    exact List.flatMap_congr fun request _ => request.passedOn_bytes
  unfold relayed
  rw [List.flatMap_cons, hlater, ← List.append_assoc, first.rewritten_bytes]

/-- Only the first request is looked at. -/
theorem safelySent_iff (first : ForwardRequest node) (later : List (ForwardRequest node))
    (hhost : ∀ text, JsString.startsWith (node.toLowerCase ("Host: " ++ text)) "host: " = true) :
    SafelySent [first.destination] (relayed first later) ↔
      ∀ request ∈ later, request.destination = first.destination ∧
        ∀ header ∈ request.parsed.headers, isProxyAuthorization node header = false := by
  unfold SafelySent relayed
  constructor
  · intro hsafe request hrequest
    have hpair : (request, request.passedOn) ∈ later.map fun request => (request, request.passedOn) :=
      List.mem_map.mpr ⟨request, hrequest, rfl⟩
    obtain ⟨hremote, hheaders⟩ := hsafe _ (List.mem_cons_of_mem _ hpair)
    rw [passedOn_headers] at hheaders
    exact ⟨(hremote _ (List.mem_singleton.mpr rfl)).symm, hheaders⟩
  · intro hlater pair hpair
    rcases List.mem_cons.mp hpair with rfl | hpair
    · exact ⟨fun remote hremote => List.mem_singleton.mp hremote, first.rewritten_headers hhost⟩
    · obtain ⟨request, hrequest, rfl⟩ := List.mem_map.mp hpair
      obtain ⟨hdestination, hheaders⟩ := hlater request hrequest
      rw [passedOn_headers]
      exact ⟨fun remote hremote => (List.mem_singleton.mp hremote).trans hdestination.symm, hheaders⟩

/-- A connection sends nothing, or all its requests to the remote of the first. -/
theorem handleConnection_relays (config : HttpInboundConfig) (client : ClientSocket)
    (first : ForwardRequest node) (later : List (ForwardRequest node))
    (hcontent : client.unread = (first :: later).flatMap ForwardRequest.bytes) :
    (.markEstablished ∉ handleConnection node world config client →
      bytesToRemote (handleConnection node world config client) = []) ∧
    (.markEstablished ∈ handleConnection node world config client →
      openedRemotes (handleConnection node world config client) = [first.destination] ∧
      bytesToRemote (handleConnection node world config client) =
        (relayed first later).flatMap fun pair => pair.2.bytes) := by
  have hsplit : client.unread = first.head ++ (first.body ++ later.flatMap ForwardRequest.bytes) := by
    rw [hcontent, List.flatMap_cons, ← List.append_assoc]
    rfl
  rw [relayed_bytes]
  unfold handleConnection
  cases haccepted : world.accepted with
  | false => simp [sendHttpError, bytesToRemote]
  | true =>
    simp only [if_true]
    cases hread : (BufferedSocketReader.create client config.maxHeaderBytes).readUntil
        fun buffer => (Buffer.indexOf headerTerminator buffer).isSome with
    | error error =>
      exact ⟨fun _ => bytesToRemote_failed error, fun h => absurd h (not_established_failed error)⟩
    | ok result =>
      obtain ⟨raw, reader⟩ := result
      obtain ⟨extra, hraw, hpayload, -⟩ := delivered_iff hread first.isHead hsplit
      simp only [handleHead, hraw, parseHttpRequest_append extra first.isHead first.parsed_eq]
      cases hauth : isAuthorized node { first.parsed with bodyRemainder := extra } config.auth with
      | false => simp [sendHttpAuthRequired, bytesToRemote]
      | true =>
        simp only [if_true, first.notConnect, if_false]
        rw [hpayload]
        exact first.handleForwardRequest_spec world extra reader.socket

/-- **Only the first request of a connection is routed and stripped.**  The requests of one
connection all go to the remote of the first; they are sent safely if, and only if, the
later ones have that destination too and no proxy credentials. -/
theorem forwarded_requests_iff (config : HttpInboundConfig) (client : ClientSocket)
    (first : ForwardRequest node) (later : List (ForwardRequest node))
    (hcontent : client.unread = (first :: later).flatMap ForwardRequest.bytes)
    (hhost : ∀ text, JsString.startsWith (node.toLowerCase ("Host: " ++ text)) "host: " = true) :
    (.markEstablished ∉ handleConnection node world config client →
      bytesToRemote (handleConnection node world config client) = []) ∧
    (.markEstablished ∈ handleConnection node world config client →
      bytesToRemote (handleConnection node world config client) =
        (relayed first later).flatMap (fun pair => pair.2.bytes) ∧
      (SafelySent (openedRemotes (handleConnection node world config client)) (relayed first later) ↔
        ∀ request ∈ later, request.destination = first.destination ∧
          ∀ header ∈ request.parsed.headers, isProxyAuthorization node header = false)) := by
  obtain ⟨hclosed, hopen⟩ := handleConnection_relays world config client first later hcontent
  refine ⟨hclosed, fun hestablished => ?_⟩
  obtain ⟨hremotes, hbytes⟩ := hopen hestablished
  rw [hremotes]
  exact ⟨hbytes, safelySent_iff first later hhost⟩

end Forward

/-- A GET without a body. -/
def plainRequest (head : String) (parsed : ParsedHttpRequest) (destination : Destination) (path : String)
    (isHead : IsHead (latin1Bytes head)) (parsed_eq : parseHttpRequest (latin1Bytes head) = .ok parsed)
    (notConnect : asciiNode.toUpperCase parsed.method ≠ "CONNECT")
    (target_eq : forwardTarget asciiNode parsed = .ok (destination, path, false)) : ForwardRequest asciiNode :=
  ⟨latin1Bytes head, [], parsed, destination, path, false, isHead, parsed_eq, notConnect, target_eq⟩

def requestToA : ForwardRequest asciiNode :=
  plainRequest "GET / HTTP/1.1\r\nHost: a.test\r\n\r\n" ⟨"GET", "/", "HTTP/1.1", ["Host: a.test"], []⟩
    (makeDestination asciiNode "a.test" 80) "/" ⟨by decide +kernel⟩ (by rfl) (by decide +kernel)
    (by decide +kernel)

def requestToB : ForwardRequest asciiNode :=
  plainRequest "GET / HTTP/1.1\r\nHost: b.test\r\nProxy-Authorization: Basic eDp5\r\n\r\n"
    ⟨"GET", "/", "HTTP/1.1", ["Host: b.test", "Proxy-Authorization: Basic eDp5"], []⟩
    (makeDestination asciiNode "b.test" 80) "/" ⟨by decide +kernel⟩ (by rfl) (by decide +kernel)
    (by decide +kernel)

theorem asciiNode_host (text : String) :
    JsString.startsWith (asciiNode.toLowerCase ("Host: " ++ text)) "host: " = true := by
  show "host: ".toList.isPrefixOf (("Host: " ++ text).map Char.toLower).toList = true
  rw [String.toList_map, String.toList_append, List.map_append]
  exact List.isPrefixOf_iff_prefix.mpr (List.prefix_append _ _)

/-- Two requests for one host, no credentials. -/
theorem forwarded_requests_iff_same :
    .markEstablished ∈ handleConnection asciiNode grantingWorld ⟨none, 8192⟩
        ⟨[requestToA.bytes], [[requestToA.bytes]], ProtocolError "ended"⟩ ∧
      ForwardRequest.SafelySent
        (openedRemotes (handleConnection asciiNode grantingWorld ⟨none, 8192⟩
          ⟨[requestToA.bytes], [[requestToA.bytes]], ProtocolError "ended"⟩))
        (ForwardRequest.relayed requestToA [requestToA]) := by
  have hestablished : .markEstablished ∈ handleConnection asciiNode grantingWorld ⟨none, 8192⟩
      ⟨[requestToA.bytes], [[requestToA.bytes]], ProtocolError "ended"⟩ := by
    decide +kernel
  have hiff := ((forwarded_requests_iff grantingWorld ⟨none, 8192⟩
    ⟨[requestToA.bytes], [[requestToA.bytes]], ProtocolError "ended"⟩ requestToA [requestToA]
    (by decide +kernel) asciiNode_host).2 hestablished).2
  refine ⟨hestablished, hiff.mpr fun request hrequest => ?_⟩
  have heq : request = requestToA := List.mem_singleton.mp hrequest
  rw [heq]
  exact ⟨rfl, by decide +kernel⟩

/-- A second request with another host and credentials: both reach the first one's host. -/
theorem forwarded_request_astray :
    ∃ (node : Node) (world : HttpWorld) (config : HttpInboundConfig) (client : ClientSocket)
      (first : ForwardRequest node) (later : List (ForwardRequest node)),
      client.unread = (first :: later).flatMap ForwardRequest.bytes ∧
        .markEstablished ∈ handleConnection node world config client ∧
        bytesToRemote (handleConnection node world config client) =
          (ForwardRequest.relayed first later).flatMap (fun pair => pair.2.bytes) ∧
        ¬ ForwardRequest.SafelySent (openedRemotes (handleConnection node world config client))
            (ForwardRequest.relayed first later) := by
  refine ⟨asciiNode, grantingWorld, ⟨none, 8192⟩, ⟨[requestToA.bytes, requestToB.bytes], [], ProtocolError "ended"⟩,
    requestToA, [requestToB], ?_, ?_, ?_, ?_⟩
  · decide +kernel
  · decide +kernel
  · decide +kernel
  · intro hsafe
    have hcredentials := (hsafe (requestToB, requestToB.passedOn) (by
      exact List.mem_cons_of_mem _ (List.mem_singleton.mpr rfl))).2
    have hheader := hcredentials "Proxy-Authorization: Basic eDp5" (by decide +kernel)
    exact absurd hheader (by decide +kernel)

end Sepigs
