import Sepigs.Inbound.HttpForms
import Sepigs.Inbound.HttpForward

/-!
# The head that is sent on, byte for byte (`buildForwardHttpRequest` of `inbound/http.ts`)

The head is read as latin1 text and written as such, so every byte of a line is kept.  Here a
head is its lines of bytes: which of them are sent on, and what is written besides.
-/

namespace Sepigs

/-- `"\r\n"` -/
def lineBreak : Bytes := [13, 10]

/-- The lines of a head, each with its line break, and the empty line at its end. -/
def headBytes (lines : List Bytes) : Bytes := lines.flatMap (· ++ lineBreak) ++ lineBreak

/-- None is empty, and none is more than one. -/
def AreLines (lines : List Bytes) : Prop := ∀ line ∈ lines, line ≠ [] ∧ ¬ lineBreak <:+: line

/-- The lower case of a letter of latin1. -/
def lowerByte (b : UInt8) : UInt8 :=
  if 65 ≤ b.toNat ∧ b.toNat ≤ 90 ∨ 192 ≤ b.toNat ∧ b.toNat ≤ 222 ∧ b.toNat ≠ 215 then b + 32 else b

/-- The name of a header line, in lower case. -/
def headerName (line : Bytes) : Option Bytes :=
  if 58 ∈ line then some ((line.takeWhile (· ≠ 58)).map lowerByte) else none

def IsNamed (name : String) (line : Bytes) : Prop := headerName line = some (latin1Bytes name)

instance (name : String) (line : Bytes) : Decidable (IsNamed name line) :=
  inferInstanceAs (Decidable (headerName line = some (latin1Bytes name)))

/-- The lines for the proxy. -/
def IsProxyLine (line : Bytes) : Prop := IsNamed "proxy-connection" line ∨ IsNamed "proxy-authorization" line

instance (line : Bytes) : Decidable (IsProxyLine line) :=
  inferInstanceAs (Decidable (IsNamed "proxy-connection" line ∨ IsNamed "proxy-authorization" line))

/-- The Host line that is added. -/
def hostLine (destination : Destination) : Bytes :=
  latin1Bytes s!"Host: {destination.host}:{destination.port}"

/-- The header lines for the origin server. -/
def sentHeaders (destination : Destination) (headers : List Bytes) : List Bytes :=
  (if ∃ line ∈ headers, IsNamed "host" line then [] else [hostLine destination]) ++
    headers.filter fun line => ¬ IsProxyLine line

/-- The target for the origin server. -/
inductive OriginForm (node : Node) (target : Bytes) : Bytes → Prop
  | received : isHttpUrl (latin1 target) = false → OriginForm node target target
  | url {url : Url} : isHttpUrl (latin1 target) = true → node.url (latin1 target) = some url →
      OriginForm node target (latin1Bytes (url.pathname ++ url.search))

/-- The lines of a request, and what is made of them. -/
structure Rewritten (node : Node) (destination : Destination) (requestLine : Bytes) (headers : List Bytes)
    (requestLine' : Bytes) (headers' : List Bytes) : Prop where
  request : ∃ method target version more path, requestLine.splitOn 32 = method :: target :: version :: more ∧
    OriginForm node target path ∧ requestLine' = method ++ 32 :: (path ++ 32 :: version)
  headers : headers' = sentHeaders destination headers
  stripped : ∀ line ∈ headers', ¬ IsProxyLine line

/-- What is received, as lines of bytes. -/
structure Received (buffer : Bytes) (headerEnd : Nat) (requestLine : Bytes) (headers : List Bytes) : Prop where
  ends : Buffer.indexOf headerTerminator buffer = some headerEnd
  lines : Buffer.split lineBreak (buffer.take headerEnd) = requestLine :: headers

/-- The received head is rewritten, and the bytes after it are kept. -/
def SentOn (node : Node) (buffer : Bytes) (forward : ForwardHttpRequest) : Prop :=
  ∃ headerEnd requestLine headers requestLine' headers',
    Received buffer headerEnd requestLine headers ∧
    Rewritten node forward.destination requestLine headers requestLine' headers' ∧
    AreLines (requestLine' :: headers') ∧
    forward.initialData = headBytes (requestLine' :: headers') ++ buffer.drop (headerEnd + 4)

/-- What the URL class writes of an http URL has no white space, no control characters and only ASCII. -/
def WritesAscii (node : Node) : Prop :=
  ∀ text url, isHttpUrl text = true → node.url text = some url →
    ∀ c ∈ (url.hostname ++ (url.pathname ++ url.search)).toList, 32 < c.toNat ∧ c.toNat < 127

/-- `toLowerCase` on latin1 text. -/
def LowersLatin1 (node : Node) : Prop :=
  ∀ bytes, node.toLowerCase (latin1 bytes) = latin1 (bytes.map lowerByte)

/-! ## Text and bytes -/

theorem latin1Char_injective : Function.Injective fun b : UInt8 => Char.ofNat b.toNat := by
  intro b b' h
  have hbyte := congrArg (fun c : Char => UInt8.ofNat c.toNat) h
  dsimp only at hbyte
  rwa [toNat_latin1, toNat_latin1] at hbyte

theorem latin1Bytes_map_latin1 (lines : List Bytes) : (lines.map latin1).map latin1Bytes = lines := by
  rw [List.map_map]
  conv => rhs; rw [← List.map_id lines]
  exact List.map_congr_left fun line _ => latin1Bytes_latin1 line

theorem latin1Bytes_intercalate (lines : List String) :
    latin1Bytes (String.intercalate "\r\n" lines) = List.intercalate lineBreak (lines.map latin1Bytes) := by
  induction lines with
  | nil => rfl
  | cons line lines ih =>
    cases lines with
    | nil => simp
    | cons next lines =>
      rw [String.intercalate_cons_cons, latin1Bytes_append, latin1Bytes_append, ih]
      exact List.intercalate_cons_cons.symm

/-! ## Names -/

theorem lowerByte_colon {b : UInt8} : lowerByte b = 58 ↔ b = 58 := by
  have h32 : (32 : UInt8).toNat = 32 := rfl
  have h58 : (58 : UInt8).toNat = 58 := rfl
  unfold lowerByte
  split
  · next hupper =>
    have hne : b ≠ 58 := by
      rintro rfl
      omega
    refine ⟨fun h => ?_, fun h => absurd h hne⟩
    have hnat := congrArg UInt8.toNat h
    rw [UInt8.toNat_add] at hnat
    omega
  · exact Iff.rfl

/-- A line starts with a name and a colon exactly where this is its name. -/
theorem prefix_iff_headerName {name line : Bytes} (hname : 58 ∉ name) :
    name ++ [58] <+: line.map lowerByte ↔ headerName line = some name := by
  unfold headerName
  constructor
  · rintro ⟨rest, hrest⟩
    rw [List.append_assoc] at hrest
    obtain ⟨written, after, rfl, hwritten, hafter⟩ := List.map_eq_append_iff.mp hrest.symm
    obtain ⟨colon, value, rfl, hcolon, -⟩ := List.map_eq_cons_iff.mp hafter
    obtain rfl := lowerByte_colon.mp hcolon
    have hclean : ∀ b ∈ written, (decide (b ≠ 58)) = true := by
      intro b hb
      rw [decide_eq_true_eq]
      rintro rfl
      exact hname (hwritten ▸ List.mem_map.mpr ⟨58, hb, lowerByte_colon.mpr rfl⟩)
    rw [if_pos (List.mem_append_right _ (List.mem_cons_self ..)), List.takeWhile_append_of_pos hclean,
      List.takeWhile_cons_of_neg (by simp), List.append_nil, hwritten]
  · intro h
    split at h
    · next hmem =>
      obtain ⟨written, value, rfl, hwritten⟩ := List.eq_append_cons_of_mem hmem
      have hclean : ∀ b ∈ written, (decide (b ≠ 58)) = true := by
        intro b hb
        rw [decide_eq_true_eq]
        rintro rfl
        exact hwritten hb
      rw [List.takeWhile_append_of_pos hclean, List.takeWhile_cons_of_neg (by simp), List.append_nil] at h
      cases h
      refine ⟨value.map lowerByte, ?_⟩
      rw [List.map_append, List.map_cons, lowerByte_colon.mpr rfl, List.append_assoc]
      rfl
    · cases h

theorem startsWith_latin1 {name line : Bytes} (hname : 58 ∉ name) :
    JsString.startsWith (latin1 (line.map lowerByte)) (latin1 (name ++ [58])) =
      decide (headerName line = some name) := by
  unfold JsString.startsWith latin1
  rw [String.toList_ofList, String.toList_ofList, Bool.eq_iff_iff, List.isPrefixOf_iff_prefix,
    List.prefix_map_iff_of_injective latin1Char_injective, prefix_iff_headerName hname, decide_eq_true_eq]

section Node

variable {node : Node} (hlower : LowersLatin1 node)

include hlower

theorem isProxyHeader_latin1 (line : Bytes) : isProxyHeader node (latin1 line) = decide (IsProxyLine line) := by
  have hconnection : "proxy-connection:" = latin1 (latin1Bytes "proxy-connection" ++ [58]) := by decide
  have hauthorization : "proxy-authorization:" = latin1 (latin1Bytes "proxy-authorization" ++ [58]) := by
    decide
  unfold isProxyHeader
  dsimp only
  rw [hlower, hconnection, hauthorization, startsWith_latin1 (by decide), startsWith_latin1 (by decide),
    ← Bool.decide_or]
  rfl

theorem hasName_host (line : Bytes) : hasName node "host" (latin1 line) = decide (IsNamed "host" line) := by
  have hlatin : "host" = latin1 (latin1Bytes "host") := by decide
  have hname : node.toLowerCase "host" ++ ":" = latin1 (latin1Bytes "host" ++ [58]) := by
    conv => lhs; rw [hlatin, hlower]
    decide
  unfold hasName
  rw [hlower, hname, startsWith_latin1 (by decide)]
  rfl

theorem findHeader_host_isNone (headers : List Bytes) :
    (findHeader node (headers.map latin1) "host").isNone = true ↔ ¬ ∃ line ∈ headers, IsNamed "host" line := by
  unfold findHeader
  rw [Option.isNone_iff_eq_none, List.find?_eq_none]
  constructor
  · rintro h ⟨line, hline, hnamed⟩
    refine h (latin1 line) (List.mem_map_of_mem hline) ?_
    rw [hasName_host hlower]
    exact decide_eq_true hnamed
  · intro h header hheader hnamed
    obtain ⟨line, hline, rfl⟩ := List.mem_map.mp hheader
    rw [hasName_host hlower] at hnamed
    exact h ⟨line, hline, of_decide_eq_true hnamed⟩

/-- The lines that are not for the proxy are kept. -/
theorem filter_latin1 (headers : List Bytes) :
    ((headers.map latin1).filter fun header => !isProxyHeader node header).map latin1Bytes =
      headers.filter fun line => ¬ IsProxyLine line := by
  rw [List.filter_map, latin1Bytes_map_latin1]
  refine List.filter_congr fun line _ => ?_
  rw [Function.comp_apply, isProxyHeader_latin1 hlower, decide_not]

end Node

/-! ## The head that is received -/

theorem lines_latin1 (bytes : Bytes) :
    (Buffer.split ['\r', '\n'] (latin1 bytes).toList).map String.ofList =
      (Buffer.split lineBreak bytes).map latin1 := by
  have hbreak : ['\r', '\n'] = lineBreak.map fun b : UInt8 => Char.ofNat b.toNat := by decide
  unfold latin1
  rw [String.toList_ofList, hbreak, Buffer.split_map latin1Char_injective, List.map_map]
  rfl

theorem split_latin1 (line : Bytes) : JsString.split (latin1 line) ' ' = (line.splitOn 32).map latin1 := by
  have hspace : ' ' = (fun b : UInt8 => Char.ofNat b.toNat) 32 := by decide
  unfold JsString.split latin1
  rw [String.toList_ofList, hspace, Buffer.splitOn_map latin1Char_injective, List.map_map]
  rfl

theorem parseHttpRequest_ok {buffer : Bytes} {parsed : ParsedHttpRequest}
    (h : parseHttpRequest buffer = .ok parsed) :
    ∃ headerEnd requestLine headers, Received buffer headerEnd requestLine headers ∧
      ∃ method target version more, requestLine.splitOn 32 = method :: target :: version :: more ∧
        parsed = ⟨latin1 method, latin1 target, latin1 version, headers.map latin1,
          buffer.drop (headerEnd + 4)⟩ := by
  unfold parseHttpRequest at h
  cases hindex : Buffer.indexOf headerTerminator buffer with
  | none =>
    rw [hindex] at h
    cases h
  | some headerEnd =>
    rw [hindex] at h
    dsimp only at h
    rw [lines_latin1] at h
    cases hlines : Buffer.split lineBreak (buffer.take headerEnd) with
    | nil => exact absurd hlines (Buffer.splitLoop_ne_nil _ _ _)
    | cons requestLine headers =>
      refine ⟨headerEnd, requestLine, headers, ⟨hindex, hlines⟩, ?_⟩
      rw [hlines, List.map_cons] at h
      dsimp only at h
      rw [split_latin1] at h
      cases hparts : requestLine.splitOn 32 with
      | nil => exact absurd hparts (List.splitOn_ne_nil _ _)
      | cons method parts =>
        rw [hparts] at h
        rcases parts with - | ⟨target, - | ⟨version, more⟩⟩
        · cases h
        · cases h
        · rw [List.map_cons, List.map_cons, List.map_cons] at h
          dsimp only at h
          split at h
          · cases h
            exact ⟨method, target, version, more, rfl, rfl⟩
          · cases h

/-- An empty line would end the head before its end. -/
theorem Received.areLines {buffer : Bytes} {headerEnd : Nat} {requestLine : Bytes} {headers : List Bytes}
    (h : Received buffer headerEnd requestLine headers) : AreLines headers := by
  intro line hline
  refine ⟨?_, Buffer.not_infix_of_mem_split (by decide) (h.lines ▸ List.mem_cons_of_mem _ hline)⟩
  rintro rfl
  obtain ⟨before, after, rfl⟩ := List.append_of_mem hline
  have htext : List.intercalate lineBreak (requestLine :: (before ++ [] :: after)) = buffer.take headerEnd := by
    rw [← h.lines]
    exact Buffer.intercalate_split _ _
  have htake : buffer.take (headerEnd + 2) = buffer.take headerEnd ++ lineBreak := by
    have hle := Buffer.indexOf_le h.ends
    have hterminator : headerTerminator.length = 4 := rfl
    have hsplit := Buffer.indexOf_spec h.ends
    have hlength : (buffer.take headerEnd).length = headerEnd := by
      rw [List.length_take]
      omega
    conv => lhs; rw [hsplit]
    rw [List.append_assoc, List.take_append, hlength, List.take_of_length_le (by omega), Nat.add_sub_cancel_left]
    rfl
  have hbefore := @Buffer.intercalate_append _ lineBreak (requestLine :: before) (List.cons_ne_nil _ _)
  have hfound : headerTerminator <:+: buffer.take (headerEnd + 2) := by
    rw [htake, ← htext, Buffer.intercalate_append (List.cons_ne_nil _ _), ← List.cons_append,
      List.flatMap_append, ← hbefore, List.flatMap_cons]
    exact ⟨List.intercalate lineBreak (requestLine :: before), after.flatMap (· ++ lineBreak), by
      simp [headerTerminator, lineBreak]⟩
  exact Buffer.not_infix_take h.ends (by simp [headerTerminator]) hfound

theorem Received.requestLine {buffer : Bytes} {headerEnd : Nat} {requestLine : Bytes} {headers : List Bytes}
    (h : Received buffer headerEnd requestLine headers) : ¬ lineBreak <:+: requestLine :=
  Buffer.not_infix_of_mem_split (by decide) (h.lines ▸ List.mem_cons_self ..)

/-! ## The head that is sent -/

theorem lineBreak_notMem {text : String} (h : ∀ c ∈ text.toList, 32 ≤ c.toNat ∧ c.toNat < 127) :
    ¬ lineBreak <:+: latin1Bytes text := by
  intro hfound
  have hmem : (13 : UInt8) ∈ latin1Bytes text := hfound.subset (by decide)
  obtain ⟨c, hc, hbyte⟩ := List.mem_map.mp hmem
  have hbounds := h c hc
  have hnat := congrArg UInt8.toNat hbyte
  rw [UInt8.toNat_ofNat'] at hnat
  have h13 : (13 : UInt8).toNat = 13 := rfl
  omega

theorem areLines_requestLine {method path version : Bytes} (hmethod : ¬ lineBreak <:+: method)
    (hpath : ¬ lineBreak <:+: path) (hversion : ¬ lineBreak <:+: version) :
    AreLines [method ++ 32 :: (path ++ 32 :: version)] := by
  intro line hline
  obtain rfl := List.mem_singleton.mp hline
  refine ⟨by simp, ?_⟩
  exact Buffer.pair_not_infix_append (by decide) (by decide) hmethod
    (Buffer.pair_not_infix_append (by decide) (by decide) hpath hversion)

/-- A part of the request line holds no line break either. -/
theorem not_lineBreak_of_part {requestLine part : Bytes} (h : ¬ lineBreak <:+: requestLine)
    (hpart : part ∈ requestLine.splitOn 32) : ¬ lineBreak <:+: part := by
  intro hfound
  have hinside : part <:+: List.intercalate [32] (requestLine.splitOn 32) := Buffer.infix_intercalate hpart
  rw [List.intercalate_splitOn] at hinside
  exact h (hfound.trans hinside)

/-- The two forms of a request that is forwarded. -/
theorem forwardTarget_ok {node : Node} {parsed : ParsedHttpRequest} {destination : Destination} {path : String}
    {hostHeaderNeeded : Bool} (h : forwardTarget node parsed = .ok (destination, path, hostHeaderNeeded)) :
    hostHeaderNeeded = (findHeader node parsed.headers "host").isNone ∧
      (isHttpUrl parsed.target = false ∧ path = parsed.target ∧ hostHeaderNeeded = false ∨
        isHttpUrl parsed.target = true ∧ ∃ url, node.url parsed.target = some url ∧
          destination.host = url.hostname ∧ path = url.pathname ++ url.search) := by
  unfold forwardTarget at h
  cases hhttp : isHttpUrl parsed.target with
  | true =>
    rw [hhttp, if_pos rfl] at h
    cases hurl : node.url parsed.target with
    | none =>
      rw [hurl] at h
      cases h
    | some url =>
      rw [hurl] at h
      dsimp only at h
      split at h
      · cases h
      · generalize (if url.port.toList.isEmpty then .ok 80
          else validatePort (node.number url.port) parsed.target : Except SepigsError Nat) = port at h
        cases port with
        | error error => cases h
        | ok port =>
          cases h
          exact ⟨rfl, .inr ⟨rfl, url, rfl, rfl, rfl⟩⟩
  | false =>
    rw [hhttp, if_neg Bool.false_ne_true] at h
    cases hheader : findHeader node parsed.headers "host" with
    | none =>
      rw [hheader] at h
      cases h
    | some hostHeader =>
      rw [hheader] at h
      dsimp only at h
      generalize parseAuthority node (JsString.trim (headerValue hostHeader)) 80 = authority at h
      cases authority with
      | error error => cases h
      | ok destination =>
        cases h
        exact ⟨rfl, .inl ⟨rfl, rfl, rfl⟩⟩

/-- The head as its lines, where there is a header. -/
theorem forwardHead_bytes {node : Node} {parsed : ParsedHttpRequest} {destination : Destination} {path : String}
    {hostHeaderNeeded : Bool} (hne : forwardHeaders node parsed destination hostHeaderNeeded ≠ []) :
    latin1Bytes (forwardHead node parsed destination path hostHeaderNeeded) =
      headBytes (latin1Bytes s!"{parsed.method} {path} {parsed.version}" ::
        (forwardHeaders node parsed destination hostHeaderNeeded).map latin1Bytes) := by
  have hend : latin1Bytes "\r\n\r\n" = lineBreak ++ lineBreak := by decide
  have hbreak : latin1Bytes "\r\n" = lineBreak := by decide
  have hne' : (forwardHeaders node parsed destination hostHeaderNeeded).map latin1Bytes ≠ [] := by simpa using hne
  unfold forwardHead headBytes
  rw [latin1Bytes_append, latin1Bytes_append, latin1Bytes_append, latin1Bytes_intercalate, hend, hbreak,
    List.flatMap_cons, ← Buffer.intercalate_append hne']
  simp only [List.append_assoc]

theorem requestLine_bytes (method version : Bytes) (path : String) :
    latin1Bytes s!"{latin1 method} {path} {latin1 version}" =
      method ++ 32 :: (latin1Bytes path ++ 32 :: version) := by
  have hspace : latin1Bytes " " = [32] := by decide
  show latin1Bytes (latin1 method ++ " " ++ path ++ " " ++ latin1 version) = _
  rw [latin1Bytes_append, latin1Bytes_append, latin1Bytes_append, latin1Bytes_append, latin1Bytes_latin1,
    latin1Bytes_latin1, hspace]
  simp

theorem not_isProxyLine_of_named {name : String} {line : Bytes} (h : IsNamed name line)
    (hconnection : latin1Bytes name ≠ latin1Bytes "proxy-connection")
    (hauthorization : latin1Bytes name ≠ latin1Bytes "proxy-authorization") : ¬ IsProxyLine line := by
  unfold IsNamed at h
  rintro (hproxy | hproxy)
  · exact hconnection (Option.some.inj (h.symm.trans hproxy))
  · exact hauthorization (Option.some.inj (h.symm.trans hproxy))

theorem hostLine_eq (destination : Destination) :
    hostLine destination = latin1Bytes "Host: " ++
      latin1Bytes (destination.host ++ ":" ++ toString destination.port) := by
  unfold hostLine
  have htext : s!"Host: {destination.host}:{destination.port}" =
      "Host: " ++ destination.host ++ ":" ++ toString destination.port := rfl
  rw [← latin1Bytes_append, htext, String.append_assoc, String.append_assoc, String.append_assoc]

theorem isNamed_hostLine (destination : Destination) : IsNamed "host" (hostLine destination) := by
  refine (prefix_iff_headerName (by decide)).mp ?_
  rw [hostLine_eq, List.map_append]
  refine List.IsPrefix.trans ?_ (List.prefix_append _ _)
  decide

theorem areLines_hostLine {destination : Destination}
    (h : ∀ c ∈ destination.host.toList, 32 < c.toNat ∧ c.toNat < 127) : AreLines [hostLine destination] := by
  intro line hline
  obtain rfl := List.mem_singleton.mp hline
  constructor
  · rw [hostLine_eq]
    exact List.append_ne_nil_of_left_ne_nil (by decide) _
  · refine lineBreak_notMem fun c hc => ?_
    have hparts : c ∈ ("Host: ".toList ++ destination.host.toList) ++ (":".toList ++
        (toString destination.port).toList) := by
      have htext : s!"Host: {destination.host}:{destination.port}" =
          "Host: " ++ destination.host ++ ":" ++ toString destination.port := rfl
      rw [htext, String.toList_append, String.toList_append, String.toList_append] at hc
      simpa [List.append_assoc] using hc
    simp only [List.mem_append] at hparts
    have hstart : ∀ c ∈ "Host: ".toList, 32 ≤ c.toNat ∧ c.toNat < 127 := JsString.forall_of_all (by decide)
    rcases hparts with (hname | hhost) | hcolon | hport
    · exact hstart c hname
    · have hbounds := h c hhost
      omega
    · obtain rfl := List.mem_singleton.mp hcolon
      decide
    · have hdigits : (toString destination.port).toList = Nat.toDigits 10 destination.port := Nat.toList_repr
      rw [hdigits] at hport
      have hdigit := Nat.isDigit_of_mem_toDigits (by decide) (by decide) hport
      have hbounds := @JsString.alphanum_bounds c (by simp [Char.isAlphanum, hdigit])
      omega

section Headers

variable {destination : Destination} {headers : List Bytes}

theorem sentHeaders_ne_nil : sentHeaders destination headers ≠ [] := by
  unfold sentHeaders
  split
  · next hhost =>
    obtain ⟨line, hline, hnamed⟩ := hhost
    have hkept : ¬ IsProxyLine line := not_isProxyLine_of_named hnamed (by decide) (by decide)
    exact List.ne_nil_of_mem (List.mem_filter.mpr ⟨hline, decide_eq_true hkept⟩)
  · exact List.cons_ne_nil _ _

theorem not_isProxyLine_of_sent : ∀ line ∈ sentHeaders destination headers, ¬ IsProxyLine line := by
  intro line hline
  rcases List.mem_append.mp hline with hadded | hkept
  · split at hadded
    · cases hadded
    · obtain rfl := List.mem_singleton.mp hadded
      exact not_isProxyLine_of_named (isNamed_hostLine destination) (by decide) (by decide)
  · exact of_decide_eq_true (List.mem_filter.mp hkept).2

theorem areLines_sentHeaders (hclean : AreLines headers) (hhost : (¬ ∃ line ∈ headers, IsNamed "host" line) →
    ∀ c ∈ destination.host.toList, 32 < c.toNat ∧ c.toNat < 127) : AreLines (sentHeaders destination headers) := by
  intro line hline
  rcases List.mem_append.mp hline with hadded | hkept
  · split at hadded
    · cases hadded
    · next hnone => exact areLines_hostLine (hhost hnone) line hadded
  · exact hclean line (List.mem_filter.mp hkept).1

theorem forwardHeaders_bytes {node : Node} (hlower : LowersLatin1 node) {parsed : ParsedHttpRequest}
    (hheaders : parsed.headers = headers.map latin1) :
    (forwardHeaders node parsed destination (findHeader node parsed.headers "host").isNone).map latin1Bytes =
      sentHeaders destination headers := by
  have hnone := findHeader_host_isNone hlower headers
  unfold forwardHeaders sentHeaders
  dsimp only
  rw [hheaders, List.map_append, filter_latin1 hlower]
  congr 1
  by_cases hhost : ∃ line ∈ headers, IsNamed "host" line
  · rw [if_pos hhost, if_neg (fun h => hnone.mp h hhost)]
    rfl
  · rw [if_neg hhost, if_pos (hnone.mpr hhost)]
    rfl

end Headers

section Main

variable {node : Node} {buffer : Bytes} {parsed : ParsedHttpRequest} {forward : ForwardHttpRequest}

/-- The path is what the origin server takes, on one line. -/
theorem originForm_of_forwardTarget (hascii : WritesAscii node) {target : Bytes} {path : String}
    {destination : Destination} {hostHeaderNeeded : Bool} (htarget : parsed.target = latin1 target)
    (hline : ¬ lineBreak <:+: target)
    (h : forwardTarget node parsed = .ok (destination, path, hostHeaderNeeded)) :
    OriginForm node target (latin1Bytes path) ∧ ¬ lineBreak <:+: latin1Bytes path ∧
      (hostHeaderNeeded = true → ∀ c ∈ destination.host.toList, 32 < c.toNat ∧ c.toNat < 127) := by
  rcases (forwardTarget_ok h).2 with ⟨hhttp, rfl, hneeded⟩ | ⟨hhttp, url, hurl, hhost, rfl⟩
  · rw [htarget] at hhttp ⊢
    rw [latin1Bytes_latin1]
    refine ⟨.received hhttp, hline, fun htrue => ?_⟩
    rw [hneeded] at htrue
    cases htrue
  · have hchars := hascii _ _ hhttp hurl
    rw [String.toList_append] at hchars
    rw [htarget] at hhttp hurl
    refine ⟨.url hhttp hurl, lineBreak_notMem fun c hc => ?_, fun _ c hc => ?_⟩
    · have hbounds := hchars c (List.mem_append_right _ hc)
      omega
    · rw [hhost] at hc
      exact hchars c (List.mem_append_left _ hc)

/-- **A request is sent on line by line.**  The request line has the received method and version
and the origin form of the target; the header lines for the proxy are left out and the others are
kept byte for byte, after a Host line if there was none; the head ends at its only empty line and
the body follows. -/
theorem forwarded_head (hlower : LowersLatin1 node) (hascii : WritesAscii node)
    (hparsed : parseHttpRequest buffer = .ok parsed) (hforward : buildForwardHttpRequest node parsed = .ok forward) :
    SentOn node buffer forward := by
  obtain ⟨headerEnd, requestLine, headers, hreceived, method, target, version, more, hparts, hfields⟩ :=
    parseHttpRequest_ok hparsed
  obtain ⟨path, hostHeaderNeeded, htarget⟩ := build_ok_iff.mp ⟨forward, hforward, rfl⟩
  have hpart : ∀ part ∈ [method, target, version], ¬ lineBreak <:+: part := fun part hpart =>
    not_lineBreak_of_part hreceived.requestLine
      (hparts ▸ List.mem_append_left more (show part ∈ [method, target, version] from hpart))
  obtain ⟨horigin, hpath, hhost⟩ :=
    originForm_of_forwardTarget hascii (by rw [hfields]) (hpart target (by simp)) htarget
  obtain rfl := (forwardTarget_ok htarget).1
  have hparsedHeaders : parsed.headers = headers.map latin1 := by rw [hfields]
  have hheaders := @forwardHeaders_bytes forward.destination headers _ hlower _ hparsedHeaders
  have hne : forwardHeaders node parsed forward.destination (findHeader node parsed.headers "host").isNone ≠
      [] := by
    intro hnil
    rw [hnil] at hheaders
    exact sentHeaders_ne_nil hheaders.symm
  have hdata : forward.initialData = latin1Bytes (forwardHead node parsed forward.destination path
      (findHeader node parsed.headers "host").isNone) ++ parsed.bodyRemainder := by
    unfold buildForwardHttpRequest at hforward
    rw [htarget] at hforward
    exact congrArg ForwardHttpRequest.initialData (Except.ok.inj hforward).symm
  refine ⟨headerEnd, requestLine, headers, method ++ 32 :: (latin1Bytes path ++ 32 :: version),
    sentHeaders forward.destination headers, hreceived,
    ⟨⟨method, target, version, more, latin1Bytes path, hparts, horigin, rfl⟩, rfl, not_isProxyLine_of_sent⟩,
    ?_, ?_⟩
  · intro line hline
    rcases List.mem_cons.mp hline with rfl | hheader
    · exact areLines_requestLine (hpart method (by simp)) hpath (hpart version (by simp)) _
        (List.mem_singleton.mpr rfl)
    · refine areLines_sentHeaders hreceived.areLines (fun hnone => hhost ?_) line hheader
      rw [hparsedHeaders]
      exact (findHeader_host_isNone hlower headers).mpr hnone
  · rw [hdata, forwardHead_bytes hne, hheaders, hfields, requestLine_bytes]

end Main

/-- The built-ins on latin1 text and one URL. -/
def rewriteNode : Node :=
  { asciiNode with
    toLowerCase := fun text => latin1 ((latin1Bytes text).map lowerByte)
    url := fun text => if text = "http://a.test/b" then some ⟨"http:", "a.test", "", "/b", ""⟩ else none }

/-- A request whose only header is for the proxy, and a body of one byte. -/
def rewriteBuffer : Bytes :=
  latin1Bytes "GET http://a.test/b HTTP/1.1\r\nProxy-Authorization: Basic eDp5\r\n\r\n" ++ [7]

theorem forwarded_head_absolute : SentOn rewriteNode rewriteBuffer
    ⟨makeDestination rewriteNode "a.test" 80, latin1Bytes "GET /b HTTP/1.1\r\nHost: a.test:80\r\n\r\n" ++ [7]⟩ := by
  have hascii : WritesAscii rewriteNode := by
    intro text url hhttp hurl
    have hcases : (if text = "http://a.test/b" then some (⟨"http:", "a.test", "", "/b", ""⟩ : Url) else none) =
        some url := hurl
    split at hcases
    · cases hcases
      exact JsString.forall_of_all (by decide)
    · cases hcases
  have hparsed : parseHttpRequest rewriteBuffer = .ok ⟨"GET", "http://a.test/b", "HTTP/1.1",
      ["Proxy-Authorization: Basic eDp5"], [7]⟩ := by rfl
  exact forwarded_head (fun bytes => by
    show latin1 ((latin1Bytes (latin1 bytes)).map lowerByte) = _
    rw [latin1Bytes_latin1]) hascii hparsed (by decide +kernel)

end Sepigs
