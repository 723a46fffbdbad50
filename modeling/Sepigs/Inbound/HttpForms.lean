import Sepigs.Inbound.HttpAuthority

/-!
# The two forms of a request (`buildForwardHttpRequest` of `inbound/http.ts`)

A target may be a URL, read by the URL class, or a path with a Host header, read by
`parseAuthority`.  Both name the same destination unless the host is in brackets, which the
URL class keeps.
-/

namespace Sepigs

open IpText (IsIpv6)

def isNameChar (c : Char) : Bool := c.isLower || c.isDigit || c = '-' || c = '.'

/-- The host of an authority: a domain name or a dotted quad, or an IPv6 address in brackets. -/
inductive AuthorityHost : List Char → Prop
  | name {host : List Char} : host ≠ [] → (∀ c ∈ host, isNameChar c = true) → AuthorityHost host
  | ipv6 {host : List Char} : IsIpv6 (String.ofList host) → AuthorityHost ('[' :: (host ++ [']']))

/-- What may follow the host, with the port it gives. -/
inductive AuthorityPort : List Char → Option Nat → Prop
  | none : AuthorityPort [] none
  | some {digits : List Char} {port : Nat} : PortText digits port → AuthorityPort (':' :: digits) (some port)

/-- What the URL class gives of `http://` and an authority: brackets are kept and 80 is left out. -/
structure ReadsAuthority (url : Url) (host : List Char) (port : Option Nat) : Prop where
  protocol : url.protocol = "http:"
  hostname : url.hostname = String.ofList host
  noPort : port = none ∨ port = some 80 → url.port = ""
  port : ∀ n, port = some n → n ≠ 80 → PortText url.port.toList n

/-- A request whose target is a URL, and one with a Host header, for the same authority. -/
structure TwoForms (node : Node) (authority : List Char) (url : Url) (absolute origin : ParsedHttpRequest) :
    Prop where
  target : ∃ path, absolute.target = String.ofList ("http://".toList ++ (authority ++ '/' :: path))
  url_eq : node.url absolute.target = some url
  path : ∃ path, origin.target = String.ofList ('/' :: path)
  header : findHeader node origin.headers "host" = some (String.ofList ("Host: ".toList ++ authority))

/-- Both are forwarded, to one destination. -/
def SameDestination (node : Node) (absolute origin : ParsedHttpRequest) : Prop :=
  ∃ forward forward', buildForwardHttpRequest node absolute = .ok forward ∧
    buildForwardHttpRequest node origin = .ok forward' ∧ forward.destination = forward'.destination

/-! ## Hosts and ports -/

theorem isWhitespace_of_ascii {c : Char} (hlow : 33 ≤ c.toNat) (hhigh : c.toNat < 128) :
    JsString.isWhitespace c = false := by
  unfold JsString.isWhitespace
  simp
  omega

theorem bounds_of_nameChar {c : Char} (h : isNameChar c = true) :
    45 ≤ c.toNat ∧ c.toNat ≤ 122 ∧ c ≠ ':' := by
  unfold isNameChar at h
  simp only [Bool.or_eq_true, decide_eq_true_eq] at h
  rcases h with ((h | h) | rfl) | rfl
  · have halphanum : ((c.isUpper || c.isLower) || c.isDigit) = true := by simp [h]
    have hbounds := JsString.alphanum_bounds halphanum
    refine ⟨by omega, hbounds.2, ?_⟩
    rintro rfl
    cases h
  · have hbounds := @JsString.alphanum_bounds c (by simp [Char.isAlphanum, h])
    refine ⟨by omega, hbounds.2, ?_⟩
    rintro rfl
    cases h
  · decide
  · decide

theorem plain_of_nameChar {c : Char} (h : isNameChar c = true) : JsString.isWhitespace c = false := by
  have hbounds := bounds_of_nameChar h
  exact isWhitespace_of_ascii (by omega) (by omega)

section Ends

variable {host portText : List Char} {port : Option Nat}

theorem AuthorityHost.ne_nil (h : AuthorityHost host) : host ≠ [] := by
  cases h with
  | name hne => exact hne
  | ipv6 => exact List.cons_ne_nil _ _

theorem AuthorityHost.first_plain (h : AuthorityHost host) :
    ∀ c ∈ host.head?, JsString.isWhitespace c = false := by
  intro c hc
  cases h with
  | name _ hname => exact plain_of_nameChar (hname c (List.mem_of_mem_head? hc))
  | ipv6 =>
    cases hc
    decide

theorem AuthorityHost.last_plain (h : AuthorityHost host) :
    ∀ c ∈ host.getLast?, JsString.isWhitespace c = false := by
  intro c hc
  cases h with
  | name _ hname => exact plain_of_nameChar (hname c (List.mem_of_mem_getLast? hc))
  | @ipv6 six =>
    have hlast : ('[' :: (six ++ [']'])).getLast? = some ']' := @List.getLast?_concat _ ('[' :: six) ']'
    rw [hlast] at hc
    cases hc
    decide

theorem PortText.plain {digits : List Char} {port : Nat} (h : PortText digits port) :
    ∀ c ∈ digits, JsString.isWhitespace c = false := by
  intro c hc
  have hbounds := @JsString.alphanum_bounds c (by simp [Char.isAlphanum, h.decimal c hc])
  exact isWhitespace_of_ascii (by omega) (by omega)

/-- No white space is around an authority. -/
theorem trim_authority (hhost : AuthorityHost host) (hport : AuthorityPort portText port) :
    JsString.trim (String.ofList (host ++ portText)) = String.ofList (host ++ portText) := by
  refine JsString.trim_of_ends ?_ ?_
  · rw [List.head?_append_of_ne_nil _ hhost.ne_nil]
    exact hhost.first_plain
  · cases hport with
    | none =>
      rw [List.append_nil]
      exact hhost.last_plain
    | some hdigits =>
      intro c hc
      rw [List.getLast?_append_cons, List.getLast?_cons_of_ne_nil hdigits.nonempty] at hc
      exact hdigits.plain c (List.mem_of_mem_getLast? hc)

end Ends

/-! ## The target -/

theorem isHttpUrl_of_http (rest : List Char) :
    isHttpUrl (String.ofList ("http://".toList ++ rest)) = true := by
  unfold isHttpUrl
  rw [String.toList_ofList, List.map_append]
  have hhttp : "http://".toList.isPrefixOf ("http://".toList.map Char.toLower ++ rest.map Char.toLower) = true :=
    List.isPrefixOf_iff_prefix.mpr ⟨rest.map Char.toLower, rfl⟩
  dsimp only
  rw [hhttp]
  rfl

theorem not_isHttpUrl_of_path (path : List Char) : isHttpUrl (String.ofList ('/' :: path)) = false := by
  unfold isHttpUrl
  rw [String.toList_ofList]
  rfl

/-- The value of a Host header. -/
theorem trim_headerValue (authority : List Char)
    (htrim : JsString.trim (String.ofList authority) = String.ofList authority) :
    JsString.trim (headerValue (String.ofList ("Host: ".toList ++ authority))) = String.ofList authority := by
  have hlist : (String.ofList ("Host: ".toList ++ authority)).toList = "Host".toList ++ ':' :: ' ' :: authority :=
    String.toList_ofList
  have hvalue : headerValue (String.ofList ("Host: ".toList ++ authority)) = String.ofList (' ' :: authority) := by
    unfold headerValue
    rw [JsString.indexOf_append hlist (by decide)]
    exact JsString.sliceFrom_append hlist
  rw [hvalue, JsString.trim_cons (by decide), htrim]

section Requests

variable {node : Node} {host portText : List Char} {port : Option Nat} {url : Url}
  {absolute origin parsed : ParsedHttpRequest}

theorem build_ok_iff {destination : Destination} :
    (∃ forward, buildForwardHttpRequest node parsed = .ok forward ∧ forward.destination = destination) ↔
      ∃ path hostHeaderNeeded, forwardTarget node parsed = .ok (destination, path, hostHeaderNeeded) := by
  unfold buildForwardHttpRequest
  cases htarget : forwardTarget node parsed with
  | error error =>
    constructor
    · rintro ⟨forward, h, -⟩
      cases h
    · rintro ⟨path, hostHeaderNeeded, h⟩
      cases h
  | ok target =>
    obtain ⟨destination', path, hostHeaderNeeded⟩ := target
    constructor
    · rintro ⟨forward, h, rfl⟩
      cases h
      exact ⟨path, hostHeaderNeeded, rfl⟩
    · rintro ⟨path', hostHeaderNeeded', h⟩
      cases h
      exact ⟨_, rfl, rfl⟩

/-- What the URL gives. -/
theorem absolute_target (hnode : ∀ text, node.number text = JsNumber.number text)
    (hforms : TwoForms node (host ++ portText) url absolute origin) (hreads : ReadsAuthority url host port)
    (hport : AuthorityPort portText port) :
    ∃ path hostHeaderNeeded, forwardTarget node absolute =
      .ok (makeDestination node (String.ofList host) (port.getD 80), path, hostHeaderNeeded) := by
  obtain ⟨path, htarget⟩ := hforms.target
  have hhttp : isHttpUrl absolute.target = true := by
    rw [htarget]
    exact isHttpUrl_of_http _
  have hvalue : (if url.port.toList.isEmpty then .ok 80
      else validatePort (node.number url.port) absolute.target) = .ok (port.getD 80) := by
    by_cases h80 : port = none ∨ port = some 80
    · rw [hreads.noPort h80, if_pos (by decide : "".toList.isEmpty = true)]
      rcases h80 with rfl | rfl
      · rfl
      · rfl
    · cases port with
      | none => exact absurd (.inl rfl) h80
      | some n =>
        have hdigits := hreads.port n rfl fun heq => h80 (.inr (congrArg some heq))
        have hnumber := hdigits.number
        rw [String.ofList_toList] at hnumber
        rw [if_neg (by simpa using hdigits.nonempty), hnode, hnumber]
        exact (validatePort_ok_iff _ _ _).mpr ⟨hdigits.isPort, rfl⟩
  refine ⟨url.pathname ++ url.search, (findHeader node absolute.headers "host").isNone, ?_⟩
  unfold forwardTarget
  rw [if_pos hhttp, hforms.url_eq]
  dsimp only
  rw [if_neg (not_not_intro hreads.protocol), hvalue, hreads.hostname]
  rfl

/-- What the Host header gives. -/
theorem origin_target (hforms : TwoForms node (host ++ portText) url absolute origin)
    (hhost : AuthorityHost host) (hport : AuthorityPort portText port) :
    forwardTarget node origin =
      (parseAuthority node (String.ofList (host ++ portText)) 80).map fun destination =>
        (destination, origin.target, false) := by
  obtain ⟨path, hpath⟩ := hforms.path
  have hnot : ¬ isHttpUrl origin.target = true := by
    rw [hpath, not_isHttpUrl_of_path]
    exact Bool.false_ne_true
  unfold forwardTarget
  rw [if_neg hnot, hforms.header]
  dsimp only
  rw [trim_headerValue _ (trim_authority hhost hport)]

theorem sameDestination_of_targets {destination : Destination}
    (habsolute : ∃ path needed, forwardTarget node absolute = .ok (destination, path, needed))
    (horigin : ∃ path needed, forwardTarget node origin = .ok (destination, path, needed)) :
    SameDestination node absolute origin := by
  obtain ⟨forward, hforward, hdestination⟩ := build_ok_iff.mpr habsolute
  obtain ⟨forward', hforward', hdestination'⟩ := build_ok_iff.mpr horigin
  exact ⟨forward, forward', hforward, hforward', hdestination.trans hdestination'.symm⟩

theorem origin_target_of_reads (hforms : TwoForms node (host ++ portText) url absolute origin)
    (hhost : AuthorityHost host) (hport : AuthorityPort portText port) {read : List Char} {n : Nat}
    (hreads : ReadsAs node (String.ofList (host ++ portText)) 80 read n) :
    ∃ path needed, forwardTarget node origin =
      .ok (makeDestination node (String.ofList read) n, path, needed) := by
  unfold ReadsAs at hreads
  refine ⟨origin.target, false, ?_⟩
  rw [origin_target hforms hhost hport, hreads]
  rfl

theorem reads_name (hnode : ∀ text, node.number text = JsNumber.number text) (hne : host ≠ [])
    (hname : ∀ c ∈ host, isNameChar c = true) (hport : AuthorityPort portText port) :
    ReadsAs node (String.ofList (host ++ portText)) 80 host (port.getD 80) := by
  have htrim := trim_authority (.name hne hname) hport
  have hcolon : ':' ∉ host := fun hmem => (bounds_of_nameChar (hname _ hmem)).2.2 rfl
  have hopen : (host ++ portText).head? ≠ some '[' := by
    rw [List.head?_append_of_ne_nil _ hne]
    intro hhead
    cases hname _ (List.mem_of_mem_head? hhead)
  cases hport with
  | none =>
    rw [List.append_nil] at htrim hopen ⊢
    exact parse_plain htrim hne hopen hcolon
  | some hdigits =>
    unfold ReadsAs
    rw [parse_port htrim hnode hopen rfl hne hcolon hdigits.colon_notMem, map_validatePort_iff]
    exact ⟨_, hdigits.isPort, hdigits.number, rfl⟩

theorem reads_bracketed (hnode : ∀ text, node.number text = JsNumber.number text) {six : List Char}
    (hsix : IsIpv6 (String.ofList six)) (hport : AuthorityPort portText port) :
    ReadsAs node (String.ofList (('[' :: (six ++ [']'])) ++ portText)) 80 six (port.getD 80) := by
  have htrim := trim_authority (.ipv6 hsix) hport
  have hcs : ('[' :: (six ++ [']'])) ++ portText = '[' :: (six ++ ']' :: portText) := by simp
  unfold ReadsAs
  rw [parse_bracket htrim hnode hcs (notMem_of_isIpv6 hsix (.inr rfl)), map_validatePort_iff]
  cases hport with
  | none => exact ⟨80, by decide, rfl, rfl⟩
  | some hdigits => exact ⟨_, hdigits.isPort, hdigits.number, rfl⟩

theorem not_sameDestination_of_bracket (hnode : ∀ text, node.number text = JsNumber.number text)
    {six : List Char} (hsix : IsIpv6 (String.ofList six)) (hport : AuthorityPort portText port)
    (hforms : TwoForms node (('[' :: (six ++ [']'])) ++ portText) url absolute origin)
    (hreads : ReadsAuthority url ('[' :: (six ++ [']'])) port) : ¬ SameDestination node absolute origin := by
  rintro ⟨forward, forward', hforward, hforward', hsame⟩
  have habsolute := absolute_target hnode hforms hreads hport
  have horigin := origin_target_of_reads hforms (.ipv6 hsix) hport (reads_bracketed hnode hsix hport)
  obtain ⟨_, hbuild, hdestination⟩ := build_ok_iff.mpr habsolute
  obtain ⟨_, hbuild', hdestination'⟩ := build_ok_iff.mpr horigin
  cases hforward.symm.trans hbuild
  cases hforward'.symm.trans hbuild'
  -- one host has the brackets and the other has not
  have hhosts := (makeDestination_inj (hdestination.symm.trans (hsame.trans hdestination'))).1
  have hlength := congrArg List.length hhosts
  simp at hlength
  omega

/-- **Both forms of a request reach one destination exactly where the host is not in brackets.** -/
theorem same_destination_iff (hnode : ∀ text, node.number text = JsNumber.number text)
    (hhost : AuthorityHost host) (hport : AuthorityPort portText port)
    (hforms : TwoForms node (host ++ portText) url absolute origin) (hreads : ReadsAuthority url host port) :
    SameDestination node absolute origin ↔ host.head? ≠ some '[' := by
  cases hhost with
  | name hne hname =>
    constructor
    · intro _ hhead
      cases hname _ (List.mem_of_mem_head? hhead)
    · intro _
      exact sameDestination_of_targets (absolute_target hnode hforms hreads hport)
        (origin_target_of_reads hforms (.name hne hname) hport (reads_name hnode hne hname hport))
  | ipv6 hsix =>
    constructor
    · intro hsame
      exact absurd hsame (not_sameDestination_of_bracket hnode hsix hport hforms hreads)
    · intro hhead
      exact absurd rfl hhead

end Requests

/-- The built-ins on two URLs. -/
noncomputable def formsNode : Node :=
  { authorityNode with
    url := fun text =>
      if text = "http://example.org:8080/a" then some ⟨"http:", "example.org", "8080", "/a", ""⟩
      else if text = "http://[::1]/a" then some ⟨"http:", "[::1]", "", "/a", ""⟩
      else none }

/-- A GET request. -/
def getRequest (target : String) (headers : List String) : ParsedHttpRequest :=
  ⟨"GET", target, "HTTP/1.1", headers, []⟩

theorem same_destination_iff_name :
    SameDestination formsNode (getRequest "http://example.org:8080/a" [])
      (getRequest "/a" ["Host: example.org:8080"]) := by
  have hport : PortText "8080".toList 8080 :=
    ⟨by decide, List.all_eq_true.mp rfl, by decide +kernel, by decide⟩
  have hhost : AuthorityHost "example.org".toList := .name (by decide) (List.all_eq_true.mp rfl)
  have hforms : TwoForms formsNode ("example.org".toList ++ ':' :: "8080".toList)
      ⟨"http:", "example.org", "8080", "/a", ""⟩ (getRequest "http://example.org:8080/a" [])
      (getRequest "/a" ["Host: example.org:8080"]) :=
    ⟨⟨"a".toList, rfl⟩, rfl, ⟨"a".toList, rfl⟩, by decide +kernel⟩
  have hreads : ReadsAuthority ⟨"http:", "example.org", "8080", "/a", ""⟩ "example.org".toList (some 8080) := by
    refine ⟨rfl, rfl, ?_, ?_⟩
    · intro h
      simp at h
    · rintro n hn -
      cases hn
      exact hport
  exact (same_destination_iff (fun _ => rfl) hhost (.some hport) hforms hreads).mpr (by decide)

/-- The URL class keeps the brackets. -/
theorem bracketed_host_kept : ¬ SameDestination formsNode (getRequest "http://[::1]/a" [])
    (getRequest "/a" ["Host: [::1]"]) := by
  have hsix : IsIpv6 (String.ofList "::1".toList) :=
    ⟨.compressed [] [⟨['1'], 1, by decide, by decide, by decide⟩] none (by decide), [], .inl rfl, by
      decide +kernel⟩
  have hforms : TwoForms formsNode (('[' :: ("::1".toList ++ [']'])) ++ []) ⟨"http:", "[::1]", "", "/a", ""⟩
      (getRequest "http://[::1]/a" []) (getRequest "/a" ["Host: [::1]"]) :=
    ⟨⟨"a".toList, rfl⟩, rfl, ⟨"a".toList, rfl⟩, by decide +kernel⟩
  have hreads : ReadsAuthority ⟨"http:", "[::1]", "", "/a", ""⟩ ('[' :: ("::1".toList ++ [']'])) none :=
    ⟨rfl, rfl, fun _ => rfl, fun _ hport => by cases hport⟩
  exact not_sameDestination_of_bracket (fun _ => rfl) hsix .none hforms hreads

end Sepigs
