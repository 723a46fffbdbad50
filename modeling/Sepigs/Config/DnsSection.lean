import Sepigs.Config.Accepted
import Sepigs.Dns.Generation

/-!
# The DNS section of the config (`config/schema.ts`)

What `parseConfig` reads of `dns`, and what it checks of it: the tags of the servers are
distinct, and every rule names one of them.
-/

namespace Sepigs

open Checked (push)

structure FakeIpSection where
  enabled : Bool
  range : String
  size : Nat
  ttlSeconds : Nat
  persistPath : Option String
deriving DecidableEq, Repr

/-- `DnsConfig` -/
structure ParsedDns extends DnsResolverConfig where
  fakeIp : FakeIpSection

def DEFAULT_FAKE_IP : FakeIpSection :=
  { enabled := false, range := "198.18.0.0/15", size := 65536, ttlSeconds := 600, persistPath := none }

def DEFAULT_DNS : ParsedDns where
  strategy := .system
  cacheTtlMs := 60000
  cacheMaxEntries := some 4096
  negativeTtlMs := some 5000
  hosts := ∅
  udpServers := []
  rules := []
  fallbackHosts := ∅
  doh := { enabled := false, endpoints := [], timeoutMs := 1000 }
  fakeIp := DEFAULT_FAKE_IP

/-- `DNS_STRATEGIES` -/
def dnsStrategy : Json → Option DnsStrategy
  | .string "system" => some .system
  | .string "prefer-ipv4" => some .preferIpv4
  | .string "prefer-ipv6" => some .preferIpv6
  | _ => none

section Reading

variable (node : Node)

/-- The loop of `readStringRecord`; writing to `__proto__` leaves no field. -/
def readStringEntries (path : String) : Record → KeyMap String String → Checked (KeyMap String String)
  | [], output => pure output
  | (entryKey, value) :: entries, output =>
    match nonBlank value with
    | none => do
      push s!"{path}.{entryKey} must be a non-empty string"
      readStringEntries path entries output
    | some text =>
      let key := node.toLowerCase entryKey
      readStringEntries path entries
        (if key = "__proto__" then output else output.set key (JsString.trim text))

def readStringRecord (record : Record) (key path : String) : Checked (Option (KeyMap String String)) :=
  match record.lookup key with
  | none => pure none
  | some (.object entries) => do
    let output ← readStringEntries node s!"{path}.{key}" entries ∅
    pure (some output)
  | some _ => reject s!"{path}.{key} must be an object of string values"

def parseDnsUdpServer (value : Json) (path : String) : Checked (Option DnsUdpServerConfig) :=
  match value with
  | .object record => do
    let tag ← readString record "tag" path
    let address ← readString record "address" path
    let port ← readOptionalNumber record "port" path 1 65535
    let timeoutMs ← readOptionalNumber record "timeoutMs" path 1 30000
    match tag, address with
    | some tag, some address => pure (some ⟨tag, address, port.getD 53, timeoutMs.getD 1000⟩)
    | _, _ => pure none
  | _ => reject s!"{path} must be an object"

/-- A rule without suffixes is left out, and not complained about. -/
def parseDnsRule (value : Json) (path : String) : Checked (Option DnsRouteRuleConfig) :=
  match value with
  | .object record => do
    let domainSuffix ← readStringArray record "domainSuffix" path
    let serverTag ← readString record "serverTag" path
    match domainSuffix, serverTag with
    | some domainSuffix, some serverTag => pure (some ⟨domainSuffix, serverTag⟩)
    | _, _ => pure none
  | _ => reject s!"{path} must be an object"

/-- `cidr` is read only when there is no `range`. -/
def parseFakeIp (rawDns : Record) : Checked FakeIpSection :=
  match rawDns.lookup "fakeIp" with
  | none => pure DEFAULT_FAKE_IP
  | some (.object rawFakeIp) => do
    let enabled ← readOptionalBoolean rawFakeIp "enabled" "dns.fakeIp"
    let range ← readOptionalString rawFakeIp "range" "dns.fakeIp"
    let range ← match range with
      | some range => pure (some range)
      | none => readOptionalString rawFakeIp "cidr" "dns.fakeIp"
    let size ← readOptionalNumber rawFakeIp "size" "dns.fakeIp" 1 131070
    let ttlSeconds ← readOptionalNumber rawFakeIp "ttlSeconds" "dns.fakeIp" 1 86400
    let persistPath ← readOptionalString rawFakeIp "persistPath" "dns.fakeIp"
    pure {
      enabled := enabled.getD DEFAULT_FAKE_IP.enabled
      range := range.getD DEFAULT_FAKE_IP.range
      size := size.getD DEFAULT_FAKE_IP.size
      ttlSeconds := ttlSeconds.getD DEFAULT_FAKE_IP.ttlSeconds
      persistPath := persistPath }
  | some _ => do
    push "dns.fakeIp must be an object when provided"
    pure DEFAULT_FAKE_IP

def parseDoh (rawDns : Record) : Checked DohConfig :=
  match rawDns.lookup "doh" with
  | none => pure DEFAULT_DNS.doh
  | some (.object rawDoh) => do
    let enabled ← readOptionalBoolean rawDoh "enabled" "dns.doh"
    let endpoints ← readStringArray rawDoh "endpoints" "dns.doh"
    let timeoutMs ← readOptionalNumber rawDoh "timeoutMs" "dns.doh" 1 30000
    pure {
      enabled := enabled.getD DEFAULT_DNS.doh.enabled
      endpoints := endpoints.getD DEFAULT_DNS.doh.endpoints
      timeoutMs := timeoutMs.getD DEFAULT_DNS.doh.timeoutMs }
  | some _ => do
    push "dns.doh must be an object when provided"
    pure DEFAULT_DNS.doh

/-- `udpServers` and `rules` -/
def parseDnsArray {α : Type} (parse : Json → String → Checked (Option α)) (rawDns : Record)
    (key : String) : Checked (List α) :=
  match rawDns.lookup key with
  | none => pure []
  | some (.array items) => parseAll parse s!"dns.{key}" items
  | some _ => do
    push s!"dns.{key} must be an array when provided"
    pure []

def parseDns (root : Record) : Checked ParsedDns :=
  match root.lookup "dns" with
  | none => pure DEFAULT_DNS
  | some (.object rawDns) => do
    let rawStrategy := rawDns.lookup "strategy"
    Checked.pushIf (rawStrategy.isSome && (rawStrategy.bind dnsStrategy).isNone)
      "dns.strategy must be one of system, prefer-ipv4, prefer-ipv6"
    let udpServers ← parseDnsArray parseDnsUdpServer rawDns "udpServers"
    let rules ← parseDnsArray parseDnsRule rawDns "rules"
    let cacheTtlMs ← readOptionalNumber rawDns "cacheTtlMs" "dns" 1 3600000
    let cacheMaxEntries ← readOptionalNumber rawDns "cacheMaxEntries" "dns" 1 1000000
    let negativeTtlMs ← readOptionalNumber rawDns "negativeTtlMs" "dns" 0 300000
    let hosts ← readStringRecord node rawDns "hosts" "dns"
    let fallbackHosts ← readStringRecord node rawDns "fallbackHosts" "dns"
    let fakeIp ← parseFakeIp rawDns
    let doh ← parseDoh rawDns
    pure {
      strategy := (rawStrategy.bind dnsStrategy).getD .system
      cacheTtlMs := cacheTtlMs.getD DEFAULT_DNS.cacheTtlMs
      cacheMaxEntries := cacheMaxEntries <|> DEFAULT_DNS.cacheMaxEntries
      negativeTtlMs := negativeTtlMs <|> DEFAULT_DNS.negativeTtlMs
      hosts := hosts.getD DEFAULT_DNS.hosts
      udpServers := udpServers
      rules := rules
      fallbackHosts := fallbackHosts.getD DEFAULT_DNS.fallbackHosts
      doh := doh
      fakeIp := fakeIp }
  | some _ => do
    push "dns must be an object"
    pure DEFAULT_DNS

def checkDnsReferences (dns : ParsedDns) : Checked PUnit :=
  forEach
    (fun index (rule : DnsRouteRuleConfig) =>
      checkTarget (dns.udpServers.map DnsUdpServerConfig.tag)
        (fun tag => s!"dns.rules[{index}].serverTag references unknown DNS server \"{tag}\"")
        rule.serverTag)
    dns.rules

/-- What `parseConfig` does with the section, from reading it to the checks across sections. -/
def readDns (root : Record) : Checked ParsedDns := do
  let dns ← parseDns node root
  checkUniqueTags (dns.udpServers.map DnsUdpServerConfig.tag) "dns.udpServers"
  checkDnsReferences dns
  pure dns

/-- An accepted section has a server for each of its rules. -/
theorem serverTag_of_accepted {root : Record} (h : (readDns node root).Clean) :
    ∀ rule ∈ (readDns node root).value.rules,
      rule.serverTag ∈ (readDns node root).value.udpServers.map DnsUdpServerConfig.tag := by
  unfold readDns at h
  simp only [Checked.clean_bind] at h
  intro rule hrule
  obtain ⟨i, hclean⟩ := forEach_clean h.2.2.1 rule hrule
  exact checkTarget_clean hclean

end Reading

end Sepigs
