import Sepigs.Config.DnsSection
import Sepigs.Dns.Resolver

/-!
# The upstream rules beside the routing rules

`selectUdpServer` compares a host with the suffixes as they are written, the router with
the suffixes as `matchesDomainSuffix` normalises them.
-/

namespace Sepigs

/-- A suffix in the sense of `selectUdpServer`. -/
def endsWithSuffix (host suffix : String) : Bool :=
  decide (host = suffix) || JsString.endsWith host ("." ++ suffix)

/-- The server that a sense of matching leads to. -/
def serverBy (applies : DnsRouteRuleConfig → Bool) (servers : List DnsUdpServerConfig)
    (rules : List DnsRouteRuleConfig) : Option DnsUdpServerConfig :=
  match rules.find? applies with
  | some rule => servers.find? fun server => server.tag = rule.serverTag
  | none => servers.head?

/-- The comparison of `selectUdpServer`. -/
def comparedRule (host : String) (rule : DnsRouteRuleConfig) : Bool :=
  rule.domainSuffix.any (endsWithSuffix host)

theorem selectUdpServer_eq (config : DnsResolverConfig) (host : String) :
    selectUdpServer config host = serverBy (comparedRule host) config.udpServers config.rules := rfl

/-- The rules lead to the server of a tag. -/
def LeadsTo (applies : DnsRouteRuleConfig → Bool) (servers : List DnsUdpServerConfig)
    (rules : List DnsRouteRuleConfig) (tag : String) : Prop :=
  (∃ rule, rules.find? applies = some rule ∧ rule.serverTag = tag) ∨
    (∀ rule ∈ rules, applies rule = false) ∧ servers.head?.map DnsUdpServerConfig.tag = some tag

/-- The first rule that applies in one sense applies in the other, or the other goes on to
the same server. -/
def FirstRuleAgrees (applies applies' : DnsRouteRuleConfig → Bool) (servers : List DnsUdpServerConfig) :
    List DnsRouteRuleConfig → Prop
  | [] => True
  | rule :: rest =>
    (applies rule = true ∧ applies' rule = true) ∨
    (applies rule = true ∧ applies' rule = false ∧ LeadsTo applies' servers rest rule.serverTag) ∨
    (applies rule = false ∧ applies' rule = true ∧ LeadsTo applies servers rest rule.serverTag) ∨
    (applies rule = false ∧ applies' rule = false ∧ FirstRuleAgrees applies applies' servers rest)

section Choice

variable {servers : List DnsUdpServerConfig} {applies applies' : DnsRouteRuleConfig → Bool}

/-- Two tags of servers stand for one server only if they are equal. -/
theorem find_server_eq_iff {tag tag' : String} (h : tag ∈ servers.map DnsUdpServerConfig.tag) :
    servers.find? (fun server => server.tag = tag) = servers.find? (fun server => server.tag = tag') ↔
      tag = tag' := by
  constructor
  · intro heq
    obtain ⟨server, hmem, htag⟩ := List.mem_map.mp h
    cases hfind : servers.find? fun server => server.tag = tag with
    | none =>
      have hnone := List.find?_eq_none.mp hfind server hmem
      exact absurd htag (by simpa using hnone)
    | some found =>
      have hfound := List.find?_some hfind
      rw [heq] at hfind
      have hfound' := List.find?_some hfind
      exact (of_decide_eq_true hfound).symm.trans (of_decide_eq_true hfound')
  · rintro rfl
    rfl

theorem serverBy_eq_iff {rules : List DnsRouteRuleConfig}
    (hrules : ∀ rule ∈ rules, rule.serverTag ∈ servers.map DnsUdpServerConfig.tag) {tag : String}
    (htag : tag ∈ servers.map DnsUdpServerConfig.tag) :
    serverBy applies servers rules = servers.find? (fun server => server.tag = tag) ↔
      LeadsTo applies servers rules tag := by
  unfold serverBy LeadsTo
  cases hfind : rules.find? applies with
  | some rule =>
    have hmem := List.mem_of_find?_eq_some hfind
    have happlies := List.find?_some hfind
    dsimp only
    rw [find_server_eq_iff (hrules rule hmem)]
    constructor
    · intro heq
      exact .inl ⟨rule, rfl, heq⟩
    · rintro (⟨other, heq, htag⟩ | ⟨hnone, -⟩)
      · cases heq
        exact htag
      · rw [hnone rule hmem] at happlies
        cases happlies
  | none =>
    have hnone : ∀ rule ∈ rules, applies rule = false := by
      intro rule hmem
      simpa using List.find?_eq_none.mp hfind rule hmem
    dsimp only
    cases servers with
    | nil => cases htag
    | cons first others =>
      have hfirst : (first :: others).find? (fun server => server.tag = first.tag) = some first :=
        List.find?_cons_of_pos (decide_eq_true rfl)
      have hiff : (first :: others).head? = (first :: others).find? (fun server => server.tag = tag) ↔
          first.tag = tag := by
        rw [List.head?_cons, ← hfirst]
        exact find_server_eq_iff (List.mem_map.mpr ⟨first, List.mem_cons_self, rfl⟩)
      rw [hiff]
      constructor
      · intro heq
        exact .inr ⟨hnone, congrArg some heq⟩
      · rintro (⟨rule, heq, -⟩ | ⟨-, heq⟩)
        · cases heq
        · exact Option.some.inj heq

/-- Two senses of matching lead to one server exactly when they agree on the first rule. -/
theorem serverBy_eq_serverBy_iff (rules : List DnsRouteRuleConfig)
    (hrules : ∀ rule ∈ rules, rule.serverTag ∈ servers.map DnsUdpServerConfig.tag) :
    serverBy applies servers rules = serverBy applies' servers rules ↔
      FirstRuleAgrees applies applies' servers rules := by
  induction rules with
  | nil => exact ⟨fun _ => trivial, fun _ => rfl⟩
  | cons rule rest ih =>
    have hrule := hrules rule List.mem_cons_self
    have hrest : ∀ other ∈ rest, other.serverTag ∈ servers.map DnsUdpServerConfig.tag :=
      fun other hmem => hrules other (List.mem_cons_of_mem rule hmem)
    have hyes : ∀ sense : DnsRouteRuleConfig → Bool, sense rule = true →
        serverBy sense servers (rule :: rest) =
          servers.find? fun server => server.tag = rule.serverTag := by
      intro sense hsense
      unfold serverBy
      rw [List.find?_cons_of_pos hsense]
    have hno : ∀ sense : DnsRouteRuleConfig → Bool, sense rule = false →
        serverBy sense servers (rule :: rest) = serverBy sense servers rest := by
      intro sense hsense
      unfold serverBy
      rw [List.find?_cons_of_neg (by simp [hsense])]
    unfold FirstRuleAgrees
    by_cases h : applies rule = true
    · by_cases h' : applies' rule = true
      · rw [hyes _ h, hyes _ h']
        simp [h, h']
      · rw [Bool.not_eq_true] at h'
        rw [hyes _ h, hno _ h', eq_comm, serverBy_eq_iff hrest hrule]
        simp [h, h']
    · rw [Bool.not_eq_true] at h
      by_cases h' : applies' rule = true
      · rw [hno _ h, hyes _ h', serverBy_eq_iff hrest hrule]
        simp [h, h']
      · rw [Bool.not_eq_true] at h'
        rw [hno _ h, hno _ h', ih hrest]
        simp [h, h']

theorem firstRuleAgrees_of_eq {rules : List DnsRouteRuleConfig}
    (h : ∀ rule ∈ rules, applies rule = applies' rule) : FirstRuleAgrees applies applies' servers rules := by
  induction rules with
  | nil => trivial
  | cons rule rest ih =>
    have hrule := h rule List.mem_cons_self
    have hrest := ih fun other hmem => h other (List.mem_cons_of_mem rule hmem)
    unfold FirstRuleAgrees
    cases happlies : applies rule with
    | true => exact .inl ⟨rfl, hrule ▸ happlies⟩
    | false => exact .inr (.inr (.inr ⟨rfl, hrule ▸ happlies, hrest⟩))

end Choice

section Router

variable (node : Node)

/-- The comparison of the router. -/
def routedRule (host : String) (rule : DnsRouteRuleConfig) : Bool :=
  matchesDomainSuffix node host rule.domainSuffix

/-- The upstream by the rules as the router reads them. -/
def routedUdpServer (config : DnsResolverConfig) (host : String) : Option DnsUdpServerConfig :=
  serverBy (routedRule node host) config.udpServers config.rules

/-- Suffixes that are written as the router normalises them are read alike, for hosts that
are normalised too. -/
theorem comparedRule_eq_routedRule {host : String} (hhost : normalizeDomain node host = host)
    {rule : DnsRouteRuleConfig} (h : ∀ suffix ∈ rule.domainSuffix, normalizeSuffix node suffix = suffix) :
    comparedRule host rule = routedRule node host rule := by
  unfold comparedRule routedRule matchesDomainSuffix
  rw [hhost, Bool.eq_iff_iff, List.any_eq_true, List.any_eq_true]
  constructor
  · rintro ⟨suffix, hmem, hends⟩
    refine ⟨suffix, hmem, ?_⟩
    rw [h suffix hmem]
    exact hends
  · rintro ⟨suffix, hmem, hends⟩
    refine ⟨suffix, hmem, ?_⟩
    rw [h suffix hmem] at hends
    exact hends

theorem firstRuleAgrees_of_normal {host : String} (hhost : normalizeDomain node host = host)
    (servers : List DnsUdpServerConfig) {rules : List DnsRouteRuleConfig}
    (h : ∀ rule ∈ rules, ∀ suffix ∈ rule.domainSuffix, normalizeSuffix node suffix = suffix) :
    FirstRuleAgrees (comparedRule host) (routedRule node host) servers rules :=
  firstRuleAgrees_of_eq fun rule hmem => comparedRule_eq_routedRule node hhost (h rule hmem)

/-- The upstream of an accepted section is the one that the router's reading of the rules
gives exactly when the two readings agree on the first rule, as they do for a host and
suffixes that are written as the router normalises them. -/
theorem selectUdpServer_routed_iff {root : Record} (host : String)
    (haccepted : (readDns node root).Clean) :
    (selectUdpServer (readDns node root).value.toDnsResolverConfig host =
        routedUdpServer node (readDns node root).value.toDnsResolverConfig host ↔
      FirstRuleAgrees (comparedRule host) (routedRule node host)
        (readDns node root).value.udpServers (readDns node root).value.rules) ∧
    (normalizeDomain node host = host →
      (∀ rule ∈ (readDns node root).value.rules, ∀ suffix ∈ rule.domainSuffix,
        normalizeSuffix node suffix = suffix) →
      FirstRuleAgrees (comparedRule host) (routedRule node host)
        (readDns node root).value.udpServers (readDns node root).value.rules) :=
  ⟨serverBy_eq_serverBy_iff _ (serverTag_of_accepted node haccepted),
    fun hhost hnormal => firstRuleAgrees_of_normal node hhost _ hnormal⟩

end Router

/-! ## A suffix with a leading dot -/

/-- Two servers, the second for the names inside of the suffix. -/
def corpDns (suffix : String) : Record :=
  [("dns", .object [
    ("udpServers", .array [
      .object [("tag", .string "public"), ("address", .string "9.9.9.9")],
      .object [("tag", .string "internal"), ("address", .string "10.0.0.53")]]),
    ("rules", .array [
      .object [("domainSuffix", .array [.string suffix]), ("serverTag", .string "internal")]])])]

theorem selectUdpServer_routed_iff_corp :
    (readDns asciiNode (corpDns "corp")).Clean ∧
      selectUdpServer (readDns asciiNode (corpDns "corp")).value.toDnsResolverConfig "db.corp" =
        routedUdpServer asciiNode (readDns asciiNode (corpDns "corp")).value.toDnsResolverConfig "db.corp" := by
  have haccepted : (readDns asciiNode (corpDns "corp")).Clean := by decide +kernel
  obtain ⟨hiff, hnormal⟩ := selectUdpServer_routed_iff asciiNode "db.corp" haccepted
  exact ⟨haccepted, hiff.mpr (hnormal (by decide +kernel) (by decide +kernel))⟩

/-- The router reads `.corp` as `corp`, the resolver asks the public server. -/
theorem leading_dot_ignored :
    (readDns asciiNode (corpDns ".corp")).Clean ∧ (readDns asciiNode (corpDns ".corp")).value.udpServers ≠ [] ∧
      selectUdpServer (readDns asciiNode (corpDns ".corp")).value.toDnsResolverConfig "db.corp" ≠
        routedUdpServer asciiNode (readDns asciiNode (corpDns ".corp")).value.toDnsResolverConfig "db.corp" := by
  decide +kernel

end Sepigs
