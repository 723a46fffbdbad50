import Sepigs.Config.Readers
import Sepigs.Config.Types
import Sepigs.Router.Matcher

/-!
# Parsing the config (`config/schema.ts`)

The sections that say where the proxy listens and how it routes.  What the other sections
complain about is a parameter.
-/

namespace Sepigs

open Checked (push pushIf collect)

/-- `items.forEach(…)` where each item may be complained about. -/
def forEach {α : Type} (f : Nat → α → Checked PUnit) (items : List α) : Checked PUnit := do
  let _ ← collect (fun index item => do f index item; pure ([] : List Nat)) items
  pure ⟨⟩

/-- A field of an object that is left out when there is no value. -/
def optionalField {α : Type} (key : String) (toJson : α → Json) : Option α → Record
  | some value => [(key, toJson value)]
  | none => []

def numberJson (n : Nat) : Json := .number n

def stringsJson (values : List String) : Json := .array (values.map .string)

/-! ## Geo tables -/

structure GeoConfig where
  geoip : JsMap String (List String)
  geosite : JsMap String (List String)

def DEFAULT_GEO : GeoConfig := ⟨∅, ∅⟩

section Sections

variable (node : Node)

def parseGeo (root : Record) : Checked GeoConfig :=
  match root.lookup "geo" with
  | none => pure DEFAULT_GEO
  | some (.object rawGeo) => do
    let geoip ← readStringArrayRecord rawGeo "geoip" "geo" node.toLowerCase
    let geosite ← readStringArrayRecord rawGeo "geosite" "geo" node.toLowerCase
    pure ⟨geoip.getD DEFAULT_GEO.geoip, geosite.getD DEFAULT_GEO.geosite⟩
  | some _ => do
    push "geo must be an object"
    pure DEFAULT_GEO

/-! ## Control plane -/

def DEFAULT_METRICS : MetricsServerConfig :=
  { enabled := false, listen := "127.0.0.1", port := 19090, path := "/metrics" }

def parseMetricsServer (rawObservability : Record) : Checked MetricsServerConfig :=
  match rawObservability.lookup "metrics" with
  | none => pure DEFAULT_METRICS
  | some (.object rawMetrics) => do
    let rawPath ← readOptionalString rawMetrics "path" "observability.metrics"
    let metricsPath := rawPath.getD DEFAULT_METRICS.path
    pushIf (!JsString.startsWith metricsPath "/")
      "observability.metrics.path must start with /"
    let enabled ← readOptionalBoolean rawMetrics "enabled" "observability.metrics"
    let listen ← readOptionalString rawMetrics "listen" "observability.metrics"
    let port ← readOptionalNumber rawMetrics "port" "observability.metrics" 0 65535
    pure {
      enabled := enabled.getD DEFAULT_METRICS.enabled
      listen := listen.getD DEFAULT_METRICS.listen
      port := port.getD DEFAULT_METRICS.port
      path := if JsString.startsWith metricsPath "/" then metricsPath else DEFAULT_METRICS.path }
  | some _ => do
    push "observability.metrics must be an object when provided"
    pure DEFAULT_METRICS

/-- The section holds `metrics` only. -/
def parseObservability (root : Record) : Checked MetricsServerConfig :=
  match root.lookup "observability" with
  | none => pure DEFAULT_METRICS
  | some (.object rawObservability) => parseMetricsServer rawObservability
  | some _ => do
    push "observability must be an object when provided"
    pure DEFAULT_METRICS

def DEFAULT_DASHBOARD : DashboardConfig :=
  { enabled := false, listen := "127.0.0.1", port := 19091, token := "change-me"
    rateLimitPerMinute := 120, cors := false }

def parseDashboard (root : Record) : Checked DashboardConfig :=
  match root.lookup "dashboard" with
  | none => pure DEFAULT_DASHBOARD
  | some (.object raw) => do
    let enabled ← readOptionalBoolean raw "enabled" "dashboard"
    let listen ← readOptionalString raw "listen" "dashboard"
    let port ← readOptionalNumber raw "port" "dashboard" 0 65535
    let token ← readOptionalString raw "token" "dashboard"
    let rateLimitPerMinute ← readOptionalNumber raw "rateLimitPerMinute" "dashboard" 1 100000
    let cors ← readOptionalBoolean raw "cors" "dashboard"
    pure {
      enabled := enabled.getD DEFAULT_DASHBOARD.enabled
      listen := listen.getD DEFAULT_DASHBOARD.listen
      port := port.getD DEFAULT_DASHBOARD.port
      token := token.getD DEFAULT_DASHBOARD.token
      rateLimitPerMinute := rateLimitPerMinute.getD DEFAULT_DASHBOARD.rateLimitPerMinute
      cors := cors.getD DEFAULT_DASHBOARD.cors }
  | some _ => do
    push "dashboard must be an object when provided"
    pure DEFAULT_DASHBOARD

/-! ## Inbounds -/

structure InboundAuthConfig where
  enabled : Bool
  username : String
  password : String
deriving DecidableEq, Repr

/-- `settings` holds the fields that depend on the type, but for the authentication. -/
structure InboundConfig where
  type : String
  tag : String
  listen : String
  port : Nat
  auth : Option InboundAuthConfig
  settings : Record

/-- `parseHttpAuth`, and `parseSocksAuth`, which is the same. -/
def parseAuth (record : Record) (path : String) : Checked (Option InboundAuthConfig) :=
  match record.lookup "auth" with
  | none => pure none
  | some (.object rawAuth) => do
    let enabled ← readOptionalBoolean rawAuth "enabled" s!"{path}.auth"
    let username ← readString rawAuth "username" s!"{path}.auth"
    let password ← readString rawAuth "password" s!"{path}.auth"
    match username, password with
    | some username, some password => pure (some ⟨enabled.getD true, username, password⟩)
    | _, _ => pure none
  | some _ => reject s!"{path}.auth must be an object when provided"

/-- `type.startsWith("plugin.")`, with more after it. -/
def isExtensionType (value : String) : Bool :=
  JsString.startsWith value "plugin." && decide ("plugin.".toList.length < value.toList.length)

def SHADOWSOCKS_METHODS : List String :=
  ["aes-128-gcm", "aes-256-gcm", "chacha20-ietf-poly1305"]

def checkShadowsocksMethod (path : String) (method : Option String) : Checked PUnit :=
  match method with
  | some name =>
    if SHADOWSOCKS_METHODS.contains name then pure ⟨⟩
    else push s!"{path}.method must be one of aes-128-gcm, aes-256-gcm, chacha20-ietf-poly1305"
  | none => pure ⟨⟩

def parseTrojanInboundTls (record : Record) (path : String) : Checked Record :=
  match record.lookup "tls" with
  | none => pure [("enabled", .boolean false)]
  | some (.object rawTls) => do
    let enabled ← readOptionalBoolean rawTls "enabled" s!"{path}.tls"
    let certPath ← readOptionalString rawTls "certPath" s!"{path}.tls"
    let keyPath ← readOptionalString rawTls "keyPath" s!"{path}.tls"
    pushIf (enabled.getD false && (certPath.isNone || keyPath.isNone))
      s!"{path}.tls certPath and keyPath are required when TLS is enabled"
    pure ([("enabled", .boolean (enabled.getD false))] ++
      optionalField "certPath" .string certPath ++ optionalField "keyPath" .string keyPath)
  | some _ => do
    push s!"{path}.tls must be an object when provided"
    pure [("enabled", .boolean false)]

/-- The part of `parseInbound` after the fields of every type. -/
def parseInboundType (record : Record) (path : String) (inbound : InboundConfig) :
    Checked (Option InboundConfig) :=
  if inbound.type = "http" then do
    let auth ← parseAuth record path
    pure (some { inbound with auth := auth })
  else if inbound.type = "socks5" then do
    let udpAssociate ← readOptionalBoolean record "udpAssociate" path
    let auth ← parseAuth record path
    pure (some { inbound with
      auth := auth
      settings := inbound.settings ++ optionalField "udpAssociate" .boolean udpAssociate })
  else if inbound.type = "shadowsocks" then do
    let method ← readString record "method" path
    let password ← readString record "password" path
    let udp ← readOptionalBoolean record "udp" path
    checkShadowsocksMethod path method
    match method, password with
    | some method, some password =>
      pure (some { inbound with
        settings := [("method", .string method), ("password", .string password),
          ("udp", .boolean (udp.getD false))] ++ inbound.settings })
    | _, _ => pure none
  else if inbound.type = "trojan" then do
    let password ← readString record "password" path
    let tls ← parseTrojanInboundTls record path
    match password with
    | some password =>
      pure (some { inbound with
        settings := [("password", .string password), ("tls", .object tls)] ++ inbound.settings })
    | none => pure none
  else if isExtensionType inbound.type then do
    let options ← readOptionsRecord record "options" path
    pure (some { inbound with settings := [("options", .object options)] ++ inbound.settings })
  else
    reject (path ++ ".type must be \"http\", \"socks5\", \"shadowsocks\", \"trojan\", " ++
      "or start with \"plugin.\"")

def parseInbound (value : Json) (path : String) : Checked (Option InboundConfig) :=
  match value with
  | .object record => do
    let type ← readString record "type" path
    let tag ← readString record "tag" path
    let listen ← readString record "listen" path
    let port ← readNumber record "port" path 0 65535
    let connectTimeoutMs ← readOptionalNumber record "connectTimeoutMs" path 1 300000
    let idleTimeoutMs ← readOptionalNumber record "idleTimeoutMs" path 1 3600000
    let maxHeaderBytes ← readOptionalNumber record "maxHeaderBytes" path 1024 (1024 * 1024)
    match type, tag, listen, port with
    | some type, some tag, some listen, some port =>
      parseInboundType record path {
        type := type
        tag := tag
        listen := listen
        port := port
        auth := none
        settings := optionalField "connectTimeoutMs" numberJson connectTimeoutMs ++
          optionalField "idleTimeoutMs" numberJson idleTimeoutMs ++
          optionalField "maxHeaderBytes" numberJson maxHeaderBytes }
    | _, _, _, _ => pure none
  | _ => reject s!"{path} must be an object"

/-! ## Outbounds -/

/-- The object `{ type, tag, …settings }`. -/
structure OutboundSection where
  type : String
  tag : String
  settings : Record

def parseTrojanOutboundTls (record : Record) (tlsPath : String) : Checked Record :=
  match record.lookup "tls" with
  | none => pure [("enabled", .boolean true), ("rejectUnauthorized", .boolean true)]
  | some (.object rawTls) => do
    let enabled ← readOptionalBoolean rawTls "enabled" tlsPath
    let rejectUnauthorized ← readOptionalBoolean rawTls "rejectUnauthorized" tlsPath
    let serverName ← readOptionalString rawTls "serverName" tlsPath
    pure ([("enabled", .boolean (enabled.getD true)),
      ("rejectUnauthorized", .boolean (rejectUnauthorized.getD true))] ++
        optionalField "serverName" .string serverName)
  | some _ => do
    push s!"{tlsPath} must be an object when provided"
    pure [("enabled", .boolean true), ("rejectUnauthorized", .boolean true)]

/-- The fields of a `wireguard` outbound, `none` without a valid peer. -/
def parseWireguard (record : Record) (path : String) : Checked (Option Record) := do
  let privateKey ← readString record "privateKey" path
  let address ← readStringArray record "address" path
  match record.lookup "peer" with
  | some (.object rawPeer) => do
    let publicKey ← readString rawPeer "publicKey" s!"{path}.peer"
    let endpointHost ← readString rawPeer "endpointHost" s!"{path}.peer"
    let endpointPort ← readNumber rawPeer "endpointPort" s!"{path}.peer" 1 65535
    let allowedIps ← readStringArray rawPeer "allowedIps" s!"{path}.peer"
    let reserved ← readByteArray record "reserved" path
    match privateKey, address, publicKey, endpointHost, endpointPort, allowedIps with
    | some privateKey, some address, some publicKey, some endpointHost, some endpointPort,
      some allowedIps =>
      pure (some ([("privateKey", .string privateKey), ("address", stringsJson address),
        ("peer", .object [("publicKey", .string publicKey),
          ("endpointHost", .string endpointHost), ("endpointPort", numberJson endpointPort),
          ("allowedIps", stringsJson allowedIps)])] ++
        optionalField "reserved" (fun bytes => .array (bytes.map numberJson)) reserved))
    | _, _, _, _, _, _ => pure none
  | _ => reject s!"{path}.peer must be an object"

/-- The fields that depend on the type of an outbound. -/
def parseOutboundType (record : Record) (type path : String) : Checked (Option Record) :=
  if type = "direct" then pure (some [])
  else if type = "block" then do
    let reason ← readOptionalString record "reason" path
    pure (some (optionalField "reason" .string reason))
  else if type = "tcpRelay" then do
    let targetHost ← readString record "targetHost" path
    let targetPort ← readNumber record "targetPort" path 1 65535
    match targetHost, targetPort with
    | some targetHost, some targetPort =>
      pure (some [("targetHost", .string targetHost), ("targetPort", numberJson targetPort)])
    | _, _ => pure none
  else if type = "shadowsocks" then do
    let serverHost ← readString record "serverHost" path
    let serverPort ← readNumber record "serverPort" path 1 65535
    let method ← readString record "method" path
    let password ← readString record "password" path
    checkShadowsocksMethod path method
    match serverHost, serverPort, method, password with
    | some serverHost, some serverPort, some method, some password =>
      pure (some [("serverHost", .string serverHost), ("serverPort", numberJson serverPort),
        ("method", .string method), ("password", .string password)])
    | _, _, _, _ => pure none
  else if type = "trojan" then do
    let serverHost ← readString record "serverHost" path
    let serverPort ← readNumber record "serverPort" path 1 65535
    let password ← readString record "password" path
    let tls ← parseTrojanOutboundTls record s!"{path}.tls"
    match serverHost, serverPort, password with
    | some serverHost, some serverPort, some password =>
      pure (some [("serverHost", .string serverHost), ("serverPort", numberJson serverPort),
        ("password", .string password), ("tls", .object tls)])
    | _, _, _ => pure none
  else if type = "wireguard" then parseWireguard record path
  else if isExtensionType type then do
    let options ← readOptionsRecord record "options" path
    pure (some [("options", .object options)])
  else
    reject (path ++ ".type must be \"direct\", \"block\", \"tcpRelay\", \"shadowsocks\", " ++
      "\"trojan\", \"wireguard\", or start with \"plugin.\"")

def parseOutbound (value : Json) (path : String) : Checked (Option OutboundSection) :=
  match value with
  | .object record => do
    let type ← readString record "type" path
    let tag ← readString record "tag" path
    let connectTimeoutMs ← readOptionalNumber record "connectTimeoutMs" path 1 300000
    let idleTimeoutMs ← readOptionalNumber record "idleTimeoutMs" path 1 3600000
    match type, tag with
    | some type, some tag => do
      let settings ← parseOutboundType record type path
      pure (settings.map fun settings =>
        ⟨type, tag, settings ++ optionalField "connectTimeoutMs" numberJson connectTimeoutMs ++
          optionalField "idleTimeoutMs" numberJson idleTimeoutMs⟩)
    | _, _ => pure none
  | _ => reject s!"{path} must be an object"

/-! ## Routes -/

/-- `expandGeoIp` and `expandGeoSite`, which differ in the table and the words. -/
def expandGeo (table : JsMap String (List String)) (field kind path : String) :
    Option (List String) → Checked (List String)
  | none => pure []
  | some tags =>
    collect
      (fun _ tag =>
        match table.get (node.toLowerCase tag) with
        | some values => pure values
        | none => do
          push s!"{path}.{field} references unknown {kind} tag \"{tag}\""
          pure [])
      tags

def expandGeoIp (tags : Option (List String)) (geo : GeoConfig) (path : String) :
    Checked (List String) := expandGeo node geo.geoip "geoIp" "GeoIp" path tags

def expandGeoSite (tags : Option (List String)) (geo : GeoConfig) (path : String) :
    Checked (List String) := expandGeo node geo.geosite "geoSite" "GeoSite" path tags

/-- A list that is kept when it has an entry. -/
def ifAny (values : List String) : Option (List String) :=
  if 0 < values.length then some values else none

def parseRouteRule (geo : GeoConfig) (value : Json) (path : String) :
    Checked (Option RouteRuleConfig) :=
  match value with
  | .object record => do
    let outboundTag ← readString record "outboundTag" path
    match outboundTag with
    | none => pure none
    | some outboundTag => do
      let tag ← readOptionalString record "tag" path
      let domain ← readStringArray record "domain" path
      let domainSuffix ← readStringArray record "domainSuffix" path
      let ipCidr ← readStringArray record "ipCidr" path
      let geoIp ← readStringArray record "geoIp" path
      let geoSite ← readStringArray record "geoSite" path
      let port ← readPortArray record "port" path
      let expandedGeoIp ← expandGeoIp node geoIp geo path
      let expandedGeoSite ← expandGeoSite node geoSite geo path
      let mergedIpCidr := ipCidr.getD [] ++ expandedGeoIp
      let mergedDomainSuffix := domainSuffix.getD [] ++ expandedGeoSite
      forEach
        (fun index cidr =>
          if isValidCidr node cidr then pure ⟨⟩
          else push s!"{path}.ipCidr[{index}] must be a valid CIDR")
        mergedIpCidr
      pure (some {
        outboundTag := outboundTag
        tag := tag
        domain := domain
        domainSuffix := ifAny mergedDomainSuffix
        ipCidr := ifAny mergedIpCidr
        geoIp := geoIp
        geoSite := geoSite
        port := port })
  | _ => reject s!"{path} must be an object"

def parseRouteRuleSetFile (value : Json) (path : String) :
    Checked (Option RouteRuleSetFileConfig) :=
  match value with
  | .object record => do
    let tag ← readString record "tag" path
    let filePath ← readString record "path" path
    let outboundTag ← readString record "outboundTag" path
    match tag, filePath, outboundTag with
    | some tag, some filePath, some outboundTag => pure (some ⟨tag, filePath, outboundTag⟩)
    | _, _, _ => pure none
  | _ => reject s!"{path} must be an object"

/-- The type of a policy, where it is one of `ROUTING_POLICY_TYPES`. -/
def routingPolicyType : String → Option RoutingPolicyType
  | "loadBalance" => some .loadBalance
  | "failover" => some .failover
  | _ => none

/-- `LOAD_BALANCE_STRATEGIES` -/
def loadBalanceStrategy : Json → Option LoadBalanceStrategy
  | .string "roundRobin" => some .roundRobin
  | .string "leastLatency" => some .leastLatency
  | .string "random" => some .random
  | _ => none

/-- A text that is no policy type is complained about and stands for none. -/
def parseRoutingPolicy (value : Json) (path : String) : Checked (Option RoutingPolicyConfig) :=
  match value with
  | .object record => do
    let tag ← readString record "tag" path
    let type ← readString record "type" path
    let outbounds ← readStringArray record "outbounds" path
    pushIf (type.isSome && (type.bind routingPolicyType).isNone)
      s!"{path}.type must be \"loadBalance\" or \"failover\""
    let rawStrategy := record.lookup "strategy"
    pushIf (rawStrategy.isSome && (rawStrategy.bind loadBalanceStrategy).isNone)
      (path ++ ".strategy must be \"roundRobin\", \"leastLatency\", or \"random\" when provided")
    match tag, type, outbounds with
    | some tag, some type, some outbounds => do
      pushIf outbounds.isEmpty s!"{path}.outbounds must contain at least one outbound tag"
      let unhealthyAfterFailures ← readOptionalNumber record "unhealthyAfterFailures" path 1 1000
      let recoverAfterMs ← readOptionalNumber record "recoverAfterMs" path 1 3600000
      pure ((routingPolicyType type).map fun type => {
        tag := tag
        type := type
        outbounds := outbounds
        strategy := (rawStrategy.bind loadBalanceStrategy).getD .roundRobin
        unhealthyAfterFailures := unhealthyAfterFailures.getD 3
        recoverAfterMs := recoverAfterMs.getD 30000 })
    | _, _, _ => pure none
  | _ => reject s!"{path} must be an object"

/-- `items.map(…).filter((item) => item !== undefined)` -/
def parseAll {α : Type} (parse : Json → String → Checked (Option α)) (path : String)
    (items : List Json) : Checked (List α) :=
  collect
    (fun index item => do
      let parsed ← parse item s!"{path}[{index}]"
      pure parsed.toList)
    items

/-- An array that may be left out. -/
def parseOptionalArray {α : Type} (parse : Json → String → Checked (Option α))
    (rawRoute : Record) (key : String) : Checked (List α) :=
  match rawRoute.lookup key with
  | none => pure []
  | some (.array items) => parseAll parse s!"route.{key}" items
  | some _ => do
    push s!"route.{key} must be an array when provided"
    pure []

def parseRouter (root : Record) (geo : GeoConfig) : Checked (Option RouterConfig) :=
  match root.lookup "route" with
  | some (.object rawRoute) => do
    let defaultOutbound ← readString rawRoute "defaultOutbound" "route"
    match rawRoute.lookup "rules" with
    | some (.array rawRules) => do
      let rules ← parseAll (parseRouteRule node geo) "route.rules" rawRules
      let ruleSetFiles ← parseOptionalArray parseRouteRuleSetFile rawRoute "ruleSetFiles"
      let policies ← parseOptionalArray parseRoutingPolicy rawRoute "policies"
      pure (defaultOutbound.map fun defaultOutbound =>
        ⟨defaultOutbound, rules, ruleSetFiles, policies⟩)
    | _ => reject "route.rules must be an array"
  | _ => reject "route must be an object"

/-! ## Checks across sections -/

/-- The loop of `checkUniqueTags`, with the tags that were seen. -/
def checkUniqueTagsFrom (path : String) : List String → List String → Checked PUnit
  | _, [] => pure ⟨⟩
  | seen, tag :: tags =>
    if seen.contains tag then do
      push s!"{path} contains duplicate tag \"{tag}\""
      checkUniqueTagsFrom path seen tags
    else checkUniqueTagsFrom path (tag :: seen) tags

def checkUniqueTags (tags : List String) (path : String) : Checked PUnit :=
  checkUniqueTagsFrom path [] tags

/-- What is parsed of the config. -/
structure ParsedConfig where
  geo : GeoConfig
  metrics : MetricsServerConfig
  dashboard : DashboardConfig
  inbounds : List InboundConfig
  outbounds : List OutboundSection
  route : RouterConfig

def ParsedConfig.outboundTags (config : ParsedConfig) : List String :=
  config.outbounds.map OutboundSection.tag

/-- A complaint about a tag that is not among the targets. -/
def checkTarget (targets : List String) (error : String → String) (tag : String) :
    Checked PUnit :=
  if targets.contains tag then pure ⟨⟩ else push (error tag)

def checkOutboundReferences (config : ParsedConfig) : Checked PUnit := do
  let outboundTags := config.outboundTags
  let policyTags := config.route.policies.map RoutingPolicyConfig.tag
  let routeTargets := outboundTags ++ policyTags
  forEach
    (fun _ (policy : RoutingPolicyConfig) =>
      if outboundTags.contains policy.tag then
        push s!"route.policies contains tag \"{policy.tag}\" that duplicates an outbound tag"
      else pure ⟨⟩)
    config.route.policies
  checkTarget routeTargets
    (fun tag => s!"route.defaultOutbound references unknown outbound \"{tag}\"")
    config.route.defaultOutbound
  forEach
    (fun index (rule : RouteRuleConfig) =>
      checkTarget routeTargets
        (fun tag => s!"route.rules[{index}].outboundTag references unknown outbound \"{tag}\"")
        rule.outboundTag)
    config.route.rules
  forEach
    (fun index (ruleSet : RouteRuleSetFileConfig) =>
      checkTarget routeTargets
        (fun tag =>
          s!"route.ruleSetFiles[{index}].outboundTag references unknown outbound \"{tag}\"")
        ruleSet.outboundTag)
    config.route.ruleSetFiles
  forEach
    (fun policyIndex (policy : RoutingPolicyConfig) =>
      forEach
        (fun outboundIndex outboundTag =>
          checkTarget outboundTags
            (fun tag => s!"route.policies[{policyIndex}].outbounds[{outboundIndex}] " ++
              s!"references unknown outbound \"{tag}\"")
            outboundTag)
        policy.outbounds)
    config.route.policies

def PUBLIC_LISTEN_ADDRESSES : List String := ["0.0.0.0", "::", "[::]"]

/-- `(type === "http" || type === "socks5") && auth?.enabled === true` -/
def InboundConfig.authenticates (inbound : InboundConfig) : Bool :=
  (inbound.type = "http" || inbound.type = "socks5") &&
    inbound.auth.any InboundAuthConfig.enabled

def checkPublicExposure (config : ParsedConfig) : Checked PUnit := do
  forEach
    (fun _ (inbound : InboundConfig) =>
      if !PUBLIC_LISTEN_ADDRESSES.contains inbound.listen then pure ⟨⟩
      else if inbound.authenticates then pure ⟨⟩
      else push (s!"inbound \"{inbound.tag}\" listens on {inbound.listen}; public HTTP/SOCKS " ++
        "listeners must enable authentication"))
    config.inbounds
  pushIf (config.metrics.enabled && PUBLIC_LISTEN_ADDRESSES.contains config.metrics.listen)
    ("observability.metrics.listen must not be public; bind metrics to 127.0.0.1 or " ++
      "protect it behind a separate authenticated endpoint")
  pushIf (config.dashboard.enabled && PUBLIC_LISTEN_ADDRESSES.contains config.dashboard.listen)
    "dashboard.listen must not be public"
  pushIf (config.dashboard.enabled &&
      (config.dashboard.token = "change-me" || JsString.length config.dashboard.token < 16))
    ("dashboard.token must be changed and contain at least 16 characters when " ++
      "dashboard is enabled")

/-- What the sections that are not read here complain about, in the order of the checks. -/
structure OtherSections where
  beforeGeo : List String
  beforeObservability : List String
  tun : List String
  uniqueTags : List String
  dnsReferences : List String

/-- An array that must not be empty. -/
def parseNonEmptyArray {α : Type} (parse : Json → String → Checked (Option α)) (input : Record)
    (key : String) : Checked (List α) :=
  match input.lookup key with
  | some (.array items) => do
    pushIf items.isEmpty s!"{key} must be a non-empty array"
    parseAll parse key items
  | _ => do
    push s!"{key} must be a non-empty array"
    pure []

/-- The complaints of another section. -/
def complaints (errors : List String) : Checked PUnit := ⟨⟨⟩, errors⟩

/-- `parseConfig` on the fields of the root, before it throws. -/
def readConfig (others : OtherSections) (input : Record) : Checked ParsedConfig := do
  complaints others.beforeGeo
  let geo ← parseGeo node input
  complaints others.beforeObservability
  let metrics ← parseObservability input
  let dashboard ← parseDashboard input
  complaints others.tun
  let inbounds ← parseNonEmptyArray parseInbound input "inbounds"
  let outbounds ← parseNonEmptyArray parseOutbound input "outbounds"
  let route ← parseRouter node input geo
  let config : ParsedConfig :=
    { geo := geo
      metrics := metrics
      dashboard := dashboard
      inbounds := inbounds
      outbounds := outbounds
      route := route.getD ⟨"", [], [], []⟩ }
  checkUniqueTags (config.inbounds.map InboundConfig.tag) "inbounds"
  checkUniqueTags config.outboundTags "outbounds"
  complaints others.uniqueTags
  checkUniqueTags (config.route.policies.map RoutingPolicyConfig.tag) "route.policies"
  complaints others.dnsReferences
  checkPublicExposure config
  match route with
  | some _ => checkOutboundReferences config
  | none => pure ⟨⟩
  pure config

def invalidConfig (errors : List String) : ConfigError :=
  ⟨"invalid sepigs config:\n" ++
    String.intercalate "\n" (errors.map fun error => s!"- {error}")⟩

def parseConfig (others : Json → OtherSections) (input : Json) :
    Except ConfigError ParsedConfig :=
  match input with
  | .object record =>
    let parsed := readConfig node (others input) record
    if 0 < parsed.errors.length then .error (invalidConfig parsed.errors) else .ok parsed.value
  | _ => .error ⟨"config root must be an object"⟩

end Sections

end Sepigs
