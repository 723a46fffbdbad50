import Sepigs.Config.WrittenSections

/-!
# Inbounds and outbounds written again (`parseInbound` and `parseOutbound` in `config/schema.ts`)

The form of the fields that depend on the type, one constructor for each type.
-/

namespace Sepigs

/-! ## Inbounds -/

def InboundAuthConfig.toJson (auth : InboundAuthConfig) : Json :=
  .object [("enabled", .boolean auth.enabled), ("username", .string auth.username),
    ("password", .string auth.password)]

structure InboundAuthConfig.Form (auth : InboundAuthConfig) : Prop where
  username : Text auth.username
  password : Text auth.password

theorem parseAuth_read {record : Record} {path : String} (h : (parseAuth record path).Clean) :
    ∃ auth, parseAuth record path = pure auth ∧ ∀ a ∈ auth, a.Form := by
  refine ⟨_, Checked.eq_pure_of_clean h, ?_⟩
  unfold parseAuth at h ⊢
  split at h
  · simp
  · next rawAuth _ =>
    simp only [Checked.clean_bind] at h
    obtain ⟨username, husername, husernameText⟩ := readString_read h.2.1
    obtain ⟨password, hpassword, hpasswordText⟩ := readString_read h.2.2.1
    simp only [husername, hpassword, Checked.pure_bind, Checked.value_bind, Checked.value_pure]
    rintro a ⟨⟩
    exact ⟨husernameText, hpasswordText⟩
  · exact absurd h (not_clean_reject _)

theorem parseAuth_written {record : Record} {path : String} {auth : Option InboundAuthConfig}
    (hlookup : record.lookup "auth" = auth.map InboundAuthConfig.toJson) (h : ∀ a ∈ auth, a.Form) :
    parseAuth record path = pure auth := by
  unfold parseAuth
  rw [hlookup]
  cases auth with
  | none => rfl
  | some auth =>
    simp only [Option.map_some, InboundAuthConfig.toJson]
    rw [readOptionalBoolean_written (some auth.enabled) (by simp),
      readString_written auth.username (by simp [lookup_field]) (h auth rfl).username,
      readString_written auth.password (by simp [lookup_field]) (h auth rfl).password]
    rfl

/-- The timeouts and the size that every inbound may have. -/
def inboundOptional (connectTimeoutMs idleTimeoutMs maxHeaderBytes : Option Nat) : Record :=
  optionalField "connectTimeoutMs" numberJson connectTimeoutMs ++
    optionalField "idleTimeoutMs" numberJson idleTimeoutMs ++
    optionalField "maxHeaderBytes" numberJson maxHeaderBytes

def trojanInboundTls (enabled : Bool) (certPath keyPath : Option String) : Record :=
  [("enabled", .boolean enabled)] ++
    optionalField "certPath" .string certPath ++ optionalField "keyPath" .string keyPath

/-- The fields of an inbound beside the optional ones of every type. -/
inductive InboundForm (optional : Record) : String → Option InboundAuthConfig → Record → Prop
  | http (auth : Option InboundAuthConfig) (hauth : ∀ a ∈ auth, a.Form) :
      InboundForm optional "http" auth optional
  | socks5 (auth : Option InboundAuthConfig) (udpAssociate : Option Bool)
      (hauth : ∀ a ∈ auth, a.Form) :
      InboundForm optional "socks5" auth
        (optional ++ optionalField "udpAssociate" .boolean udpAssociate)
  | shadowsocks (method password : String) (udp : Bool) (hmethod : Text method)
      (hknown : SHADOWSOCKS_METHODS.contains method = true) (hpassword : Text password) :
      InboundForm optional "shadowsocks" none
        ([("method", .string method), ("password", .string password), ("udp", .boolean udp)] ++
          optional)
  | trojan (password : String) (enabled : Bool) (certPath keyPath : Option String)
      (hpassword : Text password) (hcert : ∀ s ∈ certPath, Text s) (hkey : ∀ s ∈ keyPath, Text s)
      (hfiles : (enabled && (certPath.isNone || keyPath.isNone)) = false) :
      InboundForm optional "trojan" none
        ([("password", .string password), ("tls", .object (trojanInboundTls enabled certPath keyPath))] ++
          optional)
  | extension (type : String) (options : Record) (htype : isExtensionType type = true) :
      InboundForm optional type none ([("options", .object options)] ++ optional)

structure InboundConfig.Form (inbound : InboundConfig) : Prop where
  type : Text inbound.type
  tag : Text inbound.tag
  listen : Text inbound.listen
  port : Between 0 65535 inbound.port
  fields : ∃ connectTimeoutMs idleTimeoutMs maxHeaderBytes,
    (∀ n ∈ connectTimeoutMs, Between 1 300000 n) ∧ (∀ n ∈ idleTimeoutMs, Between 1 3600000 n) ∧
      (∀ n ∈ maxHeaderBytes, Between 1024 (1024 * 1024) n) ∧
      InboundForm (inboundOptional connectTimeoutMs idleTimeoutMs maxHeaderBytes) inbound.type
        inbound.auth inbound.settings

def InboundConfig.toJson (inbound : InboundConfig) : Json :=
  .object ([("type", .string inbound.type), ("tag", .string inbound.tag),
    ("listen", .string inbound.listen), ("port", numberJson inbound.port)] ++
    optionalField "auth" InboundAuthConfig.toJson inbound.auth ++ inbound.settings)

theorem checkShadowsocksMethod_clean {path name : String} :
    (checkShadowsocksMethod path (some name)).Clean ↔ SHADOWSOCKS_METHODS.contains name = true := by
  unfold checkShadowsocksMethod
  show (if SHADOWSOCKS_METHODS.contains name = true then pure ⟨⟩ else Checked.push _ :
    Checked PUnit).Clean ↔ _
  by_cases h : SHADOWSOCKS_METHODS.contains name = true
  · rw [if_pos h]
    exact iff_of_true rfl h
  · rw [if_neg h]
    exact iff_of_false (Checked.not_clean_push _) h

theorem parseTrojanInboundTls_read {record : Record} {path : String}
    (h : (parseTrojanInboundTls record path).Clean) :
    ∃ enabled certPath keyPath,
      parseTrojanInboundTls record path = pure (trojanInboundTls enabled certPath keyPath) ∧
      (∀ s ∈ certPath, Text s) ∧ (∀ s ∈ keyPath, Text s) ∧
      (enabled && (certPath.isNone || keyPath.isNone)) = false := by
  have hpure := Checked.eq_pure_of_clean h
  unfold parseTrojanInboundTls at h hpure
  split at h
  · next hlookup =>
    refine ⟨false, none, none, ?_, by simp, by simp, rfl⟩
    unfold parseTrojanInboundTls
    rw [hlookup]
    rfl
  · next rawTls hlookup =>
    simp only [Checked.clean_bind] at h
    obtain ⟨enabled, henabled⟩ := readOptionalBoolean_read h.1
    obtain ⟨certPath, hcert, hcertText⟩ := readOptionalString_read h.2.1
    obtain ⟨keyPath, hkey, hkeyText⟩ := readOptionalString_read h.2.2.1
    have hfiles := (Checked.clean_pushIf _ _).mp h.2.2.2.1
    simp only [henabled, hcert, hkey, Checked.value_pure] at hfiles
    refine ⟨enabled.getD false, certPath, keyPath, ?_, hcertText, hkeyText, hfiles⟩
    unfold parseTrojanInboundTls
    simp only [hlookup, henabled, hcert, hkey, Checked.pure_bind, hfiles, Checked.pushIf]
    rfl
  · exact absurd ((Checked.clean_bind _ _).mp h).1 (Checked.not_clean_push _)

theorem parseTrojanInboundTls_written {record : Record} {path : String} {enabled : Bool}
    {certPath keyPath : Option String}
    (hlookup : record.lookup "tls" = some (.object (trojanInboundTls enabled certPath keyPath)))
    (hcert : ∀ s ∈ certPath, Text s) (hkey : ∀ s ∈ keyPath, Text s)
    (hfiles : (enabled && (certPath.isNone || keyPath.isNone)) = false) :
    parseTrojanInboundTls record path = pure (trojanInboundTls enabled certPath keyPath) := by
  unfold parseTrojanInboundTls
  simp only [hlookup]
  rw [readOptionalBoolean_written (some enabled) (by simp [trojanInboundTls]),
    readOptionalString_written certPath
      (by simp [trojanInboundTls, List.lookup_append, lookup_field, lookup_optionalField]) hcert,
    readOptionalString_written keyPath
      (by simp [trojanInboundTls, List.lookup_append, lookup_field, lookup_optionalField]) hkey]
  simp only [Checked.pure_bind, Option.getD_some, hfiles, Checked.pushIf]
  rfl

/-- The fields of a type, whatever the inbound they are added to. -/
theorem parseInboundType_read {record : Record} {path : String} {inbound : InboundConfig}
    (hauth : inbound.auth = none) (h : (parseInboundType record path inbound).Clean) :
    ∃ auth settings, parseInboundType record path inbound =
        pure (some { inbound with auth := auth, settings := settings }) ∧
      InboundForm inbound.settings inbound.type auth settings := by
  obtain ⟨type, tag, listen, port, auth, optional⟩ := inbound
  cases hauth
  unfold parseInboundType at h ⊢
  simp only at h ⊢
  split at h
  · next htype =>
    subst htype
    simp only [Checked.clean_bind] at h
    obtain ⟨auth, hread, hform⟩ := parseAuth_read h.1
    refine ⟨auth, optional, ?_, .http auth hform⟩
    rw [if_pos rfl, hread]
    rfl
  · next hhttp =>
    rw [if_neg hhttp]
    split at h
    · next htype =>
      subst htype
      simp only [Checked.clean_bind] at h
      obtain ⟨udp, hudp⟩ := readOptionalBoolean_read h.1
      obtain ⟨auth, hread, hform⟩ := parseAuth_read h.2.1
      refine ⟨auth, _, ?_, .socks5 auth udp hform⟩
      rw [if_pos rfl, hudp, hread]
      rfl
    · next hsocks =>
      rw [if_neg hsocks]
      split at h
      · next htype =>
        subst htype
        simp only [Checked.clean_bind] at h
        obtain ⟨method, hmethod, hmethodText⟩ := readString_read h.1
        obtain ⟨password, hpassword, hpasswordText⟩ := readString_read h.2.1
        obtain ⟨udp, hudp⟩ := readOptionalBoolean_read h.2.2.1
        have hknown := h.2.2.2.1
        rw [hmethod, Checked.value_pure] at hknown
        refine ⟨none, _, ?_, .shadowsocks method password (udp.getD false) hmethodText
          (checkShadowsocksMethod_clean.mp hknown) hpasswordText⟩
        rw [if_pos rfl, hmethod, hpassword, hudp]
        simp only [Checked.pure_bind]
        rw [Checked.eq_pure_of_clean hknown]
        rfl
      · next hshadowsocks =>
        rw [if_neg hshadowsocks]
        split at h
        · next htype =>
          subst htype
          simp only [Checked.clean_bind] at h
          obtain ⟨password, hpassword, hpasswordText⟩ := readString_read h.1
          obtain ⟨enabled, certPath, keyPath, htls, hcert, hkey, hfiles⟩ :=
            parseTrojanInboundTls_read h.2.1
          refine ⟨none, _, ?_, .trojan password enabled certPath keyPath hpasswordText
            hcert hkey hfiles⟩
          rw [if_pos rfl, hpassword, htls]
          rfl
        · next htrojan =>
          rw [if_neg htrojan]
          split at h
          · next htype =>
            simp only [Checked.clean_bind] at h
            obtain ⟨options, hoptions⟩ := readOptionsRecord_read h.1
            refine ⟨none, _, ?_, .extension type options htype⟩
            rw [if_pos htype, hoptions]
            rfl
          · exact absurd h (not_clean_reject _)

theorem not_extension {type : String} (h : isExtensionType type = true) :
    type ≠ "http" ∧ type ≠ "socks5" ∧ type ≠ "shadowsocks" ∧ type ≠ "trojan" := by
  refine ⟨?_, ?_, ?_, ?_⟩ <;> rintro rfl <;> revert h <;> decide

/-- The fields of a type are read from any record that has them and those of every type. -/
theorem parseInboundType_written {record : Record} {path : String} {inbound : InboundConfig}
    {auth : Option InboundAuthConfig} {settings : Record} (hauth : inbound.auth = none)
    (hoptional : ∀ key ∈ ["auth", "udpAssociate", "method", "password", "udp", "tls", "options"],
      inbound.settings.lookup key = none)
    (hlookupAuth : record.lookup "auth" = auth.map InboundAuthConfig.toJson)
    (hlookup : ∀ key ∈ ["udpAssociate", "method", "password", "udp", "tls", "options"],
      record.lookup key = settings.lookup key)
    (h : InboundForm inbound.settings inbound.type auth settings) :
    parseInboundType record path inbound =
      pure (some { inbound with auth := auth, settings := settings }) := by
  obtain ⟨type, tag, listen, port, auth', optional⟩ := inbound
  cases hauth
  unfold parseInboundType
  simp only at h hoptional ⊢
  cases h with
  | http auth hform =>
    rw [if_pos rfl, parseAuth_written hlookupAuth hform]
    rfl
  | socks5 auth udpAssociate hform =>
    rw [if_neg (by decide), if_pos rfl, parseAuth_written hlookupAuth hform,
      readOptionalBoolean_written udpAssociate]
    · rfl
    · rw [hlookup _ (by simp), List.lookup_append, hoptional _ (by simp), lookup_optionalField]
      simp
  | shadowsocks method password udp hmethod hknown hpassword =>
    rw [if_neg (by decide), if_neg (by decide), if_pos rfl,
      readString_written method (by rw [hlookup _ (by simp)]; simp) hmethod,
      readString_written password (by rw [hlookup _ (by simp)]; simp [lookup_field]) hpassword,
      readOptionalBoolean_written (some udp) (by rw [hlookup _ (by simp)]; simp [lookup_field])]
    simp only [Checked.pure_bind]
    rw [Checked.eq_pure_of_clean (checkShadowsocksMethod_clean.mpr hknown)]
    rfl
  | trojan password enabled certPath keyPath hpassword hcert hkey hfiles =>
    rw [if_neg (by decide), if_neg (by decide), if_neg (by decide), if_pos rfl,
      readString_written password (by rw [hlookup _ (by simp)]; simp) hpassword,
      parseTrojanInboundTls_written (by rw [hlookup _ (by simp)]; simp [lookup_field]) hcert hkey
        hfiles]
    rfl
  | extension type options htype =>
    obtain ⟨hhttp, hsocks, hshadowsocks, htrojan⟩ := not_extension htype
    rw [if_neg hhttp, if_neg hsocks, if_neg hshadowsocks, if_neg htrojan, if_pos htype,
      readOptionsRecord_written options (by rw [hlookup _ (by simp)]; simp)]
    rfl

theorem lookup_inboundOptional (connectTimeoutMs idleTimeoutMs maxHeaderBytes : Option Nat) (key : String) :
    (inboundOptional connectTimeoutMs idleTimeoutMs maxHeaderBytes).lookup key =
      if key = "connectTimeoutMs" then connectTimeoutMs.map numberJson
      else if key = "idleTimeoutMs" then idleTimeoutMs.map numberJson
      else if key = "maxHeaderBytes" then maxHeaderBytes.map numberJson
      else none := by
  simp only [inboundOptional, List.lookup_append, lookup_optionalField]
  by_cases hconnect : key = "connectTimeoutMs"
  · simp [hconnect]
  · by_cases hidle : key = "idleTimeoutMs"
    · simp [hidle]
    · simp [hconnect, hidle]

theorem parseInbound_read {value : Json} {path : String} (h : (parseInbound value path).Clean) :
    ∃ inbound, parseInbound value path = pure (some inbound) ∧ inbound.Form := by
  cases value with
  | object record =>
    unfold parseInbound at h ⊢
    simp only [Checked.clean_bind] at h
    obtain ⟨htype, htag, hlisten, hport, hconnect, hidle, hheader, h⟩ := h
    obtain ⟨type, htype, htypeText⟩ := readString_read htype
    obtain ⟨tag, htag, htagText⟩ := readString_read htag
    obtain ⟨listen, hlisten, hlistenText⟩ := readString_read hlisten
    obtain ⟨port, hport, hportBetween⟩ := readNumber_read hport
    obtain ⟨connectTimeoutMs, hconnect, hconnectBetween⟩ := readOptionalNumber_read hconnect
    obtain ⟨idleTimeoutMs, hidle, hidleBetween⟩ := readOptionalNumber_read hidle
    obtain ⟨maxHeaderBytes, hheader, hheaderBetween⟩ := readOptionalNumber_read hheader
    simp only [htype, htag, hlisten, hport, hconnect, hidle, hheader, Checked.value_pure] at h
    simp only [htype, htag, hlisten, hport, hconnect, hidle, hheader, Checked.pure_bind]
    obtain ⟨auth, settings, hread, hform⟩ := parseInboundType_read rfl h
    exact ⟨_, hread, htypeText, htagText, hlistenText, hportBetween,
      connectTimeoutMs, idleTimeoutMs, maxHeaderBytes, hconnectBetween, hidleBetween,
      hheaderBetween, hform⟩
  | _ => exact absurd h (not_clean_reject _)

/-- What a record of a type has beside the fields of every type. -/
theorem InboundForm.lookup_settings {optional : Record} {type : String}
    {auth : Option InboundAuthConfig} {settings : Record} (h : InboundForm optional type auth settings) :
    (∀ key ∈ ["type", "tag", "listen", "port", "auth"], optional.lookup key = none →
      settings.lookup key = none) ∧
    ∀ key ∈ ["connectTimeoutMs", "idleTimeoutMs", "maxHeaderBytes"],
      settings.lookup key = optional.lookup key := by
  cases h with
  | http auth hauth => exact ⟨fun _ _ hnone => hnone, fun _ _ => rfl⟩
  | _ =>
    constructor
    · intro key hkey hnone
      simp only [List.mem_cons, List.not_mem_nil, or_false] at hkey
      rcases hkey with rfl | rfl | rfl | rfl | rfl <;>
        simp [List.lookup_append, lookup_field, lookup_optionalField, hnone]
    · intro key hkey
      simp only [List.mem_cons, List.not_mem_nil, or_false] at hkey
      rcases hkey with rfl | rfl | rfl <;>
        simp [List.lookup_append, lookup_field, lookup_optionalField]

theorem parseInbound_written {inbound : InboundConfig} (h : inbound.Form) (path : String) :
    parseInbound inbound.toJson path = pure (some inbound) := by
  obtain ⟨connectTimeoutMs, idleTimeoutMs, maxHeaderBytes, hconnect, hidle, hheader, hform⟩ := h.fields
  obtain ⟨hnone, hoptional⟩ := hform.lookup_settings
  have hlookup (key : String) :
      ([("type", .string inbound.type), ("tag", .string inbound.tag),
        ("listen", .string inbound.listen), ("port", numberJson inbound.port)] ++
        optionalField "auth" InboundAuthConfig.toJson inbound.auth ++ inbound.settings : Record).lookup key =
      if key = "type" then some (.string inbound.type)
      else if key = "tag" then some (.string inbound.tag)
      else if key = "listen" then some (.string inbound.listen)
      else if key = "port" then some (numberJson inbound.port)
      else (if key = "auth" then inbound.auth.map InboundAuthConfig.toJson else none).or
        (inbound.settings.lookup key) := by
    simp only [List.cons_append, List.nil_append, lookup_field, List.lookup_append,
      lookup_optionalField]
  unfold parseInbound InboundConfig.toJson
  simp only
  rw [readString_written inbound.type (by rw [hlookup]; simp) h.type,
    readString_written inbound.tag (by rw [hlookup]; simp) h.tag,
    readString_written inbound.listen (by rw [hlookup]; simp) h.listen,
    readNumber_written inbound.port (by rw [hlookup]; simp) h.port,
    readOptionalNumber_written connectTimeoutMs
      (by rw [hlookup, hoptional _ (by simp), lookup_inboundOptional]; simp) hconnect,
    readOptionalNumber_written idleTimeoutMs
      (by rw [hlookup, hoptional _ (by simp), lookup_inboundOptional]; simp) hidle,
    readOptionalNumber_written maxHeaderBytes
      (by rw [hlookup, hoptional _ (by simp), lookup_inboundOptional]; simp) hheader]
  simp only [Checked.pure_bind]
  refine parseInboundType_written rfl ?_ ?_ ?_ hform
  · intro key hkey
    simp only [List.mem_cons, List.not_mem_nil, or_false] at hkey
    show (inboundOptional _ _ _).lookup key = none
    rw [lookup_inboundOptional]
    rcases hkey with rfl | rfl | rfl | rfl | rfl | rfl | rfl <;> simp
  · rw [hlookup, hnone "auth" (by simp) (by rw [lookup_inboundOptional]; simp)]
    simp
  · intro key hkey
    simp only [List.mem_cons, List.not_mem_nil, or_false] at hkey
    rw [hlookup]
    rcases hkey with rfl | rfl | rfl | rfl | rfl | rfl <;> simp

/-! ## Outbounds -/

def trojanOutboundTls (enabled rejectUnauthorized : Bool) (serverName : Option String) : Record :=
  [("enabled", .boolean enabled), ("rejectUnauthorized", .boolean rejectUnauthorized)] ++
    optionalField "serverName" .string serverName

def wireguardPeer (publicKey endpointHost : String) (endpointPort : Nat) (allowedIps : List String) :
    Record :=
  [("publicKey", .string publicKey), ("endpointHost", .string endpointHost),
    ("endpointPort", numberJson endpointPort), ("allowedIps", stringsJson allowedIps)]

/-- The fields of an outbound that depend on its type. -/
inductive OutboundForm : String → Record → Prop
  | direct : OutboundForm "direct" []
  | block (reason : Option String) (hreason : ∀ s ∈ reason, Text s) :
      OutboundForm "block" (optionalField "reason" .string reason)
  | tcpRelay (targetHost : String) (targetPort : Nat) (hhost : Text targetHost)
      (hport : Between 1 65535 targetPort) :
      OutboundForm "tcpRelay"
        [("targetHost", .string targetHost), ("targetPort", numberJson targetPort)]
  | shadowsocks (serverHost : String) (serverPort : Nat) (method password : String)
      (hhost : Text serverHost) (hport : Between 1 65535 serverPort) (hmethod : Text method)
      (hknown : SHADOWSOCKS_METHODS.contains method = true) (hpassword : Text password) :
      OutboundForm "shadowsocks"
        [("serverHost", .string serverHost), ("serverPort", numberJson serverPort),
          ("method", .string method), ("password", .string password)]
  | trojan (serverHost : String) (serverPort : Nat) (password : String)
      (enabled rejectUnauthorized : Bool) (serverName : Option String)
      (hhost : Text serverHost) (hport : Between 1 65535 serverPort) (hpassword : Text password)
      (hname : ∀ s ∈ serverName, Text s) :
      OutboundForm "trojan"
        [("serverHost", .string serverHost), ("serverPort", numberJson serverPort),
          ("password", .string password),
          ("tls", .object (trojanOutboundTls enabled rejectUnauthorized serverName))]
  | wireguard (privateKey : String) (address : List String) (publicKey endpointHost : String)
      (endpointPort : Nat) (allowedIps : List String) (reserved : Option (List Nat))
      (hprivate : Text privateKey) (haddress : Items address) (hpublic : Text publicKey)
      (hhost : Text endpointHost) (hport : Between 1 65535 endpointPort) (hallowed : Items allowedIps)
      (hreserved : ∀ bytes ∈ reserved, ∀ n ∈ bytes, Between 0 255 n) :
      OutboundForm "wireguard"
        ([("privateKey", .string privateKey), ("address", stringsJson address),
          ("peer", .object (wireguardPeer publicKey endpointHost endpointPort allowedIps))] ++
          optionalField "reserved" numbersJson reserved)
  | extension (type : String) (options : Record) (htype : isExtensionType type = true) :
      OutboundForm type [("options", .object options)]

structure OutboundSection.Form (outbound : OutboundSection) : Prop where
  type : Text outbound.type
  tag : Text outbound.tag
  fields : ∃ settings connectTimeoutMs idleTimeoutMs,
    (∀ n ∈ connectTimeoutMs, Between 1 300000 n) ∧ (∀ n ∈ idleTimeoutMs, Between 1 3600000 n) ∧
      OutboundForm outbound.type settings ∧
      outbound.settings = settings ++ optionalField "connectTimeoutMs" numberJson connectTimeoutMs ++
        optionalField "idleTimeoutMs" numberJson idleTimeoutMs

def OutboundSection.toJson (outbound : OutboundSection) : Json :=
  .object ([("type", .string outbound.type), ("tag", .string outbound.tag)] ++ outbound.settings)

theorem parseTrojanOutboundTls_read {record : Record} {path : String}
    (h : (parseTrojanOutboundTls record path).Clean) :
    ∃ enabled rejectUnauthorized serverName, parseTrojanOutboundTls record path =
        pure (trojanOutboundTls enabled rejectUnauthorized serverName) ∧
      ∀ s ∈ serverName, Text s := by
  unfold parseTrojanOutboundTls at h ⊢
  split at h
  · exact ⟨true, true, none, rfl, by simp⟩
  · simp only [Checked.clean_bind] at h
    obtain ⟨enabled, henabled⟩ := readOptionalBoolean_read h.1
    obtain ⟨reject, hreject⟩ := readOptionalBoolean_read h.2.1
    obtain ⟨serverName, hname, hnameText⟩ := readOptionalString_read h.2.2.1
    simp only [henabled, hreject, hname, Checked.pure_bind]
    exact ⟨enabled.getD true, reject.getD true, serverName, rfl, hnameText⟩
  · exact absurd ((Checked.clean_bind _ _).mp h).1 (Checked.not_clean_push _)

theorem parseTrojanOutboundTls_written {record : Record} {path : String}
    (enabled rejectUnauthorized : Bool) {serverName : Option String}
    (hlookup : record.lookup "tls" =
      some (.object (trojanOutboundTls enabled rejectUnauthorized serverName)))
    (hname : ∀ s ∈ serverName, Text s) :
    parseTrojanOutboundTls record path =
      pure (trojanOutboundTls enabled rejectUnauthorized serverName) := by
  unfold parseTrojanOutboundTls
  simp only [hlookup]
  rw [readOptionalBoolean_written (some enabled) (by simp [trojanOutboundTls]),
    readOptionalBoolean_written (some rejectUnauthorized)
      (by simp [trojanOutboundTls, lookup_field]),
    readOptionalString_written serverName
      (by simp [trojanOutboundTls, lookup_field, lookup_optionalField]) hname]
  rfl

theorem parseWireguard_read {record : Record} {path : String} (h : (parseWireguard record path).Clean)
    {settings : Record} (hvalue : (parseWireguard record path).value = some settings) :
    OutboundForm "wireguard" settings := by
  unfold parseWireguard at h hvalue
  simp only [Checked.clean_bind] at h
  obtain ⟨hprivate, haddress, h⟩ := h
  obtain ⟨privateKey, hprivate, hprivateText⟩ := readString_read hprivate
  obtain ⟨address, haddress, haddressItems⟩ := readStringArray_read haddress
  simp only [hprivate, haddress, Checked.pure_bind] at hvalue
  split at h
  · next rawPeer hpeer =>
    simp only [Checked.clean_bind] at h
    obtain ⟨hpublic, hhost, hport, hallowed, hreserved, -⟩ := h
    obtain ⟨publicKey, hpublic, hpublicText⟩ := readString_read hpublic
    obtain ⟨endpointHost, hhost, hhostText⟩ := readString_read hhost
    obtain ⟨endpointPort, hport, hportBetween⟩ := readNumber_read hport
    obtain ⟨allowedIps, hallowed, hallowedItems⟩ := readStringArray_read hallowed
    obtain ⟨reserved, hreserved, hreservedBetween⟩ := readByteArray_read hreserved
    simp only [hpeer, hpublic, hhost, hport, hallowed, hreserved, Checked.pure_bind] at hvalue
    cases address with
    | none => cases hvalue
    | some address =>
      cases allowedIps with
      | none => cases hvalue
      | some allowedIps =>
        cases hvalue
        exact .wireguard privateKey address publicKey endpointHost endpointPort allowedIps reserved
          hprivateText (haddressItems address rfl) hpublicText hhostText hportBetween
          (hallowedItems allowedIps rfl) hreservedBetween
  · exact absurd h (not_clean_reject _)

/-- Where no field is missing and nothing is complained about, the fields have the form. -/
theorem parseOutboundType_read {record : Record} {type path : String}
    (h : (parseOutboundType record type path).Clean) {settings : Record}
    (hvalue : (parseOutboundType record type path).value = some settings) :
    OutboundForm type settings := by
  unfold parseOutboundType at h hvalue
  split at h
  · next htype =>
    subst htype
    rw [if_pos rfl] at hvalue
    cases hvalue
    exact .direct
  · next hdirect =>
    rw [if_neg hdirect] at hvalue
    split at h
    · next htype =>
      subst htype
      simp only [Checked.clean_bind] at h
      obtain ⟨reason, hreason, hreasonText⟩ := readOptionalString_read h.1
      rw [if_pos rfl, hreason] at hvalue
      cases hvalue
      exact .block reason hreasonText
    · next hblock =>
      rw [if_neg hblock] at hvalue
      split at h
      · next htype =>
        subst htype
        simp only [Checked.clean_bind] at h
        obtain ⟨targetHost, hhost, hhostText⟩ := readString_read h.1
        obtain ⟨targetPort, hport, hportBetween⟩ := readNumber_read h.2.1
        rw [if_pos rfl, hhost, hport] at hvalue
        cases hvalue
        exact .tcpRelay targetHost targetPort hhostText hportBetween
      · next hrelay =>
        rw [if_neg hrelay] at hvalue
        split at h
        · next htype =>
          subst htype
          simp only [Checked.clean_bind] at h
          obtain ⟨serverHost, hhost, hhostText⟩ := readString_read h.1
          obtain ⟨serverPort, hport, hportBetween⟩ := readNumber_read h.2.1
          obtain ⟨method, hmethod, hmethodText⟩ := readString_read h.2.2.1
          obtain ⟨password, hpassword, hpasswordText⟩ := readString_read h.2.2.2.1
          have hknown := h.2.2.2.2.1
          rw [hmethod, Checked.value_pure] at hknown
          rw [if_pos rfl, hhost, hport, hmethod, hpassword] at hvalue
          cases hvalue
          exact .shadowsocks serverHost serverPort method password hhostText hportBetween hmethodText
            (checkShadowsocksMethod_clean.mp hknown) hpasswordText
        · next hshadowsocks =>
          rw [if_neg hshadowsocks] at hvalue
          split at h
          · next htype =>
            subst htype
            simp only [Checked.clean_bind] at h
            obtain ⟨serverHost, hhost, hhostText⟩ := readString_read h.1
            obtain ⟨serverPort, hport, hportBetween⟩ := readNumber_read h.2.1
            obtain ⟨password, hpassword, hpasswordText⟩ := readString_read h.2.2.1
            obtain ⟨enabled, reject, serverName, htls, hname⟩ := parseTrojanOutboundTls_read h.2.2.2.1
            rw [if_pos rfl, hhost, hport, hpassword, htls] at hvalue
            cases hvalue
            exact .trojan serverHost serverPort password enabled reject serverName hhostText
              hportBetween hpasswordText hname
          · next htrojan =>
            rw [if_neg htrojan] at hvalue
            split at h
            · next htype =>
              subst htype
              rw [if_pos rfl] at hvalue
              exact parseWireguard_read h hvalue
            · next hwireguard =>
              rw [if_neg hwireguard] at hvalue
              split at h
              · next htype =>
                simp only [Checked.clean_bind] at h
                obtain ⟨options, hoptions⟩ := readOptionsRecord_read h.1
                rw [if_pos htype, hoptions] at hvalue
                cases hvalue
                exact .extension type options htype
              · exact absurd h (not_clean_reject _)

theorem not_extension_outbound {type : String} (h : isExtensionType type = true) :
    type ≠ "direct" ∧ type ≠ "block" ∧ type ≠ "tcpRelay" ∧ type ≠ "shadowsocks" ∧ type ≠ "trojan" ∧
      type ≠ "wireguard" := by
  refine ⟨?_, ?_, ?_, ?_, ?_, ?_⟩ <;> rintro rfl <;> revert h <;> decide

theorem parseWireguard_written {record : Record} {path privateKey : String} {address : List String}
    {publicKey endpointHost : String} {endpointPort : Nat} {allowedIps : List String}
    {reserved : Option (List Nat)} (hprivate : Text privateKey) (haddress : Items address)
    (hpublic : Text publicKey) (hhost : Text endpointHost) (hport : Between 1 65535 endpointPort)
    (hallowed : Items allowedIps) (hreserved : ∀ bytes ∈ reserved, ∀ n ∈ bytes, Between 0 255 n)
    (hlookupPrivate : record.lookup "privateKey" = some (.string privateKey))
    (hlookupAddress : record.lookup "address" = some (stringsJson address))
    (hlookupPeer : record.lookup "peer" =
      some (.object (wireguardPeer publicKey endpointHost endpointPort allowedIps)))
    (hlookupReserved : record.lookup "reserved" = reserved.map numbersJson) :
    parseWireguard record path =
      pure (some ([("privateKey", .string privateKey), ("address", stringsJson address),
        ("peer", .object (wireguardPeer publicKey endpointHost endpointPort allowedIps))] ++
        optionalField "reserved" numbersJson reserved)) := by
  unfold parseWireguard
  rw [readString_written privateKey hlookupPrivate hprivate,
    readStringArray_written (some address) hlookupAddress (by simpa using haddress)]
  simp only [Checked.pure_bind, hlookupPeer]
  rw [readString_written publicKey (by simp [wireguardPeer]) hpublic,
    readString_written endpointHost (by simp [wireguardPeer, lookup_field]) hhost,
    readNumber_written endpointPort (by simp [wireguardPeer, lookup_field]) hport,
    readStringArray_written (some allowedIps) (by simp [wireguardPeer, lookup_field])
      (by simpa using hallowed),
    readByteArray_written reserved hlookupReserved hreserved]
  rfl

theorem parseOutboundType_written {record : Record} {type path : String} {settings : Record}
    (hlookup : ∀ key ∈ ["reason", "targetHost", "targetPort", "serverHost", "serverPort", "method",
      "password", "tls", "privateKey", "address", "peer", "reserved", "options"],
      record.lookup key = settings.lookup key)
    (h : OutboundForm type settings) :
    parseOutboundType record type path = pure (some settings) := by
  unfold parseOutboundType
  cases h with
  | direct => exact if_pos rfl
  | block reason hreason =>
    rw [if_neg (by decide), if_pos rfl, readOptionalString_written reason
      (by rw [hlookup _ (by simp), lookup_optionalField]; simp) hreason]
    rfl
  | tcpRelay targetHost targetPort hhost hport =>
    rw [if_neg (by decide), if_neg (by decide), if_pos rfl,
      readString_written targetHost (by rw [hlookup _ (by simp)]; simp) hhost,
      readNumber_written targetPort (by rw [hlookup _ (by simp)]; simp [lookup_field]) hport]
    rfl
  | shadowsocks serverHost serverPort method password hhost hport hmethod hknown hpassword =>
    rw [if_neg (by decide), if_neg (by decide), if_neg (by decide), if_pos rfl,
      readString_written serverHost (by rw [hlookup _ (by simp)]; simp) hhost,
      readNumber_written serverPort (by rw [hlookup _ (by simp)]; simp [lookup_field]) hport,
      readString_written method (by rw [hlookup _ (by simp)]; simp [lookup_field]) hmethod,
      readString_written password (by rw [hlookup _ (by simp)]; simp [lookup_field]) hpassword]
    simp only [Checked.pure_bind]
    rw [Checked.eq_pure_of_clean (checkShadowsocksMethod_clean.mpr hknown)]
    rfl
  | trojan serverHost serverPort password enabled reject serverName hhost hport hpassword hname =>
    rw [if_neg (by decide), if_neg (by decide), if_neg (by decide), if_neg (by decide), if_pos rfl,
      readString_written serverHost (by rw [hlookup _ (by simp)]; simp) hhost,
      readNumber_written serverPort (by rw [hlookup _ (by simp)]; simp [lookup_field]) hport,
      readString_written password (by rw [hlookup _ (by simp)]; simp [lookup_field]) hpassword,
      parseTrojanOutboundTls_written enabled reject
        (by rw [hlookup _ (by simp)]; simp [lookup_field]) hname]
    rfl
  | wireguard privateKey address publicKey endpointHost endpointPort allowedIps reserved hprivate
      haddress hpublic hhost hport hallowed hreserved =>
    rw [if_neg (by decide), if_neg (by decide), if_neg (by decide), if_neg (by decide),
      if_neg (by decide), if_pos rfl]
    refine parseWireguard_written hprivate haddress hpublic hhost hport hallowed hreserved ?_ ?_ ?_ ?_
    · rw [hlookup _ (by simp)]
      simp
    · rw [hlookup _ (by simp)]
      simp [lookup_field]
    · rw [hlookup _ (by simp)]
      simp [lookup_field]
    · rw [hlookup _ (by simp)]
      simp [lookup_field, lookup_optionalField]
  | extension type options htype =>
    obtain ⟨hdirect, hblock, hrelay, hshadowsocks, htrojan, hwireguard⟩ := not_extension_outbound htype
    rw [if_neg hdirect, if_neg hblock, if_neg hrelay, if_neg hshadowsocks, if_neg htrojan,
      if_neg hwireguard, if_pos htype,
      readOptionsRecord_written options (by rw [hlookup _ (by simp)]; simp)]
    rfl

/-- An outbound that is left out without a complaint has no value. -/
theorem parseOutbound_read {value : Json} {path : String} (h : (parseOutbound value path).Clean)
    {outbound : OutboundSection} (hvalue : (parseOutbound value path).value = some outbound) :
    outbound.Form := by
  cases value with
  | object record =>
    unfold parseOutbound at h hvalue
    simp only [Checked.clean_bind] at h
    obtain ⟨htype, htag, hconnect, hidle, h⟩ := h
    obtain ⟨type, htype, htypeText⟩ := readString_read htype
    obtain ⟨tag, htag, htagText⟩ := readString_read htag
    obtain ⟨connectTimeoutMs, hconnect, hconnectBetween⟩ := readOptionalNumber_read hconnect
    obtain ⟨idleTimeoutMs, hidle, hidleBetween⟩ := readOptionalNumber_read hidle
    simp only [htype, htag, Checked.value_pure, Checked.clean_bind] at h
    simp only [htype, htag, hconnect, hidle, Checked.pure_bind, Checked.value_bind,
      Checked.value_pure] at hvalue
    obtain ⟨settings, hsettings, rfl⟩ := Option.map_eq_some_iff.mp hvalue
    exact ⟨htypeText, htagText, settings, connectTimeoutMs, idleTimeoutMs, hconnectBetween,
      hidleBetween, parseOutboundType_read h.1 hsettings, rfl⟩
  | _ => exact absurd h (not_clean_reject _)

theorem OutboundForm.lookup_none {type : String} {settings : Record} (h : OutboundForm type settings) :
    ∀ key ∈ ["type", "tag", "connectTimeoutMs", "idleTimeoutMs"], settings.lookup key = none := by
  intro key hkey
  simp only [List.mem_cons, List.not_mem_nil, or_false] at hkey
  cases h <;> rcases hkey with rfl | rfl | rfl | rfl <;> simp [lookup_field, lookup_optionalField]

theorem parseOutbound_written {outbound : OutboundSection} (h : outbound.Form) (path : String) :
    parseOutbound outbound.toJson path = pure (some outbound) := by
  obtain ⟨type, tag, fields⟩ := outbound
  obtain ⟨htype, htag, settings, connectTimeoutMs, idleTimeoutMs, hconnect, hidle, hform, hfields⟩ := h
  simp only at htype htag hform hfields
  subst hfields
  have hnone := hform.lookup_none
  have hlookup (key : String) :
      ([("type", .string type), ("tag", .string tag)] ++
        (settings ++ optionalField "connectTimeoutMs" numberJson connectTimeoutMs ++
          optionalField "idleTimeoutMs" numberJson idleTimeoutMs) : Record).lookup key =
      if key = "type" then some (.string type)
      else if key = "tag" then some (.string tag)
      else ((settings.lookup key).or
        (if key = "connectTimeoutMs" then connectTimeoutMs.map numberJson else none)).or
          (if key = "idleTimeoutMs" then idleTimeoutMs.map numberJson else none) := by
    simp only [List.cons_append, List.nil_append, lookup_field, List.lookup_append,
      lookup_optionalField]
  unfold parseOutbound OutboundSection.toJson
  simp only
  rw [readString_written type (by rw [hlookup]; simp) htype,
    readString_written tag (by rw [hlookup]; simp) htag,
    readOptionalNumber_written connectTimeoutMs
      (by rw [hlookup, hnone _ (by simp)]; simp) hconnect,
    readOptionalNumber_written idleTimeoutMs (by rw [hlookup, hnone _ (by simp)]; simp) hidle]
  simp only [Checked.pure_bind]
  rw [parseOutboundType_written ?_ hform]
  · rfl
  · intro key hkey
    simp only [List.mem_cons, List.not_mem_nil, or_false] at hkey
    rw [hlookup]
    rcases hkey with rfl | rfl | rfl | rfl | rfl | rfl | rfl | rfl | rfl | rfl | rfl | rfl | rfl <;>
      simp

end Sepigs
