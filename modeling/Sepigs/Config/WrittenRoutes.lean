import Sepigs.Config.WrittenProxies
import Sepigs.Router.GenerationConstruction
import Sepigs.Router.Routing

/-!
# Routes written again (`parseRouter` in `config/schema.ts`)

A rule that was read has its geo tags and what they stand for.  Read again it has the entries of
its tags once more.
-/

namespace Sepigs

/-! ## Loops -/

theorem forEach_of_pure {α : Type} {f : Nat → α → Checked PUnit} {items : List α}
    (h : ∀ i, ∀ item ∈ items, f i item = pure ⟨⟩) : forEach f items = pure ⟨⟩ := by
  unfold forEach
  rw [Checked.collect_of_pure (g := fun _ => ([] : List Nat)) fun i item hmem => by rw [h i item hmem]; rfl]
  rfl

section Arrays

variable {α : Type} {parse : Json → String → Checked (Option α)}

/-- Items that are each read from what they are written as. -/
theorem parseAll_append_written (path : String) (items : List Json) {toJson : α → Json} {again : α → α}
    {values : List α} (h : ∀ a ∈ values, ∀ p, parse (toJson a) p = pure (some (again a))) :
    parseAll parse path (items ++ values.map toJson) = (do
      let first ← parseAll parse path items
      pure (first ++ values.map again)) := by
  unfold parseAll
  rw [Checked.collect_append_of_pure (g := fun item => (parse item "").value.toList) _ items]
  · rw [List.flatMap_map]
    have hagain : values.flatMap (fun a => (parse (toJson a) "").value.toList) = values.map again := by
      rw [List.map_eq_flatMap]
      exact List.flatMap_congr fun a ha => by rw [h a ha, Checked.value_pure, Option.toList_some]
    rw [hagain]
  · intro i item hitem
    obtain ⟨a, ha, rfl⟩ := List.mem_map.mp hitem
    rw [h a ha, h a ha]
    rfl

theorem parseAll_written (path : String) {toJson : α → Json} {values : List α}
    (h : ∀ a ∈ values, ∀ p, parse (toJson a) p = pure (some a)) :
    parseAll parse path (values.map toJson) = pure values := by
  have happend := parseAll_append_written path [] h
  rw [List.nil_append, List.map_id'] at happend
  exact happend

theorem parseOptionalArray_written {rawRoute : Record} {key : String} {toJson : α → Json}
    {values : List α} (hlookup : rawRoute.lookup key = some (.array (values.map toJson)))
    (h : ∀ a ∈ values, ∀ p, parse (toJson a) p = pure (some a)) :
    parseOptionalArray parse rawRoute key = pure values := by
  unfold parseOptionalArray
  rw [hlookup]
  exact parseAll_written _ h

theorem parseOptionalArray_read {rawRoute : Record} {key : String} {P : α → Prop}
    (hparse : ∀ item p, (parse item p).Clean → ∀ a, (parse item p).value = some a → P a)
    (h : (parseOptionalArray parse rawRoute key).Clean) :
    ∀ a ∈ (parseOptionalArray parse rawRoute key).value, P a := by
  obtain ⟨items, hclean, hvalue⟩ := parseOptionalArray_clean h
  intro a ha
  rw [hvalue] at ha
  obtain ⟨item, p, hitem, hsome⟩ := mem_parseAll hclean ha
  exact hparse item p hitem a hsome

end Arrays

/-! ## Rules -/

section Rules

variable {node : Node}

structure RouteRuleConfig.Form (node : Node) (geo : GeoConfig) (rule : RouteRuleConfig) : Prop where
  outboundTag : Text rule.outboundTag
  tag : ∀ s ∈ rule.tag, Text s
  domain : ∀ list ∈ rule.domain, Items list
  domainSuffix : ∀ list ∈ rule.domainSuffix, Items list
  ipCidr : ∀ list ∈ rule.ipCidr, Items list
  geoIp : ∀ list ∈ rule.geoIp, Items list
  geoSite : ∀ list ∈ rule.geoSite, Items list
  port : ∀ list ∈ rule.port, ∀ n ∈ list, Between 1 65535 n
  knownIp : ∀ tag ∈ rule.geoIp.getD [], (geo.geoip.get (node.toLowerCase tag)).isSome
  knownSite : ∀ tag ∈ rule.geoSite.getD [], (geo.geosite.get (node.toLowerCase tag)).isSome
  ips : ∀ entry ∈ expandTags node geo.geoip (rule.geoIp.getD []), entry ∈ rule.ipCidr.getD []
  sites : ∀ entry ∈ expandTags node geo.geosite (rule.geoSite.getD []),
    entry ∈ rule.domainSuffix.getD []
  valid : ∀ cidr ∈ rule.ipCidr.getD [], isValidCidr node cidr = true

theorem RouteRuleConfig.Form.valid_again {geo : GeoConfig} {rule : RouteRuleConfig}
    (h : rule.Form node geo) :
    ∀ cidr ∈ rule.ipCidr.getD [] ++ expandTags node geo.geoip (rule.geoIp.getD []),
      isValidCidr node cidr = true := by
  intro cidr hcidr
  rcases List.mem_append.mp hcidr with hcidr | hcidr
  · exact h.valid cidr hcidr
  · exact h.valid cidr (h.ips cidr hcidr)

def RouteRuleConfig.fields (rule : RouteRuleConfig) : Record :=
  [("outboundTag", .string rule.outboundTag)] ++ optionalField "tag" .string rule.tag ++
    optionalField "domain" stringsJson rule.domain ++
    optionalField "domainSuffix" stringsJson rule.domainSuffix ++
    optionalField "ipCidr" stringsJson rule.ipCidr ++ optionalField "geoIp" stringsJson rule.geoIp ++
    optionalField "geoSite" stringsJson rule.geoSite ++ optionalField "port" numbersJson rule.port

def RouteRuleConfig.toJson (rule : RouteRuleConfig) : Json := .object rule.fields

/-- The rule with the entries of its tags added once more. -/
def RouteRuleConfig.again (node : Node) (geo : GeoConfig) (rule : RouteRuleConfig) : RouteRuleConfig :=
  { rule with
    domainSuffix := ifAny
      (rule.domainSuffix.getD [] ++ expandTags node geo.geosite (rule.geoSite.getD []))
    ipCidr := ifAny (rule.ipCidr.getD [] ++ expandTags node geo.geoip (rule.geoIp.getD [])) }

theorem expandGeo_read {table : JsMap String (List String)} {field kind path : String}
    {tags : Option (List String)} (h : (expandGeo node table field kind path tags).Clean) :
    ∀ tag ∈ tags.getD [], (table.get (node.toLowerCase tag)).isSome := by
  cases tags with
  | none => simp
  | some tags =>
    intro tag htag
    obtain ⟨i, hclean⟩ := Checked.collect_clean h tag htag
    cases hget : table.get (node.toLowerCase tag) with
    | none =>
      rw [hget] at hclean
      exact absurd ((Checked.clean_bind _ _).mp hclean).1 (Checked.not_clean_push _)
    | some values => rfl

theorem expandGeo_written {table : JsMap String (List String)} {field kind path : String}
    {tags : Option (List String)}
    (h : ∀ tag ∈ tags.getD [], (table.get (node.toLowerCase tag)).isSome) :
    expandGeo node table field kind path tags = pure (expandTags node table (tags.getD [])) := by
  cases tags with
  | none => rfl
  | some tags =>
    refine Checked.collect_of_pure fun i tag htag => ?_
    obtain ⟨values, hvalues⟩ := Option.isSome_iff_exists.mp (h tag htag)
    rw [hvalues]
    rfl

theorem items_expandTags {table : JsMap String (List String)} (h : TableForm node table)
    (tags : List String) : Items (expandTags node table tags) := by
  intro s hs
  obtain ⟨tag, -, hmem⟩ := List.mem_flatMap.mp hs
  cases hget : table.get (node.toLowerCase tag) with
  | none =>
    rw [hget] at hmem
    cases hmem
  | some values =>
    rw [hget] at hmem
    exact (h _ ((table.get_eq_some_iff _ _).mp hget)).2 s hmem

theorem items_ifAny {values more : List String} (hvalues : Items values) (hmore : Items more) :
    ∀ list ∈ ifAny (values ++ more), Items list := by
  intro list hlist s hs
  rw [← (ifAny_eq_some_iff.mp hlist).2] at hs
  rcases List.mem_append.mp hs with hs | hs
  · exact hvalues s hs
  · exact hmore s hs

theorem items_getD {values : Option (List String)} (h : ∀ list ∈ values, Items list) :
    Items (values.getD []) := getD_of_forall h (by rintro s ⟨⟩)

theorem parseRouteRule_read {geo : GeoConfig} (hgeo : geo.Form node) {value : Json} {path : String}
    (h : (parseRouteRule node geo value path).Clean) {rule : RouteRuleConfig}
    (hvalue : (parseRouteRule node geo value path).value = some rule) : rule.Form node geo := by
  obtain ⟨hgiven, hvalid⟩ := parseRouteRule_clean h
  have hrule : rule = (givenRule value).config node geo := Option.some.inj (hvalue.symm.trans hgiven)
  cases value with
  | object fields =>
    simp only [parseRouteRule, Checked.clean_bind] at h
    obtain ⟨htag, h⟩ := h
    obtain ⟨outboundTag, houtbound, houtboundText⟩ := readString_read htag
    simp only [houtbound, Checked.value_pure, Checked.clean_bind] at h
    obtain ⟨hruleTag, hdomain, hsuffix, hcidr, hgeoIp, hgeoSite, hport, hip, hsite, hcidrs, -⟩ := h
    obtain ⟨tag, hruleTag, htagText⟩ := readOptionalString_read hruleTag
    obtain ⟨domain, hdomain, hdomainItems⟩ := readStringArray_read hdomain
    obtain ⟨suffix, hsuffix, hsuffixItems⟩ := readStringArray_read hsuffix
    obtain ⟨cidr, hcidr, hcidrItems⟩ := readStringArray_read hcidr
    obtain ⟨geoIp, hgeoIp, hgeoIpItems⟩ := readStringArray_read hgeoIp
    obtain ⟨geoSite, hgeoSite, hgeoSiteItems⟩ := readStringArray_read hgeoSite
    obtain ⟨port, hport, hportBetween⟩ := readPortArray_read hport
    simp only [hgeoIp, hgeoSite, Checked.value_pure] at hip hsite
    have hexpandedIp := @expandGeo_written node geo.geoip "geoIp" "GeoIp" path geoIp (expandGeo_read hip)
    have hexpandedSite := @expandGeo_written node geo.geosite "geoSite" "GeoSite" path geoSite
      (expandGeo_read hsite)
    simp only [parseRouteRule, houtbound, hruleTag, hdomain, hsuffix, hcidr, hgeoIp, hgeoSite, hport,
      expandGeoIp, expandGeoSite, hexpandedIp, hexpandedSite, Checked.pure_bind, Checked.value_bind,
      Checked.value_pure] at hvalue
    rw [← hrule] at hvalid
    cases hvalue
    refine ⟨houtboundText, htagText, hdomainItems,
      items_ifAny (items_getD hsuffixItems) (items_expandTags hgeo.geosite _),
      items_ifAny (items_getD hcidrItems) (items_expandTags hgeo.geoip _), hgeoIpItems, hgeoSiteItems,
      hportBetween, expandGeo_read hip, expandGeo_read hsite, ?_, ?_, hvalid⟩
    -- what the tags stand for is among the entries already
    · intro entry hentry
      rw [ifAny_getD]
      exact List.mem_append_right _ hentry
    · intro entry hentry
      rw [ifAny_getD]
      exact List.mem_append_right _ hentry
  | _ => exact absurd h (not_clean_reject _)

theorem parseRouteRule_written {geo : GeoConfig} {rule : RouteRuleConfig} (h : rule.Form node geo)
    (path : String) :
    parseRouteRule node geo rule.toJson path = pure (some (rule.again node geo)) := by
  have houtbound : readString rule.fields "outboundTag" path = pure (some rule.outboundTag) :=
    readString_written rule.outboundTag (by simp [RouteRuleConfig.fields]) h.outboundTag
  have htag : readOptionalString rule.fields "tag" path = pure rule.tag :=
    readOptionalString_written rule.tag
      (by simp [RouteRuleConfig.fields, List.lookup_append, lookup_field, lookup_optionalField]) h.tag
  have hdomain : readStringArray rule.fields "domain" path = pure rule.domain :=
    readStringArray_written rule.domain
      (by simp [RouteRuleConfig.fields, List.lookup_append, lookup_field, lookup_optionalField]) h.domain
  have hsuffix : readStringArray rule.fields "domainSuffix" path = pure rule.domainSuffix :=
    readStringArray_written rule.domainSuffix
      (by simp [RouteRuleConfig.fields, List.lookup_append, lookup_field, lookup_optionalField])
      h.domainSuffix
  have hcidr : readStringArray rule.fields "ipCidr" path = pure rule.ipCidr :=
    readStringArray_written rule.ipCidr
      (by simp [RouteRuleConfig.fields, List.lookup_append, lookup_field, lookup_optionalField]) h.ipCidr
  have hgeoIp : readStringArray rule.fields "geoIp" path = pure rule.geoIp :=
    readStringArray_written rule.geoIp
      (by simp [RouteRuleConfig.fields, List.lookup_append, lookup_field, lookup_optionalField]) h.geoIp
  have hgeoSite : readStringArray rule.fields "geoSite" path = pure rule.geoSite :=
    readStringArray_written rule.geoSite
      (by simp [RouteRuleConfig.fields, List.lookup_append, lookup_field, lookup_optionalField]) h.geoSite
  have hport : readPortArray rule.fields "port" path = pure rule.port :=
    readPortArray_written rule.port
      (by simp [RouteRuleConfig.fields, List.lookup_append, lookup_field, lookup_optionalField]) h.port
  have hexpandedIp := @expandGeo_written node geo.geoip "geoIp" "GeoIp" path rule.geoIp h.knownIp
  have hexpandedSite := @expandGeo_written node geo.geosite "geoSite" "GeoSite" path rule.geoSite
    h.knownSite
  simp only [parseRouteRule, RouteRuleConfig.toJson, houtbound, htag, hdomain, hsuffix, hcidr, hgeoIp,
    hgeoSite, hport, expandGeoIp, expandGeoSite, hexpandedIp, hexpandedSite, Checked.pure_bind]
  rw [forEach_of_pure fun i cidr hcidr => if_pos (h.valid_again cidr hcidr), Checked.pure_bind,
    RouteRuleConfig.again]

end Rules

/-! ## Rule-set files and policies -/

structure RouteRuleSetFileConfig.Form (ruleSet : RouteRuleSetFileConfig) : Prop where
  tag : Text ruleSet.tag
  path : Text ruleSet.path
  outboundTag : Text ruleSet.outboundTag

def RouteRuleSetFileConfig.toJson (ruleSet : RouteRuleSetFileConfig) : Json :=
  .object [("tag", .string ruleSet.tag), ("path", .string ruleSet.path),
    ("outboundTag", .string ruleSet.outboundTag)]

theorem parseRouteRuleSetFile_read {value : Json} {path : String}
    (h : (parseRouteRuleSetFile value path).Clean) {ruleSet : RouteRuleSetFileConfig}
    (hvalue : (parseRouteRuleSetFile value path).value = some ruleSet) : ruleSet.Form := by
  cases value with
  | object record =>
    simp only [parseRouteRuleSetFile, Checked.clean_bind] at h
    obtain ⟨htag, hpath, houtbound, -⟩ := h
    obtain ⟨tag, htag, htagText⟩ := readString_read htag
    obtain ⟨filePath, hpath, hpathText⟩ := readString_read hpath
    obtain ⟨outboundTag, houtbound, houtboundText⟩ := readString_read houtbound
    simp only [parseRouteRuleSetFile, htag, hpath, houtbound, Checked.pure_bind, Checked.value_pure]
      at hvalue
    cases hvalue
    exact ⟨htagText, hpathText, houtboundText⟩
  | _ => exact absurd h (not_clean_reject _)

theorem parseRouteRuleSetFile_written {ruleSet : RouteRuleSetFileConfig} (h : ruleSet.Form)
    (path : String) : parseRouteRuleSetFile ruleSet.toJson path = pure (some ruleSet) := by
  simp only [parseRouteRuleSetFile, RouteRuleSetFileConfig.toJson]
  rw [readString_written ruleSet.tag (by simp) h.tag,
    readString_written ruleSet.path (by simp [lookup_field]) h.path,
    readString_written ruleSet.outboundTag (by simp [lookup_field]) h.outboundTag]
  simp only [Checked.pure_bind]

theorem RoutingPolicyType.text_spec (type : RoutingPolicyType) :
    Text type.text ∧ routingPolicyType type.text = some type := by
  cases type <;> exact ⟨by decide, rfl⟩

theorem LoadBalanceStrategy.text_spec (strategy : LoadBalanceStrategy) :
    loadBalanceStrategy (.string strategy.text) = some strategy := by
  cases strategy <;> rfl

structure RoutingPolicyConfig.Form (policy : RoutingPolicyConfig) : Prop where
  tag : Text policy.tag
  outbounds : Items policy.outbounds
  nonempty : policy.outbounds.isEmpty = false
  unhealthyAfterFailures : Between 1 1000 policy.unhealthyAfterFailures
  recoverAfterMs : Between 1 3600000 policy.recoverAfterMs

def RoutingPolicyConfig.toJson (policy : RoutingPolicyConfig) : Json :=
  .object [("tag", .string policy.tag), ("type", .string policy.type.text),
    ("outbounds", stringsJson policy.outbounds), ("strategy", .string policy.strategy.text),
    ("unhealthyAfterFailures", numberJson policy.unhealthyAfterFailures),
    ("recoverAfterMs", numberJson policy.recoverAfterMs)]

/-- A policy without outbounds is left out without a complaint. -/
theorem parseRoutingPolicy_read {value : Json} {path : String}
    (h : (parseRoutingPolicy value path).Clean) {policy : RoutingPolicyConfig}
    (hvalue : (parseRoutingPolicy value path).value = some policy) : policy.Form := by
  cases value with
  | object record =>
    simp only [parseRoutingPolicy, Checked.clean_bind] at h
    obtain ⟨htag, htype, houtbounds, hpolicyType, hstrategy, h⟩ := h
    obtain ⟨tag, htag, htagText⟩ := readString_read htag
    obtain ⟨type, htype, htypeText⟩ := readString_read htype
    obtain ⟨outbounds, houtbounds, houtboundsItems⟩ := readStringArray_read houtbounds
    simp only [parseRoutingPolicy, htag, htype, houtbounds, Checked.pure_bind, Checked.value_bind,
      Checked.value_pure] at h hvalue
    cases outbounds with
    | none => cases hvalue
    | some outbounds =>
      simp only [Checked.clean_bind, Checked.value_bind, Checked.value_pure] at h hvalue
      obtain ⟨hempty, hunhealthy, hrecover, -⟩ := h
      obtain ⟨unhealthy, hunhealthy, hunhealthyBetween⟩ := readOptionalNumber_read hunhealthy
      obtain ⟨recover, hrecover, hrecoverBetween⟩ := readOptionalNumber_read hrecover
      rw [hunhealthy, hrecover] at hvalue
      obtain ⟨policyType, -, rfl⟩ := Option.map_eq_some_iff.mp hvalue
      exact ⟨htagText, houtboundsItems outbounds rfl, (Checked.clean_pushIf _ _).mp hempty,
        getD_of_forall hunhealthyBetween (by decide), getD_of_forall hrecoverBetween (by decide)⟩
  | _ => exact absurd h (not_clean_reject _)

theorem parseRoutingPolicy_written {policy : RoutingPolicyConfig} (h : policy.Form) (path : String) :
    parseRoutingPolicy policy.toJson path = pure (some policy) := by
  obtain ⟨htype, hpolicyType⟩ := policy.type.text_spec
  simp only [parseRoutingPolicy, RoutingPolicyConfig.toJson]
  rw [readString_written policy.tag (by simp) h.tag,
    readString_written policy.type.text (by simp [lookup_field]) htype,
    readStringArray_written (some policy.outbounds) (by simp [lookup_field])
      (by simpa using h.outbounds)]
  simp only [Checked.pure_bind, lookup_field, Option.bind_some, hpolicyType, if_true,
    Option.isSome_some, Option.isNone_some, Bool.and_false, h.nonempty, Checked.pushIf]
  rw [readOptionalNumber_written (some policy.unhealthyAfterFailures) (by simp [lookup_field])
      (by simpa using h.unhealthyAfterFailures),
    readOptionalNumber_written (some policy.recoverAfterMs) (by simp [lookup_field])
      (by simpa using h.recoverAfterMs)]
  simp [Checked.pure_bind, policy.strategy.text_spec]

/-! ## The router -/

section Routers

variable {node : Node}

structure RouterConfig.Form (node : Node) (geo : GeoConfig) (route : RouterConfig) : Prop where
  defaultOutbound : Text route.defaultOutbound
  rules : ∀ rule ∈ route.rules, rule.Form node geo
  ruleSetFiles : ∀ ruleSet ∈ route.ruleSetFiles, ruleSet.Form
  policies : ∀ policy ∈ route.policies, policy.Form

/-- `{ ...route, rules: [...expandedRules, ...route.rules] }` -/
def RouterConfig.withRules (expandedRules : List Json) (route : RouterConfig) : Json :=
  .object [("defaultOutbound", .string route.defaultOutbound),
    ("rules", .array (expandedRules ++ route.rules.map RouteRuleConfig.toJson)),
    ("ruleSetFiles", .array (route.ruleSetFiles.map RouteRuleSetFileConfig.toJson)),
    ("policies", .array (route.policies.map RoutingPolicyConfig.toJson))]

/-- The route that is read from `withRules`. -/
def RouterConfig.expanded (node : Node) (geo : GeoConfig) (route : RouterConfig)
    (rules : List RouteRuleConfig) : RouterConfig :=
  { route with rules := rules ++ route.rules.map fun rule => rule.again node geo }

theorem parseRouter_read {geo : GeoConfig} (hgeo : geo.Form node) {root : Record}
    (h : (parseRouter node root geo).Clean) {route : RouterConfig}
    (hvalue : (parseRouter node root geo).value = some route) : route.Form node geo := by
  unfold parseRouter at h hvalue
  split at h
  · next rawRoute hroute =>
    rw [hroute] at hvalue
    rw [Checked.clean_bind] at h
    obtain ⟨hdefault, h⟩ := h
    obtain ⟨defaultOutbound, hdefault, hdefaultText⟩ := readString_read hdefault
    split at h
    · next items hrules =>
      simp only [Checked.clean_bind] at h
      obtain ⟨hrulesClean, hsets, hpolicies, -⟩ := h
      simp only [hdefault, hrules, Checked.pure_bind, Checked.value_bind, Checked.value_pure,
        Option.map_some] at hvalue
      cases hvalue
      refine ⟨hdefaultText, ?_, ?_, ?_⟩
      · intro rule hrule
        obtain ⟨item, p, hitem, hsome⟩ := mem_parseAll hrulesClean hrule
        exact parseRouteRule_read hgeo hitem hsome
      · exact parseOptionalArray_read (fun item p hclean _ => parseRouteRuleSetFile_read hclean) hsets
      · exact parseOptionalArray_read (fun item p hclean _ => parseRoutingPolicy_read hclean) hpolicies
    · exact absurd h (not_clean_reject _)
  · exact absurd h (not_clean_reject _)

theorem parseRouter_expanded {geo : GeoConfig} {root : Record} {route : RouterConfig}
    {expandedRules : List Json} (hlookup : root.lookup "route" = some (route.withRules expandedRules))
    (h : route.Form node geo) :
    parseRouter node root geo = (do
      let rules ← parseAll (parseRouteRule node geo) "route.rules" expandedRules
      pure (some (route.expanded node geo rules))) := by
  simp only [parseRouter, hlookup, RouterConfig.withRules]
  rw [readString_written route.defaultOutbound (by simp) h.defaultOutbound,
    parseOptionalArray_written (by simp [lookup_field])
      (fun ruleSet hmem p => parseRouteRuleSetFile_written (h.ruleSetFiles ruleSet hmem) p),
    parseOptionalArray_written (by simp [lookup_field])
      (fun policy hmem p => parseRoutingPolicy_written (h.policies policy hmem) p)]
  simp only [lookup_field, String.reduceEq, if_false, if_true, Checked.pure_bind]
  rw [parseAll_append_written "route.rules" expandedRules
    (fun rule hmem p => parseRouteRule_written (h.rules rule hmem) p), Checked.bind_assoc]
  rfl

end Routers

end Sepigs
