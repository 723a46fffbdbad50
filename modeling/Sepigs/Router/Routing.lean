import Sepigs.Config.Accepted

/-!
# Rules and the router (`router/rules.ts`, `router/router.ts`)

A rule of the config matches when every condition given in it holds, and the first rule
that matches names the target.  Parsing and compiling keep the conditions apart from one
kind: a list of suffixes or of CIDRs that comes out empty is left out.
-/

namespace Sepigs

structure RouteMatch where
  ruleTag : Option String
  outboundTag : String
deriving DecidableEq, Repr

structure CompiledRouteRule where
  config : RouteRuleConfig
  exactDomains : Option (List String)
  suffixes : List String
  cidrs : List CidrMatcher
  ports : Option (List Nat)
deriving DecidableEq, Repr

structure RouteResult where
  outboundTag : String
  ruleTag : Option String
  matched : Bool
deriving DecidableEq, Repr

structure Router where
  defaultOutbound : String
  rules : List CompiledRouteRule
deriving DecidableEq, Repr

section Matching

variable (node : Node)

namespace CompiledRouteRule

/-- The fields of the constructor, once the matchers are made. -/
def fields (config : RouteRuleConfig) (cidrs : List CidrMatcher) : CompiledRouteRule where
  config := config
  exactDomains := config.domain.map fun domains => domains.map (normalizeDomain node)
  suffixes := config.domainSuffix.getD []
  cidrs := cidrs
  ports := config.port

def create (config : RouteRuleConfig) : Except ConfigError CompiledRouteRule := do
  let cidrs ← (config.ipCidr.getD []).mapM (CidrMatcher.create node)
  pure (fields node config cidrs)

def matchRequest (rule : CompiledRouteRule) (destination : Destination) : Option RouteMatch :=
  if rule.exactDomains.any fun domains => !matchesExactDomain node destination.host domains then
    none
  else if 0 < rule.suffixes.length && !matchesDomainSuffix node destination.host rule.suffixes then
    none
  else if 0 < rule.cidrs.length &&
      !rule.cidrs.any fun matcher => matcher.matchesHost node destination.host then
    none
  else if rule.ports.any fun ports => !ports.contains destination.port then none
  else some ⟨rule.config.tag, rule.config.outboundTag⟩

end CompiledRouteRule

namespace Router

def create (config : RouterConfig) : Except ConfigError Router := do
  let rules ← config.rules.mapM (CompiledRouteRule.create node)
  pure ⟨config.defaultOutbound, rules⟩

def matchRequest (router : Router) (destination : Destination) : RouteResult :=
  match router.rules.findSome? fun rule => rule.matchRequest node destination with
  | some found => ⟨found.outboundTag, found.ruleTag, true⟩
  | none => ⟨router.defaultOutbound, none, false⟩

end Router

/-! ## What a rule says -/

/-- A rule as it stands in the config, before any list of it is expanded. -/
structure GivenRule where
  outboundTag : String
  tag : Option String
  domain : Option (List String)
  domainSuffix : Option (List String)
  ipCidr : Option (List String)
  geoIp : Option (List String)
  geoSite : Option (List String)
  port : Option (List Nat)
deriving DecidableEq, Repr

def givenRule (value : Json) : GivenRule :=
  let fields : Record := match value with
    | .object fields => fields
    | _ => []
  { outboundTag := ((fields.lookup "outboundTag").bind nonBlank).getD ""
    tag := (fields.lookup "tag").bind nonBlank
    domain := givenStrings fields "domain"
    domainSuffix := givenStrings fields "domainSuffix"
    ipCidr := givenStrings fields "ipCidr"
    geoIp := givenStrings fields "geoIp"
    geoSite := givenStrings fields "geoSite"
    port := givenPorts fields "port" }

/-- The conditions of a rule; a list that was not given is no condition. -/
structure RuleConditions where
  domains : Option (List String)
  suffixes : Option (List String)
  cidrs : Option (List String)
  ports : Option (List Nat)
deriving DecidableEq, Repr

/-- The entries that geo tags stand for. -/
def expandTags (table : JsMap String (List String)) (tags : List String) : List String :=
  tags.flatMap fun tag => (table.get (node.toLowerCase tag)).getD []

/-- Given entries and expanded tags are one condition when either list was given. -/
def mergeGiven (given tags : Option (List String)) (table : JsMap String (List String)) :
    Option (List String) :=
  if given.isNone && tags.isNone then none
  else some (given.getD [] ++ expandTags node table (tags.getD []))

def GivenRule.conditions (rule : GivenRule) (geo : GeoConfig) : RuleConditions where
  domains := rule.domain
  suffixes := mergeGiven node rule.domainSuffix rule.geoSite geo.geosite
  cidrs := mergeGiven node rule.ipCidr rule.geoIp geo.geoip
  ports := rule.port

/-- The host is an address that the text of a CIDR covers. -/
def InCidr (host cidr : String) : Prop :=
  ∃ matcher, CidrMatcher.create node cidr = .ok matcher ∧ matcher.Contains node host

/-- Every condition that was given holds. -/
structure RuleConditions.Hold (conditions : RuleConditions) (destination : Destination) : Prop where
  domain : ∀ domains ∈ conditions.domains,
    ∃ domain ∈ domains, normalizeDomain node domain = normalizeDomain node destination.host
  suffix : ∀ suffixes ∈ conditions.suffixes,
    ∃ suffix ∈ suffixes, InsideDomain node destination.host suffix
  cidr : ∀ cidrs ∈ conditions.cidrs, ∃ cidr ∈ cidrs, InCidr node destination.host cidr
  port : ∀ ports ∈ conditions.ports, destination.port ∈ ports

/-- The documented target: the first rule whose conditions hold, or the default. -/
inductive Decides (Hold : GivenRule → Prop) (defaultOutbound : String) :
    List GivenRule → String → Prop
  | default : Decides Hold defaultOutbound [] defaultOutbound
  | here {rule : GivenRule} {rules : List GivenRule} (h : Hold rule) :
      Decides Hold defaultOutbound (rule :: rules) rule.outboundTag
  | later {rule : GivenRule} {rules : List GivenRule} {target : String} (h : ¬ Hold rule)
      (hrules : Decides Hold defaultOutbound rules target) :
      Decides Hold defaultOutbound (rule :: rules) target

/-! ## What is left out -/

namespace RuleConditions

/-- The conditions without the lists of suffixes and of CIDRs that have no entry. -/
def kept (conditions : RuleConditions) : RuleConditions :=
  { conditions with
    suffixes := conditions.suffixes.bind ifAny
    cidrs := conditions.cidrs.bind ifAny }

/-- A list of suffixes or of CIDRs was given, and nothing is in it. -/
def Void (conditions : RuleConditions) : Prop :=
  conditions.suffixes = some [] ∨ conditions.cidrs = some []

end RuleConditions

/-- A rule with an empty list is reached, its other conditions hold, and its target is not the
one that the rules after it lead to. -/
inductive Overreaches (geo : GeoConfig) (destination : Destination) (defaultOutbound : String) :
    List GivenRule → Prop
  | here {rule : GivenRule} {rules : List GivenRule} (hvoid : (rule.conditions node geo).Void)
      (hkept : (rule.conditions node geo).kept.Hold node destination)
      (hrules : ¬ Decides (fun r => (r.conditions node geo).Hold node destination) defaultOutbound
        rules rule.outboundTag) :
      Overreaches geo destination defaultOutbound (rule :: rules)
  | later {rule : GivenRule} {rules : List GivenRule}
      (hkept : ¬ (rule.conditions node geo).kept.Hold node destination)
      (hrules : Overreaches geo destination defaultOutbound rules) :
      Overreaches geo destination defaultOutbound (rule :: rules)

end Matching

/-! ## Parsing and compiling a rule -/

section Compiling

variable {node : Node}

theorem ifAny_eq_some_iff {values values' : List String} :
    ifAny values = some values' ↔ values ≠ [] ∧ values = values' := by
  unfold ifAny
  split
  · next h => simp [List.length_pos_iff.mp h]
  · next h => simp [List.length_eq_zero_iff.mp (Nat.le_zero.mp (Nat.not_lt.mp h))]

theorem ifAny_getD (values : List String) : (ifAny values).getD [] = values := by
  unfold ifAny
  split
  · rfl
  · next h => exact (List.length_eq_zero_iff.mp (by omega)).symm

theorem mergeGiven_kept (given tags : Option (List String)) (table : JsMap String (List String)) :
    (mergeGiven node given tags table).bind ifAny =
      ifAny (given.getD [] ++ expandTags node table (tags.getD [])) := by
  unfold mergeGiven
  cases given with
  | some values => rfl
  | none =>
    cases tags with
    | some values => rfl
    | none => rfl

/-- An empty list can match nothing; without one, the kept conditions are all of them. -/
theorem RuleConditions.hold_iff {conditions : RuleConditions} {destination : Destination} :
    conditions.Hold node destination ↔
      conditions.kept.Hold node destination ∧ ¬ conditions.Void := by
  have hbind {values : Option (List String)} (hne : values ≠ some []) :
      values.bind ifAny = values := by
    cases values with
    | none => rfl
    | some list =>
      have hlist : list ≠ [] := fun h => hne (congrArg some h)
      exact ifAny_eq_some_iff.mpr ⟨hlist, rfl⟩
  have hsub {values : Option (List String)} {list : List String}
      (h : list ∈ values.bind ifAny) : list ∈ values := by
    obtain ⟨list', hlist', hany⟩ := Option.bind_eq_some_iff.mp h
    rw [hlist', (ifAny_eq_some_iff.mp hany).2]
    rfl
  constructor
  · intro h
    refine ⟨⟨h.domain, fun list hlist => h.suffix list (hsub hlist),
      fun list hlist => h.cidr list (hsub hlist), h.port⟩, ?_⟩
    rintro (hvoid | hvoid)
    · obtain ⟨suffix, hmem, -⟩ := h.suffix [] hvoid
      cases hmem
    · obtain ⟨cidr, hmem, -⟩ := h.cidr [] hvoid
      cases hmem
  · rintro ⟨h, hvoid⟩
    have hsuffixes := hbind fun hnil => hvoid (Or.inl hnil)
    have hcidrs := hbind fun hnil => hvoid (Or.inr hnil)
    refine ⟨h.domain, fun list hlist => h.suffix list ?_, fun list hlist => h.cidr list ?_,
      h.port⟩
    · exact (congrArg (list ∈ ·) hsuffixes).mpr hlist
    · exact (congrArg (list ∈ ·) hcidrs).mpr hlist

theorem expandGeo_clean {table : JsMap String (List String)} {field kind path : String}
    {tags : Option (List String)} (h : (expandGeo node table field kind path tags).Clean) :
    (expandGeo node table field kind path tags).value =
      expandTags node table (tags.getD []) := by
  cases tags with
  | none => rfl
  | some tags =>
    refine Checked.value_collect ?_ h
    intro i tag hclean
    cases hget : table.get (node.toLowerCase tag) with
    | none =>
      rw [hget] at hclean
      exact absurd ((Checked.clean_bind _ _).mp hclean).1 (Checked.not_clean_push _)
    | some values => rfl

/-- What `parseRouteRule` makes of a rule. -/
def GivenRule.config (rule : GivenRule) (node : Node) (geo : GeoConfig) : RouteRuleConfig where
  outboundTag := rule.outboundTag
  tag := rule.tag
  domain := rule.domain
  domainSuffix := (rule.conditions node geo).kept.suffixes
  ipCidr := (rule.conditions node geo).kept.cidrs
  geoIp := rule.geoIp
  geoSite := rule.geoSite
  port := rule.port

theorem parseRouteRule_clean {geo : GeoConfig} {value : Json} {path : String}
    (h : (parseRouteRule node geo value path).Clean) :
    (parseRouteRule node geo value path).value = some ((givenRule value).config node geo) ∧
      ∀ cidr ∈ ((givenRule value).config node geo).ipCidr.getD [], isValidCidr node cidr = true := by
  cases value with
  | object fields =>
    simp only [parseRouteRule, Checked.clean_bind] at h
    obtain ⟨htag, h⟩ := h
    obtain ⟨outboundTag, hlookup, hvalue⟩ := readString_clean htag
    simp only [hvalue, Checked.clean_bind] at h
    obtain ⟨hruleTag, hdomain, hsuffix, hcidr, hgeoIp, hgeoSite, hport, hip, hsite, hvalid, -⟩ := h
    have hcidrs : (readStringArray fields "ipCidr" path).value.getD [] ++
        (expandGeoIp node (readStringArray fields "geoIp" path).value geo path).value =
        ((givenRule (.object fields)).config node geo).ipCidr.getD [] := by
      show _ = ((mergeGiven node _ _ _).bind ifAny).getD []
      rw [mergeGiven_kept, ifAny_getD, readStringArray_clean hcidr, expandGeoIp,
        expandGeo_clean hip, readStringArray_clean hgeoIp]
      rfl
    constructor
    · simp only [parseRouteRule, Checked.value_bind, hvalue, Checked.value_pure,
        GivenRule.config, RuleConditions.kept, GivenRule.conditions, mergeGiven_kept]
      rw [readOptionalString_clean hruleTag, readStringArray_clean hdomain,
        readStringArray_clean hsuffix, readStringArray_clean hcidr, expandGeoIp, expandGeoSite,
        expandGeo_clean hip, expandGeo_clean hsite, readStringArray_clean hgeoIp,
        readStringArray_clean hgeoSite, readPortArray_clean hport]
      simp only [givenRule, hlookup, Option.getD_some]
    · rw [← hcidrs]
      intro cidr hmem
      obtain ⟨i, hclean⟩ := forEach_clean hvalid cidr hmem
      split at hclean
      · assumption
      · exact absurd hclean (Checked.not_clean_push _)
  | _ => exact absurd h (not_clean_reject _)

/-- A loop that constructs something of each item, where every construction succeeds. -/
theorem mapM_ok {α β : Type} (create : α → Except ConfigError β) {R : α → β → Prop}
    (items : List α) (h : ∀ item ∈ items, ∃ made, create item = .ok made ∧ R item made) :
    ∃ made, items.mapM create = .ok made ∧ List.Forall₂ R items made := by
  induction items with
  | nil => exact ⟨[], rfl, List.Forall₂.nil⟩
  | cons item items ih =>
    obtain ⟨first, hfirst, hR⟩ := h item List.mem_cons_self
    obtain ⟨rest, hrest, hforall⟩ := ih fun other hmem => h other (List.mem_cons_of_mem _ hmem)
    refine ⟨first :: rest, ?_, List.Forall₂.cons hR hforall⟩
    rw [List.mapM_cons, hfirst, hrest]
    rfl

theorem isValidCidr_iff {cidr : String} :
    isValidCidr node cidr = true ↔ ∃ matcher, CidrMatcher.create node cidr = .ok matcher := by
  unfold isValidCidr
  cases CidrMatcher.create node cidr with
  | ok matcher => simp
  | error error => simp

theorem exists_matcher_iff {host : String} {cidrs : List String} {matchers : List CidrMatcher}
    (h : List.Forall₂ (fun cidr matcher => CidrMatcher.create node cidr = .ok matcher) cidrs
      matchers) :
    (∃ matcher ∈ matchers, matcher.Contains node host) ↔ ∃ cidr ∈ cidrs, InCidr node host cidr := by
  induction h with
  | nil => simp
  | cons hfirst _ ih =>
    simp only [List.exists_mem_cons_iff, ih]
    refine or_congr_left ?_
    constructor
    · exact fun hcontains => ⟨_, hfirst, hcontains⟩
    · rintro ⟨matcher, hmatcher, hcontains⟩
      cases hfirst.symm.trans hmatcher
      exact hcontains

/-- A list that is a condition only where it has an entry. -/
theorem forall_ifAny_iff {values : List String} {p : List String → Prop} :
    (∀ values' ∈ ifAny values, p values') ↔ values = [] ∨ p values := by
  constructor
  · intro h
    by_cases hnil : values = []
    · exact Or.inl hnil
    · exact Or.inr (h values (ifAny_eq_some_iff.mpr ⟨hnil, rfl⟩))
  · rintro (hnil | hp) values' hmem
    · exact absurd hnil (ifAny_eq_some_iff.mp hmem).1
    · exact (ifAny_eq_some_iff.mp hmem).2 ▸ hp

/-- A guard on a list that was given. -/
theorem any_not_iff {α : Type} (values : Option (List α)) {check : List α → Bool}
    {p : List α → Prop} (h : ∀ list, check list = true ↔ p list) :
    values.any (fun list => !check list) = true ↔ ¬ ∀ list ∈ values, p list := by
  cases values with
  | none => simp
  | some list => simp [← h]

/-- A guard on a list that is a condition where it has an entry. -/
theorem length_and_not_iff {α : Type} (list : List α) {check : Bool} {p : Prop}
    (h : check = true ↔ p) : (decide (0 < list.length) && !check) = true ↔ ¬ (list = [] ∨ p) := by
  rw [Bool.and_eq_true, decide_eq_true_eq, List.length_pos_iff, Bool.not_eq_true',
    ← Bool.not_eq_true, h, not_or]

/-- None of the guards of `match` turns the request away. -/
structure CompiledRouteRule.Accepts (node : Node) (rule : CompiledRouteRule)
    (destination : Destination) : Prop where
  domain : ∀ domains ∈ rule.exactDomains,
    matchesExactDomain node destination.host domains = true
  suffix : rule.suffixes = [] ∨ matchesDomainSuffix node destination.host rule.suffixes = true
  cidr : rule.cidrs = [] ∨
    rule.cidrs.any (fun matcher => matcher.matchesHost node destination.host) = true
  port : ∀ ports ∈ rule.ports, ports.contains destination.port = true

theorem CompiledRouteRule.matchRequest_spec (rule : CompiledRouteRule)
    (destination : Destination) :
    (rule.Accepts node destination → rule.matchRequest node destination =
      some ⟨rule.config.tag, rule.config.outboundTag⟩) ∧
    (¬ rule.Accepts node destination → rule.matchRequest node destination = none) := by
  have hdomain := any_not_iff rule.exactDomains fun domains =>
    Iff.refl (matchesExactDomain node destination.host domains = true)
  have hsuffix := length_and_not_iff rule.suffixes
    (Iff.refl (matchesDomainSuffix node destination.host rule.suffixes = true))
  have hcidr := length_and_not_iff rule.cidrs
    (Iff.refl (rule.cidrs.any (fun matcher => matcher.matchesHost node destination.host) = true))
  have hport := any_not_iff rule.ports fun ports =>
    Iff.refl (ports.contains destination.port = true)
  unfold CompiledRouteRule.matchRequest
  constructor
  · intro h
    rw [if_neg fun hguard => hdomain.mp hguard h.domain,
      if_neg fun hguard => hsuffix.mp hguard h.suffix,
      if_neg fun hguard => hcidr.mp hguard h.cidr, if_neg fun hguard => hport.mp hguard h.port]
  · intro h
    split
    · rfl
    · next hd =>
      split
      · rfl
      · next hs =>
        split
        · rfl
        · next hc =>
          split
          · rfl
          · next hp =>
            refine absurd ⟨?_, ?_, ?_, ?_⟩ h
            · exact Decidable.not_not.mp fun hn => hd (hdomain.mpr hn)
            · exact Decidable.not_not.mp fun hn => hs (hsuffix.mpr hn)
            · exact Decidable.not_not.mp fun hn => hc (hcidr.mpr hn)
            · exact Decidable.not_not.mp fun hn => hp (hport.mpr hn)

/-- A compiled rule accepts what the kept conditions of the rule hold of. -/
theorem accepts_fields_iff {geo : GeoConfig} {rule : GivenRule} {matchers : List CidrMatcher}
    (hmatchers : List.Forall₂ (fun cidr matcher => CidrMatcher.create node cidr = .ok matcher)
      ((rule.config node geo).ipCidr.getD []) matchers) (destination : Destination) :
    (CompiledRouteRule.fields node (rule.config node geo) matchers).Accepts node destination ↔
      (rule.conditions node geo).kept.Hold node destination := by
  have hnil : matchers = [] ↔ (rule.config node geo).ipCidr.getD [] = [] := by
    rw [← List.length_eq_zero_iff, ← List.length_eq_zero_iff, hmatchers.length_eq]
  have hkept {values : Option (List String)} {p : List String → Prop} :
      (∀ list ∈ values.bind ifAny, p list) ↔
        (values.bind ifAny).getD [] = [] ∨ p ((values.bind ifAny).getD []) := by
    cases values with
    | none => simp
    | some list => rw [Option.bind_some, forall_ifAny_iff, ifAny_getD]
  have hdomain : (∀ domains ∈ rule.domain.map fun domains => domains.map (normalizeDomain node),
      matchesExactDomain node destination.host domains = true) ↔ ∀ domains ∈ rule.domain,
        ∃ domain ∈ domains, normalizeDomain node domain = normalizeDomain node destination.host := by
    simp only [Option.mem_map, forall_exists_index, and_imp, forall_apply_eq_imp_iff₂,
      matchesExactDomain_iff]
  have hcidr : (matchers = [] ∨
      matchers.any (fun matcher => matcher.matchesHost node destination.host) = true) ↔
        ∀ cidrs ∈ (rule.conditions node geo).kept.cidrs,
          ∃ cidr ∈ cidrs, InCidr node destination.host cidr := by
    rw [RuleConditions.kept, hkept, hnil, List.any_eq_true]
    simp only [CidrMatcher.matchesHost_iff]
    rw [exists_matcher_iff hmatchers]
    rfl
  have hsuffix : ((rule.conditions node geo).kept.suffixes.getD [] = [] ∨
      matchesDomainSuffix node destination.host
        ((rule.conditions node geo).kept.suffixes.getD []) = true) ↔
        ∀ suffixes ∈ (rule.conditions node geo).kept.suffixes,
          ∃ suffix ∈ suffixes, InsideDomain node destination.host suffix := by
    rw [RuleConditions.kept, hkept, matchesDomainSuffix_iff]
  constructor
  · intro h
    refine ⟨hdomain.mp h.domain, hsuffix.mp h.suffix, hcidr.mp h.cidr, fun ports hports => ?_⟩
    exact List.contains_iff_mem.mp (h.port ports hports)
  · intro h
    refine ⟨hdomain.mpr h.domain, hsuffix.mpr h.suffix, hcidr.mpr h.cidr, fun ports hports => ?_⟩
    exact List.contains_iff_mem.mpr (h.port ports hports)

/-- What compiling the rules in order gives. -/
structure Compiled (node : Node) (geo : GeoConfig) (rule : GivenRule)
    (compiled : CompiledRouteRule) : Prop where
  holds : ∀ destination, (rule.conditions node geo).kept.Hold node destination →
    compiled.matchRequest node destination = some ⟨rule.tag, rule.outboundTag⟩
  fails : ∀ destination, ¬ (rule.conditions node geo).kept.Hold node destination →
    compiled.matchRequest node destination = none

theorem create_config {geo : GeoConfig} {rule : GivenRule}
    (hvalid : ∀ cidr ∈ (rule.config node geo).ipCidr.getD [], isValidCidr node cidr = true) :
    ∃ compiled, CompiledRouteRule.create node (rule.config node geo) = .ok compiled ∧
      Compiled node geo rule compiled := by
  obtain ⟨matchers, hmatchers, hforall⟩ := mapM_ok (CidrMatcher.create node) _ fun cidr hmem =>
    (isValidCidr_iff.mp (hvalid cidr hmem)).imp fun _ hmade => ⟨hmade, hmade⟩
  refine ⟨CompiledRouteRule.fields node (rule.config node geo) matchers, ?_, ?_, ?_⟩
  · unfold CompiledRouteRule.create
    rw [hmatchers]
    rfl
  · intro destination hhold
    exact (CompiledRouteRule.matchRequest_spec _ destination).1
      ((accepts_fields_iff hforall destination).mpr hhold)
  · intro destination hhold
    refine (CompiledRouteRule.matchRequest_spec _ destination).2 fun haccepts => ?_
    exact hhold ((accepts_fields_iff hforall destination).mp haccepts)

/-- The rules of a config as they were given. -/
def givenRules (input : Json) : List GivenRule :=
  match input with
  | .object fields => (rawRules fields).map givenRule
  | _ => []

theorem RouteRead.rules_given {geo : GeoConfig} {input : Record} {route : RouterConfig}
    (h : RouteRead node geo input route) :
    route.rules = (givenRules (.object input)).map (fun rule => rule.config node geo) ∧
      ∀ rule ∈ givenRules (.object input),
        ∀ cidr ∈ (rule.config node geo).ipCidr.getD [], isValidCidr node cidr = true := by
  obtain ⟨hvalue, hclean⟩ := parseAll_clean
    (g := fun value => some ((givenRule value).config node geo))
    (fun value path hvalue => (parseRouteRule_clean hvalue).1) h.rules
  constructor
  · rw [h.rules_eq, hvalue, List.filterMap_eq_map', givenRules, List.map_map]
    rfl
  · intro rule hmem
    obtain ⟨value, hvalueMem, rfl⟩ := List.mem_map.mp hmem
    obtain ⟨path, hpath⟩ := hclean value hvalueMem
    exact (parseRouteRule_clean hpath).2

/-! ## The router -/

/-- Over the rules in order: the router gives the documented target unless it is overreached. -/
theorem matchRequest_decides_iff {geo : GeoConfig} {defaultOutbound : String}
    {rules : List GivenRule} {compiled : List CompiledRouteRule}
    (h : List.Forall₂ (Compiled node geo) rules compiled) (destination : Destination) :
    Decides (fun rule => (rule.conditions node geo).Hold node destination) defaultOutbound rules
        (Router.matchRequest node ⟨defaultOutbound, compiled⟩ destination).outboundTag ↔
      ¬ Overreaches node geo destination defaultOutbound rules := by
  induction h with
  | nil =>
    refine iff_of_true Decides.default ?_
    intro hover
    cases hover
  | @cons rule first rules compiled hfirst _ ih =>
    by_cases hkept : (rule.conditions node geo).kept.Hold node destination
    · have htarget : (Router.matchRequest node ⟨defaultOutbound, first :: compiled⟩
          destination).outboundTag = rule.outboundTag := by
        unfold Router.matchRequest
        rw [List.findSome?_cons, hfirst.holds destination hkept]
      rw [htarget]
      by_cases hvoid : (rule.conditions node geo).Void
      · have hhold : ¬ (rule.conditions node geo).Hold node destination :=
          fun hhold => (RuleConditions.hold_iff.mp hhold).2 hvoid
        constructor
        · intro hdecides hover
          cases hdecides with
          | here hhere => exact hhold hhere
          | later _ hrules =>
            cases hover with
            | here _ _ hnot => exact hnot hrules
            | later hnot _ => exact hnot hkept
        · intro hover
          refine Decides.later hhold ?_
          by_contra hnot
          exact hover (Overreaches.here hvoid hkept hnot)
      · refine iff_of_true (Decides.here (RuleConditions.hold_iff.mpr ⟨hkept, hvoid⟩)) ?_
        intro hover
        cases hover with
        | here hhere _ _ => exact hvoid hhere
        | later hnot _ => exact hnot hkept
    · have hhold : ¬ (rule.conditions node geo).Hold node destination :=
        fun hhold => hkept (RuleConditions.hold_iff.mp hhold).1
      have htarget : (Router.matchRequest node ⟨defaultOutbound, first :: compiled⟩
          destination).outboundTag =
          (Router.matchRequest node ⟨defaultOutbound, compiled⟩ destination).outboundTag := by
        unfold Router.matchRequest
        rw [List.findSome?_cons, hfirst.fails destination hkept]
      rw [htarget]
      constructor
      · intro hdecides hover
        cases hover with
        | here _ hhere _ => exact hkept hhere
        | later _ hrules =>
          generalize hresult : (Router.matchRequest node ⟨defaultOutbound, compiled⟩
            destination).outboundTag = target at hdecides
          cases hdecides with
          | here hhere => exact hhold hhere
          | later _ hdecides => exact ih.mp (hresult ▸ hdecides) hrules
      · intro hover
        exact Decides.later hhold (ih.mpr fun hrules => hover (Overreaches.later hkept hrules))

/-- Compiling the rules of a route that was read. -/
theorem RouteRead.compile {geo : GeoConfig} {input : Record} {route : RouterConfig}
    (h : RouteRead node geo input route) :
    ∃ compiled, Router.create node route = .ok ⟨route.defaultOutbound, compiled⟩ ∧
      List.Forall₂ (Compiled node geo) (givenRules (.object input)) compiled := by
  obtain ⟨hrules, hvalid⟩ := h.rules_given
  obtain ⟨compiled, hcompiled, hforall⟩ := mapM_ok
    (fun rule : GivenRule => CompiledRouteRule.create node (rule.config node geo))
    (givenRules (.object input)) fun rule hmem => create_config (hvalid rule hmem)
  refine ⟨compiled, ?_, hforall⟩
  unfold Router.create
  rw [hrules, List.mapM_map]
  rw [show List.mapM (CompiledRouteRule.create node ∘ fun rule => rule.config node geo)
    (givenRules (.object input)) = .ok compiled from hcompiled]
  rfl

end Compiling

/-- The target is the one the documentation gives to a request, under the rules of the input. -/
def DocumentedTarget (node : Node) (config : ParsedConfig) (input : Json)
    (destination : Destination) (target : String) : Prop :=
  Decides (fun rule => (rule.conditions node config.geo).Hold node destination)
    config.route.defaultOutbound (givenRules input) target

/-- Of every accepted config and every request: the router gives the documented target
exactly when no rule with an empty list overreaches. -/
theorem routes_documented_iff (node : Node) (others : Json → OtherSections) (input : Json)
    (config : ParsedConfig) (h : parseConfig node others input = .ok config) :
    ∃ router, Router.create node config.route = .ok router ∧ ∀ destination : Destination,
      (DocumentedTarget node config input destination
          (router.matchRequest node destination).outboundTag ↔
        ¬ Overreaches node config.geo destination config.route.defaultOutbound
          (givenRules input)) := by
  obtain ⟨fields, rfl, haccepted⟩ := parseConfig_ok node h
  obtain ⟨compiled, hcreate, hforall⟩ := haccepted.route.compile
  exact ⟨_, hcreate, fun destination => matchRequest_decides_iff hforall destination⟩

/-! ## An empty list of suffixes -/

/-- One inbound, two outbounds and one rule for `blocked`, with these conditions. -/
def ruleFields (conditions : Record) : Record :=
  [("inbounds", .array [.object [("type", .string "http"), ("tag", .string "http-in"),
      ("listen", .string "127.0.0.1"), ("port", .number 8080)]]),
    ("outbounds", .array [.object [("type", .string "direct"), ("tag", .string "direct")],
      .object [("type", .string "block"), ("tag", .string "blocked")]]),
    ("route", .object [("defaultOutbound", .string "direct"),
      ("rules", .array [.object (("outboundTag", .string "blocked") :: conditions)])])]

/-- No other section complains. -/
def quietSections (_ : Json) : OtherSections := ⟨[], [], [], [], []⟩

/-- What is parsed of the config with these conditions. -/
def ruleParsed (conditions : Record) : ParsedConfig :=
  (readConfig asciiNode ⟨[], [], [], [], []⟩ (ruleFields conditions)).value

theorem routes_documented_port : ∃ router,
    Router.create asciiNode (ruleParsed [("port", .number 443)]).route = .ok router ∧
      ∀ destination : Destination,
        (DocumentedTarget asciiNode (ruleParsed [("port", .number 443)])
            (.object (ruleFields [("port", .number 443)])) destination
            (router.matchRequest asciiNode destination).outboundTag ↔
          ¬ Overreaches asciiNode (ruleParsed [("port", .number 443)]).geo destination "direct"
            (givenRules (.object (ruleFields [("port", .number 443)])))) :=
  routes_documented_iff asciiNode quietSections (.object (ruleFields [("port", .number 443)]))
    (ruleParsed [("port", .number 443)]) (parseConfig_of_clean asciiNode (by decide +kernel))

def emptySuffixes : Record := [("domainSuffix", .array [])]

/-- A rule with an empty list of suffixes takes every request. -/
theorem empty_suffixes_match : ∃ router,
    parseConfig asciiNode quietSections (.object (ruleFields emptySuffixes)) =
      .ok (ruleParsed emptySuffixes) ∧
    Router.create asciiNode (ruleParsed emptySuffixes).route = .ok router ∧
    (router.matchRequest asciiNode ⟨"example.com", 443, .domain⟩).outboundTag = "blocked" ∧
    ¬ DocumentedTarget asciiNode (ruleParsed emptySuffixes) (.object (ruleFields emptySuffixes))
      ⟨"example.com", 443, .domain⟩ "blocked" := by
  have hparsed : parseConfig asciiNode quietSections (.object (ruleFields emptySuffixes)) =
      .ok (ruleParsed emptySuffixes) := parseConfig_of_clean asciiNode (by decide +kernel)
  refine ⟨_, hparsed, rfl, rfl, ?_⟩
  generalize htarget : "blocked" = target
  intro hdecides
  cases hdecides with
  | here hhold =>
    obtain ⟨suffix, hmem, -⟩ := hhold.suffix [] rfl
    cases hmem
  | later _ hrules =>
    cases hrules
    exact absurd htarget (by decide +kernel)

end Sepigs
