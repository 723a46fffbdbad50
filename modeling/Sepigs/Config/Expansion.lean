import Sepigs.Config.WrittenRoutes
import Sepigs.Router.GenerationConstruction

/-!
# Rules of a rule-set file (`expandRuleSetFiles` in `config/loader.ts`)

The rules of the files go before the rules of an accepted config, and the config is read once
more.  Its own rules decide as they did.
-/

namespace Sepigs

section Compiling

variable {node : Node} {geo : GeoConfig}

theorem forall₂_mem_right {α β : Type} {R : α → β → Prop} {items : List α} {made : List β}
    (h : List.Forall₂ R items made) : ∀ b ∈ made, ∃ a ∈ items, R a b := by
  induction h with
  | nil => simp
  | cons hR _ ih =>
    intro b hb
    rcases List.mem_cons.mp hb with rfl | hb
    · exact ⟨_, List.mem_cons_self, hR⟩
    · obtain ⟨a, ha, hab⟩ := ih b hb
      exact ⟨a, List.mem_cons_of_mem _ ha, hab⟩

theorem any_append_of_subset {α : Type} {values more : List α} (h : ∀ a ∈ more, a ∈ values)
    (p : α → Bool) : (values ++ more).any p = values.any p := by
  rw [List.any_append, Bool.or_eq_left_iff_imp]
  intro hmore
  obtain ⟨a, ha, hp⟩ := List.any_eq_true.mp hmore
  exact List.any_eq_true.mpr ⟨a, h a ha, hp⟩

theorem length_append_of_subset {α : Type} {values more : List α} (h : ∀ a ∈ more, a ∈ values) :
    0 < (values ++ more).length ↔ 0 < values.length := by
  rw [List.length_append]
  constructor
  · intro hpos
    cases values with
    | nil =>
      cases more with
      | nil => exact hpos
      | cons a more => exact absurd (h a List.mem_cons_self) List.not_mem_nil
    | cons a values => exact Nat.succ_pos _
  · omega

/-- The matchers of a list are those of its part, when the rest of it stands in that part. -/
theorem matchers_append {values more : List String} (hvalid : ∀ cidr ∈ values, isValidCidr node cidr = true)
    (hmore : ∀ cidr ∈ more, cidr ∈ values) :
    ∃ matchers others, values.mapM (CidrMatcher.create node) = .ok matchers ∧
      (values ++ more).mapM (CidrMatcher.create node) = .ok (matchers ++ others) ∧
      ∀ matcher ∈ others, matcher ∈ matchers := by
  have hcreate (cidr : String) (hcidr : cidr ∈ values) :
      ∃ made, CidrMatcher.create node cidr = .ok made ∧ CidrMatcher.create node cidr = .ok made := by
    obtain ⟨matcher, hmatcher⟩ := isValidCidr_iff.mp (hvalid cidr hcidr)
    exact ⟨matcher, hmatcher, hmatcher⟩
  obtain ⟨matchers, hmatchers, hall⟩ := mapM_ok (CidrMatcher.create node) values hcreate
  obtain ⟨others, hothers, hrest⟩ := mapM_ok (CidrMatcher.create node) more
    fun cidr hcidr => hcreate cidr (hmore cidr hcidr)
  refine ⟨matchers, others, hmatchers, ?_, ?_⟩
  · rw [List.mapM_append, hmatchers, hothers]
    rfl
  · intro matcher hmatcher
    obtain ⟨cidr, hcidr, hmade⟩ := forall₂_mem_right hrest matcher hmatcher
    obtain ⟨other, hother, hsame⟩ := forall₂_mem_right hall.flip cidr (hmore cidr hcidr)
    cases hmade.symm.trans hsame
    exact hother

/-- A rule that is read again compiles, and matches what it matched. -/
theorem RouteRuleConfig.Form.create_again {rule : RouteRuleConfig} (h : rule.Form node geo) :
    ∃ compiled compiled', CompiledRouteRule.create node rule = .ok compiled ∧
      CompiledRouteRule.create node (rule.again node geo) = .ok compiled' ∧
      ∀ destination, compiled'.matchRequest node destination =
        compiled.matchRequest node destination := by
  obtain ⟨matchers, others, hmatchers, hall, hsubset⟩ := matchers_append h.valid h.ips
  refine ⟨.fields node rule matchers, .fields node (rule.again node geo) (matchers ++ others), ?_, ?_, ?_⟩
  · unfold CompiledRouteRule.create
    rw [hmatchers]
    rfl
  · unfold CompiledRouteRule.create RouteRuleConfig.again
    rw [ifAny_getD, hall]
    rfl
  · intro destination
    simp only [CompiledRouteRule.matchRequest, CompiledRouteRule.fields, RouteRuleConfig.again,
      ifAny_getD, matchesDomainSuffix, any_append_of_subset h.sites, any_append_of_subset hsubset,
      length_append_of_subset h.sites, length_append_of_subset hsubset]
    rfl

/-- The rules of a route read again find what they found. -/
theorem rules_again {rules : List RouteRuleConfig} (h : ∀ rule ∈ rules, rule.Form node geo) :
    ∃ compiled compiled', rules.mapM (CompiledRouteRule.create node) = .ok compiled ∧
      (rules.map fun rule => rule.again node geo).mapM (CompiledRouteRule.create node) =
        .ok compiled' ∧
      ∀ destination, compiled'.findSome? (fun rule => rule.matchRequest node destination) =
        compiled.findSome? fun rule => rule.matchRequest node destination := by
  induction rules with
  | nil => exact ⟨[], [], rfl, rfl, fun _ => rfl⟩
  | cons rule rules ih =>
    obtain ⟨first, first', hfirst, hfirst', hmatch⟩ := (h rule List.mem_cons_self).create_again
    obtain ⟨rest, rest', hrest, hrest', hfind⟩ := ih fun other hmem => h other (List.mem_cons_of_mem _ hmem)
    refine ⟨first :: rest, first' :: rest', ?_, ?_, ?_⟩
    · rw [List.mapM_cons, hfirst, hrest]
      rfl
    · rw [List.map_cons, List.mapM_cons, hfirst', hrest']
      rfl
    · intro destination
      rw [List.findSome?_cons, List.findSome?_cons, hmatch, hfind]

/-- The rules that were added decide first, and then the rules of the route as they did. -/
theorem RouterConfig.Form.create_expanded {route : RouterConfig} (h : route.Form node geo)
    {rules : List RouteRuleConfig} (hrules : ∀ rule ∈ rules, rule.Form node geo) :
    ∃ router added expanded, Router.create node route = .ok router ∧
      Router.create node { route with rules := rules } = .ok added ∧
      Router.create node (route.expanded node geo rules) = .ok expanded ∧
      ∀ destination, expanded.matchRequest node destination =
        if (added.matchRequest node destination).matched then added.matchRequest node destination
        else router.matchRequest node destination := by
  obtain ⟨own, again, hown, hagain, hfind⟩ := rules_again h.rules
  obtain ⟨first, -, hfirst, -, -⟩ := rules_again hrules
  refine ⟨⟨route.defaultOutbound, own⟩, ⟨route.defaultOutbound, first⟩,
    ⟨route.defaultOutbound, first ++ again⟩, ?_, ?_, ?_, ?_⟩
  · unfold Router.create
    rw [hown]
    rfl
  · unfold Router.create
    simp only [hfirst]
    rfl
  · unfold Router.create RouterConfig.expanded
    simp only [List.mapM_append, hfirst, hagain]
    rfl
  · intro destination
    simp only [Router.matchRequest, List.findSome?_append, hfind]
    rcases Option.eq_none_or_eq_some
      (first.findSome? fun rule => rule.matchRequest node destination) with hnone | ⟨found, hfound⟩
    · simp [hnone]
    · simp [hfound]

end Compiling

/-! ## The config -/

/-- A target is an outbound, or a policy over outbounds. -/
theorem PoliciesFit.ne_nil {outboundTags : List String} {policies : List RoutingPolicyConfig}
    (h : PoliciesFit outboundTags policies) {target : String}
    (htarget : target ∈ outboundTags ++ policies.map RoutingPolicyConfig.tag) : outboundTags ≠ [] := by
  rintro rfl
  rw [List.nil_append] at htarget
  obtain ⟨policy, hpolicy, -⟩ := List.mem_map.mp htarget
  obtain ⟨member, hmember⟩ := List.exists_mem_of_ne_nil _ (h.nonempty policy hpolicy)
  exact absurd (h.members policy hpolicy member hmember) List.not_mem_nil

section Configs

variable {node : Node}

structure ParsedConfig.Form (node : Node) (config : ParsedConfig) : Prop where
  geo : config.geo.Form node
  metrics : config.metrics.Form
  dashboard : config.dashboard.Form
  inbounds : ∀ inbound ∈ config.inbounds, inbound.Form
  inbounds_nonempty : config.inbounds ≠ []
  outbounds : ∀ outbound ∈ config.outbounds, outbound.Form
  outbounds_nonempty : config.outbounds ≠ []
  route : config.route.Form node config.geo

/-- `expandedConfig`, with the sections that are not read here. -/
def ParsedConfig.withRules (config : ParsedConfig) (expandedRules : List Json) (sections : Record) :
    Record :=
  [("geo", config.geo.toJson), ("observability", config.metrics.toJson),
    ("dashboard", config.dashboard.toJson),
    ("inbounds", .array (config.inbounds.map InboundConfig.toJson)),
    ("outbounds", .array (config.outbounds.map OutboundSection.toJson)),
    ("route", config.route.withRules expandedRules)] ++ sections

/-- The config that is read from `withRules`. -/
def ParsedConfig.expanded (node : Node) (config : ParsedConfig) (rules : List RouteRuleConfig) :
    ParsedConfig :=
  { config with route := config.route.expanded node config.geo rules }

theorem parseNonEmptyArray_read {α : Type} {parse : Json → String → Checked (Option α)}
    {input : Record} {key : String} {P : α → Prop}
    (hparse : ∀ item p, (parse item p).Clean → ∀ a, (parse item p).value = some a → P a)
    (h : (parseNonEmptyArray parse input key).Clean) :
    ∀ a ∈ (parseNonEmptyArray parse input key).value, P a := by
  unfold parseNonEmptyArray at h ⊢
  split at h
  · next items hitems =>
    simp only [Checked.clean_bind] at h
    simp only [Checked.value_bind]
    intro a ha
    obtain ⟨item, p, hclean, hsome⟩ := mem_parseAll h.2 ha
    exact hparse item p hclean a hsome
  · exact absurd ((Checked.clean_bind _ _).mp h).1 (Checked.not_clean_push _)

theorem parseNonEmptyArray_written {α : Type} {parse : Json → String → Checked (Option α)}
    {input : Record} {key : String} {toJson : α → Json} {values : List α}
    (hlookup : input.lookup key = some (.array (values.map toJson))) (hnonempty : values ≠ [])
    (h : ∀ a ∈ values, ∀ p, parse (toJson a) p = pure (some a)) :
    parseNonEmptyArray parse input key = pure values := by
  have hempty : (values.map toJson).isEmpty = false := by
    rw [List.isEmpty_eq_false_iff, ne_eq, List.map_eq_nil_iff]
    exact hnonempty
  unfold parseNonEmptyArray
  simp only [hlookup, hempty, Checked.pushIf]
  exact parseAll_written _ h

theorem parseNonEmptyArray_nonempty {α : Type} {parse : Json → String → Checked (Option α)}
    {input : Record} {key : String}
    (hparse : ∀ item p, (parse item p).Clean → ∃ a, (parse item p).value = some a)
    (h : (parseNonEmptyArray parse input key).Clean) :
    (parseNonEmptyArray parse input key).value ≠ [] := by
  unfold parseNonEmptyArray at h ⊢
  split at h
  · next items hitems =>
    simp only [Checked.clean_bind] at h
    simp only [Checked.value_bind]
    cases items with
    | nil => exact absurd h.1 (Checked.not_clean_push _)
    | cons item items =>
      have hall := h.2
      simp only [parseAll, Checked.collect, Checked.collectFrom, Checked.clean_bind] at hall
      obtain ⟨a, ha⟩ := hparse item _ hall.1.1
      simp only [parseAll, Checked.collect, Checked.collectFrom, Checked.value_bind, Checked.value_pure]
      rw [ha]
      exact List.cons_ne_nil _ _
  · exact absurd ((Checked.clean_bind _ _).mp h).1 (Checked.not_clean_push _)

theorem readConfig_read (hlower : ∀ s, node.toLowerCase (node.toLowerCase s) = node.toLowerCase s)
    {others : OtherSections} {input : Record} (h : (readConfig node others input).Clean) :
    (readConfig node others input).value.Form node := by
  have haccepted := readConfig_clean node h
  have hreferences := haccepted.references_resolve
  simp only [readConfig, Checked.clean_bind] at h
  obtain ⟨-, hgeo, -, hmetrics, hdashboard, -, hinbounds, houtbounds, hroute, -⟩ := h
  obtain ⟨geo, hgeo, hgeoForm⟩ := parseGeo_read hlower hgeo
  obtain ⟨metrics, hmetrics, hmetricsForm⟩ := parseObservability_read hmetrics
  obtain ⟨dashboard, hdashboard, hdashboardForm⟩ := parseDashboard_read hdashboard
  obtain ⟨route, hvalue, -⟩ := parseRouter_clean node hroute
  rw [hgeo, Checked.value_pure] at hroute hvalue
  have hconfig : (readConfig node others input).value =
      ⟨geo, metrics, dashboard, (parseNonEmptyArray parseInbound input "inbounds").value,
        (parseNonEmptyArray parseOutbound input "outbounds").value, route⟩ := by
    simp only [readConfig, Checked.value_bind, hgeo, hmetrics, hdashboard, Checked.value_pure, hvalue,
      Option.getD_some]
  rw [hconfig] at hreferences ⊢
  refine ⟨hgeoForm, hmetricsForm, hdashboardForm, ?_, ?_, ?_, ?_, parseRouter_read hgeoForm hroute hvalue⟩
  · refine parseNonEmptyArray_read (fun item p hclean inbound hsome => ?_) hinbounds
    obtain ⟨read, hread, hform⟩ := parseInbound_read hclean
    rw [hread] at hsome
    cases hsome
    exact hform
  · refine parseNonEmptyArray_nonempty (fun item p hclean => ?_) hinbounds
    obtain ⟨read, hread, -⟩ := parseInbound_read hclean
    exact ⟨read, by rw [hread, Checked.value_pure]⟩
  · exact parseNonEmptyArray_read (fun item p hclean _ hsome => parseOutbound_read hclean hsome) houtbounds
  · -- an outbound may be left out, but not the one that the default names
    intro hnil
    refine hreferences.2.2.ne_nil hreferences.1 ?_
    show List.map OutboundSection.tag _ = []
    rw [hnil, List.map_nil]

/-- The order of the sections in `withRules` is the order of their readers. -/
theorem readConfig_expanded {config : ParsedConfig} (h : config.Form node) (hplain : config.geo.Plain)
    (others : OtherSections) (expandedRules : List Json) (sections : Record) :
    readConfig node others (config.withRules expandedRules sections) = (do
      complaints others.beforeGeo
      complaints others.beforeObservability
      complaints others.tun
      let rules ← parseAll (parseRouteRule node config.geo) "route.rules" expandedRules
      let expanded := config.expanded node rules
      checkUniqueTags (config.inbounds.map InboundConfig.tag) "inbounds"
      checkUniqueTags config.outboundTags "outbounds"
      complaints others.uniqueTags
      checkUniqueTags (config.route.policies.map RoutingPolicyConfig.tag) "route.policies"
      complaints others.dnsReferences
      checkPublicExposure config
      checkOutboundReferences expanded
      pure expanded) := by
  unfold readConfig
  rw [parseGeo_written (by simp [ParsedConfig.withRules]) h.geo hplain,
    parseObservability_written (by simp [ParsedConfig.withRules, lookup_field]) h.metrics,
    parseDashboard_written (by simp [ParsedConfig.withRules, lookup_field]) h.dashboard,
    parseNonEmptyArray_written (by simp [ParsedConfig.withRules, lookup_field]) h.inbounds_nonempty
      (fun inbound hmem p => parseInbound_written (h.inbounds inbound hmem) p),
    parseNonEmptyArray_written (by simp [ParsedConfig.withRules, lookup_field]) h.outbounds_nonempty
      (fun outbound hmem p => parseOutbound_written (h.outbounds outbound hmem) p)]
  simp only [Checked.pure_bind]
  rw [@parseRouter_expanded node config.geo _ config.route expandedRules
    (by simp [ParsedConfig.withRules, lookup_field]) h.route]
  simp only [Checked.bind_assoc, Checked.pure_bind, Option.getD_some]
  rfl

/-- The checks across sections, which an accepted config has passed. -/
structure ParsedConfig.Checks (config : ParsedConfig) : Prop where
  inbounds : (checkUniqueTags.{0} (config.inbounds.map InboundConfig.tag) "inbounds").Clean
  outbounds : (checkUniqueTags.{0} config.outboundTags "outbounds").Clean
  policies : (checkUniqueTags.{0} (config.route.policies.map RoutingPolicyConfig.tag)
    "route.policies").Clean
  exposure : (checkPublicExposure config).Clean
  references : (checkOutboundReferences config).Clean

theorem readConfig_checks {others : OtherSections} {input : Record}
    (h : (readConfig node others input).Clean) : (readConfig node others input).value.Checks := by
  simp only [readConfig, Checked.clean_bind] at h
  obtain ⟨-, -, -, -, -, -, -, -, hroute, hinbounds, houtbounds, -, hpolicies, -, hexposure,
    hreferences⟩ := h
  obtain ⟨route, hvalue, -⟩ := parseRouter_clean node hroute
  simp only [readConfig, Checked.value_bind]
  simp only [hvalue, Option.getD_some, Checked.clean_bind, Checked.value_bind,
    Checked.value_pure] at hinbounds houtbounds hpolicies hexposure hreferences ⊢
  exact ⟨hinbounds, houtbounds, hpolicies, hexposure, hreferences.1⟩

theorem forEach_checkTarget_clean_iff {α : Type} {targets : List String}
    {error : Nat → String → String} {tag : α → String} (items : List α) :
    (forEach (fun index item => checkTarget targets (error index) (tag item)) items).Clean ↔
      ∀ item ∈ items, tag item ∈ targets := by
  constructor
  · intro h item hmem
    obtain ⟨index, hclean⟩ := forEach_clean h item hmem
    exact checkTarget_clean hclean
  · intro h
    have hpure : forEach (fun index item => checkTarget targets (error index) (tag item)) items =
        pure ⟨⟩ := forEach_of_pure fun index item hmem =>
      if_pos (List.contains_iff_mem.mpr (h item hmem))
    rw [hpure]
    exact Checked.clean_pure _

/-- What a rule or the default may name. -/
def ParsedConfig.targets (config : ParsedConfig) : List String :=
  config.outboundTags ++ config.route.policies.map RoutingPolicyConfig.tag

theorem checkOutboundReferences_expanded {config : ParsedConfig}
    (h : (checkOutboundReferences config).Clean) (rules : List RouteRuleConfig) :
    (checkOutboundReferences (config.expanded node rules)).Clean ↔
      ∀ rule ∈ rules, rule.outboundTag ∈ config.targets := by
  simp only [checkOutboundReferences, Checked.clean_bind, forEach_checkTarget_clean_iff] at h ⊢
  obtain ⟨hapart, hdefault, hrules, hsets, hmembers⟩ := h
  constructor
  · rintro ⟨-, -, hexpanded, -, -⟩ rule hmem
    exact hexpanded rule (List.mem_append_left _ hmem)
  · intro hadded
    refine ⟨hapart, hdefault, ?_, hsets, hmembers⟩
    intro rule hmem
    rcases List.mem_append.mp hmem with hmem | hmem
    · exact hadded rule hmem
    · obtain ⟨own, hown, rfl⟩ := List.mem_map.mp hmem
      exact hrules own hown

theorem clean_complaints (errors : List String) : (complaints errors).Clean ↔ errors = [] := Iff.rfl

/-- No other section complains. -/
def OtherSections.quiet : OtherSections := ⟨[], [], [], [], []⟩

/-- What is asked of the added rules, for the config to be accepted with them. -/
structure ParsedConfig.Takes (node : Node) (config : ParsedConfig) (expandedRules : List Json) :
    Prop where
  read : (parseAll (parseRouteRule node config.geo) "route.rules" expandedRules).Clean
  targets : ∀ rule ∈ (parseAll (parseRouteRule node config.geo) "route.rules" expandedRules).value,
    rule.outboundTag ∈ config.targets

theorem readConfig_expanded_clean_iff {config : ParsedConfig} (h : config.Form node)
    (hplain : config.geo.Plain) (hchecks : config.Checks) (others : OtherSections) (expandedRules : List Json)
    (sections : Record) :
    (readConfig node others (config.withRules expandedRules sections)).Clean ↔
      others = .quiet ∧ config.Takes node expandedRules := by
  rw [readConfig_expanded h hplain]
  simp only [Checked.clean_bind, checkOutboundReferences_expanded hchecks.references, clean_complaints]
  obtain ⟨beforeGeo, beforeObservability, tun, uniqueTags, dnsReferences⟩ := others
  constructor
  · rintro ⟨rfl, rfl, rfl, hread, -, -, rfl, -, rfl, -, htargets, -⟩
    exact ⟨rfl, hread, htargets⟩
  · rintro ⟨hothers, hread, htargets⟩
    cases hothers
    exact ⟨rfl, rfl, rfl, hread, hchecks.inbounds, hchecks.outbounds, rfl, hchecks.policies, rfl,
      hchecks.exposure, htargets, rfl⟩

end Configs

end Sepigs
