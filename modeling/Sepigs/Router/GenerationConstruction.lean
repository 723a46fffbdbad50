import Sepigs.Lib.Checked
import Sepigs.Router.Generation
import Sepigs.Router.Routing

/-!
# Constructing the routing generations (`router/policyGeneration.ts`, `router/routerGeneration.ts`)

The constructors check targets, policies and CIDRs again, in their own code.  A config that
`parseConfig` accepts passes them.
-/

namespace Sepigs

open Checked (push collect)

def RoutingPolicyType.text : RoutingPolicyType → String
  | loadBalance => "loadBalance"
  | failover => "failover"

def LoadBalanceStrategy.text : LoadBalanceStrategy → String
  | roundRobin => "roundRobin"
  | leastLatency => "leastLatency"
  | random => "random"

/-- The last check of a policy: that its members are outbounds. -/
def validateMember (outboundTags : List String) (policy : RoutingPolicyConfig)
    (outbound : String) : Except ConfigError Unit :=
  if outboundTags.contains outbound then .ok ()
  else .error ⟨s!"policy generation \"{policy.tag}\" references unavailable outbound " ++
    s!"\"{outbound}\""⟩

/-- One pass of the loop of `validatePolicies`, with the tags it has seen. -/
def validatePolicy (outboundTags tags : List String) (policy : RoutingPolicyConfig) :
    Except ConfigError Unit :=
  if !(["loadBalance", "failover"].contains policy.type.text) then
    .error ⟨s!"policy generation \"{policy.tag}\" has unsupported type \"{policy.type.text}\""⟩
  else if !(["roundRobin", "leastLatency", "random"].contains policy.strategy.text) then
    .error ⟨s!"policy generation \"{policy.tag}\" has unsupported strategy " ++
      s!"\"{policy.strategy.text}\""⟩
  else if tags.contains policy.tag || outboundTags.contains policy.tag then
    .error ⟨s!"policy generation contains duplicate or colliding tag \"{policy.tag}\""⟩
  else if policy.outbounds.length = 0 then
    .error ⟨s!"policy generation \"{policy.tag}\" must contain at least one outbound"⟩
  else policy.outbounds.forM (validateMember outboundTags policy)

def validatePoliciesFrom (outboundTags : List String) :
    List String → List RoutingPolicyConfig → Except ConfigError Unit
  | _, [] => .ok ()
  | tags, policy :: policies => do
    validatePolicy outboundTags tags policy
    validatePoliciesFrom outboundTags (policy.tag :: tags) policies

def validatePolicies (policies : List RoutingPolicyConfig) (outboundTags : List String) :
    Except ConfigError Unit :=
  validatePoliciesFrom outboundTags [] policies

def PolicyGeneration.create (id : String) (sequence : Nat) (policies : List RoutingPolicyConfig)
    (outboundTags : List String) : Except ConfigError PolicyGeneration := do
  validatePolicies policies outboundTags
  pure ⟨id, sequence, policies⟩

/-- The loop of `validateTargets` over the rules. -/
def validateRules (allowedTargets : List String) :
    Nat → List RouteRuleConfig → Except ConfigError Unit
  | _, [] => .ok ()
  | index, rule :: rules =>
    if allowedTargets.contains rule.outboundTag then validateRules allowedTargets (index + 1) rules
    else .error ⟨s!"router generation rule[{index}] references unavailable target " ++
      s!"\"{rule.outboundTag}\""⟩

def validateTargets (config : RouterConfig) (allowedTargets : List String) :
    Except ConfigError Unit :=
  if allowedTargets.contains config.defaultOutbound then
    validateRules allowedTargets 0 config.rules
  else .error ⟨s!"router generation default outbound \"{config.defaultOutbound}\" is unavailable"⟩

variable (node : Node)

/-- The generation, and the router that it compiles. -/
def RouterGeneration.create (id : String) (sequence : Nat) (config : RouterConfig)
    (allowedTargets : List String) : Except ConfigError (RouterGeneration × Router) := do
  validateTargets config allowedTargets
  let router ← Router.create node config
  pure (⟨id, sequence, config.defaultOutbound, config.rules, config.ruleSetFiles⟩, router)

/-- `manager` is the identity of the new policy manager. -/
def createRoutingGenerationPair (idStart : String) (sequence : Nat) (route : RouterConfig)
    (outboundTags : List String) (manager : Nat) :
    Except ConfigError (RoutingGenerationPair × Router) := do
  let policy ← PolicyGeneration.create s!"{idStart}-policy" sequence route.policies outboundTags
  let (routerGeneration, router) ← RouterGeneration.create node s!"{idStart}-router" sequence route
    (outboundTags ++ route.policies.map RoutingPolicyConfig.tag)
  pure (⟨routerGeneration, policy, manager⟩, router)

/-! ## The checks of the parser imply those of the constructors -/

/-- What `validatePolicies` wants of the policies. -/
structure PoliciesFit (outboundTags : List String) (policies : List RoutingPolicyConfig) :
    Prop where
  nodup : (policies.map RoutingPolicyConfig.tag).Nodup
  apart : ∀ policy ∈ policies, policy.tag ∉ outboundTags
  nonempty : ∀ policy ∈ policies, policy.outbounds ≠ []
  members : ∀ policy ∈ policies, ∀ outbound ∈ policy.outbounds, outbound ∈ outboundTags

theorem PoliciesFit.validatePolicy {outboundTags tags : List String}
    {policies : List RoutingPolicyConfig} (h : PoliciesFit outboundTags policies)
    {policy : RoutingPolicyConfig} (hmem : policy ∈ policies) (hseen : policy.tag ∉ tags) :
    validatePolicy outboundTags tags policy = .ok () := by
  have htype : ["loadBalance", "failover"].contains policy.type.text = true := by
    cases policy.type <;> decide
  have hstrategy : ["roundRobin", "leastLatency", "random"].contains policy.strategy.text = true := by
    cases policy.strategy <;> decide
  have htag : (tags.contains policy.tag || outboundTags.contains policy.tag) = false := by
    simp [hseen, h.apart policy hmem]
  have hnonempty : policy.outbounds.length ≠ 0 := fun hzero =>
    h.nonempty policy hmem (List.length_eq_zero_iff.mp hzero)
  simp only [Sepigs.validatePolicy, htype, hstrategy, htag, hnonempty, Bool.not_true,
    Bool.false_eq_true, if_false]
  exact Except.forM_ok policy.outbounds fun outbound houtbound =>
    if_pos (List.contains_iff_mem.mpr (h.members policy hmem outbound houtbound))

theorem validatePoliciesFrom_ok {outboundTags : List String} (tags : List String)
    (policies : List RoutingPolicyConfig) (h : PoliciesFit outboundTags policies)
    (hseen : ∀ policy ∈ policies, policy.tag ∉ tags) :
    validatePoliciesFrom outboundTags tags policies = .ok () := by
  induction policies generalizing tags with
  | nil => rfl
  | cons policy policies ih =>
    have hnodup := List.nodup_cons.mp h.nodup
    rw [validatePoliciesFrom,
      h.validatePolicy List.mem_cons_self (hseen policy List.mem_cons_self)]
    refine ih (policy.tag :: tags) ⟨hnodup.2,
      fun other hmem => h.apart other (List.mem_cons_of_mem _ hmem),
      fun other hmem => h.nonempty other (List.mem_cons_of_mem _ hmem),
      fun other hmem => h.members other (List.mem_cons_of_mem _ hmem)⟩ ?_
    intro other hmem
    rw [List.mem_cons, not_or]
    refine ⟨?_, hseen other (List.mem_cons_of_mem _ hmem)⟩
    intro heq
    exact hnodup.1 (List.mem_map.mpr ⟨other, hmem, heq⟩)

theorem validateRules_ok {allowedTargets : List String} (index : Nat)
    (rules : List RouteRuleConfig) (h : ∀ rule ∈ rules, rule.outboundTag ∈ allowedTargets) :
    validateRules allowedTargets index rules = .ok () := by
  induction rules generalizing index with
  | nil => rfl
  | cons rule rules ih =>
    rw [validateRules, if_pos (List.contains_iff_mem.mpr (h rule List.mem_cons_self))]
    exact ih (index + 1) fun other hmem => h other (List.mem_cons_of_mem _ hmem)

theorem parseRoutingPolicy_nonempty {value : Json} {path : String} {policy : RoutingPolicyConfig}
    (h : (parseRoutingPolicy value path).Clean)
    (hvalue : (parseRoutingPolicy value path).value = some policy) : policy.outbounds ≠ [] := by
  cases value with
  | object fields =>
    simp only [parseRoutingPolicy, Checked.clean_bind] at h
    simp only [parseRoutingPolicy, Checked.value_bind] at hvalue
    obtain ⟨-, -, -, -, -, h⟩ := h
    split at h
    · next tag type outbounds htag htype houtbounds =>
      simp only [htag, htype, houtbounds, Checked.value_bind, Checked.value_pure,
        Option.map_eq_some_iff] at hvalue
      obtain ⟨policyType, -, rfl⟩ := hvalue
      have hempty := (Checked.clean_pushIf _ _).mp ((Checked.clean_bind _ _).mp h).1
      show outbounds ≠ []
      rintro rfl
      cases hempty
    · next hnone =>
      split at hvalue
      · next tag type outbounds htag htype houtbounds =>
        exact absurd houtbounds (hnone tag type outbounds htag htype)
      · cases hvalue
  | _ => exact absurd h (not_clean_reject _)

/-- The checks across sections, read as facts about tags. -/
theorem Accepted.references_resolve {input : Record} {config : ParsedConfig}
    (h : Accepted node input config) :
    config.route.defaultOutbound ∈
        config.outboundTags ++ config.route.policies.map RoutingPolicyConfig.tag ∧
      (∀ rule ∈ config.route.rules, rule.outboundTag ∈
        config.outboundTags ++ config.route.policies.map RoutingPolicyConfig.tag) ∧
      PoliciesFit config.outboundTags config.route.policies := by
  have hreferences := h.references
  simp only [checkOutboundReferences, Checked.clean_bind] at hreferences
  obtain ⟨hapart, hdefault, hrules, -, hmembers⟩ := hreferences
  refine ⟨checkTarget_clean hdefault, ?_, h.policies_nodup, ?_, ?_, ?_⟩
  · intro rule hmem
    obtain ⟨index, hclean⟩ := forEach_clean hrules rule hmem
    exact checkTarget_clean hclean
  · intro policy hmem hcollides
    obtain ⟨index, hclean⟩ := forEach_clean hapart policy hmem
    rw [if_pos (List.contains_iff_mem.mpr hcollides)] at hclean
    exact Checked.not_clean_push _ hclean
  · intro policy hmem
    obtain ⟨items, hclean, heq⟩ := h.route.policies
    rw [heq] at hmem
    obtain ⟨value, path, hvalueClean, hvalue⟩ := mem_parseAll hclean hmem
    exact parseRoutingPolicy_nonempty hvalueClean hvalue
  · intro policy hmem outbound houtbound
    obtain ⟨index, hclean⟩ := forEach_clean hmembers policy hmem
    obtain ⟨outboundIndex, htarget⟩ := forEach_clean hclean outbound houtbound
    exact checkTarget_clean htarget

/-- The constructors never throw on the route of an accepted config and its outbound tags. -/
theorem accepted_routes_construct (node : Node) (others : Json → OtherSections) (input : Json)
    (config : ParsedConfig) (h : parseConfig node others input = .ok config) :
    (∀ (idStart : String) (sequence manager : Nat), ∃ pair router,
      createRoutingGenerationPair node idStart sequence config.route config.outboundTags manager =
        .ok (pair, router) ∧
      pair.router.rules = config.route.rules ∧ pair.policy.policies = config.route.policies ∧
      router.rules.length = config.route.rules.length) ∧
    (∀ target ∈ config.route.defaultOutbound :: config.route.rules.map RouteRuleConfig.outboundTag,
      target ∈ config.outboundTags ++ config.route.policies.map RoutingPolicyConfig.tag) ∧
    (∀ policy ∈ config.route.policies, ∀ member ∈ policy.outbounds,
      member ∈ config.outboundTags) ∧
    ∀ rule ∈ config.route.rules, ∀ cidr ∈ rule.ipCidr.getD [],
      ∃ matcher, CidrMatcher.create node cidr = .ok matcher := by
  obtain ⟨input, rfl, haccepted⟩ := parseConfig_ok node h
  obtain ⟨hdefault, hrules, hpolicies⟩ := haccepted.references_resolve
  obtain ⟨compiled, hcreate, hforall⟩ := haccepted.route.compile
  obtain ⟨hgiven, hvalid⟩ := haccepted.route.rules_given
  refine ⟨?_, ?_, hpolicies.members, ?_⟩
  · intro idStart sequence manager
    have hvalidated : validatePolicies config.route.policies config.outboundTags = .ok () :=
      validatePoliciesFrom_ok [] _ hpolicies fun policy _ hseen => nomatch hseen
    have htargets : validateTargets config.route
        (config.outboundTags ++ config.route.policies.map RoutingPolicyConfig.tag) = .ok () := by
      unfold validateTargets
      rw [if_pos (List.contains_iff_mem.mpr hdefault)]
      exact validateRules_ok 0 _ hrules
    let routerGeneration : RouterGeneration :=
      ⟨s!"{idStart}-router", sequence, config.route.defaultOutbound, config.route.rules,
        config.route.ruleSetFiles⟩
    refine ⟨⟨routerGeneration, ⟨s!"{idStart}-policy", sequence, config.route.policies⟩, manager⟩,
      ⟨config.route.defaultOutbound, compiled⟩, ?_, rfl, rfl, ?_⟩
    · unfold createRoutingGenerationPair PolicyGeneration.create RouterGeneration.create
      rw [hvalidated, htargets, hcreate]
      rfl
    · rw [← hforall.length_eq, hgiven, List.length_map]
  · intro target hmem
    rcases List.mem_cons.mp hmem with rfl | hmem
    · exact hdefault
    · obtain ⟨rule, hrule, rfl⟩ := List.mem_map.mp hmem
      exact hrules rule hrule
  · intro rule hmem cidr hcidr
    rw [hgiven] at hmem
    obtain ⟨given, hmemGiven, rfl⟩ := List.mem_map.mp hmem
    exact isValidCidr_iff.mp (hvalid given hmemGiven cidr hcidr)

/-- `asciiNode` with the one IPv4 address of the config below. -/
def lanNode : Node :=
  { asciiNode with isIP := fun text => if text = "10.0.0.0" then 4 else 0 }

/-- A failover policy is the default; one rule takes the addresses and the names of two geo tables. -/
def lanFields : Record :=
  [("geo", .object [("geoip", .object [("lan", .array [.string "10.0.0.0/8"])]),
      ("geosite", .object [("ads", .array [.string "ads.test"])])]),
    ("inbounds", .array [.object [("type", .string "http"), ("tag", .string "http-in"),
      ("listen", .string "127.0.0.1"), ("port", .number 8080)]]),
    ("outbounds", .array [.object [("type", .string "direct"), ("tag", .string "direct")],
      .object [("type", .string "block"), ("tag", .string "blocked")]]),
    ("route", .object [("defaultOutbound", .string "auto"),
      ("rules", .array [.object [("outboundTag", .string "blocked"),
        ("geoIp", .array [.string "lan"]), ("geoSite", .array [.string "ads"])]]),
      ("policies", .array [.object [("tag", .string "auto"), ("type", .string "failover"),
        ("outbounds", .array [.string "direct", .string "blocked"])]])])]

def lanParsed : ParsedConfig := (readConfig lanNode ⟨[], [], [], [], []⟩ lanFields).value

theorem lanFields_read : (readConfig lanNode ⟨[], [], [], [], []⟩ lanFields).errors = [] ∧
    lanParsed.route.rules.map RouteRuleConfig.ipCidr = [some ["10.0.0.0/8"]] ∧
    lanParsed.outboundTags = ["direct", "blocked"] ∧
    lanParsed.route.policies.map RoutingPolicyConfig.tag = ["auto"] := by
  decide +kernel

theorem accepted_routes_construct_lan :
    (∃ pair router, createRoutingGenerationPair lanNode "runtime-routing-0" 0 lanParsed.route
        ["direct", "blocked"] 0 = .ok (pair, router) ∧
      pair.policy.policies.map RoutingPolicyConfig.tag = ["auto"] ∧ router.rules.length = 1) ∧
    (∀ policy ∈ lanParsed.route.policies, ∀ member ∈ policy.outbounds, member ∈ ["direct", "blocked"]) ∧
    ∃ matcher, CidrMatcher.create lanNode "10.0.0.0/8" = .ok matcher := by
  obtain ⟨hclean, hrules, htags, hpolicies⟩ := lanFields_read
  obtain ⟨hconstruct, -, hmembers, hcidrs⟩ := accepted_routes_construct lanNode quietSections
    (.object lanFields) lanParsed (parseConfig_of_clean lanNode hclean)
  obtain ⟨pair, router, hpair, -, hgiven, hlength⟩ := hconstruct "runtime-routing-0" 0 0
  rw [htags] at hpair
  refine ⟨⟨pair, router, hpair, hgiven ▸ hpolicies, ?_⟩, fun policy hmem => htags ▸ hmembers policy hmem, ?_⟩
  · rw [hlength, ← List.length_map RouteRuleConfig.ipCidr, hrules]
    rfl
  · have hmem : some ["10.0.0.0/8"] ∈ lanParsed.route.rules.map RouteRuleConfig.ipCidr := by
      rw [hrules]
      exact List.mem_cons_self
    obtain ⟨rule, hrule, hcidr⟩ := List.mem_map.mp hmem
    refine hcidrs rule hrule "10.0.0.0/8" ?_
    rw [hcidr]
    exact List.mem_cons_self

end Sepigs
