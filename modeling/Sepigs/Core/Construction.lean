import Sepigs.Reload.RuntimeAdapters

/-!
# Construction of the engine (`core/engine.ts`)

The state shared by requests and reloads, after the constructor and
`buildComponents`.
-/

namespace Sepigs

namespace Engine

/-- The engine's own `outbounds` map, which the first generation is given too. -/
def buildOutbounds (config : SepigsConfig) : KeyMap String Outbound :=
  OutboundRuntimeAdapter.createRuntimeOutbounds 2 config.outbounds ∅

/-- `createOutboundRuntimeRegistry`. -/
def createOutboundRuntimeRegistry (config : SepigsConfig) : Except String OutboundRuntimeRegistry :=
  OutboundRuntimeRegistry.new ⟨1, "runtime-outbound-0", config.outbounds⟩ (buildOutbounds config)

/-- `createRoutingGenerationPair` with `idPrefix: "runtime-routing-0"`. -/
def createRoutingGenerationPair (config : SepigsConfig) : RoutingGenerationPair where
  router := {
    id := "runtime-routing-0-router"
    sequence := 0
    defaultOutbound := config.route.defaultOutbound
    rules := config.route.rules
    ruleSetFiles := config.route.ruleSetFiles }
  policy := {
    id := "runtime-routing-0-policy"
    sequence := 0
    policies := config.route.policies }
  policyManager := 0

def build (config : SepigsConfig) : Except String RuntimeHost := do
  let registry ← createOutboundRuntimeRegistry config
  return {
    config := config
    routing := {
      activeGeneration := createRoutingGenerationPair config
      transactions := ∅
      usage := ∅
      draining := ∅
      nextManager := 1 }
    registry := registry
    dns := {
      activeGeneration := ⟨0, "dns-generation-0", 0, config.dns⟩
      generations := (∅ : KeyMap String DNSGeneration).set "dns-generation-0"
        ⟨0, "dns-generation-0", 0, config.dns⟩
      state := fun _ => ⟨0, 0, false⟩
      cacheCarriedOver := 0
      cacheDropped := 0
      rejectedFakeIpChanges := 0 }
    generation := 0
    outboundFlags := fun _ => ⟨false, false, false⟩
    dnsCommitted := fun _ => false
    nextRef := 2 + config.outbounds.length }

/-- One direct outbound, every request routed to it, and all of it reloadable. -/
def directConfig (tag : String) : SepigsConfig where
  metrics := ⟨false, "127.0.0.1", 9090, "/metrics"⟩
  dashboard := ⟨false, "127.0.0.1", 9091, "", 60, false⟩
  route := ⟨tag, [], [], []⟩
  outbounds := [⟨tag, .direct, "{}"⟩]
  dns := ⟨"{}", "{}"⟩
  reload := ⟨.transactionalExperimental, ⟨[.router, .policy, .dns, .outbound], 1000, true, true⟩⟩
  unsupported := "{}"

end Engine

end Sepigs
