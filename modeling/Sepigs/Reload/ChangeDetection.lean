import Sepigs.Lib.JsMap
import Sepigs.Lib.JsonOrder
import Sepigs.Reload.RuntimeIntegration

/-!
# What a reload compares (`reload/runtimeIntegration.ts`)

`changedRuntimeComponents` and `assertM11SupportedChange` on the sections as JSON values.
A reload that goes on to its transaction has an adapter for every difference between the
two configs, those of the `reload` section apart.
-/

namespace Sepigs

open Json (Same Differs Step LocaleOrder NumberText)

/-- A value of the config; no object of it holds a key twice. -/
abbrev ConfigValue := { value : Json // value.Distinct }

/-! ## `config/types.ts` -/

structure RouteSection where
  defaultOutbound : ConfigValue
  rules : ConfigValue
  ruleSetFiles : ConfigValue
  policies : ConfigValue

/-- `others` holds the fields of the section but for `fakeIp`. -/
structure DnsSection where
  fakeIp : ConfigValue
  others : JsMap String ConfigValue
  fakeIp_notMem : "fakeIp" ∉ others.keys

/-- `SepigsConfig`, with the values of its sections; `metrics` is all that `observability`
holds. -/
structure ConfigDocument where
  configVersion : ConfigValue
  log : ConfigValue
  limits : ConfigValue
  dns : DnsSection
  geo : ConfigValue
  plugins : ConfigValue
  workers : ConfigValue
  transport : ConfigValue
  connectionPool : ConfigValue
  hotReload : ConfigValue
  reload : ReloadConfig
  probing : ConfigValue
  metrics : ConfigValue
  dashboard : ConfigValue
  tun : ConfigValue
  inbounds : ConfigValue
  outbounds : ConfigValue
  route : RouteSection

def ReloadMode.text : ReloadMode → String
  | .legacy => "legacy"
  | .transactionalExperimental => "transactional-experimental"

def ReloadConfig.toJson (config : ReloadConfig) : Json :=
  .object [("mode", .string config.mode.text),
    ("transactional", .object [
      ("enabledComponents", .array
        (config.transactional.enabledComponents.map fun component => .string component.label)),
      ("timeoutMs", .number config.transactional.timeoutMs),
      ("shadowBeforeCommit", .boolean config.transactional.shadowBeforeCommit),
      ("rollbackOnFailure", .boolean config.transactional.rollbackOnFailure)])]

def RouteSection.toJson (route : RouteSection) : Json :=
  .object [("defaultOutbound", route.defaultOutbound.1), ("rules", route.rules.1),
    ("ruleSetFiles", route.ruleSetFiles.1), ("policies", route.policies.1)]

/-- The fields of the section but for `fakeIp`. -/
def DnsSection.otherFields (dns : DnsSection) : List (String × Json) :=
  dns.others.entries.map fun entry => (entry.1, entry.2.1)

def DnsSection.toJson (dns : DnsSection) : Json :=
  .object (("fakeIp", dns.fakeIp.1) :: dns.otherFields)

namespace ConfigDocument

def fields (config : ConfigDocument) : List (String × Json) :=
  [("configVersion", config.configVersion.1), ("log", config.log.1), ("limits", config.limits.1),
    ("dns", config.dns.toJson), ("geo", config.geo.1), ("plugins", config.plugins.1),
    ("workers", config.workers.1), ("transport", config.transport.1),
    ("connectionPool", config.connectionPool.1), ("hotReload", config.hotReload.1),
    ("reload", config.reload.toJson), ("probing", config.probing.1),
    ("observability", .object [("metrics", config.metrics.1)]),
    ("dashboard", config.dashboard.1), ("tun", config.tun.1), ("inbounds", config.inbounds.1),
    ("outbounds", config.outbounds.1), ("route", config.route.toJson)]

def toJson (config : ConfigDocument) : Json := .object config.fields

def m11Keys : List String :=
  ["observability", "dashboard", "reload", "route", "dns", "outbounds"]

def withoutM11Components (config : ConfigDocument) : Json :=
  .object (config.fields.filter fun field => field.1 ∉ m11Keys)

def routerConfigView (config : ConfigDocument) : Json :=
  .object [("defaultOutbound", config.route.defaultOutbound.1), ("rules", config.route.rules.1),
    ("ruleSetFiles", config.route.ruleSetFiles.1)]

def dnsConfigView (config : ConfigDocument) : Json := .object config.dns.otherFields

section Reload

variable (stableJson : Json → String)

/-- The values that `changedRuntimeComponents` compares for a component. -/
def view (config : ConfigDocument) : TransactionalReloadComponent → Json
  | .metrics => config.metrics.1
  | .dashboard => config.dashboard.1
  | .router => config.routerConfigView
  | .policy => config.route.policies.1
  | .outbound => config.outbounds.1
  | .dns => config.dnsConfigView

def changedRuntimeComponents (previous candidate : ConfigDocument) :
    List TransactionalReloadComponent :=
  [.metrics, .dashboard, .router, .policy, .outbound, .dns].filter fun component =>
    stableJson (previous.view component) ≠ stableJson (candidate.view component)

def assertM11SupportedChange (previous candidate : ConfigDocument) : Except String Unit :=
  if stableJson previous.dns.fakeIp.1 ≠ stableJson candidate.dns.fakeIp.1 then
    .error ("transactional-experimental DNS reload rejected unsupported high-risk fake-IP " ++
      "configuration change")
  else if stableJson previous.withoutM11Components ≠ stableJson candidate.withoutM11Components then
    .error ("transactional-experimental M11 only supports metrics/dashboard/router/policy/dns/" ++
      "outbound changes; use legacy mode for other changes")
  else .ok ()

/-- The loop over the changed components. -/
def checkEnabled (candidate : ConfigDocument)
    (changedComponents : List TransactionalReloadComponent) : Except String Unit :=
  changedComponents.forM fun component =>
    if component ∈ candidate.reload.transactional.enabledComponents then .ok ()
    else .error s!"transactional reload component \"{component.label}\" changed but is not enabled"

/-- The preflight of the changed components, when the config asks for one; `shadow` is how
it ends. -/
def preflight (shadow : List TransactionalReloadComponent → Except String Unit)
    (candidate : ConfigDocument) (changedComponents : List TransactionalReloadComponent) :
    Except String Unit :=
  if candidate.reload.transactional.shadowBeforeCommit then
    (shadow changedComponents).mapError RuntimeReloadIntegration.shadowFailed
  else .ok ()

/-- `RuntimeReloadIntegration.reload` up to the execution of its transaction: the components
of the adapters that it hands over. -/
def reachExecution (shadow : List TransactionalReloadComponent → Except String Unit)
    (previous candidate : ConfigDocument) : Except String (List TransactionalReloadComponent) :=
  if candidate.reload.mode ≠ .transactionalExperimental then
    .error "runtime transactional integration requires transactional-experimental mode"
  else do
    assertM11SupportedChange stableJson previous candidate
    let changedComponents := changedRuntimeComponents stableJson previous candidate
    checkEnabled candidate changedComponents
    preflight shadow candidate changedComponents
    pure (RuntimeReloadIntegration.createRuntimeComponents changedComponents)

end Reload

/-! ## Where a difference lies -/

/-- The places of the config that a component applies. -/
def InSection : TransactionalReloadComponent → List Step → Prop
  | .metrics, path => ∃ below, path = .field "observability" :: .field "metrics" :: below
  | .dashboard, path => ∃ below, path = .field "dashboard" :: below
  | .router, path => ∃ key ∈ ["defaultOutbound", "rules", "ruleSetFiles"], ∃ below,
      path = .field "route" :: .field key :: below
  | .policy, path => ∃ below, path = .field "route" :: .field "policies" :: below
  | .outbound, path => ∃ below, path = .field "outbounds" :: below
  | .dns, path => path = [.field "dns"] ∨
      ∃ key below, key ≠ "fakeIp" ∧ path = .field "dns" :: .field key :: below

/-! ## No object of the config holds a key twice -/

def sectionKeys : List String :=
  ["configVersion", "log", "limits", "dns", "geo", "plugins", "workers", "transport",
    "connectionPool", "hotReload", "reload", "probing", "observability", "dashboard", "tun",
    "inbounds", "outbounds", "route"]

theorem keys_fields (config : ConfigDocument) : Json.keys config.fields = sectionKeys := rfl

theorem nodup_fields (config : ConfigDocument) : (Json.keys config.fields).Nodup := by
  rw [keys_fields]
  decide

theorem distinct_withoutM11Components (config : ConfigDocument) :
    config.withoutM11Components.Distinct := by
  refine .object (config.nodup_fields.sublist (List.filter_sublist.map Prod.fst)) ?_
  have hvalue : ∀ value : ConfigValue, value.1.Distinct := fun value => value.2
  have hall : ∀ field ∈ config.fields, field.1 ∈ m11Keys ∨ field.2.Distinct := by
    simp [fields, m11Keys, hvalue]
  intro field hmem
  obtain ⟨hfield, hkey⟩ := List.mem_filter.mp hmem
  exact (hall field hfield).resolve_left (of_decide_eq_true hkey)

theorem distinct_routerConfigView (config : ConfigDocument) :
    config.routerConfigView.Distinct := by
  refine @Json.Distinct.object [(_, _), (_, _), (_, _)] ?_ ?_
  · show ["defaultOutbound", "rules", "ruleSetFiles"].Nodup
    decide
  · have hvalue : ∀ value : ConfigValue, value.1.Distinct := fun value => value.2
    simp [hvalue]

theorem keys_otherFields (dns : DnsSection) : Json.keys dns.otherFields = dns.others.keys := by
  rw [Json.keys, DnsSection.otherFields, List.map_map]
  rfl

theorem distinct_dnsConfigView (config : ConfigDocument) : config.dnsConfigView.Distinct := by
  refine .object ?_ ?_
  · rw [keys_otherFields]
    exact config.dns.others.nodup
  · intro field hmem
    obtain ⟨entry, -, rfl⟩ := List.mem_map.mp hmem
    exact entry.2.2

theorem distinct_view (config : ConfigDocument) (component : TransactionalReloadComponent) :
    (config.view component).Distinct := by
  cases component with
  | metrics => exact config.metrics.2
  | dashboard => exact config.dashboard.2
  | router => exact config.distinct_routerConfigView
  | policy => exact config.route.policies.2
  | outbound => exact config.outbounds.2
  | dns => exact config.distinct_dnsConfigView

/-! ## What is the same when nothing changed -/

section Complete

variable {localeCompare : String → String → Int} {number : Rat → List Char}

theorem mem_changedRuntimeComponents {stableJson : Json → String}
    {previous candidate : ConfigDocument} {component : TransactionalReloadComponent} :
    component ∈ changedRuntimeComponents stableJson previous candidate ↔
      stableJson (previous.view component) ≠ stableJson (candidate.view component) := by
  unfold changedRuntimeComponents
  rw [List.mem_filter, decide_eq_true_iff]
  exact and_iff_right (by cases component <;> decide)

/-- What stands when the checks let a reload through. -/
structure LetThrough (stableJson : Json → String) (previous candidate : ConfigDocument)
    (adapters : List TransactionalReloadComponent) : Prop where
  fakeIp : stableJson previous.dns.fakeIp.1 = stableJson candidate.dns.fakeIp.1
  unsupported : stableJson previous.withoutM11Components =
    stableJson candidate.withoutM11Components
  enabled : ∀ component ∈ changedRuntimeComponents stableJson previous candidate,
    component ∈ candidate.reload.transactional.enabledComponents
  adapters_eq : adapters = RuntimeReloadIntegration.createRuntimeComponents
    (changedRuntimeComponents stableJson previous candidate)

theorem bind_ok {α β : Type} {x : Except String α} {f : α → Except String β} {result : β}
    (h : (x >>= f) = .ok result) : ∃ a, x = .ok a ∧ f a = .ok result := by
  cases x with
  | error error => cases h
  | ok a => exact ⟨a, rfl, h⟩

theorem of_forM_ok {α : Type} {f : α → Except String Unit} {items : List α}
    (h : items.forM f = .ok ()) : ∀ item ∈ items, f item = .ok () := by
  induction items with
  | nil => rintro item ⟨⟩
  | cons head tail ih =>
    have hbind : (f head >>= fun _ => tail.forM f) = .ok () := h
    obtain ⟨⟨⟩, hhead, htail⟩ := bind_ok hbind
    intro item hmem
    rcases List.mem_cons.mp hmem with rfl | hmem
    · exact hhead
    · exact ih htail item hmem

theorem checkEnabled_ok {candidate : ConfigDocument}
    {changedComponents : List TransactionalReloadComponent}
    (h : checkEnabled candidate changedComponents = .ok ()) :
    ∀ component ∈ changedComponents,
      component ∈ candidate.reload.transactional.enabledComponents := by
  intro component hmem
  have hcheck := of_forM_ok h component hmem
  by_contra hdisabled
  rw [if_neg hdisabled] at hcheck
  cases hcheck

theorem letThrough_of_ok {stableJson : Json → String}
    {shadow : List TransactionalReloadComponent → Except String Unit}
    {previous candidate : ConfigDocument} {adapters : List TransactionalReloadComponent}
    (h : reachExecution stableJson shadow previous candidate = .ok adapters) :
    LetThrough stableJson previous candidate adapters := by
  unfold reachExecution at h
  by_cases hmode : candidate.reload.mode = .transactionalExperimental
  swap
  · rw [if_pos hmode] at h
    cases h
  rw [if_neg (not_not.mpr hmode)] at h
  obtain ⟨⟨⟩, hsupported, h⟩ := bind_ok h
  obtain ⟨⟨⟩, henabled, h⟩ := bind_ok h
  obtain ⟨⟨⟩, -, h⟩ := bind_ok h
  unfold assertM11SupportedChange at hsupported
  by_cases hfakeIp : stableJson previous.dns.fakeIp.1 = stableJson candidate.dns.fakeIp.1
  swap
  · rw [if_pos hfakeIp] at hsupported
    cases hsupported
  rw [if_neg (not_not.mpr hfakeIp)] at hsupported
  by_cases hrest : stableJson previous.withoutM11Components =
      stableJson candidate.withoutM11Components
  swap
  · rw [if_pos hrest] at hsupported
    cases hsupported
  exact ⟨hfakeIp, hrest, checkEnabled_ok henabled, (Except.ok.inj h).symm⟩

theorem count_createRuntimeComponents {changed : List TransactionalReloadComponent}
    {component : TransactionalReloadComponent} (h : component ∈ changed) :
    (RuntimeReloadIntegration.createRuntimeComponents changed).count component = 1 := by
  unfold RuntimeReloadIntegration.createRuntimeComponents
  refine (@List.count_filter _ _ _ (fun other => decide (other ∈ changed)) component _
    (decide_eq_true h)).trans ?_
  cases component <;> decide

/-- A difference between two configs lies in one of their sections. -/
theorem differs_section {previous candidate : ConfigDocument} {path : List Step}
    (h : Differs previous.toJson candidate.toJson path) :
    ∃ key x y below, path = .field key :: below ∧ (key, x) ∈ previous.fields ∧
      (key, y) ∈ candidate.fields ∧ Differs x y below := by
  cases h with
  | here hshape => exact absurd (List.Perm.refl sectionKeys) hshape
  | field _ hx hy hbelow => exact ⟨_, _, _, _, rfl, hx, hy, hbelow⟩

/-- The value of a section is the one that the fields hold at its place. -/
theorem value_eq (config : ConfigDocument) {i : Nat} {key : String} {x y : Json}
    (hx : (key, x) ∈ config.fields) (hy : config.fields[i]? = some (key, y)) : x = y :=
  Json.value_unique config.nodup_fields hx (List.mem_of_getElem? hy)

/-- What the comparison of the unsupported sections rules out. -/
theorem not_differs_unsupported {previous candidate : ConfigDocument}
    (h : Same previous.withoutM11Components candidate.withoutM11Components) {key : String}
    {x y : Json} {below : List Step} (hkey : key ∉ m11Keys) (hx : (key, x) ∈ previous.fields)
    (hy : (key, y) ∈ candidate.fields) : ¬ Differs x y below :=
  (h.value (List.mem_filter.mpr ⟨hx, decide_eq_true hkey⟩)
    (List.mem_filter.mpr ⟨hy, decide_eq_true hkey⟩)).not_differs

theorem differs_observability {previous candidate : ConfigDocument} {below : List Step}
    (h : Differs (.object [("metrics", previous.metrics.1)])
      (.object [("metrics", candidate.metrics.1)]) below) :
    InSection .metrics (.field "observability" :: below) ∧
      ¬ Same (previous.view .metrics) (candidate.view .metrics) := by
  cases h with
  | here hshape => exact absurd (List.Perm.refl ["metrics"]) hshape
  | field _ hx hy hbelow =>
    obtain ⟨rfl, rfl⟩ := Prod.mk.inj (List.mem_singleton.mp hx)
    obtain ⟨-, rfl⟩ := Prod.mk.inj (List.mem_singleton.mp hy)
    exact ⟨⟨_, rfl⟩, fun hsame => hsame.not_differs hbelow⟩

theorem routeKeys_nodup (route : RouteSection) :
    (Json.keys [("defaultOutbound", route.defaultOutbound.1), ("rules", route.rules.1),
      ("ruleSetFiles", route.ruleSetFiles.1), ("policies", route.policies.1)]).Nodup := by
  show ["defaultOutbound", "rules", "ruleSetFiles", "policies"].Nodup
  decide

theorem policies_mem {route : RouteSection} : ("policies", route.policies.1) ∈
    [("defaultOutbound", route.defaultOutbound.1), ("rules", route.rules.1),
      ("ruleSetFiles", route.ruleSetFiles.1), ("policies", route.policies.1)] :=
  List.mem_append_right [_, _, _] (List.mem_singleton_self _)

theorem mem_routerFields {route : RouteSection} {key : String} {value : Json}
    (h : (key, value) ∈ [("defaultOutbound", route.defaultOutbound.1), ("rules", route.rules.1),
      ("ruleSetFiles", route.ruleSetFiles.1), ("policies", route.policies.1)])
    (hkey : key ≠ "policies") :
    (key, value) ∈ [("defaultOutbound", route.defaultOutbound.1), ("rules", route.rules.1),
      ("ruleSetFiles", route.ruleSetFiles.1)] := by
  rcases List.mem_append.mp
    (show (key, value) ∈ [_, _, _] ++ [("policies", route.policies.1)] from h) with hmem | hmem
  · exact hmem
  · exact absurd (Prod.mk.inj (List.mem_singleton.mp hmem)).1 hkey

theorem fakeIp_unique {dns : DnsSection} {value : Json}
    (h : ("fakeIp", value) ∈ ("fakeIp", dns.fakeIp.1) :: dns.otherFields) :
    value = dns.fakeIp.1 := by
  rcases List.mem_cons.mp h with heq | hmem
  · exact (Prod.mk.inj heq).2
  · refine absurd (Json.mem_keys hmem) ?_
    rw [keys_otherFields]
    exact dns.fakeIp_notMem

theorem differs_route {previous candidate : ConfigDocument} {below : List Step}
    (h : Differs previous.route.toJson candidate.route.toJson below) :
    ∃ component, InSection component (.field "route" :: below) ∧
      ¬ Same (previous.view component) (candidate.view component) := by
  cases h with
  | here hshape =>
    exact absurd (List.Perm.refl ["defaultOutbound", "rules", "ruleSetFiles", "policies"]) hshape
  | @field _ _ key x y below _ hx hy hbelow =>
    by_cases hkey : key = "policies"
    · subst hkey
      obtain rfl := Json.value_unique (routeKeys_nodup _) hx policies_mem
      obtain rfl := Json.value_unique (routeKeys_nodup _) hy policies_mem
      exact ⟨.policy, ⟨_, rfl⟩, fun hsame => hsame.not_differs hbelow⟩
    · have hx' := mem_routerFields hx hkey
      exact ⟨.router, ⟨key, Json.mem_keys hx', _, rfl⟩,
        fun hsame => (hsame.value hx' (mem_routerFields hy hkey)).not_differs hbelow⟩

theorem differs_dns {previous candidate : ConfigDocument} {below : List Step}
    (hfakeIp : Same previous.dns.fakeIp.1 candidate.dns.fakeIp.1)
    (h : Differs previous.dns.toJson candidate.dns.toJson below) :
    InSection .dns (.field "dns" :: below) ∧
      ¬ Same (previous.view .dns) (candidate.view .dns) := by
  cases h with
  | here hshape =>
    refine ⟨Or.inl rfl, fun hsame => hshape ?_⟩
    exact hsame.keys_perm.cons "fakeIp"
  | @field _ _ key x y below _ hx hy hbelow =>
    have hother : ∀ {config : ConfigDocument} {value : Json}, key ≠ "fakeIp" →
        (key, value) ∈ ("fakeIp", config.dns.fakeIp.1) :: config.dns.otherFields →
        (key, value) ∈ config.dns.otherFields := by
      intro config value hkey hmem
      rcases List.mem_cons.mp hmem with heq | hmem
      · exact absurd (Prod.mk.inj heq).1 hkey
      · exact hmem
    by_cases hkey : key = "fakeIp"
    · subst hkey
      obtain rfl := fakeIp_unique hx
      obtain rfl := fakeIp_unique hy
      exact absurd hbelow hfakeIp.not_differs
    · exact ⟨Or.inr ⟨key, _, hkey, rfl⟩,
        fun hsame => (hsame.value (hother hkey hx) (hother hkey hy)).not_differs hbelow⟩

/-- A difference in a section that reloads support lies in the section of a component whose
view changed. -/
theorem differs_m11 {previous candidate : ConfigDocument} {key : String} {x y : Json}
    {below : List Step} (hfakeIp : Same previous.dns.fakeIp.1 candidate.dns.fakeIp.1)
    (hkey : key ∈ m11Keys) (hreload : key ≠ "reload") (hx : (key, x) ∈ previous.fields)
    (hy : (key, y) ∈ candidate.fields) (h : Differs x y below) :
    ∃ component, InSection component (.field key :: below) ∧
      ¬ Same (previous.view component) (candidate.view component) := by
  have hmem : key = "observability" ∨ key = "dashboard" ∨ key = "reload" ∨ key = "route" ∨
      key = "dns" ∨ key = "outbounds" := by
    simpa [m11Keys] using hkey
  rcases hmem with rfl | rfl | rfl | rfl | rfl | rfl
  · obtain rfl := @value_eq previous 12 _ _ _ hx rfl
    obtain rfl := @value_eq candidate 12 _ _ _ hy rfl
    exact ⟨.metrics, differs_observability h⟩
  · obtain rfl := @value_eq previous 13 _ _ _ hx rfl
    obtain rfl := @value_eq candidate 13 _ _ _ hy rfl
    exact ⟨.dashboard, ⟨below, rfl⟩, fun hsame => hsame.not_differs h⟩
  · exact absurd rfl hreload
  · obtain rfl := @value_eq previous 17 _ _ _ hx rfl
    obtain rfl := @value_eq candidate 17 _ _ _ hy rfl
    exact differs_route h
  · obtain rfl := @value_eq previous 3 _ _ _ hx rfl
    obtain rfl := @value_eq candidate 3 _ _ _ hy rfl
    exact ⟨.dns, differs_dns hfakeIp h⟩
  · obtain rfl := @value_eq previous 16 _ _ _ hx rfl
    obtain rfl := @value_eq candidate 16 _ _ _ hy rfl
    exact ⟨.outbound, ⟨below, rfl⟩, fun hsame => hsame.not_differs h⟩

/-- A reload that goes on to its transaction has an enabled component and one adapter for
every difference outside the `reload` section; what is compared is equality up to the order
of keys. -/
theorem change_detection_complete (horder : LocaleOrder localeCompare)
    (hnumber : NumberText number)
    (shadow : List TransactionalReloadComponent → Except String Unit)
    (previous candidate : ConfigDocument) (adapters : List TransactionalReloadComponent)
    (h : reachExecution (Json.stableJson localeCompare number) shadow previous candidate =
      .ok adapters) :
    (∀ path, Differs previous.toJson candidate.toJson path →
      (∃ below, path = .field "reload" :: below) ∨
        ∃ component ∈ changedRuntimeComponents (Json.stableJson localeCompare number) previous
          candidate, InSection component path) ∧
    (∀ component ∈ changedRuntimeComponents (Json.stableJson localeCompare number) previous
        candidate,
      component ∈ candidate.reload.transactional.enabledComponents ∧
        adapters.count component = 1) ∧
    ∀ x y : ConfigValue, Json.stableJson localeCompare number x.1 =
      Json.stableJson localeCompare number y.1 ↔ Same x.1 y.1 := by
  have hthrough := letThrough_of_ok h
  have hstable : ∀ {x y : Json}, x.Distinct → y.Distinct →
      (Json.stableJson localeCompare number x = Json.stableJson localeCompare number y ↔
        Same x y) := Json.stableJson_eq_iff horder hnumber
  refine ⟨?_, ?_, fun x y => hstable x.2 y.2⟩
  · intro path hdiffers
    obtain ⟨key, x, y, below, rfl, hx, hy, hbelow⟩ := differs_section hdiffers
    by_cases hkey : key ∈ m11Keys
    swap
    · have hsame := (hstable previous.distinct_withoutM11Components
        candidate.distinct_withoutM11Components).mp hthrough.unsupported
      exact absurd hbelow (not_differs_unsupported hsame hkey hx hy)
    by_cases hreload : key = "reload"
    · exact Or.inl ⟨below, hreload ▸ rfl⟩
    refine Or.inr ?_
    have hfakeIp := (hstable previous.dns.fakeIp.2 candidate.dns.fakeIp.2).mp hthrough.fakeIp
    obtain ⟨component, hsection, hsame⟩ := differs_m11 hfakeIp hkey hreload hx hy hbelow
    refine ⟨component, mem_changedRuntimeComponents.mpr fun heq => hsame ?_, hsection⟩
    exact (hstable (previous.distinct_view component) (candidate.distinct_view component)).mp heq
  · intro component hmem
    rw [hthrough.adapters_eq]
    exact ⟨hthrough.enabled component hmem, count_createRuntimeComponents hmem⟩

end Complete

def emptyValue : ConfigValue :=
  ⟨.object [], .object List.nodup_nil (by rintro field ⟨⟩)⟩

/-- A config whose sections are empty but for the switch of the dashboard. -/
def dashboardDocument (enabled : Bool) : ConfigDocument where
  configVersion := ⟨.number 1, .scalar rfl⟩
  log := emptyValue
  limits := emptyValue
  dns := ⟨emptyValue, ∅, by rintro ⟨⟩⟩
  geo := emptyValue
  plugins := emptyValue
  workers := emptyValue
  transport := emptyValue
  connectionPool := emptyValue
  hotReload := emptyValue
  reload := ⟨.transactionalExperimental, ⟨[.dashboard], 5000, false, true⟩⟩
  probing := emptyValue
  metrics := emptyValue
  dashboard := ⟨.object [("enabled", .boolean enabled)],
    .object (List.nodup_singleton _) (by
      intro field hmem
      rw [List.mem_singleton.mp hmem]
      exact .scalar rfl)⟩
  tun := emptyValue
  inbounds := emptyValue
  outbounds := emptyValue
  route := ⟨emptyValue, emptyValue, emptyValue, emptyValue⟩

theorem dashboardDocument_changed :
    changedRuntimeComponents (Json.stableJson Json.caseCompare Json.quotientChars)
      (dashboardDocument false) (dashboardDocument true) = [.dashboard] := by
  have hdashboard : Json.stableJson Json.caseCompare Json.quotientChars
      ((dashboardDocument false).view .dashboard) ≠
        Json.stableJson Json.caseCompare Json.quotientChars
          ((dashboardDocument true).view .dashboard) := by
    intro heq
    have hsame := (Json.stableJson_eq_iff Json.caseCompare_order Json.quotientChars_spec
      (distinct_view _ .dashboard) (distinct_view _ .dashboard)).mp heq
    have hvalue : Same (.boolean false) (.boolean true) :=
      hsame.value (List.mem_singleton_self _) (List.mem_singleton_self _)
    cases hvalue
  have hview : ∀ component, component ≠ .dashboard →
      (dashboardDocument false).view component = (dashboardDocument true).view component := by
    intro component hne
    cases component <;> first | rfl | exact absurd rfl hne
  unfold changedRuntimeComponents
  rw [List.filter_congr (q := fun component => component = .dashboard)]
  · decide
  · intro component _
    by_cases hcomponent : component = .dashboard
    · subst hcomponent
      exact (decide_eq_true hdashboard).trans (decide_eq_true rfl).symm
    · rw [hview component hcomponent]
      simp [hcomponent]

theorem dashboardDocument_reload :
    reachExecution (Json.stableJson Json.caseCompare Json.quotientChars) (fun _ => .ok ())
      (dashboardDocument false) (dashboardDocument true) = .ok [.dashboard] := by
  unfold reachExecution
  rw [if_neg (by decide), dashboardDocument_changed]
  have hsupported : assertM11SupportedChange
      (Json.stableJson Json.caseCompare Json.quotientChars) (dashboardDocument false)
      (dashboardDocument true) = .ok () := by
    have hfakeIp : (dashboardDocument false).dns.fakeIp = (dashboardDocument true).dns.fakeIp := rfl
    have hrest : (dashboardDocument false).withoutM11Components =
        (dashboardDocument true).withoutM11Components := rfl
    unfold assertM11SupportedChange
    rw [hfakeIp, hrest, if_neg (not_not.mpr rfl), if_neg (not_not.mpr rfl)]
  rw [hsupported]
  rfl

theorem change_detection_dashboard :
    TransactionalReloadComponent.dashboard ∈
        (dashboardDocument true).reload.transactional.enabledComponents ∧
      [TransactionalReloadComponent.dashboard].count .dashboard = 1 :=
  (change_detection_complete Json.caseCompare_order Json.quotientChars_spec (fun _ => .ok ())
    (dashboardDocument false) (dashboardDocument true) [.dashboard]
    dashboardDocument_reload).2.1 .dashboard
      (by rw [dashboardDocument_changed]; exact List.mem_singleton_self _)

end ConfigDocument

end Sepigs
