import Sepigs.Config.Expansion

/-!
# Loading a config (`config/loader.ts`, `config/migrate.ts`)

The file of a config is read, migrated and parsed.  Where the config names files of rules, the
loader puts their rules before those of the config and has it parsed again.
-/

namespace Sepigs

/-- `node:fs`, `node:path`, and the parsers of the two formats. -/
structure Files where
  readFile : String → Except String String
  isAbsolute : String → Bool
  resolve : List String → String
  dirname : String → String
  extname : String → String
  parseYaml : String → Except String Json
  parseJson : String → Except String Json

section Loading

variable (node : Node) (files : Files)

def readTextFile (path label : String) : Except ConfigError String :=
  match files.readFile path with
  | .ok raw => .ok raw
  | .error message => .error ⟨s!"failed to read {label} \"{path}\": {message}"⟩

def parseStructuredData (path raw : String) : Except ConfigError Json :=
  let extension := node.toLowerCase (files.extname path)
  let yaml := extension = ".yaml" || extension = ".yml"
  match if yaml then files.parseYaml raw else files.parseJson raw with
  | .ok parsed => .ok parsed
  | .error message =>
    let format := if yaml then "YAML" else "JSON"
    .error ⟨s!"failed to parse {format} \"{path}\": {message}"⟩

def extractRuleSetRules (input : Json) (path : String) : Except ConfigError (List Json) :=
  match input with
  | .array rules => .ok rules
  | .object fields =>
    match fields.lookup "rules" with
    | some (.array rules) => .ok rules
    | _ => .error ⟨s!"rule-set \"{path}\" must be an array or an object with a rules array"⟩
  | _ => .error ⟨s!"rule-set \"{path}\" must be an array or an object with a rules array"⟩

/-- `typeof value === "string" && value.length > 0` -/
def nonEmptyString : Option Json → Option String
  | some (.string text) => if text = "" then none else some text
  | _ => none

/-- `{ ...rawRule, tag, outboundTag }` -/
def ruleOfSet (ruleSet : RouteRuleSetFileConfig) (rawRule : Json) (index : Nat) :
    Except ConfigError Json :=
  match rawRule with
  | .object fields =>
    let outboundTag := (nonEmptyString (fields.lookup "outboundTag")).getD ruleSet.outboundTag
    let tag := match nonEmptyString (fields.lookup "tag") with
      | some tag => s!"{ruleSet.tag}:{tag}"
      | none => s!"{ruleSet.tag}:{index}"
    .ok (.object ([("tag", .string tag), ("outboundTag", .string outboundTag)] ++ fields))
  | _ => .error ⟨s!"rule-set \"{ruleSet.tag}\" rule[{index}] must be an object"⟩

def loadRuleSetFile (ruleSet : RouteRuleSetFileConfig) (baseDir : String) :
    Except ConfigError (List Json) := do
  let resolvedPath :=
    if files.isAbsolute ruleSet.path then ruleSet.path else files.resolve [baseDir, ruleSet.path]
  let raw ← readTextFile files resolvedPath s!"rule-set {ruleSet.tag}"
  let parsed ← parseStructuredData node files resolvedPath raw
  let rawRules ← extractRuleSetRules parsed resolvedPath
  rawRules.zipIdx.mapM fun (rawRule, index) => ruleOfSet ruleSet rawRule index

/-- The loop of `expandRuleSetFiles`. -/
def loadRuleSetFiles (ruleSets : List RouteRuleSetFileConfig) (baseDir : String) :
    Except ConfigError (List Json) := do
  let expandedRules ← ruleSets.mapM fun ruleSet => loadRuleSetFile node files ruleSet baseDir
  pure expandedRules.flatten

/-- `sections` are the fields of the config that are not read here. -/
def expandRuleSetFiles (others : Json → OtherSections) (config : ParsedConfig) (sections : Record)
    (baseDir : String) : Except ConfigError ParsedConfig :=
  if config.route.ruleSetFiles.length = 0 then .ok config
  else do
    let expandedRules ← loadRuleSetFiles node files config.route.ruleSetFiles baseDir
    parseConfig node others (.object (config.withRules expandedRules sections))

/-! ## The whole config -/

structure MigrationResult where
  config : Json
  warnings : List String

/-- The checks of `configVersion`, and the version 1 for one that is missing or 0. -/
def migrateConfig (input : Json) : Except ConfigError MigrationResult :=
  match input with
  | .object fields =>
    let config := Json.object (("configVersion", numberJson 1) :: fields)
    match fields.lookup "configVersion" with
    | none =>
      .ok ⟨config, ["configVersion is missing; treating config as v0 and migrating to v1"]⟩
    | some (.number version) =>
      if version.den ≠ 1 then .error ⟨"configVersion must be an integer"⟩
      else if version = 1 then .ok ⟨input, []⟩
      else if version = 0 then
        .ok ⟨config, ["configVersion 0 is deprecated; migrated to configVersion 1"]⟩
      else .error ⟨s!"configVersion {version} is newer than this sepigs build supports"⟩
    | some _ => .error ⟨"configVersion must be an integer"⟩
  | _ => .error ⟨"config root must be an object"⟩

/-- What is read of the file of the config. -/
def readConfigFile (path : String) : Except ConfigError MigrationResult := do
  let raw ← readTextFile files path "config"
  let parsed ← parseStructuredData node files path raw
  migrateConfig parsed

/-- The warnings that are printed, and the config or the error. -/
def loadConfig (others : Json → OtherSections) (sections : Json → Record) (path : String) :
    List String × Except ConfigError ParsedConfig :=
  match readConfigFile node files path with
  | .error error => ([], .error error)
  | .ok migration =>
    (migration.warnings.map fun warning => s!"sepigs config warning: {warning}", do
      let config ← parseConfig node others migration.config
      expandRuleSetFiles node files others config (sections migration.config)
        (files.dirname (files.resolve [path])))

end Loading

section Loaded

variable {node : Node} {files : Files}

theorem parseConfig_object_iff {others : Json → OtherSections} {input : Record}
    {config : ParsedConfig} :
    parseConfig node others (.object input) = .ok config ↔
      (readConfig node (others (.object input)) input).Clean ∧
        (readConfig node (others (.object input)) input).value = config := by
  show (if 0 < (readConfig node (others (.object input)) input).errors.length then
    .error (invalidConfig _) else .ok _ : Except ConfigError ParsedConfig) = .ok config ↔ _
  unfold Checked.Clean
  split
  · next hpos =>
    refine iff_of_false (fun h => by cases h) fun h => ?_
    rw [h.1] at hpos
    exact absurd hpos (Nat.lt_irrefl 0)
  · next hzero =>
    rw [Except.ok.injEq]
    exact (and_iff_right (List.length_eq_zero_iff.mp (by omega))).symm

theorem parseConfig_form
    (hlower : ∀ s, node.toLowerCase (node.toLowerCase s) = node.toLowerCase s)
    {others : Json → OtherSections} {input : Json} {config : ParsedConfig}
    (h : parseConfig node others input = .ok config) : config.Form node ∧ config.Checks := by
  obtain ⟨fields, rfl, -⟩ := parseConfig_ok node h
  obtain ⟨hclean, rfl⟩ := parseConfig_object_iff.mp h
  exact ⟨readConfig_read hlower hclean, readConfig_checks hclean⟩

/-- The second parse returns exactly where the rules can be added, and then adds them. -/
theorem parseConfig_expanded_iff {config : ParsedConfig} (h : config.Form node)
    (hplain : config.geo.Plain) (hchecks : config.Checks) {others : Json → OtherSections} {expandedRules : List Json}
    {sections : Record} {expanded : ParsedConfig} :
    parseConfig node others (.object (config.withRules expandedRules sections)) = .ok expanded ↔
      (others (.object (config.withRules expandedRules sections)) = .quiet ∧
        config.Takes node expandedRules) ∧
      expanded = config.expanded node
        (parseAll (parseRouteRule node config.geo) "route.rules" expandedRules).value := by
  rw [parseConfig_object_iff, readConfig_expanded_clean_iff h hplain hchecks, readConfig_expanded h hplain]
  simp only [Checked.value_bind, Checked.value_pure]
  exact and_congr_right fun _ => eq_comm

/-- Rules that were read from rule-set files have the form of the config's own. -/
theorem ParsedConfig.Takes.form {config : ParsedConfig} {expandedRules : List Json}
    (h : config.Takes node expandedRules) (hgeo : config.geo.Form node) :
    ∀ rule ∈ (parseAll (parseRouteRule node config.geo) "route.rules" expandedRules).value,
      rule.Form node config.geo := by
  intro rule hrule
  obtain ⟨item, p, hclean, hsome⟩ := mem_parseAll h.read hrule
  exact parseRouteRule_read hgeo hclean hsome

/-- The rules of the files decide first, and the config's own rules decide the rest as they did. -/
def DecidesFirst (node : Node) (route : RouterConfig) (rules : List RouteRuleConfig)
    (expanded : RouterConfig) : Prop :=
  ∃ router added router', Router.create node route = .ok router ∧
    Router.create node { route with rules := rules } = .ok added ∧
    Router.create node expanded = .ok router' ∧
    ∀ destination, router'.matchRequest node destination =
      if (added.matchRequest node destination).matched then added.matchRequest node destination
      else router.matchRequest node destination

theorem decidesFirst_nil {route : RouterConfig} {geo : GeoConfig} (h : route.Form node geo) :
    DecidesFirst node route [] route := by
  obtain ⟨router, -, -, hrouter, -⟩ :=
    @RouterConfig.Form.create_expanded node geo route h [] fun rule hrule => by cases hrule
  exact ⟨router, ⟨route.defaultOutbound, []⟩, router, hrouter, rfl, hrouter, fun _ => rfl⟩

/-- Where `expandRuleSetFiles` returns. -/
def Expandable (node : Node) (files : Files) (others : Json → OtherSections)
    (config : ParsedConfig) (sections : Record) (baseDir : String) : Prop :=
  config.route.ruleSetFiles = [] ∨
    ∃ expandedRules,
      loadRuleSetFiles node files config.route.ruleSetFiles baseDir = .ok expandedRules ∧
      others (.object (config.withRules expandedRules sections)) = .quiet ∧
      config.Takes node expandedRules

/-- Nothing changes but the rules; those of the files decide first. -/
structure Expands (node : Node) (files : Files) (config : ParsedConfig) (baseDir : String)
    (expanded : ParsedConfig) : Prop where
  unchanged : expanded = { config with route := { config.route with rules := expanded.route.rules } }
  decides : ∃ expandedRules rules,
    loadRuleSetFiles node files config.route.ruleSetFiles baseDir = .ok expandedRules ∧
    parseAll (parseRouteRule node config.geo) "route.rules" expandedRules = pure rules ∧
    DecidesFirst node config.route rules expanded.route

theorem expandRuleSetFiles_eq_ok_iff {others : Json → OtherSections} {config expanded : ParsedConfig}
    {sections : Record} {baseDir : String} :
    expandRuleSetFiles node files others config sections baseDir = .ok expanded ↔
      config.route.ruleSetFiles = [] ∧ config = expanded ∨
        config.route.ruleSetFiles ≠ [] ∧ ∃ expandedRules,
          loadRuleSetFiles node files config.route.ruleSetFiles baseDir = .ok expandedRules ∧
          parseConfig node others (.object (config.withRules expandedRules sections)) =
            .ok expanded := by
  unfold expandRuleSetFiles
  by_cases hnil : config.route.ruleSetFiles = []
  · simp [hnil]
  · rw [if_neg (List.length_eq_zero_iff.not.mpr hnil)]
    cases hload : loadRuleSetFiles node files config.route.ruleSetFiles baseDir with
    | error error =>
      refine iff_of_false (fun h => by cases h) ?_
      rintro (⟨h, -⟩ | ⟨-, expandedRules, ⟨⟩, -⟩)
      exact hnil h
    | ok expandedRules =>
      constructor
      · exact fun h => Or.inr ⟨hnil, expandedRules, rfl, h⟩
      · rintro (⟨h, -⟩ | ⟨-, _, ⟨⟩, h⟩)
        · exact absurd h hnil
        · exact h

theorem expandRuleSetFiles_ok_iff {config : ParsedConfig} (hform : config.Form node)
    (hplain : config.geo.Plain) (hchecks : config.Checks) (others : Json → OtherSections) (sections : Record)
    (baseDir : String) :
    (∃ expanded, expandRuleSetFiles node files others config sections baseDir = .ok expanded) ↔
      Expandable node files others config sections baseDir := by
  constructor
  · rintro ⟨expanded, h⟩
    rcases expandRuleSetFiles_eq_ok_iff.mp h with ⟨hnil, -⟩ | ⟨-, expandedRules, hload, hparse⟩
    · exact Or.inl hnil
    · exact Or.inr ⟨expandedRules, hload, ((parseConfig_expanded_iff hform hplain hchecks).mp hparse).1⟩
  · intro h
    by_cases hnil : config.route.ruleSetFiles = []
    · exact ⟨config, expandRuleSetFiles_eq_ok_iff.mpr (Or.inl ⟨hnil, rfl⟩)⟩
    · obtain ⟨expandedRules, hload, htakes⟩ := h.resolve_left hnil
      exact ⟨_, expandRuleSetFiles_eq_ok_iff.mpr (Or.inr ⟨hnil, expandedRules, hload,
        (parseConfig_expanded_iff hform hplain hchecks).mpr ⟨htakes, rfl⟩⟩)⟩

theorem expandRuleSetFiles_expands {config expanded : ParsedConfig} (hform : config.Form node)
    (hplain : config.geo.Plain) (hchecks : config.Checks) {others : Json → OtherSections} {sections : Record} {baseDir : String}
    (h : expandRuleSetFiles node files others config sections baseDir = .ok expanded) :
    Expands node files config baseDir expanded := by
  rcases expandRuleSetFiles_eq_ok_iff.mp h with ⟨hnil, rfl⟩ | ⟨-, expandedRules, hload, hparse⟩
  · refine ⟨rfl, [], [], ?_, rfl, decidesFirst_nil hform.route⟩
    rw [hnil]
    rfl
  · obtain ⟨⟨-, htakes⟩, rfl⟩ := (parseConfig_expanded_iff hform hplain hchecks).mp hparse
    exact ⟨rfl, expandedRules, _, hload, Checked.eq_pure_of_clean htakes.read,
      hform.route.create_expanded (htakes.form hform.geo)⟩

/-- The migration leaves every section alone and gives the version 1, which needs no migration. -/
theorem migrateConfig_ok {input : Json} {migration : MigrationResult}
    (h : migrateConfig input = .ok migration) :
    ∃ fields migrated, input = .object fields ∧ migration.config = .object migrated ∧
      (∀ key, key ≠ "configVersion" → migrated.lookup key = fields.lookup key) ∧
      migrateConfig migration.config = .ok ⟨migration.config, []⟩ := by
  cases input with
  | object fields =>
    have hother (key : String) (hkey : key ≠ "configVersion") :
        List.lookup key (("configVersion", numberJson 1) :: fields) = fields.lookup key := by
      rw [lookup_field, if_neg hkey]
    have hmigrated : migrateConfig (.object (("configVersion", numberJson 1) :: fields)) =
        .ok ⟨.object (("configVersion", numberJson 1) :: fields), []⟩ := by
      simp [migrateConfig, numberJson]
    have hinput := h
    unfold migrateConfig at h
    simp only at h
    split at h
    · cases h
      exact ⟨fields, _, rfl, rfl, hother, hmigrated⟩
    · split_ifs at h
      · cases h
        exact ⟨fields, fields, rfl, rfl, fun _ _ => rfl, hinput⟩
      · cases h
        exact ⟨fields, _, rfl, rfl, hother, hmigrated⟩
    · cases h
  | _ => cases h

/-- `loadConfig` returns a config exactly where the file is read, migrated and accepted and the
rules of its rule-set files can be added; and those rules decide first.  A geo table named `__proto__`
would be lost on the way to the second parse. -/
theorem load_config_expands (node : Node)
    (hlower : ∀ s, node.toLowerCase (node.toLowerCase s) = node.toLowerCase s)
    (others : Json → OtherSections) (sections : Json → Record) (files : Files) (path : String)
    (hplain : ∀ migration config, readConfigFile node files path = .ok migration →
      parseConfig node others migration.config = .ok config → config.geo.Plain) :
    ((∃ loaded, (loadConfig node files others sections path).2 = .ok loaded) ↔
      ∃ migration config, readConfigFile node files path = .ok migration ∧
        parseConfig node others migration.config = .ok config ∧
        Expandable node files others config (sections migration.config)
          (files.dirname (files.resolve [path]))) ∧
    ∀ loaded, (loadConfig node files others sections path).2 = .ok loaded →
      ∃ migration config, readConfigFile node files path = .ok migration ∧
        parseConfig node others migration.config = .ok config ∧
        Expands node files config (files.dirname (files.resolve [path])) loaded := by
  unfold loadConfig
  cases hread : readConfigFile node files path with
  | error error =>
    refine ⟨iff_of_false ?_ ?_, ?_⟩
    · rintro ⟨loaded, ⟨⟩⟩
    · rintro ⟨migration, config, ⟨⟩, -⟩
    · rintro loaded ⟨⟩
  | ok migration =>
    cases hparse : parseConfig node others migration.config with
    | error error =>
      simp only [hparse]
      refine ⟨iff_of_false ?_ ?_, ?_⟩
      · rintro ⟨loaded, ⟨⟩⟩
      · rintro ⟨_, config, ⟨⟩, hconfig, -⟩
        cases hparse.symm.trans hconfig
      · rintro loaded ⟨⟩
    | ok config =>
      obtain ⟨hform, hchecks⟩ := parseConfig_form hlower hparse
      have hplain := hplain migration config hread hparse
      simp only [hparse]
      constructor
      · refine (expandRuleSetFiles_ok_iff hform hplain hchecks others (sections migration.config)
          (files.dirname (files.resolve [path]))).trans ?_
        constructor
        · exact fun hexpandable => ⟨migration, config, rfl, hparse, hexpandable⟩
        · rintro ⟨_, config', ⟨⟩, hconfig, hexpandable⟩
          cases hparse.symm.trans hconfig
          exact hexpandable
      · intro loaded hloaded
        exact ⟨migration, config, rfl, hparse, expandRuleSetFiles_expands hform hplain hchecks hloaded⟩

end Loaded

/-! ## A file of one rule -/

theorem toLower_toLower (s : String) : s.toLower.toLower = s.toLower := by
  have hchar (c : Char) : c.toLower.toLower = c.toLower := by
    have hlower : ¬ (c.toLower.val ≥ 'A'.val ∧ c.toLower.val ≤ 'Z'.val) := by
      unfold Char.toLower
      split <;> grind [UInt32.toNat_add, Char.toNat_val]
    exact dif_neg hlower
  show (s.map Char.toLower).map Char.toLower = s.map Char.toLower
  rw [String.map_map, show Char.toLower ∘ Char.toLower = Char.toLower from funext hchar]

/-- The config names the file `ads.yaml`, for `blocked`. -/
def adFields : Record :=
  [("configVersion", .number 1),
    ("inbounds", .array [.object [("type", .string "http"), ("tag", .string "http-in"),
      ("listen", .string "127.0.0.1"), ("port", .number 8080)]]),
    ("outbounds", .array [.object [("type", .string "direct"), ("tag", .string "direct")],
      .object [("type", .string "block"), ("tag", .string "blocked")]]),
    ("route", .object [("defaultOutbound", .string "direct"), ("rules", .array []),
      ("ruleSetFiles", .array [.object [("tag", .string "ads"), ("path", .string "ads.yaml"),
        ("outboundTag", .string "blocked")]])])]

def adConfigText : String :=
  "configVersion: 1\n" ++
  "inbounds:\n- type: http\n  tag: http-in\n  listen: 127.0.0.1\n  port: 8080\n" ++
  "outbounds:\n- type: direct\n  tag: direct\n- type: block\n  tag: blocked\n" ++
  "route:\n  defaultOutbound: direct\n  rules: []\n" ++
  "  ruleSetFiles:\n  - tag: ads\n    path: ads.yaml\n    outboundTag: blocked\n"

def adRulesText : String := "- domainSuffix:\n  - ads.example\n"

def adFiles : Files where
  readFile path :=
    if path = "config.yaml" then .ok adConfigText
    else if path = "/etc/sepigs/ads.yaml" then .ok adRulesText
    else .error "ENOENT"
  isAbsolute path := path.toList.head? = some '/'
  resolve paths :=
    if paths = ["config.yaml"] then "/etc/sepigs/config.yaml" else "/".intercalate paths
  dirname path := if path = "/etc/sepigs/config.yaml" then "/etc/sepigs" else "."
  extname path := if path = "config.yaml" ∨ path = "/etc/sepigs/ads.yaml" then ".yaml" else ""
  parseYaml raw :=
    if raw = adConfigText then .ok (.object adFields)
    else if raw = adRulesText then
      .ok (.array [.object [("domainSuffix", .array [.string "ads.example"])]])
    else .error "unexpected text"
  parseJson _ := .error "unexpected text"

def adConfig : ParsedConfig := (readConfig asciiNode .quiet adFields).value

def adRules : List Json :=
  (loadRuleSetFiles asciiNode adFiles adConfig.route.ruleSetFiles "/etc/sepigs").toOption.getD []

theorem adRules_loaded :
    loadRuleSetFiles asciiNode adFiles adConfig.route.ruleSetFiles "/etc/sepigs" = .ok adRules := by
  have hsome : (loadRuleSetFiles asciiNode adFiles adConfig.route.ruleSetFiles
      "/etc/sepigs").toOption.isSome = true := by
    decide +kernel
  unfold adRules
  cases hload : loadRuleSetFiles asciiNode adFiles adConfig.route.ruleSetFiles "/etc/sepigs" with
  | ok rules => rfl
  | error error =>
    rw [hload] at hsome
    cases hsome

theorem adFields_read :
    readConfigFile asciiNode adFiles "config.yaml" = .ok ⟨.object adFields, []⟩ := by
  have hlower : asciiNode.toLowerCase ".yaml" = ".yaml" := by
    decide +kernel
  have hparsed : parseStructuredData asciiNode adFiles "config.yaml" adConfigText =
      .ok (.object adFields) := by
    simp [parseStructuredData, adFiles, hlower]
  show (parseStructuredData asciiNode adFiles "config.yaml" adConfigText >>= migrateConfig) = _
  rw [hparsed]
  rfl

theorem load_config_expands_ads : ∃ loaded,
    (loadConfig asciiNode adFiles quietSections (fun _ => []) "config.yaml").2 = .ok loaded ∧
      Expands asciiNode adFiles adConfig "/etc/sepigs" loaded := by
  have hparse : parseConfig asciiNode quietSections (.object adFields) = .ok adConfig :=
    parseConfig_of_clean asciiNode (by decide +kernel)
  obtain ⟨hreturns, hexpands⟩ := load_config_expands asciiNode toLower_toLower quietSections
    (fun _ => []) adFiles "config.yaml" fun migration config hread hconfig => by
      cases adFields_read.symm.trans hread
      cases hparse.symm.trans hconfig
      exact ⟨by decide +kernel, by decide +kernel⟩
  obtain ⟨loaded, hloaded⟩ := hreturns.mpr ⟨⟨.object adFields, []⟩, adConfig, adFields_read, hparse,
    Or.inr ⟨adRules, adRules_loaded, rfl, (by decide +kernel), (by decide +kernel)⟩⟩
  obtain ⟨_, config, hread, hconfig, hexpanded⟩ := hexpands loaded hloaded
  cases adFields_read.symm.trans hread
  cases hparse.symm.trans hconfig
  exact ⟨loaded, hloaded, hexpanded⟩

end Sepigs
