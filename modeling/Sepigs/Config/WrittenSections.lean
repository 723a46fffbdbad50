import Sepigs.Config.Written

/-!
# Sections written again (`parseConfig` in `config/schema.ts`)

The form of each section that `parseConfig` returns.  What a section is read from without a
complaint has the form, and a section of the form is read from what it is written as.
-/

namespace Sepigs

/-! ## Geo tables -/

section Geo

variable (node : Node)

/-- A table under keys in lower case. -/
def TableForm (table : JsMap String (List String)) : Prop :=
  ∀ entry ∈ table.entries, node.toLowerCase entry.1 = entry.1 ∧ Items entry.2

/-- `__proto__` is the object's prototype, which is no entry of it. -/
def tableJson (table : JsMap String (List String)) : Json :=
  .object ((table.entries.filter fun entry => entry.1 ≠ "__proto__").map fun entry =>
    (entry.1, stringsJson entry.2))

structure GeoConfig.Form (geo : GeoConfig) : Prop where
  geoip : TableForm node geo.geoip
  geosite : TableForm node geo.geosite

/-- No table is named `__proto__`. -/
structure GeoConfig.Plain (geo : GeoConfig) : Prop where
  geoip : "__proto__" ∉ geo.geoip.keys
  geosite : "__proto__" ∉ geo.geosite.keys

def GeoConfig.toJson (geo : GeoConfig) : Json :=
  .object [("geoip", tableJson geo.geoip), ("geosite", tableJson geo.geosite)]

variable {node}

theorem readEntries_read (hlower : ∀ s, node.toLowerCase (node.toLowerCase s) = node.toLowerCase s)
    {path : String} (entries : Record) {output : JsMap String (List String)}
    (h : (readEntries node.toLowerCase path entries output).Clean) (houtput : TableForm node output) :
    TableForm node (readEntries node.toLowerCase path entries output).value := by
  induction entries generalizing output with
  | nil => exact houtput
  | cons entry entries ih =>
    obtain ⟨key, value⟩ := entry
    cases value with
    | array items =>
      rw [readEntries, Checked.clean_bind] at h
      rw [readEntries, Checked.value_bind]
      refine ih h.2 ?_
      rintro ⟨key', values⟩ hentry
      rcases (JsMap.mem_entries_set _ _ _ _ _).mp hentry with ⟨rfl, rfl⟩ | ⟨-, hold⟩
      · refine ⟨hlower key, ?_⟩
        show Items (readStrings _ items).value
        rw [readStrings_clean h.1]
        exact items_stringsOf items
      · exact houtput _ hold
    | _ => exact absurd ((Checked.clean_bind _ _).mp h).1 (Checked.not_clean_push _)

theorem readEntries_written {path : String} (rest : List (String × List String))
    {output : JsMap String (List String)}
    (hrest : ∀ entry ∈ rest, node.toLowerCase entry.1 = entry.1 ∧ Items entry.2)
    (hnodup : (output.keys ++ rest.map Prod.fst).Nodup) :
    ∃ table, readEntries node.toLowerCase path
        (rest.map fun entry => (entry.1, stringsJson entry.2)) output = pure table ∧
      table.entries = output.entries ++ rest := by
  induction rest generalizing output with
  | nil => exact ⟨output, rfl, (List.append_nil _).symm⟩
  | cons entry rest ih =>
    obtain ⟨key, values⟩ := entry
    obtain ⟨hkey, hitems⟩ := hrest (key, values) List.mem_cons_self
    have hnew : key ∉ output.keys := by
      intro hmem
      exact (List.nodup_append.mp hnodup).2.2 key hmem key List.mem_cons_self rfl
    have hentries := output.entries_set_of_notMem values hnew
    have hkeys : (output.set key values).keys = output.keys ++ [key] := by
      show (output.set key values).entries.map Prod.fst = output.entries.map Prod.fst ++ [key]
      rw [hentries, List.map_append]
      rfl
    obtain ⟨table, htable, hall⟩ := @ih (output.set key values)
      (fun other hmem => hrest other (List.mem_cons_of_mem _ hmem))
      (by rw [hkeys, List.append_assoc]; exact hnodup)
    refine ⟨table, ?_, ?_⟩
    · rw [List.map_cons, stringsJson, readEntries, readStrings_written hitems, Checked.pure_bind, hkey]
      exact htable
    · rw [hall, hentries, List.append_assoc]
      rfl

theorem readStringArrayRecord_read
    (hlower : ∀ s, node.toLowerCase (node.toLowerCase s) = node.toLowerCase s)
    {record : Record} {key path : String}
    (h : (readStringArrayRecord record key path node.toLowerCase).Clean) :
    ∃ table, readStringArrayRecord record key path node.toLowerCase = pure table ∧
      ∀ t ∈ table, TableForm node t := by
  refine ⟨_, Checked.eq_pure_of_clean h, ?_⟩
  unfold readStringArrayRecord at h ⊢
  cases hvalue : record.lookup key with
  | none => simp
  | some value =>
    cases value with
    | object entries =>
      simp only [hvalue, Checked.clean_bind] at h
      intro table htable
      cases htable
      refine readEntries_read hlower entries h.1 ?_
      rintro entry ⟨⟩
    | _ => simp [hvalue] at h

theorem readStringArrayRecord_written {record : Record} {key path : String}
    {table : JsMap String (List String)} (hlookup : record.lookup key = some (tableJson table))
    (h : TableForm node table) (hplain : "__proto__" ∉ table.keys) :
    readStringArrayRecord record key path node.toLowerCase = pure (some table) := by
  have hkept : (table.entries.filter fun entry => entry.1 ≠ "__proto__") = table.entries := by
    refine List.filter_eq_self.mpr fun entry hentry => decide_eq_true ?_
    rintro hkey
    exact hplain (List.mem_map.mpr ⟨entry, hentry, hkey⟩)
  unfold readStringArrayRecord
  rw [hlookup]
  obtain ⟨table', hread, hentries⟩ := @readEntries_written node s!"{path}.{key}" table.entries ∅ h
    table.nodup
  have heq : table' = table := JsMap.ext hentries
  simp only [tableJson, hkept, hread, heq, Checked.pure_bind]

theorem parseGeo_read (hlower : ∀ s, node.toLowerCase (node.toLowerCase s) = node.toLowerCase s)
    {root : Record} (h : (parseGeo node root).Clean) :
    ∃ geo, parseGeo node root = pure geo ∧ geo.Form node := by
  have hempty : TableForm node ∅ := by
    rintro entry ⟨⟩
  refine ⟨_, Checked.eq_pure_of_clean h, ?_⟩
  unfold parseGeo at h ⊢
  split at h
  · exact ⟨hempty, hempty⟩
  · next rawGeo hgeo =>
    simp only [Checked.clean_bind] at h
    obtain ⟨geoip, hgeoip, hgeoipForm⟩ := readStringArrayRecord_read hlower h.1
    obtain ⟨geosite, hgeosite, hgeositeForm⟩ := readStringArrayRecord_read hlower h.2.1
    simp only [hgeoip, hgeosite, Checked.pure_bind, Checked.value_pure]
    exact ⟨getD_of_forall hgeoipForm hempty, getD_of_forall hgeositeForm hempty⟩
  · exact absurd ((Checked.clean_bind _ _).mp h).1 (Checked.not_clean_push _)

theorem parseGeo_written {root : Record} {geo : GeoConfig}
    (hlookup : root.lookup "geo" = some geo.toJson) (h : geo.Form node) (hplain : geo.Plain) :
    parseGeo node root = pure geo := by
  unfold parseGeo
  simp only [hlookup, GeoConfig.toJson]
  rw [readStringArrayRecord_written (by simp) h.geoip hplain.geoip,
    readStringArrayRecord_written (by simp [lookup_field]) h.geosite hplain.geosite]
  rfl

end Geo

/-! ## Control plane -/

structure MetricsServerConfig.Form (config : MetricsServerConfig) : Prop where
  listen : Text config.listen
  port : Between 0 65535 config.port
  path : Text config.path
  absolute : JsString.startsWith config.path "/" = true

/-- The section `observability`, which holds `metrics` only. -/
def MetricsServerConfig.toJson (config : MetricsServerConfig) : Json :=
  .object [("metrics", .object [("enabled", .boolean config.enabled),
    ("listen", .string config.listen), ("port", numberJson config.port),
    ("path", .string config.path)])]

theorem form_metrics : DEFAULT_METRICS.Form :=
  ⟨by decide, by decide, by decide, by decide⟩

theorem parseObservability_read {root : Record} (h : (parseObservability root).Clean) :
    ∃ config, parseObservability root = pure config ∧ config.Form := by
  refine ⟨_, Checked.eq_pure_of_clean h, ?_⟩
  unfold parseObservability at h ⊢
  split at h
  · exact form_metrics
  · next rawObservability _ =>
    unfold parseMetricsServer at h ⊢
    split at h
    · exact form_metrics
    · next rawMetrics _ =>
      simp only [Checked.clean_bind] at h
      obtain ⟨path, hpath, hpathText⟩ := readOptionalString_read h.1
      obtain ⟨listen, hlisten, hlistenText⟩ := readOptionalString_read h.2.2.2.1
      obtain ⟨port, hport, hportBetween⟩ := readOptionalNumber_read h.2.2.2.2.1
      have habsolute := (Checked.clean_pushIf _ _).mp h.2.1
      simp only [hpath, Checked.value_pure, Bool.not_eq_false'] at habsolute
      simp only [hpath, hlisten, hport, Checked.pure_bind, Checked.value_bind, Checked.value_pure,
        habsolute, if_true]
      exact ⟨getD_of_forall hlistenText form_metrics.listen,
        getD_of_forall hportBetween form_metrics.port,
        getD_of_forall hpathText form_metrics.path, habsolute⟩
    · exact absurd ((Checked.clean_bind _ _).mp h).1 (Checked.not_clean_push _)
  · exact absurd ((Checked.clean_bind _ _).mp h).1 (Checked.not_clean_push _)

theorem parseObservability_written {root : Record} {config : MetricsServerConfig}
    (hlookup : root.lookup "observability" = some config.toJson) (h : config.Form) :
    parseObservability root = pure config := by
  unfold parseObservability
  simp only [hlookup, MetricsServerConfig.toJson, parseMetricsServer, lookup_field, if_true]
  rw [readOptionalString_written (some config.path) (by simp [lookup_field])
      (by simpa using h.path),
    readOptionalBoolean_written (some config.enabled) (by simp),
    readOptionalString_written (some config.listen) (by simp [lookup_field])
      (by simpa using h.listen),
    readOptionalNumber_written (some config.port) (by simp [lookup_field])
      (by simpa using h.port)]
  simp only [Checked.pure_bind, Option.getD_some, h.absolute, Checked.pushIf]
  rfl

structure DashboardConfig.Form (config : DashboardConfig) : Prop where
  listen : Text config.listen
  port : Between 0 65535 config.port
  token : Text config.token
  rateLimitPerMinute : Between 1 100000 config.rateLimitPerMinute

def DashboardConfig.toJson (config : DashboardConfig) : Json :=
  .object [("enabled", .boolean config.enabled), ("listen", .string config.listen),
    ("port", numberJson config.port), ("token", .string config.token),
    ("rateLimitPerMinute", numberJson config.rateLimitPerMinute), ("cors", .boolean config.cors)]

theorem form_dashboard : DEFAULT_DASHBOARD.Form :=
  ⟨by decide, by decide, by decide, by decide⟩

theorem parseDashboard_read {root : Record} (h : (parseDashboard root).Clean) :
    ∃ config, parseDashboard root = pure config ∧ config.Form := by
  refine ⟨_, Checked.eq_pure_of_clean h, ?_⟩
  unfold parseDashboard at h ⊢
  split at h
  · exact form_dashboard
  · next raw _ =>
    simp only [Checked.clean_bind] at h
    obtain ⟨listen, hlisten, hlistenText⟩ := readOptionalString_read h.2.1
    obtain ⟨port, hport, hportBetween⟩ := readOptionalNumber_read h.2.2.1
    obtain ⟨token, htoken, htokenText⟩ := readOptionalString_read h.2.2.2.1
    obtain ⟨limit, hlimit, hlimitBetween⟩ := readOptionalNumber_read h.2.2.2.2.1
    simp only [hlisten, hport, htoken, hlimit, Checked.pure_bind, Checked.value_bind,
      Checked.value_pure]
    exact ⟨getD_of_forall hlistenText form_dashboard.listen,
      getD_of_forall hportBetween form_dashboard.port,
      getD_of_forall htokenText form_dashboard.token,
      getD_of_forall hlimitBetween form_dashboard.rateLimitPerMinute⟩
  · exact absurd ((Checked.clean_bind _ _).mp h).1 (Checked.not_clean_push _)

theorem parseDashboard_written {root : Record} {config : DashboardConfig}
    (hlookup : root.lookup "dashboard" = some config.toJson) (h : config.Form) :
    parseDashboard root = pure config := by
  unfold parseDashboard
  simp only [hlookup, DashboardConfig.toJson]
  rw [readOptionalBoolean_written (some config.enabled) (by simp),
    readOptionalString_written (some config.listen) (by simp [lookup_field])
      (by simpa using h.listen),
    readOptionalNumber_written (some config.port) (by simp [lookup_field])
      (by simpa using h.port),
    readOptionalString_written (some config.token) (by simp [lookup_field])
      (by simpa using h.token),
    readOptionalNumber_written (some config.rateLimitPerMinute) (by simp [lookup_field])
      (by simpa using h.rateLimitPerMinute),
    readOptionalBoolean_written (some config.cors) (by simp [lookup_field])]
  rfl

end Sepigs
