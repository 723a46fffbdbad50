import Sepigs.Config.Schema

/-!
# What an accepted config has

`parseConfig` returns when nothing was complained about; then every section was read in
full and every check across sections passed.
-/

namespace Sepigs

open Checked (push collect)

theorem forEach_clean {α : Type} {f : Nat → α → Checked PUnit} {items : List α}
    (h : (forEach f items).Clean) : ∀ item ∈ items, ∃ i, (f i item).Clean := by
  unfold forEach at h
  rw [Checked.clean_bind] at h
  intro item hmem
  obtain ⟨i, hclean⟩ := Checked.collect_clean h.1 item hmem
  exact ⟨i, ((Checked.clean_bind _ _).mp hclean).1⟩

theorem checkTarget_clean {targets : List String} {error : String → String} {tag : String}
    (h : (checkTarget targets error tag).Clean) : tag ∈ targets := by
  unfold checkTarget at h
  split at h
  · next hmem => exact List.contains_iff_mem.mp hmem
  · exact absurd h (Checked.not_clean_push _)

theorem checkUniqueTagsFrom_clean {path : String} (seen tags : List String)
    (h : (checkUniqueTagsFrom path seen tags).Clean) :
    tags.Nodup ∧ ∀ tag ∈ tags, tag ∉ seen := by
  induction tags generalizing seen with
  | nil => exact ⟨List.nodup_nil, fun tag hmem => nomatch hmem⟩
  | cons tag tags ih =>
    rw [checkUniqueTagsFrom] at h
    split at h
    · rw [Checked.clean_bind] at h
      exact absurd h.1 (Checked.not_clean_push _)
    · next hseen =>
      obtain ⟨hnodup, hfresh⟩ := ih (tag :: seen) h
      have htag : tag ∉ seen := fun hmem => hseen (List.contains_iff_mem.mpr hmem)
      refine ⟨List.nodup_cons.mpr ⟨?_, hnodup⟩, ?_⟩
      · intro hmem
        exact hfresh tag hmem (List.mem_cons_self)
      · intro other hmem
        rcases List.mem_cons.mp hmem with rfl | hmem
        · exact htag
        · exact fun hseen' => hfresh other hmem (List.mem_cons_of_mem _ hseen')

theorem checkUniqueTags_clean {path : String} {tags : List String}
    (h : (checkUniqueTags tags path).Clean) : tags.Nodup :=
  (checkUniqueTagsFrom_clean [] tags h).1

/-- What is parsed of every item of an array, when nothing is complained about. -/
theorem parseAll_clean {α : Type} {parse : Json → String → Checked (Option α)} {path : String}
    {items : List Json} {g : Json → Option α}
    (hparse : ∀ item p, (parse item p).Clean → (parse item p).value = g item)
    (h : (parseAll parse path items).Clean) :
    (parseAll parse path items).value = items.filterMap g ∧
      ∀ item ∈ items, ∃ p, (parse item p).Clean := by
  constructor
  · have hvalue := Checked.value_collect (g := fun item => (g item).toList) ?_ h
    · rw [List.filterMap_eq_flatMap_toList]
      exact hvalue
    · intro i item hclean
      rw [Checked.clean_bind] at hclean
      rw [Checked.value_bind, Checked.value_pure, hparse item _ hclean.1]
  · intro item hmem
    obtain ⟨i, hclean⟩ := Checked.collect_clean h item hmem
    exact ⟨_, ((Checked.clean_bind _ _).mp hclean).1⟩

/-- Whatever is parsed of an array came from one of its items. -/
theorem mem_parseAll {α : Type} {parse : Json → String → Checked (Option α)} {path : String}
    {items : List Json} (h : (parseAll parse path items).Clean) {a : α}
    (ha : a ∈ (parseAll parse path items).value) :
    ∃ item p, (parse item p).Clean ∧ (parse item p).value = some a := by
  obtain ⟨i, item, -, hclean, hvalue⟩ := Checked.mem_collect h ha
  refine ⟨item, _, ((Checked.clean_bind _ _).mp hclean).1, ?_⟩
  simpa using hvalue

section Accepted

variable (node : Node)

/-- The items of `route.rules`. -/
def rawRules (input : Record) : List Json :=
  match input.lookup "route" with
  | some (.object rawRoute) =>
    match rawRoute.lookup "rules" with
    | some (.array items) => items
    | _ => []
  | _ => []

/-- How the route was read: its default target, and its rules one by one. -/
structure RouteRead (geo : GeoConfig) (input : Record) (route : RouterConfig) : Prop where
  rules : (parseAll (parseRouteRule node geo) "route.rules" (rawRules input)).Clean
  rules_eq : route.rules =
    (parseAll (parseRouteRule node geo) "route.rules" (rawRules input)).value
  policies : ∃ items, (parseAll parseRoutingPolicy "route.policies" items).Clean ∧
    route.policies = (parseAll parseRoutingPolicy "route.policies" items).value

theorem parseOptionalArray_clean {α : Type} {parse : Json → String → Checked (Option α)}
    {rawRoute : Record} {key : String} (h : (parseOptionalArray parse rawRoute key).Clean) :
    ∃ items, (parseAll parse s!"route.{key}" items).Clean ∧
      (parseOptionalArray parse rawRoute key).value =
        (parseAll parse s!"route.{key}" items).value := by
  unfold parseOptionalArray at h ⊢
  cases hitems : rawRoute.lookup key with
  | none => exact ⟨[], rfl, rfl⟩
  | some value =>
    rw [hitems] at h
    cases value with
    | array items => exact ⟨items, h, rfl⟩
    | _ => exact absurd ((Checked.clean_bind _ _).mp h).1 (Checked.not_clean_push _)

theorem parseRouter_clean {geo : GeoConfig} {input : Record}
    (h : (parseRouter node input geo).Clean) :
    ∃ route, (parseRouter node input geo).value = some route ∧ RouteRead node geo input route := by
  unfold parseRouter at h ⊢
  split at h
  · next rawRoute hroute =>
    rw [Checked.clean_bind] at h
    obtain ⟨hdefault, h⟩ := h
    obtain ⟨defaultOutbound, -, hdefaultValue⟩ := readString_clean hdefault
    split at h
    · next items hrules =>
      have hraw : rawRules input = items := by
        unfold rawRules
        rw [hroute]
        simp only [hrules]
      simp only [Checked.clean_bind] at h
      obtain ⟨hrulesClean, -, hpolicies, -⟩ := h
      obtain ⟨policyItems, hpolicyItems, hpolicyValue⟩ := parseOptionalArray_clean hpolicies
      simp only [Checked.value_bind, Checked.value_pure, hdefaultValue, Option.map_some]
      refine ⟨_, rfl, ?_⟩
      constructor
      · rw [hraw]
        exact hrulesClean
      · rw [hraw]
      · exact ⟨policyItems, hpolicyItems, hpolicyValue⟩
    · exact absurd h (not_clean_reject _)
  · exact absurd h (not_clean_reject _)

/-- What holds of every config that `parseConfig` returns. -/
structure Accepted (input : Record) (config : ParsedConfig) : Prop where
  route : RouteRead node config.geo input config.route
  outbounds_nodup : config.outboundTags.Nodup
  policies_nodup : (config.route.policies.map RoutingPolicyConfig.tag).Nodup
  exposure : (checkPublicExposure config).Clean
  references : (checkOutboundReferences config).Clean

theorem readConfig_clean {others : OtherSections} {input : Record}
    (h : (readConfig node others input).Clean) :
    Accepted node input (readConfig node others input).value := by
  simp only [readConfig, Checked.clean_bind] at h
  obtain ⟨-, -, -, -, -, -, -, -, hroute, -, houtbounds, -, hpolicies, -, hexposure,
    hreferences⟩ := h
  obtain ⟨route, hvalue, hread⟩ := parseRouter_clean node hroute
  simp only [readConfig, Checked.value_bind]
  simp only [hvalue, Option.getD_some, Checked.clean_bind, Checked.value_bind,
    Checked.value_pure] at hpolicies hexposure hreferences ⊢
  exact ⟨hread, checkUniqueTags_clean houtbounds, checkUniqueTags_clean hpolicies, hexposure,
    hreferences.1⟩

theorem parseConfig_ok {others : Json → OtherSections} {input : Json} {config : ParsedConfig}
    (h : parseConfig node others input = .ok config) :
    ∃ record, input = .object record ∧ Accepted node record config := by
  unfold parseConfig at h
  split at h
  · next fields =>
    refine ⟨fields, rfl, ?_⟩
    simp only at h
    split at h
    · cases h
    · next herrors =>
      cases h
      refine readConfig_clean node ?_
      exact List.length_eq_zero_iff.mp (by omega)
  · cases h

theorem parseConfig_of_clean {others : Json → OtherSections} {input : Record}
    (h : (readConfig node (others (.object input)) input).errors = []) :
    parseConfig node others (.object input) =
      .ok (readConfig node (others (.object input)) input).value := by
  simp only [parseConfig, h, List.length_nil, Nat.lt_irrefl, if_false]

end Accepted

end Sepigs
