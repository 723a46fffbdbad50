import Sepigs.Plugin.PluginManager

/-!
# Who owns the factories

The registry's two tables agree, the manager's own table lists what each plugin
registered, and no factory is replaced by another owner's.  A load that fails after it
registered a type, a plugin with the tag of the core that registers one of the core's
types, and a failing `stop` leave something behind; nothing else does.
-/

namespace Sepigs

def OutboundFactory.owner : OutboundFactory → String
  | .core => "core"
  | .plugin tag => tag

namespace FactoryRegistry

/-- Both tables have the same types, each with the tag of the factory's maker. -/
def Consistent (registry : FactoryRegistry) : Prop :=
  ∀ type, registry.owners.get type = (registry.factories.get type).map OutboundFactory.owner

theorem register_ok {registry registry' : FactoryRegistry} {type owner : String}
    {factory : OutboundFactory}
    (h : registry.registerOutboundFactory type factory owner = .ok registry') :
    (registry.owners.get type = none ∨ registry.owners.get type = some owner) ∧
      registry' = ⟨registry.factories.set type factory, registry.owners.set type owner⟩ := by
  unfold registerOutboundFactory at h
  cases howner : registry.owners.get type with
  | none =>
    rw [howner] at h
    exact ⟨Or.inl rfl, (Except.ok.inj h).symm⟩
  | some existingOwner =>
    rw [howner] at h
    by_cases heq : existingOwner = owner
    · replace h : (if existingOwner ≠ owner then _ else _) = Except.ok registry' := h
      rw [if_neg (not_not.mpr heq)] at h
      exact ⟨Or.inr (congrArg some heq), (Except.ok.inj h).symm⟩
    · replace h : (if existingOwner ≠ owner then _ else _) = Except.ok registry' := h
      rw [if_pos heq] at h
      cases h

theorem consistent_register {registry registry' : FactoryRegistry} {type : String}
    {factory : OutboundFactory} (hconsistent : registry.Consistent)
    (h : registry.registerOutboundFactory type factory factory.owner = .ok registry') :
    registry'.Consistent := by
  obtain ⟨-, rfl⟩ := register_ok h
  intro type'
  rw [JsMap.get_set, JsMap.get_set]
  split
  · rfl
  · exact hconsistent type'

theorem unregister_factories (registry : FactoryRegistry) (type owner type' : String) :
    (registry.unregisterOutboundFactory type owner).factories.get type' =
      if type' = type ∧ registry.owners.get type = some owner then none
      else registry.factories.get type' := by
  unfold unregisterOutboundFactory
  by_cases howner : registry.owners.get type = some owner
  · rw [if_neg (not_not.mpr howner), JsMap.get_delete]
    simp [howner]
  · rw [if_pos howner]
    simp [howner]

theorem consistent_unregister {registry : FactoryRegistry} (hconsistent : registry.Consistent)
    (type owner : String) : (registry.unregisterOutboundFactory type owner).Consistent := by
  intro type'
  unfold unregisterOutboundFactory
  split
  · exact hconsistent type'
  · rw [JsMap.get_delete, JsMap.get_delete]
    split
    · rfl
    · exact hconsistent type'

/-- The loop of `unregisterRemoteOutboundFactories`. -/
def unregisterAll (registry : FactoryRegistry) (types : List String) (owner : String) :
    FactoryRegistry :=
  types.foldl (fun registry type => registry.unregisterOutboundFactory type owner) registry

theorem consistent_unregisterAll {registry : FactoryRegistry} (hconsistent : registry.Consistent)
    (types : List String) (owner : String) : (registry.unregisterAll types owner).Consistent := by
  induction types generalizing registry with
  | nil => exact hconsistent
  | cons type types ih => exact ih (consistent_unregister hconsistent type owner)

theorem unregisterAll_factories {registry : FactoryRegistry} (hconsistent : registry.Consistent)
    (types : List String) (owner type' : String) :
    (registry.unregisterAll types owner).factories.get type' =
      if type' ∈ types ∧ (registry.factories.get type').map OutboundFactory.owner = some owner then
        none
      else registry.factories.get type' := by
  induction types generalizing registry with
  | nil => simp [unregisterAll]
  | cons type types ih =>
    refine (ih (consistent_unregister hconsistent type owner)).trans ?_
    rw [unregister_factories, hconsistent type]
    by_cases htype : type' = type
    · subst htype
      by_cases howner : (registry.factories.get type').map OutboundFactory.owner = some owner
      · simp [howner]
      · simp [howner]
    · simp [htype]

end FactoryRegistry

namespace PluginManager

/-! ## The tables -/

/-- What the registry and the manager's own table have in common. -/
structure Tables (manager : PluginManager) : Prop where
  consistent : manager.registry.Consistent
  core : ∀ type, manager.registry.factories.get type = some .core ↔ type ∈ coreTypes
  remote : ∀ tag type, type ∈ (manager.remoteOutboundTypes.get tag).getD [] ↔
    manager.registry.factories.get type = some (.plugin tag)
  log : ∀ entry ∈ manager.log,
    entry.replaced = none ∨ entry.replaced = some (.plugin entry.tag)

/-- The plugins' factories are those that the plugins of the list registered. -/
structure Owned (loaded : List LoadedPlugin) (manager : PluginManager) : Prop
    extends Tables manager where
  plugin : ∀ type tag, manager.registry.factories.get type = some (.plugin tag) ↔
    ∃ plugin ∈ loaded, plugin.tag = tag ∧ type ∈ plugin.registered
  tags : (loaded.map LoadedPlugin.tag).Nodup

theorem mem_addType {registered : List String} {type type' : String} :
    type' ∈ addType registered type ↔ type' = type ∨ type' ∈ registered := by
  unfold addType
  by_cases h : type ∈ registered
  · rw [if_pos h]
    constructor
    · exact Or.inr
    · rintro (rfl | hmem)
      · exact h
      · exact hmem
  · rw [if_neg h, List.mem_append, List.mem_singleton, or_comm]

theorem registerOwned_ok {manager manager' : PluginManager} {manifest : PluginManifest}
    {tag type : String} (h : manager.registerOwned manifest tag type = .ok manager') :
    ∃ registry, manager.registry.registerOutboundFactory type (.plugin tag) tag = .ok registry ∧
      manager' = { manager with
        registry := registry
        remoteOutboundTypes := manager.remoteOutboundTypes.set tag
          (addType ((manager.remoteOutboundTypes.get tag).getD []) type)
        log := manager.log ++ [⟨type, tag, manager.registry.factories.get type⟩] } := by
  unfold registerOwned at h
  by_cases hpermission : "outbound:register" ∉ manifest.permissions
  · rw [if_pos hpermission] at h
    cases h
  rw [if_neg hpermission] at h
  cases hregister : manager.registry.registerOutboundFactory type (.plugin tag) tag with
  | error error =>
    rw [hregister] at h
    cases h
  | ok registry =>
    rw [hregister] at h
    exact ⟨registry, rfl, (Except.ok.inj h).symm⟩

/-- A registration that does not throw finds the type free or the plugin's own, unless the
plugin has the core's tag and the type is the core's. -/
theorem replaced_of_ok {manager : PluginManager} {registry : FactoryRegistry} {tag type : String}
    (htables : Tables manager) (hcore : tag = "core" → type ∉ coreTypes)
    (h : manager.registry.registerOutboundFactory type (.plugin tag) tag = .ok registry) :
    manager.registry.factories.get type = none ∨
      manager.registry.factories.get type = some (.plugin tag) := by
  obtain ⟨howner, -⟩ := FactoryRegistry.register_ok h
  rw [htables.consistent type] at howner
  cases hfactory : manager.registry.factories.get type with
  | none => exact Or.inl rfl
  | some factory =>
    rw [hfactory] at howner
    have heq : factory.owner = tag := by simpa using howner
    cases factory with
    | core => exact absurd ((htables.core type).mp hfactory) (hcore heq.symm)
    | plugin tag' => exact Or.inr (congrArg (fun t => some (OutboundFactory.plugin t)) heq)

theorem exists_mem_append_singleton {plugins : List LoadedPlugin} {last : LoadedPlugin}
    {P : LoadedPlugin → Prop} :
    (∃ plugin ∈ plugins ++ [last], P plugin) ↔ (∃ plugin ∈ plugins, P plugin) ∨ P last := by
  constructor
  · rintro ⟨plugin, hmem, hP⟩
    rcases List.mem_append.mp hmem with hmem | hmem
    · exact Or.inl ⟨plugin, hmem, hP⟩
    · exact Or.inr (List.mem_singleton.mp hmem ▸ hP)
  · rintro (⟨plugin, hmem, hP⟩ | hP)
    · exact ⟨plugin, List.mem_append_left _ hmem, hP⟩
    · exact ⟨last, List.mem_append_right _ (List.mem_singleton_self _), hP⟩

theorem registerOwned_spec {manager manager' : PluginManager} {manifest : PluginManifest}
    {tag type : String} {plugins : List LoadedPlugin} {key : PluginConfigKey}
    {registered : List String}
    (howned : Owned (plugins ++ [⟨tag, manifest, key, registered⟩]) manager)
    (hcore : tag = "core" → type ∉ coreTypes)
    (h : manager.registerOwned manifest tag type = .ok manager') :
    Owned (plugins ++ [⟨tag, manifest, key, registered ++ [type]⟩]) manager' ∧
      manager'.loaded = manager.loaded ∧ manager'.started = manager.started := by
  obtain ⟨registry, hregister, rfl⟩ := registerOwned_ok h
  have hbefore := replaced_of_ok howned.toTables hcore hregister
  have hconsistent := FactoryRegistry.consistent_register howned.consistent hregister
  obtain ⟨-, rfl⟩ := FactoryRegistry.register_ok hregister
  have hnotCore : type ∉ coreTypes := by
    intro hmem
    have hget := (howned.core type).mpr hmem
    rcases hbefore with hnone | hsome
    · rw [hnone] at hget
      cases hget
    · rw [hsome] at hget
      cases hget
  refine ⟨⟨⟨hconsistent, ?_, ?_, ?_⟩, ?_, ?_⟩, rfl, rfl⟩
  · intro type'
    show JsMap.get (JsMap.set _ _ _) _ = _ ↔ _
    rw [JsMap.get_set]
    by_cases heq : type' = type
    · subst heq
      simp [hnotCore]
    · rw [if_neg heq]
      exact howned.core type'
  · intro tag' type'
    show type' ∈ (JsMap.get (JsMap.set _ _ _) _).getD [] ↔ JsMap.get (JsMap.set _ _ _) _ = _
    rw [JsMap.get_set, JsMap.get_set]
    by_cases htag : tag' = tag
    · subst htag
      rw [if_pos rfl, Option.getD_some, mem_addType, howned.remote]
      by_cases heq : type' = type
      · simp [heq]
      · simp [heq]
    · rw [if_neg htag, howned.remote]
      by_cases heq : type' = type
      · subst heq
        rw [if_pos rfl]
        rcases hbefore with hnone | hsome
        · simp [hnone, Ne.symm htag]
        · simp [hsome, Ne.symm htag]
      · rw [if_neg heq]
  · intro entry hmem
    rcases List.mem_append.mp hmem with hmem | hmem
    · exact howned.log entry hmem
    · rw [List.mem_singleton.mp hmem]
      exact hbefore
  · intro type' tag'
    show JsMap.get (JsMap.set _ _ _) _ = _ ↔ _
    rw [JsMap.get_set, exists_mem_append_singleton]
    have hold := howned.plugin type' tag'
    rw [exists_mem_append_singleton] at hold
    by_cases heq : type' = type
    · subst heq
      rw [if_pos rfl]
      constructor
      · intro hget
        have htag : tag = tag' := by simpa using hget
        exact Or.inr ⟨htag, List.mem_append_right _ (List.mem_singleton_self _)⟩
      · rintro (hplugin | ⟨htag, -⟩)
        · have hget := hold.mpr (Or.inl hplugin)
          rcases hbefore with hnone | hsome
          · rw [hnone] at hget
            cases hget
          · exact hsome.symm.trans hget
        · exact htag ▸ rfl
    · rw [if_neg heq, hold]
      simp [heq]
  · simpa using howned.tags

theorem unregister_spec {manager : PluginManager} (htables : Tables manager) (tag : String) :
    Tables (manager.unregisterRemoteOutboundFactories tag) ∧
      (∀ type, (manager.unregisterRemoteOutboundFactories tag).registry.factories.get type =
        if manager.registry.factories.get type = some (.plugin tag) then none
        else manager.registry.factories.get type) ∧
      (manager.unregisterRemoteOutboundFactories tag).loaded = manager.loaded := by
  unfold unregisterRemoteOutboundFactories
  cases hremote : manager.remoteOutboundTypes.get tag with
  | none =>
    refine ⟨htables, fun type => ?_, rfl⟩
    have hnone : manager.registry.factories.get type ≠ some (.plugin tag) := by
      intro hget
      have hmem := (htables.remote tag type).mpr hget
      rw [hremote] at hmem
      cases hmem
    rw [if_neg hnone]
  | some types =>
    have htypes : ∀ type, type ∈ types ↔
        manager.registry.factories.get type = some (.plugin tag) := by
      intro type
      rw [← htables.remote tag type, hremote]
      rfl
    have hget : ∀ type, (manager.registry.unregisterAll types tag).factories.get type =
        if manager.registry.factories.get type = some (.plugin tag) then none
        else manager.registry.factories.get type := by
      intro type
      rw [FactoryRegistry.unregisterAll_factories htables.consistent]
      by_cases hfactory : manager.registry.factories.get type = some (.plugin tag)
      · rw [if_pos hfactory, if_pos ⟨(htypes type).mpr hfactory, by rw [hfactory]; rfl⟩]
      · rw [if_neg hfactory, if_neg fun h => hfactory ((htypes type).mp h.1)]
    refine ⟨⟨FactoryRegistry.consistent_unregisterAll htables.consistent types tag, ?_, ?_,
      htables.log⟩, hget, rfl⟩
    · intro type
      refine Iff.trans ?_ (htables.core type)
      show (manager.registry.unregisterAll types tag).factories.get type = _ ↔ _
      rw [hget]
      split
      · next h => simp [h]
      · rfl
    · intro tag' type
      show type ∈ ((manager.remoteOutboundTypes.delete tag).get tag').getD [] ↔
        (manager.registry.unregisterAll types tag).factories.get type = _
      rw [hget, JsMap.get_delete]
      by_cases htag : tag' = tag
      · subst htag
        rw [if_pos rfl]
        split <;> simp_all
      · rw [if_neg htag, htables.remote]
        split
        · next h => simp [h, Ne.symm htag]
        · rfl

/-! ## Loading and unloading -/

theorem Owned.unregister {plugins : List LoadedPlugin} {manager : PluginManager}
    (howned : Owned plugins manager) {plugin : LoadedPlugin} (hmem : plugin ∈ plugins) :
    Owned (plugins.erase plugin) (manager.unregisterRemoteOutboundFactories plugin.tag) := by
  obtain ⟨htables, hget, -⟩ := unregister_spec howned.toTables plugin.tag
  have hnodup : plugins.Nodup := howned.tags.of_map
  refine ⟨htables, ?_, howned.tags.sublist (List.erase_sublist.map _)⟩
  intro type tag
  rw [hget]
  have hold := howned.plugin type tag
  by_cases htag : tag = plugin.tag
  · subst htag
    have hleft : (if manager.registry.factories.get type = some (.plugin plugin.tag) then none
        else manager.registry.factories.get type) ≠ some (.plugin plugin.tag) := by
      split
      · exact fun h => by cases h
      · assumption
    refine iff_of_false hleft ?_
    rintro ⟨other, hother, heq, -⟩
    have hsame := List.inj_on_of_nodup_map howned.tags (List.mem_of_mem_erase hother) hmem heq
    rw [hsame] at hother
    exact hnodup.not_mem_erase hother
  · have hright : (∃ other ∈ plugins.erase plugin, other.tag = tag ∧ type ∈ other.registered) ↔
        ∃ other ∈ plugins, other.tag = tag ∧ type ∈ other.registered := by
      constructor
      · rintro ⟨other, hother, hrest⟩
        exact ⟨other, List.mem_of_mem_erase hother, hrest⟩
      · rintro ⟨other, hother, heq, htype⟩
        refine ⟨other, (List.mem_erase_of_ne ?_).mpr hother, heq, htype⟩
        rintro rfl
        exact htag heq.symm
    rw [hright, ← hold]
    split
    · next h => simp [h, Ne.symm htag]
    · rfl

theorem Owned.pending {plugins : List LoadedPlugin} {manager : PluginManager}
    (howned : Owned plugins manager) {plugin : LoadedPlugin} (hempty : plugin.registered = [])
    (hfree : plugin.tag ∉ plugins.map LoadedPlugin.tag) : Owned (plugins ++ [plugin]) manager := by
  refine ⟨howned.toTables, ?_, ?_⟩
  · intro type tag
    rw [howned.plugin, exists_mem_append_singleton, hempty]
    simp
  · rw [List.map_append, List.nodup_append]
    refine ⟨howned.tags, List.nodup_singleton _, ?_⟩
    rintro tag htag tag' htag' rfl
    rw [List.map_singleton, List.mem_singleton] at htag'
    exact hfree (htag' ▸ htag)

theorem Owned.drop {plugins : List LoadedPlugin} {manager : PluginManager} {plugin : LoadedPlugin}
    (howned : Owned (plugins ++ [plugin]) manager) (hempty : plugin.registered = []) :
    Owned plugins manager := by
  refine ⟨howned.toTables, ?_, ?_⟩
  · intro type tag
    rw [howned.plugin, exists_mem_append_singleton, hempty]
    simp
  · exact howned.tags.sublist ((List.sublist_append_left _ _).map _)

/-- A setup that throws has registered no type, and one with the core's tag registers none of
the core's types. -/
def CleanSetup (manifest : PluginManifest) (tag : String) :
    PluginSetup → List String → PluginManager → Prop
  | .done (.ok ()), _, _ => True
  | .done (.error _), registered, _ => registered = []
  | .call type next, registered, manager =>
    match manager.registerOwned manifest tag type with
    | .error error => CleanSetup manifest tag (next (.error error)) registered manager
    | .ok manager' => (tag = "core" → type ∉ coreTypes) ∧
      CleanSetup manifest tag (next (.ok ())) (registered ++ [type]) manager'

theorem runSetup_spec {manifest : PluginManifest} {tag : String} {key : PluginConfigKey}
    {plugins : List LoadedPlugin} (setup : PluginSetup) :
    ∀ {registered : List String} {manager : PluginManager},
      Owned (plugins ++ [⟨tag, manifest, key, registered⟩]) manager →
      CleanSetup manifest tag setup registered manager →
      ∀ {result registered' manager'},
        runSetup manifest tag setup registered manager = (result, registered', manager') →
        Owned (plugins ++ [⟨tag, manifest, key, registered'⟩]) manager' ∧
          manager'.loaded = manager.loaded ∧ manager'.started = manager.started ∧
          ((∃ error, result = .error error) → registered' = []) := by
  induction setup with
  | done outcome =>
    intro registered manager howned hclean result registered' manager' hrun
    cases hrun
    refine ⟨howned, rfl, rfl, ?_⟩
    rintro ⟨error, rfl⟩
    exact hclean
  | call type next ih =>
    intro registered manager howned hclean result registered' manager' hrun
    unfold runSetup at hrun
    unfold CleanSetup at hclean
    cases hregister : manager.registerOwned manifest tag type with
    | error error =>
      rw [hregister] at hrun hclean
      exact ih (.error error) howned hclean hrun
    | ok manager₁ =>
      rw [hregister] at hrun hclean
      obtain ⟨howned₁, hloaded₁, hstarted₁⟩ := registerOwned_spec howned hclean.1 hregister
      obtain ⟨howned', hloaded', hstarted', herror⟩ := ih (.ok ()) howned₁ hclean.2 hrun
      exact ⟨howned', hloaded'.trans hloaded₁, hstarted'.trans hstarted₁, herror⟩

/-- The invariant between the calls. -/
def Inv (manager : PluginManager) : Prop := Owned manager.loaded manager

/-- The plugin to be loaded is clean. -/
def CleanLoad (environment : PluginEnvironment) (config : PluginModuleConfig)
    (manager : PluginManager) : Prop :=
  match environment.load config with
  | .error _ => True
  | .ok (manifest, setup) => CleanSetup manifest config.tag setup [] manager

theorem Owned.congr {plugins : List LoadedPlugin} {manager manager' : PluginManager}
    (howned : Owned plugins manager) (hregistry : manager'.registry = manager.registry)
    (hremote : manager'.remoteOutboundTypes = manager.remoteOutboundTypes)
    (hlog : manager'.log = manager.log) : Owned plugins manager' := by
  obtain ⟨⟨hconsistent, hcore, hremote', hlog'⟩, hplugin, htags⟩ := howned
  refine ⟨⟨?_, ?_, ?_, ?_⟩, ?_, htags⟩
  · rw [hregistry]
    exact hconsistent
  · rw [hregistry]
    exact hcore
  · rw [hregistry, hremote]
    exact hremote'
  · rw [hlog]
    exact hlog'
  · rw [hregistry]
    exact hplugin

theorem loadOne_inv {environment : PluginEnvironment} {config : PluginModuleConfig}
    {manager : PluginManager} (hinv : Inv manager)
    (hfree : config.tag ∉ manager.loaded.map LoadedPlugin.tag)
    (hclean : CleanLoad environment config manager) :
    Inv (loadOne environment config manager).2 := by
  unfold loadOne
  unfold CleanLoad at hclean
  cases hload : environment.load config with
  | error error => exact hinv
  | ok loaded =>
    obtain ⟨manifest, setup⟩ := loaded
    rw [hload] at hclean
    obtain ⟨result, registered, manager', hrun⟩ : ∃ result registered manager',
        runSetup manifest config.tag setup [] manager = (result, registered, manager') :=
      ⟨_, _, _, rfl⟩
    have hpending : Owned (manager.loaded ++ [⟨config.tag, manifest, config.configKey, []⟩])
        manager := hinv.pending rfl hfree
    obtain ⟨howned, hloaded, hstarted, herror⟩ := runSetup_spec setup hpending hclean hrun
    simp only [hrun]
    cases result with
    | error error =>
      show Owned manager'.loaded manager'
      rw [hloaded]
      exact howned.drop (herror ⟨error, rfl⟩)
    | ok =>
      have hnew : Inv { manager' with
          loaded := manager'.loaded ++
            [⟨config.tag, manifest, config.configKey, registered⟩] } := by
        show Owned (manager'.loaded ++ _) _
        rw [hloaded]
        exact howned.congr rfl rfl rfl
      show Inv (if manager'.started = true then _ else _ : Except String Unit × PluginManager).2
      split
      · exact hnew
      · exact hnew

/-- Every plugin that the second loop of `loadAll` comes to is clean. -/
def CleanEach (environment : PluginEnvironment) : List PluginModuleConfig → PluginManager → Prop
  | [], _ => True
  | config :: rest, manager =>
    if !config.enabled || manager.loaded.any fun loaded => loaded.tag = config.tag then
      CleanEach environment rest manager
    else
      CleanLoad environment config manager ∧
        match loadOne environment config manager with
        | (.error _, _) => True
        | (.ok (), manager') => CleanEach environment rest manager'

theorem loadEach_inv {environment : PluginEnvironment} {configs : List PluginModuleConfig} :
    ∀ {manager : PluginManager}, Inv manager → CleanEach environment configs manager →
      Inv (loadEach environment configs manager).2 := by
  induction configs with
  | nil =>
    intro manager hinv _
    exact hinv
  | cons config rest ih =>
    intro manager hinv hclean
    unfold CleanEach at hclean
    unfold loadEach
    by_cases hskip : (!config.enabled || manager.loaded.any fun loaded =>
        loaded.tag = config.tag) = true
    · rw [if_pos hskip] at hclean ⊢
      exact ih hinv hclean
    · rw [if_neg hskip] at hclean ⊢
      have hfree : config.tag ∉ manager.loaded.map LoadedPlugin.tag := by
        intro hmem
        obtain ⟨loaded, hloaded, htag⟩ := List.mem_map.mp hmem
        refine hskip (Bool.or_eq_true_iff.mpr (Or.inr (List.any_eq_true.mpr ⟨loaded, hloaded, ?_⟩)))
        exact decide_eq_true htag
      have hnext := loadOne_inv hinv hfree hclean.1
      obtain ⟨-, hrest⟩ := hclean
      obtain ⟨result, manager', hload⟩ : ∃ result manager',
          loadOne environment config manager = (result, manager') := ⟨_, _, rfl⟩
      rw [hload] at hnext hrest ⊢
      cases result with
      | error error => exact hnext
      | ok => exact ih hnext hrest

theorem unloadStale_inv {environment : PluginEnvironment}
    {desired : JsMap String PluginConfigKey} {todo : List LoadedPlugin} :
    ∀ {manager : PluginManager}, Inv manager → todo.Nodup → (∀ p ∈ todo, p ∈ manager.loaded) →
      Inv (unloadStale environment desired todo manager).2 := by
  induction todo with
  | nil =>
    intro manager hinv _ _
    exact hinv
  | cons loaded rest ih =>
    intro manager hinv hnodup hmem
    obtain ⟨hnotMem, hrest⟩ := List.nodup_cons.mp hnodup
    unfold unloadStale
    by_cases hstale : desired.get loaded.tag ≠ some loaded.configKey
    · rw [if_pos hstale]
      cases hstop : environment.stop loaded.tag with
      | error error => exact hinv
      | ok =>
        have hkeep := (unregister_spec hinv.toTables loaded.tag).2.2
        have hnext := hinv.unregister (hmem loaded List.mem_cons_self)
        refine ih ?_ hrest ?_
        · show Owned (List.erase _ loaded) _
          rw [hkeep]
          exact hnext.congr rfl rfl rfl
        · intro p hp
          show p ∈ List.erase _ loaded
          rw [hkeep]
          refine (List.mem_erase_of_ne ?_).mpr (hmem p (List.mem_cons_of_mem _ hp))
          rintro rfl
          exact hnotMem hp
    · rw [if_neg hstale]
      exact ih hinv hrest fun p hp => hmem p (List.mem_cons_of_mem _ hp)

/-! ## Stopping -/

/-- What the loop of `stop` does: it unregisters the plugins up to one whose stop throws. -/
theorem stopEach_spec {environment : PluginEnvironment} {todo : List LoadedPlugin} :
    ∀ {manager : PluginManager}, Tables manager →
      ∀ {result manager'}, stopEach environment todo manager = (result, manager') →
      Tables manager' ∧ manager'.loaded = manager.loaded ∧ ∃ stopped rest,
        todo = stopped ++ rest ∧ (∀ p ∈ stopped, environment.stop p.tag = .ok ()) ∧
        (∀ type, manager'.registry.factories.get type =
          if ∃ p ∈ stopped, manager.registry.factories.get type = some (.plugin p.tag) then none
          else manager.registry.factories.get type) ∧
        (result = .ok () → rest = []) ∧
        ((∃ error, result = .error error) →
          ∃ p rest', rest = p :: rest' ∧ ∃ error, environment.stop p.tag = .error error) := by
  induction todo with
  | nil =>
    intro manager htables result manager' hstop
    cases hstop
    refine ⟨htables, rfl, [], [], rfl, by rintro p ⟨⟩, ?_, fun _ => rfl, ?_⟩
    · intro type
      simp
    · rintro ⟨error, ⟨⟩⟩
  | cons loaded rest ih =>
    intro manager htables result manager' hstop
    unfold stopEach at hstop
    cases hthrow : environment.stop loaded.tag with
    | error error =>
      rw [hthrow] at hstop
      cases hstop
      refine ⟨htables, rfl, [], loaded :: rest, rfl, by rintro p ⟨⟩, ?_, ?_, ?_⟩
      · intro type
        simp
      · rintro ⟨⟩
      · exact fun _ => ⟨loaded, rest, rfl, error, hthrow⟩
    | ok =>
      rw [hthrow] at hstop
      obtain ⟨htables₁, hget₁, hloaded₁⟩ := unregister_spec htables loaded.tag
      obtain ⟨htables', hloaded', stopped, left, hsplit, hok, hget', hnil, hcons⟩ :=
        ih htables₁ hstop
      refine ⟨htables', hloaded'.trans hloaded₁, loaded :: stopped, left, ?_, ?_, ?_, hnil, hcons⟩
      · rw [hsplit]
        rfl
      · intro p hp
        rcases List.mem_cons.mp hp with rfl | hp
        · exact hthrow
        · exact hok p hp
      · intro type
        rw [hget', hget₁]
        by_cases hown : manager.registry.factories.get type = some (.plugin loaded.tag)
        · have hfirst : ∃ p ∈ loaded :: stopped,
              manager.registry.factories.get type = some (.plugin p.tag) :=
            ⟨loaded, List.mem_cons_self, hown⟩
          rw [if_pos hfirst, if_pos hown]
          split <;> rfl
        · rw [if_neg hown]
          by_cases hlater : ∃ p ∈ stopped,
              manager.registry.factories.get type = some (.plugin p.tag)
          · obtain ⟨p, hp, howner⟩ := hlater
            rw [if_pos ⟨p, hp, howner⟩, if_pos ⟨p, List.mem_cons_of_mem _ hp, howner⟩]
          · rw [if_neg hlater, if_neg]
            rintro ⟨p, hp, howner⟩
            rcases List.mem_cons.mp hp with rfl | hp
            · exact hown howner
            · exact hlater ⟨p, hp, howner⟩

/-- No plugin that registered types is stopped before one whose stop throws. -/
def CleanStop (environment : PluginEnvironment) (manager : PluginManager) : Prop :=
  ∀ before p after, manager.loaded = before ++ p :: after →
    (∃ error, environment.stop p.tag = .error error) →
    (∀ q ∈ after, environment.stop q.tag = .ok ()) → ∀ q ∈ after, q.registered = []

theorem stop_inv {environment : PluginEnvironment} {manager : PluginManager} (hinv : Inv manager)
    (hclean : CleanStop environment manager) : Inv (manager.stop environment).2 := by
  unfold stop
  split
  · exact hinv
  obtain ⟨result, manager', hstop⟩ : ∃ result manager',
      stopEach environment manager.loaded.reverse manager = (result, manager') := ⟨_, _, rfl⟩
  obtain ⟨htables, hloaded, stopped, rest, hsplit, hok, hget, hnil, hcons⟩ :=
    stopEach_spec hinv.toTables hstop
  rw [hstop]
  cases result with
  | error error =>
    obtain ⟨p, rest', rfl, hthrow⟩ := hcons ⟨error, rfl⟩
    have horder : manager.loaded = rest'.reverse ++ p :: stopped.reverse := by
      rw [← List.reverse_reverse manager.loaded, hsplit]
      simp
    have hempty : ∀ q ∈ stopped, q.registered = [] := by
      intro q hq
      refine hclean _ _ _ horder hthrow (fun q hq => hok q (List.mem_reverse.mp hq)) q ?_
      exact List.mem_reverse.mpr hq
    have hsame : ∀ type, manager'.registry.factories.get type =
        manager.registry.factories.get type := by
      intro type
      rw [hget, if_neg]
      rintro ⟨q, hq, hown⟩
      obtain ⟨owner, howner, htag, htype⟩ := (hinv.plugin type q.tag).mp hown
      have hqmem : q ∈ manager.loaded := by
        rw [horder]
        exact List.mem_append_right _ (List.mem_cons_of_mem _ (List.mem_reverse.mpr hq))
      obtain rfl := List.inj_on_of_nodup_map hinv.tags howner hqmem htag
      rw [hempty owner hq] at htype
      cases htype
    refine ⟨htables, fun type tag => ?_, ?_⟩
    · rw [hsame, hloaded]
      exact hinv.plugin type tag
    · rw [hloaded]
      exact hinv.tags
  | ok =>
    obtain rfl := hnil rfl
    have hnone : ∀ type tag, manager'.registry.factories.get type ≠ some (.plugin tag) := by
      intro type tag
      rw [hget]
      split
      · exact fun h => by cases h
      · next hfree =>
        intro hown
        obtain ⟨owner, howner, htag, -⟩ := (hinv.plugin type tag).mp hown
        refine hfree ⟨owner, ?_, htag ▸ hown⟩
        rw [List.append_nil] at hsplit
        rw [← hsplit]
        exact List.mem_reverse.mpr howner
    refine @Owned.congr [] manager' _ ⟨htables, fun type tag => ?_, List.nodup_nil⟩ rfl rfl rfl
    refine iff_of_false (hnone type tag) ?_
    rintro ⟨p, ⟨⟩, -⟩

/-! ## Every sequence of calls -/

def CleanLoadAll (environment : PluginEnvironment) (configs : List PluginModuleConfig)
    (manager : PluginManager) : Prop :=
  match unloadStale environment (desiredKeys configs) manager.loaded manager with
  | (.error _, _) => True
  | (.ok (), manager') => CleanEach environment configs manager'

/-- All that a call meets with is clean. -/
def CleanCall (manager : PluginManager) : Call → Prop
  | .loadAll environment configs => CleanLoadAll environment configs manager
  | .start _ => True
  | .stop environment => CleanStop environment manager

theorem loadAll_inv {environment : PluginEnvironment} {configs : List PluginModuleConfig}
    {manager : PluginManager} (hinv : Inv manager)
    (hclean : CleanLoadAll environment configs manager) :
    Inv (manager.loadAll environment configs).2 := by
  have hunload := @unloadStale_inv environment (desiredKeys configs) manager.loaded manager hinv
    hinv.tags.of_map fun p hp => hp
  unfold CleanLoadAll at hclean
  unfold loadAll
  obtain ⟨result, manager', hrun⟩ : ∃ result manager',
      unloadStale environment (desiredKeys configs) manager.loaded manager = (result, manager') :=
    ⟨_, _, rfl⟩
  rw [hrun] at hunload hclean ⊢
  cases result with
  | error error => exact hunload
  | ok => exact loadEach_inv hunload hclean

theorem start_inv {environment : PluginEnvironment} {manager : PluginManager}
    (hinv : Inv manager) : Inv (manager.start environment).2 := by
  unfold start
  split
  · exact hinv
  · split
    · exact hinv
    · exact hinv.congr rfl rfl rfl

theorem perform_inv {manager manager' : PluginManager} {call : Call} (hinv : Inv manager)
    (hclean : CleanCall manager call) (h : system.step manager call = some manager') :
    Inv manager' := by
  cases h
  cases call with
  | loadAll environment configs => exact loadAll_inv hinv hclean
  | start environment => exact start_inv hinv
  | stop environment => exact stop_inv hinv hclean

theorem initial_inv : Inv initial := by
  have hfactories : coreRegistry.factories.entries =
      coreTypes.map fun type => (type, OutboundFactory.core) := by decide
  have howners : coreRegistry.owners.entries = coreTypes.map fun type => (type, "core") := by
    decide
  have hget : ∀ type factory, coreRegistry.factories.get type = some factory ↔
      factory = .core ∧ type ∈ coreTypes := by
    intro type factory
    rw [JsMap.get_eq_some_iff, hfactories, List.mem_map]
    constructor
    · rintro ⟨type, hmem, heq⟩
      cases heq
      exact ⟨rfl, hmem⟩
    · rintro ⟨rfl, hmem⟩
      exact ⟨type, hmem, rfl⟩
  refine ⟨⟨?_, ?_, ?_, by rintro entry ⟨⟩⟩, ?_, List.nodup_nil⟩
  · intro type
    ext owner
    show coreRegistry.owners.get type = some owner ↔ _
    rw [JsMap.get_eq_some_iff, howners, List.mem_map, Option.map_eq_some_iff]
    constructor
    · rintro ⟨type, hmem, heq⟩
      cases heq
      exact ⟨.core, (hget type .core).mpr ⟨rfl, hmem⟩, rfl⟩
    · rintro ⟨factory, hfactory, rfl⟩
      obtain ⟨rfl, hmem⟩ := (hget type factory).mp hfactory
      exact ⟨type, hmem, rfl⟩
  · intro type
    exact (hget type .core).trans (and_iff_right rfl)
  · intro tag type
    refine iff_of_false (by rintro ⟨⟩) fun h => ?_
    cases ((hget type (.plugin tag)).mp h).1
  · intro type tag
    refine iff_of_false (fun h => ?_) (by rintro ⟨p, ⟨⟩, -⟩)
    cases ((hget type (.plugin tag)).mp h).1

/-- The plugins' factories are those that the loaded plugins registered, each under its own
tag; nothing was replaced across owners, and the core's factories are in their places. -/
structure OwnershipExact (manager : PluginManager) : Prop where
  union : ∀ type, (∃ tag, manager.registry.factories.get type = some (.plugin tag)) ↔
    ∃ plugin ∈ manager.loaded, type ∈ plugin.registered
  owner : ∀ plugin ∈ manager.loaded, ∀ type ∈ plugin.registered,
    manager.registry.owners.get type = some plugin.tag
  failed : ∀ tag, tag ∉ manager.loaded.map LoadedPlugin.tag →
    ∀ type, manager.registry.factories.get type ≠ some (.plugin tag)
  replaced : ∀ entry ∈ manager.log,
    entry.replaced = none ∨ entry.replaced = some (.plugin entry.tag)
  core : ∀ type ∈ coreTypes, manager.registry.factories.get type = some .core ∧
    manager.registry.owners.get type = some "core"

theorem ownershipExact_of_inv {manager : PluginManager} (hinv : Inv manager) :
    OwnershipExact manager where
  union := by
    intro type
    constructor
    · rintro ⟨tag, hget⟩
      obtain ⟨plugin, hmem, -, htype⟩ := (hinv.plugin type tag).mp hget
      exact ⟨plugin, hmem, htype⟩
    · rintro ⟨plugin, hmem, htype⟩
      exact ⟨plugin.tag, (hinv.plugin type plugin.tag).mpr ⟨plugin, hmem, rfl, htype⟩⟩
  owner := by
    intro plugin hmem type htype
    rw [hinv.consistent, (hinv.plugin type plugin.tag).mpr ⟨plugin, hmem, rfl, htype⟩]
    rfl
  failed := by
    intro tag htag type hget
    obtain ⟨plugin, hmem, rfl, -⟩ := (hinv.plugin type tag).mp hget
    exact htag (List.mem_map_of_mem hmem)
  replaced := hinv.log
  core := by
    intro type htype
    have hget := (hinv.core type).mpr htype
    refine ⟨hget, ?_⟩
    rw [hinv.consistent, hget]
    rfl

/-- Along calls that meet with clean plugins only, the ownership of factories is exact after
every call, whether it succeeds or fails. -/
theorem ownership_exact (calls : List Call) (h : system.Along CleanCall initial calls) :
    system.Throughout OwnershipExact initial calls := by
  rw [system.throughout_iff]
  rintro before after manager rfl hrun
  have halong := ((system.along_append CleanCall initial before after).mp h).1
  refine ownershipExact_of_inv ?_
  exact system.run_invariant CleanCall Inv (fun _ _ _ hinv hclean hstep =>
    perform_inv hinv hclean hstep) before initial manager initial_inv halong hrun

/-! ## Plugins that leave something behind -/

def relayConfig : PluginModuleConfig := ⟨"relay", "relay.mjs", true, none⟩

def fullManifest (name : String) : PluginManifest := ⟨name, ["outbound:register"]⟩

/-- Registers a type and ends in the result, whatever comes of the registration. -/
def registerThen (type : String) (result : Except String Unit) : PluginSetup :=
  .call type fun _ => .done result

/-- Every module has one setup, and nothing else throws. -/
def environmentOf (setup : PluginSetup) : PluginEnvironment where
  load config := .ok (fullManifest config.tag, setup)
  start _ := .ok ()
  stop _ := .ok ()

theorem ownership_exact_relay :
    system.Throughout OwnershipExact initial
      [.loadAll (environmentOf (registerThen "plugin.relay" (.ok ()))) [relayConfig],
        .stop (environmentOf (registerThen "plugin.relay" (.ok ())))] := by
  refine ownership_exact _ ⟨?_, fun manager hstep => ⟨?_, fun _ _ => trivial⟩⟩
  · have hsetup : CleanSetup (fullManifest "relay") "relay"
        (registerThen "plugin.relay" (.ok ())) [] initial :=
      ⟨fun htag => absurd htag (by decide), trivial⟩
    exact ⟨hsetup, trivial⟩
  · intro before p after _ hthrow
    obtain ⟨error, ⟨⟩⟩ := hthrow

/-- A setup that throws after it registered a type leaves the type behind, and one with the
core's tag replaces a factory of the core. -/
theorem failed_setup_owns :
    (∃ manager, system.run initial
        [.loadAll (environmentOf (registerThen "plugin.relay" (.error "setup failed")))
          [relayConfig]] = some manager ∧
      manager.loaded = [] ∧
      manager.registry.factories.get "plugin.relay" = some (.plugin "relay") ∧
      ¬ OwnershipExact manager) ∧
    ∃ manager, system.run initial
        [.loadAll (environmentOf (registerThen "direct" (.ok ())))
          [{ relayConfig with tag := "core" }]] = some manager ∧
      manager.registry.factories.get "direct" = some (.plugin "core") ∧
      ¬ OwnershipExact manager := by
  constructor
  · refine ⟨_, rfl, by decide, by decide, fun hexact => ?_⟩
    obtain ⟨plugin, hmem, -⟩ := (hexact.union "plugin.relay").mp ⟨"relay", by decide⟩
    exact absurd hmem (by rintro ⟨⟩)
  · refine ⟨_, rfl, by decide, fun hexact => ?_⟩
    exact absurd (hexact.core "direct" (by decide)).1 (by decide)

end PluginManager

end Sepigs
