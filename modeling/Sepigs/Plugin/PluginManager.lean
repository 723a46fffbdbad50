import Sepigs.Lib.JsMap
import Sepigs.Lib.Resumption
import Sepigs.Lib.Runs

/-!
# Plugins and the factories they register

`outbound/registry.ts` and, for plugins that run in process, `plugin/plugin.ts` with
`plugin/runners/inProcessRunner.ts`.  A plugin's `setup` is a program that registers
factories and sees whether each registration threw; what plugins and their files do is an
environment, new for every call of the manager.
-/

namespace Sepigs

/-! ## `outbound/registry.ts` -/

/-- A factory, told by who made it. -/
inductive OutboundFactory
  | core
  | plugin (tag : String)
deriving DecidableEq, Repr

structure FactoryRegistry where
  factories : JsMap String OutboundFactory
  owners : JsMap String String

namespace FactoryRegistry

def registerOutboundFactory (registry : FactoryRegistry) (type : String)
    (factory : OutboundFactory) (owner : String) : Except String FactoryRegistry :=
  match registry.owners.get type with
  | some existingOwner =>
    if existingOwner ≠ owner then
      .error (s!"outbound factory \"{type}\" is owned by \"{existingOwner}\" and cannot be " ++
        s!"replaced by \"{owner}\"")
    else .ok ⟨registry.factories.set type factory, registry.owners.set type owner⟩
  | none => .ok ⟨registry.factories.set type factory, registry.owners.set type owner⟩

def unregisterOutboundFactory (registry : FactoryRegistry) (type owner : String) :
    FactoryRegistry :=
  if registry.owners.get type ≠ some owner then registry
  else ⟨registry.factories.delete type, registry.owners.delete type⟩

end FactoryRegistry

/-- The types that the module registers when it is loaded. -/
def coreTypes : List String := ["direct", "block", "tcpRelay", "shadowsocks", "trojan", "wireguard"]

def coreRegistry : FactoryRegistry :=
  coreTypes.foldl
    (fun registry type =>
      (registry.registerOutboundFactory type .core "core").toOption.getD registry)
    ⟨∅, ∅⟩

/-! ## `plugin/plugin.ts` -/

structure PluginModuleConfig where
  tag : String
  path : String
  enabled : Bool
  manifest : Option String
deriving DecidableEq, Repr

/-- What `configKey` writes as JSON. -/
structure PluginConfigKey where
  path : String
  manifest : Option String
  enabled : Bool
deriving DecidableEq, Repr

def PluginModuleConfig.configKey (config : PluginModuleConfig) : PluginConfigKey :=
  ⟨config.path, config.manifest, config.enabled⟩

structure PluginManifest where
  name : String
  permissions : List String
deriving DecidableEq, Repr

/-- `registered` is history: the types that the plugin's setup registered. -/
structure LoadedPlugin where
  tag : String
  manifest : PluginManifest
  configKey : PluginConfigKey
  registered : List String
deriving DecidableEq, Repr

/-- History: a registration that did not throw, and the factory it replaced. -/
structure FactoryRegistration where
  type : String
  tag : String
  replaced : Option OutboundFactory
deriving DecidableEq, Repr

structure PluginManager where
  registry : FactoryRegistry
  loaded : List LoadedPlugin
  remoteOutboundTypes : JsMap String (List String)
  started : Bool
  log : List FactoryRegistration

/-- What a plugin does from the import of its module to the end of `setup`: it registers
types, and ends or throws. -/
abbrev PluginSetup : Type :=
  Resumption String (fun _ => Except String Unit) (Except String Unit)

/-- What the plugins do during one call of the manager; `load` covers `resolveManifest`. -/
structure PluginEnvironment where
  load : PluginModuleConfig → Except String (PluginManifest × PluginSetup)
  start : String → Except String Unit
  stop : String → Except String Unit

namespace PluginManager

def initial : PluginManager := ⟨coreRegistry, [], ∅, false, []⟩

/-- `new Set([...registered]).add(type)` -/
def addType (registered : List String) (type : String) : List String :=
  if type ∈ registered then registered else registered ++ [type]

/-- `registerOutboundFactory` of the sandbox, and then `registerOwnedOutboundFactory`. -/
def registerOwned (manager : PluginManager) (manifest : PluginManifest) (tag type : String) :
    Except String PluginManager :=
  if "outbound:register" ∉ manifest.permissions then
    .error s!"plugin \"{manifest.name}\" does not have outbound:register permission"
  else
    match manager.registry.registerOutboundFactory type (.plugin tag) tag with
    | .error error => .error error
    | .ok registry =>
      .ok { manager with
        registry := registry
        remoteOutboundTypes := manager.remoteOutboundTypes.set tag
          (addType ((manager.remoteOutboundTypes.get tag).getD []) type)
        log := manager.log ++ [⟨type, tag, manager.registry.factories.get type⟩] }

/-- `runner.setup()`: how it ends, the types it registered, and the manager after it. -/
def runSetup (manifest : PluginManifest) (tag : String) :
    PluginSetup → List String → PluginManager → Except String Unit × List String × PluginManager
  | .done result, registered, manager => (result, registered, manager)
  | .call type next, registered, manager =>
    match manager.registerOwned manifest tag type with
    | .error error => runSetup manifest tag (next (.error error)) registered manager
    | .ok manager' => runSetup manifest tag (next (.ok ())) (registered ++ [type]) manager'

def unregisterRemoteOutboundFactories (manager : PluginManager) (tag : String) : PluginManager :=
  match manager.remoteOutboundTypes.get tag with
  | none => manager
  | some registered =>
    { manager with
      registry := registered.foldl
        (fun registry type => registry.unregisterOutboundFactory type tag) manager.registry
      remoteOutboundTypes := manager.remoteOutboundTypes.delete tag }

/-- A setup that throws leaves the runner without a plugin, so that stopping it does nothing. -/
def loadOne (environment : PluginEnvironment) (config : PluginModuleConfig)
    (manager : PluginManager) : Except String Unit × PluginManager :=
  match environment.load config with
  | .error error => (.error error, manager)
  | .ok (manifest, setup) =>
    match runSetup manifest config.tag setup [] manager with
    | (.error error, _, manager') => (.error error, manager')
    | (.ok (), registered, manager') =>
      let manager'' := { manager' with
        loaded := manager'.loaded ++ [⟨config.tag, manifest, config.configKey, registered⟩] }
      if manager''.started then (environment.start config.tag, manager'') else (.ok (), manager'')

/-- The first loop of `loadAll`, over a copy of the loaded plugins. -/
def unloadStale (environment : PluginEnvironment) (desired : JsMap String PluginConfigKey) :
    List LoadedPlugin → PluginManager → Except String Unit × PluginManager
  | [], manager => (.ok (), manager)
  | loaded :: rest, manager =>
    if desired.get loaded.tag ≠ some loaded.configKey then
      match environment.stop loaded.tag with
      | .error error => (.error error, manager)
      | .ok () =>
        let manager' := manager.unregisterRemoteOutboundFactories loaded.tag
        unloadStale environment desired rest
          { manager' with loaded := manager'.loaded.erase loaded }
    else unloadStale environment desired rest manager

/-- The second loop of `loadAll`. -/
def loadEach (environment : PluginEnvironment) :
    List PluginModuleConfig → PluginManager → Except String Unit × PluginManager
  | [], manager => (.ok (), manager)
  | config :: rest, manager =>
    if !config.enabled || manager.loaded.any fun loaded => loaded.tag = config.tag then
      loadEach environment rest manager
    else
      match loadOne environment config manager with
      | (.error error, manager') => (.error error, manager')
      | (.ok (), manager') => loadEach environment rest manager'

def desiredKeys (configs : List PluginModuleConfig) : JsMap String PluginConfigKey :=
  (configs.filter PluginModuleConfig.enabled).foldl
    (fun desired config => desired.set config.tag config.configKey) ∅

def loadAll (environment : PluginEnvironment) (configs : List PluginModuleConfig)
    (manager : PluginManager) : Except String Unit × PluginManager :=
  match unloadStale environment (desiredKeys configs) manager.loaded manager with
  | (.error error, manager') => (.error error, manager')
  | (.ok (), manager') => loadEach environment configs manager'

/-- The loop of `start`. -/
def startEach (environment : PluginEnvironment) : List LoadedPlugin → Except String Unit
  | [] => .ok ()
  | loaded :: rest =>
    match environment.start loaded.tag with
    | .error error => .error error
    | .ok () => startEach environment rest

def start (environment : PluginEnvironment) (manager : PluginManager) :
    Except String Unit × PluginManager :=
  if manager.started then (.ok (), manager)
  else
    match startEach environment manager.loaded with
    | .error error => (.error error, manager)
    | .ok () => (.ok (), { manager with started := true })

/-- The loop of `stop`, over a reversed copy of the loaded plugins. -/
def stopEach (environment : PluginEnvironment) :
    List LoadedPlugin → PluginManager → Except String Unit × PluginManager
  | [], manager => (.ok (), manager)
  | loaded :: rest, manager =>
    match environment.stop loaded.tag with
    | .error error => (.error error, manager)
    | .ok () =>
      stopEach environment rest (manager.unregisterRemoteOutboundFactories loaded.tag)

def stop (environment : PluginEnvironment) (manager : PluginManager) :
    Except String Unit × PluginManager :=
  if !manager.started && manager.loaded.isEmpty then (.ok (), manager)
  else
    match stopEach environment manager.loaded.reverse manager with
    | (.error error, manager') => (.error error, manager')
    | (.ok (), manager') => (.ok (), { manager' with loaded := [], started := false })

/-- One call of the manager, with what the plugins do meanwhile. -/
inductive Call
  | loadAll (environment : PluginEnvironment) (configs : List PluginModuleConfig)
  | start (environment : PluginEnvironment)
  | stop (environment : PluginEnvironment)

def perform (manager : PluginManager) : Call → Except String Unit × PluginManager
  | .loadAll environment configs => manager.loadAll environment configs
  | .start environment => manager.start environment
  | .stop environment => manager.stop environment

/-- Calls of the manager one after the other; a call that fails leaves the manager as it is. -/
def system : Runs.System PluginManager Call where
  step manager call := some (manager.perform call).2

end PluginManager

end Sepigs
