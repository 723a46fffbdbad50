import Sepigs.Config.Outbounds
import Sepigs.Config.Types
import Sepigs.Lib.IndexBy

/-!
# The diff of two lists of outbounds (`outbound/generationBuilder.ts`)

Configurations are compared by their stable text.  The references to outbounds are kept in a
plain object, which inherits the members of every object.
-/

namespace Sepigs

structure TypedOutbound extends ParsedOutbound where
  type : String
  typed : record.get "type" = some (.string type)

structure OutboundRename where
  fromTag : String
  toTag : String
  type : String
deriving DecidableEq, Repr

structure OutboundModifiedEntry where
  tag : String
  changedFields : List String
deriving DecidableEq, Repr

structure OutboundGenerationDiff where
  added : List String
  removed : List String
  modified : List OutboundModifiedEntry
  renamed : List OutboundRename
  typeChanged : List String
  targetChanged : List String
  secretChanged : List String
  policyReferencedTags : JsMap String (List String)
  missingPolicyReferences : List String

/-! ## `policyReferences` -/

/-- What every plain object inherits. -/
def objectPrototypeMembers : List String :=
  ["constructor", "__defineGetter__", "__defineSetter__", "hasOwnProperty", "__lookupGetter__",
    "__lookupSetter__", "isPrototypeOf", "propertyIsEnumerable", "toString", "valueOf",
    "__proto__", "toLocaleString"]

/-- `add`: an inherited member is there, but it has no `includes`. -/
def addReference (references : JsMap String (List String)) (reference : String × String) :
    Except String (JsMap String (List String)) :=
  match references.get reference.1 with
  | some current =>
    pure (references.set reference.1
      (if reference.2 ∈ current then current else current ++ [reference.2]))
  | none =>
    if reference.1 ∈ objectPrototypeMembers then throw "current.includes is not a function"
    else pure (references.set reference.1 [reference.2])

/-- The tags and sources that `add` is called with. -/
def routeReferences (route : RouterConfig) : List (String × String) :=
  (route.defaultOutbound, "default") ::
    route.rules.map (fun rule => (rule.outboundTag, rule.tag.getD "rule")) ++
    route.policies.flatMap fun policy => policy.outbounds.map fun tag => (tag, s!"policy:{policy.tag}")

/-- Writing to `__proto__` leaves no field of its own. -/
def policyReferences (outbounds : List TypedOutbound) (route : Option RouterConfig) :
    Except String (JsMap String (List String)) :=
  match route with
  | none =>
    pure (outbounds.foldl (fun references outbound =>
      if outbound.tag = "__proto__" then references else references.set outbound.tag []) ∅)
  | some route => (routeReferences route).foldlM addReference ∅

/-- `if (!(tag in policyReferencedTags)) policyReferencedTags[tag] = []` -/
def withUnreferenced (references : JsMap String (List String)) (tags : List String) :
    JsMap String (List String) :=
  tags.foldl (fun references tag =>
    if references.has tag || tag ∈ objectPrototypeMembers then references
    else references.set tag []) references

/-- `Object.keys` -/
def referenceKeys (references : JsMap String (List String)) : List String :=
  Json.keys (Json.propertyOrder (references.entries.map fun entry => (entry.1, Json.null)))

/-! ## The parts of a configuration -/

section Parts

variable (localeCompare : String → String → Int) (number : Rat → List Char)

/-- `stableOutboundJson(value)`, with `none` for `undefined`. -/
def stableOutboundJson (value : Option Json) : Option String :=
  value.map (Json.stableJson localeCompare number)

/-- `/password|token|secret|privatekey|presharedkey/iu.test(key)` -/
def isSecretField (key : String) : Bool := isSecretKey key

/-- The order of `sort()` -/
def codeUnits (text : String) : List Nat :=
  text.toList.flatMap fun c =>
    if c.toNat < 0x10000 then [c.toNat]
    else [0xD800 + (c.toNat - 0x10000) / 0x400, 0xDC00 + (c.toNat - 0x10000) % 0x400]

def changedFields (previous candidate : ParsedOutbound) : List String :=
  let keys := (previous.record.keys ++ candidate.record.keys).eraseDups
  let changed := keys.filter fun key =>
    stableOutboundJson localeCompare number (previous.record.get key) ≠
      stableOutboundJson localeCompare number (candidate.record.get key)
  (changed.map fun key => if isSecretField key then s!"{key}:[REDACTED]" else key).mergeSort
    fun left right => codeUnits left ≤ codeUnits right

mutual
/-- `String(value)` -/
def textOf : Json → String
  | .null => "null"
  | .boolean value => toString value
  | .number value => String.ofList (number value)
  | .string value => value
  | .array items => JsString.join (textsOf items) ','
  | .object _ => "[object Object]"

/-- `null` has no text in an array. -/
def textsOf : List Json → List String
  | [] => []
  | .null :: items => "" :: textsOf items
  | item :: items => textOf item :: textsOf items
end

/-- `${config[key]}` -/
def fieldText (config : ParsedOutbound) (key : String) : String :=
  ((config.record.get key).map (textOf number)).getD "undefined"

def targetIdentity (config : TypedOutbound) : String :=
  if config.type = "tcpRelay" then
    let targetHost := fieldText number config.toParsedOutbound "targetHost"
    let targetPort := fieldText number config.toParsedOutbound "targetPort"
    s!"{config.type}:{targetHost}:{targetPort}"
  else if config.type = "shadowsocks" ∨ config.type = "trojan" then
    let serverHost := fieldText number config.toParsedOutbound "serverHost"
    let serverPort := fieldText number config.toParsedOutbound "serverPort"
    s!"{config.type}:{serverHost}:{serverPort}"
  else config.type

/-- An object with the fields that are there. -/
def presentFields (fields : List (String × Option Json)) : Json :=
  .object (fields.filterMap fun field => field.2.map fun value => (field.1, value))

def secretIdentity (config : TypedOutbound) : Option String :=
  let get := config.record.get
  if config.type = "shadowsocks" then
    stableOutboundJson localeCompare number
      (presentFields [("method", get "method"), ("password", get "password")])
  else if config.type = "trojan" then
    stableOutboundJson localeCompare number
      (presentFields [("password", get "password"), ("tls", get "tls")])
  else if config.type = "wireguard" then
    let publicKey := match get "peer" with
      | some (.object peer) => Json.field peer "publicKey"
      | _ => none
    stableOutboundJson localeCompare number
      (presentFields [("privateKey", get "privateKey"), ("peer", publicKey)])
  else some ""

/-! ## `diffOutboundConfigs` -/

/-- The state of the loop over the removed outbounds. -/
structure Renaming where
  renamed : List OutboundRename
  consumedAdded : List String
  consumedRemoved : List String

/-- `stableOutboundJson(withoutTag(config))` -/
def untaggedText (config : ParsedOutbound) : Option String :=
  stableOutboundJson localeCompare number config.content

def renameStep (addedCandidates : List TypedOutbound) (s : Renaming) (oldConfig : TypedOutbound) :
    Renaming :=
  let replacement := addedCandidates.find? fun item =>
    item.tag ∉ s.consumedAdded && item.type = oldConfig.type &&
      untaggedText localeCompare number item.toParsedOutbound =
        untaggedText localeCompare number oldConfig.toParsedOutbound
  match replacement with
  | none => s
  | some replacement =>
    { renamed := s.renamed ++ [⟨oldConfig.tag, replacement.tag, replacement.type⟩]
      consumedAdded := replacement.tag :: s.consumedAdded
      consumedRemoved := oldConfig.tag :: s.consumedRemoved }

/-- The outbounds of the candidate with their previous configuration, where it is another. -/
def changedOutbounds (currentByTag : JsMap String TypedOutbound) (candidate : List TypedOutbound) :
    List (TypedOutbound × TypedOutbound) :=
  candidate.filterMap fun next =>
    match currentByTag.get next.tag with
    | none => none
    | some previous =>
      if stableOutboundJson localeCompare number previous.whole =
          stableOutboundJson localeCompare number next.whole then none
      else some (previous, next)

def diffOutboundConfigs (current candidate : List TypedOutbound) (route : Option RouterConfig) :
    Except String OutboundGenerationDiff := do
  let currentByTag := JsMap.indexBy (fun item : TypedOutbound => item.tag) current
  let candidateByTag := JsMap.indexBy (fun item : TypedOutbound => item.tag) candidate
  let removedCandidates := current.filter fun item => !candidateByTag.has item.tag
  let addedCandidates := candidate.filter fun item => !currentByTag.has item.tag
  let renames := removedCandidates.foldl (renameStep localeCompare number addedCandidates) ⟨[], [], []⟩
  let changed := changedOutbounds localeCompare number currentByTag candidate
  let references ← policyReferences candidate route
  let candidateTags := (candidate.map fun item => item.tag).eraseDups
  pure
    { added := (addedCandidates.filter fun item => item.tag ∉ renames.consumedAdded).map (·.tag)
      removed := (removedCandidates.filter fun item => item.tag ∉ renames.consumedRemoved).map (·.tag)
      modified := changed.map fun (previous, next) =>
        ⟨next.tag, changedFields localeCompare number previous.toParsedOutbound next.toParsedOutbound⟩
      renamed := renames.renamed
      typeChanged := (changed.filter fun (previous, next) => previous.type ≠ next.type).map (·.2.tag)
      targetChanged := (changed.filter fun (previous, next) =>
        targetIdentity number previous ≠ targetIdentity number next).map (·.2.tag)
      secretChanged := (changed.filter fun (previous, next) =>
        secretIdentity localeCompare number previous ≠
          secretIdentity localeCompare number next).map (·.2.tag)
      policyReferencedTags := withUnreferenced references candidateTags
      missingPolicyReferences := (referenceKeys references).filter (· ∉ candidateTags) }

end Parts

end Sepigs
