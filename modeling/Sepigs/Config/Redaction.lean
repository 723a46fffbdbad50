import Sepigs.Lib.JsMap
import Sepigs.Lib.JsonDiff
import Sepigs.Lib.JsString

/-!
# The redactors of outbound configurations

`redactOutboundConfig` of `outbound/generation.ts`, `redact` of `dashboard/routes.ts` and
`redactSubscriptionOutbounds` of `subscription/redact.ts`: what each leaves of the places
where two configurations differ, and when none of the three tells two configurations
apart that differ under secret keys only.
-/

namespace Sepigs

open Json (Step Differ SameHead storedUnder)

/-- The fields of an outbound configuration, those that its type adds among them. -/
abbrev OutboundRecord := JsMap String Json

def REDACTED : Json := .string "[REDACTED]"

/-! ## `outbound/generation.ts` -/

/-- `/password|token|secret|privatekey|presharedkey/iu` -/
def isSecretKey (key : String) : Bool :=
  ["password", "token", "secret", "privatekey", "presharedkey"].any
    (JsString.includesIgnoringCase key)

mutual
def redactValue (key : String) : Json → Json
  | .array items => .array (redactItems items)
  | .object fields => .object (redactFields fields)
  | .null => if isSecretKey key then REDACTED else .null
  | .boolean value => if isSecretKey key then REDACTED else .boolean value
  | .number value => if isSecretKey key then REDACTED else .number value
  | .string value => if isSecretKey key then REDACTED else .string value

/-- `value.map((child) => redactValue(child))`: the items lose the key of their array. -/
def redactItems : List Json → List Json
  | [] => []
  | child :: items => redactValue "" child :: redactItems items

def redactFields : List (String × Json) → List (String × Json)
  | [] => []
  | (childKey, child) :: fields => (childKey, redactValue childKey child) :: redactFields fields
end

/-- The clone and the freeze of the source leave the value as it is. -/
def redactOutboundConfig (config : OutboundRecord) : Json := redactValue "" (.object config.entries)

/-! ## `dashboard/routes.ts` -/

/-- `SECRET_KEYS.test(key)`, with `SECRET_KEYS = /password|token|privateKey|publicKey/iu` -/
def isDashboardKey (key : String) : Bool :=
  ["password", "token", "privatekey", "publickey"].any (JsString.includesIgnoringCase key)

mutual
def redact : Json → Json
  | .array items => .array (redactAll items)
  | .object fields => .object (redactEntries fields)
  | .null => .null
  | .boolean value => .boolean value
  | .number value => .number value
  | .string value => .string value

def redactAll : List Json → List Json
  | [] => []
  | item :: items => redact item :: redactAll items

/-- An assignment to `__proto__` makes no field of the output. -/
def redactEntries : List (String × Json) → List (String × Json)
  | [] => []
  | (key, child) :: fields =>
    if key = "__proto__" then redactEntries fields
    else (key, if isDashboardKey key then REDACTED else redact child) :: redactEntries fields
end

/-! ## `subscription/redact.ts` -/

def subscriptionKeys : List String := ["password", "privateKey", "publicKey", "token"]

/-- The entries that spreading an array gives, from an index on. -/
def indexed : Nat → List Json → List (String × Json)
  | _, [] => []
  | i, item :: items => (toString i, item) :: indexed (i + 1) items

/-- `{ ...peer, publicKey: "[REDACTED]" }` for a peer that is an object or an array. -/
def redactPeer : Json → Json
  | .object fields => .object (Json.assign fields "publicKey" REDACTED)
  | .array items => .object (Json.assign (indexed 0 items) "publicKey" REDACTED)
  | peer => peer

def redactSubscriptionKey (value : List (String × Json)) (key : String) : List (String × Json) :=
  if key ∈ Json.keys value then Json.assign value key REDACTED else value

def redactSubscriptionOutbound (outbound : OutboundRecord) : Json :=
  let value := subscriptionKeys.foldl redactSubscriptionKey outbound.entries
  match Json.field value "peer" with
  | some peer => .object (Json.assign value "peer" (redactPeer peer))
  | none => .object value

def redactSubscriptionOutbounds (outbounds : List OutboundRecord) : List Json :=
  outbounds.map redactSubscriptionOutbound

/-! ## What the redactors leave -/

theorem redactItems_eq_map (items : List Json) : redactItems items = items.map (redactValue "") := by
  induction items with
  | nil => rfl
  | cons child items ih => rw [redactItems, ih, List.map_cons]

theorem redactFields_eq_map (fields : List (String × Json)) :
    redactFields fields = fields.map fun field => (field.1, redactValue field.1 field.2) := by
  induction fields with
  | nil => rfl
  | cons field fields ih => rw [redactFields, ih, List.map_cons]

theorem redactAll_eq_map (items : List Json) : redactAll items = items.map redact := by
  induction items with
  | nil => rfl
  | cons item items ih => rw [redactAll, ih, List.map_cons]

theorem redactEntries_eq_map (fields : List (String × Json)) :
    redactEntries fields = (fields.map fun field =>
      (field.1, if isDashboardKey field.1 then REDACTED else redact field.2)).filter
        fun field => field.1 ≠ "__proto__" := by
  induction fields with
  | nil => rfl
  | cons field fields ih =>
    rw [redactEntries, ih, List.map_cons, List.filter_cons]
    by_cases h : field.1 = "__proto__" <;> simp [h]

theorem redactValue_scalar (key : String) {value : Json} (h : value.isScalar = true) :
    redactValue key value = if isSecretKey key then REDACTED else value := by
  cases value <;> first | rfl | cases h

theorem isScalar_redactValue (key : String) (value : Json) :
    (redactValue key value).isScalar = value.isScalar := by
  cases h : value.isScalar with
  | true =>
    rw [redactValue_scalar key h]
    split
    · rfl
    · exact h
  | false => cases value <;> first | rfl | cases h

theorem sameHead_of_redactValue_eq {key : String} {x y : Json}
    (h : redactValue key x = redactValue key y) (hx : x.isScalar = false) : SameHead x y := by
  have hy : y.isScalar = false := by
    rw [← isScalar_redactValue key y, ← h, isScalar_redactValue key x, hx]
  cases x with
  | array xs =>
    cases y with
    | array ys =>
      have hlength := congrArg List.length (Json.array.inj h)
      show xs.length = ys.length
      simpa [redactItems_eq_map] using hlength
    | object gs => cases h
    | _ => cases hy
  | object fs =>
    cases y with
    | object gs =>
      have hkeys := congrArg Json.keys (Json.object.inj h)
      show Json.keys fs = Json.keys gs
      simpa [redactFields_eq_map, Json.keys, Function.comp_def] using hkeys
    | array ys => cases h
    | _ => cases hy
  | _ => cases hx

/-- `redactOutboundConfig` hides a difference when both values are scalars that stand
directly under a secret key, and no other one. -/
theorem redactValue_eq_iff (x y : Json) : ∀ key, redactValue key x = redactValue key y ↔
    ∀ path u v, Differ x y path u v →
      u.isScalar = true ∧ v.isScalar = true ∧ isSecretKey (storedUnder key path) = true := by
  induction x, y using Json.pair_induction with
  | unlike x y h =>
    intro key
    rw [Json.forall_differ_of_not_sameHead h]
    constructor
    · intro heq
      have hx : x.isScalar = true := by
        by_contra hx
        exact h (sameHead_of_redactValue_eq heq (Bool.not_eq_true _ ▸ hx))
      have hy : y.isScalar = true := by
        rw [← isScalar_redactValue key y, ← heq, isScalar_redactValue key x, hx]
      refine ⟨hx, hy, ?_⟩
      by_contra hsecret
      replace hsecret : ¬ isSecretKey key = true := hsecret
      rw [redactValue_scalar key hx, redactValue_scalar key hy, if_neg hsecret, if_neg hsecret]
        at heq
      exact h (heq ▸ .refl x)
    · rintro ⟨hx, hy, hsecret⟩
      replace hsecret : isSecretKey key = true := hsecret
      rw [redactValue_scalar key hx, redactValue_scalar key hy, if_pos hsecret, if_pos hsecret]
  | scalar x h =>
    intro key
    exact iff_of_true rfl fun path u v hdiffer => absurd hdiffer (Json.not_differ_scalar h)
  | array xs ys h ih =>
    intro key
    rw [Json.forall_differ_array h, redactValue, redactValue, Json.array.injEq,
      redactItems_eq_map, redactItems_eq_map, Json.map_eq_map_iff_items h]
    exact forall_congr' fun i => forall_congr' fun x => forall_congr' fun y =>
      forall_congr' fun hx => forall_congr' fun hy => ih i x y hx hy ""
  | object fs gs h ih =>
    intro key
    rw [Json.forall_differ_object h, redactValue, redactValue, Json.object.injEq,
      redactFields_eq_map, redactFields_eq_map, Json.map_eq_map_iff_fields h]
    exact forall_congr' fun i => forall_congr' fun childKey => forall_congr' fun x =>
      forall_congr' fun y => forall_congr' fun hx => forall_congr' fun hy =>
        ih i childKey x y hx hy childKey

/-- The dashboard hides a difference below any key that its pattern finds. -/
theorem redact_eq (x y : Json)
    (h : ∀ path u v, Differ x y path u v → ∃ step ∈ path, isDashboardKey step.key = true) :
    redact x = redact y := by
  induction x, y using Json.pair_induction with
  | unlike x y hhead =>
    obtain ⟨step, ⟨⟩, -⟩ := h [] x y (.here hhead)
  | scalar x _ => rfl
  | array xs ys hlength ih =>
    rw [Json.forall_differ_array hlength] at h
    rw [redact, redact, redactAll_eq_map, redactAll_eq_map,
      (Json.map_eq_map_iff_items hlength).mpr]
    intro i x y hx hy
    refine ih i x y hx hy fun path u v hdiffer => ?_
    obtain ⟨step, hmem, hkey⟩ := h i x y hx hy path u v hdiffer
    rcases List.mem_cons.mp hmem with rfl | hmem
    · cases hkey
    · exact ⟨step, hmem, hkey⟩
  | object fs gs hkeys ih =>
    rw [Json.forall_differ_object hkeys] at h
    have hfields : ∀ (i : Nat) (key : String) (x y : Json), fs[i]? = some (key, x) →
        gs[i]? = some (key, y) →
        (if isDashboardKey key then REDACTED else redact x) =
          if isDashboardKey key then REDACTED else redact y := by
      intro i key x y hx hy
      by_cases hkey : isDashboardKey key = true
      · rw [if_pos hkey, if_pos hkey]
      · rw [ih i key x y hx hy]
        intro path u v hdiffer
        obtain ⟨step, hmem, hstep⟩ := h i key x y hx hy path u v hdiffer
        rcases List.mem_cons.mp hmem with rfl | hmem
        · exact absurd hstep hkey
        · exact ⟨step, hmem, hstep⟩
    have hmap := (@Json.map_eq_map_iff_fields _
      (fun key x => if isDashboardKey key then REDACTED else redact x) _ _ hkeys).mpr hfields
    rw [redact, redact, redactEntries_eq_map, redactEntries_eq_map, hmap]

/-! ## What the subscription redactor leaves -/

/-- What the subscription redactor puts in a field of the outbound. -/
def subscriptionValue (key : String) (value : Json) : Json :=
  if key ∈ subscriptionKeys then REDACTED
  else if key = "peer" then redactPeer value
  else value

theorem redactSubscriptionKey_eq_map (value : List (String × Json)) (key : String) :
    redactSubscriptionKey value key =
      value.map fun field => (field.1, if field.1 = key then REDACTED else field.2) := by
  unfold redactSubscriptionKey Json.assign
  by_cases h : key ∈ Json.keys value
  · rw [if_pos h, if_pos h]
  · rw [if_neg h]
    exact (Json.map_eq_self_of_notMem (fun _ => REDACTED) h).symm

theorem redactSubscriptionKeys_eq_map (names : List String) (value : List (String × Json)) :
    names.foldl redactSubscriptionKey value =
      value.map fun field => (field.1, if field.1 ∈ names then REDACTED else field.2) := by
  induction names generalizing value with
  | nil => simp
  | cons key names ih =>
    rw [List.foldl_cons, ih, redactSubscriptionKey_eq_map, List.map_map]
    refine List.map_congr_left fun field _ => ?_
    show (field.1, if field.1 ∈ names then REDACTED else if field.1 = key then _ else _) = _
    by_cases hkey : field.1 = key <;> by_cases hmem : field.1 ∈ names <;> simp [hkey, hmem]

/-- Each field of the outbound is redacted by its own key. -/
theorem redactSubscriptionOutbound_eq_map (outbound : OutboundRecord) :
    redactSubscriptionOutbound outbound =
      .object (outbound.entries.map fun field => (field.1, subscriptionValue field.1 field.2)) := by
  unfold redactSubscriptionOutbound
  rw [redactSubscriptionKeys_eq_map]
  generalize hvalue : (outbound.entries.map fun field =>
    (field.1, if field.1 ∈ subscriptionKeys then REDACTED else field.2)) = value
  have hkeys : Json.keys value = Json.keys outbound.entries := by
    rw [← hvalue, Json.keys, List.map_map]
    rfl
  have hpeer : ∀ f : Json → Json, value.map (fun field =>
      (field.1, if field.1 = "peer" then f field.2 else field.2)) =
        outbound.entries.map fun field => (field.1,
          if field.1 ∈ subscriptionKeys then REDACTED
          else if field.1 = "peer" then f field.2 else field.2) := by
    intro f
    rw [← hvalue, List.map_map]
    refine List.map_congr_left fun field _ => ?_
    show (field.1, if field.1 = "peer" then f (if _ then _ else _) else if _ then _ else _) = _
    by_cases hmem : field.1 ∈ subscriptionKeys
    · rw [if_pos hmem, if_pos hmem, if_neg]
      rintro heq
      rw [heq] at hmem
      exact absurd hmem (by decide)
    · rw [if_neg hmem, if_neg hmem]
  show (match Json.field value "peer" with
    | some peer => Json.object (Json.assign value "peer" (redactPeer peer))
    | none => Json.object value) = _
  cases hfield : Json.field value "peer" with
  | none =>
    have hself := Json.map_eq_self_of_notMem redactPeer (Json.field_eq_none hfield)
    rw [hpeer] at hself
    exact congrArg Json.object hself.symm
  | some peer =>
    have hmem : ("peer", peer) ∈ value := Json.field_eq_some hfield
    have hnodup : (Json.keys value).Nodup := hkeys ▸ outbound.nodup
    show Json.object (Json.assign value "peer" (redactPeer peer)) = _
    unfold Json.assign
    rw [if_pos (Json.mem_keys hmem)]
    refine congrArg Json.object ((List.map_congr_left fun field hin => ?_).trans (hpeer redactPeer))
    by_cases hkey : field.1 = "peer"
    · have hpair : ("peer", field.2) ∈ value := by
        rw [← hkey]
        exact hin
      rw [if_pos hkey, if_pos hkey, Json.value_unique hnodup hmem hpair]
    · rw [if_neg hkey, if_neg hkey]

theorem key_of_indexed (start : Nat) (items : List Json) : ∀ field ∈ indexed start items,
    ∃ i : Nat, field.1 = toString i := by
  induction items generalizing start with
  | nil => rintro field ⟨⟩
  | cons item items ih =>
    intro field hmem
    rcases List.mem_cons.mp hmem with rfl | hmem
    · exact ⟨start, rfl⟩
    · exact ih (start + 1) field hmem

theorem indexed_injective {start : Nat} {xs ys : List Json}
    (h : indexed start xs = indexed start ys) : xs = ys := by
  induction xs generalizing start ys with
  | nil =>
    cases ys with
    | nil => rfl
    | cons y ys => cases h
  | cons x xs ih =>
    cases ys with
    | nil => cases h
    | cons y ys =>
      obtain ⟨hhead, htail⟩ := List.cons.inj h
      rw [(Prod.mk.inj hhead).2, ih htail]

theorem publicKey_notMem_indexed (items : List Json) :
    "publicKey" ∉ Json.keys (indexed 0 items) := by
  intro hmem
  obtain ⟨field, hfield, hkey⟩ := List.mem_map.mp hmem
  obtain ⟨i, hi⟩ := key_of_indexed 0 items field hfield
  refine JsString.notMem_toString_of_not_isDigit (c := 'p') (by decide) i ?_
  rw [← hi, hkey]
  decide

/-- Two values of one key differ below a field of another key only if they are equal. -/
theorem forall_differ_below {key name : String} (x y : Json) :
    (∀ path u v, Differ x y path u v →
      ∃ below, Step.field key :: path = .field name :: below) ↔ (key ≠ name → x = y) := by
  by_cases hkey : key = name
  · subst hkey
    exact iff_of_true (fun path _ _ _ => ⟨path, rfl⟩) fun h => absurd rfl h
  · rw [Json.eq_iff_not_differ]
    constructor
    · intro h _ path u v hdiffer
      obtain ⟨below, hpath⟩ := h path u v hdiffer
      exact hkey (Step.field.inj (List.cons.inj hpath).1)
    · intro h path u v hdiffer
      exact (h hkey path u v hdiffer).elim

/-- Of a peer, only what stands below its `publicKey` is hidden. -/
theorem redactPeer_eq_iff {x y : Json} (hhead : SameHead x y) : redactPeer x = redactPeer y ↔
    ∀ path u v, Differ x y path u v → ∃ below, path = .field "publicKey" :: below := by
  cases hx : x.isScalar with
  | true =>
    have hy : y = x := by
      cases x <;> first | exact hhead.symm | cases hx
    subst hy
    exact iff_of_true rfl fun path u v hdiffer => absurd hdiffer (Json.not_differ_scalar hx)
  | false =>
  cases x with
  | array xs =>
    cases y with
    | array ys =>
      have hassign : ∀ items, redactPeer (.array items) =
          .object (indexed 0 items ++ [("publicKey", REDACTED)]) := by
        intro items
        show Json.object (Json.assign _ _ _) = _
        unfold Json.assign
        rw [if_neg (publicKey_notMem_indexed items)]
      rw [hassign, hassign, Json.object.injEq, List.append_left_inj]
      constructor
      · intro heq path u v hdiffer
        have hself : Json.array xs = .array ys := congrArg Json.array (indexed_injective heq)
        exact ((Json.eq_iff_not_differ _ _).mp hself path u v hdiffer).elim
      · intro h
        refine congrArg (indexed 0) (Json.array.inj ((Json.eq_iff_not_differ _ _).mpr ?_))
        rw [Json.forall_differ_array hhead] at h ⊢
        intro i x y hx hy path u v hdiffer
        obtain ⟨below, ⟨⟩⟩ := h i x y hx hy path u v hdiffer
    | _ => cases hhead
  | object fs =>
    cases y with
    | object gs =>
      replace hhead : Json.keys fs = Json.keys gs := hhead
      show Json.object (Json.assign _ _ _) = Json.object (Json.assign _ _ _) ↔ _
      rw [Json.object.injEq, Json.assign_eq_iff hhead, Json.forall_differ_object hhead]
      exact forall_congr' fun i => forall_congr' fun key => forall_congr' fun x =>
        forall_congr' fun y => forall_congr' fun _ => forall_congr' fun _ =>
          (forall_differ_below x y).symm
    | _ => cases hhead
  | _ => cases hx

/-- Where the subscription redactor hides what it finds. -/
def InRedactedField (path : List Step) : Prop :=
  (∃ key ∈ subscriptionKeys, ∃ below, path = .field key :: below) ∨
    ∃ below, path = .field "peer" :: .field "publicKey" :: below

theorem subscriptionValue_eq_iff {key : String} {x y : Json}
    (hpeer : key = "peer" → SameHead x y) :
    subscriptionValue key x = subscriptionValue key y ↔
      ∀ path u v, Differ x y path u v → InRedactedField (.field key :: path) := by
  unfold subscriptionValue
  by_cases hmem : key ∈ subscriptionKeys
  · rw [if_pos hmem, if_pos hmem]
    exact iff_of_true rfl fun path _ _ _ => Or.inl ⟨key, hmem, path, rfl⟩
  rw [if_neg hmem, if_neg hmem]
  have houtside : ∀ {path}, InRedactedField (.field key :: path) →
      key = "peer" ∧ ∃ below, path = .field "publicKey" :: below := by
    rintro path (⟨name, hname, below, hpath⟩ | ⟨below, hpath⟩)
    · exact absurd ((Step.field.inj (List.cons.inj hpath).1) ▸ hname) hmem
    · exact ⟨Step.field.inj (List.cons.inj hpath).1, below, (List.cons.inj hpath).2⟩
  by_cases hkey : key = "peer"
  · rw [if_pos hkey, if_pos hkey, redactPeer_eq_iff (hpeer hkey)]
    constructor
    · intro h path u v hdiffer
      obtain ⟨below, rfl⟩ := h path u v hdiffer
      exact Or.inr ⟨below, hkey ▸ rfl⟩
    · intro h path u v hdiffer
      exact (houtside (h path u v hdiffer)).2
  · rw [if_neg hkey, if_neg hkey, Json.eq_iff_not_differ]
    constructor
    · intro h path u v hdiffer
      exact (h path u v hdiffer).elim
    · intro h path u v hdiffer
      exact hkey (houtside (h path u v hdiffer)).1

theorem redactSubscriptionOutbounds_eq_iff {a b : OutboundRecord}
    (hkeys : Json.keys a.entries = Json.keys b.entries)
    (hpeer : ∀ (i : Nat) (x y : Json), a.entries[i]? = some ("peer", x) →
      b.entries[i]? = some ("peer", y) → SameHead x y) :
    redactSubscriptionOutbounds [a] = redactSubscriptionOutbounds [b] ↔
      ∀ path u v, Differ (.object a.entries) (.object b.entries) path u v →
        InRedactedField path := by
  show [redactSubscriptionOutbound a] = [redactSubscriptionOutbound b] ↔ _
  rw [List.singleton_inj, redactSubscriptionOutbound_eq_map, redactSubscriptionOutbound_eq_map,
    Json.object.injEq, Json.map_eq_map_iff_fields hkeys, Json.forall_differ_object hkeys]
  refine forall_congr' fun i => forall_congr' fun key => forall_congr' fun x =>
    forall_congr' fun y => forall_congr' fun hx => forall_congr' fun hy => ?_
  refine subscriptionValue_eq_iff ?_
  rintro rfl
  exact hpeer i x y hx hy

/-! ## Secrets and outputs -/

/-- The configurations differ only in what is stored under secret keys, at any depth. -/
def DifferUnderSecretKeys (a b : OutboundRecord) : Prop :=
  ∀ path u v, Differ (.object a.entries) (.object b.entries) path u v →
    ∃ step ∈ path, isSecretKey step.key = true

/-- None of the redactors tells the configurations apart. -/
structure Indistinguishable (a b : OutboundRecord) : Prop where
  report : redactOutboundConfig a = redactOutboundConfig b
  dashboard : redact (.object a.entries) = redact (.object b.entries)
  subscription : redactSubscriptionOutbounds [a] = redactSubscriptionOutbounds [b]

/-- What the three redactors hide: scalars directly under a secret key, in one of the
fields that the subscription redactor knows by name. -/
structure Hidden (path : List Step) (u v : Json) : Prop where
  scalar : u.isScalar = true ∧ v.isScalar = true
  secret : isSecretKey (storedUnder "" path) = true
  named : InRedactedField path

theorem DifferUnderSecretKeys.keys_eq {a b : OutboundRecord} (h : DifferUnderSecretKeys a b) :
    Json.keys a.entries = Json.keys b.entries := by
  by_contra hkeys
  obtain ⟨step, ⟨⟩, -⟩ := h [] _ _ (.here hkeys)

theorem DifferUnderSecretKeys.sameHead_peer {a b : OutboundRecord} (h : DifferUnderSecretKeys a b)
    (i : Nat) (x y : Json) (hx : a.entries[i]? = some ("peer", x))
    (hy : b.entries[i]? = some ("peer", y)) : SameHead x y := by
  by_contra hhead
  obtain ⟨step, hmem, hsecret⟩ := h _ _ _ (.field h.keys_eq hx hy (.here hhead))
  rw [List.mem_singleton.mp hmem] at hsecret
  exact absurd hsecret (by decide +kernel)

theorem exists_dashboardKey {path : List Step} (h : InRedactedField path) :
    ∃ step ∈ path, isDashboardKey step.key = true := by
  rcases h with ⟨key, hkey, below, rfl⟩ | ⟨below, rfl⟩
  · refine ⟨_, List.mem_cons_self, ?_⟩
    have hall : ∀ key ∈ subscriptionKeys, isDashboardKey key = true := by decide +kernel
    exact hall key hkey
  · exact ⟨_, List.mem_cons_of_mem _ List.mem_cons_self, by decide +kernel⟩

/-- Configurations that differ under secret keys only give equal outputs exactly when all
that differs is hidden. -/
theorem redaction_noninterfering_iff (a b : OutboundRecord) (h : DifferUnderSecretKeys a b) :
    Indistinguishable a b ↔
      ∀ path u v, Differ (.object a.entries) (.object b.entries) path u v → Hidden path u v := by
  have hreport := redactValue_eq_iff (.object a.entries) (.object b.entries) ""
  have hsubscription := redactSubscriptionOutbounds_eq_iff h.keys_eq h.sameHead_peer
  constructor
  · intro heq path u v hdiffer
    obtain ⟨hu, hv, hsecret⟩ := hreport.mp heq.report path u v hdiffer
    exact ⟨⟨hu, hv⟩, hsecret, hsubscription.mp heq.subscription path u v hdiffer⟩
  · intro hhidden
    refine ⟨hreport.mpr ?_, redact_eq _ _ ?_, hsubscription.mpr ?_⟩
    · intro path u v hdiffer
      have hplace := hhidden path u v hdiffer
      exact ⟨hplace.scalar.1, hplace.scalar.2, hplace.secret⟩
    · intro path u v hdiffer
      exact exists_dashboardKey (hhidden path u v hdiffer).named
    · intro path u v hdiffer
      exact (hhidden path u v hdiffer).named

/-- A shadowsocks outbound with a password. -/
def shadowsocksRecord (password : String) : OutboundRecord where
  entries := [("type", .string "shadowsocks"), ("tag", .string "proxy"),
    ("serverHost", .string "192.0.2.1"), ("serverPort", .number 8388),
    ("method", .string "aes-256-gcm")] ++ [("password", .string password)]
  nodup := by
    show ["type", "tag", "serverHost", "serverPort", "method", "password"].Nodup
    decide

/-- A plugin outbound with a list of secrets among its options. -/
def pluginRecord (secret : String) : OutboundRecord where
  entries := [("type", .string "plugin.relay"), ("tag", .string "relay")] ++
    [("options", .object [("secret", .array [.string secret])])]
  nodup := by
    show ["type", "tag", "options"].Nodup
    decide

theorem redaction_noninterfering_password :
    Indistinguishable (shadowsocksRecord "first") (shadowsocksRecord "second") := by
  have hplace : ∀ path u v, Differ (.object (shadowsocksRecord "first").entries)
      (.object (shadowsocksRecord "second").entries) path u v →
        path = [.field "password"] ∧ u = .string "first" ∧ v = .string "second" := by
    intro path u v hdiffer
    obtain ⟨below, rfl, hbelow⟩ := Json.differ_one_field hdiffer
    cases hbelow
    exact ⟨rfl, rfl, rfl⟩
  refine (redaction_noninterfering_iff _ _ ?_).mpr ?_
  · intro path u v hdiffer
    obtain ⟨rfl, -, -⟩ := hplace path u v hdiffer
    exact ⟨_, List.mem_singleton_self _, by decide +kernel⟩
  · intro path u v hdiffer
    obtain ⟨rfl, rfl, rfl⟩ := hplace path u v hdiffer
    exact ⟨⟨rfl, rfl⟩, by decide +kernel, Or.inl ⟨"password", by decide, [], rfl⟩⟩

/-- A secret in a list among the options of a plugin shows in all three outputs. -/
theorem listed_secret_shows :
    DifferUnderSecretKeys (pluginRecord "first") (pluginRecord "second") ∧
      redactOutboundConfig (pluginRecord "first") ≠ redactOutboundConfig (pluginRecord "second") ∧
      redact (.object (pluginRecord "first").entries) ≠
        redact (.object (pluginRecord "second").entries) ∧
      redactSubscriptionOutbounds [pluginRecord "first"] ≠
        redactSubscriptionOutbounds [pluginRecord "second"] := by
  have hunder : DifferUnderSecretKeys (pluginRecord "first") (pluginRecord "second") := by
    intro path u v hdiffer
    obtain ⟨below, rfl, hbelow⟩ := Json.differ_one_field hdiffer
    obtain ⟨rest, rfl, -⟩ := @Json.differ_one_field [] [] _ _ _ _ _ _ hbelow
    exact ⟨_, List.mem_cons_of_mem _ List.mem_cons_self, by decide +kernel⟩
  have hplace : Differ (.object (pluginRecord "first").entries)
      (.object (pluginRecord "second").entries)
      [.field "options", .field "secret", .item 0] (.string "first") (.string "second") :=
    @Differ.field _ _ 2 _ _ _ _ _ _ rfl rfl rfl <|
      @Differ.field _ _ 0 _ _ _ _ _ _ rfl rfl rfl <|
        @Differ.item _ _ 0 _ _ _ _ _ rfl rfl rfl <| .here fun hhead =>
          absurd (Json.string.inj hhead) (by decide)
  refine ⟨hunder, ?_, ?_, ?_⟩
  · intro heq
    obtain ⟨-, -, hsecret⟩ := (redactValue_eq_iff _ _ "").mp heq _ _ _ hplace
    exact absurd hsecret (by decide +kernel)
  · have hkeys : isDashboardKey "options" = false ∧ isDashboardKey "secret" = false := by
      decide +kernel
    intro heq
    simp [pluginRecord, redact, redactEntries, redactAll, hkeys] at heq
  · intro heq
    rcases (redactSubscriptionOutbounds_eq_iff hunder.keys_eq hunder.sameHead_peer).mp heq
      _ _ _ hplace with ⟨key, hkey, below, hpath⟩ | ⟨below, hpath⟩
    · rw [← Step.field.inj (List.cons.inj hpath).1] at hkey
      exact absurd hkey (by decide)
    · exact absurd (Step.field.inj (List.cons.inj hpath).1) (by decide)

end Sepigs
