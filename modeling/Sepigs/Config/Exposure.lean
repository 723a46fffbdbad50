import Sepigs.Config.Accepted
import Sepigs.Lib.IpText

/-!
# Listening on every interface (`checkPublicExposure` in `config/schema.ts`)

The guard compares the host with three texts.  An all-zero IPv6 address has many more, and
the guard is complete for a config exactly when it uses none of those.
-/

namespace Sepigs

open Checked (push collect)

/-- The text of an all-zero IPv4 or IPv6 address. -/
def DenotesZero (host : String) : Prop :=
  (∃ quad : IpText.Quad, quad.text = host ∧ ∀ byte ∈ quad.bytes, byte.toNat = 0) ∨
    ∃ (address : IpText.Ipv6) (zone : List Char), IpText.ZoneEnd zone ∧
      host.toList = address.chars ++ zone ∧ ∀ word ∈ address.words, word = 0

namespace ParsedConfig

/-- The hosts that anyone may connect to: inbounds without authentication, and the enabled
servers of the control plane. -/
def openListeners (config : ParsedConfig) : List String :=
  ((config.inbounds.filter fun inbound => !inbound.authenticates).map InboundConfig.listen) ++
    ((if config.metrics.enabled then [config.metrics.listen] else []) ++
      if config.dashboard.enabled then [config.dashboard.listen] else [])

end ParsedConfig

/-- An IPv6 text with no digit but zeros, other than `::`. -/
def OtherZeroSpelling (node : Node) (host : String) : Prop :=
  node.isIP host = 6 ∧ host ≠ "::" ∧
    ∀ c ∈ host.toList.takeWhile (· ≠ '%'), IpText.isZeroChar c

/-- What the guard lets through is none of the three texts. -/
theorem exposure_clean {config : ParsedConfig} (h : (checkPublicExposure config).Clean) :
    ∀ host ∈ config.openListeners, host ∉ PUBLIC_LISTEN_ADDRESSES := by
  simp only [checkPublicExposure, Checked.clean_bind, Checked.clean_pushIf] at h
  obtain ⟨hinbounds, hmetrics, hdashboard, -⟩ := h
  intro host hmem hpublic
  rcases List.mem_append.mp hmem with hmem | hmem
  · obtain ⟨inbound, hinbound, rfl⟩ := List.mem_map.mp hmem
    obtain ⟨hinbound, hopen⟩ := List.mem_filter.mp hinbound
    obtain ⟨index, hclean⟩ := forEach_clean hinbounds inbound hinbound
    have hnot : ¬ (!PUBLIC_LISTEN_ADDRESSES.contains inbound.listen) = true := by
      rw [List.contains_iff_mem.mpr hpublic]
      decide
    have hauth : ¬ inbound.authenticates = true := by
      rw [Bool.not_eq_true, ← Bool.not_eq_true']
      exact hopen
    rw [if_neg hnot, if_neg hauth] at hclean
    exact Checked.not_clean_push _ hclean
  · rcases List.mem_append.mp hmem with hmem | hmem
    · split at hmem
      · next henabled =>
        obtain rfl := List.mem_singleton.mp hmem
        rw [henabled, List.contains_iff_mem.mpr hpublic] at hmetrics
        cases hmetrics
      · cases hmem
    · split at hmem
      · next henabled =>
        obtain rfl := List.mem_singleton.mp hmem
        rw [henabled, List.contains_iff_mem.mpr hpublic] at hdashboard
        cases hdashboard
      · cases hmem

/-- The address part of a text is what stands before the percent sign. -/
theorem takeWhile_address (address : IpText.Ipv6) {zone : List Char} (h : IpText.ZoneEnd zone) :
    (address.chars ++ zone).takeWhile (· ≠ '%') = address.chars := by
  have hall : ∀ c ∈ address.chars, decide (c ≠ '%') = true := by
    intro c hc
    refine decide_eq_true ?_
    rintro rfl
    rcases address.mem_chars hc with hhex | hcolon | hdot
    · exact absurd hhex (by decide)
    · exact absurd hcolon (by decide)
    · exact absurd hdot (by decide)
  rw [List.takeWhile_append_of_pos hall]
  rcases h with rfl | ⟨zone, -, -, rfl⟩
  · rw [List.takeWhile_nil, List.append_nil]
  · rw [List.takeWhile_cons_of_neg (by decide), List.append_nil]

/-- An all-zero quad has one text. -/
theorem quad_text_of_zero {quad : IpText.Quad} (h : ∀ byte ∈ quad.bytes, byte.toNat = 0) :
    quad.text = "0.0.0.0" := by
  have htexts : (quad.bytes.map fun byte => toString byte.toNat) = ["0", "0", "0", "0"] := by
    unfold IpText.Quad.bytes at h ⊢
    simp only [List.forall_mem_cons, List.not_mem_nil, false_imp_iff, implies_true, and_true] at h
    obtain ⟨ha, hb, hc, hd⟩ := h
    simp only [List.map_cons, List.map_nil, ha, hb, hc, hd]
    rfl
  unfold IpText.Quad.text
  rw [htexts]
  decide +kernel

/-- Beyond the three texts, the all-zero addresses are the other spellings in IPv6. -/
theorem denotesZero_iff {node : Node} (hversions : IpText.Versions node.isIP) {host : String}
    (h : host ∉ PUBLIC_LISTEN_ADDRESSES) : DenotesZero host ↔ OtherZeroSpelling node host := by
  have hne : host ≠ "::" := by
    rintro rfl
    exact h (by decide)
  constructor
  · rintro (⟨quad, rfl, hzero⟩ | ⟨address, zone, hzone, hchars, hzero⟩)
    · rw [quad_text_of_zero hzero] at h
      exact absurd (by decide) h
    · refine ⟨(hversions.v6 host).mpr ⟨address, zone, hzone, hchars⟩, hne, ?_⟩
      rw [hchars, takeWhile_address address hzone]
      exact address.words_zero_iff.mp hzero
  · rintro ⟨hsix, -, hall⟩
    obtain ⟨address, zone, hzone, hchars⟩ := (hversions.v6 host).mp hsix
    rw [hchars, takeWhile_address address hzone] at hall
    exact Or.inr ⟨address, zone, hzone, hchars, address.words_zero_iff.mpr hall⟩

/-- No open listener of an accepted config stands on an all-zero address, exactly when none
is spelled as an all-zero IPv6 address other than `::`. -/
theorem exposure_guarded_iff (node : Node) (hversions : IpText.Versions node.isIP)
    (others : Json → OtherSections) (input : Json) (config : ParsedConfig)
    (h : parseConfig node others input = .ok config) :
    (∀ host ∈ config.openListeners, ¬ DenotesZero host) ↔
      ∀ host ∈ config.openListeners, ¬ OtherZeroSpelling node host := by
  obtain ⟨fields, -, haccepted⟩ := parseConfig_ok node h
  refine forall₂_congr fun host hmem => not_congr ?_
  exact denotesZero_iff hversions (exposure_clean haccepted.exposure host hmem)

/-! ## An open proxy -/

/-- An HTTP inbound without authentication on a host. -/
def listenFields (listen : String) : Record :=
  [("inbounds", .array [.object [("type", .string "http"), ("tag", .string "http-in"),
      ("listen", .string listen), ("port", .number 8080)]]),
    ("outbounds", .array [.object [("type", .string "direct"), ("tag", .string "direct")]]),
    ("route", .object [("defaultOutbound", .string "direct"), ("rules", .array [])])]

def quietOthers (_ : Json) : OtherSections := ⟨[], [], [], [], []⟩

/-- The built-ins on ASCII text, with the versions of addresses. -/
noncomputable def ipNode : Node := { asciiNode with isIP := IpText.version }

/-- What is parsed of the config that listens on a host. -/
noncomputable def listenParsed (listen : String) : ParsedConfig :=
  (readConfig ipNode ⟨[], [], [], [], []⟩ (listenFields listen)).value

theorem exposure_guarded_loopback :
    (∀ host ∈ (listenParsed "127.0.0.1").openListeners, ¬ DenotesZero host) ↔
      ∀ host ∈ (listenParsed "127.0.0.1").openListeners, ¬ OtherZeroSpelling ipNode host :=
  exposure_guarded_iff ipNode IpText.versions quietOthers (.object (listenFields "127.0.0.1"))
    (listenParsed "127.0.0.1") (parseConfig_of_clean ipNode rfl)

/-- An accepted config listens on every interface, for anyone. -/
theorem open_proxy_accepted :
    parseConfig ipNode quietOthers (.object (listenFields "0:0:0:0:0:0:0:0")) =
      .ok (listenParsed "0:0:0:0:0:0:0:0") ∧
    ∃ host ∈ (listenParsed "0:0:0:0:0:0:0:0").openListeners, DenotesZero host := by
  refine ⟨parseConfig_of_clean ipNode rfl, "0:0:0:0:0:0:0:0", List.mem_singleton.mpr rfl,
    Or.inr ⟨.full (List.replicate 8 IpText.zeroGroup) none rfl, [], Or.inl rfl, ?_, ?_⟩⟩
  · decide +kernel
  · decide

end Sepigs
