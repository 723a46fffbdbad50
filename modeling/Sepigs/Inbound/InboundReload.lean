import Sepigs.Lib.JsMap
import Sepigs.Lib.JsonOrder

/-!
# Reloading the inbounds (`inbound/reload.ts`)

What is new is made and started first, in the order of the configs.  If one of them fails all
of them are stopped, and what was there stays as it is; otherwise what is not used again is
drained, or stopped where it cannot be drained.

`Event` has what is done to the inbounds, and in which order.  `stop` and `drain` do not reject.
-/

namespace Sepigs

namespace InboundReload

open Json (NumberText)

/-- A config: its tag, and the value that `JSON.stringify` writes. -/
structure ParsedInbound where
  tag : String
  content : Json

/-- An inbound was there before, or was made for the config at an index. -/
inductive Origin where
  | current
  | created (index : Nat)
deriving DecidableEq, Repr

/-- `drains` if there is a method `drain`. -/
structure Inbound where
  origin : Origin
  tag : String
  drains : Bool
deriving DecidableEq, Repr

/-- The engine files every inbound under its own tag. -/
structure CurrentInbounds where
  map : JsMap String Inbound
  keyed : ∀ tag inbound, (tag, inbound) ∈ map.entries → inbound.tag = tag ∧ inbound.origin = .current

/-- `createInbound` and the `start` of what it made.  The constructors set `this.tag = config.tag`. -/
structure InboundFactory where
  createInbound : Nat → ParsedInbound → Except String Inbound
  start : Nat → Except String Unit
  created : ∀ index config inbound, createInbound index config = .ok inbound →
    inbound.tag = config.tag ∧ inbound.origin = .created index

inductive Event where
  | created (inbound : Inbound)
  | started (inbound : Inbound)
  | rejected (inbound : Inbound) (error : String)
  | drained (inbound : Inbound)
  | stopped (inbound : Inbound)
  | failed (error : String)
  | applied (oldInbounds newInbounds : Nat)
deriving DecidableEq, Repr

/-- It ends the inbound. -/
def Event.ends (inbound : Inbound) : Event → Bool
  | .drained other => other = inbound
  | .stopped other => other = inbound
  | _ => false

/-- What ended an inbound. -/
def endings (inbound : Inbound) (events : List Event) : List Event := events.filter (Event.ends inbound)

structure InboundReloadOptions where
  current : CurrentInbounds
  previousConfigs : List ParsedInbound
  nextConfigs : List ParsedInbound
  factory : InboundFactory

structure InboundReloadResult where
  inbounds : JsMap String Inbound
  reloaded : Bool

/-- The maps of the call, and what has been done. -/
structure Staging where
  nextInbounds : JsMap String Inbound
  stagedInbounds : JsMap String Inbound
  reusedTags : List String
  events : List Event

/-- An inbound was made. -/
def Staging.add (staging : Staging) (inbound : Inbound) : Staging where
  nextInbounds := staging.nextInbounds.set inbound.tag inbound
  stagedInbounds := staging.stagedInbounds.set inbound.tag inbound
  reusedTags := staging.reusedTags
  events := staging.events ++ [.created inbound]

/-- An inbound is used again. -/
def Staging.reuse (staging : Staging) (inbound : Inbound) : Staging where
  nextInbounds := staging.nextInbounds.set inbound.tag inbound
  stagedInbounds := staging.stagedInbounds
  reusedTags := inbound.tag :: staging.reusedTags
  events := staging.events

def Staging.record (staging : Staging) (event : Event) : Staging :=
  { staging with events := staging.events ++ [event] }

section Reload

variable (number : Rat → List Char) (localeCompare : String → String → Int)

def inboundConfigKey (configs : List ParsedInbound) : String :=
  Json.stringify number
    (.array ((configs.mergeSort fun left right => localeCompare left.tag right.tag ≤ 0).map ParsedInbound.content))

/-- The last config of a tag counts. -/
def previousByTag (configs : List ParsedInbound) : JsMap String ParsedInbound :=
  configs.foldl (fun map config => map.set config.tag config) ∅

variable (options : InboundReloadOptions)

/-- The inbound that is used again for a config. -/
def reusable (config : ParsedInbound) : Option Inbound :=
  match (previousByTag options.previousConfigs).get config.tag, options.current.map.get config.tag with
  | some previousConfig, some currentInbound =>
    if inboundConfigKey number localeCompare [previousConfig] = inboundConfigKey number localeCompare [config] then
      some currentInbound
    else none
  | _, _ => none

/-- The loop over the configs, from an index on, with the error that ends it. -/
def stage : Nat → List ParsedInbound → Staging → Staging × Option String
  | _, [], staging => (staging, none)
  | index, config :: configs, staging =>
    match reusable number localeCompare options config with
    | some currentInbound => stage (index + 1) configs (staging.reuse currentInbound)
    | none =>
      match options.factory.createInbound index config with
      | .error error => (staging, some error)
      | .ok inbound =>
        match options.factory.start index with
        | .error error => ((staging.add inbound).record (.rejected inbound error), some error)
        | .ok () => stage (index + 1) configs ((staging.add inbound).record (.started inbound))

def release (inbound : Inbound) : Event := if inbound.drains then .drained inbound else .stopped inbound

def releaseCurrent (reusedTags : List String) : List Event :=
  options.current.map.values.flatMap fun inbound =>
    if inbound.tag ∈ reusedTags then [] else [release inbound]

def stopAll (inbounds : JsMap String Inbound) : List Event := inbounds.values.map .stopped

/-- The result, and what was done to the inbounds. -/
def reloadInbounds : InboundReloadResult × List Event :=
  match stage number localeCompare options 0 options.nextConfigs ⟨∅, ∅, [], []⟩ with
  | (staging, some error) =>
    (⟨options.current.map, false⟩, staging.events ++ [.failed error] ++ stopAll staging.stagedInbounds)
  | (staging, none) =>
    (⟨staging.nextInbounds, true⟩,
      staging.events ++ releaseCurrent options staging.reusedTags ++
        [.applied options.current.map.size staging.nextInbounds.size])

end Reload

/-! ## Maps and lists of events -/

theorem mem_values {m : JsMap String Inbound} {inbound : Inbound} :
    inbound ∈ m.values ↔ ∃ tag, (tag, inbound) ∈ m.entries := by
  unfold JsMap.values
  simp

/-- Each inbound stands under one tag, its own. -/
theorem nodup_values {m : JsMap String Inbound}
    (h : ∀ tag inbound, (tag, inbound) ∈ m.entries → inbound.tag = tag) : m.values.Nodup := by
  have htags : m.values.map Inbound.tag = m.keys := by
    unfold JsMap.values JsMap.keys
    rw [List.map_map]
    apply List.map_congr_left
    intro entry hentry
    exact h entry.1 entry.2 hentry
  have hnodup : (m.values.map Inbound.tag).Nodup := by
    rw [htags]
    exact m.nodup
  exact hnodup.of_map Inbound.tag

@[simp] theorem endings_append (inbound : Inbound) (first more : List Event) :
    endings inbound (first ++ more) = endings inbound first ++ endings inbound more :=
  List.filter_append first more

@[simp] theorem endings_nil (inbound : Inbound) : endings inbound [] = [] := rfl

theorem endings_singleton {inbound : Inbound} {event : Event} (h : event.ends inbound = false) :
    endings inbound [event] = [] := by
  unfold endings
  rw [List.filter_cons_of_neg (by simp [h]), List.filter_nil]

theorem release_ends (inbound other : Inbound) : (release other).ends inbound = decide (other = inbound) := by
  unfold release
  split <;> rfl

/-- Of a list of inbounds with their endings, an inbound has those of its own. -/
theorem endings_flatMap {inbounds : List Inbound} (hnodup : inbounds.Nodup) {inbound : Inbound}
    (hmem : inbound ∈ inbounds) {f : Inbound → List Event}
    (hf : ∀ other, other ≠ inbound → endings inbound (f other) = []) :
    endings inbound (inbounds.flatMap f) = endings inbound (f inbound) := by
  have hnone : ∀ others : List Inbound, inbound ∉ others → endings inbound (others.flatMap f) = [] := by
    intro others hnot
    induction others with
    | nil => rfl
    | cons other others ih =>
      rw [List.mem_cons, not_or] at hnot
      rw [List.flatMap_cons, endings_append, hf other (Ne.symm hnot.1), ih hnot.2, List.nil_append]
  obtain ⟨before, after, rfl⟩ := List.append_of_mem hmem
  have hbefore : inbound ∉ before := by
    intro hin
    exact (List.nodup_append.mp hnodup).2.2 inbound hin inbound List.mem_cons_self rfl
  have hafter : inbound ∉ after := (List.nodup_cons.mp (List.nodup_append.mp hnodup).2.1).1
  rw [List.flatMap_append, List.flatMap_cons, endings_append, endings_append, hnone before hbefore,
    hnone after hafter, List.nil_append, List.append_nil]

theorem endings_stopAll {m : JsMap String Inbound}
    (h : ∀ tag inbound, (tag, inbound) ∈ m.entries → inbound.tag = tag) {inbound : Inbound}
    (hmem : inbound ∈ m.values) : endings inbound (stopAll m) = [.stopped inbound] := by
  unfold stopAll
  rw [List.map_eq_flatMap, endings_flatMap (nodup_values h) hmem]
  · unfold endings
    rw [List.filter_cons_of_pos (by simp [Event.ends]), List.filter_nil]
  · intro other hne
    exact endings_singleton (decide_eq_false hne)

theorem endings_stopAll_of_notMem {m : JsMap String Inbound} {inbound : Inbound} (h : inbound ∉ m.values) :
    endings inbound (stopAll m) = [] := by
  unfold endings stopAll
  rw [List.filter_eq_nil_iff]
  intro event hevent
  obtain ⟨other, hother, rfl⟩ := List.mem_map.mp hevent
  simp only [Event.ends, decide_eq_true_eq]
  rintro rfl
  exact h hother

/-! ## Staging -/

section Staging

variable {number : Rat → List Char} (hnumber : NumberText number) {localeCompare : String → String → Int}

include hnumber

/-- The text tells the configs apart. -/
theorem inboundConfigKey_singleton_iff {left right : ParsedInbound} :
    inboundConfigKey number localeCompare [left] = inboundConfigKey number localeCompare [right] ↔
      left.content = right.content := by
  unfold inboundConfigKey
  rw [(Json.stringify_injective hnumber).eq_iff]
  simp

/-- The same config was there before. -/
def Unchanged (options : InboundReloadOptions) (config : ParsedInbound) : Prop :=
  ∃ previous, (previousByTag options.previousConfigs).get config.tag = some previous ∧
    previous.content = config.content

theorem reusable_eq_some_iff {options : InboundReloadOptions} {config : ParsedInbound} {inbound : Inbound} :
    reusable number localeCompare options config = some inbound ↔
      Unchanged options config ∧ options.current.map.get config.tag = some inbound := by
  unfold reusable Unchanged
  cases hprevious : (previousByTag options.previousConfigs).get config.tag with
  | none => simp
  | some previous =>
    cases hcurrent : options.current.map.get config.tag with
    | none => simp
    | some current =>
      have hkeys := @inboundConfigKey_singleton_iff number hnumber localeCompare previous config
      by_cases hsame : previous.content = config.content
      · simp [hkeys.mpr hsame, hsame]
      · simp [mt hkeys.mp hsame, hsame]

end Staging

/-- The loop ends at the config. -/
def Fails (number : Rat → List Char) (localeCompare : String → String → Int) (options : InboundReloadOptions)
    (index : Nat) (config : ParsedInbound) : Prop :=
  reusable number localeCompare options config = none ∧
    ((∃ error, options.factory.createInbound index config = .error error) ∨
      ∃ inbound error, options.factory.createInbound index config = .ok inbound ∧
        options.factory.start index = .error error)

/-- What was made is staged, and nothing is ended. -/
structure Tracked (staging : Staging) : Prop where
  staged : ∀ inbound, inbound ∈ staging.stagedInbounds.values ↔ .created inbound ∈ staging.events
  keyed : ∀ tag inbound, (tag, inbound) ∈ staging.stagedInbounds.entries →
    inbound.tag = tag ∧ inbound.origin ≠ .current
  made : ∀ inbound, .started inbound ∈ staging.events → .created inbound ∈ staging.events
  quiet : ∀ inbound, endings inbound staging.events = []

theorem Tracked.add {staging : Staging} (h : Tracked staging) {inbound : Inbound}
    (hfresh : inbound.tag ∉ staging.stagedInbounds.keys) (horigin : inbound.origin ≠ .current) :
    Tracked (staging.add inbound) where
  staged other := by
    show other ∈ (staging.stagedInbounds.set inbound.tag inbound).values ↔
      .created other ∈ staging.events ++ [.created inbound]
    rw [List.mem_append, List.mem_singleton, ← h.staged, Event.created.injEq]
    unfold JsMap.values
    rw [JsMap.entries_set_of_notMem _ _ hfresh]
    simp
  keyed tag other hentry := by
    rcases (JsMap.mem_entries_set _ _ _ _ _).mp hentry with ⟨rfl, rfl⟩ | ⟨-, hold⟩
    · exact ⟨rfl, horigin⟩
    · exact h.keyed tag other hold
  made other hstarted := by
    have hold : .started other ∈ staging.events := by
      simpa [Staging.add] using hstarted
    exact List.mem_append_left _ (h.made other hold)
  quiet other := by
    show endings other (staging.events ++ [.created inbound]) = []
    rw [endings_append, h.quiet, endings_singleton rfl]
    rfl

theorem Tracked.record {staging : Staging} (h : Tracked staging) {event : Event}
    (hcreated : ∀ inbound, event ≠ .created inbound)
    (hstarted : ∀ inbound, event = .started inbound → .created inbound ∈ staging.events)
    (hends : ∀ inbound, event.ends inbound = false) : Tracked (staging.record event) where
  staged other := by
    show other ∈ staging.stagedInbounds.values ↔ .created other ∈ staging.events ++ [event]
    rw [h.staged, List.mem_append, List.mem_singleton]
    constructor
    · exact Or.inl
    · rintro (hold | heq)
      · exact hold
      · exact absurd heq.symm (hcreated other)
  keyed := h.keyed
  made other hmem := by
    rcases List.mem_append.mp hmem with hold | hlast
    · exact List.mem_append_left _ (h.made other hold)
    · exact List.mem_append_left _ (hstarted other (List.mem_singleton.mp hlast).symm)
  quiet other := by
    show endings other (staging.events ++ [event]) = []
    rw [endings_append, h.quiet, endings_singleton (hends other)]
    rfl

/-- All of these configs have an inbound, and what was made for them has started. -/
structure Staged (number : Rat → List Char) (localeCompare : String → String → Int)
    (options : InboundReloadOptions) (done : List ParsedInbound) (staging : Staging) : Prop extends
    Tracked staging where
  keys : staging.nextInbounds.keys = done.map ParsedInbound.tag
  stagedKeys : ∀ tag, tag ∈ staging.stagedInbounds.keys → tag ∈ staging.nextInbounds.keys
  started : ∀ inbound, .created inbound ∈ staging.events → .started inbound ∈ staging.events
  next : ∀ tag inbound, (tag, inbound) ∈ staging.nextInbounds.entries → inbound.tag = tag ∧
    (inbound ∈ options.current.map.values ∧ tag ∈ staging.reusedTags ∨ .started inbound ∈ staging.events)
  reusedTags : ∀ tag, tag ∈ staging.reusedTags ↔ ∃ config ∈ done, config.tag = tag ∧
    (reusable number localeCompare options config).isSome = true
  kept : ∀ config ∈ done, ∀ inbound, reusable number localeCompare options config = some inbound →
    (config.tag, inbound) ∈ staging.nextInbounds.entries

section Loop

variable {number : Rat → List Char} {localeCompare : String → String → Int} {options : InboundReloadOptions}
  {done : List ParsedInbound} {staging : Staging} {config : ParsedInbound} {inbound : Inbound}

theorem staged_nil : Staged number localeCompare options [] ⟨∅, ∅, [], []⟩ where
  staged _ := by simp [JsMap.values, EmptyCollection.emptyCollection, JsMap.empty]
  keyed _ _ h := absurd h List.not_mem_nil
  made _ h := absurd h List.not_mem_nil
  quiet _ := rfl
  keys := rfl
  stagedKeys _ h := absurd h List.not_mem_nil
  started _ h := absurd h List.not_mem_nil
  next _ _ h := absurd h List.not_mem_nil
  reusedTags _ := by simp
  kept _ h := absurd h List.not_mem_nil

theorem keys_set_of_notMem {m : JsMap String Inbound} {tag : String} (h : tag ∉ m.keys) (inbound : Inbound) :
    (m.set tag inbound).keys = m.keys ++ [tag] := by
  unfold JsMap.keys at h ⊢
  rw [JsMap.entries_set_of_notMem m inbound h, List.map_append]
  rfl

/-- What is used again has the tag it is filed under. -/
theorem reusable_tag (h : reusable number localeCompare options config = some inbound) :
    inbound.tag = config.tag ∧ inbound ∈ options.current.map.values := by
  have hget : options.current.map.get config.tag = some inbound := by
    unfold reusable at h
    split at h
    · next previous current hprevious hcurrent =>
      split at h
      · rw [hcurrent]
        exact h
      · cases h
    · cases h
  have hentry := (JsMap.get_eq_some_iff _ _ _).mp hget
  exact ⟨(options.current.keyed _ _ hentry).1, mem_values.mpr ⟨_, hentry⟩⟩

/-- The inbound of the next config goes to the end of the map. -/
theorem Staged.set_next (h : Staged number localeCompare options done staging)
    (hfresh : config.tag ∉ done.map ParsedInbound.tag) (htag : inbound.tag = config.tag) :
    inbound.tag ∉ staging.nextInbounds.keys ∧
      (staging.nextInbounds.set inbound.tag inbound).keys = (done ++ [config]).map ParsedInbound.tag ∧
      (staging.nextInbounds.set inbound.tag inbound).entries = staging.nextInbounds.entries ++ [(inbound.tag, inbound)] := by
  have hkeys : inbound.tag ∉ staging.nextInbounds.keys := by
    rw [h.keys, htag]
    exact hfresh
  refine ⟨hkeys, ?_, JsMap.entries_set_of_notMem staging.nextInbounds inbound hkeys⟩
  rw [keys_set_of_notMem hkeys, h.keys, htag, List.map_append]
  rfl

theorem Staged.reuse (h : Staged number localeCompare options done staging)
    (hfresh : config.tag ∉ done.map ParsedInbound.tag)
    (hreuse : reusable number localeCompare options config = some inbound) :
    Staged number localeCompare options (done ++ [config]) (staging.reuse inbound) := by
  obtain ⟨htag, hcurrent⟩ := reusable_tag hreuse
  obtain ⟨hkeys, hset, hentries⟩ := h.set_next hfresh htag
  refine ⟨⟨h.staged, h.keyed, h.made, h.quiet⟩, hset, ?_, h.started, ?_, ?_, ?_⟩
  · intro tag hstaged
    exact (JsMap.mem_keys_set _ _ _ _).mpr (Or.inr (h.stagedKeys tag hstaged))
  · intro tag other hentry
    rcases (JsMap.mem_entries_set _ _ _ _ _).mp hentry with ⟨rfl, rfl⟩ | ⟨-, hold⟩
    · exact ⟨rfl, Or.inl ⟨hcurrent, List.mem_cons_self⟩⟩
    · obtain ⟨hother, hfrom⟩ := h.next tag other hold
      refine ⟨hother, hfrom.imp_left fun hreused => ⟨hreused.1, List.mem_cons_of_mem _ hreused.2⟩⟩
  · intro tag
    show tag ∈ inbound.tag :: staging.reusedTags ↔ _
    rw [List.mem_cons, h.reusedTags, htag]
    constructor
    · rintro (rfl | ⟨earlier, hearlier, hsame⟩)
      · exact ⟨config, List.mem_append_right _ List.mem_cons_self, rfl, by rw [hreuse]; rfl⟩
      · exact ⟨earlier, List.mem_append_left _ hearlier, hsame⟩
    · rintro ⟨other, hother, hsame⟩
      rcases List.mem_append.mp hother with hearlier | hlast
      · exact Or.inr ⟨other, hearlier, hsame⟩
      · obtain rfl := List.mem_singleton.mp hlast
        exact Or.inl hsame.1.symm
  · intro other hother again hagain
    show (other.tag, again) ∈ (staging.nextInbounds.set inbound.tag inbound).entries
    rw [hentries]
    rcases List.mem_append.mp hother with hearlier | hlast
    · exact List.mem_append_left _ (h.kept other hearlier again hagain)
    · obtain rfl := List.mem_singleton.mp hlast
      rw [hreuse] at hagain
      cases hagain
      rw [htag]
      exact List.mem_append_right _ List.mem_cons_self

theorem Staged.add (h : Staged number localeCompare options done staging)
    (hfresh : config.tag ∉ done.map ParsedInbound.tag)
    (hnone : reusable number localeCompare options config = none) (htag : inbound.tag = config.tag)
    (horigin : inbound.origin ≠ .current) :
    Staged number localeCompare options (done ++ [config]) ((staging.add inbound).record (.started inbound)) := by
  obtain ⟨hkeys, hset, hentries⟩ := h.set_next hfresh htag
  have hadd := h.toTracked.add (fun hstaged => hkeys (h.stagedKeys _ hstaged)) horigin
  have htracked : Tracked ((staging.add inbound).record (.started inbound)) := by
    refine hadd.record (fun _ heq => Event.noConfusion heq) ?_ fun _ => rfl
    intro other heq
    cases heq
    exact List.mem_append_right _ List.mem_cons_self
  refine ⟨htracked, hset, ?_, ?_, ?_, ?_, ?_⟩
  · intro tag hstaged
    have hcases := (JsMap.mem_keys_set _ _ _ _).mp hstaged
    exact (JsMap.mem_keys_set _ _ _ _).mpr (hcases.imp_right (h.stagedKeys tag))
  · intro other hcreated
    show .started other ∈ staging.events ++ [.created inbound] ++ [.started inbound]
    have hcases : .created other ∈ staging.events ∨ other = inbound := by
      simpa [Staging.add, Staging.record] using hcreated
    rcases hcases with hold | rfl
    · simp [h.started other hold]
    · simp
  · intro tag other hentry
    rcases (JsMap.mem_entries_set _ _ _ _ _).mp hentry with ⟨rfl, rfl⟩ | ⟨-, hold⟩
    · exact ⟨rfl, Or.inr (List.mem_append_right _ List.mem_cons_self)⟩
    · obtain ⟨hother, hfrom⟩ := h.next tag other hold
      refine ⟨hother, hfrom.imp_right fun hstarted => ?_⟩
      exact List.mem_append_left _ (List.mem_append_left _ hstarted)
  · intro tag
    show tag ∈ staging.reusedTags ↔ _
    rw [h.reusedTags]
    constructor
    · rintro ⟨earlier, hearlier, hsame⟩
      exact ⟨earlier, List.mem_append_left _ hearlier, hsame⟩
    · rintro ⟨other, hother, hsame, hsome⟩
      rcases List.mem_append.mp hother with hearlier | hlast
      · exact ⟨other, hearlier, hsame, hsome⟩
      · obtain rfl := List.mem_singleton.mp hlast
        rw [hnone] at hsome
        cases hsome
  · intro other hother again hagain
    show (other.tag, again) ∈ (staging.nextInbounds.set inbound.tag inbound).entries
    rw [hentries]
    rcases List.mem_append.mp hother with hearlier | hlast
    · exact List.mem_append_left _ (h.kept other hearlier again hagain)
    · obtain rfl := List.mem_singleton.mp hlast
      rw [hnone] at hagain
      cases hagain

/-- How the loop ends from a place in the list on: with all configs staged, or at the first that
fails. -/
def Ends (number : Rat → List Char) (localeCompare : String → String → Int) (options : InboundReloadOptions)
    (done configs : List ParsedInbound) (index : Nat) (result : Staging × Option String) : Prop :=
  (result.2 = none →
    Staged number localeCompare options (done ++ configs) result.1 ∧
    ∀ k config, configs[k]? = some config → ¬ Fails number localeCompare options (index + k) config) ∧
  ∀ error, result.2 = some error →
    Tracked result.1 ∧ ∃ k config, configs[k]? = some config ∧ Fails number localeCompare options (index + k) config

/-- A config that does not fail leaves it to the others. -/
theorem Ends.cons {configs : List ParsedInbound} {index : Nat} {result : Staging × Option String}
    (h : Ends number localeCompare options (done ++ [config]) configs (index + 1) result)
    (hpasses : ¬ Fails number localeCompare options index config) :
    Ends number localeCompare options done (config :: configs) index result := by
  have hindex : ∀ k, index + (k + 1) = index + 1 + k := by omega
  refine ⟨fun hnone => ?_, fun error hsome => ?_⟩
  · obtain ⟨hstaged, hall⟩ := h.1 hnone
    rw [List.append_assoc] at hstaged
    refine ⟨hstaged, fun k other hother => ?_⟩
    cases k with
    | zero =>
      cases hother
      exact hpasses
    | succ k =>
      rw [hindex]
      exact hall k other hother
  · obtain ⟨htracked, k, other, hother, hfails⟩ := h.2 error hsome
    rw [← hindex] at hfails
    exact ⟨htracked, k + 1, other, hother, hfails⟩

/-- The loop ends there if the config fails. -/
theorem Fails.ends {configs : List ParsedInbound} {index : Nat} (h : Fails number localeCompare options index config)
    (htracked : Tracked staging) (error : String) :
    Ends number localeCompare options done (config :: configs) index (staging, some error) :=
  ⟨fun hnone => (Option.some_ne_none _ hnone).elim, fun _ _ => ⟨htracked, 0, config, rfl, h⟩⟩

theorem stage_spec (configs : List ParsedInbound) : ∀ (done : List ParsedInbound) (staging : Staging) (index : Nat),
    Staged number localeCompare options done staging →
    ((done ++ configs).map ParsedInbound.tag).Nodup →
    Ends number localeCompare options done configs index
      (stage number localeCompare options index configs staging) := by
  induction configs with
  | nil =>
    intro done staging index h _
    refine ⟨fun _ => ⟨?_, fun k config hconfig => ?_⟩, fun error herror => ?_⟩
    · rw [List.append_nil]
      exact h
    · cases hconfig
    · cases herror
  | cons config configs ih =>
    intro done staging index h hnodup
    have hfresh : config.tag ∉ done.map ParsedInbound.tag := by
      intro hmem
      rw [List.map_append, List.nodup_append] at hnodup
      exact hnodup.2.2 config.tag hmem config.tag List.mem_cons_self rfl
    have hrest : ((done ++ [config] ++ configs).map ParsedInbound.tag).Nodup := by
      rw [List.append_assoc]
      exact hnodup
    unfold stage
    cases hreuse : reusable number localeCompare options config with
    | some inbound =>
      refine (ih _ _ _ (h.reuse hfresh hreuse) hrest).cons ?_
      rintro ⟨hnone, -⟩
      rw [hreuse] at hnone
      cases hnone
    | none =>
      simp only []
      cases hcreate : options.factory.createInbound index config with
      | error error => exact Fails.ends ⟨hreuse, Or.inl ⟨error, hcreate⟩⟩ h.toTracked error
      | ok inbound =>
        obtain ⟨htag, horigin⟩ := options.factory.created index config inbound hcreate
        have hcurrent : inbound.origin ≠ .current := by
          rw [horigin]
          exact fun heq => Origin.noConfusion heq
        simp only []
        cases hstart : options.factory.start index with
        | error error =>
          obtain ⟨hkeys, -, -⟩ := h.set_next hfresh htag
          have hadd := h.toTracked.add (fun hstaged => hkeys (h.stagedKeys _ hstaged)) hcurrent
          have htracked : Tracked ((staging.add inbound).record (.rejected inbound error)) :=
            hadd.record (fun _ heq => Event.noConfusion heq) (fun _ heq => Event.noConfusion heq) fun _ => rfl
          exact Fails.ends ⟨hreuse, Or.inr ⟨inbound, error, hcreate, hstart⟩⟩ htracked error
        | ok _ =>
          refine (ih _ _ _ (h.add hfresh hreuse htag hcurrent) hrest).cons ?_
          rintro ⟨-, ⟨error, herror⟩ | ⟨other, error, -, herror⟩⟩
          · rw [hcreate] at herror
            cases herror
          · rw [hstart] at herror
            cases herror

end Loop

/-! ## Atomicity -/

/-- A reload that failed. -/
structure KeptCurrent (options : InboundReloadOptions) (result : InboundReloadResult) (events : List Event) :
    Prop where
  inbounds : result.inbounds = options.current.map
  created : ∀ inbound, .created inbound ∈ events → endings inbound events = [.stopped inbound]
  current : ∀ inbound ∈ options.current.map.values, endings inbound events = []

/-- The inbound has its tag in the next configs, with the config it had before. -/
def ReusedBy (options : InboundReloadOptions) (inbound : Inbound) : Prop :=
  ∃ config ∈ options.nextConfigs, config.tag = inbound.tag ∧ Unchanged options config

/-- A reload that was applied: first what is new starts, then what is not used again ends. -/
structure Replaced (options : InboundReloadOptions) (result : InboundReloadResult) (events : List Event) :
    Prop where
  tags : result.inbounds.keys = options.nextConfigs.map ParsedInbound.tag
  entries : ∀ tag inbound, result.inbounds.get tag = some inbound → inbound.tag = tag ∧
    (inbound ∈ options.current.map.values ∧ ReusedBy options inbound ∨ .started inbound ∈ events) ∧
    endings inbound events = []
  order : ∃ before after, events = before ++ after ∧
    (∀ inbound, .created inbound ∈ events → .started inbound ∈ before) ∧
    ∀ inbound, endings inbound before = []
  current : ∀ inbound ∈ options.current.map.values,
    ReusedBy options inbound ∧ result.inbounds.get inbound.tag = some inbound ∧ endings inbound events = [] ∨
    ¬ ReusedBy options inbound ∧ endings inbound events = [release inbound]

section Atomicity

variable {number : Rat → List Char} (hnumber : NumberText number) (localeCompare : String → String → Int)
  {options : InboundReloadOptions} {staging : Staging}

theorem current_keyed (options : InboundReloadOptions) : ∀ tag inbound,
    (tag, inbound) ∈ options.current.map.entries → inbound.tag = tag :=
  fun tag inbound hentry => (options.current.keyed tag inbound hentry).1

theorem current_origin {inbound : Inbound} (h : inbound ∈ options.current.map.values) :
    inbound.origin = .current := by
  obtain ⟨tag, hentry⟩ := mem_values.mp h
  exact (options.current.keyed tag inbound hentry).2

/-- What was staged is no current inbound. -/
theorem Tracked.not_current (h : Tracked staging) {inbound : Inbound}
    (hstaged : inbound ∈ staging.stagedInbounds.values) : inbound ∉ options.current.map.values := by
  intro hcurrent
  obtain ⟨tag, hentry⟩ := mem_values.mp hstaged
  exact (h.keyed tag inbound hentry).2 (current_origin hcurrent)

theorem Tracked.keptCurrent (h : Tracked staging) (error : String) :
    KeptCurrent options ⟨options.current.map, false⟩
      (staging.events ++ [.failed error] ++ stopAll staging.stagedInbounds) where
  inbounds := rfl
  created inbound hcreated := by
    have hstaged : inbound ∈ staging.stagedInbounds.values := by
      rw [h.staged]
      simpa [stopAll] using hcreated
    rw [endings_append, endings_append, h.quiet, endings_singleton rfl,
      endings_stopAll (fun tag other hentry => (h.keyed tag other hentry).1) hstaged]
    rfl
  current inbound hcurrent := by
    rw [endings_append, endings_append, h.quiet, endings_singleton rfl,
      endings_stopAll_of_notMem fun hstaged => h.not_current hstaged hcurrent]
    rfl

theorem endings_releaseCurrent (reusedTags : List String) (inbound : Inbound) :
    endings inbound (releaseCurrent options reusedTags) =
      if inbound ∈ options.current.map.values ∧ inbound.tag ∉ reusedTags then [release inbound] else [] := by
  unfold releaseCurrent
  have hother : ∀ other, other ≠ inbound →
      endings inbound (if other.tag ∈ reusedTags then [] else [release other]) = [] := by
    intro other hne
    split
    · rfl
    · exact endings_singleton (by rw [release_ends]; exact decide_eq_false hne)
  by_cases hmem : inbound ∈ options.current.map.values
  · rw [endings_flatMap (nodup_values (current_keyed options)) hmem hother]
    by_cases hreused : inbound.tag ∈ reusedTags
    · rw [if_pos hreused, if_neg (fun h => h.2 hreused), endings_nil]
    · rw [if_neg hreused, if_pos ⟨hmem, hreused⟩]
      unfold endings
      rw [List.filter_cons_of_pos (by rw [release_ends]; exact decide_eq_true rfl), List.filter_nil]
  · rw [if_neg (fun h => hmem h.1)]
    unfold endings
    rw [List.filter_flatMap, List.flatMap_eq_nil_iff]
    intro other hother'
    refine hother other ?_
    rintro rfl
    exact hmem hother'

include hnumber in
theorem Staged.reusedBy_iff (h : Staged number localeCompare options options.nextConfigs staging) {inbound : Inbound}
    (hcurrent : inbound ∈ options.current.map.values) :
    inbound.tag ∈ staging.reusedTags ↔ ReusedBy options inbound := by
  obtain ⟨tag, hentry⟩ := mem_values.mp hcurrent
  obtain rfl := current_keyed options _ _ hentry
  have hget := (JsMap.get_eq_some_iff _ _ _).mpr hentry
  rw [h.reusedTags]
  constructor
  · rintro ⟨config, hconfig, htag, hsome⟩
    obtain ⟨again, hreuse⟩ := Option.isSome_iff_exists.mp hsome
    exact ⟨config, hconfig, htag, ((reusable_eq_some_iff hnumber).mp hreuse).1⟩
  · rintro ⟨config, hconfig, htag, hunchanged⟩
    refine ⟨config, hconfig, htag, Option.isSome_iff_exists.mpr ⟨inbound, ?_⟩⟩
    rw [reusable_eq_some_iff hnumber, htag]
    exact ⟨hunchanged, hget⟩

include hnumber in
theorem Staged.replaced (h : Staged number localeCompare options options.nextConfigs staging) :
    Replaced options ⟨staging.nextInbounds, true⟩
      (staging.events ++ releaseCurrent options staging.reusedTags ++
        [.applied options.current.map.size staging.nextInbounds.size]) := by
  have hendings : ∀ inbound, endings inbound (staging.events ++ releaseCurrent options staging.reusedTags ++
      [.applied options.current.map.size staging.nextInbounds.size]) =
        if inbound ∈ options.current.map.values ∧ inbound.tag ∉ staging.reusedTags then [release inbound] else [] := by
    intro inbound
    rw [endings_append, endings_append, h.quiet, endings_releaseCurrent, endings_singleton rfl]
    simp
  have hcreated : ∀ inbound, .created inbound ∈ releaseCurrent options staging.reusedTags → False := by
    intro inbound hmem
    obtain ⟨other, -, hother⟩ := List.mem_flatMap.mp hmem
    split at hother
    · cases hother
    · have heq := List.mem_singleton.mp hother
      unfold release at heq
      split at heq
      · cases heq
      · cases heq
  refine ⟨h.keys, fun tag inbound hget => ?_, ⟨staging.events, _, List.append_assoc _ _ _, ?_, h.quiet⟩, ?_⟩
  · obtain ⟨htag, hfrom⟩ := h.next tag inbound ((JsMap.get_eq_some_iff _ _ _).mp hget)
    refine ⟨htag, ?_, ?_⟩
    · rcases hfrom with ⟨hcurrent, hreused⟩ | hstarted
      · rw [← htag] at hreused
        exact Or.inl ⟨hcurrent, (h.reusedBy_iff hnumber localeCompare hcurrent).mp hreused⟩
      · exact Or.inr (List.mem_append_left _ (List.mem_append_left _ hstarted))
    · rw [hendings, if_neg]
      rintro ⟨hcurrent, hnot⟩
      rcases hfrom with ⟨-, hreused⟩ | hstarted
      · rw [htag] at hnot
        exact hnot hreused
      · exact h.toTracked.not_current ((h.staged inbound).mpr (h.made inbound hstarted)) hcurrent
  · intro inbound hmem
    refine h.started inbound ?_
    rcases List.mem_append.mp hmem with hmem | hlast
    · rcases List.mem_append.mp hmem with hstaged | hreleased
      · exact hstaged
      · exact (hcreated inbound hreleased).elim
    · cases List.mem_singleton.mp hlast
  · intro inbound hcurrent
    rw [hendings, ← h.reusedBy_iff hnumber localeCompare hcurrent]
    by_cases hreused : inbound.tag ∈ staging.reusedTags
    · left
      refine ⟨hreused, ?_, if_neg fun hnot => hnot.2 hreused⟩
      obtain ⟨tag, hentry⟩ := mem_values.mp hcurrent
      obtain rfl := current_keyed options _ _ hentry
      obtain ⟨config, hconfig, htag, hunchanged⟩ := (h.reusedBy_iff hnumber localeCompare hcurrent).mp hreused
      have hreuse : reusable number localeCompare options config = some inbound := by
        rw [reusable_eq_some_iff hnumber, htag]
        exact ⟨hunchanged, (JsMap.get_eq_some_iff _ _ _).mpr hentry⟩
      rw [JsMap.get_eq_some_iff, ← htag]
      exact h.kept config hconfig inbound hreuse
    · right
      exact ⟨hreused, if_pos ⟨hcurrent, hreused⟩⟩

include hnumber in
/-- **A reload of the inbounds is atomic.**  It fails exactly if some config that cannot use
its inbound again fails. -/
theorem reloadInbounds_atomic (hdistinct : (options.nextConfigs.map ParsedInbound.tag).Nodup) :
    let outcome := reloadInbounds number localeCompare options
    (outcome.1.reloaded = false ↔
      ∃ index config, options.nextConfigs[index]? = some config ∧ Fails number localeCompare options index config) ∧
    (outcome.1.reloaded = false → KeptCurrent options outcome.1 outcome.2) ∧
    (outcome.1.reloaded = true → Replaced options outcome.1 outcome.2) := by
  obtain ⟨hend, hfailed⟩ :=
    @stage_spec number localeCompare options options.nextConfigs [] ⟨∅, ∅, [], []⟩ 0 staged_nil hdistinct
  unfold reloadInbounds
  rcases hstage : stage number localeCompare options 0 options.nextConfigs ⟨∅, ∅, [], []⟩ with ⟨staging, _ | error⟩
  · rw [hstage] at hend
    obtain ⟨hstaged, hall⟩ := hend rfl
    refine ⟨⟨fun hfalse => (Bool.noConfusion hfalse), ?_⟩, fun hfalse => (Bool.noConfusion hfalse), fun _ => ?_⟩
    · rintro ⟨index, config, hconfig, hfails⟩
      have hpasses := hall index config hconfig
      rw [Nat.zero_add] at hpasses
      exact absurd hfails hpasses
    · exact Staged.replaced hnumber localeCompare hstaged
  · rw [hstage] at hfailed
    obtain ⟨htracked, index, config, hconfig, hfails⟩ := hfailed error rfl
    rw [Nat.zero_add] at hfails
    refine ⟨⟨fun _ => ⟨index, config, hconfig, hfails⟩, fun _ => rfl⟩, fun _ => ?_, fun htrue => (Bool.noConfusion htrue)⟩
    exact htracked.keptCurrent error

end Atomicity

/-! ## A port that is in use -/

/-- The listener at an index cannot start. -/
def portInUse (taken : Nat) : InboundFactory where
  createInbound index config := .ok ⟨.created index, config.tag, true⟩
  start index := if index = taken then .error "EADDRINUSE" else .ok ()
  created index config inbound h := by
    cases h
    exact ⟨rfl, rfl⟩

/-- `proxy` changes, and `conflict` is new. -/
def conflictOptions : InboundReloadOptions where
  current :=
    { map := ⟨[("proxy", ⟨.current, "proxy", true⟩)], List.nodup_singleton _⟩
      keyed := by
        intro tag inbound h
        cases List.mem_singleton.mp h
        exact ⟨rfl, rfl⟩ }
  previousConfigs := [⟨"proxy", .number 0⟩]
  nextConfigs := [⟨"proxy", .number 1080⟩, ⟨"conflict", .number 1080⟩]
  factory := portInUse 1

/-- The test of the repository: the second listener does not start. -/
theorem conflict_keeps_current :
    KeptCurrent conflictOptions (reloadInbounds Json.quotientChars Json.caseCompare conflictOptions).1
      (reloadInbounds Json.quotientChars Json.caseCompare conflictOptions).2 := by
  obtain ⟨hfails, hkept, -⟩ :=
    @reloadInbounds_atomic Json.quotientChars Json.quotientChars_spec Json.caseCompare conflictOptions (by decide)
  refine hkept (hfails.mpr ⟨1, ⟨"conflict", .number 1080⟩, rfl, rfl, Or.inr ?_⟩)
  exact ⟨⟨.created 1, "conflict", true⟩, "EADDRINUSE", rfl, rfl⟩

end InboundReload

end Sepigs
