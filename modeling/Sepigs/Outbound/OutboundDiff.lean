import Sepigs.Outbound.OutboundRenames

/-!
# What the diff of outbounds tells

The references are all collected, unless one has the name of an inherited member.  Equal
configurations have one text, unless `localeCompare` puts two keys of one object on a par.
-/

namespace Sepigs

open Json (Same Apart LocalePreorder NumberText)

/-- What the diff of two lists of outbounds promises. -/
structure ExactPartition (current candidate : List TypedOutbound) (route : RouterConfig)
    (diff : OutboundGenerationDiff) : Prop where
  added : ∀ tag, tag ∈ diff.added ∨ tag ∈ diff.renamed.map OutboundRename.toTag ↔
    tag ∈ candidate.map (·.tag) ∧ tag ∉ current.map (·.tag)
  addedOnce : (diff.added ++ diff.renamed.map OutboundRename.toTag).Nodup
  removed : ∀ tag, tag ∈ diff.removed ∨ tag ∈ diff.renamed.map OutboundRename.fromTag ↔
    tag ∈ current.map (·.tag) ∧ tag ∉ candidate.map (·.tag)
  removedOnce : (diff.removed ++ diff.renamed.map OutboundRename.fromTag).Nodup
  paired : ∀ rename ∈ diff.renamed, ∃ old ∈ current, ∃ new ∈ candidate, old.tag = rename.fromTag ∧
    new.tag = rename.toTag ∧ new.type = rename.type ∧ Same old.content new.content
  unpaired : ∀ old ∈ current, ∀ new ∈ candidate, old.tag ∈ diff.removed → new.tag ∈ diff.added →
    ¬ Same old.content new.content
  modified : ∀ tag, tag ∈ diff.modified.map OutboundModifiedEntry.tag ↔
    ∃ old ∈ current, ∃ new ∈ candidate, old.tag = tag ∧ new.tag = tag ∧ ¬ Same old.whole new.whole
  modifiedOnce : (diff.modified.map OutboundModifiedEntry.tag).Nodup
  missing : ∀ tag, tag ∈ diff.missingPolicyReferences ↔
    tag ∈ (routeReferences route).map Prod.fst ∧ tag ∉ candidate.map (·.tag) ∧
      tag ∉ route.policies.map RoutingPolicyConfig.tag
  missingOnce : diff.missingPolicyReferences.Nodup

/-- No reference has the name of an inherited member, and the policies that are referenced
are outbounds too. -/
structure PlainReferences (candidate : List TypedOutbound) (route : RouterConfig) : Prop where
  own : ∀ tag ∈ (routeReferences route).map Prod.fst, tag ∉ objectPrototypeMembers
  policies : ∀ tag ∈ (routeReferences route).map Prod.fst,
    tag ∈ route.policies.map RoutingPolicyConfig.tag → tag ∈ candidate.map (·.tag)

/-- The outbounds whose tags the other list does not have. -/
def onlyIn (items others : List TypedOutbound) : List TypedOutbound :=
  items.filter fun item => item.tag ∉ others.map (·.tag)

/-- Equal configurations of one tag have one text.  Where two equal ones were removed and added,
at least as many were added in the text of the first, or removed in the text of the second. -/
structure StableTexts (localeCompare : String → String → Int) (number : Rat → List Char)
    (current candidate : List TypedOutbound) : Prop where
  common : ∀ old ∈ current, ∀ new ∈ candidate, old.tag = new.tag → Same old.whole new.whole →
    stableOutboundJson localeCompare number old.whole = stableOutboundJson localeCompare number new.whole
  moved : ∀ old ∈ onlyIn current candidate, ∀ new ∈ onlyIn candidate current,
    Same old.content new.content →
    let text := fun item : TypedOutbound => untaggedText localeCompare number item.toParsedOutbound
    let removed := textCount localeCompare number (onlyIn current candidate)
    let added := textCount localeCompare number (onlyIn candidate current)
    removed (text old) ≤ added (text old) ∨ added (text new) ≤ removed (text new)

/-! ## References -/

theorem addReference_of_own {references : JsMap String (List String)}
    (hown : ∀ tag ∈ references.keys, tag ∉ objectPrototypeMembers) (reference : String × String) :
    (reference.1 ∈ objectPrototypeMembers → ∃ e, addReference references reference = .error e) ∧
    (reference.1 ∉ objectPrototypeMembers → ∃ added, addReference references reference = .ok added ∧
      ∀ tag, tag ∈ added.keys ↔ tag = reference.1 ∨ tag ∈ references.keys) := by
  unfold addReference
  cases hget : references.get reference.1 with
  | some current =>
    have hmem : reference.1 ∈ references.keys := by
      by_contra hnot
      rw [(references.get_eq_none_iff _).mpr hnot] at hget
      cases hget
    refine ⟨fun hinherited => absurd hinherited (hown _ hmem), fun _ => ⟨_, rfl, fun tag => ?_⟩⟩
    exact references.mem_keys_set _ _ _
  | none =>
    refine ⟨fun hinherited => ⟨_, if_pos hinherited⟩, fun hfree => ⟨_, if_neg hfree, fun tag => ?_⟩⟩
    exact references.mem_keys_set _ _ _

/-- The references are collected unless one is inherited. -/
theorem foldlM_addReference (calls : List (String × String)) (references : JsMap String (List String))
    (hown : ∀ tag ∈ references.keys, tag ∉ objectPrototypeMembers) :
    ((∃ call ∈ calls, call.1 ∈ objectPrototypeMembers) →
      ∃ e, calls.foldlM addReference references = .error e) ∧
    ((∀ call ∈ calls, call.1 ∉ objectPrototypeMembers) →
      ∃ collected, calls.foldlM addReference references = .ok collected ∧
        ∀ tag, tag ∈ collected.keys ↔ tag ∈ references.keys ∨ tag ∈ calls.map Prod.fst) := by
  induction calls generalizing references with
  | nil =>
    constructor
    · rintro ⟨call, hmem, -⟩
      cases hmem
    · intro _
      exact ⟨references, rfl, fun tag => by simp⟩
  | cons call calls ih =>
    obtain ⟨hfails, hadds⟩ := addReference_of_own hown call
    rw [List.foldlM_cons]
    by_cases hcall : call.1 ∈ objectPrototypeMembers
    · obtain ⟨e, he⟩ := hfails hcall
      rw [he]
      refine ⟨fun _ => ⟨e, rfl⟩, fun hall => ?_⟩
      exact absurd hcall (hall call List.mem_cons_self)
    · obtain ⟨added, hadded, hkeys⟩ := hadds hcall
      have hown' : ∀ tag ∈ added.keys, tag ∉ objectPrototypeMembers := by
        intro tag htag
        rcases (hkeys tag).mp htag with rfl | htag
        · exact hcall
        · exact hown tag htag
      obtain ⟨hfail, hcollect⟩ := ih added hown'
      rw [hadded]
      constructor
      · rintro ⟨other, hmem, hinherited⟩
        rcases List.mem_cons.mp hmem with rfl | hmem
        · exact absurd hinherited hcall
        · exact hfail ⟨other, hmem, hinherited⟩
      · intro hall
        obtain ⟨collected, hcollected, hmem⟩ :=
          hcollect fun other hother => hall other (List.mem_cons_of_mem call hother)
        refine ⟨collected, hcollected, fun tag => ?_⟩
        rw [hmem tag, hkeys tag, List.map_cons, List.mem_cons]
        tauto

theorem mem_referenceKeys (references : JsMap String (List String)) (tag : String) :
    tag ∈ referenceKeys references ↔ tag ∈ references.keys := by
  unfold referenceKeys Json.keys
  rw [((Json.propertyOrder_perm _).map Prod.fst).mem_iff, List.map_map]
  rfl

theorem nodup_referenceKeys (references : JsMap String (List String)) :
    (referenceKeys references).Nodup := by
  unfold referenceKeys Json.keys
  rw [((Json.propertyOrder_perm _).map Prod.fst).nodup_iff, List.map_map]
  exact references.nodup

/-! ## Texts of configurations -/

theorem get_indexBy {items : List TypedOutbound} (hnodup : (items.map fun item => item.tag).Nodup)
    (tag : String) (item : TypedOutbound) :
    (JsMap.indexBy (fun item : TypedOutbound => item.tag) items).get tag = some item ↔
      item ∈ items ∧ item.tag = tag := by
  rw [JsMap.get_eq_some_iff, JsMap.entries_indexBy hnodup, List.mem_map]
  constructor
  · rintro ⟨a, ha, heq⟩
    cases heq
    exact ⟨ha, rfl⟩
  · rintro ⟨ha, rfl⟩
    exact ⟨item, ha, rfl⟩

/-- `items.filter((item) => !otherByTag.has(item.tag))` -/
theorem filter_has (items others : List TypedOutbound) :
    (items.filter fun item =>
      !(JsMap.indexBy (fun item : TypedOutbound => item.tag) others).has item.tag) = onlyIn items others := by
  refine List.filter_congr fun item _ => ?_
  rw [Bool.eq_iff_iff, Bool.not_eq_true', ← Bool.not_eq_true, JsMap.has_eq_true_iff,
    JsMap.mem_keys_indexBy, decide_eq_true_eq]

theorem mem_onlyIn {items others : List TypedOutbound} {item : TypedOutbound} :
    item ∈ onlyIn items others ↔ item ∈ items ∧ item.tag ∉ others.map (·.tag) := by
  unfold onlyIn
  rw [List.mem_filter, decide_eq_true_eq]

theorem tags_onlyIn (items others : List TypedOutbound) (tag : String) :
    tag ∈ (onlyIn items others).map (·.tag) ↔ tag ∈ items.map (·.tag) ∧ tag ∉ others.map (·.tag) := by
  constructor
  · intro htag
    obtain ⟨item, hitem, rfl⟩ := List.mem_map.mp htag
    obtain ⟨hitem, hout⟩ := mem_onlyIn.mp hitem
    exact ⟨List.mem_map.mpr ⟨item, hitem, rfl⟩, hout⟩
  · rintro ⟨htag, hout⟩
    obtain ⟨item, hitem, rfl⟩ := List.mem_map.mp htag
    exact List.mem_map.mpr ⟨item, mem_onlyIn.mpr ⟨hitem, hout⟩, rfl⟩

theorem nodup_onlyIn {items : List TypedOutbound} (others : List TypedOutbound)
    (hnodup : (items.map (·.tag)).Nodup) : ((onlyIn items others).map (·.tag)).Nodup :=
  hnodup.sublist (List.filter_sublist.map _)

/-! ## The parts of the diff -/

section Texts

variable {localeCompare : String → String → Int} {number : Rat → List Char}

/-- What is left and what is consumed are all the tags, each once. -/
theorem left_and_consumed {items : List TypedOutbound} (hnodup : (items.map (·.tag)).Nodup)
    {consumed names : List String} (hnames : names = consumed.reverse) (honce : consumed.Nodup)
    (hsub : ∀ tag ∈ consumed, tag ∈ items.map (·.tag)) :
    (∀ tag, tag ∈ (items.filter fun item => item.tag ∉ consumed).map (·.tag) ∨ tag ∈ names ↔
      tag ∈ items.map (·.tag)) ∧
    ((items.filter fun item => item.tag ∉ consumed).map (·.tag) ++ names).Nodup := by
  subst hnames
  have hmem : ∀ tag, tag ∈ (items.filter fun item => item.tag ∉ consumed).map (·.tag) ↔
      tag ∈ items.map (·.tag) ∧ tag ∉ consumed := by
    intro tag
    constructor
    · intro htag
      obtain ⟨item, hitem, rfl⟩ := List.mem_map.mp htag
      obtain ⟨hitem, hfree⟩ := List.mem_filter.mp hitem
      exact ⟨List.mem_map.mpr ⟨item, hitem, rfl⟩, of_decide_eq_true hfree⟩
    · rintro ⟨htag, hfree⟩
      obtain ⟨item, hitem, rfl⟩ := List.mem_map.mp htag
      exact List.mem_map.mpr ⟨item, List.mem_filter.mpr ⟨hitem, decide_eq_true hfree⟩, rfl⟩
  constructor
  · intro tag
    rw [hmem, List.mem_reverse]
    by_cases htag : tag ∈ consumed
    · simp [htag, hsub tag htag]
    · simp [htag]
  · rw [List.nodup_append]
    refine ⟨hnodup.sublist (List.filter_sublist.map _), List.nodup_reverse.mpr honce, ?_⟩
    rintro tag htag _ hother rfl
    exact ((hmem tag).mp htag).2 (List.mem_reverse.mp hother)

theorem mem_changedOutbounds (byTag : JsMap String TypedOutbound) (candidate : List TypedOutbound)
    (previous next : TypedOutbound) :
    (previous, next) ∈ changedOutbounds localeCompare number byTag candidate ↔
      next ∈ candidate ∧ byTag.get next.tag = some previous ∧
        stableOutboundJson localeCompare number previous.whole ≠
          stableOutboundJson localeCompare number next.whole := by
  unfold changedOutbounds
  rw [List.mem_filterMap]
  constructor
  · rintro ⟨item, hitem, heq⟩
    cases hget : byTag.get item.tag with
    | none =>
      rw [hget] at heq
      cases heq
    | some old =>
      rw [hget] at heq
      dsimp only at heq
      split at heq
      · cases heq
      · next hdiff =>
        cases heq
        exact ⟨hitem, hget, hdiff⟩
  · rintro ⟨hitem, hget, hdiff⟩
    refine ⟨next, hitem, ?_⟩
    rw [hget]
    exact if_neg hdiff

/-- Every candidate is changed at most once, in their order. -/
theorem changedOutbounds_sublist (byTag : JsMap String TypedOutbound) (candidate : List TypedOutbound) :
    ((changedOutbounds localeCompare number byTag candidate).map Prod.snd).Sublist candidate := by
  induction candidate with
  | nil => exact List.Sublist.refl []
  | cons next rest ih =>
    unfold changedOutbounds at ih ⊢
    rw [List.filterMap_cons]
    split
    · exact ih.cons next
    · next changed heq =>
      have hnext : changed.2 = next := by
        split at heq
        · cases heq
        · split at heq
          · cases heq
          · cases heq
            rfl
      rw [List.map_cons, hnext]
      exact ih.cons_cons next

theorem diff_fields {current candidate : List TypedOutbound} {route : RouterConfig}
    {diff : OutboundGenerationDiff}
    (hdiff : diffOutboundConfigs localeCompare number current candidate (some route) = .ok diff) :
    let removed := onlyIn current candidate
    let added := onlyIn candidate current
    let renames := removed.foldl (renameStep localeCompare number added) ⟨[], [], []⟩
    diff.added = (added.filter fun item => item.tag ∉ renames.consumedAdded).map (·.tag) ∧
    diff.removed = (removed.filter fun item => item.tag ∉ renames.consumedRemoved).map (·.tag) ∧
    diff.renamed = renames.renamed ∧
    diff.modified.map OutboundModifiedEntry.tag =
      (changedOutbounds localeCompare number
        (JsMap.indexBy (fun item : TypedOutbound => item.tag) current) candidate).map (·.2.tag) := by
  unfold diffOutboundConfigs at hdiff
  dsimp only at hdiff
  rw [filter_has, filter_has] at hdiff
  cases hreferences : policyReferences candidate (some route) with
  | error e =>
    rw [hreferences] at hdiff
    cases hdiff
  | ok references =>
    rw [hreferences] at hdiff
    cases hdiff
    refine ⟨rfl, rfl, rfl, ?_⟩
    rw [List.map_map]
    rfl

section Exact

variable {current candidate : List TypedOutbound} (hnumber : NumberText number)
  (hcurrent : (current.map (·.tag)).Nodup) (hcandidate : (candidate.map (·.tag)).Nodup)

include hnumber hcurrent hcandidate

/-- The modified tags are those of the pairs that differ, where equal ones have one text. -/
theorem modified_iff :
    (∀ tag, tag ∈ (changedOutbounds localeCompare number
        (JsMap.indexBy (fun item : TypedOutbound => item.tag) current) candidate).map (·.2.tag) ↔
      ∃ old ∈ current, ∃ new ∈ candidate, old.tag = tag ∧ new.tag = tag ∧ ¬ Same old.whole new.whole) ↔
    ∀ old ∈ current, ∀ new ∈ candidate, old.tag = new.tag → Same old.whole new.whole →
      stableOutboundJson localeCompare number old.whole =
        stableOutboundJson localeCompare number new.whole := by
  have hmodified : ∀ tag, tag ∈ (changedOutbounds localeCompare number
        (JsMap.indexBy (fun item : TypedOutbound => item.tag) current) candidate).map (·.2.tag) ↔
      ∃ old ∈ current, ∃ new ∈ candidate, old.tag = tag ∧ new.tag = tag ∧
        stableOutboundJson localeCompare number old.whole ≠
          stableOutboundJson localeCompare number new.whole := by
    intro tag
    rw [List.mem_map]
    constructor
    · rintro ⟨⟨previous, next⟩, hmem, rfl⟩
      obtain ⟨hnext, hget, hdiff⟩ := (mem_changedOutbounds _ _ _ _).mp hmem
      obtain ⟨hprevious, htag⟩ := (get_indexBy hcurrent _ _).mp hget
      exact ⟨previous, hprevious, next, hnext, htag, rfl, hdiff⟩
    · rintro ⟨old, hold, new, hnew, htag, rfl, hdiff⟩
      exact ⟨(old, new), (mem_changedOutbounds _ _ _ _).mpr
        ⟨hnew, (get_indexBy hcurrent _ _).mpr ⟨hold, htag⟩, hdiff⟩, rfl⟩
  constructor
  · intro hexact old hold new hnew htag hsame
    by_contra hdiff
    obtain ⟨old', hold', new', hnew', htag', htag'', hnot⟩ :=
      (hexact new.tag).mp ((hmodified _).mpr ⟨old, hold, new, hnew, htag, rfl, hdiff⟩)
    obtain rfl := List.inj_on_of_nodup_map hcurrent hold' hold (htag'.trans htag.symm)
    obtain rfl := List.inj_on_of_nodup_map hcandidate hnew' hnew htag''
    exact hnot hsame
  · intro hcommon tag
    rw [hmodified tag]
    constructor
    · rintro ⟨old, hold, new, hnew, rfl, htag, hdiff⟩
      exact ⟨old, hold, new, hnew, rfl, htag, fun hsame => hdiff (hcommon old hold new hnew htag.symm hsame)⟩
    · rintro ⟨old, hold, new, hnew, rfl, htag, hnot⟩
      exact ⟨old, hold, new, hnew, rfl, htag, fun htext => hnot (whole_same_of_text hnumber htext)⟩

/-- The classes are exact, whatever the references are, exactly when the texts are stable. -/
theorem exactPartition_iff {route : RouterConfig} {diff : OutboundGenerationDiff}
    (hdiff : diffOutboundConfigs localeCompare number current candidate (some route) = .ok diff)
    (hmissing : ∀ tag, tag ∈ diff.missingPolicyReferences ↔
      tag ∈ (routeReferences route).map Prod.fst ∧ tag ∉ candidate.map (·.tag) ∧
        tag ∉ route.policies.map RoutingPolicyConfig.tag)
    (honce : diff.missingPolicyReferences.Nodup) :
    ExactPartition current candidate route diff ↔ StableTexts localeCompare number current candidate := by
  obtain ⟨hadded, hremoved, hrenames, hmodified⟩ := diff_fields hdiff
  have hrenamed := @renamed_foldl localeCompare number (onlyIn current candidate) (onlyIn candidate current)
  have hremovedTags := nodup_onlyIn candidate hcurrent
  have haddedTags := nodup_onlyIn current hcandidate
  have hunmatched := hrenamed.unmatched_iff hnumber hremovedTags haddedTags
  obtain ⟨haddedAll, haddedOnce⟩ :=
    left_and_consumed haddedTags hrenamed.tos hrenamed.toOnce hrenamed.consumedAdded_subset
  obtain ⟨hremovedAll, hremovedOnce⟩ := left_and_consumed hremovedTags hrenamed.froms
    (hrenamed.fromOnce hremovedTags) hrenamed.consumedRemoved_subset
  rw [← hadded, ← hrenames] at haddedAll haddedOnce
  rw [← hremoved, ← hrenames] at hremovedAll hremovedOnce
  have hcommon := @modified_iff localeCompare number current candidate hnumber hcurrent hcandidate
  rw [← hmodified] at hcommon
  constructor
  · intro hexact
    refine ⟨hcommon.mp hexact.modified, hunmatched.mp ?_⟩
    intro old hold new hnew hleft hfree
    refine hexact.unpaired old (mem_onlyIn.mp hold).1 new (mem_onlyIn.mp hnew).1 ?_ ?_
    · rw [hremoved]
      exact List.mem_map_of_mem (List.mem_filter.mpr ⟨hold, decide_eq_true hleft⟩)
    · rw [hadded]
      exact List.mem_map_of_mem (List.mem_filter.mpr ⟨hnew, decide_eq_true hfree⟩)
  · intro hstable
    refine ⟨?_, haddedOnce, ?_, hremovedOnce, ?_, ?_, hcommon.mpr hstable.common, ?_, hmissing, honce⟩
    · intro tag
      exact (haddedAll tag).trans (tags_onlyIn candidate current tag)
    · intro tag
      exact (hremovedAll tag).trans (tags_onlyIn current candidate tag)
    · intro rename hrename
      rw [hrenames] at hrename
      obtain ⟨old, hold, new, hnew, hfrom, hto, htype, htext⟩ := hrenamed.paired rename hrename
      exact ⟨old, (mem_onlyIn.mp hold).1, new, (mem_onlyIn.mp hnew).1, hfrom, hto, htype,
        content_same_of_text hnumber htext.symm⟩
    · intro old hold new hnew hleft hfree
      rw [hremoved] at hleft
      rw [hadded] at hfree
      obtain ⟨old', hold', htag⟩ := List.mem_map.mp hleft
      obtain ⟨new', hnew', htag'⟩ := List.mem_map.mp hfree
      obtain ⟨hold', hkept⟩ := List.mem_filter.mp hold'
      obtain ⟨hnew', hkept'⟩ := List.mem_filter.mp hnew'
      -- a tag stands for one outbound in its list
      obtain rfl := List.inj_on_of_nodup_map hcurrent (mem_onlyIn.mp hold').1 hold htag
      obtain rfl := List.inj_on_of_nodup_map hcandidate (mem_onlyIn.mp hnew').1 hnew htag'
      exact hunmatched.mpr hstable.moved old' hold' new' hnew' (of_decide_eq_true hkept)
        (of_decide_eq_true hkept')
    · have hsub := (@changedOutbounds_sublist localeCompare number
        (JsMap.indexBy (fun item : TypedOutbound => item.tag) current) candidate).map
          fun item : TypedOutbound => item.tag
      rw [List.map_map] at hsub
      rw [hmodified]
      exact hcandidate.sublist hsub

end Exact

theorem diff_of_references {current candidate : List TypedOutbound} {route : RouterConfig}
    {references : JsMap String (List String)}
    (h : policyReferences candidate (some route) = .ok references) :
    ∃ diff, diffOutboundConfigs localeCompare number current candidate (some route) = .ok diff ∧
      diff.missingPolicyReferences =
        (referenceKeys references).filter (· ∉ (candidate.map fun item => item.tag).eraseDups) := by
  unfold diffOutboundConfigs
  rw [h]
  exact ⟨_, rfl, rfl⟩

/-- Equal configurations have one text where `localeCompare` tells the keys of each object apart. -/
theorem stableTexts_of_apart (horder : LocalePreorder localeCompare) {current candidate : List TypedOutbound}
    (hapart : ∀ old ∈ current, Apart localeCompare old.whole) :
    StableTexts localeCompare number current candidate where
  common old hold new _ _ hsame := congrArg some
    (Json.stableJson_eq_of_same horder number (hapart old hold) old.distinct_whole new.distinct_whole hsame)
  moved old hold new hnew hsame := by
    have htext : untaggedText localeCompare number old.toParsedOutbound =
        untaggedText localeCompare number new.toParsedOutbound :=
      congrArg some (Json.stableJson_eq_of_same horder number
        (old.apart_content (hapart old (mem_onlyIn.mp hold).1)) old.distinct_content new.distinct_content hsame)
    dsimp only
    rw [htext]
    exact Nat.le_total _ _

/-- **Outbound diff.**  The diff is an exact partition exactly when the references are plain and the
texts stable, as they are where `localeCompare` tells the keys of each object apart. -/
theorem diff_exact_iff {current candidate : List TypedOutbound} (hnumber : NumberText number)
    (route : RouterConfig) (hcurrent : (current.map (·.tag)).Nodup)
    (hcandidate : (candidate.map (·.tag)).Nodup) :
    ((∃ diff, diffOutboundConfigs localeCompare number current candidate (some route) = .ok diff ∧
      ExactPartition current candidate route diff) ↔
      PlainReferences candidate route ∧ StableTexts localeCompare number current candidate) ∧
    (LocalePreorder localeCompare → (∀ old ∈ current, Apart localeCompare old.whole) →
      StableTexts localeCompare number current candidate) := by
  refine ⟨?_, fun horder hapart => stableTexts_of_apart horder hapart⟩
  obtain ⟨hfails, hcollects⟩ := foldlM_addReference (routeReferences route) ∅ fun tag hmem => by cases hmem
  by_cases hinherited : ∃ call ∈ routeReferences route, call.1 ∈ objectPrototypeMembers
  · obtain ⟨e, he⟩ := hfails hinherited
    constructor
    · rintro ⟨diff, hdiff, -⟩
      unfold diffOutboundConfigs at hdiff
      rw [show policyReferences candidate (some route) = .error e from he] at hdiff
      cases hdiff
    · rintro ⟨hplain, -⟩
      obtain ⟨call, hmem, hmember⟩ := hinherited
      exact absurd hmember (hplain.own call.1 (List.mem_map.mpr ⟨call, hmem, rfl⟩))
  · have hown : ∀ call ∈ routeReferences route, call.1 ∉ objectPrototypeMembers :=
      fun call hmem hmember => hinherited ⟨call, hmem, hmember⟩
    obtain ⟨references, hreferences, hkeys⟩ := hcollects hown
    obtain ⟨diff, hdiff, hlist⟩ := @diff_of_references localeCompare number current candidate route
      references hreferences
    have hmissing : ∀ tag, tag ∈ diff.missingPolicyReferences ↔
        tag ∈ (routeReferences route).map Prod.fst ∧ tag ∉ candidate.map (·.tag) := by
      intro tag
      rw [hlist, List.mem_filter, mem_referenceKeys, hkeys tag, decide_eq_true_eq, List.mem_eraseDups]
      constructor
      · rintro ⟨hempty | htag, hout⟩
        · cases hempty
        · exact ⟨htag, hout⟩
      · rintro ⟨htag, hout⟩
        exact ⟨.inr htag, hout⟩
    have honce : diff.missingPolicyReferences.Nodup := by
      rw [hlist]
      exact (nodup_referenceKeys references).filter _
    constructor
    · rintro ⟨diff', hdiff', hexact⟩
      rw [hdiff] at hdiff'
      cases hdiff'
      refine ⟨⟨?_, ?_⟩, ?_⟩
      · intro tag htag
        obtain ⟨call, hmem, rfl⟩ := List.mem_map.mp htag
        exact hown call hmem
      · intro tag htag hpolicy
        by_contra hout
        have hlisted := (hmissing tag).mpr ⟨htag, hout⟩
        exact ((hexact.missing tag).mp hlisted).2.2 hpolicy
      · exact (exactPartition_iff hnumber hcurrent hcandidate hdiff hexact.missing honce).mp hexact
    · rintro ⟨hplain, hstable⟩
      refine ⟨diff, hdiff, (exactPartition_iff hnumber hcurrent hcandidate hdiff ?_ honce).mpr hstable⟩
      intro tag
      rw [hmissing tag]
      constructor
      · rintro ⟨htag, hout⟩
        exact ⟨htag, hout, fun hpolicy => hout (hplain.policies tag htag hpolicy)⟩
      · rintro ⟨htag, hout, -⟩
        exact ⟨htag, hout⟩

end Texts

/-! ## References that are not plain, and texts that are not stable -/

def directEntry (tag : String) : TypedOutbound where
  toParsedOutbound := directOutbound tag 1000
  type := "direct"
  typed := by
    unfold directOutbound
    rw [JsMap.get_set, if_neg (by decide), JsMap.get_set, if_neg (by decide), JsMap.get_set, if_pos rfl]

/-- A route to one outbound or policy, with the policies. -/
def routeTo (defaultOutbound : String) (policies : List RoutingPolicyConfig) : RouterConfig where
  defaultOutbound := defaultOutbound
  rules := []
  ruleSetFiles := []
  policies := policies

def failoverPolicy (tag : String) (outbounds : List String) : RoutingPolicyConfig where
  tag := tag
  type := .failover
  outbounds := outbounds
  strategy := .roundRobin
  unhealthyAfterFailures := 3
  recoverAfterMs := 1000

theorem diff_exact_iff_direct :
    NumberText Json.quotientChars ∧
      (((∃ diff, diffOutboundConfigs Json.caseCompare Json.quotientChars [directEntry "old"]
          [directEntry "direct"] (some (routeTo "direct" [])) = .ok diff ∧
        ExactPartition [directEntry "old"] [directEntry "direct"] (routeTo "direct" []) diff) ↔
      PlainReferences [directEntry "direct"] (routeTo "direct" []) ∧
        StableTexts Json.caseCompare Json.quotientChars [directEntry "old"] [directEntry "direct"]) ∧
      StableTexts Json.caseCompare Json.quotientChars [directEntry "old"] [directEntry "direct"]) := by
  obtain ⟨hiff, hstable⟩ := @diff_exact_iff Json.caseCompare Json.quotientChars [directEntry "old"]
    [directEntry "direct"] Json.quotientChars_spec (routeTo "direct" []) (List.nodup_singleton _)
    (List.nodup_singleton _)
  exact ⟨Json.quotientChars_spec, hiff,
    hstable Json.caseCompare_order.toLocalePreorder fun old _ => Json.caseCompare_order.apart _⟩

/-- The soft hyphen is ignored. -/
def softCompare (left right : String) : Int :=
  let spoken : String → String := fun text => String.ofList (text.toList.filter (· ≠ '\u00ad'))
  Json.caseCompare (spoken left) (spoken right)

/-- The options of a plugin, in this order. -/
def twoOptions (first second : String) : Json := .object [(first, .boolean true), (second, .boolean true)]

theorem distinct_twoOptions {first second : String} (hne : first ≠ second) :
    Json.Distinct (twoOptions first second) := by
  refine .object (by simpa [Json.keys] using hne) fun field hfield => ?_
  rcases List.mem_cons.mp hfield with rfl | hfield
  · exact .scalar rfl
  · rw [List.mem_singleton.mp hfield]
    exact .scalar rfl

def pluginEntry (first second : String) (hne : first ≠ second) : TypedOutbound where
  record := ((JsMap.empty.set "type" (.string "plugin.cache")).set "tag" (.string "cache")).set
    "options" (twoOptions first second)
  tag := "cache"
  tagged := by
    rw [JsMap.get_set, if_neg (by decide), JsMap.get_set, if_pos rfl]
  distinct := by
    rintro ⟨key, x⟩ hentry
    rcases (JsMap.mem_entries_set _ _ _ _ _).mp hentry with ⟨-, rfl⟩ | ⟨-, hentry⟩
    · exact distinct_twoOptions hne
    · rcases (JsMap.mem_entries_set _ _ _ _ _).mp hentry with ⟨-, rfl⟩ | ⟨-, hentry⟩
      · exact .scalar rfl
      · rcases (JsMap.mem_entries_set _ _ _ _ _).mp hentry with ⟨-, rfl⟩ | ⟨-, hempty⟩
        · exact .scalar rfl
        · cases hempty
  type := "plugin.cache"
  typed := by
    rw [JsMap.get_set, if_neg (by decide), JsMap.get_set, if_neg (by decide), JsMap.get_set, if_pos rfl]

theorem same_pluginEntry {first second : String} (hne : first ≠ second) :
    Same (pluginEntry first second hne).whole (pluginEntry second first hne.symm).whole := by
  refine .object (.refl _) fun key x y hx hy => ?_
  rcases (JsMap.mem_entries_set _ _ _ _ _).mp hx with ⟨hkey, rfl⟩ | ⟨hkey, hx⟩ <;>
    rcases (JsMap.mem_entries_set _ _ _ _ _).mp hy with ⟨hkey', rfl⟩ | ⟨hkey', hy⟩
  · exact Same.of_perm (List.Perm.swap _ _ []) (distinct_twoOptions hne)
  · exact absurd hkey hkey'
  · exact absurd hkey' hkey
  · rw [Json.value_unique (JsMap.nodup _) hx hy]
    exact .refl ((pluginEntry second first hne.symm).distinct (key, y)
      ((JsMap.mem_entries_set _ _ _ _ _).mpr (.inr ⟨hkey, hy⟩)))

/-- Equal options have two texts where their keys are on a par. -/
theorem pluginEntry_not_stable {first second : String} (hne : first ≠ second)
    {localeCompare : String → String → Int} (h : localeCompare first second ≤ 0)
    (h' : localeCompare second first ≤ 0) (hfirst : Json.isArrayIndex first = false)
    (hsecond : Json.isArrayIndex second = false) {number : Rat → List Char} (hnumber : NumberText number) :
    ¬ StableTexts localeCompare number [pluginEntry first second hne] [pluginEntry second first hne.symm] := by
  have hmem : ∀ {left right : String} (hdiff : left ≠ right),
      ("options", twoOptions left right) ∈ (pluginEntry left right hdiff).record.entries :=
    fun hdiff => (JsMap.mem_entries_set _ _ _ _ _).mpr (.inl ⟨rfl, rfl⟩)
  intro hstable
  have htext := hstable.common _ (List.mem_singleton_self _) _ (List.mem_singleton_self _) rfl
    (same_pluginEntry hne)
  have hsorted := Json.stringify_injective hnumber (Option.some.inj htext)
  exact Json.sortValue_ne_of_par hfirst hsecond hne h h' _ _
    (Json.sortValue_field (JsMap.nodup _) hsorted (hmem hne) (hmem hne.symm))

/-- The name of an inherited member stops the diff, a policy is reported as missing, and equal
options in another order are reported as modified. -/
theorem diff_not_exact :
    (¬ ∃ diff, diffOutboundConfigs Json.caseCompare Json.quotientChars [] [directEntry "constructor"]
        (some (routeTo "constructor" [])) = .ok diff ∧
      ExactPartition [] [directEntry "constructor"] (routeTo "constructor" []) diff) ∧
    (¬ ∃ diff, diffOutboundConfigs Json.caseCompare Json.quotientChars [] [directEntry "direct"]
        (some (routeTo "backup" [failoverPolicy "backup" ["direct"]])) = .ok diff ∧
      ExactPartition [] [directEntry "direct"]
        (routeTo "backup" [failoverPolicy "backup" ["direct"]]) diff) ∧
    ¬ ∃ diff, diffOutboundConfigs softCompare Json.quotientChars
        [pluginEntry "ttl" "t\u00adtl" (by decide)] [pluginEntry "t\u00adtl" "ttl" (by decide)]
        (some (routeTo "cache" [])) = .ok diff ∧
      ExactPartition [pluginEntry "ttl" "t\u00adtl" (by decide)] [pluginEntry "t\u00adtl" "ttl" (by decide)]
        (routeTo "cache" []) diff := by
  refine ⟨?_, ?_, ?_⟩
  · rintro ⟨diff, hdiff, -⟩
    cases hdiff
  · rintro ⟨diff, hdiff, hexact⟩
    have hreferences : policyReferences [directEntry "direct"]
        (some (routeTo "backup" [failoverPolicy "backup" ["direct"]])) =
        .ok (((∅ : JsMap String (List String)).set "backup" ["default"]).set "direct" ["policy:backup"]) := rfl
    obtain ⟨diff', hdiff', hlist⟩ := @diff_of_references Json.caseCompare Json.quotientChars [] _ _ _ hreferences
    rw [hdiff] at hdiff'
    cases hdiff'
    have hlisted : "backup" ∈ diff.missingPolicyReferences := by
      rw [hlist, List.mem_filter, mem_referenceKeys]
      exact ⟨by decide, by decide⟩
    exact ((hexact.missing "backup").mp hlisted).2.2 List.mem_cons_self
  · rintro ⟨diff, hdiff, hexact⟩
    have honce : ∀ entry : TypedOutbound, ([entry].map (·.tag)).Nodup := fun _ => List.nodup_singleton _
    have hstable := (exactPartition_iff Json.quotientChars_spec (honce _) (honce _) hdiff hexact.missing
      hexact.missingOnce).mp hexact
    have hindex : ∀ {key : String}, 't' ∈ key.toList → Json.isArrayIndex key = false :=
      fun hmem => Json.isArrayIndex_eq_false hmem (by decide)
    exact pluginEntry_not_stable (by decide) (by decide +kernel) (by decide +kernel)
      (hindex (by decide)) (hindex (by decide)) Json.quotientChars_spec hstable

end Sepigs
