import Sepigs.Outbound.GenerationBuilder

/-!
# The greedy renaming

Every outbound is used at most once, and no two of one text are left.  So of every text as
many are left as there are more on that side.
-/

namespace Sepigs

open Json (Same NumberText)

/-! ## Texts -/

theorem type_mem_content (config : TypedOutbound) : ("type", .string config.type) ∈
    (config.record.delete "tag").entries := by
  rw [JsMap.mem_entries_delete]
  exact ⟨by decide, (JsMap.get_eq_some_iff _ _ _).mp config.typed⟩

theorem type_eq_of_same {old new : TypedOutbound} (h : Same old.content new.content) :
    old.type = new.type :=
  (Json.Same.value h (type_mem_content old) (type_mem_content new)).string

/-! ## Pairs -/

section Pairs

variable {γ α β : Type} {pairs : List γ} {left : γ → α} {right : γ → β} {xs : List α} {ys : List β}

/-- Pairs that use all of the one list need as many of the other. -/
theorem length_le_of_paired (honce : xs.Nodup) (hcover : xs ⊆ pairs.map left)
    (hright : (pairs.map right).Nodup) (hpair : ∀ pair ∈ pairs, left pair ∈ xs → right pair ∈ ys) :
    xs.length ≤ ys.length := by
  classical
  have hxs : xs.length ≤ ((pairs.filter fun pair => left pair ∈ xs).map left).length := by
    refine List.Nodup.length_le_of_subset honce fun x hx => ?_
    obtain ⟨pair, hmem, rfl⟩ := List.mem_map.mp (hcover hx)
    exact List.mem_map.mpr ⟨pair, List.mem_filter.mpr ⟨hmem, decide_eq_true hx⟩, rfl⟩
  have hys : ((pairs.filter fun pair => left pair ∈ xs).map right).length ≤ ys.length := by
    refine List.Nodup.length_le_of_subset (hright.sublist (List.filter_sublist.map _)) ?_
    intro y hy
    obtain ⟨pair, hmem, rfl⟩ := List.mem_map.mp hy
    obtain ⟨hmem, hleft⟩ := List.mem_filter.mp hmem
    exact hpair pair hmem (of_decide_eq_true hleft)
  rw [List.length_map] at hxs hys
  exact hxs.trans hys

/-- Where no two are left unpaired, one of the longer list is. -/
theorem exists_unpaired_iff (hxs : xs.Nodup) (hys : ys.Nodup) (hleft : (pairs.map left).Nodup)
    (hright : (pairs.map right).Nodup) (hpair : ∀ pair ∈ pairs, left pair ∈ xs ↔ right pair ∈ ys)
    (hmost : ∀ x ∈ xs, x ∉ pairs.map left → ∀ y ∈ ys, y ∈ pairs.map right) :
    (∃ x ∈ xs, x ∉ pairs.map left) ↔ ys.length < xs.length := by
  classical
  constructor
  · rintro ⟨x, hx, hfree⟩
    have hle : ys.length ≤ (xs.erase x).length := by
      refine length_le_of_paired hys (fun y hy => hmost x hx hfree y hy) hleft fun pair hmem hy => ?_
      refine (List.mem_erase_of_ne ?_).mpr ((hpair pair hmem).mpr hy)
      rintro rfl
      exact hfree (List.mem_map.mpr ⟨pair, hmem, rfl⟩)
    have hpos := List.length_pos_of_mem hx
    rw [List.length_erase_of_mem hx] at hle
    omega
  · intro hlt
    by_contra hnone
    have hcover : xs ⊆ pairs.map left := by
      intro x hx
      by_contra hfree
      exact hnone ⟨x, hx, hfree⟩
    have hle := length_le_of_paired hxs hcover hright fun pair hmem => (hpair pair hmem).mp
    omega

end Pairs

/-! ## The greedy renaming -/

section Texts

variable {localeCompare : String → String → Int} {number : Rat → List Char}

/-- The names of a renaming are the consumed ones, and what is left matches nowhere. -/
structure Renamed (localeCompare : String → String → Int) (number : Rat → List Char)
    (olds added : List TypedOutbound) (s : Renaming) : Prop where
  tos : s.renamed.map OutboundRename.toTag = s.consumedAdded.reverse
  froms : s.renamed.map OutboundRename.fromTag = s.consumedRemoved.reverse
  toOnce : s.consumedAdded.Nodup
  fromOnce : (olds.map (·.tag)).Nodup → s.consumedRemoved.Nodup
  paired : ∀ rename ∈ s.renamed, ∃ old ∈ olds, ∃ new ∈ added, old.tag = rename.fromTag ∧
    new.tag = rename.toTag ∧ new.type = rename.type ∧
    untaggedText localeCompare number new.toParsedOutbound =
      untaggedText localeCompare number old.toParsedOutbound
  unpaired : ∀ old ∈ olds, old.tag ∉ s.consumedRemoved → ∀ new ∈ added, new.tag ∉ s.consumedAdded →
    new.type = old.type →
    untaggedText localeCompare number new.toParsedOutbound ≠
      untaggedText localeCompare number old.toParsedOutbound

theorem renamed_nil (added : List TypedOutbound) :
    Renamed localeCompare number [] added ⟨[], [], []⟩ where
  tos := rfl
  froms := rfl
  toOnce := List.nodup_nil
  fromOnce _ := List.nodup_nil
  paired _ hmem := absurd hmem List.not_mem_nil
  unpaired _ hmem := absurd hmem List.not_mem_nil

theorem Renamed.consumedAdded_subset {olds added : List TypedOutbound} {s : Renaming}
    (h : Renamed localeCompare number olds added s) : ∀ tag ∈ s.consumedAdded, tag ∈ added.map (·.tag) := by
  intro tag htag
  rw [← List.mem_reverse, ← h.tos] at htag
  obtain ⟨rename, hrename, rfl⟩ := List.mem_map.mp htag
  obtain ⟨old, -, new, hnew, -, hto, -⟩ := h.paired rename hrename
  exact List.mem_map.mpr ⟨new, hnew, hto⟩

theorem Renamed.consumedRemoved_subset {olds added : List TypedOutbound} {s : Renaming}
    (h : Renamed localeCompare number olds added s) : ∀ tag ∈ s.consumedRemoved, tag ∈ olds.map (·.tag) := by
  intro tag htag
  rw [← List.mem_reverse, ← h.froms] at htag
  obtain ⟨rename, hrename, rfl⟩ := List.mem_map.mp htag
  obtain ⟨old, hold, -, -, hfrom, -⟩ := h.paired rename hrename
  exact List.mem_map.mpr ⟨old, hold, hfrom⟩

theorem Renamed.step {olds added : List TypedOutbound} {s : Renaming} (old : TypedOutbound)
    (h : Renamed localeCompare number olds added s) :
    Renamed localeCompare number (olds ++ [old]) added (renameStep localeCompare number added s old) := by
  unfold renameStep
  dsimp only
  split
  · next hnone =>
    refine ⟨h.tos, h.froms, h.toOnce, ?_, ?_, ?_⟩
    · intro hnodup
      rw [List.map_append] at hnodup
      exact h.fromOnce hnodup.of_append_left
    · intro rename hrename
      obtain ⟨old', hold', hnew⟩ := h.paired rename hrename
      exact ⟨old', List.mem_append_left _ hold', hnew⟩
    · intro old' hold' hleft new hnew hfree htype htext
      rcases List.mem_append.mp hold' with hold' | hold'
      · exact h.unpaired old' hold' hleft new hnew hfree htype htext
      · rw [List.mem_singleton.mp hold'] at htype htext
        have hnot := List.find?_eq_none.mp hnone new hnew
        simp [hfree, htype, htext] at hnot
  · next replacement hfind =>
    have hmem := List.mem_of_find?_eq_some hfind
    have hmatch := List.find?_some hfind
    simp only [Bool.and_eq_true, decide_eq_true_eq] at hmatch
    obtain ⟨⟨hfree, htype⟩, htext⟩ := hmatch
    refine ⟨?_, ?_, ?_, ?_, ?_, ?_⟩
    · rw [List.map_append, h.tos, List.reverse_cons]
      rfl
    · rw [List.map_append, h.froms, List.reverse_cons]
      rfl
    · exact List.nodup_cons.mpr ⟨hfree, h.toOnce⟩
    · intro hnodup
      rw [List.map_append, List.nodup_append] at hnodup
      refine List.nodup_cons.mpr ⟨?_, h.fromOnce hnodup.1⟩
      intro hconsumed
      exact hnodup.2.2 _ (h.consumedRemoved_subset _ hconsumed) old.tag List.mem_cons_self rfl
    · intro rename hrename
      rcases List.mem_append.mp hrename with hrename | hrename
      · obtain ⟨old', hold', hnew⟩ := h.paired rename hrename
        exact ⟨old', List.mem_append_left _ hold', hnew⟩
      · rw [List.mem_singleton.mp hrename]
        exact ⟨old, List.mem_append_right _ List.mem_cons_self, replacement, hmem, rfl, rfl, rfl, htext⟩
    · intro old' hold' hleft new hnew hfree'
      have hfree := fun hc => hfree' (List.mem_cons_of_mem replacement.tag hc)
      rcases List.mem_append.mp hold' with hold' | hold'
      · exact h.unpaired old' hold' (fun hc => hleft (List.mem_cons_of_mem old.tag hc)) new hnew hfree
      · rw [List.mem_singleton.mp hold'] at hleft
        exact absurd List.mem_cons_self hleft

theorem renamed_foldl (olds added : List TypedOutbound) :
    Renamed localeCompare number olds added
      (olds.foldl (renameStep localeCompare number added) ⟨[], [], []⟩) := by
  induction olds using List.reverseRecOn with
  | nil => exact renamed_nil added
  | append_singleton olds old ih =>
    rw [List.foldl_append]
    exact ih.step old

/-! ## How often a text is left -/

/-- How many outbounds have this text without their tag. -/
def textCount (localeCompare : String → String → Int) (number : Rat → List Char)
    (items : List TypedOutbound) (text : Option String) : Nat :=
  items.countP fun item => untaggedText localeCompare number item.toParsedOutbound = text

/-- The tags of the outbounds with this text. -/
def textTags (localeCompare : String → String → Int) (number : Rat → List Char)
    (items : List TypedOutbound) (text : Option String) : List String :=
  (items.filter fun item => untaggedText localeCompare number item.toParsedOutbound = text).map (·.tag)

theorem length_textTags (items : List TypedOutbound) (text : Option String) :
    (textTags localeCompare number items text).length = textCount localeCompare number items text := by
  unfold textTags textCount
  rw [List.length_map, List.countP_eq_length_filter]

theorem mem_textTags {items : List TypedOutbound} {text : Option String} {tag : String} :
    tag ∈ textTags localeCompare number items text ↔
      ∃ item ∈ items, item.tag = tag ∧ untaggedText localeCompare number item.toParsedOutbound = text := by
  unfold textTags
  rw [List.mem_map]
  constructor
  · rintro ⟨item, hmem, htag⟩
    obtain ⟨hitem, htext⟩ := List.mem_filter.mp hmem
    exact ⟨item, hitem, htag, of_decide_eq_true htext⟩
  · rintro ⟨item, hitem, htag, htext⟩
    exact ⟨item, List.mem_filter.mpr ⟨hitem, decide_eq_true htext⟩, htag⟩

theorem nodup_textTags {items : List TypedOutbound} (hnodup : (items.map (·.tag)).Nodup)
    (text : Option String) : (textTags localeCompare number items text).Nodup :=
  hnodup.sublist (List.filter_sublist.map _)

theorem content_same_of_text (hnumber : NumberText number) {v w : ParsedOutbound}
    (h : untaggedText localeCompare number v = untaggedText localeCompare number w) :
    Same v.content w.content :=
  Json.same_of_stableJson_eq hnumber v.distinct_content w.distinct_content (Option.some.inj h)

theorem whole_same_of_text (hnumber : NumberText number) {v w : ParsedOutbound}
    (h : stableOutboundJson localeCompare number v.whole = stableOutboundJson localeCompare number w.whole) :
    Same v.whole w.whole :=
  Json.same_of_stableJson_eq hnumber v.distinct_whole w.distinct_whole (Option.some.inj h)

section Counts

variable {olds added : List TypedOutbound} {s : Renaming}

theorem Renamed.nodup_froms (h : Renamed localeCompare number olds added s)
    (holds : (olds.map (·.tag)).Nodup) : (s.renamed.map OutboundRename.fromTag).Nodup := by
  rw [h.froms]
  exact List.nodup_reverse.mpr (h.fromOnce holds)

theorem Renamed.nodup_tos (h : Renamed localeCompare number olds added s) :
    (s.renamed.map OutboundRename.toTag).Nodup := by
  rw [h.tos]
  exact List.nodup_reverse.mpr h.toOnce

theorem Renamed.mem_froms (h : Renamed localeCompare number olds added s) (tag : String) :
    tag ∈ s.renamed.map OutboundRename.fromTag ↔ tag ∈ s.consumedRemoved := by
  rw [h.froms, List.mem_reverse]

theorem Renamed.mem_tos (h : Renamed localeCompare number olds added s) (tag : String) :
    tag ∈ s.renamed.map OutboundRename.toTag ↔ tag ∈ s.consumedAdded := by
  rw [h.tos, List.mem_reverse]

variable (hnumber : NumberText number) (h : Renamed localeCompare number olds added s)
  (holds : (olds.map (·.tag)).Nodup) (hadded : (added.map (·.tag)).Nodup)

include h holds hadded

/-- Both sides of a rename have one text. -/
theorem Renamed.pair_tags (text : Option String) : ∀ rename ∈ s.renamed,
    rename.fromTag ∈ textTags localeCompare number olds text ↔
      rename.toTag ∈ textTags localeCompare number added text := by
  intro rename hrename
  obtain ⟨old, hold, new, hnew, hfrom, hto, -, htext⟩ := h.paired rename hrename
  rw [mem_textTags, mem_textTags]
  constructor
  · rintro ⟨old', hold', htag, htext'⟩
    obtain rfl := List.inj_on_of_nodup_map holds hold' hold (htag.trans hfrom.symm)
    exact ⟨new, hnew, hto, htext.trans htext'⟩
  · rintro ⟨new', hnew', htag, htext'⟩
    obtain rfl := List.inj_on_of_nodup_map hadded hnew' hnew (htag.trans hto.symm)
    exact ⟨old, hold, hfrom, htext.symm.trans htext'⟩

include hnumber

omit holds hadded in
theorem Renamed.most {text : Option String} {fromTag toTag : String}
    (hfrom : fromTag ∈ textTags localeCompare number olds text) (hleft : fromTag ∉ s.consumedRemoved)
    (hto : toTag ∈ textTags localeCompare number added text) : toTag ∈ s.consumedAdded := by
  obtain ⟨old, hold, rfl, htext⟩ := mem_textTags.mp hfrom
  obtain ⟨new, hnew, rfl, htext'⟩ := mem_textTags.mp hto
  by_contra hfree
  have hsame := htext'.trans htext.symm
  exact h.unpaired old hold hleft new hnew hfree (type_eq_of_same (content_same_of_text hnumber hsame)) hsame

/-- A removed outbound of a text is left where fewer of this text were added. -/
theorem Renamed.left_iff (text : Option String) :
    (∃ old ∈ olds, untaggedText localeCompare number old.toParsedOutbound = text ∧
      old.tag ∉ s.consumedRemoved) ↔
    textCount localeCompare number added text < textCount localeCompare number olds text := by
  rw [← length_textTags, ← length_textTags, ← exists_unpaired_iff (nodup_textTags holds text)
    (nodup_textTags hadded text) (h.nodup_froms holds) h.nodup_tos (h.pair_tags holds hadded text)]
  · constructor
    · rintro ⟨old, hold, htext, hleft⟩
      exact ⟨old.tag, mem_textTags.mpr ⟨old, hold, rfl, htext⟩, fun hfrom => hleft ((h.mem_froms _).mp hfrom)⟩
    · rintro ⟨tag, htag, hleft⟩
      obtain ⟨old, hold, rfl, htext⟩ := mem_textTags.mp htag
      exact ⟨old, hold, htext, fun hconsumed => hleft ((h.mem_froms _).mpr hconsumed)⟩
  · intro tag htag hleft tag' htag'
    exact (h.mem_tos _).mpr (h.most hnumber htag (fun hfrom => hleft ((h.mem_froms _).mpr hfrom)) htag')

/-- An added outbound of a text is left where fewer of this text were removed. -/
theorem Renamed.free_iff (text : Option String) :
    (∃ new ∈ added, untaggedText localeCompare number new.toParsedOutbound = text ∧
      new.tag ∉ s.consumedAdded) ↔
    textCount localeCompare number olds text < textCount localeCompare number added text := by
  rw [← length_textTags, ← length_textTags, ← exists_unpaired_iff (nodup_textTags hadded text)
    (nodup_textTags holds text) h.nodup_tos (h.nodup_froms holds) fun rename hrename =>
      (h.pair_tags holds hadded text rename hrename).symm]
  · constructor
    · rintro ⟨new, hnew, htext, hfree⟩
      exact ⟨new.tag, mem_textTags.mpr ⟨new, hnew, rfl, htext⟩, fun hto => hfree ((h.mem_tos _).mp hto)⟩
    · rintro ⟨tag, htag, hfree⟩
      obtain ⟨new, hnew, rfl, htext⟩ := mem_textTags.mp htag
      exact ⟨new, hnew, htext, fun hconsumed => hfree ((h.mem_tos _).mpr hconsumed)⟩
  · intro tag htag hfree tag' htag'
    by_contra hleft
    exact hfree ((h.mem_tos _).mpr
      (h.most hnumber htag' (fun hfrom => hleft ((h.mem_froms _).mpr hfrom)) htag))

/-- No equal outbounds are left on both sides exactly when no text of theirs is left on each. -/
theorem Renamed.unmatched_iff :
    (∀ old ∈ olds, ∀ new ∈ added, old.tag ∉ s.consumedRemoved → new.tag ∉ s.consumedAdded →
      ¬ Same old.content new.content) ↔
    ∀ old ∈ olds, ∀ new ∈ added, Same old.content new.content →
      let text := fun item : TypedOutbound => untaggedText localeCompare number item.toParsedOutbound
      textCount localeCompare number olds (text old) ≤ textCount localeCompare number added (text old) ∨
        textCount localeCompare number added (text new) ≤ textCount localeCompare number olds (text new) := by
  constructor
  · intro hnone old hold new hnew hsame
    by_contra hmore
    obtain ⟨hold, hnew⟩ := not_or.mp hmore
    obtain ⟨old', hold', htext, hleft⟩ := (h.left_iff hnumber holds hadded _).mpr (Nat.lt_of_not_le hold)
    obtain ⟨new', hnew', htext', hfree⟩ := (h.free_iff hnumber holds hadded _).mpr (Nat.lt_of_not_le hnew)
    refine hnone old' hold' new' hnew' hleft hfree ?_
    exact ((content_same_of_text hnumber htext).trans hsame).trans (content_same_of_text hnumber htext'.symm)
  · intro hcounts old hold new hnew hleft hfree hsame
    have hmoreRemoved := (h.left_iff hnumber holds hadded _).mp ⟨old, hold, rfl, hleft⟩
    have hmoreAdded := (h.free_iff hnumber holds hadded _).mp ⟨new, hnew, rfl, hfree⟩
    rcases hcounts old hold new hnew hsame with hle | hle
    · exact absurd hmoreRemoved (Nat.not_lt_of_le hle)
    · exact absurd hmoreAdded (Nat.not_lt_of_le hle)

end Counts

end Texts

end Sepigs
