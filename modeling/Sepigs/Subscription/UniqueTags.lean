import Sepigs.Subscription.Normalize
import Mathlib.Data.List.Pairwise

/-!
# When the tags of a subscription are unique

A sanitized tag is its own sanitized tag, and two numbered tags are equal only if their
bases and numbers are.  What is left is a numbered tag that equals a sanitized one.
-/

namespace Sepigs

open Json (Same NumberText)
open Firsts (firsts firstsFrom)

/-! ## Sanitized tags -/

/-- The tags that `sanitizeTag` leaves alone. -/
structure CleanTag (cs : List Char) : Prop where
  nonempty : cs ≠ []
  chars : ∀ c ∈ cs, isTagChar c = true
  first : ∀ c ∈ cs.head?, c ≠ '-'
  last : ∀ c ∈ cs.getLast?, c ≠ '-'

theorem replaceRuns_chars (cs : List Char) (inRun : Bool) :
    ∀ c ∈ replaceRuns inRun cs, isTagChar c = true := by
  induction cs generalizing inRun with
  | nil =>
    intro c hc
    cases hc
  | cons d cs ih =>
    intro c hc
    unfold replaceRuns at hc
    split at hc
    · next hd =>
      rcases List.mem_cons.mp hc with rfl | hc
      · exact hd
      · exact ih false c hc
    · split at hc
      · exact ih true c hc
      · rcases List.mem_cons.mp hc with rfl | hc
        · rfl
        · exact ih true c hc

theorem replaceRuns_of_chars (cs : List Char) (inRun : Bool) (h : ∀ c ∈ cs, isTagChar c = true) :
    replaceRuns inRun cs = cs := by
  induction cs generalizing inRun with
  | nil => rfl
  | cons c cs ih =>
    unfold replaceRuns
    rw [if_pos (h c List.mem_cons_self), ih false fun d hd => h d (List.mem_cons_of_mem c hd)]

theorem mem_of_mem_stripHyphens {cs : List Char} {c : Char} (h : c ∈ stripHyphens cs) : c ∈ cs :=
  (List.dropWhile_sublist _).subset ((List.rdropWhile_prefix _ _).subset h)

/-- The hyphens at the start are gone before those at the end. -/
theorem stripHyphens_head (cs : List Char) : ∀ c ∈ (stripHyphens cs).head?, c ≠ '-' := by
  intro c hc heq
  obtain ⟨rest, hrest⟩ := List.rdropWhile_prefix (fun c : Char => decide (c = '-'))
    (l := cs.dropWhile (· = '-'))
  have hhead : (cs.dropWhile (· = '-')).head? = some c := by
    rw [← hrest, List.head?_append, show (List.rdropWhile _ _).head? = some c from hc]
    rfl
  have hnot := List.head?_dropWhile_not (fun c : Char => decide (c = '-')) cs
  rw [hhead] at hnot
  exact of_decide_eq_false hnot heq

theorem stripHyphens_last (cs : List Char) : ∀ c ∈ (stripHyphens cs).getLast?, c ≠ '-' := by
  intro c hc heq
  have hne : stripHyphens cs ≠ [] := by
    intro hnil
    rw [hnil] at hc
    cases hc
  have hlast := List.rdropWhile_last_not _ _ hne
  rw [List.getLast?_eq_some_getLast hne] at hc
  obtain rfl := Option.some.inj hc
  exact hlast (decide_eq_true heq)

theorem stripHyphens_of_clean {cs : List Char} (h : CleanTag cs) : stripHyphens cs = cs := by
  have hfirst : cs.dropWhile (· = '-') = cs := by
    rw [List.dropWhile_eq_self_iff]
    intro hpos
    have hhead : cs.head? = some cs[0] := List.head?_eq_getElem?.trans (List.getElem?_eq_getElem hpos)
    simpa using h.first _ hhead
  unfold stripHyphens
  rw [hfirst, List.rdropWhile_eq_self_iff]
  intro hne
  have hlast := h.last _ (List.getLast?_eq_some_getLast hne)
  simpa using hlast

theorem isWhitespace_of_tagChar {c : Char} (h : isTagChar c = true) :
    JsString.isWhitespace c = false := by
  have hbounds : 45 ≤ c.toNat ∧ c.toNat ≤ 122 := by
    unfold isTagChar at h
    simp only [Bool.or_eq_true, decide_eq_true_eq] at h
    rcases h with ((h | rfl) | rfl) | rfl
    · have halphanum := JsString.alphanum_bounds h
      omega
    · decide
    · decide
    · decide
  unfold JsString.isWhitespace
  simp only [Bool.or_eq_false_iff, Bool.and_eq_false_iff, decide_eq_false_iff_not]
  omega

theorem sanitizeTag_clean (value : String) : CleanTag (sanitizeTag value).toList := by
  unfold sanitizeTag
  split
  · refine ⟨by decide, JsString.forall_of_all (by decide), fun c hc => ?_, fun c hc => ?_⟩
    · have hfirst : "outbound".toList.head? = some 'o' := rfl
      obtain rfl := Option.some.inj (hfirst.symm.trans hc)
      decide
    · have hlast : "outbound".toList.getLast? = some 'd' := rfl
      obtain rfl := Option.some.inj (hlast.symm.trans hc)
      decide
  · next c cs heq =>
    rw [String.toList_ofList, ← heq]
    refine ⟨?_, ?_, stripHyphens_head _, stripHyphens_last _⟩
    · rw [heq]
      exact List.cons_ne_nil c cs
    · intro d hd
      exact replaceRuns_chars _ false d (mem_of_mem_stripHyphens hd)

theorem sanitizeTag_of_clean {tag : String} (h : CleanTag tag.toList) : sanitizeTag tag = tag := by
  have htrim : JsString.trim tag = tag :=
    JsString.trim_of_plain fun c hc => isWhitespace_of_tagChar (h.chars c hc)
  unfold sanitizeTag
  rw [htrim, replaceRuns_of_chars _ _ h.chars, stripHyphens_of_clean h]
  split
  · next hnil => exact absurd hnil h.nonempty
  · next c cs heq => rw [← heq, String.ofList_toList]

/-! ## Numbered tags -/

theorem toList_suffixed (base : String) (count : Nat) :
    (s!"{base}-{count}").toList = base.toList ++ '-' :: (toString count).toList := by
  simp [toString]

theorem numberedTag_one (base : String) : numberedTag base 1 = base := if_pos rfl

theorem numberedTag_of_two_le {count : Nat} (h : 2 ≤ count) (base : String) :
    numberedTag base count = s!"{base}-{count}" := if_neg (by omega)

/-- The last hyphen of a numbered tag is before its number. -/
theorem suffixed_injective {base other : String} {count number : Nat}
    (h : s!"{base}-{count}" = s!"{other}-{number}") : base = other ∧ count = number := by
  have hlist := congrArg (fun tag => tag.toList.reverse) h
  simp only [toList_suffixed, List.reverse_append, List.reverse_cons, List.append_assoc,
    List.singleton_append] at hlist
  have hplain : ∀ n : Nat, ∀ c ∈ (toString n).toList.reverse, decide (c = '-') = false := by
    rintro n c hc
    refine decide_eq_false ?_
    rintro rfl
    exact JsString.notMem_toString_of_not_isDigit rfl n (List.mem_reverse.mp hc)
  have hstop : ∀ cs : List Char, ∀ c ∈ ('-' :: cs).head?, decide (c = '-') = true := by
    rintro cs c ⟨⟩
    rfl
  obtain ⟨hcount, hbase⟩ := Json.append_inj_of_stop (hplain count) (hplain number) (hstop _) (hstop _)
    hlist
  constructor
  · exact String.toList_injective (List.reverse_injective (List.cons.inj hbase).2)
  · exact JsString.toString_injective (String.toList_injective (List.reverse_injective hcount))

theorem numberedTag_clean {base : String} (h : CleanTag base.toList) (count : Nat) :
    CleanTag (numberedTag base count).toList := by
  unfold numberedTag
  split
  · exact h
  · have hdigit : ∀ c ∈ (toString count).toList, c.isDigit = true := by
      intro c hc
      by_contra hnot
      exact JsString.notMem_toString_of_not_isDigit (Bool.eq_false_iff.mpr hnot) count hc
    rw [toList_suffixed]
    refine ⟨List.append_ne_nil_of_left_ne_nil h.nonempty _, ?_, ?_, ?_⟩
    · intro c hc
      rcases List.mem_append.mp hc with hc | hc
      · exact h.chars c hc
      · rcases List.mem_cons.mp hc with rfl | hc
        · rfl
        · unfold isTagChar Char.isAlphanum
          rw [hdigit c hc]
          simp
    · intro c hc
      rw [List.head?_append_of_ne_nil _ h.nonempty] at hc
      exact h.first c hc
    · intro c hc
      have hne : (toString count).toList ≠ [] := by
        show (Nat.repr count).toList ≠ []
        rw [Nat.toList_repr]
        exact Nat.toDigits_ne_nil
      rw [List.getLast?_append_of_ne_nil _ (List.cons_ne_nil _ _), List.getLast?_cons_of_ne_nil hne] at hc
      rintro rfl
      exact absurd (hdigit '-' (List.mem_of_getLast? hc)) (by decide)

/-- Each base with its number, after the bases that were seen. -/
def numbering (seen : List String) : List String → List (String × Nat)
  | [] => []
  | base :: rest => (base, seen.count base + 1) :: numbering (base :: seen) rest

theorem mem_numbering (names : List String) (seen : List String) (base : String) (count : Nat) :
    (base, count) ∈ numbering seen names ↔
      seen.count base < count ∧ count ≤ seen.count base + names.count base := by
  induction names generalizing seen with
  | nil =>
    simp only [numbering, List.not_mem_nil, List.count_nil, false_iff]
    omega
  | cons name rest ih =>
    rw [numbering, List.mem_cons, ih, Prod.mk.injEq]
    by_cases hname : base = name
    · subst hname
      simp only [List.count_cons_self, true_and]
      omega
    · rw [List.count_cons_of_ne (Ne.symm hname), List.count_cons_of_ne (Ne.symm hname)]
      simp [hname]

theorem nodup_numbering (names : List String) (seen : List String) : (numbering seen names).Nodup := by
  induction names generalizing seen with
  | nil => exact List.nodup_nil
  | cons name rest ih =>
    rw [numbering, List.nodup_cons]
    refine ⟨?_, ih (name :: seen)⟩
    rw [mem_numbering, List.count_cons_self]
    omega

/-- Tags are distinct unless a number makes one of the bases. -/
theorem nodup_numberedTags (names : List String) :
    ((numbering [] names).map fun entry => numberedTag entry.1 entry.2).Nodup ↔
      ∀ base count, 2 ≤ count → count ≤ names.count base → s!"{base}-{count}" ∉ names := by
  rw [List.nodup_map_iff_inj_on (nodup_numbering names [])]
  have hmem : ∀ base count, (base, count) ∈ numbering [] names ↔
      0 < count ∧ count ≤ names.count base := by
    intro base count
    rw [mem_numbering, List.count_nil, Nat.zero_add]
  constructor
  · intro h base count htwo hle hclash
    have hnumbered := (hmem base count).mpr ⟨by omega, hle⟩
    have hplain := (hmem s!"{base}-{count}" 1).mpr ⟨by omega, List.count_pos_iff.mpr hclash⟩
    have heq := h _ hnumbered _ hplain (by
      rw [numberedTag_of_two_le htwo, numberedTag_one])
    have hone : count = 1 := congrArg Prod.snd heq
    omega
  · rintro h ⟨base, count⟩ hentry ⟨base', count'⟩ hentry' heq
    obtain ⟨hpos, hle⟩ := (hmem base count).mp hentry
    obtain ⟨hpos', hle'⟩ := (hmem base' count').mp hentry'
    dsimp only at heq
    by_cases hone : count = 1
    · subst hone
      rw [numberedTag_one] at heq
      by_cases hone' : count' = 1
      · subst hone'
        rw [numberedTag_one] at heq
        rw [heq]
      · rw [numberedTag_of_two_le (by omega)] at heq
        exact absurd (heq ▸ List.count_pos_iff.mp hle) (h base' count' (by omega) hle')
    · rw [numberedTag_of_two_le (by omega)] at heq
      by_cases hone' : count' = 1
      · subst hone'
        rw [numberedTag_one] at heq
        exact absurd (heq ▸ List.count_pos_iff.mp hle') (h base count (by omega) hle)
      · rw [numberedTag_of_two_le (by omega)] at heq
        obtain ⟨rfl, rfl⟩ := suffixed_injective heq
        rfl

/-! ## The loop -/

namespace ParsedOutbound

theorem fingerprint_eq_iff {number : Rat → List Char} (hnumber : NumberText number)
    (v w : ParsedOutbound) : v.fingerprint number = w.fingerprint number ↔ v.content = w.content :=
  (Json.stringify_injective hnumber).eq_iff

/-- What the tag of an outbound starts from. -/
def base (value : ParsedOutbound) : String := sanitizeTag value.tag

end ParsedOutbound

/-- The texts of the contents are equal. -/
def SameText (v w : ParsedOutbound) : Prop := v.content = w.content

/-- Every outbound with the number of its base. -/
def retagged (seen : List String) : List ParsedOutbound → List ParsedOutbound
  | [] => []
  | value :: rest =>
    value.retag (numberedTag value.base (seen.count value.base + 1)) ::
      retagged (value.base :: seen) rest

theorem tags_retagged (values : List ParsedOutbound) (seen : List String) :
    (retagged seen values).map ParsedOutbound.tag =
      (numbering seen (values.map ParsedOutbound.base)).map fun entry =>
        numberedTag entry.1 entry.2 := by
  induction values generalizing seen with
  | nil => rfl
  | cons value rest ih =>
    rw [retagged, List.map_cons, ih, List.map_cons, numbering, List.map_cons,
      ParsedOutbound.tag_retag]

theorem contents_retagged (values : List ParsedOutbound) (seen : List String) :
    (retagged seen values).map ParsedOutbound.content = values.map ParsedOutbound.content := by
  induction values generalizing seen with
  | nil => rfl
  | cons value rest ih => rw [retagged, List.map_cons, List.map_cons, ih, value.content_retag]

theorem retagged_kept (values : List ParsedOutbound) (seen : List String) :
    List.Forall₂ (fun value outbound => outbound = value.retag outbound.tag) values
      (retagged seen values) := by
  induction values generalizing seen with
  | nil => exact List.Forall₂.nil
  | cons value rest ih => exact List.Forall₂.cons rfl (ih _)

theorem retagged_clean (values : List ParsedOutbound) (seen : List String) :
    ∀ outbound ∈ retagged seen values, CleanTag outbound.tag.toList := by
  induction values generalizing seen with
  | nil =>
    intro outbound hmem
    cases hmem
  | cons value rest ih =>
    intro outbound hmem
    rcases List.mem_cons.mp hmem with rfl | hmem
    · exact numberedTag_clean (sanitizeTag_clean value.tag) _
    · exact ih _ outbound hmem

/-- Clean tags that are distinct and new stay. -/
theorem retagged_eq_self (values : List ParsedOutbound) (seen : List String)
    (hclean : ∀ value ∈ values, CleanTag value.tag.toList)
    (hseen : ∀ value ∈ values, value.tag ∉ seen)
    (hnodup : (values.map ParsedOutbound.tag).Nodup) : retagged seen values = values := by
  induction values generalizing seen with
  | nil => rfl
  | cons value rest ih =>
    rw [List.map_cons, List.nodup_cons] at hnodup
    have hbase : value.base = value.tag := sanitizeTag_of_clean (hclean value List.mem_cons_self)
    rw [retagged, hbase, List.count_eq_zero.mpr (hseen value List.mem_cons_self), numberedTag_one,
      value.retag_self, ih _ (fun v hv => hclean v (List.mem_cons_of_mem value hv)) ?_ hnodup.2]
    intro v hv hmem
    rcases List.mem_cons.mp hmem with heq | hmem
    · exact hnodup.1 (List.mem_map.mpr ⟨v, hv, heq⟩)
    · exact hseen v (List.mem_cons_of_mem value hv) hmem

section Loop

variable {number : Rat → List Char} (hnumber : NumberText number)

include hnumber

/-- The sets of the loop are about the outbounds that it kept. -/
theorem loop_output (values : List ParsedOutbound) (s : Normalizing) (seen : List ParsedOutbound)
    (hprints : ∀ v : ParsedOutbound, v.fingerprint number ∈ s.fingerprints ↔ ∃ y ∈ seen, SameText y v)
    (htags : ∀ name, (s.tags.get name).getD 0 = (seen.map ParsedOutbound.base).count name) :
    (values.foldl (normalizeOutbound number) s).output =
      s.output ++ retagged (seen.map ParsedOutbound.base) (firstsFrom SameText seen values) := by
  induction values generalizing s seen with
  | nil => exact (List.append_nil _).symm
  | cons value rest ih =>
    rw [List.foldl_cons]
    by_cases hseen : ∃ y ∈ seen, SameText y value
    · have hstep : normalizeOutbound number s value = s := if_pos ((hprints value).mpr hseen)
      rw [hstep, Firsts.firstsFrom_cons_of_same hseen]
      exact ih s seen hprints htags
    · have hnew : value.fingerprint number ∉ s.fingerprints := fun hmem =>
        hseen ((hprints value).mp hmem)
      have hstep : normalizeOutbound number s value =
          ⟨value.fingerprint number :: s.fingerprints,
            s.tags.set value.base ((seen.map ParsedOutbound.base).count value.base + 1),
            s.output ++ [value.retag (numberedTag value.base
              ((seen.map ParsedOutbound.base).count value.base + 1))]⟩ := by
        rw [← htags value.base]
        exact if_neg hnew
      rw [hstep, Firsts.firstsFrom_cons_of_new hseen, ih _ (value :: seen) ?_ ?_]
      · rw [List.append_assoc]
        rfl
      · intro v
        rw [List.mem_cons, hprints v, ParsedOutbound.fingerprint_eq_iff hnumber]
        constructor
        · rintro (heq | ⟨y, hy, hsame⟩)
          · exact ⟨value, List.mem_cons_self, heq.symm⟩
          · exact ⟨y, List.mem_cons_of_mem value hy, hsame⟩
        · rintro ⟨y, hy, hsame⟩
          rcases List.mem_cons.mp hy with rfl | hy
          · exact .inl hsame.symm
          · exact .inr ⟨y, hy, hsame⟩
      · intro name
        rw [JsMap.get_set, List.map_cons]
        by_cases hname : name = value.base
        · rw [if_pos hname, hname, List.count_cons_self]
          rfl
        · rw [if_neg hname, htags name, List.count_cons_of_ne (Ne.symm hname)]

theorem normalizeOutbounds_eq (values : List ParsedOutbound) :
    normalizeOutbounds number values = retagged [] (firsts SameText values) := by
  refine loop_output hnumber values ⟨[], ∅, []⟩ [] ?_ ?_
  · intro v
    simp
  · intro name
    rfl

end Loop

/-! ## Contents -/

theorem sameContent_refl (v : ParsedOutbound) : SameContent v v := Same.refl v.distinct_content

instance : Std.Symm fun v w : ParsedOutbound => ¬ SameContent v w where
  symm _ _ h hsame := h (Same.symm hsame)

theorem OneOrder.firsts_eq {values : List ParsedOutbound} (h : OneOrder values) :
    firsts SameContent values = firsts SameText values := by
  apply Firsts.firsts_congr
  intro v hv w hw
  constructor
  · exact h v hv w hw
  · intro htext
    show Same v.content w.content
    rw [show v.content = w.content from htext]
    exact sameContent_refl w

theorem contents_of_kept {values output : List ParsedOutbound}
    (h : List.Forall₂ (fun value outbound => outbound = value.retag outbound.tag) values output) :
    output.map ParsedOutbound.content = values.map ParsedOutbound.content := by
  induction h with
  | nil => rfl
  | cons hhead _ ih => rw [List.map_cons, List.map_cons, ih, hhead, ParsedOutbound.content_retag]

/-- If one outbound of each content is kept, no content is written in two ways. -/
theorem oneOrder_of_contents {values : List ParsedOutbound}
    (h : (firsts SameText values).map ParsedOutbound.content =
      (firsts SameContent values).map ParsedOutbound.content) : OneOrder values := by
  have hfind : ∀ v ∈ values, ∃ w ∈ firsts SameContent values, w.content = v.content := by
    intro v hv
    obtain ⟨y, hy, -⟩ | ⟨y, hy, htext⟩ := @Firsts.exists_same _ SameText (fun _ => rfl) values [] v hv
    · cases hy
    · have hmem : v.content ∈ (firsts SameText values).map ParsedOutbound.content :=
        List.mem_map.mpr ⟨y, hy, htext⟩
      rw [h] at hmem
      exact List.mem_map.mp hmem
  intro v hv w hw hsame
  obtain ⟨v', hv', hcontent⟩ := hfind v hv
  obtain ⟨w', hw', hcontent'⟩ := hfind w hw
  by_contra hne
  have hdiff : v' ≠ w' := by
    rintro rfl
    exact hne (hcontent.symm.trans hcontent')
  have hpairs := @Firsts.pairwise_firstsFrom _ SameContent values []
  apply hpairs.forall hv' hw' hdiff
  show Same v'.content w'.content
  rw [hcontent, hcontent']
  exact hsame

section Unique

variable {number : Rat → List Char} (hnumber : NumberText number)

include hnumber

theorem nodup_tags_iff (values : List ParsedOutbound) (h : OneOrder values) :
    ((normalizeOutbounds number values).map ParsedOutbound.tag).Nodup ↔ SuffixesFree values := by
  rw [normalizeOutbounds_eq hnumber, tags_retagged, nodup_numberedTags, ← h.firsts_eq]
  rfl

theorem normalizeOutbounds_idempotent (values : List ParsedOutbound)
    (h : ((normalizeOutbounds number values).map ParsedOutbound.tag).Nodup) :
    normalizeOutbounds number (normalizeOutbounds number values) = normalizeOutbounds number values := by
  have hout := normalizeOutbounds_eq hnumber values
  have hcontents : (retagged [] (firsts SameText values)).Pairwise fun v w => ¬ SameText v w := by
    have hpairs := @Firsts.pairwise_firstsFrom _ SameText values []
    have hmap : ((firsts SameText values).map ParsedOutbound.content).Pairwise (· ≠ ·) :=
      List.pairwise_map.mpr hpairs
    rw [← contents_retagged _ []] at hmap
    exact List.pairwise_map.mp hmap
  rw [hout] at h ⊢
  rw [normalizeOutbounds_eq hnumber, Firsts.firsts, Firsts.firstsFrom_eq_self _ [] _ hcontents]
  · exact retagged_eq_self _ [] (retagged_clean _ []) (fun _ _ => List.not_mem_nil) h
  · intro v _ w hw
    cases hw

/-- Outbounds are normalized exactly when each content is written in one way and no number
makes a tag that is there. -/
theorem normalizeOutbounds_unique_iff (values : List ParsedOutbound) :
    (Normalized values (normalizeOutbounds number values) ∧
      normalizeOutbounds number (normalizeOutbounds number values) =
        normalizeOutbounds number values) ↔
      OneOrder values ∧ SuffixesFree values := by
  have hkept : List.Forall₂ (fun value outbound => outbound = value.retag outbound.tag)
      (firsts SameText values) (normalizeOutbounds number values) := by
    rw [normalizeOutbounds_eq hnumber]
    exact retagged_kept _ []
  constructor
  · rintro ⟨hnormalized, -⟩
    have horder : OneOrder values := by
      apply oneOrder_of_contents
      rw [← contents_of_kept hkept, contents_of_kept hnormalized.kept]
    exact ⟨horder, (nodup_tags_iff hnumber values horder).mp hnormalized.distinct⟩
  · rintro ⟨horder, hfree⟩
    have hnodup := (nodup_tags_iff hnumber values horder).mpr hfree
    refine ⟨⟨hnodup, ?_, ?_⟩, normalizeOutbounds_idempotent hnumber values hnodup⟩
    · intro outbound hmem hempty
      rw [normalizeOutbounds_eq hnumber] at hmem
      have hclean := retagged_clean _ _ outbound hmem
      rw [hempty] at hclean
      exact hclean.nonempty rfl
    · rw [horder.firsts_eq]
      exact hkept

end Unique

/-! ## A numbered tag that is taken -/

theorem normalizeOutbounds_unique_iff_pair :
    NumberText Json.quotientChars ∧
      ((Normalized [directOutbound "a" 1, directOutbound "a" 2]
          (normalizeOutbounds Json.quotientChars [directOutbound "a" 1, directOutbound "a" 2]) ∧
        normalizeOutbounds Json.quotientChars
          (normalizeOutbounds Json.quotientChars [directOutbound "a" 1, directOutbound "a" 2]) =
          normalizeOutbounds Json.quotientChars [directOutbound "a" 1, directOutbound "a" 2]) ↔
        OneOrder [directOutbound "a" 1, directOutbound "a" 2] ∧ SuffixesFree [directOutbound "a" 1, directOutbound "a" 2]) :=
  ⟨Json.quotientChars_spec, normalizeOutbounds_unique_iff Json.quotientChars_spec _⟩

/-- The second `a` becomes `a-2`, which is there. -/
theorem suffix_taken :
    ¬ (Normalized [directOutbound "a-2" 1, directOutbound "a" 2, directOutbound "a" 3]
        (normalizeOutbounds Json.quotientChars [directOutbound "a-2" 1, directOutbound "a" 2, directOutbound "a" 3]) ∧
      normalizeOutbounds Json.quotientChars
        (normalizeOutbounds Json.quotientChars [directOutbound "a-2" 1, directOutbound "a" 2, directOutbound "a" 3]) =
        normalizeOutbounds Json.quotientChars [directOutbound "a-2" 1, directOutbound "a" 2, directOutbound "a" 3]) := by
  rintro ⟨hnormalized, -⟩
  have htags : (normalizeOutbounds Json.quotientChars
      [directOutbound "a-2" 1, directOutbound "a" 2, directOutbound "a" 3]).map ParsedOutbound.tag = ["a-2", "a", "a-2"] := by
    decide +kernel
  have hnodup := hnormalized.distinct
  rw [htags] at hnodup
  exact absurd hnodup (by decide)

end Sepigs
