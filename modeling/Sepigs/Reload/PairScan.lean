import Sepigs.Reload.Sanitize

/-!
# Keys and their values in a message

The first pattern of `sanitizeReloadMessage` from left to right: a unit is taken for a part of a
value exactly where the text before it is an unfinished pair, whose key is not itself in the value
of a pair before it.
-/

namespace Sepigs

open Replace

/-! ## Pairs in a text -/

/-- A key, in any case. -/
def IsKey (key : Units) : Prop := ∃ name ∈ secretKeys, name.toList = key.map fun u => JsString.foldCase (unitChar u)

/-- White space with one separator in it. -/
def IsGap (gap : Units) : Prop :=
  ∃ before sep after, gap = before ++ sep :: after ∧ (∀ u ∈ before, isSpace u = true) ∧ (sep = 58 ∨ sep = 61) ∧
    ∀ u ∈ after, isSpace u = true

def IsValue (value : Units) : Prop := ∀ u ∈ value, isValueUnit u = true

theorem not_isSpace_of_valueUnit {u : UInt16} (h : isValueUnit u = true) : isSpace u = false := by
  unfold isValueUnit at h
  simp only [Bool.and_eq_true, Bool.not_eq_true'] at h
  exact h.1.1

theorem not_isSpace_of_sep {sep : UInt16} (h : sep = 58 ∨ sep = 61) : isSpace sep = false := by
  rcases h with rfl | rfl
  · decide
  · decide

theorem valueUnit_of_sep {sep : UInt16} (h : sep = 58 ∨ sep = 61) : isValueUnit sep = true := by
  rcases h with rfl | rfl
  · decide
  · decide

theorem IsGap.ne_nil {gap : Units} (h : IsGap gap) : gap ≠ [] := by
  obtain ⟨before, sep, after, rfl, -⟩ := h
  simp

/-! ### Keys -/

/-- No key is the start of another one. -/
theorem secretKeys_apart : ∀ a ∈ secretKeys, ∀ b ∈ secretKeys, a.toList <+: b.toList → a = b := by decide

/-- No key starts inside another one and ends in it. -/
theorem secretKeys_inside : ∀ a ∈ secretKeys, ∀ b ∈ secretKeys, ∀ i < a.toList.length, 0 < i →
    ¬ b.toList <+: a.toList.drop i := by decide

/-- The letters of a key. -/
def isKeyUnit (u : UInt16) : Bool :=
  secretKeys.any fun name => JsString.foldCase (unitChar u) ∈ name.toList

theorem IsKey.ne_nil {key : Units} (h : IsKey key) : key ≠ [] := by
  obtain ⟨name, hname, hfold⟩ := h
  rintro rfl
  have hempty : ∀ name ∈ secretKeys, name.toList ≠ [] := by decide
  exact hempty name hname hfold

theorem IsKey.keyUnit {key : Units} (h : IsKey key) {u : UInt16} (hu : u ∈ key) : isKeyUnit u = true := by
  obtain ⟨name, hname, hfold⟩ := h
  unfold isKeyUnit
  rw [List.any_eq_true]
  refine ⟨name, hname, decide_eq_true ?_⟩
  rw [hfold]
  exact List.mem_map_of_mem hu

theorem foldCase_of_isWhitespace {c : Char} (h : JsString.isWhitespace c = true) : JsString.foldCase c = c := by
  have hcode : c.toNat ≠ 0x17F ∧ c.toNat ≠ 0x212A ∧ ¬ (65 ≤ c.toNat ∧ c.toNat ≤ 90) := by
    unfold JsString.isWhitespace at h
    simp at h
    omega
  have hA : 'A'.toNat = 65 := rfl
  have hZ : 'Z'.toNat = 90 := rfl
  unfold JsString.foldCase
  rw [if_neg, if_neg]
  · unfold Char.toLower
    rw [dif_neg]
    rintro ⟨hlow, hhigh⟩
    have hlow' : 'A'.toNat ≤ c.toNat := hlow
    have hhigh' : c.toNat ≤ 'Z'.toNat := hhigh
    omega
  · rintro rfl
    exact hcode.2.1 rfl
  · rintro rfl
    exact hcode.1 rfl

theorem not_isSpace_of_keyUnit {u : UInt16} (h : isKeyUnit u = true) : isSpace u = false := by
  by_contra hspace
  rw [Bool.not_eq_false] at hspace
  unfold isKeyUnit at h
  obtain ⟨name, hname, hmem⟩ := List.any_eq_true.mp h
  have hletters : ∀ name ∈ secretKeys, name.toList.all (fun c => decide (JsString.isWhitespace c = false)) = true := by
    decide
  have hplain := JsString.forall_of_all (hletters name hname) _ (of_decide_eq_true hmem)
  rw [foldCase_of_isWhitespace hspace] at hplain
  exact absurd (hspace.symm.trans hplain) (by decide)

theorem not_keyUnit_of_gap {gap : Units} (h : IsGap gap) {u : UInt16} (hu : u ∈ gap) : isKeyUnit u = false := by
  have hspace : ∀ u, isSpace u = true → isKeyUnit u = false := by
    intro u hspace
    by_contra hkey
    rw [Bool.not_eq_false] at hkey
    exact absurd (hspace.symm.trans (not_isSpace_of_keyUnit hkey)) (by decide)
  obtain ⟨before, sep, after, rfl, hbefore, hsep, hafter⟩ := h
  rcases List.mem_append.mp hu with hu | hu
  · exact hspace u (hbefore u hu)
  · rcases List.mem_cons.mp hu with rfl | hu
    · rcases hsep with rfl | rfl
      · decide
      · decide
    · exact hspace u (hafter u hu)

theorem valueUnit_of_keyUnit {u : UInt16} (h : isKeyUnit u = true) : isValueUnit u = true := by
  unfold isValueUnit
  rw [not_isSpace_of_keyUnit h]
  have hcomma : u ≠ 44 := by
    rintro rfl
    revert h
    decide
  have hsemicolon : u ≠ 59 := by
    rintro rfl
    revert h
    decide
  simp [hcomma, hsemicolon]

/-! ### The pair at the start of a text -/

/-- A key with its gap and its whole value, and what follows. -/
structure PairText (text key gap value rest : Units) : Prop where
  text : text = key ++ (gap ++ (value ++ rest))
  key : IsKey key
  gap : IsGap gap
  nonempty : value ≠ []
  value : IsValue value
  ends : ∀ u ∈ rest.head?, isValueUnit u = false

theorem keyLength_append {key : Units} (h : IsKey key) (rest : Units) :
    keyLength (key ++ rest) = some key.length := by
  obtain ⟨name, hname, hfold⟩ := h
  have hstarts : name.toList <+: (key ++ rest).map fun u => JsString.foldCase (unitChar u) := by
    rw [List.map_append, hfold]
    exact List.prefix_append _ _
  have hlength : name.toList.length = key.length := by
    rw [hfold, List.length_map]
  unfold keyLength
  cases hfind : secretKeys.find? fun key' =>
      key'.toList.isPrefixOf ((key ++ rest).map fun u => JsString.foldCase (unitChar u)) with
  | none =>
    have hnone := List.find?_eq_none.mp hfind name hname
    exact absurd (List.isPrefixOf_iff_prefix.mpr hstarts) hnone
  | some found =>
    have hfound := List.mem_of_find?_eq_some hfind
    have htest := List.find?_some hfind
    have hstarts' := List.isPrefixOf_iff_prefix.mp htest
    -- one of the two is the start of the other
    have hsame : found = name := by
      rcases List.prefix_or_prefix_of_prefix hstarts' hstarts with h | h
      · exact secretKeys_apart found hfound name hname h
      · exact (secretKeys_apart name hname found hfound h).symm
    rw [hsame, Option.map_some, hlength]

theorem keyLength_eq_some {text : Units} {n : Nat} (h : keyLength text = some n) :
    ∃ key rest, text = key ++ rest ∧ IsKey key ∧ key.length = n := by
  unfold keyLength at h
  obtain ⟨name, hfind, rfl⟩ := Option.map_eq_some_iff.mp h
  have htest := List.find?_some hfind
  have htake := List.prefix_iff_eq_take.mp (List.isPrefixOf_iff_prefix.mp htest)
  rw [← List.map_take] at htake
  refine ⟨text.take name.toList.length, text.drop name.toList.length, (List.take_append_drop _ _).symm,
    ⟨name, List.mem_of_find?_eq_some hfind, htake⟩, ?_⟩
  have hlength := congrArg List.length htake
  rw [List.length_map] at hlength
  exact hlength.symm

theorem not_of_mem_head_dropWhile {p : UInt16 → Bool} {text : Units} :
    ∀ u ∈ (text.dropWhile p).head?, p u = false := by
  intro u hu
  obtain ⟨rest, hrest⟩ := List.head?_eq_some_iff.mp hu
  have hne : text.dropWhile p ≠ [] := by
    rw [hrest]
    exact List.cons_ne_nil _ _
  have hnot := List.head_dropWhile_not p hne
  simpa [hrest] using hnot

theorem gapLength_append {gap rest : Units} (h : IsGap gap) (hrest : ∀ u ∈ rest.head?, isSpace u = false) :
    gapLength (gap ++ rest) = some gap.length := by
  obtain ⟨before, sep, after, rfl, hbefore, hsep, hafter⟩ := h
  have hsepSpace : isSpace sep = false := not_isSpace_of_sep hsep
  have hdrop : ((before ++ sep :: after) ++ rest).dropWhile isSpace = sep :: (after ++ rest) := by
    rw [List.append_assoc, List.dropWhile_append_of_pos hbefore, List.cons_append,
      List.dropWhile_cons_of_neg (by simp [hsepSpace])]
  have htake : ((before ++ sep :: after) ++ rest).takeWhile isSpace = before := by
    rw [List.append_assoc, List.takeWhile_append_of_pos hbefore, List.cons_append,
      List.takeWhile_cons_of_neg (by simp [hsepSpace]), List.append_nil]
  have hafterTake : (after ++ rest).takeWhile isSpace = after := by
    rw [List.takeWhile_append_of_pos hafter]
    cases rest with
    | nil => simp
    | cons u rest => rw [List.takeWhile_cons_of_neg (by simp [hrest u rfl]), List.append_nil]
  unfold gapLength
  rw [hdrop, htake]
  dsimp only
  rw [if_pos hsep, hafterTake, List.length_append, List.length_cons]
  congr 1
  omega

theorem gapLength_eq_some {text : Units} {n : Nat} (h : gapLength text = some n) :
    ∃ gap rest, text = gap ++ rest ∧ IsGap gap ∧ gap.length = n ∧ ∀ u ∈ rest.head?, isSpace u = false := by
  unfold gapLength at h
  cases hdrop : text.dropWhile isSpace with
  | nil =>
    rw [hdrop] at h
    cases h
  | cons sep rest =>
    rw [hdrop] at h
    dsimp only at h
    split at h
    · next hsep =>
      have htext : text = (text.takeWhile isSpace ++ sep :: rest.takeWhile isSpace) ++ rest.dropWhile isSpace := by
        rw [List.append_assoc, List.cons_append, List.takeWhile_append_dropWhile, ← hdrop,
          List.takeWhile_append_dropWhile]
      refine ⟨_, _, htext, ⟨_, sep, _, rfl, fun u hu => List.mem_takeWhile_imp hu, hsep,
        fun u hu => List.mem_takeWhile_imp hu⟩, ?_, ?_⟩
      · rw [List.length_append, List.length_cons, ← Option.some.inj h]
        omega
      · exact not_of_mem_head_dropWhile
    · cases h

/-- `pairAt` finds the pair at the start. -/
theorem pairAt_of_pairText {text key gap value rest : Units} (h : PairText text key gap value rest) :
    pairAt text = some ⟨key.length, gap.length, value.length⟩ := by
  have hhead : ∀ u ∈ (value ++ rest).head?, isSpace u = false := by
    intro u hu
    rw [List.head?_append_of_ne_nil _ h.nonempty] at hu
    exact not_isSpace_of_valueUnit (h.value u (List.mem_of_mem_head? hu))
  have htake : (value ++ rest).takeWhile isValueUnit = value := by
    rw [List.takeWhile_append_of_pos h.value]
    cases hrest : rest with
    | nil => simp
    | cons u rest' =>
      have hstop := h.ends u (by rw [hrest]; rfl)
      rw [List.takeWhile_cons_of_neg (by simp [hstop]), List.append_nil]
  have hpos := List.length_pos_iff.mpr h.nonempty
  unfold pairAt
  rw [h.text, keyLength_append h.key]
  dsimp only
  rw [List.drop_left, gapLength_append h.gap hhead]
  dsimp only
  rw [List.drop_left, htake, if_neg (by omega)]

theorem pairText_of_pairAt {text : Units} {pair : PairMatch} (h : pairAt text = some pair) :
    ∃ key gap value rest, PairText text key gap value rest ∧ pair = ⟨key.length, gap.length, value.length⟩ := by
  unfold pairAt at h
  cases hkey : keyLength text with
  | none =>
    rw [hkey] at h
    cases h
  | some k =>
    obtain ⟨key, afterKey, rfl, hisKey, rfl⟩ := keyLength_eq_some hkey
    rw [hkey] at h
    dsimp only at h
    rw [List.drop_left] at h
    cases hgap : gapLength afterKey with
    | none =>
      rw [hgap] at h
      cases h
    | some g =>
      obtain ⟨gap, afterGap, rfl, hisGap, rfl, -⟩ := gapLength_eq_some hgap
      rw [hgap] at h
      dsimp only at h
      rw [List.drop_left] at h
      split at h
      · cases h
      · next hvalue =>
        refine ⟨key, gap, afterGap.takeWhile isValueUnit, afterGap.dropWhile isValueUnit,
          ⟨by rw [List.takeWhile_append_dropWhile], hisKey, hisGap, ?_, fun u hu => List.mem_takeWhile_imp hu,
            not_of_mem_head_dropWhile⟩, (Option.some.inj h).symm⟩
        intro hnil
        rw [hnil] at hvalue
        exact hvalue rfl

/-! ## Unfinished pairs -/

/-- The text ends in a pair whose value may go on.  Its key is not in the value of a pair before it. -/
def Unfinished (left : Units) : Prop :=
  ∃ before key gap value, ∃ _ : left = before ++ (key ++ (gap ++ value)) ∧ IsKey key,
    IsGap gap ∧ IsValue value ∧ ¬ Unfinished before
termination_by left.length
decreasing_by
  next h =>
    have hpos := List.length_pos_iff.mpr h.2.ne_nil
    have hlength := congrArg List.length h.1
    simp only [List.length_append] at hlength
    omega

theorem unfinished_iff {left : Units} : Unfinished left ↔ ∃ before key gap value,
    left = before ++ (key ++ (gap ++ value)) ∧ IsKey key ∧ IsGap gap ∧ IsValue value ∧ ¬ Unfinished before := by
  rw [Unfinished]
  constructor
  · rintro ⟨before, key, gap, value, ⟨htext, hkey⟩, hgap, hvalue, hbefore⟩
    exact ⟨before, key, gap, value, htext, hkey, hgap, hvalue, hbefore⟩
  · rintro ⟨before, key, gap, value, htext, hkey, hgap, hvalue, hbefore⟩
    exact ⟨before, key, gap, value, ⟨htext, hkey⟩, hgap, hvalue, hbefore⟩

/-- The text goes on with a unit that may stand in a value. -/
def Continues (right : Units) : Prop := ∃ u rest, right = u :: rest ∧ isValueUnit u = true

theorem not_unfinished_nil : ¬ Unfinished [] := by
  rw [unfinished_iff]
  rintro ⟨before, key, gap, value, htext, hkey, -⟩
  have hpos := List.length_pos_iff.mpr hkey.ne_nil
  have hlength := congrArg List.length htext
  simp only [List.length_append, List.length_nil] at hlength
  omega

theorem IsKey.continues {key : Units} (h : IsKey key) (rest : Units) : Continues (key ++ rest) := by
  obtain ⟨u, key', rfl⟩ := List.exists_cons_of_ne_nil h.ne_nil
  exact ⟨u, key' ++ rest, rfl, valueUnit_of_keyUnit (h.keyUnit (List.mem_cons_self ..))⟩

/-- A pair that goes on: its value is longer than what is there. -/
theorem pairText_of_continues {key gap value right : Units} (hkey : IsKey key) (hgap : IsGap gap)
    (hvalue : IsValue value) (hright : Continues right) :
    ∃ more rest, right = more ++ rest ∧ more ≠ [] ∧
      PairText (key ++ (gap ++ (value ++ right))) key gap (value ++ more) rest := by
  obtain ⟨u, right', rfl, hu⟩ := hright
  refine ⟨(u :: right').takeWhile isValueUnit, (u :: right').dropWhile isValueUnit,
    List.takeWhile_append_dropWhile.symm, ?_, ?_⟩
  · rw [List.takeWhile_cons_of_pos hu]
    exact List.cons_ne_nil _ _
  · refine ⟨?_, hkey, hgap, ?_, ?_, not_of_mem_head_dropWhile⟩
    · rw [List.append_assoc value, List.takeWhile_append_dropWhile]
    · rw [List.takeWhile_cons_of_pos hu]
      exact List.append_ne_nil_of_right_ne_nil _ (List.cons_ne_nil _ _)
    · intro v hv
      rcases List.mem_append.mp hv with hv | hv
      · exact hvalue v hv
      · exact List.mem_takeWhile_imp hv

/-- No key starts in another one that a gap follows. -/
theorem no_key_inside {before after gap key rest : Units} (hkey : IsKey (before ++ after)) (hbefore : before ≠ [])
    (hafter : after ≠ []) (hgap : IsGap gap) (hother : IsKey key) {more : Units}
    (heq : after ++ (gap ++ rest) = key ++ more) : False := by
  have hstart : key <+: after := by
    rcases List.append_eq_append_iff.mp heq with ⟨extra, rfl, hextra⟩ | ⟨extra, rfl, -⟩
    · by_cases hnil : extra = []
      · rw [hnil, List.append_nil]
      · -- the first unit of the gap would be one of the key
        obtain ⟨u, extra', rfl⟩ := List.exists_cons_of_ne_nil hnil
        obtain ⟨g, gap', rfl⟩ := List.exists_cons_of_ne_nil hgap.ne_nil
        obtain ⟨rfl, -⟩ := List.cons.inj hextra
        have hunit := hother.keyUnit (List.mem_append_right after (List.mem_cons_self ..))
        rw [not_keyUnit_of_gap hgap (List.mem_cons_self ..)] at hunit
        cases hunit
    · exact List.prefix_append _ _
  obtain ⟨name, hname, hfold⟩ := hkey
  obtain ⟨name', hname', hfold'⟩ := hother
  have hlength := congrArg List.length hfold
  rw [List.length_map, List.length_append] at hlength
  have hpos := List.length_pos_iff.mpr hafter
  refine secretKeys_inside name hname name' hname' before.length (by omega) (List.length_pos_iff.mpr hbefore) ?_
  rw [hfold, hfold', List.map_append, List.drop_left' (List.length_map ..)]
  exact hstart.map _

/-! ### Passing over the start -/

/-- A unit where no pair starts. -/
theorem unfinished_cons_iff {c : UInt16} {left right : Units} (hnone : pairAt (c :: (left ++ right)) = none)
    (hright : Continues right) : Unfinished (c :: left) ↔ Unfinished left := by
  induction hlength : left.length using Nat.strong_induction_on generalizing left right with
  | _ n ih =>
    subst hlength
    -- the text before the last key is shorter
    have hshift : ∀ {before key gap value : Units}, left = before ++ (key ++ (gap ++ value)) → IsKey key →
        (Unfinished (c :: before) ↔ Unfinished before) := by
      intro before key gap value htext hkey
      have hpos := List.length_pos_iff.mpr hkey.ne_nil
      refine ih before.length ?_ ?_ (hkey.continues ((gap ++ value) ++ right)) rfl
      · rw [htext]
        simp only [List.length_append]
        omega
      · rw [htext] at hnone
        simpa only [List.append_assoc] using hnone
    constructor
    · intro h
      obtain ⟨before, key, gap, value, htext, hkey, hgap, hvalue, hbefore⟩ := unfinished_iff.mp h
      cases before with
      | nil =>
        obtain ⟨more, rest, -, -, hpair⟩ := pairText_of_continues hkey hgap hvalue hright
        have hsome := pairAt_of_pairText hpair
        have hsame : key ++ (gap ++ (value ++ right)) = c :: (left ++ right) := by
          have happend := congrArg (· ++ right) htext
          simpa only [List.nil_append, List.append_assoc, List.cons_append] using happend.symm
        rw [hsame, hnone] at hsome
        cases hsome
      | cons d before =>
        obtain ⟨rfl, htail⟩ := List.cons.inj htext
        exact unfinished_iff.mpr ⟨before, key, gap, value, htail, hkey, hgap, hvalue,
          mt (hshift htail hkey).mpr hbefore⟩
    · intro h
      obtain ⟨before, key, gap, value, htext, hkey, hgap, hvalue, hbefore⟩ := unfinished_iff.mp h
      exact unfinished_iff.mpr ⟨c :: before, key, gap, value, by rw [htext]; rfl, hkey, hgap, hvalue,
        mt (hshift htext hkey).mp hbefore⟩

theorem no_key_in_gap {gap key rest more : Units} (hgap : ∀ u ∈ gap, isKeyUnit u = false) (hne : gap ≠ [])
    (hkey : IsKey key) (heq : key ++ more = gap ++ rest) : False := by
  obtain ⟨u, key', rfl⟩ := List.exists_cons_of_ne_nil hkey.ne_nil
  obtain ⟨g, gap', rfl⟩ := List.exists_cons_of_ne_nil hne
  obtain ⟨rfl, -⟩ := List.cons.inj heq
  have hunit := hkey.keyUnit (List.mem_cons_self ..)
  rw [hgap _ (List.mem_cons_self ..)] at hunit
  cases hunit

/-- The last key of an unfinished text is not in a pair before it. -/
theorem key_after_pair {key gap value left right before key' gap' value' : Units}
    (hpair : PairText (key ++ (gap ++ (value ++ (left ++ right)))) key gap value (left ++ right))
    (hright : Continues right) (hkey : IsKey key') (hgap : IsGap gap') (hvalue : IsValue value')
    (hbefore : ¬ Unfinished before)
    (htext : key ++ (gap ++ (value ++ left)) = before ++ (key' ++ (gap' ++ value'))) :
    ∃ before', before = key ++ (gap ++ (value ++ before')) ∧ left = before' ++ (key' ++ (gap' ++ value')) := by
  have hopen : ∀ part, IsValue part → ¬ before = key ++ (gap ++ part) := fun part hpart heq =>
    hbefore (unfinished_iff.mpr ⟨[], key, gap, part, heq, hpair.key, hpair.gap, hpart, not_unfinished_nil⟩)
  rcases List.append_eq_append_iff.mp htext with ⟨inGap, rfl, hafterKey⟩ | ⟨tail, hkeyText, hinKey⟩
  · rcases List.append_eq_append_iff.mp hafterKey with ⟨inValue, rfl, hafterGap⟩ | ⟨tail, hgapText, hinGap⟩
    · rcases List.append_eq_append_iff.mp hafterGap with ⟨before', rfl, hleft⟩ | ⟨tail, hvalueText, -⟩
      · exact ⟨before', rfl, hleft⟩
      · -- the key is in the value
        refine absurd rfl (hopen inValue fun u hu => hpair.value u ?_)
        rw [hvalueText]
        exact List.mem_append_left _ hu
    · by_cases hnil : tail = []
      · rw [hnil, List.append_nil] at hgapText
        refine absurd ?_ (hopen [] fun u hu => by cases hu)
        rw [← hgapText, List.append_nil]
      · refine (no_key_in_gap (fun u hu => not_keyUnit_of_gap hpair.gap ?_) hnil hkey hinGap).elim
        rw [hgapText]
        exact List.mem_append_right _ hu
  · by_cases hnil : tail = []
    · rw [hnil, List.nil_append] at hinKey
      exact (no_key_in_gap (fun u hu => not_keyUnit_of_gap hpair.gap hu) hpair.gap.ne_nil hkey hinKey).elim
    · by_cases hstart : before = []
      · -- both are the pair at the start, but one goes on after the value of the other
        subst hstart
        obtain ⟨more, rest, hmore, hne, hpair'⟩ := pairText_of_continues hkey hgap hvalue hright
        have hsame : key' ++ (gap' ++ (value' ++ right)) = key ++ (gap ++ (value ++ (left ++ right))) := by
          have happend := congrArg (· ++ right) htext
          simpa only [List.nil_append, List.append_assoc] using happend.symm
        rw [hsame] at hpair'
        have hlengths := (pairAt_of_pairText hpair).symm.trans (pairAt_of_pairText hpair')
        have hpos := List.length_pos_iff.mpr hne
        have htotal := congrArg List.length hpair'.text
        have hright' := congrArg List.length hmore
        simp only [Option.some.injEq, PairMatch.mk.injEq] at hlengths
        simp only [List.length_append] at hlengths htotal hright'
        omega
      · rw [hkeyText] at hpair
        exact (no_key_inside hpair.key hstart hnil hpair.gap hkey hinKey.symm).elim

/-- A whole pair. -/
theorem unfinished_pair_iff {key gap value left right : Units}
    (hpair : PairText (key ++ (gap ++ (value ++ (left ++ right)))) key gap value (left ++ right))
    (hright : Continues right) : Unfinished (key ++ (gap ++ (value ++ left))) ↔ Unfinished left := by
  induction hlength : left.length using Nat.strong_induction_on generalizing left right with
  | _ n ih =>
    subst hlength
    have hshift : ∀ {before key' gap' value' : Units}, left = before ++ (key' ++ (gap' ++ value')) → IsKey key' →
        (Unfinished (key ++ (gap ++ (value ++ before))) ↔ Unfinished before) := by
      intro before key' gap' value' htext hkey
      have hpos := List.length_pos_iff.mpr hkey.ne_nil
      refine ih before.length ?_ ?_ (hkey.continues ((gap' ++ value') ++ right)) rfl
      · rw [htext]
        simp only [List.length_append]
        omega
      · rw [htext] at hpair
        simpa only [List.append_assoc] using hpair
    constructor
    · intro h
      obtain ⟨before, key', gap', value', htext, hkey, hgap, hvalue, hbefore⟩ := unfinished_iff.mp h
      obtain ⟨before', rfl, hleft⟩ := key_after_pair hpair hright hkey hgap hvalue hbefore htext
      exact unfinished_iff.mpr ⟨before', key', gap', value', hleft, hkey, hgap, hvalue,
        mt (hshift hleft hkey).mpr hbefore⟩
    · intro h
      obtain ⟨before, key', gap', value', htext, hkey, hgap, hvalue, hbefore⟩ := unfinished_iff.mp h
      refine unfinished_iff.mpr ⟨key ++ (gap ++ (value ++ before)), key', gap', value', ?_, hkey, hgap, hvalue,
        mt (hshift htext hkey).mp hbefore⟩
      rw [htext]
      simp only [List.append_assoc]

/-! ### Where a text is cut -/

theorem IsKey.not_sep {key : Units} (h : IsKey key) {u : UInt16} (hu : u ∈ key) : ¬ (u = 58 ∨ u = 61) := by
  intro hsep
  have hunit := h.keyUnit hu
  rcases hsep with rfl | rfl
  · exact absurd hunit (by decide)
  · exact absurd hunit (by decide)

theorem Unfinished.sep_mem {left : Units} (h : Unfinished left) : ∃ u ∈ left, u = 58 ∨ u = 61 := by
  obtain ⟨before, key, gap, value, rfl, -, ⟨spaces, sep, after, rfl, -, hsep, -⟩, -⟩ := unfinished_iff.mp h
  exact ⟨sep, by simp, hsep⟩

/-- What may stand in a value leaves a pair unfinished. -/
theorem Unfinished.append {left : Units} (h : Unfinished left) {value : Units} (hvalue : IsValue value) :
    Unfinished (left ++ value) := by
  obtain ⟨before, key, gap, part, rfl, hkey, hgap, hpart, hbefore⟩ := unfinished_iff.mp h
  refine unfinished_iff.mpr ⟨before, key, gap, part ++ value, ?_, hkey, hgap, fun u hu => ?_, hbefore⟩
  · simp only [List.append_assoc]
  · rcases List.mem_append.mp hu with hu | hu
    · exact hpart u hu
    · exact hvalue u hu

/-- A pair at the start is before the cut, or cut in its value, or cut before that. -/
theorem pair_cut {α : Type} {left right key gap value rest : List α}
    (htext : left ++ right = key ++ (gap ++ (value ++ rest))) (hne : value ≠ []) :
    (∃ left', left = key ++ (gap ++ (value ++ left')) ∧ rest = left' ++ right) ∨
      (∃ part tail, left = key ++ (gap ++ part) ∧ value = part ++ tail ∧ tail ≠ [] ∧ right = tail ++ rest) ∨
      ∃ tail, key ++ gap = left ++ tail ∧ tail ≠ [] ∧ right = tail ++ (value ++ rest) := by
  rw [← List.append_assoc key] at htext
  rcases List.append_eq_append_iff.mp htext with ⟨tail, hcut, hright⟩ | ⟨after, hleft, hrest⟩
  · by_cases hnil : tail = []
    · subst hnil
      refine .inr (.inl ⟨[], value, ?_, rfl, hne, hright⟩)
      simpa only [List.append_nil, List.append_assoc] using hcut.symm
    · exact .inr (.inr ⟨tail, hcut, hnil, hright⟩)
  · rw [List.append_assoc] at hleft
    rcases List.append_eq_append_iff.mp hrest with ⟨left', rfl, hrest'⟩ | ⟨tail, hvalue, hright⟩
    · exact .inl ⟨left', hleft, hrest'⟩
    · by_cases hnil : tail = []
      · rw [hnil, List.append_nil] at hvalue
        rw [hnil, List.nil_append] at hright
        refine .inl ⟨[], ?_, ?_⟩
        · rw [List.append_nil, hvalue]
          exact hleft
        · exact hright.symm
      · exact .inr (.inl ⟨after, tail, hleft, hvalue, hnil, hright⟩)

/-- A text cut in a value is unfinished. -/
theorem PairText.unfinished {text key gap value rest part tail : Units} (h : PairText text key gap value rest)
    (hvalue : value = part ++ tail) : Unfinished (key ++ (gap ++ part)) := by
  refine unfinished_iff.mpr ⟨[], key, gap, part, rfl, h.key, h.gap, fun u hu => h.value u ?_, not_unfinished_nil⟩
  rw [hvalue]
  exact List.mem_append_left _ hu

/-- A text cut before the value, and not in white space, is not. -/
theorem not_unfinished_of_cut {key gap left tail : Units} (hkey : IsKey key) (hgap : IsGap gap)
    (hcut : key ++ gap = left ++ tail) {u : UInt16} (hu : u ∈ tail.head?) (hspace : isSpace u = false) :
    ¬ Unfinished left := by
  intro hopen
  obtain ⟨sep, hsep, hisSep⟩ := hopen.sep_mem
  obtain ⟨before, sep', after, rfl, hbefore, hsep', hafter⟩ := hgap
  obtain ⟨tail', rfl⟩ := List.head?_eq_some_iff.mp hu
  -- the separator of the gap is in `left`, so what follows it is white space
  have hplain : ∀ v ∈ key ++ before, ¬ (v = 58 ∨ v = 61) := by
    intro v hv hsepV
    rcases List.mem_append.mp hv with hv | hv
    · exact hkey.not_sep hv hsepV
    · have hfalse := not_isSpace_of_sep hsepV
      rw [hbefore v hv] at hfalse
      cases hfalse
  rw [← List.append_assoc] at hcut
  rcases List.append_eq_append_iff.mp hcut with ⟨inside, rfl, htail⟩ | ⟨more, hleft, -⟩
  · cases inside with
    | nil =>
      rw [List.append_nil] at hsep
      exact hplain sep hsep hisSep
    | cons w inside =>
      obtain ⟨-, hafterText⟩ := List.cons.inj htail
      have hmem : u ∈ after := by
        rw [hafterText]
        exact List.mem_append_right _ (List.mem_cons_self ..)
      rw [hafter u hmem] at hspace
      cases hspace
  · refine hplain sep ?_ hisSep
    rw [hleft]
    exact List.mem_append_left _ hsep

end Sepigs
