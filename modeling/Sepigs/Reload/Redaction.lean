import Sepigs.Reload.PairScan

/-!
# Where a secret stays in a message (`sanitizeReloadMessage` of `reload/events.ts`)

The units of one occurrence of a secret are marked, and the two patterns are replaced in the marked
text.  The occurrence stays if all its units do.
-/

namespace Sepigs

open Replace

/-- A unit, and whether it is of the secret. -/
abbrev Cell := UInt16 × Bool

def plain (text : Units) : List Cell := text.map fun u => (u, false)

def marked (text : Units) : List Cell := text.map fun u => (u, true)

/-- A message around a secret. -/
def around (left secret right : Units) : List Cell := plain left ++ (marked secret ++ plain right)

/-- `pairPattern`, where an equals sign stays. -/
def markedPairPattern : Pattern UInt16 := fun text =>
  (pairAt text).map fun pair =>
    let sep := pair.key + ((text.drop pair.key).takeWhile isSpace).length
    ⟨pair.key + (pair.gap + pair.value),
      [.copy 0 pair.key, if text[sep]? = some 61 then .copy sep 1 else .text [61], .text (units "<redacted>")]⟩

def redactPairs (cells : List Cell) : List Cell := replaceAll Prod.fst (fun u => (u, false)) markedPairPattern cells

def redactUserinfo (cells : List Cell) : List Cell := replaceAll Prod.fst (fun u => (u, false)) userinfoPattern cells

theorem plain_units (text : Units) : (plain text).map Prod.fst = text := by
  simp [plain, Function.comp_def]

theorem marked_units (text : Units) : (marked text).map Prod.fst = text := by
  simp [marked, Function.comp_def]

theorem around_units (left secret right : Units) :
    (around left secret right).map Prod.fst = left ++ (secret ++ right) := by
  unfold around
  rw [List.map_append, List.map_append, plain_units, marked_units, plain_units]

/-! ## The marks do not change the text -/

theorem pairPattern_positive : Positive pairPattern := by
  intro text edit h
  obtain ⟨pair, hpair, rfl⟩ := Option.map_eq_some_iff.mp h
  obtain ⟨key, gap, value, rest, htext, rfl⟩ := pairText_of_pairAt hpair
  have hpos := List.length_pos_iff.mpr htext.key.ne_nil
  dsimp only
  omega

theorem markedPairPattern_positive : Positive markedPairPattern := by
  intro text edit h
  obtain ⟨pair, hpair, rfl⟩ := Option.map_eq_some_iff.mp h
  obtain ⟨key, gap, value, rest, htext, rfl⟩ := pairText_of_pairAt hpair
  have hpos := List.length_pos_iff.mpr htext.key.ne_nil
  dsimp only
  omega

theorem userinfoPattern_positive : Positive userinfoPattern := by
  intro text edit h
  obtain ⟨length, hlength, rfl⟩ := Option.map_eq_some_iff.mp h
  unfold userinfoAt at hlength
  split at hlength
  · dsimp only at hlength
    split at hlength
    · split at hlength
      · cases hlength
        dsimp only
        omega
      · cases hlength
    · cases hlength
  · cases hlength

theorem replaceAll_units {pattern : Pattern UInt16} (hpositive : Positive pattern) (cells : List Cell) :
    (replaceAll Prod.fst (fun u => (u, false)) pattern cells).map Prod.fst =
      replaceAll id id pattern (cells.map Prod.fst) :=
  map_replaceAll id id Prod.fst hpositive (fun _ => rfl) (fun _ => rfl) cells

/-- An equals sign is written where one was. -/
theorem redactPairs_units (cells : List Cell) :
    (redactPairs cells).map Prod.fst = replaceAll id id pairPattern (cells.map Prod.fst) := by
  unfold redactPairs
  rw [replaceAll_units markedPairPattern_positive]
  refine replaceAll_congr markedPairPattern_positive pairPattern_positive (fun text => ?_) _
  unfold markedPairPattern pairPattern
  cases hpair : pairAt text with
  | none => exact .inl ⟨rfl, rfl⟩
  | some pair =>
    refine .inr ⟨_, _, rfl, rfl, rfl, ?_⟩
    have hwritten : units "=<redacted>" = [61] ++ units "<redacted>" := by decide
    have hsep : ∀ sep : Nat, Piece.apply id text (if text[sep]? = some 61 then .copy sep 1 else .text [61]) = [61] := by
      intro sep
      split
      · next hequals =>
        obtain ⟨hlt, hunit⟩ := List.getElem?_eq_some_iff.mp hequals
        show (text.drop sep).take 1 = [61]
        rw [List.drop_eq_getElem_cons hlt, hunit]
        rfl
      · rfl
    unfold Edit.apply
    dsimp only
    rw [List.flatMap_cons, List.flatMap_cons, List.flatMap_singleton, List.flatMap_cons, List.flatMap_singleton, hsep]
    show _ ++ ([61] ++ (units "<redacted>").map id) = _ ++ (units "=<redacted>").map id
    rw [hwritten, List.map_append]
    rfl

/-- The units of what is kept, with what is written in between, are the sanitized message. -/
theorem redact_units (left secret right : Units) :
    (redactUserinfo (redactPairs (around left secret right))).map Prod.fst =
      replaceAll id id userinfoPattern (replaceAll id id pairPattern (left ++ (secret ++ right))) := by
  unfold redactUserinfo
  rw [replaceAll_units userinfoPattern_positive, redactPairs_units, around_units]

/-! ## Pairs -/

theorem redactPairs_plain (text : Units) :
    redactPairs (plain text) = plain (replaceAll id id markedPairPattern text) :=
  (map_replaceAll Prod.fst (fun u => (u, false)) (fun u => (u, false)) markedPairPattern_positive
    (fun _ => rfl) (fun _ => rfl) text).symm

theorem redactPairs_keep {c : Cell} {rest : List Cell} (hnone : pairAt ((c :: rest).map Prod.fst) = none) :
    redactPairs (c :: rest) = c :: redactPairs rest := by
  refine replaceAll_keep markedPairPattern_positive ?_
  unfold markedPairPattern
  rw [hnone]
  rfl

/-- The cells of a pair at the start. -/
structure PairCells (cells key before : List Cell) (sep : Cell) (after value rest : List Cell) : Prop where
  split : cells = key ++ ((before ++ sep :: after) ++ (value ++ rest))
  pair : PairText (cells.map Prod.fst) (key.map Prod.fst) ((before ++ sep :: after).map Prod.fst)
    (value.map Prod.fst) (rest.map Prod.fst)
  before : ∀ c ∈ before, isSpace c.1 = true
  sep : sep.1 = 58 ∨ sep.1 = 61
  after : ∀ c ∈ after, isSpace c.1 = true

theorem PairText.cells {cells : List Cell} {key gap value rest : Units}
    (h : PairText (cells.map Prod.fst) key gap value rest) :
    ∃ key' before sep after value' rest', PairCells cells key' before sep after value' rest' ∧
      key'.map Prod.fst = key ∧ (before ++ sep :: after).map Prod.fst = gap ∧ value'.map Prod.fst = value ∧
      rest'.map Prod.fst = rest := by
  obtain ⟨key', cells', hcells, rfl, htext⟩ := List.map_eq_append_iff.mp h.text
  obtain ⟨gap', cells'', rfl, hgap, htext'⟩ := List.map_eq_append_iff.mp htext
  obtain ⟨value', rest', rfl, rfl, rfl⟩ := List.map_eq_append_iff.mp htext'
  obtain ⟨spaces, sep, after, rfl, hspaces, hsep, hafter⟩ := h.gap
  obtain ⟨before, tail, rfl, rfl, htail⟩ := List.map_eq_append_iff.mp hgap
  obtain ⟨sep', after', rfl, rfl, rfl⟩ := List.map_eq_cons_iff.mp htail
  refine ⟨key', before, sep', after', value', rest', ⟨hcells, ?_, fun c hc => ?_, hsep, fun c hc => ?_⟩,
    rfl, hgap, rfl, rfl⟩
  · rwa [hgap]
  · exact hspaces c.1 (List.mem_map_of_mem hc)
  · exact hafter c.1 (List.mem_map_of_mem hc)

/-- A pair that is replaced: the key stays, and the separator if it is an equals sign. -/
theorem PairCells.redactPairs {cells key before after value rest : List Cell} {sep : Cell}
    (h : PairCells cells key before sep after value rest) : redactPairs cells =
      key ++ ((if sep.1 = 61 then sep else (61, false)) :: (plain (units "<redacted>") ++
        Sepigs.redactPairs rest)) := by
  obtain ⟨rfl, hpair, hbefore, hsep, -⟩ := h
  have hne : key ++ ((before ++ sep :: after) ++ (value ++ rest)) ≠ [] := by
    refine List.append_ne_nil_of_left_ne_nil ?_ _
    have hkey := hpair.key.ne_nil
    simpa using hkey
  have hspaces : (((before ++ sep :: after) ++ (value ++ rest)).map Prod.fst).takeWhile isSpace =
      before.map Prod.fst := by
    rw [List.map_append, List.map_append, List.append_assoc, List.takeWhile_append_of_pos, List.map_cons,
      List.cons_append, List.takeWhile_cons_of_neg (by simp [not_isSpace_of_sep hsep]), List.append_nil]
    intro u hu
    obtain ⟨c, hc, rfl⟩ := List.mem_map.mp hu
    exact hbefore c hc
  have hcells : key ++ ((before ++ sep :: after) ++ (value ++ rest)) =
      (key ++ before) ++ sep :: (after ++ (value ++ rest)) := by simp
  have hunit : ((key ++ ((before ++ sep :: after) ++ (value ++ rest))).map Prod.fst)[key.length + before.length]? =
      some sep.1 := by
    rw [hcells, List.getElem?_map, ← List.length_append, List.getElem?_append_right (Nat.le_refl _), Nat.sub_self]
    rfl
  have hcopy : ((key ++ ((before ++ sep :: after) ++ (value ++ rest))).drop (key.length + before.length)).take 1 =
      [sep] := by
    rw [hcells, ← List.length_append, List.drop_left]
    rfl
  have hmatch : markedPairPattern ((key ++ ((before ++ sep :: after) ++ (value ++ rest))).map Prod.fst) =
      some ⟨key.length + ((before ++ sep :: after).length + value.length), [.copy 0 key.length,
        if sep.1 = 61 then .copy (key.length + before.length) 1 else .text [61], .text (units "<redacted>")]⟩ := by
    have hdrop : ((key ++ ((before ++ sep :: after) ++ (value ++ rest))).map Prod.fst).drop key.length =
        ((before ++ sep :: after) ++ (value ++ rest)).map Prod.fst := by
      rw [← List.map_drop, List.drop_left]
    unfold markedPairPattern
    rw [pairAt_of_pairText hpair, Option.map_some]
    dsimp only
    rw [List.length_map, List.length_map, List.length_map, hdrop, hspaces, List.length_map, hunit]
    simp only [Option.some.injEq]
  have hlength : key.length + ((before ++ sep :: after).length + value.length) =
      (key ++ ((before ++ sep :: after) ++ value)).length := by
    simp only [List.length_append]
  have hdrop : (key ++ ((before ++ sep :: after) ++ (value ++ rest))).drop
      (key.length + ((before ++ sep :: after).length + value.length)) = rest := by
    have htext : key ++ ((before ++ sep :: after) ++ (value ++ rest)) =
        (key ++ ((before ++ sep :: after) ++ value)) ++ rest := by simp only [List.append_assoc]
    rw [hlength, htext, List.drop_left]
  have hsepPiece : Piece.apply (fun u => (u, false)) (key ++ ((before ++ sep :: after) ++ (value ++ rest)))
      (if sep.1 = 61 then .copy (key.length + before.length) 1 else .text [61]) =
        [if sep.1 = 61 then sep else (61, false)] := by
    split
    · exact hcopy
    · rfl
  unfold Sepigs.redactPairs
  rw [replaceAll_edit markedPairPattern_positive hne hmatch]
  dsimp only
  rw [hdrop]
  unfold Edit.apply
  dsimp only
  rw [List.flatMap_cons, List.flatMap_cons, List.flatMap_singleton, hsepPiece]
  show (key ++ ((before ++ sep :: after) ++ (value ++ rest))).take key.length ++ _ ++ _ = _
  rw [List.take_left, List.append_assoc]
  rfl

theorem PairCells.length_lt {cells key before after value rest : List Cell} {sep : Cell}
    (h : PairCells cells key before sep after value rest) : rest.length < cells.length := by
  rw [h.split]
  simp only [List.length_append, List.length_cons]
  omega

/-- What a pass over the pairs meets. -/
theorem redactPairs_induction {motive : List Cell → Prop} (hnil : motive [])
    (hkeep : ∀ c rest, pairAt ((c :: rest).map Prod.fst) = none → motive rest → motive (c :: rest))
    (hpair : ∀ cells key before sep after value rest, PairCells cells key before sep after value rest → motive rest →
      motive cells) (cells : List Cell) : motive cells := by
  induction hlength : cells.length using Nat.strong_induction_on generalizing cells with
  | _ n ih =>
    subst hlength
    cases cells with
    | nil => exact hnil
    | cons c rest =>
      cases hmatch : pairAt ((c :: rest).map Prod.fst) with
      | none => exact hkeep c rest hmatch (ih _ (Nat.lt_succ_self _) rest rfl)
      | some pair =>
        obtain ⟨key, gap, value, after, htext, -⟩ := pairText_of_pairAt hmatch
        obtain ⟨key', before, sep, after', value', rest', hcells, -⟩ := htext.cells
        exact hpair _ _ _ _ _ _ _ hcells (ih _ hcells.length_lt _ rfl)

/-- How much of the secret is there. -/
def marks (cells : List Cell) : Nat := cells.countP Prod.snd

theorem marks_append (left right : List Cell) : marks (left ++ right) = marks left + marks right :=
  List.countP_append

theorem marks_cons (c : Cell) (cells : List Cell) : marks (c :: cells) = marks cells + c.2.toNat := by
  unfold marks
  rw [List.countP_cons]
  cases c.2 with
  | false => rfl
  | true => rfl

theorem marks_plain (text : Units) : marks (plain text) = 0 := by
  unfold marks plain
  rw [List.countP_map, List.countP_eq_zero]
  intro u _
  exact Bool.false_ne_true

theorem marks_marked (text : Units) : marks (marked text) = text.length := by
  unfold marks marked
  rw [List.countP_map, List.countP_eq_length]
  intro u _
  rfl

theorem marks_sep_le (sep : Cell) (cells : List Cell) :
    marks ((if sep.1 = 61 then sep else (61, false)) :: cells) ≤ marks cells + sep.2.toNat := by
  rw [marks_cons]
  split
  · exact Nat.le_refl _
  · exact Nat.le_add_right _ _

theorem marks_redactPairs_le (cells : List Cell) : marks (redactPairs cells) ≤ marks cells := by
  induction cells using redactPairs_induction with
  | hnil => exact Nat.le_refl _
  | hkeep c rest hnone ih =>
    rw [redactPairs_keep hnone, marks_cons, marks_cons]
    omega
  | hpair cells key before sep after value rest hcells ih =>
    have hsep := marks_sep_le sep (plain (units "<redacted>") ++ redactPairs rest)
    rw [marks_append (plain _), marks_plain] at hsep
    rw [hcells.redactPairs, hcells.split]
    simp only [marks_append]
    rw [marks_cons sep]
    omega

theorem continues_of_valueUnit {c : Cell} (h : isValueUnit c.1 = true) (right : List Cell) :
    Continues ((c :: right).map Prod.fst) := ⟨c.1, right.map Prod.fst, rfl, h⟩

/-- What follows an unfinished pair is not kept. -/
theorem marks_redactPairs_of_unfinished {left right : List Cell} {c : Cell}
    (hopen : Unfinished (left.map Prod.fst)) (hvalue : isValueUnit c.1 = true) :
    marks (redactPairs (left ++ c :: right)) ≤ marks left + marks right := by
  have hright := continues_of_valueUnit hvalue right
  induction hlength : left.length using Nat.strong_induction_on generalizing left with
  | _ n ih =>
    subst hlength
    cases hmatch : pairAt ((left ++ c :: right).map Prod.fst) with
    | none =>
      cases left with
      | nil => exact absurd hopen not_unfinished_nil
      | cons d left =>
        have hnone : pairAt (d.1 :: (left.map Prod.fst ++ (c :: right).map Prod.fst)) = none := by
          rwa [List.map_append] at hmatch
        have hle := ih left.length (Nat.lt_succ_self _) ((unfinished_cons_iff hnone hright).mp hopen) rfl
        have hkeep : redactPairs (d :: (left ++ c :: right)) = d :: redactPairs (left ++ c :: right) :=
          redactPairs_keep hmatch
        rw [List.cons_append, hkeep, marks_cons, marks_cons]
        omega
    | some pair =>
      obtain ⟨key, gap, value, rest, htext, -⟩ := pairText_of_pairAt hmatch
      obtain ⟨key, before, sep, after, value, rest, hcells, -⟩ := htext.cells
      have hsep := marks_sep_le sep (plain (units "<redacted>") ++ redactPairs rest)
      rw [marks_append (plain _), marks_plain] at hsep
      have hne : value ≠ [] := by simpa using hcells.pair.nonempty
      rw [hcells.redactPairs, marks_append]
      rcases pair_cut hcells.split hne with
        ⟨left', hleft, hrest⟩ | ⟨part, tail, hleft, hvalueText, hnil, htail⟩ | ⟨tail, hleft, hnil, htail⟩
      · -- a whole pair before
        have hpair := hcells.pair
        rw [hcells.split, hrest] at hpair
        simp only [List.map_append] at hpair
        rw [hleft] at hopen
        have hopen' : Unfinished (left'.map Prod.fst) := by
          rw [← unfinished_pair_iff hpair (by simpa using hright)]
          simpa only [List.map_append] using hopen
        have hlt : left'.length < left.length := by
          rw [hleft]
          simp only [List.length_append, List.length_cons]
          omega
        have hle := ih left'.length hlt hopen' rfl
        rw [hrest] at hsep ⊢
        rw [hleft]
        simp only [marks_append]
        rw [marks_cons sep after]
        omega
      · -- the cut is in the value, and `c` after it
        obtain ⟨d, tail', rfl⟩ := List.exists_cons_of_ne_nil hnil
        have hrest : right = tail' ++ rest := (List.cons.inj htail).2
        have hle := marks_redactPairs_le rest
        rw [hleft, hrest]
        simp only [marks_append]
        rw [marks_cons sep after]
        omega
      · -- the cut is before the value
        obtain ⟨d, tail', rfl⟩ := List.exists_cons_of_ne_nil hnil
        obtain ⟨rfl, -⟩ := List.cons.inj htail
        have hcut : key.map Prod.fst ++ (before ++ sep :: after).map Prod.fst =
            left.map Prod.fst ++ (c :: tail').map Prod.fst := by
          rw [← List.map_append, hleft, List.map_append]
        exact absurd hopen (not_unfinished_of_cut hcells.pair.key hcells.pair.gap hcut rfl
          (not_isSpace_of_valueUnit hvalue))

/-! ### A secret that is kept -/

theorem plain_append (left right : Units) : plain (left ++ right) = plain left ++ plain right := List.map_append

theorem marked_append (left right : Units) : marked (left ++ right) = marked left ++ marked right := List.map_append

theorem marked_concat (first : Units) (u : UInt16) : marked (first ++ [u]) = marked first ++ [(u, true)] :=
  marked_append first [u]

theorem plain_eq_append {text : Units} {left right : List Cell} (h : plain text = left ++ right) :
    ∃ left' right', text = left' ++ right' ∧ left = plain left' ∧ right = plain right' := by
  obtain ⟨left', right', htext, hleft, hright⟩ := List.map_eq_append_iff.mp h
  exact ⟨left', right', htext, hleft.symm, hright.symm⟩

theorem marked_eq_append {text : Units} {left right : List Cell} (h : marked text = left ++ right) :
    ∃ left' right', text = left' ++ right' ∧ left = marked left' ∧ right = marked right' := by
  obtain ⟨left', right', htext, hleft, hright⟩ := List.map_eq_append_iff.mp h
  exact ⟨left', right', htext, hleft.symm, hright.symm⟩

/-- Only one unit of a gap is no white space. -/
theorem gap_split {before after left right : List Cell} {sep c : Cell} (hbefore : ∀ c ∈ before, isSpace c.1 = true)
    (hafter : ∀ c ∈ after, isSpace c.1 = true) (hspace : isSpace c.1 = false)
    (h : before ++ sep :: after = left ++ c :: right) : before = left ∧ sep = c ∧ after = right := by
  rcases List.append_eq_append_iff.mp h with ⟨extra, rfl, hextra⟩ | ⟨extra, rfl, hextra⟩
  · cases extra with
    | nil =>
      obtain ⟨rfl, rfl⟩ := List.cons.inj hextra
      exact ⟨(List.append_nil _).symm, rfl, rfl⟩
    | cons d extra =>
      obtain ⟨-, rfl⟩ := List.cons.inj hextra
      rw [hafter c (List.mem_append_right _ (List.mem_cons_self ..))] at hspace
      cases hspace
  · cases extra with
    | nil =>
      obtain ⟨rfl, rfl⟩ := List.cons.inj hextra
      exact ⟨List.append_nil _, rfl, rfl⟩
    | cons d extra =>
      obtain ⟨rfl, -⟩ := List.cons.inj hextra
      rw [hbefore c (List.mem_append_right _ (List.mem_cons_self ..))] at hspace
      cases hspace

/-- A secret that ends before the value of a pair keeps its units: they are of the key, or an equals sign. -/
theorem key_keeps {key before after : List Cell} {sep : Cell} {left secret right : Units}
    (hbefore : ∀ c ∈ before, isSpace c.1 = true) (hafter : ∀ c ∈ after, isSpace c.1 = true)
    (hsep : sep.1 = 58 ∨ sep.1 = 61)
    (hplain : ∀ u ∈ secret, isValueUnit u = true ∧ u ≠ 58) (hne : secret ≠ [])
    (h : key ++ (before ++ sep :: after) = plain left ++ (marked secret ++ plain right)) :
    ∃ left' right', key ++ [if sep.1 = 61 then sep else (61, false)] = around left' secret right' ∧
      (left = [] → left' = []) := by
  have hshort : ∀ extra, key = (plain left ++ marked secret) ++ extra →
      plain right = extra ++ (before ++ sep :: after) →
      ∃ left' right', key ++ [if sep.1 = 61 then sep else (61, false)] = around left' secret right' ∧
        (left = [] → left' = []) := by
    intro extra hkeyText hrightText
    obtain ⟨inKey, gap, -, rfl, hgap⟩ := plain_eq_append hrightText
    have hunmarked : ∀ c ∈ plain gap, c.2 = false := by
      intro c hc
      obtain ⟨u, -, rfl⟩ := List.mem_map.mp hc
      rfl
    have hsep' : (if sep.1 = 61 then sep else (61, false)) = ((61, false) : Cell) := by
      split
      · next hequals => exact Prod.ext hequals (hunmarked sep (by rw [← hgap]; simp))
      · rfl
    refine ⟨left, inKey ++ [61], ?_, fun hnil => hnil⟩
    rw [hkeyText, hsep']
    unfold around
    rw [plain_append]
    simp only [List.append_assoc]
    rfl
  rw [← List.append_assoc (plain left)] at h
  rcases List.append_eq_append_iff.mp h with ⟨extra, hlong, hgap⟩ | ⟨extra, hkeyText, hright⟩
  · rcases List.eq_nil_or_concat' extra with rfl | ⟨inGap, x, rfl⟩
    · rw [List.append_nil] at hlong
      exact hshort [] (by rw [hlong, List.append_nil]) hgap.symm
    · -- the last unit of the secret is the separator
      obtain ⟨first, z, rfl⟩ := (List.eq_nil_or_concat' secret).resolve_left hne
      have hz := hplain z (List.mem_append_right _ (List.mem_singleton.mpr rfl))
      have hlast : (plain left ++ marked first) ++ [(z, true)] = (key ++ inGap) ++ [x] := by
        rw [marked_concat] at hlong
        simpa only [List.append_assoc] using hlong
      obtain ⟨hfirst, hx⟩ := List.append_inj' hlast rfl
      have hgapText : before ++ sep :: after = inGap ++ (z, true) :: plain right := by
        rw [hgap, ← (List.cons.inj hx).1, List.append_assoc]
        rfl
      have hzSpace : isSpace ((z, true) : Cell).1 = false := not_isSpace_of_valueUnit hz.1
      obtain ⟨rfl, rfl, -⟩ := gap_split hbefore hafter hzSpace hgapText
      have hequals : z = 61 := hsep.resolve_left hz.2
      rw [if_pos hequals]
      rcases List.eq_nil_or_concat' first with rfl | ⟨first, y, rfl⟩
      · obtain ⟨key', spaces, hleft, rfl, -⟩ := plain_eq_append ((List.append_nil _).symm.trans hfirst)
        refine ⟨key', [], rfl, fun hnil => ?_⟩
        rw [hnil] at hleft
        exact (List.append_eq_nil_iff.mp hleft.symm).1
      · rcases List.eq_nil_or_concat' before with rfl | ⟨before, w, rfl⟩
        · refine ⟨left, [], ?_, fun hnil => hnil⟩
          rw [List.append_nil] at hfirst
          unfold around
          rw [← hfirst, marked_concat (first ++ [y]), List.append_assoc, show plain [] = [] from rfl, List.append_nil]
        · -- white space in a secret
          have hlast' : (plain left ++ marked first) ++ [(y, true)] = (key ++ before) ++ [w] := by
            rw [marked_concat] at hfirst
            simpa only [List.append_assoc] using hfirst
          obtain ⟨-, hw⟩ := List.append_inj' hlast' rfl
          have hspace := hbefore w (List.mem_append_right _ (List.mem_singleton.mpr rfl))
          rw [← (List.cons.inj hw).1] at hspace
          have hy := hplain y (by simp)
          rw [not_isSpace_of_valueUnit hy.1] at hspace
          cases hspace
  · exact hshort extra hkeyText hright

/-- The secret stands in no value: no unfinished pair is before any of its units. -/
def Outside (left secret : Units) : Prop :=
  ∀ first last, secret = first ++ last → last ≠ [] → ¬ Unfinished (left ++ first)

theorem continues_of_plain {secret first last : Units} (hplain : ∀ u ∈ secret, isValueUnit u = true ∧ u ≠ 58)
    (hsecret : secret = first ++ last) (hne : last ≠ []) (right : Units) : Continues (last ++ right) := by
  obtain ⟨u, last, rfl⟩ := List.exists_cons_of_ne_nil hne
  refine ⟨u, last ++ right, rfl, (hplain u ?_).1⟩
  rw [hsecret]
  exact List.mem_append_right _ (List.mem_cons_self ..)

theorem sep_of_plain {text : Units} {sep : Cell} (hmem : sep ∈ plain text) :
    (if sep.1 = 61 then sep else (61, false)) = ((61, false) : Cell) := by
  obtain ⟨u, -, rfl⟩ := List.mem_map.mp hmem
  split
  · next hequals => exact Prod.ext hequals rfl
  · rfl

/-- A whole pair before a secret. -/
theorem PairCells.around {key before after value left' : List Cell} {sep : Cell} {left secret right : Units}
    (h : PairCells (Sepigs.around left secret right) key before sep after value
      (left' ++ (marked secret ++ plain right)))
    (hleft : plain left = key ++ ((before ++ sep :: after) ++ (value ++ left'))) (houtside : Outside left secret)
    (hplain : ∀ u ∈ secret, isValueUnit u = true ∧ u ≠ 58) :
    ∃ text rest, left' = plain rest ∧ rest.length < left.length ∧ Outside rest secret ∧
      ∀ left'' right'', Sepigs.redactPairs (Sepigs.around rest secret right) = Sepigs.around left'' secret right'' →
        Sepigs.redactPairs (Sepigs.around left secret right) = Sepigs.around (text ++ left'') secret right'' := by
  obtain ⟨key, tail, rfl, rfl, htail⟩ := plain_eq_append hleft
  obtain ⟨gap, tail, rfl, hgap, htail⟩ := plain_eq_append htail.symm
  obtain ⟨value, rest, rfl, rfl, rfl⟩ := plain_eq_append htail.symm
  refine ⟨key ++ (61 :: units "<redacted>"), rest, rfl, ?_, ?_, ?_⟩
  · have hpos := List.length_pos_iff.mpr h.pair.nonempty
    rw [plain_units] at hpos
    simp only [List.length_append]
    omega
  · intro first last hsecret hne
    have hpair := h.pair
    rw [around_units, hgap] at hpair
    simp only [plain_units, List.map_append, marked_units, hsecret, List.append_assoc] at hpair
    have hpair' : PairText (key ++ (gap ++ (value ++ ((rest ++ first) ++ (last ++ right))))) key gap value
        ((rest ++ first) ++ (last ++ right)) := by simpa only [List.append_assoc] using hpair
    rw [← unfinished_pair_iff hpair' (continues_of_plain hplain hsecret hne right)]
    have hclosed := houtside first last hsecret hne
    simpa only [List.append_assoc] using hclosed
  · intro left'' right'' hredact
    have hmem : sep ∈ plain gap := by
      rw [← hgap]
      simp
    have hsep := sep_of_plain hmem
    rw [h.redactPairs, hsep]
    unfold Sepigs.around at hredact ⊢
    rw [hredact]
    simp only [plain_append, List.append_assoc]
    rfl

/-- Where no pair begins, one unit before the secret makes no difference. -/
theorem Outside.tail_left {d : UInt16} {left secret right : Units} (houtside : Outside (d :: left) secret)
    (hplain : ∀ u ∈ secret, isValueUnit u = true ∧ u ≠ 58)
    (hnone : pairAt (d :: left ++ (secret ++ right)) = none) : Outside left secret := by
  intro first last hsecret hne
  have hnone' : pairAt (d :: ((left ++ first) ++ (last ++ right))) = none := by
    rw [hsecret] at hnone
    simpa using hnone
  rw [← unfinished_cons_iff hnone' (continues_of_plain hplain hsecret hne right)]
  exact houtside first last hsecret hne

/-- Nor does the first unit of the secret. -/
theorem Outside.tail_secret {c : UInt16} {secret right : Units} (houtside : Outside [] (c :: secret))
    (hplain : ∀ u ∈ c :: secret, isValueUnit u = true ∧ u ≠ 58)
    (hnone : pairAt (c :: secret ++ right) = none) : Outside [] secret := by
  intro first last hsecret hne
  have hsplit : c :: secret = (c :: first) ++ last := by rw [hsecret]; rfl
  have hnone' : pairAt (c :: (first ++ (last ++ right))) = none := by
    rw [hsecret] at hnone
    simpa using hnone
  show ¬ Unfinished first
  rw [← unfinished_cons_iff hnone' (continues_of_plain hplain hsplit hne right)]
  exact houtside _ _ hsplit hne

/-- A secret outside of all values is kept by the first pattern. -/
theorem redactPairs_around {left secret right : Units} (hplain : ∀ u ∈ secret, isValueUnit u = true ∧ u ≠ 58)
    (houtside : Outside left secret) :
    ∃ left' right', redactPairs (around left secret right) = around left' secret right' ∧
      (left = [] → left' = []) := by
  induction hlength : left.length + secret.length using Nat.strong_induction_on generalizing left secret with
  | _ n ih =>
    subst hlength
    cases secret with
    | nil =>
      refine ⟨[], replaceAll id id markedPairPattern (left ++ right), ?_, fun _ => rfl⟩
      have hplainText : around left [] right = plain (left ++ right) := by
        rw [plain_append]
        rfl
      rw [hplainText, redactPairs_plain]
      rfl
    | cons c secret =>
      cases hmatch : pairAt ((around left (c :: secret) right).map Prod.fst) with
      | none =>
        have hnone := hmatch
        rw [around_units] at hnone
        cases left with
        | nil =>
          have houtside' : Outside [] secret := Outside.tail_secret houtside hplain hnone
          obtain ⟨left', right', hredact, hleft⟩ := ih _ (by simp)
            (fun u hu => hplain u (List.mem_cons_of_mem _ hu)) houtside' rfl
          obtain rfl := hleft rfl
          refine ⟨[], right', ?_, fun _ => rfl⟩
          have hkeep : redactPairs (around [] (c :: secret) right) = (c, true) :: redactPairs (around [] secret right) :=
            redactPairs_keep hmatch
          rw [hkeep, hredact]
          rfl
        | cons d left =>
          have houtside' : Outside left (c :: secret) := Outside.tail_left houtside hplain hnone
          obtain ⟨left', right', hredact, -⟩ := ih _ (by simp) hplain houtside' rfl
          refine ⟨d :: left', right', ?_, fun hnil => by cases hnil⟩
          have hkeep : redactPairs (around (d :: left) (c :: secret) right) =
              (d, false) :: redactPairs (around left (c :: secret) right) := redactPairs_keep hmatch
          rw [hkeep, hredact]
          rfl
      | some pair =>
        obtain ⟨key, gap, value, rest, htext, -⟩ := pairText_of_pairAt hmatch
        obtain ⟨key, before, sep, after, value, rest, hcells, -⟩ := htext.cells
        have hne : value ≠ [] := by simpa using hcells.pair.nonempty
        have hcut : plain left ++ (marked (c :: secret) ++ plain right) =
            key ++ ((before ++ sep :: after) ++ (value ++ rest)) := hcells.split
        rcases pair_cut hcut hne with
          ⟨left', hleft, hrest⟩ | ⟨part, tail, hleft, hvalueText, hnil, htail⟩ | ⟨tail, hleft, hnil, htail⟩
        · -- a whole pair before
          rw [hrest] at hcells
          obtain ⟨text, rest', -, hlt, houtside', hback⟩ := hcells.around hleft houtside hplain
          obtain ⟨left'', right'', hredact, -⟩ := ih _ (by omega) hplain houtside' rfl
          exact ⟨text ++ left'', right'', hback _ _ hredact, fun hnil => by simp [hnil, plain] at hleft⟩
        · -- in a value
          have hopen : Unfinished left := by
            have hunits := congrArg (List.map Prod.fst) hleft
            rw [plain_units, List.map_append, List.map_append] at hunits
            rw [hunits]
            exact hcells.pair.unfinished (by rw [hvalueText, List.map_append])
          refine absurd hopen ?_
          rw [← List.append_nil left]
          exact houtside [] _ rfl (List.cons_ne_nil _ _)
        · -- before the value
          have hshort : ∃ extra, tail = marked (c :: secret) ++ extra ∧ plain right = extra ++ (value ++ rest) := by
            rcases List.append_eq_append_iff.mp htail with ⟨extra, htailText, hright⟩ | ⟨extra, hsecret, hvalue⟩
            · exact ⟨extra, htailText, hright⟩
            · by_cases hextra : extra = []
              · subst hextra
                exact ⟨[], by rw [List.append_nil]; exact (hsecret.trans (List.append_nil _)).symm, hvalue.symm⟩
              · -- the value starts in the secret
                obtain ⟨first, last, hsplit, rfl, rfl⟩ := marked_eq_append hsecret
                refine absurd ?_ (houtside first last hsplit (by simpa [marked] using hextra))
                have hunits : key.map Prod.fst ++ (before ++ sep :: after).map Prod.fst = left ++ first := by
                  rw [← List.map_append, hleft, List.map_append, plain_units, marked_units]
                rw [← hunits, ← List.append_nil ((before ++ sep :: after).map Prod.fst)]
                exact hcells.pair.unfinished rfl
          obtain ⟨extra, rfl, hright⟩ := hshort
          obtain ⟨right₀, after', rfl, rfl, hafter⟩ := plain_eq_append hright
          obtain ⟨value, rest, rfl, rfl, rfl⟩ := plain_eq_append hafter.symm
          obtain ⟨left', right', hkept, hnil⟩ := key_keeps hcells.before hcells.after hcells.sep hplain
            (List.cons_ne_nil _ _) hleft
          refine ⟨left', right' ++ (units "<redacted>" ++ replaceAll id id markedPairPattern rest), ?_, hnil⟩
          rw [hcells.redactPairs, redactPairs_plain, List.append_cons, hkept]
          unfold around
          simp only [plain_append, List.append_assoc]

end Sepigs

