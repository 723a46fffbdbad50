import Sepigs.Reload.Redaction

/-!
# A secret in the user name and password of a URL

The second pattern of `sanitizeReloadMessage`.  Two of its matches never overlap, so a secret inside
of one is redacted wherever the pattern starts to look.
-/

namespace Sepigs

open Replace

/-- `://user:password@` at the start of a text. -/
structure UserinfoText (text user password rest : Units) : Prop where
  text : text = units "://" ++ (user ++ 58 :: (password ++ 64 :: rest))
  userNonempty : user ≠ []
  user : ∀ u ∈ user, isUserUnit u = true
  passwordNonempty : password ≠ []
  password : ∀ u ∈ password, isPasswordUnit u = true

theorem userinfoAt_of_text {text user password rest : Units} (h : UserinfoText text user password rest) :
    userinfoAt text = some (3 + (user.length + (1 + (password.length + 1)))) := by
  have hstarts : (units "://").isPrefixOf text = true := by
    rw [h.text, List.isPrefixOf_iff_prefix]
    exact List.prefix_append _ _
  have hdrop : text.drop 3 = user ++ 58 :: (password ++ 64 :: rest) := by
    rw [h.text]
    exact List.drop_left' rfl
  have hcolon : ¬ isUserUnit 58 = true := by decide
  have hat : ¬ isPasswordUnit 64 = true := by decide
  unfold userinfoAt
  rw [if_pos hstarts, hdrop]
  dsimp only
  rw [List.dropWhile_append_of_pos h.user, List.takeWhile_append_of_pos h.user, List.dropWhile_cons_of_neg hcolon,
    List.takeWhile_cons_of_neg hcolon, List.append_nil]
  dsimp only
  rw [List.dropWhile_append_of_pos h.password, List.takeWhile_append_of_pos h.password,
    List.dropWhile_cons_of_neg hat, List.takeWhile_cons_of_neg hat, List.append_nil,
    if_pos ⟨rfl, h.userNonempty, h.passwordNonempty, rfl⟩]

theorem text_of_userinfoAt {text : Units} {n : Nat} (h : userinfoAt text = some n) :
    ∃ user password rest, UserinfoText text user password rest ∧
      n = 3 + (user.length + (1 + (password.length + 1))) := by
  unfold userinfoAt at h
  split at h
  · next hstarts =>
    obtain ⟨after, hafter⟩ := List.isPrefixOf_iff_prefix.mp hstarts
    have hdrop : text.drop 3 = after := by
      rw [← hafter]
      exact List.drop_left' rfl
    rw [hdrop] at h
    dsimp only at h
    cases hcolon : after.dropWhile isUserUnit with
    | nil =>
      rw [hcolon] at h
      cases h
    | cons colon tail =>
      rw [hcolon] at h
      dsimp only at h
      split at h
      · next hall =>
        obtain ⟨rfl, huser, hpassword, hat⟩ := hall
        obtain ⟨rest, hrest⟩ := List.head?_eq_some_iff.mp hat
        refine ⟨after.takeWhile isUserUnit, tail.takeWhile isPasswordUnit, rest, ⟨?_, huser,
          fun u hu => List.mem_takeWhile_imp hu, hpassword, fun u hu => List.mem_takeWhile_imp hu⟩,
          (Option.some.inj h).symm⟩
        rw [← hrest, List.takeWhile_append_dropWhile, ← hcolon, List.takeWhile_append_dropWhile, hafter]
      · cases h
  · cases h

/-- The match itself. -/
def userinfoUnits (user password : Units) : Units := units "://" ++ (user ++ 58 :: (password ++ [64]))

theorem UserinfoText.split {text user password rest : Units} (h : UserinfoText text user password rest) :
    text = userinfoUnits user password ++ rest := by
  rw [h.text]
  unfold userinfoUnits
  simp only [List.append_assoc, List.cons_append, List.nil_append]

theorem UserinfoText.length {text user password rest : Units} (h : UserinfoText text user password rest) :
    userinfoAt text = some (userinfoUnits user password).length := by
  rw [userinfoAt_of_text h]
  unfold userinfoUnits
  have hlength : (units "://").length = 3 := rfl
  simp only [List.length_append, List.length_cons, List.length_nil, hlength, Nat.zero_add, Nat.add_comm 1]

/-- A secret stands in a user name and password, and what ends them is there. -/
def InUserinfo (left secret right : Units) : Prop :=
  ∃ before start finish rest user password, left = before ++ start ∧ right = finish ++ rest ∧
    UserinfoText (start ++ (secret ++ finish)) user password []

theorem InUserinfo.append {left secret right : Units} (h : InUserinfo left secret right) (more : Units) :
    InUserinfo (more ++ left) secret right := by
  obtain ⟨before, start, finish, rest, user, password, rfl, rfl, htext⟩ := h
  exact ⟨more ++ before, start, finish, rest, user, password, (List.append_assoc ..).symm, rfl, htext⟩

theorem slash_not_mem {user password : Units} (huser : ∀ u ∈ user, isUserUnit u = true)
    (hpassword : ∀ u ∈ password, isPasswordUnit u = true) : 47 ∉ user ++ 58 :: (password ++ [64]) := by
  intro hmem
  rcases List.mem_append.mp hmem with hmem | hmem
  · exact absurd (huser _ hmem) (by decide)
  · rcases List.mem_cons.mp hmem with heq | hmem
    · exact absurd heq (by decide)
    · rcases List.mem_append.mp hmem with hmem | hmem
      · exact absurd (hpassword _ hmem) (by decide)
      · exact absurd (List.mem_singleton.mp hmem) (by decide)

/-- No match starts inside of another one. -/
theorem no_userinfo_inside {user password before after rest : Units} (huser : ∀ u ∈ user, isUserUnit u = true)
    (hpassword : ∀ u ∈ password, isPasswordUnit u = true)
    (hsplit : userinfoUnits user password = before ++ after) (hbefore : before ≠ []) (hafter : after ≠ [])
    (hstarts : units "://" <+: after ++ rest) : False := by
  have hslash := slash_not_mem huser hpassword
  obtain ⟨x, before, rfl⟩ := List.exists_cons_of_ne_nil hbefore
  obtain ⟨a, after, rfl⟩ := List.exists_cons_of_ne_nil hafter
  obtain ⟨more, hmore⟩ := hstarts
  have hcolon : (58 : UInt16) :: (47 :: (47 :: more)) = a :: (after ++ rest) := hmore
  obtain ⟨rfl, htail⟩ := List.cons.inj hcolon
  have hwhole : (58 : UInt16) :: (47 :: (47 :: (user ++ 58 :: (password ++ [64])))) = x :: (before ++ 58 :: after) :=
    hsplit
  have hinside := (List.cons.inj hwhole).2
  cases after with
  | nil =>
    -- the last unit of the match is an `@`
    have hends : ((47 : UInt16) :: 47 :: user ++ 58 :: password) ++ [64] = before ++ [58] := by
      simpa using hinside
    exact absurd (List.append_inj' hends rfl).2 (by decide)
  | cons b after =>
    obtain ⟨rfl, -⟩ := List.cons.inj htail
    rcases before with _ | ⟨y, _ | ⟨z, before⟩⟩
    · exact absurd (List.cons.inj hinside).1 (by decide)
    · exact absurd (List.cons.inj (List.cons.inj hinside).2).1 (by decide)
    · refine hslash ?_
      rw [(List.cons.inj (List.cons.inj hinside).2).2]
      simp

/-! ## In the marked text -/

theorem redactUserinfo_keep {c : Cell} {rest : List Cell} (hnone : userinfoAt ((c :: rest).map Prod.fst) = none) :
    redactUserinfo (c :: rest) = c :: redactUserinfo rest := by
  refine replaceAll_keep userinfoPattern_positive ?_
  unfold userinfoPattern
  rw [hnone]
  rfl

theorem redactUserinfo_plain (text : Units) :
    redactUserinfo (plain text) = plain (replaceAll id id userinfoPattern text) :=
  (map_replaceAll Prod.fst (fun u => (u, false)) (fun u => (u, false)) userinfoPattern_positive
    (fun _ => rfl) (fun _ => rfl) text).symm

/-- A match that is replaced. -/
theorem UserinfoText.redactUserinfo {cells match' rest : List Cell} {user password after : Units}
    (h : UserinfoText (cells.map Prod.fst) user password after) (hsplit : cells = match' ++ rest)
    (hmatch : match'.map Prod.fst = userinfoUnits user password) :
    redactUserinfo cells = plain (units "://<redacted>:<redacted>@") ++ Sepigs.redactUserinfo rest := by
  have hlength : (userinfoUnits user password).length = match'.length := by
    rw [← hmatch, List.length_map]
  have hne : cells ≠ [] := by
    rintro rfl
    have hnil := congrArg List.length h.text
    simp at hnil
  have hpattern : userinfoPattern (cells.map Prod.fst) =
      some ⟨match'.length, [.text (units "://<redacted>:<redacted>@")]⟩ := by
    unfold userinfoPattern
    rw [h.length, hlength]
    rfl
  unfold Sepigs.redactUserinfo
  rw [replaceAll_edit userinfoPattern_positive hne hpattern]
  dsimp only
  rw [hsplit, List.drop_left]
  rfl

/-- A text around a secret that a match starts. -/
theorem userinfo_cut {left secret right user password rest : Units} (hat : 64 ∉ secret)
    (h : UserinfoText (left ++ (secret ++ right)) user password rest) (hout : ¬ InUserinfo left secret right) :
    ∃ left', left = userinfoUnits user password ++ left' := by
  have hsplit := h.split
  rcases List.append_eq_append_iff.mp hsplit with ⟨extra, hunits, hright⟩ | ⟨left', hleft, -⟩
  · rcases List.append_eq_append_iff.mp hright with ⟨finish, rfl, rfl⟩ | ⟨more, hsecret, -⟩
    · -- the match goes on after the secret
      refine absurd ⟨[], left, finish, rest, user, password, rfl, rfl, ?_, h.userNonempty, h.user,
        h.passwordNonempty, h.password⟩ hout
      rw [← hunits]
      rfl
    · -- it ends in the secret, or before it
      rcases List.eq_nil_or_concat' extra with rfl | ⟨extra, last, rfl⟩
      · refine ⟨[], ?_⟩
        rw [hunits, List.append_nil, List.append_nil]
      · have hends : (units "://" ++ (user ++ 58 :: password)) ++ [64] = (left ++ extra) ++ [last] := by
          unfold userinfoUnits at hunits
          simpa only [List.append_assoc, List.cons_append] using hunits
        obtain ⟨rfl, -⟩ := List.cons.inj (List.append_inj' hends rfl).2
        refine absurd ?_ hat
        rw [hsecret]
        simp
  · exact ⟨left', hleft⟩

theorem redactUserinfo_secret {secret : Units} (hcolon : 58 ∉ secret) (right : Units) :
    redactUserinfo (marked secret ++ plain right) =
      marked secret ++ plain (replaceAll id id userinfoPattern right) := by
  induction secret with
  | nil => exact redactUserinfo_plain right
  | cons u secret ih =>
    have hnone : userinfoAt (((u, true) :: (marked secret ++ plain right)).map Prod.fst) = none := by
      cases hmatch : userinfoAt (((u, true) :: (marked secret ++ plain right)).map Prod.fst) with
      | none => rfl
      | some n =>
        obtain ⟨user, password, rest, htext, -⟩ := text_of_userinfoAt hmatch
        obtain ⟨rfl, -⟩ := List.cons.inj htext.text
        exact absurd (List.mem_cons_self ..) hcolon
    have hkeep := redactUserinfo_keep hnone
    rw [ih (fun hmem => hcolon (List.mem_cons_of_mem _ hmem))] at hkeep
    exact hkeep

/-- A secret outside of all matches is kept by the second pattern. -/
theorem redactUserinfo_around {left secret right : Units} (hcolon : 58 ∉ secret) (hat : 64 ∉ secret)
    (hout : ¬ InUserinfo left secret right) :
    ∃ left' right', redactUserinfo (around left secret right) = around left' secret right' := by
  induction hlength : left.length using Nat.strong_induction_on generalizing left with
  | _ n ih =>
    subst hlength
    cases left with
    | nil => exact ⟨[], _, redactUserinfo_secret hcolon right⟩
    | cons d left =>
      cases hmatch : userinfoAt ((around (d :: left) secret right).map Prod.fst) with
      | none =>
        obtain ⟨left', right', hredact⟩ := ih left.length (Nat.lt_succ_self _) (mt (fun h => h.append [d]) hout) rfl
        have hkeep : redactUserinfo (around (d :: left) secret right) =
            (d, false) :: redactUserinfo (around left secret right) := redactUserinfo_keep hmatch
        refine ⟨d :: left', right', ?_⟩
        rw [hkeep, hredact]
        rfl
      | some n =>
        obtain ⟨user, password, rest, htext, -⟩ := text_of_userinfoAt hmatch
        have htext' := htext
        rw [around_units] at htext'
        obtain ⟨left', hleft⟩ := userinfo_cut hat htext' hout
        have hlt : left'.length < (d :: left).length := by
          rw [hleft]
          unfold userinfoUnits
          simp only [List.length_append, List.length_cons]
          omega
        rw [hleft] at hout
        obtain ⟨left'', right'', hredact⟩ := ih left'.length hlt (mt (fun h => h.append _) hout) rfl
        have hcells : around (d :: left) secret right = plain (userinfoUnits user password) ++
            around left' secret right := by
          unfold around
          rw [hleft, plain_append, List.append_assoc]
        refine ⟨units "://<redacted>:<redacted>@" ++ left'', right'', ?_⟩
        rw [htext.redactUserinfo hcells (plain_units _), hredact]
        unfold around
        rw [plain_append, List.append_assoc]

/-- A match is replaced whatever is before it. -/
theorem redactUserinfo_match {match' : List Cell} {user password : Units}
    (hmatch : UserinfoText (match'.map Prod.fst) user password []) (before rest : Units) :
    ∃ text, redactUserinfo (plain before ++ (match' ++ plain rest)) = plain text := by
  have hunits : match'.map Prod.fst = userinfoUnits user password := by
    rw [hmatch.split, List.append_nil]
  induction hlength : before.length using Nat.strong_induction_on generalizing before with
  | _ n ih =>
    subst hlength
    cases before with
    | nil =>
      have htext : UserinfoText ((match' ++ plain rest).map Prod.fst) user password rest := by
        refine ⟨?_, hmatch.userNonempty, hmatch.user, hmatch.passwordNonempty, hmatch.password⟩
        rw [List.map_append, hunits, plain_units]
        unfold userinfoUnits
        simp only [List.append_assoc, List.cons_append, List.nil_append]
      refine ⟨units "://<redacted>:<redacted>@" ++ replaceAll id id userinfoPattern rest, ?_⟩
      show redactUserinfo (match' ++ plain rest) = _
      rw [htext.redactUserinfo rfl hunits, redactUserinfo_plain, plain_append]
    | cons d before =>
      cases hcut : userinfoAt ((plain (d :: before) ++ (match' ++ plain rest)).map Prod.fst) with
      | none =>
        obtain ⟨text, htext⟩ := ih before.length (Nat.lt_succ_self _) before rfl
        have hkeep : redactUserinfo (plain (d :: before) ++ (match' ++ plain rest)) =
            (d, false) :: redactUserinfo (plain before ++ (match' ++ plain rest)) := redactUserinfo_keep hcut
        refine ⟨d :: text, ?_⟩
        rw [hkeep, htext]
        rfl
      | some n =>
        obtain ⟨user', password', rest', htext', -⟩ := text_of_userinfoAt hcut
        have hsplit := htext'.split
        rw [List.map_append, List.map_append, plain_units, plain_units, hunits] at hsplit
        have hbefore : ∃ before', d :: before = userinfoUnits user' password' ++ before' := by
          rcases List.append_eq_append_iff.mp hsplit with ⟨extra, hwhole, hrest⟩ | ⟨before', hbefore, -⟩
          · by_cases hnil : extra = []
            · exact ⟨[], by rw [hwhole, hnil, List.append_nil, List.append_nil]⟩
            · have hstarts : units "://" <+: extra ++ rest' := by
                rw [← hrest]
                unfold userinfoUnits
                rw [List.append_assoc]
                exact List.prefix_append _ _
              exact (no_userinfo_inside htext'.user htext'.password hwhole (List.cons_ne_nil _ _) hnil hstarts).elim
          · exact ⟨before', hbefore⟩
        obtain ⟨before', hbefore⟩ := hbefore
        have hlt : before'.length < (d :: before).length := by
          rw [hbefore]
          unfold userinfoUnits
          simp only [List.length_append, List.length_cons]
          omega
        obtain ⟨text, htext⟩ := ih before'.length hlt before' rfl
        have hcells : plain (d :: before) ++ (match' ++ plain rest) = plain (userinfoUnits user' password') ++
            (plain before' ++ (match' ++ plain rest)) := by
          rw [hbefore, plain_append, List.append_assoc]
        refine ⟨units "://<redacted>:<redacted>@" ++ text, ?_⟩
        rw [htext'.redactUserinfo hcells (plain_units _), htext, plain_append]

/-- A secret in a user name and password is not kept. -/
theorem InUserinfo.redactUserinfo {left secret right : Units} (h : InUserinfo left secret right) :
    ∃ text, Sepigs.redactUserinfo (around left secret right) = plain text := by
  obtain ⟨before, start, finish, rest, user, password, rfl, rfl, htext⟩ := h
  have hcells : around (before ++ start) secret (finish ++ rest) =
      plain before ++ ((plain start ++ (marked secret ++ plain finish)) ++ plain rest) := by
    unfold around
    simp only [plain_append, List.append_assoc]
  have hmatch : UserinfoText ((plain start ++ (marked secret ++ plain finish)).map Prod.fst) user password [] := by
    rwa [List.map_append, List.map_append, plain_units, marked_units, plain_units]
  rw [hcells]
  exact redactUserinfo_match hmatch before rest

end Sepigs
