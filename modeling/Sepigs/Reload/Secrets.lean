import Sepigs.Reload.Userinfo

/-!
# Secrets in the messages of a reload

`sanitizeReloadMessage` over marked text: what of a secret is within the bound, and whether it
stays.
-/

namespace Sepigs

open Replace

/-- `message.replaceAll(/\s+/gu, " ").trim()` -/
def squeezeCells (cells : List Cell) : List Cell :=
  ((replaceAll Prod.fst (fun u => (u, false)) spacePattern cells).dropWhile (isSpace ∘ Prod.fst)).rdropWhile
    (isSpace ∘ Prod.fst)

/-- `sanitizeReloadMessage`, with the marks of a secret. -/
def sanitizeCells (cells : List Cell) : List Cell := redactUserinfo (redactPairs ((squeezeCells cells).take 512))

theorem spacePattern_eq_some {text : Units} {edit : Edit UInt16} (h : spacePattern text = some edit) :
    text.takeWhile isSpace ≠ [] ∧ edit = ⟨(text.takeWhile isSpace).length, [.text [32]]⟩ := by
  unfold spacePattern at h
  dsimp only at h
  split at h
  · cases h
  · next hne => exact ⟨hne, (Option.some.inj h).symm⟩

theorem spacePattern_positive : Positive spacePattern := by
  intro text edit h
  obtain ⟨hne, rfl⟩ := spacePattern_eq_some h
  exact List.length_pos_iff.mpr hne

theorem rdropWhile_map {α β : Type} (f : α → β) (p : β → Bool) (cells : List α) :
    (cells.map f).rdropWhile p = (cells.rdropWhile (p ∘ f)).map f := by
  show ((cells.map f).reverse.dropWhile p).reverse = (cells.reverse.dropWhile (p ∘ f)).reverse.map f
  rw [← List.map_reverse, List.dropWhile_map, List.map_reverse]

/-- The marks do not change the message. -/
theorem sanitizeCells_units (cells : List Cell) :
    (sanitizeCells cells).map Prod.fst = sanitizeReloadMessage (cells.map Prod.fst) := by
  unfold sanitizeCells sanitizeReloadMessage squeezeCells squeeze redactUserinfo
  rw [replaceAll_units userinfoPattern_positive, redactPairs_units, List.map_take, ← rdropWhile_map,
    ← List.dropWhile_map, replaceAll_units spacePattern_positive]

/-! ## White space -/

theorem squeeze_keep {c : Cell} {rest : List Cell} (hspace : isSpace c.1 = false) :
    replaceAll Prod.fst (fun u => (u, false)) spacePattern (c :: rest) =
      c :: replaceAll Prod.fst (fun u => (u, false)) spacePattern rest := by
  refine replaceAll_keep spacePattern_positive ?_
  unfold spacePattern
  dsimp only
  rw [List.map_cons, List.takeWhile_cons_of_neg (by simp [hspace]), if_pos rfl]

theorem takeWhile_append_stop {p : UInt16 → Bool} (left : Units) {u : UInt16} (hu : p u = false) (rest : Units) :
    (left ++ u :: rest).takeWhile p = left.takeWhile p := by
  induction left with
  | nil => exact List.takeWhile_cons_of_neg (by simp [hu])
  | cons v left ih =>
    by_cases hv : p v = true
    · rw [List.cons_append, List.takeWhile_cons_of_pos hv, List.takeWhile_cons_of_pos hv, ih]
    · rw [List.cons_append, List.takeWhile_cons_of_neg hv, List.takeWhile_cons_of_neg hv]

/-- White space before a unit that is none does not run into it. -/
theorem squeeze_append (left : Units) {c : Cell} (hspace : isSpace c.1 = false) (rest : List Cell) :
    replaceAll Prod.fst (fun u => (u, false)) spacePattern (plain left ++ c :: rest) =
      plain (replaceAll id id spacePattern left) ++
        c :: replaceAll Prod.fst (fun u => (u, false)) spacePattern rest := by
  induction left using replaceAll_induction id spacePattern_positive with
  | hnil => exact squeeze_keep hspace
  | hkeep u left hmatch ih =>
    rw [List.map_id] at hmatch
    have hu : isSpace u = false := by
      by_contra hu
      unfold spacePattern at hmatch
      dsimp only at hmatch
      rw [List.takeWhile_cons_of_pos (by simpa using hu), if_neg (List.cons_ne_nil _ _)] at hmatch
      cases hmatch
    have hkeep : replaceAll Prod.fst (fun u => (u, false)) spacePattern (plain (u :: left) ++ c :: rest) =
        (u, false) :: replaceAll Prod.fst (fun u => (u, false)) spacePattern (plain left ++ c :: rest) :=
      squeeze_keep hu
    rw [hkeep, ih, replaceAll_keep spacePattern_positive (by rwa [List.map_id])]
    rfl
  | hedit left edit hne hmatch ih =>
    rw [List.map_id] at hmatch
    have hcells : spacePattern ((plain left ++ c :: rest).map Prod.fst) = some edit := by
      rw [List.map_append, plain_units, List.map_cons]
      unfold spacePattern at hmatch ⊢
      rwa [takeWhile_append_stop left hspace]
    obtain ⟨-, rfl⟩ := spacePattern_eq_some hmatch
    have hle : (left.takeWhile isSpace).length ≤ (plain left).length := by
      rw [← List.length_map Prod.fst, plain_units]
      exact (List.takeWhile_sublist _).length_le
    have hdrop : (plain left ++ c :: rest).drop (left.takeWhile isSpace).length =
        plain (left.drop (left.takeWhile isSpace).length) ++ c :: rest := by
      rw [List.drop_append_of_le_length hle]
      unfold plain
      rw [List.map_drop]
    rw [replaceAll_edit spacePattern_positive (by simp) hcells,
      replaceAll_edit spacePattern_positive hne (by rwa [List.map_id])]
    dsimp only
    rw [hdrop, ih, plain_append, List.append_assoc]
    rfl

theorem squeeze_secret {secret : Units} (hspace : ∀ u ∈ secret, isSpace u = false) (right : Units) :
    replaceAll Prod.fst (fun u => (u, false)) spacePattern (marked secret ++ plain right) =
      marked secret ++ plain (replaceAll id id spacePattern right) := by
  induction secret with
  | nil =>
    exact (map_replaceAll Prod.fst (fun u => (u, false)) (fun u => (u, false)) spacePattern_positive
      (fun _ => rfl) (fun _ => rfl) right).symm
  | cons u secret ih =>
    have hkeep : replaceAll Prod.fst (fun u => (u, false)) spacePattern (marked (u :: secret) ++ plain right) =
        (u, true) :: replaceAll Prod.fst (fun u => (u, false)) spacePattern (marked secret ++ plain right) :=
      squeeze_keep (hspace u (List.mem_cons_self ..))
    rw [hkeep, ih fun v hv => hspace v (List.mem_cons_of_mem _ hv)]
    rfl

/-- A message before a secret, without its superfluous white space. -/
def squeezeLeft (left : Units) : Units := (replaceAll id id spacePattern left).dropWhile isSpace

def squeezeRight (right : Units) : Units := (replaceAll id id spacePattern right).rdropWhile isSpace

theorem dropWhile_append_stop {α : Type} {p : α → Bool} (left : List α) {c : α} (hc : p c = false) (rest : List α) :
    (left ++ c :: rest).dropWhile p = left.dropWhile p ++ c :: rest := by
  induction left with
  | nil => exact List.dropWhile_cons_of_neg (by simp [hc])
  | cons v left ih =>
    by_cases hv : p v = true
    · rw [List.cons_append, List.dropWhile_cons_of_pos hv, List.dropWhile_cons_of_pos hv, ih]
    · rw [List.cons_append, List.dropWhile_cons_of_neg hv, List.dropWhile_cons_of_neg hv, List.cons_append]

theorem rdropWhile_append_stop {α : Type} {p : α → Bool} (left : List α) {c : α} (hc : p c = false)
    (right : List α) : ((left ++ [c]) ++ right).rdropWhile p = (left ++ [c]) ++ right.rdropWhile p := by
  show (((left ++ [c]) ++ right).reverse.dropWhile p).reverse = (left ++ [c]) ++ (right.reverse.dropWhile p).reverse
  have hreverse : ((left ++ [c]) ++ right).reverse = right.reverse ++ c :: left.reverse := by simp
  rw [hreverse, dropWhile_append_stop _ hc]
  simp

theorem squeeze_around {left secret right : Units} (hne : secret ≠ []) (hspace : ∀ u ∈ secret, isSpace u = false) :
    replaceAll Prod.fst (fun u => (u, false)) spacePattern (around left secret right) =
      around (replaceAll id id spacePattern left) secret (replaceAll id id spacePattern right) := by
  obtain ⟨u, tail, rfl⟩ := List.exists_cons_of_ne_nil hne
  have happend := squeeze_append left (hspace u (List.mem_cons_self ..)) (c := (u, true)) (marked tail ++ plain right)
  rw [squeeze_secret fun v hv => hspace v (List.mem_cons_of_mem _ hv)] at happend
  exact happend

/-- White space around a secret is squeezed, and the secret is not touched. -/
theorem squeezeCells_around {left secret right : Units} (hne : secret ≠ [])
    (hspace : ∀ u ∈ secret, isSpace u = false) :
    squeezeCells (around left secret right) = around (squeezeLeft left) secret (squeezeRight right) := by
  have hstart : ∀ (text : Units) (rest : List Cell),
      (plain text ++ (marked secret ++ rest)).dropWhile (isSpace ∘ Prod.fst) =
        plain (text.dropWhile isSpace) ++ (marked secret ++ rest) := by
    intro text rest
    obtain ⟨u, tail, rfl⟩ := List.exists_cons_of_ne_nil hne
    have hdrop := dropWhile_append_stop (plain text) (p := isSpace ∘ Prod.fst) (c := (u, true))
      (hspace u (List.mem_cons_self ..)) (marked tail ++ rest)
    unfold plain at hdrop ⊢
    rw [List.dropWhile_map] at hdrop
    exact hdrop
  have hends : ∀ (cells : List Cell) (text : Units),
      ((cells ++ marked secret) ++ plain text).rdropWhile (isSpace ∘ Prod.fst) =
        (cells ++ marked secret) ++ plain (text.rdropWhile isSpace) := by
    intro cells text
    obtain ⟨tail, u, rfl⟩ := (List.eq_nil_or_concat' secret).resolve_left hne
    have hdrop := rdropWhile_append_stop (cells ++ marked tail) (p := isSpace ∘ Prod.fst) (c := (u, true))
      (hspace u (by simp)) (plain text)
    unfold plain at hdrop ⊢
    rw [rdropWhile_map] at hdrop
    rw [marked_concat, ← List.append_assoc]
    exact hdrop
  unfold squeezeCells squeezeLeft squeezeRight
  rw [squeeze_around hne hspace]
  unfold around
  rw [hstart, ← List.append_assoc, hends, List.append_assoc]

/-! ## The bound -/

/-- What is kept of the text before a secret. -/
def boundedLeft (left : Units) : Units := (squeezeLeft left).take 512

/-- What the bound leaves of a secret: all of it, a start of it, or nothing. -/
def bounded (left secret : Units) : Units := secret.take (512 - (squeezeLeft left).length)

def boundedRight (left secret right : Units) : Units :=
  (squeezeRight right).take (512 - (squeezeLeft left).length - secret.length)

theorem take_around (n : Nat) (left secret right : Units) : (around left secret right).take n =
    around (left.take n) (secret.take (n - left.length)) (right.take (n - left.length - secret.length)) := by
  unfold around plain marked
  rw [List.take_append, List.take_append, List.length_map, List.length_map, List.map_take, List.map_take,
    List.map_take]

/-- The characters that a secret does not have, apart from white space. -/
def delimiters : Units := units "\"',;:/@"

def IsSecret (secret : Units) : Prop := secret ≠ [] ∧ ∀ u ∈ secret, isSpace u = false ∧ u ∉ delimiters

/-- What the bound leaves of a secret is in the output. -/
def Survives (left secret right : Units) : Prop :=
  bounded left secret ≠ [] ∧
    ∃ left' right', sanitizeCells (around left secret right) = around left' (bounded left secret) right'

/-- Part of what the bound leaves of a secret is in the value of a pair, or it is in the user name and the
password of a URL once the pairs are written with their values redacted. -/
def Redacted (left secret right : Units) : Prop :=
  (∃ first last, bounded left secret = first ++ last ∧ last ≠ [] ∧ Unfinished (boundedLeft left ++ first)) ∨
    ∃ left' right', redactPairs (around (boundedLeft left) (bounded left secret) (boundedRight left secret right)) =
      around left' (bounded left secret) right' ∧ InUserinfo left' (bounded left secret) right'

theorem IsSecret.plain {secret : Units} (h : IsSecret secret) {u : UInt16} (hu : u ∈ secret) :
    isValueUnit u = true ∧ u ≠ 58 ∧ u ≠ 64 := by
  obtain ⟨hspace, hdelimiter⟩ := h.2 u hu
  have hnot : ∀ v ∈ delimiters, u ≠ v := by
    rintro v hv rfl
    exact hdelimiter hv
  unfold isValueUnit
  rw [hspace]
  refine ⟨?_, hnot 58 (by decide), hnot 64 (by decide)⟩
  simp [hnot 44 (by decide), hnot 59 (by decide)]

theorem sanitizeCells_around {left secret right : Units} (h : IsSecret secret) :
    sanitizeCells (around left secret right) = redactUserinfo (redactPairs
      (around (boundedLeft left) (bounded left secret) (boundedRight left secret right))) := by
  unfold sanitizeCells
  rw [squeezeCells_around h.1 fun u hu => (h.2 u hu).1, take_around]
  rfl

theorem marks_around (left secret right : Units) : marks (around left secret right) = secret.length := by
  unfold around
  rw [marks_append, marks_append, marks_plain, marks_marked, marks_plain, Nat.zero_add, Nat.add_zero]

theorem marks_redactUserinfo_le (cells : List Cell) : marks (redactUserinfo cells) ≤ marks cells := by
  unfold redactUserinfo
  induction cells using replaceAll_induction Prod.fst userinfoPattern_positive with
  | hnil => exact Nat.le_refl _
  | hkeep c rest hmatch ih =>
    rw [replaceAll_keep userinfoPattern_positive hmatch, marks_cons, marks_cons]
    omega
  | hedit cells edit hne hmatch ih =>
    rw [replaceAll_edit userinfoPattern_positive hne hmatch]
    obtain ⟨n, -, rfl⟩ := Option.map_eq_some_iff.mp hmatch
    have hdrop : marks (cells.drop n) ≤ marks cells := (List.drop_sublist n cells).countP_le
    have hwritten : marks (Edit.apply (fun u => (u, false)) ⟨n, [.text (units "://<redacted>:<redacted>@")]⟩ cells) = 0 := by
      unfold Edit.apply
      rw [List.flatMap_singleton]
      exact marks_plain (units "://<redacted>:<redacted>@")
    rw [marks_append, hwritten, Nat.zero_add]
    exact Nat.le_trans ih hdrop

/-- What the bound leaves of a secret survives exactly if it is not redacted. -/
theorem survives_iff {left secret right : Units} (h : IsSecret secret) :
    Survives left secret right ↔ bounded left secret ≠ [] ∧ ¬ Redacted left secret right := by
  have hplain : ∀ u ∈ bounded left secret, isValueUnit u = true ∧ u ≠ 58 ∧ u ≠ 64 := fun u hu =>
    h.plain (List.mem_of_mem_take hu)
  unfold Survives Redacted
  rw [sanitizeCells_around h]
  constructor
  · rintro ⟨hne, left', right', hkept⟩
    have hmarks := congrArg marks hkept
    rw [marks_around] at hmarks
    refine ⟨hne, ?_⟩
    rintro (⟨first, last, hsplit, hlast, hopen⟩ | ⟨left'', right'', hpairs, hin⟩)
    · obtain ⟨u, last, rfl⟩ := List.exists_cons_of_ne_nil hlast
      have hvalue := (hplain u (by rw [hsplit]; simp)).1
      have hcells : around (boundedLeft left) (bounded left secret) (boundedRight left secret right) =
          (plain (boundedLeft left) ++ marked first) ++
            (u, true) :: (marked last ++ plain (boundedRight left secret right)) := by
        unfold around
        rw [hsplit, marked_append]
        simp only [List.append_assoc]
        rfl
      have hopen' : Unfinished ((plain (boundedLeft left) ++ marked first).map Prod.fst) := by
        rwa [List.map_append, plain_units, marked_units]
      have hpairs : marks (redactPairs ((plain (boundedLeft left) ++ marked first) ++
          (u, true) :: (marked last ++ plain (boundedRight left secret right)))) ≤ _ :=
        marks_redactPairs_of_unfinished hopen' hvalue
      rw [← hcells, marks_append, marks_append, marks_plain, marks_plain, marks_marked, marks_marked] at hpairs
      have hle := marks_redactUserinfo_le (redactPairs
        (around (boundedLeft left) (bounded left secret) (boundedRight left secret right)))
      have hlength := congrArg List.length hsplit
      rw [List.length_append, List.length_cons] at hlength
      omega
    · obtain ⟨text, htext⟩ := hin.redactUserinfo
      rw [hpairs, htext, marks_plain] at hmarks
      exact hne (List.length_eq_zero_iff.mp hmarks.symm)
  · rintro ⟨hne, hnot⟩
    rw [not_or] at hnot
    obtain ⟨hopen, huserinfo⟩ := hnot
    obtain ⟨left', right', hpairs, -⟩ := redactPairs_around (fun u hu => ⟨(hplain u hu).1, (hplain u hu).2.1⟩)
      (fun first last hsplit hlast hunfinished => hopen ⟨first, last, hsplit, hlast, hunfinished⟩)
    have hout : ¬ InUserinfo left' (bounded left secret) right' := fun hin => huserinfo ⟨left', right', hpairs, hin⟩
    obtain ⟨left'', right'', hkept⟩ := redactUserinfo_around (fun hmem => (hplain _ hmem).2.1 rfl)
      (fun hmem => (hplain _ hmem).2.2 rfl) hout
    exact ⟨hne, left'', right'', by rw [hpairs, hkept]⟩

/-! ## Values -/

/-- Where the value of a secret is written: after its key, or in the user name and password of a URL. -/
inductive ValuePosition : Units → Units → Prop where
  | equals {before key : Units} (right : Units) (hkey : IsKey key) :
      ValuePosition (before ++ (key ++ units "=")) right
  | colon {before key : Units} (right : Units) (hkey : IsKey key) :
      ValuePosition (before ++ (key ++ units ": ")) right
  | quoted {before key : Units} (right : Units) (hkey : IsKey key) :
      ValuePosition (before ++ (units "\"" ++ (key ++ units "\":\""))) (units "\"" ++ right)
  | scheme {before key scheme : Units} (right : Units)
      (hkey : "authorization".toList = key.map fun u => JsString.foldCase (unitChar u))
      (hne : scheme ≠ []) (hscheme : IsValue scheme) :
      ValuePosition (before ++ (key ++ (units ": " ++ (scheme ++ units " ")))) right
  | userinfo {before user : Units} (right : Units) (huser : ∀ u ∈ user, isUserUnit u = true) :
      ValuePosition (before ++ (units "://" ++ (user ++ units ":"))) (units "@" ++ right)

/-- No value of the secret, nor a start of one that the bound cuts off, is in the sanitized message. -/
def Sanitized (message secret : Units) : Prop :=
  ∀ left right, message = left ++ (secret ++ right) → ValuePosition left right → ¬ Survives left secret right

/-- A message is sanitized exactly if each value is in what the two patterns redact. -/
theorem sanitized_iff (message : Units) {secret : Units} (h : IsSecret secret) :
    Sanitized message secret ↔ ∀ left right, message = left ++ (secret ++ right) → ValuePosition left right →
      bounded left secret ≠ [] → Redacted left secret right := by
  unfold Sanitized
  constructor
  · intro hsanitized left right hmessage hposition hne
    by_contra hnot
    exact hsanitized left right hmessage hposition ((survives_iff h).mpr ⟨hne, hnot⟩)
  · intro hredacted left right hmessage hposition hsurvives
    obtain ⟨hne, hnot⟩ := (survives_iff h).mp hsurvives
    exact hnot (hredacted left right hmessage hposition hne)

/-- A secret that is in a message once. -/
theorem occurrence_of_once {message secret : Units} {n : Nat}
    (honce : ∀ m ≤ message.length, (message.drop m).take secret.length = secret → m = n) {left right : Units}
    (hmessage : message = left ++ (secret ++ right)) :
    left = message.take n ∧ right = message.drop (n + secret.length) := by
  have hleft : left.length = n := by
    refine honce left.length ?_ ?_
    · rw [hmessage, List.length_append]
      omega
    · rw [hmessage, List.drop_left, List.take_left]
  constructor
  · rw [hmessage, ← hleft, List.take_left]
  · rw [hmessage, ← hleft, ← List.drop_drop, List.drop_left, List.drop_left]

/-- `"password":"hunter2"` is not changed: the quote after the key keeps the first pattern away. -/
theorem quoted_password_kept : ¬ ∀ message secret : Units, IsSecret secret →
    (∀ left right, message = left ++ (secret ++ right) → ValuePosition left right) → Sanitized message secret := by
  intro h
  have honce : ∀ m ≤ (units "\"password\":\"hunter2\"").length,
      ((units "\"password\":\"hunter2\"").drop m).take (units "hunter2").length = units "hunter2" → m = 12 := by
    decide
  have hquoted := @ValuePosition.quoted [] (units "password") [] ⟨"password", by decide, by decide⟩
  have hsurvives : Survives (units "\"password\":\"") (units "hunter2") (units "\"") :=
    ⟨by decide +kernel, units "\"password\":\"", units "\"", by decide +kernel⟩
  refine h (units "\"password\":\"hunter2\"") (units "hunter2") ⟨by decide, JsString.forall_of_all (by decide)⟩ ?_ _ _ rfl hquoted hsurvives
  intro left right hmessage
  obtain ⟨rfl, rfl⟩ := occurrence_of_once honce hmessage
  exact hquoted

/-! ### After an equals sign -/

theorem squeezeLeft_append (before : Units) {text : Units} (hne : text ≠ []) (hspace : ∀ u ∈ text, isSpace u = false) :
    squeezeLeft (before ++ text) = squeezeLeft before ++ text := by
  have hcells : replaceAll Prod.fst (fun u => (u, false)) spacePattern (around before text []) = _ :=
    squeeze_around hne hspace
  have hsqueeze := congrArg (List.map Prod.fst) hcells
  rw [replaceAll_units spacePattern_positive, around_units, around_units] at hsqueeze
  have hnil : replaceAll id id spacePattern [] = [] := rfl
  rw [hnil, List.append_nil] at hsqueeze
  unfold squeezeLeft
  rw [hsqueeze]
  obtain ⟨u, tail, rfl⟩ := List.exists_cons_of_ne_nil hne
  exact dropWhile_append_stop _ (hspace u (List.mem_cons_self ..)) tail

/-- `key=value` is redacted, wherever it is. -/
theorem redacted_after_equals {before key secret right : Units} (hkey : IsKey key)
    (hne : bounded (before ++ (key ++ units "=")) secret ≠ []) :
    Redacted (before ++ (key ++ units "=")) secret right := by
  have hplain : ∀ u ∈ key ++ units "=", isValueUnit u = true := by
    intro u hu
    rcases List.mem_append.mp hu with hu | hu
    · exact valueUnit_of_keyUnit (hkey.keyUnit hu)
    · exact valueUnit_of_sep (.inr (List.mem_singleton.mp hu))
  have hsqueeze := squeezeLeft_append before (List.append_ne_nil_of_left_ne_nil hkey.ne_nil (units "="))
    fun u hu => not_isSpace_of_valueUnit (hplain u hu)
  have hbounded : boundedLeft (before ++ (key ++ units "=")) = squeezeLeft before ++ (key ++ units "=") := by
    unfold boundedLeft bounded at *
    rw [← hsqueeze]
    refine List.take_of_length_le ?_
    by_contra hlong
    refine hne ?_
    rw [Nat.sub_eq_zero_of_le (by omega), List.take_zero]
  refine .inl ⟨[], bounded _ secret, rfl, hne, ?_⟩
  rw [List.append_nil, hbounded]
  by_cases hopen : Unfinished (squeezeLeft before)
  · exact hopen.append hplain
  · refine unfinished_iff.mpr ⟨squeezeLeft before, key, [61], [], rfl, hkey, ⟨[], 61, [], rfl, ?_, .inr rfl, ?_⟩, ?_, hopen⟩
    · exact fun u hu => absurd hu List.not_mem_nil
    · exact fun u hu => absurd hu List.not_mem_nil
    · exact fun u hu => absurd hu List.not_mem_nil

/-- The message of the redaction test. -/
theorem sanitized_password : IsSecret (units "do-not-retain") ∧
    Sanitized (units "password=do-not-retain xxx") (units "do-not-retain") := by
  have hsecret : IsSecret (units "do-not-retain") := ⟨by decide, JsString.forall_of_all (by decide)⟩
  have honce : ∀ m ≤ (units "password=do-not-retain xxx").length, ((units "password=do-not-retain xxx").drop m).take
      (units "do-not-retain").length = units "do-not-retain" → m = 9 := by decide
  refine ⟨hsecret, (sanitized_iff _ hsecret).mpr fun left right hmessage _ hne => ?_⟩
  have hleft : left = units "" ++ (units "password" ++ units "=") := (occurrence_of_once honce hmessage).1
  subst hleft
  exact redacted_after_equals ⟨"password", by decide, by decide⟩ hne

end Sepigs
