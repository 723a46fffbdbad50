import Sepigs.Lib.Json
import Mathlib.Data.Char
import Mathlib.Tactic.IntervalCases

/-!
# The text of a JSON value

`JSON.stringify` without spacing, and that no two values have one text.  A text is read
from its left end: a string ends at the first quotation mark that is not escaped, and what
follows any value starts with a mark that stands in no number.
-/

namespace Json

/-! ## Strings -/

def hexDigitChar (n : Nat) : Char := if n < 10 then Char.ofNat (48 + n) else Char.ofNat (87 + n)

/-- A character inside a quoted string. -/
def escape (c : Char) : List Char :=
  if c = '"' then ['\\', '"']
  else if c = '\\' then ['\\', '\\']
  else if c.toNat < 0x20 then
    match c.toNat with
    | 8 => ['\\', 'b']
    | 9 => ['\\', 't']
    | 10 => ['\\', 'n']
    | 12 => ['\\', 'f']
    | 13 => ['\\', 'r']
    | n => ['\\', 'u', '0', '0', hexDigitChar (n / 16), hexDigitChar (n % 16)]
  else [c]

/-- A quoted string after its first quotation mark. -/
def quoteRest : List Char → List Char
  | [] => ['"']
  | c :: cs => escape c ++ quoteRest cs

def quote (s : String) : List Char := '"' :: quoteRest s.toList

def hexValue (c : Char) : Nat := if c.toNat < 58 then c.toNat - 48 else c.toNat - 87

/-- Reads one character of a quoted string. -/
def readEscaped : List Char → Option (Char × List Char)
  | '\\' :: 'b' :: rest => some (Char.ofNat 8, rest)
  | '\\' :: 't' :: rest => some (Char.ofNat 9, rest)
  | '\\' :: 'n' :: rest => some (Char.ofNat 10, rest)
  | '\\' :: 'f' :: rest => some (Char.ofNat 12, rest)
  | '\\' :: 'r' :: rest => some (Char.ofNat 13, rest)
  | '\\' :: 'u' :: '0' :: '0' :: a :: b :: rest =>
    some (Char.ofNat (16 * hexValue a + hexValue b), rest)
  | '\\' :: c :: rest => some (c, rest)
  | c :: rest => some (c, rest)
  | [] => none

theorem escape_of_lt {n : Nat} (h : n < 0x20) (rest : List Char) :
    readEscaped (escape (Char.ofNat n) ++ rest) = some (Char.ofNat n, rest) := by
  interval_cases n <;> rfl

theorem escape_plain {c : Char} (hquote : c ≠ '"') (hslash : c ≠ '\\') (h : ¬ c.toNat < 0x20) :
    escape c = [c] := by
  unfold escape
  rw [if_neg hquote, if_neg hslash, if_neg h]

theorem readEscaped_plain {c : Char} (hslash : c ≠ '\\') (rest : List Char) :
    readEscaped (c :: rest) = some (c, rest) := by
  unfold readEscaped
  split <;> simp_all

theorem readEscaped_escape (c : Char) (rest : List Char) :
    readEscaped (escape c ++ rest) = some (c, rest) := by
  by_cases hquote : c = '"'
  · subst hquote
    rfl
  by_cases hslash : c = '\\'
  · subst hslash
    rfl
  by_cases hcontrol : c.toNat < 0x20
  · have hread := escape_of_lt hcontrol rest
    rwa [Char.ofNat_toNat] at hread
  · rw [escape_plain hquote hslash hcontrol]
    exact readEscaped_plain hslash rest

theorem escape_head_ne (c : Char) (rest rest' : List Char) : escape c ++ rest ≠ '"' :: rest' := by
  by_cases hquote : c = '"'
  · subst hquote
    simp [escape]
  by_cases hslash : c = '\\'
  · subst hslash
    simp [escape]
  by_cases hcontrol : c.toNat < 0x20
  · unfold escape
    rw [if_neg hquote, if_neg hslash, if_pos hcontrol]
    split <;> simp
  · rw [escape_plain hquote hslash hcontrol]
    simp [hquote]

theorem quoteRest_cons (c : Char) (cs rest : List Char) :
    quoteRest (c :: cs) ++ rest = escape c ++ (quoteRest cs ++ rest) := List.append_assoc _ _ _

theorem quoteRest_append_inj {cs ds r s : List Char}
    (h : quoteRest cs ++ r = quoteRest ds ++ s) : cs = ds ∧ r = s := by
  induction cs generalizing ds with
  | nil =>
    cases ds with
    | nil => exact ⟨rfl, (List.cons.inj h).2⟩
    | cons d ds =>
      rw [quoteRest_cons] at h
      exact absurd h.symm (escape_head_ne d _ _)
  | cons c cs ih =>
    cases ds with
    | nil =>
      rw [quoteRest_cons] at h
      exact absurd h (escape_head_ne c _ _)
    | cons d ds =>
      rw [quoteRest_cons, quoteRest_cons] at h
      have hread := congrArg readEscaped h
      rw [readEscaped_escape, readEscaped_escape] at hread
      obtain ⟨rfl, hrest⟩ := Prod.mk.inj (Option.some.inj hread)
      obtain ⟨rfl, htail⟩ := ih hrest
      exact ⟨rfl, htail⟩

theorem quote_append_inj {s t : String} {r r' : List Char} (h : quote s ++ r = quote t ++ r') :
    s = t ∧ r = r' := by
  obtain ⟨hchars, hrest⟩ := quoteRest_append_inj (List.cons.inj h).2
  exact ⟨String.toList_inj.mp hchars, hrest⟩

/-! ## Values -/

/-- How finite numbers are written: each in its own way, from a digit or a minus sign on,
without the marks of arrays and objects. -/
structure NumberText (text : Rat → List Char) : Prop where
  injective : Function.Injective text
  start : ∀ value, ∃ c cs, text value = c :: cs ∧ (c.isDigit = true ∨ c = '-')
  plain : ∀ value, ∀ c ∈ text value, c ≠ ',' ∧ c ≠ ']' ∧ c ≠ '}'

section Text

variable (number : Rat → List Char)

mutual
def chars : Json → List Char
  | .null => ['n', 'u', 'l', 'l']
  | .boolean true => ['t', 'r', 'u', 'e']
  | .boolean false => ['f', 'a', 'l', 's', 'e']
  | .number value => number value
  | .string value => quote value
  | .array [] => ['[', ']']
  | .array (item :: items) => '[' :: (chars item ++ itemsRest items)
  | .object [] => ['{', '}']
  | .object (field :: fields) => '{' :: (fieldChars field ++ fieldsRest fields)

/-- An array after one of its items. -/
def itemsRest : List Json → List Char
  | [] => [']']
  | item :: items => ',' :: (chars item ++ itemsRest items)

def fieldChars : String × Json → List Char
  | (key, value) => quote key ++ ':' :: chars value

/-- An object after one of its fields. -/
def fieldsRest : List (String × Json) → List Char
  | [] => ['}']
  | field :: fields => ',' :: (fieldChars field ++ fieldsRest fields)
end

/-- `JSON.stringify(value)` -/
def stringify (value : Json) : String := String.ofList (chars number value)

/-! ## Reading a text -/

/-- What may follow a value. -/
def Follows (rest : List Char) : Prop := ∀ c ∈ rest.head?, c = ',' ∨ c = ']' ∨ c = '}'

/-- Which value a text starts with, told by one character. -/
inductive Kind
  | null
  | true
  | false
  | number
  | string
  | array
  | object
deriving DecidableEq

def kind : Json → Kind
  | .null => .null
  | .boolean true => .true
  | .boolean false => .false
  | .number _ => .number
  | .string _ => .string
  | .array _ => .array
  | .object _ => .object

def kindOf (c : Char) : Kind :=
  if c = 'n' then .null
  else if c = 't' then .true
  else if c = 'f' then .false
  else if c = '"' then .string
  else if c = '[' then .array
  else if c = '{' then .object
  else .number

theorem kindOf_number {c : Char} (h : c.isDigit = true ∨ c = '-') : kindOf c = .number := by
  have hne : c ≠ 'n' ∧ c ≠ 't' ∧ c ≠ 'f' ∧ c ≠ '"' ∧ c ≠ '[' ∧ c ≠ '{' := by
    rcases h with hdigit | rfl
    · refine ⟨?_, ?_, ?_, ?_, ?_, ?_⟩ <;> rintro rfl <;> exact absurd hdigit (by decide)
    · decide
  obtain ⟨hn, ht, hf, hquote, hbracket, hbrace⟩ := hne
  unfold kindOf
  rw [if_neg hn, if_neg ht, if_neg hf, if_neg hquote, if_neg hbracket, if_neg hbrace]

variable {number}

theorem chars_head (hnumber : NumberText number) (x : Json) :
    ∃ c cs, chars number x = c :: cs ∧ kindOf c = x.kind := by
  cases x with
  | null => exact ⟨'n', _, rfl, by decide⟩
  | boolean value =>
    cases value with
    | false => exact ⟨'f', _, rfl, by decide⟩
    | true => exact ⟨'t', _, rfl, by decide⟩
  | number value =>
    obtain ⟨c, cs, hchars, hstart⟩ := hnumber.start value
    exact ⟨c, cs, hchars, kindOf_number hstart⟩
  | string value => exact ⟨'"', _, rfl, rfl⟩
  | array items => cases items <;> exact ⟨'[', _, rfl, rfl⟩
  | object fields => cases fields <;> exact ⟨'{', _, rfl, rfl⟩

theorem kind_eq (hnumber : NumberText number) {x y : Json} {r s : List Char}
    (h : chars number x ++ r = chars number y ++ s) : x.kind = y.kind := by
  obtain ⟨c, cs, hx, hkind⟩ := chars_head hnumber x
  obtain ⟨d, ds, hy, hkind'⟩ := chars_head hnumber y
  rw [hx, hy] at h
  rw [← hkind, ← hkind', (List.cons.inj h).1]

/-- Texts without a stop are told apart from what follows them at the first stop. -/
theorem append_inj_of_stop {stop : Char → Bool} {a b r s : List Char}
    (ha : ∀ c ∈ a, stop c = false) (hb : ∀ c ∈ b, stop c = false)
    (hr : ∀ c ∈ r.head?, stop c = true) (hs : ∀ c ∈ s.head?, stop c = true)
    (h : a ++ r = b ++ s) : a = b ∧ r = s := by
  have htake : ∀ cs rest : List Char, (∀ c ∈ cs, stop c = false) →
      (∀ c ∈ rest.head?, stop c = true) → (cs ++ rest).takeWhile (fun c => !stop c) = cs := by
    intro cs rest hcs hrest
    rw [List.takeWhile_append_of_pos fun c hc => by rw [hcs c hc]; rfl]
    cases rest with
    | nil => rw [List.takeWhile_nil, List.append_nil]
    | cons c cs' =>
      rw [List.takeWhile_cons, hrest c rfl]
      exact List.append_nil cs
  have htext : a = b := by
    rw [← htake a r ha hr, h, htake b s hb hs]
  rw [htext] at h
  exact ⟨htext, List.append_cancel_left h⟩

theorem number_append_inj (hnumber : NumberText number) {p q : Rat} {r s : List Char}
    (hr : Follows r) (hs : Follows s) (h : number p ++ r = number q ++ s) : p = q ∧ r = s := by
  let stop : Char → Bool := fun c => c = ',' || c = ']' || c = '}'
  have hplain : ∀ value, ∀ c ∈ number value, stop c = false := by
    intro value c hc
    simpa [stop, and_assoc] using hnumber.plain value c hc
  have hfollows : ∀ rest, Follows rest → ∀ c ∈ rest.head?, stop c = true := by
    intro rest hrest c hc
    simpa [stop, or_assoc] using hrest c hc
  obtain ⟨htext, hrest⟩ :=
    append_inj_of_stop (hplain p) (hplain q) (hfollows r hr) (hfollows s hs) h
  exact ⟨hnumber.injective htext, hrest⟩

theorem itemsRest_cons (item : Json) (items : List Json) (rest : List Char) :
    itemsRest number (item :: items) ++ rest =
      ',' :: (chars number item ++ (itemsRest number items ++ rest)) :=
  congrArg (List.cons ',') (List.append_assoc _ _ _)

theorem fieldsRest_cons (field : String × Json) (fields : List (String × Json))
    (rest : List Char) : fieldsRest number (field :: fields) ++ rest =
      ',' :: (fieldChars number field ++ (fieldsRest number fields ++ rest)) :=
  congrArg (List.cons ',') (List.append_assoc _ _ _)

theorem array_cons (item : Json) (items : List Json) (rest : List Char) :
    chars number (.array (item :: items)) ++ rest =
      '[' :: (chars number item ++ (itemsRest number items ++ rest)) :=
  congrArg (List.cons '[') (List.append_assoc _ _ _)

theorem object_cons (field : String × Json) (fields : List (String × Json)) (rest : List Char) :
    chars number (.object (field :: fields)) ++ rest =
      '{' :: (fieldChars number field ++ (fieldsRest number fields ++ rest)) :=
  congrArg (List.cons '{') (List.append_assoc _ _ _)

theorem follows_itemsRest (items : List Json) (rest : List Char) :
    Follows (itemsRest number items ++ rest) := by
  intro c hc
  cases items with
  | nil =>
    cases hc
    exact Or.inr (Or.inl rfl)
  | cons item items =>
    cases hc
    exact Or.inl rfl

theorem follows_fieldsRest (fields : List (String × Json)) (rest : List Char) :
    Follows (fieldsRest number fields ++ rest) := by
  intro c hc
  cases fields with
  | nil =>
    cases hc
    exact Or.inr (Or.inr rfl)
  | cons field fields =>
    cases hc
    exact Or.inl rfl

/-- No other value has the text, whatever follows it. -/
def UniqueText (number : Rat → List Char) (x : Json) : Prop :=
  ∀ y r s, Follows r → Follows s → chars number x ++ r = chars number y ++ s → x = y ∧ r = s

theorem itemsRest_append_inj {xs : List Json} (hxs : ∀ x ∈ xs, UniqueText number x) :
    ∀ {ys r s}, itemsRest number xs ++ r = itemsRest number ys ++ s → xs = ys ∧ r = s := by
  induction xs with
  | nil =>
    intro ys r s h
    cases ys with
    | nil => exact ⟨rfl, (List.cons.inj h).2⟩
    | cons y ys => exact absurd (List.cons.inj h).1 (by decide)
  | cons x xs ih =>
    intro ys r s h
    cases ys with
    | nil => exact absurd (List.cons.inj h).1 (by decide)
    | cons y ys =>
      rw [itemsRest_cons, itemsRest_cons] at h
      have hrest := (List.cons.inj h).2
      obtain ⟨rfl, htail⟩ := hxs x List.mem_cons_self y _ _ (follows_itemsRest xs r)
        (follows_itemsRest ys s) hrest
      obtain ⟨rfl, hend⟩ := ih (fun z hz => hxs z (List.mem_cons_of_mem _ hz)) htail
      exact ⟨rfl, hend⟩

theorem field_append_inj {field field' : String × Json} (h : UniqueText number field.2)
    {r s : List Char} (hr : Follows r) (hs : Follows s)
    (heq : fieldChars number field ++ r = fieldChars number field' ++ s) :
    field = field' ∧ r = s := by
  obtain ⟨key, x⟩ := field
  obtain ⟨key', y⟩ := field'
  rw [fieldChars, fieldChars, List.append_assoc, List.append_assoc] at heq
  obtain ⟨rfl, hcolon⟩ := quote_append_inj heq
  obtain ⟨rfl, hrest⟩ := h y r s hr hs (List.cons.inj hcolon).2
  exact ⟨rfl, hrest⟩

theorem fieldsRest_append_inj {fs : List (String × Json)}
    (hfs : ∀ field ∈ fs, UniqueText number field.2) :
    ∀ {gs r s}, fieldsRest number fs ++ r = fieldsRest number gs ++ s → fs = gs ∧ r = s := by
  induction fs with
  | nil =>
    intro gs r s h
    cases gs with
    | nil => exact ⟨rfl, (List.cons.inj h).2⟩
    | cons g gs => exact absurd (List.cons.inj h).1 (by decide)
  | cons f fs ih =>
    intro gs r s h
    cases gs with
    | nil => exact absurd (List.cons.inj h).1 (by decide)
    | cons g gs =>
      rw [fieldsRest_cons, fieldsRest_cons] at h
      have hrest := (List.cons.inj h).2
      obtain ⟨rfl, htail⟩ := field_append_inj (hfs f List.mem_cons_self) (follows_fieldsRest fs r)
        (follows_fieldsRest gs s) hrest
      obtain ⟨rfl, hend⟩ := ih (fun z hz => hfs z (List.mem_cons_of_mem _ hz)) htail
      exact ⟨rfl, hend⟩

theorem fieldChars_head_ne (field : String × Json) (rest rest' : List Char) :
    fieldChars number field ++ rest ≠ '}' :: rest' := by
  obtain ⟨key, value⟩ := field
  intro h
  exact absurd (List.cons.inj h).1 (by decide)

theorem chars_head_ne (hnumber : NumberText number) (x : Json) (rest rest' : List Char) :
    chars number x ++ rest ≠ ']' :: rest' := by
  intro h
  obtain ⟨c, cs, hx, hkind⟩ := chars_head hnumber x
  rw [hx] at h
  obtain rfl : c = ']' := (List.cons.inj h).1
  cases x with
  | number value =>
    obtain ⟨c, cs', hchars, hstart⟩ := hnumber.start value
    have hmem : ']' ∈ number value := by
      rw [show number value = ']' :: cs from hx]
      exact List.mem_cons_self
    exact (hnumber.plain value _ hmem).2.1 rfl
  | boolean value => cases value <;> cases hkind
  | _ => cases hkind

theorem uniqueText_scalar (hnumber : NumberText number) {x : Json} (hx : x.isScalar = true) :
    UniqueText number x := by
  intro y r s hr hs h
  have hkind := kind_eq hnumber h
  cases x with
  | null =>
    cases y with
    | null => exact ⟨rfl, List.append_cancel_left h⟩
    | boolean value => cases value <;> cases hkind
    | _ => cases hkind
  | boolean value =>
    cases y with
    | boolean value' =>
      cases value <;> cases value' <;>
        first | exact ⟨rfl, List.append_cancel_left h⟩ | cases hkind
    | _ => cases value <;> cases hkind
  | number p =>
    cases y with
    | number q =>
      obtain ⟨rfl, hrest⟩ := number_append_inj hnumber hr hs h
      exact ⟨rfl, hrest⟩
    | boolean value => cases value <;> cases hkind
    | _ => cases hkind
  | string p =>
    cases y with
    | string q =>
      obtain ⟨rfl, hrest⟩ := quote_append_inj h
      exact ⟨rfl, hrest⟩
    | boolean value => cases value <;> cases hkind
    | _ => cases hkind
  | _ => cases hx

/-- No two values have one text. -/
theorem uniqueText (hnumber : NumberText number) (x : Json) : UniqueText number x := by
  induction x using induction with
  | scalar x hx => exact uniqueText_scalar hnumber hx
  | array xs ih =>
    intro y r s hr hs h
    have hkind := kind_eq hnumber h
    cases y with
    | array ys =>
      cases xs with
      | nil =>
        cases ys with
        | nil => exact ⟨rfl, List.append_cancel_left h⟩
        | cons y ys =>
          rw [array_cons] at h
          exact absurd (List.cons.inj h).2.symm (chars_head_ne hnumber y _ _)
      | cons x xs =>
        cases ys with
        | nil =>
          rw [array_cons] at h
          exact absurd (List.cons.inj h).2 (chars_head_ne hnumber x _ _)
        | cons y ys =>
          rw [array_cons, array_cons] at h
          obtain ⟨rfl, hitems⟩ := ih x List.mem_cons_self y _ _ (follows_itemsRest xs r)
            (follows_itemsRest ys s) (List.cons.inj h).2
          obtain ⟨rfl, hrest⟩ :=
            itemsRest_append_inj (fun z hz => ih z (List.mem_cons_of_mem _ hz)) hitems
          exact ⟨rfl, hrest⟩
    | boolean value => cases value <;> cases hkind
    | _ => cases hkind
  | object fs ih =>
    intro y r s hr hs h
    have hkind := kind_eq hnumber h
    cases y with
    | object gs =>
      cases fs with
      | nil =>
        cases gs with
        | nil => exact ⟨rfl, List.append_cancel_left h⟩
        | cons g gs =>
          rw [object_cons] at h
          exact absurd (List.cons.inj h).2.symm (fieldChars_head_ne g _ _)
      | cons f fs =>
        cases gs with
        | nil =>
          rw [object_cons] at h
          exact absurd (List.cons.inj h).2 (fieldChars_head_ne f _ _)
        | cons g gs =>
          rw [object_cons, object_cons] at h
          obtain ⟨rfl, hfields⟩ := field_append_inj (ih f List.mem_cons_self)
            (follows_fieldsRest fs r) (follows_fieldsRest gs s) (List.cons.inj h).2
          obtain ⟨rfl, hrest⟩ :=
            fieldsRest_append_inj (fun z hz => ih z (List.mem_cons_of_mem _ hz)) hfields
          exact ⟨rfl, hrest⟩
    | boolean value => cases value <;> cases hkind
    | _ => cases hkind

theorem stringify_injective (hnumber : NumberText number) :
    Function.Injective (stringify number) := by
  intro x y h
  have hchars : chars number x ++ [] = chars number y ++ [] :=
    congrArg (fun cs => cs ++ []) (String.ofList_injective h)
  have hnil : Follows [] := by rintro c ⟨⟩
  exact (uniqueText hnumber x y [] [] hnil hnil hchars).1

end Text

/-! ## Exact numbers -/

def signedDigits (value : Rat) : List Char :=
  (if value.num < 0 then ['-'] else []) ++ Nat.toDigits 10 value.num.natAbs

def denominator (value : Rat) : List Char :=
  if value.den = 1 then [] else '/' :: Nat.toDigits 10 value.den

/-- Whole numbers in decimal, others as a quotient. -/
def quotientChars (value : Rat) : List Char := signedDigits value ++ denominator value

theorem toDigits_injective {m n : Nat} (h : Nat.toDigits 10 m = Nat.toDigits 10 n) : m = n := by
  rw [← @Nat.ofDigitChars_ten_toDigits m, h, Nat.ofDigitChars_ten_toDigits]

theorem isDigit_of_mem {n : Nat} {c : Char} (h : c ∈ Nat.toDigits 10 n) : c.isDigit = true :=
  Nat.isDigit_of_mem_toDigits (by decide) (by decide) h

theorem denominator_head (value : Rat) : ∀ c ∈ (denominator value).head?, decide (c = '/') = true := by
  intro c hc
  unfold denominator at hc
  split at hc
  · cases hc
  · cases hc
    rfl

theorem denominator_injective {p q : Rat} (h : denominator p = denominator q) : p.den = q.den := by
  unfold denominator at h
  by_cases hp : p.den = 1 <;> by_cases hq : q.den = 1
  · rw [hp, hq]
  · rw [if_pos hp, if_neg hq] at h
    cases h
  · rw [if_neg hp, if_pos hq] at h
    cases h
  · rw [if_neg hp, if_neg hq] at h
    exact toDigits_injective (List.cons.inj h).2

theorem signedDigits_injective {p q : Rat} (h : signedDigits p = signedDigits q) :
    p.num = q.num := by
  have hminus : ∀ n cs, Nat.toDigits 10 n ≠ '-' :: cs := by
    intro n cs heq
    exact absurd (isDigit_of_mem (heq ▸ List.mem_cons_self)) (by decide)
  unfold signedDigits at h
  by_cases hp : p.num < 0 <;> by_cases hq : q.num < 0
  · rw [if_pos hp, if_pos hq] at h
    have habs := toDigits_injective (List.cons.inj h).2
    omega
  · rw [if_pos hp, if_neg hq] at h
    exact absurd h.symm (hminus _ _)
  · rw [if_neg hp, if_pos hq] at h
    exact absurd h (hminus _ _)
  · rw [if_neg hp, if_neg hq] at h
    have habs := toDigits_injective h
    omega

theorem quotientChars_spec : NumberText quotientChars where
  injective := by
    intro p q h
    have hsign : ∀ value : Rat, ∀ c ∈ signedDigits value, c = '/' → False := by
      rintro value c hc rfl
      unfold signedDigits at hc
      rcases List.mem_append.mp hc with hc | hc
      · split at hc
        · exact absurd (List.mem_singleton.mp hc) (by decide)
        · cases hc
      · exact absurd (isDigit_of_mem hc) (by decide)
    obtain ⟨hnum, hden⟩ := @append_inj_of_stop (fun c => c = '/') _ _ _ _
      (fun c hc => decide_eq_false (hsign p c hc)) (fun c hc => decide_eq_false (hsign q c hc))
      (denominator_head p) (denominator_head q) h
    exact Rat.ext (signedDigits_injective hnum) (denominator_injective hden)
  start := by
    intro value
    unfold quotientChars signedDigits
    by_cases hneg : value.num < 0
    · rw [if_pos hneg]
      exact ⟨'-', _, rfl, Or.inr rfl⟩
    · rw [if_neg hneg, List.nil_append]
      obtain ⟨c, cs, hdigits⟩ := List.exists_cons_of_ne_nil
        (Nat.toDigits_ne_nil (n := value.num.natAbs) (b := 10))
      rw [hdigits]
      exact ⟨c, _, rfl, Or.inl (isDigit_of_mem (hdigits ▸ List.mem_cons_self))⟩
  plain := by
    intro value c hc
    have hdigit : ∀ d : Char, d.isDigit = true → d ≠ ',' ∧ d ≠ ']' ∧ d ≠ '}' := by
      intro d hd
      refine ⟨?_, ?_, ?_⟩ <;> rintro rfl <;> exact absurd hd (by decide)
    unfold quotientChars signedDigits denominator at hc
    rcases List.mem_append.mp hc with hc | hc
    · rcases List.mem_append.mp hc with hc | hc
      · split at hc
        · rw [List.mem_singleton.mp hc]
          decide
        · cases hc
      · exact hdigit c (isDigit_of_mem hc)
    · split at hc
      · cases hc
      · rcases List.mem_cons.mp hc with rfl | hc
        · decide
        · exact hdigit c (isDigit_of_mem hc)

end Json
