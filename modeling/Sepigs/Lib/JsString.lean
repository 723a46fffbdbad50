import Mathlib.Algebra.GroupWithZero.Nat
import Mathlib.Data.List.DropRight
import Mathlib.Data.List.Infix

/-!
# Strings

The white space and line terminators that `trim` removes, when a trimmed string is
empty, that numbers are told apart by their digits, and that `split` undoes `join`.
-/

namespace JsString

/-- White space and line terminators, the byte order mark among them. -/
def isWhitespace (c : Char) : Bool :=
  let n := c.toNat
  (9 ≤ n && n ≤ 13) || n = 0x20 || n = 0xA0 || n = 0x1680 || (0x2000 ≤ n && n ≤ 0x200A) ||
    n = 0x2028 || n = 0x2029 || n = 0x202F || n = 0x205F || n = 0x3000 || n = 0xFEFF

/-- What is tested of each character of a text holds of them. -/
theorem forall_of_all {α : Type} {P : α → Prop} [DecidablePred P] {text : List α}
    (h : text.all (fun c => decide (P c)) = true) : ∀ c ∈ text, P c := fun c hc =>
  of_decide_eq_true (List.all_eq_true.mp h c hc)

theorem alphanum_bounds {c : Char} (h : c.isAlphanum = true) : 48 ≤ c.toNat ∧ c.toNat ≤ 122 := by
  have hkinds : ((c.isUpper || c.isLower) || c.isDigit) = true := h
  simp only [Bool.or_eq_true] at hkinds
  rcases hkinds with (h | h) | h
  · unfold Char.isUpper at h
    have hlow : 'A'.toNat ≤ c.toNat := (of_decide_eq_true h).1
    have hhigh : c.toNat ≤ 'Z'.toNat := (of_decide_eq_true h).2
    have hA : 'A'.toNat = 65 := rfl
    have hZ : 'Z'.toNat = 90 := rfl
    omega
  · unfold Char.isLower at h
    simp only [ge_iff_le, Bool.and_eq_true, decide_eq_true_eq] at h
    have hlow : 'a'.toNat ≤ c.toNat := h.1
    have hhigh : c.toNat ≤ 'z'.toNat := h.2
    have ha : 'a'.toNat = 97 := rfl
    have hz : 'z'.toNat = 122 := rfl
    omega
  · have hbounds := Char.isDigit_iff_toNat.mp h
    have h0 : '0'.toNat = 48 := rfl
    have h9 : '9'.toNat = 57 := rfl
    omega

def trim (s : String) : String :=
  String.ofList ((s.toList.dropWhile isWhitespace).rdropWhile isWhitespace)

theorem trim_of_ends {cs : List Char} (hfirst : ∀ c ∈ cs.head?, isWhitespace c = false)
    (hlast : ∀ c ∈ cs.getLast?, isWhitespace c = false) : trim (String.ofList cs) = String.ofList cs := by
  have hdrop : cs.dropWhile isWhitespace = cs := by
    rw [List.dropWhile_eq_self_iff]
    intro hpos
    rw [hfirst _ (by rw [List.head?_eq_getElem?, List.getElem?_eq_getElem hpos]; rfl)]
    exact Bool.false_ne_true
  have hrdrop : cs.rdropWhile isWhitespace = cs := by
    rw [List.rdropWhile_eq_self_iff]
    intro hne
    rw [hlast _ (List.getLast?_eq_some_getLast hne)]
    exact Bool.false_ne_true
  unfold trim
  rw [String.toList_ofList, hdrop, hrdrop]

theorem trim_of_plain {s : String} (h : ∀ c ∈ s.toList, isWhitespace c = false) : trim s = s := by
  have htrim := @trim_of_ends s.toList (fun c hc => h c (List.mem_of_mem_head? hc))
    fun c hc => h c (List.mem_of_mem_getLast? hc)
  rwa [String.ofList_toList] at htrim

theorem trim_cons {c : Char} (h : isWhitespace c = true) (cs : List Char) :
    trim (String.ofList (c :: cs)) = trim (String.ofList cs) := by
  unfold trim
  rw [String.toList_ofList, String.toList_ofList, List.dropWhile_cons_of_pos h]

theorem trim_trim (s : String) : trim (trim s) = trim s := by
  refine trim_of_ends ?_ ?_
  · intro c hc
    have hne := List.ne_nil_of_mem (List.mem_of_mem_head? hc)
    have hhead := List.head_of_mem_head? hc
    rw [← hhead, (List.rdropWhile_prefix isWhitespace _).head hne]
    exact List.head_dropWhile_not isWhitespace _
  · intro c hc
    obtain ⟨hne, hlast⟩ := List.mem_getLast?_eq_getLast hc
    exact hlast ▸ eq_false_of_ne_true (List.rdropWhile_last_not isWhitespace _ hne)

/-- `s.trim().length === 0` -/
def isBlank (s : String) : Bool :=
  (trim s).toList.isEmpty

theorem isBlank_eq_all (s : String) : isBlank s = s.toList.all isWhitespace := by
  unfold isBlank trim
  rw [String.toList_ofList, Bool.eq_iff_iff, List.isEmpty_iff, List.rdropWhile_eq_nil_iff,
    List.all_eq_true]
  constructor
  · intro h
    rw [← List.dropWhile_eq_nil_iff]
    by_contra hne
    have hhead := List.head_dropWhile_not isWhitespace hne
    rw [h _ (List.head_mem hne)] at hhead
    cases hhead
  · intro h
    rw [List.dropWhile_eq_nil_iff.mpr h]
    intro c hc
    cases hc

theorem toString_injective {m n : Nat} (h : toString m = toString n) : m = n := by
  have hdigits : (Nat.repr m).toList = (Nat.repr n).toList := congrArg String.toList h
  rw [Nat.toList_repr, Nat.toList_repr] at hdigits
  rw [← @Nat.ofDigitChars_ten_toDigits m, hdigits, Nat.ofDigitChars_ten_toDigits]

/-- `s.split(separator)` at one character. -/
def split (s : String) (separator : Char) : List String :=
  (s.toList.splitOn separator).map String.ofList

/-- `parts.join(separator)` with one character. -/
def join (parts : List String) (separator : Char) : String :=
  String.ofList (List.intercalate [separator] (parts.map String.toList))

/-- `s.startsWith(start)` -/
def startsWith (s start : String) : Bool := start.toList.isPrefixOf s.toList

/-- `s.length`: a character beyond the basic plane counts twice. -/
def length (s : String) : Nat := (s.toList.map fun c => if c.toNat < 0x10000 then 1 else 2).sum

/-- `s.endsWith(end)` -/
def endsWith (s stop : String) : Bool := stop.toList.isSuffixOf s.toList

/-- The letter that simple case folding maps a character to, among the ASCII letters: the
long s and the Kelvin sign fold to them too. -/
def foldCase (c : Char) : Char :=
  if c = Char.ofNat 0x17F then 's' else if c = Char.ofNat 0x212A then 'k' else c.toLower

/-- `/part/iu.test(s)` where `part` has lower-case ASCII letters only. -/
def includesIgnoringCase (s part : String) : Bool :=
  decide (part.toList <:+: s.toList.map foldCase)

/-- `s.slice(from)` -/
def sliceFrom (s : String) (start : Nat) : String := String.ofList (s.toList.drop start)

/-- `s.slice(from, to)` -/
def slice (s : String) (start stop : Nat) : String := String.ofList ((s.toList.take stop).drop start)

/-- `s.indexOf(c)`, with `none` for -1. -/
def indexOf (s : String) (c : Char) : Option Nat := s.toList.idxOf? c

/-- `s.lastIndexOf(c)` -/
def lastIndexOf (s : String) (c : Char) : Option Nat :=
  (s.toList.reverse.idxOf? c).map fun i => s.toList.length - 1 - i

theorem idxOf?_append {c : Char} {left : List Char} (h : c ∉ left) (right : List Char) :
    (left ++ c :: right).idxOf? c = some left.length := by
  induction left with
  | nil => simp [List.idxOf?_cons]
  | cons d left ih =>
    have hne : d ≠ c := fun heq => h (heq ▸ List.mem_cons_self)
    have hrest : c ∉ left := fun hmem => h (List.mem_cons_of_mem d hmem)
    rw [List.cons_append, List.idxOf?_cons, ih hrest]
    simp [hne]

theorem indexOf_eq_none {s : String} {c : Char} (h : c ∉ s.toList) : indexOf s c = none :=
  List.idxOf?_eq_none_iff.mpr h

/-- A text splits in one way at the first `c`. -/
theorem split_first {c : Char} {left left' right right' : List Char} (h : c ∉ left) (h' : c ∉ left')
    (heq : left ++ c :: right = left' ++ c :: right') : left = left' ∧ right = right' := by
  have hlength : left.length = left'.length := by
    have hfirst := idxOf?_append h right
    rw [heq, idxOf?_append h'] at hfirst
    exact (Option.some.inj hfirst).symm
  obtain ⟨hleft, hright⟩ := List.append_inj heq hlength
  exact ⟨hleft, (List.cons.inj hright).2⟩

theorem indexOf_append {s : String} {c : Char} {left right : List Char}
    (hs : s.toList = left ++ c :: right) (h : c ∉ left) : indexOf s c = some left.length := by
  unfold indexOf
  rw [hs, idxOf?_append h]

theorem lastIndexOf_append {s : String} {c : Char} {left right : List Char}
    (hs : s.toList = left ++ c :: right) (h : c ∉ right) : lastIndexOf s c = some left.length := by
  have hreverse : s.toList.reverse = right.reverse ++ c :: left.reverse := by
    rw [hs, List.reverse_append, List.reverse_cons, List.append_assoc]
    rfl
  unfold lastIndexOf
  rw [hreverse, idxOf?_append (fun hmem => h (List.mem_reverse.mp hmem)), hs]
  simp only [Option.map_some, List.length_append, List.length_cons, List.length_reverse]
  congr 1
  omega

theorem sliceFrom_append {s : String} {c : Char} {left right : List Char}
    (hs : s.toList = left ++ c :: right) : sliceFrom s (left.length + 1) = String.ofList right := by
  unfold sliceFrom
  rw [hs, List.drop_append, List.drop_eq_nil_of_le (Nat.le_succ _), Nat.add_sub_cancel_left]
  rfl

theorem split_join {parts : List String} {separator : Char} (hne : parts ≠ [])
    (h : ∀ part ∈ parts, separator ∉ part.toList) : split (join parts separator) separator = parts := by
  have hsplit : (List.intercalate [separator] (parts.map String.toList)).splitOn separator =
      parts.map String.toList := by
    refine List.splitOn_intercalate separator ?_ (by simpa using hne)
    intro chars hmem
    obtain ⟨part, hpart, rfl⟩ := List.mem_map.mp hmem
    exact h part hpart
  unfold split join
  rw [String.toList_ofList, hsplit, List.map_map]
  exact List.map_id'' (fun part => String.ofList_toList) parts

/-- `Number(text)` where `text` has decimal digits only. -/
def decimalNumber (text : String) : Option Int :=
  if text.toList.all Char.isDigit then some (Nat.ofDigitChars 10 text.toList 0 : Nat) else none

theorem decimalNumber_toString (n : Nat) : decimalNumber (toString n) = some (n : Int) := by
  have hdigits : (toString n).toList = Nat.toDigits 10 n := Nat.toList_repr
  unfold decimalNumber
  rw [hdigits, if_pos, Nat.ofDigitChars_ten_toDigits]
  rw [List.all_eq_true]
  intro c hc
  exact Nat.isDigit_of_mem_toDigits (by decide) (by decide) hc

theorem notMem_toString_of_not_isDigit {c : Char} (h : c.isDigit = false) (n : Nat) :
    c ∉ (toString n).toList := by
  intro hmem
  have hdigits : c ∈ (Nat.repr n).toList := hmem
  rw [Nat.toList_repr] at hdigits
  rw [Nat.isDigit_of_mem_toDigits (by decide) (by decide) hdigits] at h
  cases h

end JsString
