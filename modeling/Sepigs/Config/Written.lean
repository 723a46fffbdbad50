import Sepigs.Config.Accepted

/-!
# Fields read and written again (`config/schema.ts`, the readers)

What a reader gives may be written as a field, and a reader of that field gives it back.
A value that was read has the form that its field asks for; a value of that form is read
without a complaint.
-/

namespace Sepigs

/-! ## The forms -/

/-- A string that `readString` takes. -/
def Text (s : String) : Prop := JsString.isBlank s = false

instance (s : String) : Decidable (Text s) := inferInstanceAs (Decidable (_ = _))

/-- An item of an array as it was read. -/
structure Item (s : String) : Prop where
  text : Text s
  trimmed : JsString.trim s = s

def Items (values : List String) : Prop := ∀ s ∈ values, Item s

/-- An integer between two bounds. -/
def Between (min max n : Nat) : Prop := min ≤ n ∧ n ≤ max

instance (min max n : Nat) : Decidable (Between min max n) := inferInstanceAs (Decidable (_ ∧ _))

def numbersJson (values : List Nat) : Json := .array (values.map numberJson)

theorem nonBlank_string {s : String} (h : Text s) : nonBlank (.string s) = some s := by
  show (if JsString.isBlank s then none else some s) = some s
  rw [if_neg]
  rw [show JsString.isBlank s = false from h]
  exact Bool.false_ne_true

theorem text_of_nonBlank {value : Json} {s : String} (h : nonBlank value = some s) : Text s := by
  cases value with
  | string text =>
    change (if JsString.isBlank text then none else some text) = some s at h
    split at h
    · cases h
    · next hblank =>
      cases h
      exact eq_false_of_ne_true hblank
  | _ => cases h

theorem item_of_nonBlank {value : Json} {s : String} (h : nonBlank value = some s) :
    Item (JsString.trim s) := by
  have htext : JsString.isBlank s = false := text_of_nonBlank h
  refine ⟨?_, JsString.trim_trim s⟩
  show JsString.isBlank (JsString.trim s) = false
  unfold JsString.isBlank at htext ⊢
  rw [JsString.trim_trim]
  exact htext

theorem integerIn_numberJson {min max n : Nat} (h : Between min max n) :
    (numberJson n).integerIn min max = some n := by
  show (if (n : Rat).den = 1 ∧ (min : Int) ≤ (n : Rat).num ∧ (n : Rat).num ≤ (max : Int) then
    some (n : Rat).num.toNat else none) = some n
  rw [if_pos]
  · rfl
  · exact ⟨rfl, Int.ofNat_le.mpr h.1, Int.ofNat_le.mpr h.2⟩

theorem between_of_integerIn {min max n : Nat} {value : Json}
    (h : value.integerIn min max = some n) : Between min max n := by
  cases value with
  | number q =>
    change (if q.den = 1 ∧ (min : Int) ≤ q.num ∧ q.num ≤ (max : Int) then some q.num.toNat
      else none) = some n at h
    split at h
    · next hbounds =>
      cases h
      unfold Between
      omega
    · cases h
  | _ => cases h

/-- A default of the form asked for is read again like a given value. -/
theorem getD_of_forall {α : Type} {P : α → Prop} {given : Option α} {default : α}
    (h : ∀ a ∈ given, P a) (hdefault : P default) : P (given.getD default) := by
  cases given with
  | none => exact hdefault
  | some a => exact h a rfl

/-! ## Lookups in what was written -/

section Lookups

variable {α : Type} (key key' : String)

theorem lookup_field (value : Json) (fields : Record) :
    List.lookup key ((key', value) :: fields) =
      if key = key' then some value else List.lookup key fields := by
  rw [List.lookup_cons]
  by_cases h : key = key'
  · rw [if_pos h, beq_iff_eq.mpr h]
  · rw [if_neg h, beq_eq_false_iff_ne.mpr h]

theorem lookup_optionalField (toJson : α → Json) (value : Option α) :
    List.lookup key (optionalField key' toJson value) =
      if key = key' then value.map toJson else none := by
  cases value with
  | none => exact (ite_self none).symm
  | some value => exact lookup_field key key' (toJson value) []

end Lookups

/-! ## Readers -/

section Readers

variable {record : Record} {key path : String}

theorem readString_read (h : (readString record key path).Clean) :
    ∃ text, readString record key path = pure (some text) ∧ Text text := by
  obtain ⟨text, hlookup, hvalue⟩ := readString_clean h
  obtain ⟨value, -, hvalueText⟩ := Option.bind_eq_some_iff.mp hlookup
  exact ⟨text, hvalue ▸ Checked.eq_pure_of_clean h, text_of_nonBlank hvalueText⟩

theorem readString_written (text : String) (hlookup : record.lookup key = some (.string text))
    (htext : Text text) : readString record key path = pure (some text) := by
  unfold readString
  rw [hlookup, Option.bind_some, nonBlank_string htext]

theorem readOptionalString_read (h : (readOptionalString record key path).Clean) :
    ∃ text, readOptionalString record key path = pure text ∧ ∀ s ∈ text, Text s := by
  refine ⟨_, Checked.eq_pure_of_clean h, fun s hs => ?_⟩
  rw [readOptionalString_clean h] at hs
  obtain ⟨value, -, hvalueText⟩ := Option.bind_eq_some_iff.mp hs
  exact text_of_nonBlank hvalueText

theorem readOptionalString_written (text : Option String)
    (hlookup : record.lookup key = text.map .string) (htext : ∀ s ∈ text, Text s) :
    readOptionalString record key path = pure text := by
  unfold readOptionalString
  rw [hlookup]
  cases text with
  | none => rfl
  | some s => simp only [Option.map_some, nonBlank_string (htext s rfl)]

theorem readNumber_read {min max : Nat} (h : (readNumber record key path min max).Clean) :
    ∃ n, readNumber record key path min max = pure (some n) ∧ Between min max n := by
  unfold readNumber at h ⊢
  cases hvalue : (record.lookup key).bind (Json.integerIn min max) with
  | none => simp [hvalue] at h
  | some n =>
    obtain ⟨value, -, hn⟩ := Option.bind_eq_some_iff.mp hvalue
    exact ⟨n, rfl, between_of_integerIn hn⟩

theorem readNumber_written {min max : Nat} (n : Nat) (hlookup : record.lookup key = some (numberJson n))
    (hn : Between min max n) : readNumber record key path min max = pure (some n) := by
  unfold readNumber
  rw [hlookup, Option.bind_some, integerIn_numberJson hn]

theorem readOptionalNumber_read {min max : Nat}
    (h : (readOptionalNumber record key path min max).Clean) :
    ∃ number, readOptionalNumber record key path min max = pure number ∧
      ∀ n ∈ number, Between min max n := by
  unfold readOptionalNumber at h ⊢
  cases hvalue : record.lookup key with
  | none => exact ⟨none, rfl, by simp⟩
  | some value =>
    cases hnumber : value.integerIn min max with
    | none => simp [hvalue, hnumber] at h
    | some n =>
      refine ⟨some n, by simp only [hnumber], fun n' hn' => ?_⟩
      cases hn'
      exact between_of_integerIn hnumber

theorem readOptionalNumber_written {min max : Nat} (number : Option Nat)
    (hlookup : record.lookup key = number.map numberJson)
    (hnumber : ∀ n ∈ number, Between min max n) :
    readOptionalNumber record key path min max = pure number := by
  unfold readOptionalNumber
  rw [hlookup]
  cases number with
  | none => rfl
  | some n => simp only [Option.map_some, integerIn_numberJson (hnumber n rfl)]

theorem readOptionalBoolean_read (h : (readOptionalBoolean record key path).Clean) :
    ∃ flag, readOptionalBoolean record key path = pure flag :=
  ⟨_, Checked.eq_pure_of_clean h⟩

theorem readOptionalBoolean_written (flag : Option Bool)
    (hlookup : record.lookup key = flag.map .boolean) :
    readOptionalBoolean record key path = pure flag := by
  unfold readOptionalBoolean
  rw [hlookup]
  cases flag with
  | none => rfl
  | some value => rfl

theorem items_stringsOf (items : List Json) : Items (stringsOf items) := by
  intro s hs
  obtain ⟨value, -, hvalue⟩ := List.mem_filterMap.mp hs
  obtain ⟨text, htext, rfl⟩ := Option.map_eq_some_iff.mp hvalue
  exact item_of_nonBlank htext

theorem readStrings_written {values : List String} (h : Items values) :
    readStrings path (values.map .string) = pure values := by
  unfold readStrings
  refine (Checked.collect_of_pure (g := fun item => ((nonBlank item).map JsString.trim).toList)
    ?_).trans (congrArg pure ?_)
  · intro i item hitem
    obtain ⟨s, hs, rfl⟩ := List.mem_map.mp hitem
    rw [nonBlank_string (h s hs).text]
    rfl
  · rw [← List.filterMap_eq_flatMap_toList, List.filterMap_map]
    refine (List.filterMap_congr fun s hs => ?_).trans List.filterMap_some
    show (nonBlank (.string s)).map JsString.trim = some s
    rw [nonBlank_string (h s hs).text, Option.map_some, (h s hs).trimmed]

theorem readStringArray_read (h : (readStringArray record key path).Clean) :
    ∃ values, readStringArray record key path = pure values ∧ ∀ list ∈ values, Items list := by
  refine ⟨_, Checked.eq_pure_of_clean h, fun list hlist => ?_⟩
  rw [readStringArray_clean h] at hlist
  obtain ⟨value, -, rfl⟩ := Option.map_eq_some_iff.mp hlist
  cases value with
  | array items => exact items_stringsOf items
  | _ =>
    intro s hs
    cases hs

theorem readStringArray_written (values : Option (List String))
    (hlookup : record.lookup key = values.map stringsJson) (h : ∀ list ∈ values, Items list) :
    readStringArray record key path = pure values := by
  unfold readStringArray
  rw [hlookup]
  cases values with
  | none => rfl
  | some list =>
    simp only [Option.map_some, stringsJson, readStrings_written (h list rfl), Checked.pure_bind]

theorem between_integersOf {min max : Nat} (items : List Json) :
    ∀ n ∈ integersOf min max items, Between min max n := by
  intro n hn
  obtain ⟨value, -, hvalue⟩ := List.mem_filterMap.mp hn
  exact between_of_integerIn hvalue

theorem readIntegers_written {range : String} {min max : Nat} {values : List Nat}
    (h : ∀ n ∈ values, Between min max n) :
    readIntegers path range min max (values.map numberJson) = pure values := by
  unfold readIntegers
  refine (Checked.collect_of_pure (g := fun item => (item.integerIn min max).toList) ?_).trans
    (congrArg pure ?_)
  · intro i item hitem
    obtain ⟨n, hn, rfl⟩ := List.mem_map.mp hitem
    rw [integerIn_numberJson (h n hn)]
    rfl
  · rw [← List.filterMap_eq_flatMap_toList, List.filterMap_map]
    refine (List.filterMap_congr fun n hn => ?_).trans List.filterMap_some
    exact integerIn_numberJson (h n hn)

theorem readPortArray_read (h : (readPortArray record key path).Clean) :
    ∃ ports, readPortArray record key path = pure ports ∧
      ∀ list ∈ ports, ∀ n ∈ list, Between 1 65535 n := by
  refine ⟨_, Checked.eq_pure_of_clean h, fun list hlist => ?_⟩
  rw [readPortArray_clean h] at hlist
  obtain ⟨value, -, rfl⟩ := Option.map_eq_some_iff.mp hlist
  exact between_integersOf _

theorem readPortArray_written (ports : Option (List Nat))
    (hlookup : record.lookup key = ports.map numbersJson)
    (h : ∀ list ∈ ports, ∀ n ∈ list, Between 1 65535 n) :
    readPortArray record key path = pure ports := by
  unfold readPortArray
  rw [hlookup]
  cases ports with
  | none => rfl
  | some list =>
    simp only [Option.map_some, numbersJson, portValues, readIntegers_written (h list rfl),
      Checked.pure_bind]

theorem readByteArray_read (h : (readByteArray record key path).Clean) :
    ∃ bytes, readByteArray record key path = pure bytes ∧
      ∀ list ∈ bytes, ∀ n ∈ list, Between 0 255 n := by
  refine ⟨_, Checked.eq_pure_of_clean h, ?_⟩
  unfold readByteArray at h ⊢
  cases hvalue : record.lookup key with
  | none => simp
  | some value =>
    cases value with
    | array items =>
      simp only [hvalue, Checked.clean_bind] at h
      intro list hlist
      simp only [Checked.value_bind, Checked.value_pure, readIntegers_clean h.1] at hlist
      cases hlist
      exact between_integersOf items
    | _ => simp [hvalue] at h

theorem readByteArray_written (bytes : Option (List Nat))
    (hlookup : record.lookup key = bytes.map numbersJson)
    (h : ∀ list ∈ bytes, ∀ n ∈ list, Between 0 255 n) :
    readByteArray record key path = pure bytes := by
  unfold readByteArray
  rw [hlookup]
  cases bytes with
  | none => rfl
  | some list =>
    simp only [Option.map_some, numbersJson, readIntegers_written (h list rfl), Checked.pure_bind]

theorem readOptionsRecord_read (h : (readOptionsRecord record key path).Clean) :
    ∃ options, readOptionsRecord record key path = pure options :=
  ⟨_, Checked.eq_pure_of_clean h⟩

theorem readOptionsRecord_written (options : Record)
    (hlookup : record.lookup key = some (.object options)) :
    readOptionsRecord record key path = pure options := by
  unfold readOptionsRecord
  rw [hlookup]

end Readers

end Sepigs
