import Sepigs.Inbound.Http
import Sepigs.Lib.IpText
import Sepigs.Lib.JsNumber

/-!
# Authorities (`parseAuthority` of `inbound/http.ts`)

The grammar of an authority, and the texts that `parseAuthority` reads by it.  The code looks
for brackets and colons only, and leaves the port to `Number`.
-/

namespace Sepigs

open IpText (IsIpv6)

def IsPort (port : Nat) : Prop := 1 ≤ port ∧ port ≤ 65535

instance : DecidablePred IsPort := fun port => inferInstanceAs (Decidable (1 ≤ port ∧ port ≤ 65535))

/-- Decimal digits that write a port. -/
structure PortText (digits : List Char) (port : Nat) : Prop where
  nonempty : digits ≠ []
  decimal : ∀ c ∈ digits, c.isDigit = true
  value : Nat.ofDigitChars 10 digits 0 = port
  isPort : IsPort port

/-- The grammar of an authority, with the host and the port it names. -/
inductive Authority (defaultPort : Nat) : List Char → List Char → Nat → Prop
  | host {host : List Char} : host ≠ [] → ':' ∉ host → Authority defaultPort host host defaultPort
  | hostPort {host digits : List Char} {port : Nat} : host ≠ [] → ':' ∉ host → PortText digits port →
      Authority defaultPort (host ++ ':' :: digits) host port
  | bracketed {host : List Char} : IsIpv6 (String.ofList host) →
      Authority defaultPort ('[' :: (host ++ [']'])) host defaultPort
  | bracketedPort {host digits : List Char} {port : Nat} : IsIpv6 (String.ofList host) →
      PortText digits port → Authority defaultPort ('[' :: (host ++ ']' :: ':' :: digits)) host port
  | ipv6 {host : List Char} : IsIpv6 (String.ofList host) → Authority defaultPort host host defaultPort

/-- `host` or `host:port` -/
def HostForm (s : List Char) : Prop :=
  (s ≠ [] ∧ ':' ∉ s) ∨
    ∃ host digits port, host ≠ [] ∧ ':' ∉ host ∧ PortText digits port ∧ s = host ++ ':' :: digits

/-- The port that `Number` gives of what follows a closing bracket. -/
def portAfter (defaultPort : Nat) : List Char → Option Int
  | ':' :: digits => JsNumber.number (String.ofList digits)
  | _ => some (defaultPort : Int)

/-- `Number` makes no port of it. -/
def NoPort (port : Option Int) : Prop := ∀ n : Nat, IsPort n → port ≠ some (n : Int)

/-- The texts that `parseAuthority` reads by the grammar, or refuses with it. -/
inductive ReadByGrammar (defaultPort : Nat) : List Char → Prop
  | host {s : List Char} : s.head? ≠ some '[' → ':' ∉ s → ReadByGrammar defaultPort s
  | hostPort {host digits : List Char} : host ≠ [] → host.head? ≠ some '[' → ':' ∉ host → ':' ∉ digits →
      (digits ≠ [] ∧ (∀ c ∈ digits, c.isDigit = true) ∨ NoPort (JsNumber.number (String.ofList digits))) →
      ReadByGrammar defaultPort (host ++ ':' :: digits)
  | ipv6 {s : List Char} : IsIpv6 (String.ofList s) → ReadByGrammar defaultPort s
  | bracketed {host : List Char} : IsIpv6 (String.ofList host) → IsPort defaultPort →
      ReadByGrammar defaultPort ('[' :: (host ++ [']']))
  | bracketedPort {host digits : List Char} {port : Nat} : IsIpv6 (String.ofList host) →
      PortText digits port → ReadByGrammar defaultPort ('[' :: (host ++ ']' :: ':' :: digits))
  | unclosed {s : List Char} : ']' ∉ s → ¬ HostForm ('[' :: s) → ReadByGrammar defaultPort ('[' :: s)
  -- the code refuses for the port, and the brackets hold no address that would be accepted alone
  | refused {host rest : List Char} : ']' ∉ host → ¬ HostForm ('[' :: (host ++ ']' :: rest)) →
      NoPort (portAfter defaultPort rest) → (rest = [] → ¬ IsIpv6 (String.ofList host)) →
      ReadByGrammar defaultPort ('[' :: (host ++ ']' :: rest))

/-! ## The branches of the code -/

section Branches

variable {node : Node} {s : String} {defaultPort : Nat}

/-- What is read is a host and a port. -/
def ReadsAs (node : Node) (s : String) (defaultPort : Nat) (host : List Char) (port : Nat) : Prop :=
  parseAuthority node s defaultPort = .ok (makeDestination node (String.ofList host) port)

theorem validatePort_ok_iff (port : Option Int) (source : String) (n : Nat) :
    validatePort port source = .ok n ↔ IsPort n ∧ port = some (n : Int) := by
  unfold validatePort IsPort
  cases port with
  | none => simp
  | some value =>
    dsimp only
    split
    · next hout =>
      constructor
      · intro h
        cases h
      · rintro ⟨⟨hlow, hhigh⟩, heq⟩
        cases heq
        omega
    · next hin =>
      constructor
      · intro h
        cases h
        refine ⟨by omega, congrArg some ?_⟩
        omega
      · rintro ⟨-, heq⟩
        cases heq
        rfl

theorem startsWith_mark {start : String} {mark : Char} (h : start.toList = [mark]) (cs : List Char) :
    JsString.startsWith (String.ofList cs) start = decide (cs.head? = some mark) := by
  unfold JsString.startsWith
  rw [h, String.toList_ofList, Bool.eq_iff_iff, List.isPrefixOf_iff_prefix, decide_eq_true_eq]
  constructor
  · rintro ⟨rest, rfl⟩
    rfl
  · intro hhead
    obtain ⟨rest, rfl⟩ := List.head?_eq_some_iff.mp hhead
    exact ⟨rest, rfl⟩

theorem startsWith_bracket (cs : List Char) :
    JsString.startsWith (String.ofList cs) "[" = decide (cs.head? = some '[') := startsWith_mark rfl cs

theorem portAfter_eq (hnode : ∀ text, node.number text = JsNumber.number text) (rest : List Char) :
    (if JsString.startsWith (String.ofList rest) ":"
      then node.number (JsString.sliceFrom (String.ofList rest) 1) else some (defaultPort : Int)) =
      portAfter defaultPort rest := by
  rw [@startsWith_mark ":" ':' rfl]
  unfold portAfter
  split
  · next hmark =>
    obtain ⟨digits, rfl⟩ := List.head?_eq_some_iff.mp (of_decide_eq_true hmark)
    have hrest : JsString.sliceFrom (String.ofList (':' :: digits)) 1 = String.ofList digits :=
      @JsString.sliceFrom_append _ ':' [] _ String.toList_ofList
    rw [hnode, hrest]
    rfl
  · next hmark =>
    split
    · next digits => exact absurd (decide_eq_true rfl) hmark
    · rfl

variable {cs : List Char} (htrim : JsString.trim (String.ofList cs) = String.ofList cs)

include htrim

theorem parse_plain (hne : cs ≠ []) (hopen : cs.head? ≠ some '[') (hcolon : ':' ∉ cs) :
    ReadsAs node (String.ofList cs) defaultPort cs defaultPort := by
  unfold ReadsAs parseAuthority
  dsimp only
  rw [htrim, if_neg (by simpa using hne), if_neg (by rw [startsWith_bracket]; simpa using hopen),
    JsString.indexOf_eq_none (by simpa using hcolon)]
  split
  · next heq => cases heq
  · rfl

theorem parse_colons {left right : List Char} (hopen : cs.head? ≠ some '[')
    (hcs : cs = left ++ ':' :: right) (hleft : ':' ∉ left) (hwhole : left = [] ∨ ':' ∈ right) :
    ReadsAs node (String.ofList cs) defaultPort cs defaultPort := by
  have hne : cs ≠ [] := by
    rw [hcs]
    simp
  have hfirst : JsString.indexOf (String.ofList cs) ':' = some left.length :=
    JsString.indexOf_append (by rw [String.toList_ofList, hcs]) hleft
  have hlast : ∃ last, JsString.lastIndexOf (String.ofList cs) ':' = some last ∧
      ¬ (0 < last ∧ last = left.length) := by
    by_cases hcolon : ':' ∈ right
    · obtain ⟨after, middle, hreverse, hafter⟩ :=
        List.eq_append_cons_of_mem (List.mem_reverse.mpr hcolon)
      have hright : right = middle.reverse ++ ':' :: after.reverse := by
        rw [← List.reverse_reverse right, hreverse, List.reverse_append, List.reverse_cons,
          List.append_assoc]
        rfl
      have hsplit : (String.ofList cs).toList = (left ++ ':' :: middle.reverse) ++ ':' :: after.reverse := by
        rw [String.toList_ofList, hcs, hright, List.append_assoc]
        rfl
      refine ⟨_, JsString.lastIndexOf_append hsplit (fun hmem => hafter (List.mem_reverse.mp hmem)), ?_⟩
      rw [List.length_append, List.length_cons]
      omega
    · obtain rfl := hwhole.resolve_right hcolon
      refine ⟨_, JsString.lastIndexOf_append (by rw [String.toList_ofList, hcs]) hcolon, ?_⟩
      rw [List.length_nil]
      omega
  obtain ⟨last, hlast, hnot⟩ := hlast
  unfold ReadsAs parseAuthority
  dsimp only
  rw [htrim, if_neg (by simpa using hne), if_neg (by rw [startsWith_bracket]; simpa using hopen),
    hfirst, hlast]
  exact if_neg hnot

theorem parse_port {left right : List Char} (hnode : ∀ text, node.number text = JsNumber.number text)
    (hopen : cs.head? ≠ some '[') (hcs : cs = left ++ ':' :: right) (hne : left ≠ []) (hleft : ':' ∉ left)
    (hright : ':' ∉ right) :
    parseAuthority node (String.ofList cs) defaultPort =
      (validatePort (JsNumber.number (String.ofList right)) (String.ofList cs)).map fun port =>
        makeDestination node (String.ofList left) port := by
  have hlist : (String.ofList cs).toList = left ++ ':' :: right := String.toList_ofList.trans hcs
  have hnil : cs ≠ [] := by
    rw [hcs]
    simp
  have hhost : JsString.slice (String.ofList cs) 0 left.length = String.ofList left := by
    unfold JsString.slice
    rw [hlist, List.drop_zero, List.take_left]
  have hrest := JsString.sliceFrom_append hlist
  unfold parseAuthority
  dsimp only
  rw [htrim, if_neg (by simpa using hnil), if_neg (by rw [startsWith_bracket]; simpa using hopen),
    JsString.indexOf_append hlist hleft, JsString.lastIndexOf_append hlist hright]
  dsimp only
  rw [if_pos ⟨List.length_pos_iff.mpr hne, rfl⟩, hhost, hrest, hnode]

theorem parse_unclosed {right : List Char} (hcs : cs = '[' :: right) (hclose : ']' ∉ right)
    (destination : Destination) : parseAuthority node (String.ofList cs) defaultPort ≠ .ok destination := by
  subst hcs
  unfold parseAuthority
  dsimp only
  rw [htrim, if_neg (by simp), if_pos (by rw [startsWith_bracket]; rfl),
    JsString.indexOf_eq_none (by simpa using hclose)]
  intro h
  cases h

theorem parse_bracket {left right : List Char} (hnode : ∀ text, node.number text = JsNumber.number text)
    (hcs : cs = '[' :: (left ++ ']' :: right)) (hclose : ']' ∉ left) :
    parseAuthority node (String.ofList cs) defaultPort =
      (validatePort (portAfter defaultPort right) (String.ofList cs)).map fun port =>
        makeDestination node (String.ofList left) port := by
  subst hcs
  have hlist : (String.ofList ('[' :: (left ++ ']' :: right))).toList = ('[' :: left) ++ ']' :: right :=
    String.toList_ofList
  have hclosing : JsString.indexOf (String.ofList ('[' :: (left ++ ']' :: right))) ']' =
      some (left.length + 1) := JsString.indexOf_append hlist (by simpa using hclose)
  have hhost : JsString.slice (String.ofList ('[' :: (left ++ ']' :: right))) 1 (left.length + 1) =
      String.ofList left := by
    unfold JsString.slice
    rw [hlist, show left.length + 1 = ('[' :: left).length from rfl, List.take_left]
    rfl
  have hrest : JsString.sliceFrom (String.ofList ('[' :: (left ++ ']' :: right))) (left.length + 1 + 1) =
      String.ofList right := JsString.sliceFrom_append hlist
  unfold parseAuthority
  dsimp only
  rw [htrim, if_neg (by simp), if_pos (by rw [startsWith_bracket]; rfl), hclosing]
  dsimp only
  rw [hhost, hrest, portAfter_eq hnode]

end Branches

/-! ## The forms of the grammar -/

theorem PortText.colon_notMem {digits : List Char} {port : Nat} (h : PortText digits port) :
    ':' ∉ digits := by
  intro hmem
  have hdigit := h.decimal ':' hmem
  cases hdigit

theorem notMem_of_isIpv6 {host : List Char} (h : IsIpv6 (String.ofList host)) {c : Char}
    (hc : c = '[' ∨ c = ']') : c ∉ host := by
  intro hmem
  have hchar := h.mem_chars (c := c) (by rwa [String.toList_ofList])
  rcases hc with rfl | rfl
  · revert hchar
    decide
  · revert hchar
    decide

/-- An IPv6 address has a colon after its first one. -/
theorem colon_after_of_isIpv6 {host left right : List Char} (h : IsIpv6 (String.ofList host))
    (hhost : host = left ++ ':' :: right) (hleft : ':' ∉ left) : ':' ∈ right := by
  have hcount := h.two_le_count_colon
  rw [String.toList_ofList, hhost, List.count_append, List.count_cons_self,
    List.count_eq_zero.mpr hleft] at hcount
  exact List.count_pos_iff.mp (by omega)

theorem HostForm.count_colon_le {s : List Char} (h : HostForm s) : s.count ':' ≤ 1 := by
  rcases h with ⟨-, hcolon⟩ | ⟨host, digits, port, -, hhost, hport, rfl⟩
  · rw [List.count_eq_zero.mpr hcolon]
    omega
  · rw [List.count_append, List.count_cons_self, List.count_eq_zero.mpr hhost,
      List.count_eq_zero.mpr hport.colon_notMem]

/-- What holds an IPv6 address is no host. -/
theorem not_hostForm_of_isIpv6 {left host right : List Char} (h : IsIpv6 (String.ofList host)) :
    ¬ HostForm (left ++ (host ++ right)) := by
  intro hform
  have hcount := hform.count_colon_le
  have hsix := h.two_le_count_colon
  rw [String.toList_ofList] at hsix
  rw [List.count_append, List.count_append] at hcount
  omega

section Forms

variable {defaultPort : Nat} {s host : List Char} {port : Nat}

/-- The host is before the first colon. -/
theorem HostForm.split {left right : List Char} (h : HostForm (left ++ ':' :: right)) (hleft : ':' ∉ left) :
    left ≠ [] ∧ ∃ port, PortText right port := by
  rcases h with ⟨-, hcolon⟩ | ⟨host, digits, port, hne, hhost, hport, heq⟩
  · exact absurd (List.mem_append_right _ (List.mem_cons_self ..)) hcolon
  · obtain ⟨rfl, rfl⟩ := JsString.split_first hleft hhost heq
    exact ⟨hne, port, hport⟩

/-- The forms that do not hold an address. -/
theorem authority_of_hostForm (h : Authority defaultPort s host port) (hform : HostForm s) :
    (s = host ∧ port = defaultPort ∨ ∃ digits, PortText digits port ∧ s = host ++ ':' :: digits) ∧
      host ≠ [] ∧ ':' ∉ host := by
  cases h with
  | host hne hcolon => exact ⟨.inl ⟨rfl, rfl⟩, hne, hcolon⟩
  | hostPort hne hcolon hport => exact ⟨.inr ⟨_, hport, rfl⟩, hne, hcolon⟩
  | bracketed hsix => exact absurd hform (@not_hostForm_of_isIpv6 ['['] _ _ hsix)
  | bracketedPort hsix => exact absurd hform (@not_hostForm_of_isIpv6 ['['] _ _ hsix)
  | ipv6 hsix => exact absurd hform (by simpa using @not_hostForm_of_isIpv6 [] _ [] hsix)

theorem authority_of_not_bracket (hopen : s.head? ≠ some '[') (hform : ¬ HostForm s)
    (h : Authority defaultPort s host port) : IsIpv6 (String.ofList s) ∧ host = s ∧ port = defaultPort := by
  cases h with
  | host hne hcolon => exact absurd (.inl ⟨hne, hcolon⟩) hform
  | hostPort hne hcolon hport => exact absurd (.inr ⟨_, _, _, hne, hcolon, hport, rfl⟩) hform
  | bracketed => exact absurd rfl hopen
  | bracketedPort => exact absurd rfl hopen
  | ipv6 hsix => exact ⟨hsix, rfl, rfl⟩

theorem authority_of_bracket (hform : ¬ HostForm ('[' :: s)) (h : Authority defaultPort ('[' :: s) host port) :
    IsIpv6 (String.ofList host) ∧ (s = host ++ [']'] ∧ port = defaultPort ∨
      ∃ digits, PortText digits port ∧ s = host ++ ']' :: ':' :: digits) := by
  generalize hs : '[' :: s = whole at h hform
  cases h with
  | host hne hcolon => exact absurd (.inl ⟨hne, hcolon⟩) hform
  | hostPort hne hcolon hport => exact absurd (.inr ⟨_, _, _, hne, hcolon, hport, rfl⟩) hform
  | bracketed hsix => exact ⟨hsix, .inl ⟨(List.cons.inj hs).2, rfl⟩⟩
  | bracketedPort hsix hport => exact ⟨hsix, .inr ⟨_, hport, (List.cons.inj hs).2⟩⟩
  | ipv6 hsix =>
    subst hs
    exact absurd (List.mem_cons_self ..) (notMem_of_isIpv6 hsix (.inl rfl))

/-- The bracket that closes is the first one. -/
theorem authority_of_brackets {left right : List Char} (hclose : ']' ∉ left)
    (hform : ¬ HostForm ('[' :: (left ++ ']' :: right)))
    (h : Authority defaultPort ('[' :: (left ++ ']' :: right)) host port) :
    host = left ∧ IsIpv6 (String.ofList left) ∧
      (right = [] ∧ port = defaultPort ∨ ∃ digits, PortText digits port ∧ right = ':' :: digits) := by
  obtain ⟨hsix, hrest⟩ := authority_of_bracket hform h
  have hhost : ']' ∉ host := notMem_of_isIpv6 hsix (.inr rfl)
  rcases hrest with ⟨heq, hport⟩ | ⟨digits, hport, heq⟩
  · obtain ⟨rfl, rfl⟩ := JsString.split_first hclose hhost heq
    exact ⟨rfl, hsix, .inl ⟨rfl, hport⟩⟩
  · obtain ⟨rfl, rfl⟩ := JsString.split_first hclose hhost heq
    exact ⟨rfl, hsix, .inr ⟨digits, hport, rfl⟩⟩

end Forms

/-! ## The code and the grammar -/

/-- `parseAuthority` accepts what the grammar generates, with its host and port, and nothing else. -/
def ParsesByGrammar (node : Node) (s : String) (defaultPort : Nat) : Prop :=
  ∀ destination, parseAuthority node s defaultPort = .ok destination ↔
    ∃ host port, Authority defaultPort s.toList host port ∧
      destination = makeDestination node (String.ofList host) port

section Comparison

variable {node : Node} {defaultPort : Nat} {cs : List Char}

theorem makeDestination_inj {host host' : List Char} {port port' : Nat}
    (h : makeDestination node (String.ofList host) port = makeDestination node (String.ofList host') port') :
    host = host' ∧ port = port' :=
  ⟨String.ofList_injective (congrArg Destination.host h), congrArg Destination.port h⟩

theorem ParsesByGrammar.authority (h : ParsesByGrammar node (String.ofList cs) defaultPort)
    {host : List Char} {port : Nat} (hreads : ReadsAs node (String.ofList cs) defaultPort host port) :
    Authority defaultPort cs host port := by
  obtain ⟨host', port', hauthority, heq⟩ := (h _).mp hreads
  obtain ⟨rfl, rfl⟩ := makeDestination_inj heq
  rwa [String.toList_ofList] at hauthority

theorem ParsesByGrammar.reads (h : ParsesByGrammar node (String.ofList cs) defaultPort)
    {host : List Char} {port : Nat} (hauthority : Authority defaultPort cs host port) :
    ReadsAs node (String.ofList cs) defaultPort host port :=
  (h _).mpr ⟨host, port, by rwa [String.toList_ofList], rfl⟩

theorem parsesByGrammar_of_reads {host : List Char} {port : Nat}
    (hreads : ReadsAs node (String.ofList cs) defaultPort host port)
    (hauthority : Authority defaultPort cs host port)
    (hunique : ∀ host' port', Authority defaultPort cs host' port' → host' = host ∧ port' = port) :
    ParsesByGrammar node (String.ofList cs) defaultPort := by
  intro destination
  rw [String.toList_ofList]
  constructor
  · intro h
    exact ⟨host, port, hauthority, Except.ok.inj (h.symm.trans hreads)⟩
  · rintro ⟨host', port', hauthority', rfl⟩
    obtain ⟨rfl, rfl⟩ := hunique host' port' hauthority'
    exact hreads

theorem parsesByGrammar_of_refused
    (hrefused : ∀ destination, parseAuthority node (String.ofList cs) defaultPort ≠ .ok destination)
    (hnone : ∀ host port, ¬ Authority defaultPort cs host port) :
    ParsesByGrammar node (String.ofList cs) defaultPort := by
  intro destination
  rw [String.toList_ofList]
  constructor
  · intro h
    exact absurd h (hrefused destination)
  · rintro ⟨host, port, hauthority, -⟩
    exact absurd hauthority (hnone host port)

/-- A text of digits is a port for the code as for the grammar. -/
theorem portText_iff {digits : List Char} (hne : digits ≠ []) (hdecimal : ∀ c ∈ digits, c.isDigit = true)
    {port : Nat} (hport : IsPort port) :
    JsNumber.number (String.ofList digits) = some (port : Int) ↔ PortText digits port := by
  have hlow : port < 2 ^ 53 := Nat.lt_of_le_of_lt hport.2 (by decide)
  rw [JsNumber.number_digits (by simpa using hne) (by simpa using hdecimal) hlow, String.toList_ofList]
  constructor
  · intro hvalue
    exact ⟨hne, hdecimal, hvalue, hport⟩
  · intro h
    exact h.value

theorem PortText.number {digits : List Char} {port : Nat} (h : PortText digits port) :
    JsNumber.number (String.ofList digits) = some (port : Int) :=
  (portText_iff h.nonempty h.decimal h.isPort).mpr h

/-- What follows the host is read as a port. -/
theorem map_validatePort_iff {port : Option Int} {source : String} {host : List Char} {destination : Destination} :
    (validatePort port source).map (fun port => makeDestination node (String.ofList host) port) = .ok destination ↔
      ∃ n : Nat, IsPort n ∧ port = some (n : Int) ∧
        destination = makeDestination node (String.ofList host) n := by
  constructor
  · intro h
    cases hport : validatePort port source with
    | error error =>
      rw [hport] at h
      cases h
    | ok n =>
      rw [hport] at h
      obtain ⟨hrange, hvalue⟩ := (validatePort_ok_iff port source n).mp hport
      exact ⟨n, hrange, hvalue, (Except.ok.inj h).symm⟩
  · rintro ⟨n, hrange, hvalue, rfl⟩
    rw [(validatePort_ok_iff port source n).mpr ⟨hrange, hvalue⟩]
    rfl

/-! ### What is read by the grammar -/

section Read

variable (hnode : ∀ text, node.number text = JsNumber.number text)
  (htrim : JsString.trim (String.ofList cs) = String.ofList cs)

include htrim in
theorem parsesByGrammar_host (hopen : cs.head? ≠ some '[') (hcolon : ':' ∉ cs) :
    ParsesByGrammar node (String.ofList cs) defaultPort := by
  by_cases hne : cs = []
  · subst hne
    have hform : ¬ HostForm [] := by
      rintro (⟨hne, -⟩ | ⟨host, digits, port, -, -, -, heq⟩)
      · exact hne rfl
      · simp at heq
    refine parsesByGrammar_of_refused (fun destination => ?_) fun host port hauthority => ?_
    · rw [show parseAuthority node (String.ofList []) defaultPort = .error (ProtocolError "empty authority") from rfl]
      intro h
      cases h
    · have hcount := (authority_of_not_bracket hopen hform hauthority).1.two_le_count_colon
      simp at hcount
  · have hform : HostForm cs := .inl ⟨hne, hcolon⟩
    refine parsesByGrammar_of_reads (parse_plain htrim hne hopen hcolon) (.host hne hcolon)
      fun host port hauthority => ?_
    rcases (authority_of_hostForm hauthority hform).1 with ⟨rfl, rfl⟩ | ⟨digits, -, rfl⟩
    · exact ⟨rfl, rfl⟩
    · exact absurd (List.mem_append_right _ (List.mem_cons_self ..)) hcolon

include htrim in
theorem parsesByGrammar_ipv6 (hsix : IsIpv6 (String.ofList cs)) :
    ParsesByGrammar node (String.ofList cs) defaultPort := by
  have hopen : cs.head? ≠ some '[' := fun hhead =>
    notMem_of_isIpv6 hsix (.inl rfl) (List.mem_of_mem_head? hhead)
  have hform : ¬ HostForm cs := by simpa using @not_hostForm_of_isIpv6 [] _ [] hsix
  have hcolon : ':' ∈ cs := by
    have hcount := hsix.two_le_count_colon
    rw [String.toList_ofList] at hcount
    exact List.count_pos_iff.mp (by omega)
  obtain ⟨left, right, hcs, hleft⟩ := List.eq_append_cons_of_mem hcolon
  exact parsesByGrammar_of_reads
    (parse_colons htrim hopen hcs hleft (.inr (colon_after_of_isIpv6 hsix hcs hleft))) (.ipv6 hsix)
    fun host port hauthority => (authority_of_not_bracket hopen hform hauthority).2

include hnode htrim

theorem parsesByGrammar_hostPort {host digits : List Char} (hcs : cs = host ++ ':' :: digits) (hne : host ≠ [])
    (hopen : host.head? ≠ some '[') (hhost : ':' ∉ host) (hcolon : ':' ∉ digits)
    (hdigits : digits ≠ [] ∧ (∀ c ∈ digits, c.isDigit = true) ∨ NoPort (JsNumber.number (String.ofList digits))) :
    ParsesByGrammar node (String.ofList cs) defaultPort := by
  have hhead : cs.head? ≠ some '[' := by
    rwa [hcs, List.head?_append_of_ne_nil _ hne]
  intro destination
  rw [parse_port htrim hnode hhead hcs hne hhost hcolon, map_validatePort_iff, String.toList_ofList]
  constructor
  · rintro ⟨port, hport, hvalue, rfl⟩
    rcases hdigits with ⟨hnil, hdecimal⟩ | hno
    · refine ⟨host, port, ?_, rfl⟩
      rw [hcs]
      exact .hostPort hne hhost ((portText_iff hnil hdecimal hport).mp hvalue)
    · exact absurd hvalue (hno port hport)
  · rintro ⟨host', port, hauthority, rfl⟩
    by_cases hform : HostForm cs
    · obtain ⟨hparts, -, hhost'⟩ := authority_of_hostForm hauthority hform
      rcases hparts with ⟨rfl, -⟩ | ⟨digits', hport, heq⟩
      · rw [hcs] at hhost'
        exact absurd (List.mem_append_right _ (List.mem_cons_self ..)) hhost'
      · obtain ⟨rfl, rfl⟩ := JsString.split_first hhost hhost' (hcs.symm.trans heq)
        exact ⟨port, hport.isPort, hport.number, rfl⟩
    · have hsix := (authority_of_not_bracket hhead hform hauthority).1
      exact absurd (colon_after_of_isIpv6 hsix hcs hhost) hcolon

theorem parsesByGrammar_brackets {left right : List Char} (hcs : cs = '[' :: (left ++ ']' :: right))
    (hclose : ']' ∉ left) (hform : ¬ HostForm cs)
    (hread : ∀ port, IsPort port → portAfter defaultPort right = some (port : Int) →
      Authority defaultPort cs left port)
    (hport : right = [] → IsIpv6 (String.ofList left) → IsPort defaultPort) :
    ParsesByGrammar node (String.ofList cs) defaultPort := by
  intro destination
  rw [parse_bracket htrim hnode hcs hclose, map_validatePort_iff, String.toList_ofList]
  constructor
  · rintro ⟨port, hrange, hvalue, rfl⟩
    exact ⟨left, port, hread port hrange hvalue, rfl⟩
  · rintro ⟨host, port, hauthority, rfl⟩
    rw [hcs] at hauthority hform
    obtain ⟨rfl, hsix, hrest⟩ := authority_of_brackets hclose hform hauthority
    rcases hrest with ⟨hnil, rfl⟩ | ⟨digits, hdigits, hright⟩
    · refine ⟨port, hport hnil hsix, ?_, rfl⟩
      rw [hnil]
      rfl
    · refine ⟨port, hdigits.isPort, ?_, rfl⟩
      rw [hright]
      exact hdigits.number

theorem parsesByGrammar_of_read (h : ReadByGrammar defaultPort cs) :
    ParsesByGrammar node (String.ofList cs) defaultPort := by
  cases h with
  | host hopen hcolon => exact parsesByGrammar_host htrim hopen hcolon
  | hostPort hne hopen hhost hcolon hdigits =>
    exact parsesByGrammar_hostPort hnode htrim rfl hne hopen hhost hcolon hdigits
  | ipv6 hsix => exact parsesByGrammar_ipv6 htrim hsix
  | bracketed hsix hport =>
    refine parsesByGrammar_brackets hnode htrim rfl (notMem_of_isIpv6 hsix (.inr rfl))
      (@not_hostForm_of_isIpv6 ['['] _ _ hsix) (fun port _ hvalue => ?_) fun _ _ => hport
    cases hvalue
    exact .bracketed hsix
  | @bracketedPort host digits port hsix hdigits =>
    refine parsesByGrammar_brackets hnode htrim rfl (notMem_of_isIpv6 hsix (.inr rfl))
      (@not_hostForm_of_isIpv6 ['['] _ _ hsix) (fun port' hport hvalue => ?_) fun hnil _ =>
        absurd hnil (List.cons_ne_nil _ _)
    exact .bracketedPort hsix ((portText_iff hdigits.nonempty hdigits.decimal hport).mp hvalue)
  | unclosed hclose hform =>
    refine parsesByGrammar_of_refused (parse_unclosed htrim rfl hclose) fun host port hauthority => ?_
    rcases (authority_of_bracket hform hauthority).2 with ⟨rfl, -⟩ | ⟨digits, -, rfl⟩
    · exact hclose (List.mem_append_right _ (List.mem_cons_self ..))
    · exact hclose (List.mem_append_right _ (List.mem_cons_self ..))
  | refused hclose hform hno hsix =>
    exact parsesByGrammar_brackets hnode htrim rfl hclose hform
      (fun port hport hvalue => absurd hvalue (hno port hport)) fun hnil hsix' => absurd hsix' (hsix hnil)

end Read

/-! ### What is not -/

section Parsed

variable (hnode : ∀ text, node.number text = JsNumber.number text)
  (htrim : JsString.trim (String.ofList cs) = String.ofList cs)
  (hparses : ParsesByGrammar node (String.ofList cs) defaultPort)

include hnode htrim hparses

theorem read_of_port {left right : List Char} (hcs : cs = left ++ ':' :: right) (hne : left ≠ [])
    (hopen : cs.head? ≠ some '[') (hleft : ':' ∉ left) (hright : ':' ∉ right) : ReadByGrammar defaultPort cs := by
  have hhead : left.head? ≠ some '[' := by
    rwa [hcs, List.head?_append_of_ne_nil _ hne] at hopen
  by_cases hno : NoPort (JsNumber.number (String.ofList right))
  · rw [hcs]
    exact .hostPort hne hhead hleft hright (.inr hno)
  · -- the code accepts, so the grammar gives the digits
    unfold NoPort at hno
    push Not at hno
    obtain ⟨port, hport, hvalue⟩ := hno
    have hreads : ReadsAs node (String.ofList cs) defaultPort left port := by
      unfold ReadsAs
      rw [parse_port htrim hnode hopen hcs hne hleft hright, map_validatePort_iff]
      exact ⟨port, hport, hvalue, rfl⟩
    have hauthority := hparses.authority hreads
    by_cases hform : HostForm cs
    · rw [hcs] at hform ⊢
      obtain ⟨-, port', hdigits⟩ := hform.split hleft
      exact .hostPort hne hhead hleft hright (.inl ⟨hdigits.nonempty, hdigits.decimal⟩)
    · exact .ipv6 (authority_of_not_bracket hopen hform hauthority).1

theorem read_of_brackets {left right : List Char} (hcs : cs = '[' :: (left ++ ']' :: right))
    (hclose : ']' ∉ left) (hform : ¬ HostForm cs) : ReadByGrammar defaultPort cs := by
  by_cases hno : NoPort (portAfter defaultPort right)
  · by_cases hsix : right = [] ∧ IsIpv6 (String.ofList left)
    · obtain ⟨rfl, hsix⟩ := hsix
      have hauthority : Authority defaultPort cs left defaultPort := by
        rw [hcs]
        exact .bracketed hsix
      have hreads := hparses.reads hauthority
      unfold ReadsAs at hreads
      rw [parse_bracket htrim hnode hcs hclose, map_validatePort_iff] at hreads
      obtain ⟨port, hport, hvalue, -⟩ := hreads
      exact absurd hvalue (hno port hport)
    · rw [hcs] at hform ⊢
      exact .refused hclose hform hno fun hnil hsix' => hsix ⟨hnil, hsix'⟩
  · unfold NoPort at hno
    push Not at hno
    obtain ⟨port, hport, hvalue⟩ := hno
    have hreads : ReadsAs node (String.ofList cs) defaultPort left port := by
      unfold ReadsAs
      rw [parse_bracket htrim hnode hcs hclose, map_validatePort_iff]
      exact ⟨port, hport, hvalue, rfl⟩
    have hauthority := hparses.authority hreads
    rw [hcs] at hauthority hform ⊢
    obtain ⟨-, hsix, ⟨rfl, rfl⟩ | ⟨digits, hdigits, rfl⟩⟩ := authority_of_brackets hclose hform hauthority
    · exact .bracketed hsix hport
    · exact .bracketedPort hsix hdigits

omit hnode in
theorem read_of_colons {left right : List Char} (hcs : cs = left ++ ':' :: right) (hopen : cs.head? ≠ some '[')
    (hleft : ':' ∉ left) (hwhole : left = [] ∨ ':' ∈ right) : ReadByGrammar defaultPort cs := by
  have hform : ¬ HostForm cs := by
    intro hform
    rw [hcs] at hform
    obtain ⟨hne, port, hdigits⟩ := hform.split hleft
    exact hwhole.elim hne hdigits.colon_notMem
  have hauthority := hparses.authority (parse_colons htrim hopen hcs hleft hwhole)
  exact .ipv6 (authority_of_not_bracket hopen hform hauthority).1

/-- The code takes an opening bracket off, or refuses, where the grammar has a host. -/
theorem not_hostForm_of_open {right : List Char} (hcs : cs = '[' :: right) : ¬ HostForm cs := by
  intro hform
  obtain ⟨host, port, hauthority, hhost, hcolon⟩ : ∃ host port, Authority defaultPort cs host port ∧
      (cs = host ∨ ∃ digits, cs = host ++ ':' :: digits) ∧ ':' ∉ host := by
    rcases hform with ⟨hne, hcolon⟩ | ⟨host, digits, port, hne, hcolon, hport, rfl⟩
    · exact ⟨cs, defaultPort, .host hne hcolon, .inl rfl, hcolon⟩
    · exact ⟨host, port, .hostPort hne hcolon hport, .inr ⟨digits, rfl⟩, hcolon⟩
  have hreads := hparses.reads hauthority
  unfold ReadsAs at hreads
  by_cases hclose : ']' ∈ right
  · obtain ⟨left, rest, rfl, hleft⟩ := List.eq_append_cons_of_mem hclose
    rw [parse_bracket htrim hnode hcs hleft, map_validatePort_iff] at hreads
    obtain ⟨port', -, -, heq⟩ := hreads
    obtain ⟨rfl, -⟩ := makeDestination_inj heq
    rcases hhost with rfl | ⟨digits, hdigits⟩
    · have hlength := congrArg List.length hcs
      simp at hlength
      omega
    · -- one more character than `host` would make a colon one of `[host`
      have htake : '[' :: host = host ++ [':'] := by
        have heq : ('[' :: host) ++ ']' :: rest = (host ++ [':']) ++ digits := by
          rw [List.append_assoc]
          exact hcs.symm.trans hdigits
        exact (List.append_inj heq (by simp)).1
      have hmem : ':' ∈ '[' :: host := htake ▸ List.mem_append_right _ (List.mem_cons_self ..)
      exact hcolon (by simpa using hmem)
  · exact parse_unclosed htrim hcs hclose _ hreads

theorem read_of_parsesByGrammar : ReadByGrammar defaultPort cs := by
  by_cases hopen : cs.head? = some '['
  · obtain ⟨right, hcs⟩ := List.head?_eq_some_iff.mp hopen
    have hform := not_hostForm_of_open hnode htrim hparses hcs
    by_cases hclose : ']' ∈ right
    · obtain ⟨left, rest, rfl, hleft⟩ := List.eq_append_cons_of_mem hclose
      exact read_of_brackets hnode htrim hparses hcs hleft hform
    · rw [hcs] at hform ⊢
      exact .unclosed hclose hform
  · by_cases hcolon : ':' ∈ cs
    · obtain ⟨left, right, hcs, hleft⟩ := List.eq_append_cons_of_mem hcolon
      by_cases hport : left ≠ [] ∧ ':' ∉ right
      · exact read_of_port hnode htrim hparses hcs hport.1 hopen hleft hport.2
      · refine read_of_colons htrim hparses hcs hopen hleft ?_
        by_contra hnot
        push Not at hnot
        exact hport hnot
    · exact .host hopen hcolon

end Parsed

end Comparison

/-- **`parseAuthority` reads by the grammar of an authority exactly the texts of `ReadByGrammar`.** -/
theorem parseAuthority_grammar_iff {node : Node} (hnode : ∀ text, node.number text = JsNumber.number text)
    {s : String} (htrim : JsString.trim s = s) (defaultPort : Nat) :
    ParsesByGrammar node s defaultPort ↔ ReadByGrammar defaultPort s.toList := by
  have hs : String.ofList s.toList = s := String.ofList_toList
  rw [← hs] at htrim ⊢
  rw [String.toList_ofList]
  exact ⟨read_of_parsesByGrammar hnode htrim, parsesByGrammar_of_read hnode htrim⟩

/-- The built-ins on texts of addresses and of numbers. -/
noncomputable def authorityNode : Node :=
  { asciiNode with isIP := IpText.version, number := JsNumber.number }

theorem parseAuthority_grammar_iff_localhost : ParsesByGrammar authorityNode "localhost:8080" 80 := by
  have hread : ReadByGrammar 80 ("localhost".toList ++ ':' :: "8080".toList) :=
    .hostPort (by decide) (by decide) (by decide) (by decide)
      (.inl ⟨by decide, List.all_eq_true.mp rfl⟩)
  exact (parseAuthority_grammar_iff (fun _ => rfl) (by decide +kernel) 80).mpr hread

/-- What follows the closing bracket is not looked at. -/
theorem junk_accepted : ¬ ParsesByGrammar authorityNode "[::1]junk" 80 := by
  intro hparses
  have htrim : JsString.trim (String.ofList "[::1]junk".toList) = String.ofList "[::1]junk".toList := by
    decide +kernel
  have hform : ¬ HostForm ('[' :: ("::1".toList ++ ']' :: "junk".toList)) := fun hform =>
    absurd hform.count_colon_le (by decide)
  have hreads : ReadsAs authorityNode (String.ofList "[::1]junk".toList) 80 "::1".toList 80 := by
    unfold ReadsAs
    rw [@parse_bracket _ _ _ htrim "::1".toList "junk".toList (fun _ => rfl) rfl (by decide),
      map_validatePort_iff]
    exact ⟨80, by decide, rfl, rfl⟩
  have hauthority := ParsesByGrammar.authority hparses hreads
  obtain ⟨-, -, hrest⟩ := authority_of_brackets (by decide) hform hauthority
  rcases hrest with ⟨hnil, -⟩ | ⟨digits, -, heq⟩
  · cases hnil
  · cases heq

end Sepigs
