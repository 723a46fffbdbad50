import Sepigs.Lib.JsString
import Sepigs.Lib.Replace

/-!
# Messages of a reload (`sanitizeReloadMessage` of `reload/events.ts`)

White space is squeezed, the message is cut to 512 code units, and two patterns redact: a key with
its value, then the user name and the password of a URL.  Texts are UTF-16 code units here, since
the cut counts them.
-/

namespace Sepigs

open Replace

/-- A text as JavaScript has it. -/
abbrev Units := List UInt16

/-- The code units of a text of the basic plane. -/
def units (text : String) : Units := text.toList.map fun c => UInt16.ofNat c.toNat

/-- The character of a code unit; half a pair has none. -/
def unitChar (u : UInt16) : Char := Char.ofNat u.toNat

/-- `\s` -/
def isSpace (u : UInt16) : Bool := JsString.isWhitespace (unitChar u)

/-! ## The first pattern -/

def secretKeys : List String := ["password", "token", "secret", "authorization"]

/-- `(password|token|secret|authorization)`, without case. -/
def keyLength (text : Units) : Option Nat :=
  (secretKeys.find? fun key => key.toList.isPrefixOf (text.map fun u => JsString.foldCase (unitChar u))).map
    fun key => key.toList.length

/-- `\s*[:=]\s*` -/
def gapLength (text : Units) : Option Nat :=
  match text.dropWhile isSpace with
  | sep :: rest =>
    if sep = 58 ∨ sep = 61 then
      some ((text.takeWhile isSpace).length + (1 + (rest.takeWhile isSpace).length))
    else none
  | [] => none

/-- `[^\s,;]` -/
def isValueUnit (u : UInt16) : Bool := !isSpace u && u ≠ 44 && u ≠ 59

/-- A key, what separates it from its value, and the value. -/
structure PairMatch where
  key : Nat
  gap : Nat
  value : Nat

/-- `(password|token|secret|authorization)\s*[:=]\s*[^\s,;]+`, without case. -/
def pairAt (text : Units) : Option PairMatch :=
  match keyLength text with
  | none => none
  | some key =>
    match gapLength (text.drop key) with
    | none => none
    | some gap =>
      let value := (((text.drop key).drop gap).takeWhile isValueUnit).length
      if value = 0 then none else some ⟨key, gap, value⟩

/-- `$1=<redacted>` -/
def pairPattern : Pattern UInt16 := fun text =>
  (pairAt text).map fun pair =>
    ⟨pair.key + (pair.gap + pair.value), [.copy 0 pair.key, .text (units "=<redacted>")]⟩

/-! ## The second pattern -/

/-- `[^/\s:@]` -/
def isUserUnit (u : UInt16) : Bool := u ≠ 47 && !isSpace u && u ≠ 58 && u ≠ 64

/-- `[^@\s/]` -/
def isPasswordUnit (u : UInt16) : Bool := u ≠ 64 && !isSpace u && u ≠ 47

/-- `:\/\/([^/\s:@]+):([^@\s/]+)@` -/
def userinfoAt (text : Units) : Option Nat :=
  if (units "://").isPrefixOf text then
    let user := (text.drop 3).takeWhile isUserUnit
    match (text.drop 3).dropWhile isUserUnit with
    | colon :: rest =>
      let password := rest.takeWhile isPasswordUnit
      if colon = 58 ∧ user ≠ [] ∧ password ≠ [] ∧ (rest.dropWhile isPasswordUnit).head? = some 64 then
        some (3 + (user.length + (1 + (password.length + 1))))
      else none
    | [] => none
  else none

/-- `://<redacted>:<redacted>@` -/
def userinfoPattern : Pattern UInt16 := fun text =>
  (userinfoAt text).map fun length => ⟨length, [.text (units "://<redacted>:<redacted>@")]⟩

/-! ## The message -/

/-- `\s+`, written as one blank. -/
def spacePattern : Pattern UInt16 := fun text =>
  let spaces := text.takeWhile isSpace
  if spaces = [] then none else some ⟨spaces.length, [.text [32]]⟩

/-- `message.replaceAll(/\s+/gu, " ").trim()` -/
def squeeze (message : Units) : Units :=
  ((replaceAll id id spacePattern message).dropWhile isSpace).rdropWhile isSpace

def sanitizeReloadMessage (message : Units) : Units :=
  let bounded := (squeeze message).take 512
  replaceAll id id userinfoPattern (replaceAll id id pairPattern bounded)

end Sepigs
