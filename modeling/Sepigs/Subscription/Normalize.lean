import Sepigs.Config.Outbounds
import Sepigs.Lib.Firsts
import Sepigs.Lib.JsonOrder

/-!
# The outbounds of a subscription (`subscription/normalize.ts`)

An outbound is de-duplicated by the text of its other fields, and its tag gets a number when
the sanitized tag was there before.  The numbered tag is not compared with the tags that the
subscription itself has.
-/

namespace Sepigs

open Json (Same NumberText)
open Firsts (firsts)

namespace ParsedOutbound

/-- `JSON.stringify({ ...value, tag: undefined })` -/
def fingerprint (number : Rat → List Char) (value : ParsedOutbound) : String :=
  Json.stringify number value.content

end ParsedOutbound

/-! ## `sanitizeTag` -/

/-- `[a-zA-Z0-9._-]` -/
def isTagChar (c : Char) : Bool :=
  c.isAlphanum || c = '.' || c = '_' || c = '-'

/-- `.replace(/[^a-zA-Z0-9._-]+/gu, "-")`, within a run or not. -/
def replaceRuns : Bool → List Char → List Char
  | _, [] => []
  | inRun, c :: cs =>
    if isTagChar c then c :: replaceRuns false cs
    else if inRun then replaceRuns true cs
    else '-' :: replaceRuns true cs

/-- `.replace(/^-+|-+$/gu, "")` -/
def stripHyphens (cs : List Char) : List Char :=
  (cs.dropWhile (· = '-')).rdropWhile (· = '-')

def sanitizeTag (value : String) : String :=
  match stripHyphens (replaceRuns false (JsString.trim value).toList) with
  | [] => "outbound"
  | c :: cs => String.ofList (c :: cs)

/-! ## `normalizeOutbounds` -/

structure Normalizing where
  fingerprints : List String
  tags : JsMap String Nat
  output : List ParsedOutbound

/-- `count === 1 ? base : base-count` -/
def numberedTag (base : String) (count : Nat) : String :=
  if count = 1 then base else s!"{base}-{count}"

def normalizeOutbound (number : Rat → List Char) (s : Normalizing) (value : ParsedOutbound) :
    Normalizing :=
  let fingerprint := value.fingerprint number
  if fingerprint ∈ s.fingerprints then s
  else
    let base := sanitizeTag value.tag
    let count := (s.tags.get base).getD 0 + 1
    { fingerprints := fingerprint :: s.fingerprints
      tags := s.tags.set base count
      output := s.output ++ [value.retag (numberedTag base count)] }

def normalizeOutbounds (number : Rat → List Char) (values : List ParsedOutbound) :
    List ParsedOutbound :=
  (values.foldl (normalizeOutbound number) ⟨[], ∅, []⟩).output

/-! ## What normalising is for -/

/-- Equal but for the tag and the order of the keys. -/
def SameContent (v w : ParsedOutbound) : Prop := Same v.content w.content

/-- Distinct tags that are not empty, on the first outbound of each content. -/
structure Normalized (values output : List ParsedOutbound) : Prop where
  distinct : (output.map ParsedOutbound.tag).Nodup
  nonempty : ∀ outbound ∈ output, outbound.tag ≠ ""
  kept : List.Forall₂ (fun value outbound => outbound = value.retag outbound.tag)
    (firsts SameContent values) output

/-- The tags that the outbounds of distinct contents start from. -/
noncomputable def bases (values : List ParsedOutbound) : List String :=
  (firsts SameContent values).map fun value => sanitizeTag value.tag

/-- No number that is given makes a tag that another outbound starts from. -/
def SuffixesFree (values : List ParsedOutbound) : Prop :=
  ∀ base count, 2 ≤ count → count ≤ (bases values).count base →
    s!"{base}-{count}" ∉ bases values

/-- Outbounds of one content have their keys in one order. -/
def OneOrder (values : List ParsedOutbound) : Prop :=
  ∀ v ∈ values, ∀ w ∈ values, SameContent v w → v.content = w.content

end Sepigs
