import Sepigs.Config.Redaction
import Sepigs.Lib.JsonOrder

/-!
# Outbounds as records

The record of an outbound with its tag read out, what is left of it without the tag, and
the same outbound under another tag.
-/

namespace Sepigs

/-- An outbound with a text as its tag. -/
structure ParsedOutbound where
  record : OutboundRecord
  tag : String
  tagged : record.get "tag" = some (.string tag)
  distinct : ∀ entry ∈ record.entries, Json.Distinct entry.2

namespace ParsedOutbound

theorem ext_record {v w : ParsedOutbound} (h : v.record = w.record) : v = w := by
  have htag := v.tagged
  rw [h, w.tagged] at htag
  cases v
  cases w
  cases h
  cases htag
  rfl

/-- `{ ...value, tag }` -/
def retag (value : ParsedOutbound) (tag : String) : ParsedOutbound where
  record := value.record.set "tag" (.string tag)
  tag := tag
  tagged := (JsMap.get_set _ _ _ _).trans (if_pos rfl)
  distinct := by
    rintro ⟨key, x⟩ hentry
    rcases (JsMap.mem_entries_set _ _ _ _ _).mp hentry with ⟨-, rfl⟩ | ⟨-, hold⟩
    · exact .scalar rfl
    · exact value.distinct _ hold

def whole (value : ParsedOutbound) : Json := .object value.record.entries

/-- The object without its tag. -/
def content (value : ParsedOutbound) : Json := .object (value.record.delete "tag").entries

theorem tag_retag (value : ParsedOutbound) (tag : String) : (value.retag tag).tag = tag := rfl

theorem content_retag (value : ParsedOutbound) (tag : String) :
    (value.retag tag).content = value.content := by
  unfold content retag
  rw [JsMap.delete_set]

theorem retag_self (value : ParsedOutbound) : value.retag value.tag = value :=
  ext_record (JsMap.set_of_get _ value.tagged)

theorem distinct_whole (value : ParsedOutbound) : Json.Distinct value.whole :=
  .object value.record.nodup value.distinct

theorem distinct_content (value : ParsedOutbound) : Json.Distinct value.content := by
  apply Json.Distinct.object (value.record.delete "tag").nodup
  rintro ⟨key, x⟩ hentry
  exact value.distinct _ ((JsMap.mem_entries_delete _ _ _ _).mp hentry).2

theorem apart_content {localeCompare : String → String → Int} (value : ParsedOutbound)
    (h : Json.Apart localeCompare value.whole) : Json.Apart localeCompare value.content := by
  cases h with
  | scalar hscalar => cases hscalar
  | object hkeys hfields =>
    have hsub : ∀ key ∈ Json.keys (value.record.delete "tag").entries, key ∈ Json.keys value.record.entries := by
      intro key hkey
      obtain ⟨field, hfield, rfl⟩ := List.mem_map.mp hkey
      exact Json.mem_keys ((JsMap.mem_entries_delete _ _ _ _).mp hfield).2
    refine .object (fun left hleft right hright => hkeys left (hsub left hleft) right (hsub right hright)) ?_
    rintro ⟨key, x⟩ hentry
    exact hfields _ ((JsMap.mem_entries_delete _ _ _ _).mp hentry).2

end ParsedOutbound

/-- `{ type: "direct", tag, connectTimeoutMs }` -/
def directOutbound (tag : String) (connectTimeoutMs : Nat) : ParsedOutbound where
  record := ((JsMap.empty.set "type" (.string "direct")).set "tag" (.string tag)).set
    "connectTimeoutMs" (.number connectTimeoutMs)
  tag := tag
  tagged := by
    rw [JsMap.get_set, if_neg (by decide), JsMap.get_set, if_pos rfl]
  distinct := by
    rintro ⟨key, x⟩ hentry
    rcases (JsMap.mem_entries_set _ _ _ _ _).mp hentry with ⟨-, rfl⟩ | ⟨-, hentry⟩
    · exact .scalar rfl
    · rcases (JsMap.mem_entries_set _ _ _ _ _).mp hentry with ⟨-, rfl⟩ | ⟨-, hentry⟩
      · exact .scalar rfl
      · rcases (JsMap.mem_entries_set _ _ _ _ _).mp hentry with ⟨-, rfl⟩ | ⟨-, hempty⟩
        · exact .scalar rfl
        · cases hempty

end Sepigs
