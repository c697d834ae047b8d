import ReplxEdge.Foundation.Runes
import ReplxEdge.Net.Query

/-!
# Requests

What the HTTP server hands to the proxy. Field names are tokens in canonical
case, no two fields share a name and no field is empty, so a header read by
name has one answer and lower-casing the names loses nothing.
-/

namespace ReplxEdge.Net

open Foundation

/-!
## Names
-/

def isTokenByte (b : UInt8) : Bool :=
  decide ((48 ≤ b ∧ b ≤ 57) ∨ (65 ≤ b ∧ b ≤ 90) ∨ (97 ≤ b ∧ b ≤ 122)) ||
    [33, 35, 36, 37, 38, 39, 42, 43, 45, 46, 94, 95, 96, 124, 126].contains b

def isToken (s : GoString) : Bool :=
  s != [] && s.all isTokenByte

def canonicalFrom : Bool -> GoString -> GoString
  | _, [] => []
  | upper, b :: s =>
    (if upper then upperByte b else lowerByte b) :: canonicalFrom (b == 45) s

/-- Upper case after the start and after each hyphen, lower case elsewhere. -/
def canonicalName (name : GoString) : GoString :=
  canonicalFrom true name

theorem lowerByte_idem (b : UInt8) : lowerByte (lowerByte b) = lowerByte b := by
  revert b
  exact forall_byte (by decide +kernel)

theorem upperByte_lowerByte (b : UInt8) : upperByte (lowerByte b) = upperByte b := by
  revert b
  exact forall_byte (by decide +kernel)

theorem lowerByte_hyphen (b : UInt8) : (lowerByte b == 45) = (b == 45) := by
  revert b
  exact forall_byte (by decide +kernel)

theorem isTokenByte_ascii {b : UInt8} (h : isTokenByte b = true) : b < 0x80 := by
  have hall : forall b : UInt8, isTokenByte b = true -> b < 0x80 :=
    forall_byte (by decide +kernel)
  exact hall b h

theorem canonicalFrom_lower (upper : Bool) (s : GoString) :
    canonicalFrom upper (s.map lowerByte) = canonicalFrom upper s := by
  induction s generalizing upper with
  | nil => rfl
  | cons b s ih =>
    simp only [List.map_cons, canonicalFrom, lowerByte_idem,
      upperByte_lowerByte, lowerByte_hyphen, ih]

theorem isASCII_of_isToken {s : GoString} (h : isToken s = true) :
    isASCII s = true := by
  rw [isToken, Bool.and_eq_true, List.all_eq_true] at h
  rw [isASCII, List.all_eq_true]
  intro b hb
  exact decide_eq_true (isTokenByte_ascii (h.right b hb))

theorem canonicalName_toLower {name : GoString} (h : isToken name = true) :
    canonicalName (toLower name) = canonicalName name := by
  rw [toLower_of_isASCII (isASCII_of_isToken h)]
  exact canonicalFrom_lower true name

/-!
## Headers
-/

structure Field where
  name : GoString
  values : List GoString
deriving DecidableEq

structure Header where
  fields : List Field
  token : forall field, field ∈ fields -> isToken field.name = true
  canonical : forall field, field ∈ fields -> canonicalName field.name = field.name
  distinct : (fields.map Field.name).Nodup
  filled : forall field, field ∈ fields -> field.values ≠ []

namespace Header

def values (h : Header) (name : GoString) : List GoString :=
  ((h.fields.find? fun field => field.name == name).map Field.values).getD []

/-- First value under a canonical name, empty when the field is absent. -/
def get (h : Header) (name : GoString) : GoString :=
  (h.values name).headD []

def empty : Header where
  fields := []
  token := by simp
  canonical := by simp
  distinct := by simp
  filled := by simp

def filter (h : Header) (keep : GoString -> Bool) : Header where
  fields := h.fields.filter fun field => keep field.name
  token := fun field hfield => h.token field (List.mem_of_mem_filter hfield)
  canonical := fun field hfield => h.canonical field (List.mem_of_mem_filter hfield)
  distinct := h.distinct.sublist (List.filter_sublist.map Field.name)
  filled := fun field hfield => h.filled field (List.mem_of_mem_filter hfield)

def del (h : Header) (name : GoString) : Header :=
  h.filter fun other => other != name

def set (h : Header) (name value : GoString) (htoken : isToken name = true)
    (hcanonical : canonicalName name = name) : Header where
  fields := ⟨name, [value]⟩ :: (h.del name).fields
  token := by
    intro field hfield
    rcases List.mem_cons.mp hfield with rfl | hfield
    · exact htoken
    · exact (h.del name).token field hfield
  canonical := by
    intro field hfield
    rcases List.mem_cons.mp hfield with rfl | hfield
    · exact hcanonical
    · exact (h.del name).canonical field hfield
  distinct := by
    rw [List.map_cons, List.nodup_cons]
    refine ⟨?_, (h.del name).distinct⟩
    intro hmem
    rcases List.mem_map.mp hmem with ⟨field, hfield, hname⟩
    have hne := (List.mem_filter.mp hfield).right
    simp only [bne_iff_ne, ne_eq] at hne
    exact hne hname
  filled := by
    intro field hfield
    rcases List.mem_cons.mp hfield with rfl | hfield
    · simp
    · exact (h.del name).filled field hfield

theorem plexToken_isToken : isToken (str "X-Plex-Token") = true := by
  decide

theorem plexToken_canonical : canonicalName (str "X-Plex-Token") = str "X-Plex-Token" := by
  decide

variable {field : Field}

theorem find?_of_mem {fields : List Field} (hnodup : (fields.map Field.name).Nodup)
    (hfield : field ∈ fields) :
    (fields.find? fun other => other.name == field.name) = some field := by
  induction fields with
  | nil => cases hfield
  | cons head rest ih =>
    rcases List.nodup_cons.mp hnodup with ⟨hnot, hrest⟩
    rcases List.mem_cons.mp hfield with rfl | hmem
    · simp
    have hne : head.name ≠ field.name := by
      intro heq
      exact hnot (List.mem_map.mpr ⟨field, hmem, heq.symm⟩)
    rw [List.find?_cons_of_neg (by simpa using hne)]
    exact ih hrest hmem

theorem values_of_mem (h : Header) (hfield : field ∈ h.fields) :
    h.values field.name = field.values := by
  rw [values, find?_of_mem h.distinct hfield]
  rfl

theorem values_eq_nil_iff (h : Header) (name : GoString) :
    h.values name = [] <-> forall field, field ∈ h.fields -> field.name ≠ name := by
  constructor
  · intro hnil field hfield hname
    subst hname
    rw [values_of_mem h hfield] at hnil
    exact h.filled field hfield hnil
  intro hnone
  have hfind : (h.fields.find? fun field => field.name == name) = none := by
    rw [List.find?_eq_none]
    intro field hfield heq
    exact hnone field hfield (by simpa using heq)
  rw [values, hfind]
  rfl

@[simp] theorem values_filter (h : Header) (keep : GoString -> Bool) (name : GoString) :
    (h.filter keep).values name = if keep name then h.values name else [] := by
  by_cases hkeep : keep name = true
  · rw [if_pos hkeep]
    by_cases hnil : h.values name = []
    · rw [hnil, values_eq_nil_iff]
      intro field hfield
      exact (h.values_eq_nil_iff name).mp hnil field (List.mem_of_mem_filter hfield)
    rw [values_eq_nil_iff] at hnil
    push Not at hnil
    rcases hnil with ⟨field, hfield, rfl⟩
    rw [values_of_mem h hfield]
    exact values_of_mem (h.filter keep) (List.mem_filter.mpr ⟨hfield, hkeep⟩)
  rw [if_neg hkeep, values_eq_nil_iff]
  intro field hfield hname
  exact hkeep (hname ▸ (List.mem_filter.mp hfield).right)

theorem values_set_ne (h : Header) {name other value : GoString}
    (htoken : isToken name = true) (hcanonical : canonicalName name = name)
    (hne : other ≠ name) : (h.set name value htoken hcanonical).values other = h.values other := by
  have hdel : (h.del name).values other = h.values other := by
    rw [del, values_filter]
    simp [hne]
  rw [← hdel, values, set, List.find?_cons_of_neg (by simpa using Ne.symm hne)]
  rfl

theorem lower_name_inj {h k : Header} {f g : Field} (hf : f ∈ h.fields)
    (hg : g ∈ k.fields) (heq : toLower f.name = toLower g.name) : f.name = g.name := by
  calc
    f.name = canonicalName (toLower f.name) := by
      rw [canonicalName_toLower (h.token f hf), h.canonical f hf]
    _ = canonicalName (toLower g.name) := by rw [heq]
    _ = g.name := by rw [canonicalName_toLower (k.token g hg), k.canonical g hg]

end Header

/-!
## Requests

The raw path is kept when the client's encoding of the path is not the default
one. The body is what the client sends; its declared length is minus one when
it is sent in chunks.
-/

structure Request where
  method : GoString
  host : GoString
  path : GoString
  rawPath : GoString
  rawQuery : GoString
  header : Header
  body : GoString
  contentLength : Int
  remoteAddr : GoString
  method_token : isToken method = true
  length_declared : contentLength = -1 ∨ contentLength = body.length

namespace Request

def query (r : Request) : Values :=
  parseQuery r.rawQuery

def bareGet (path rawQuery : GoString) (header : Header) : Request where
  method := str "GET"
  host := []
  path := path
  rawPath := []
  rawQuery := rawQuery
  header := header
  body := []
  contentLength := 0
  remoteAddr := str "203.0.113.7:40112"
  method_token := by decide
  length_declared := Or.inr rfl

end Request

end ReplxEdge.Net
