import ReplxEdge.Foundation.Table
import ReplxEdge.Proxy.OriginRequest

/-!
# Copying headers

`copyHeaders` as the loop it is: every field of the source that is not hop-by-hop
and not nominated is added to the destination, value by value. The names are read
from the first Connection line, while every line may nominate fields.
-/

namespace ReplxEdge.Proxy

open Foundation
open Net

variable {name : GoString} {src : Header} {field : Field}

/-!
## The loop
-/

/-- Go's `Header.Add`. -/
def add (dst : Table GoString (List GoString)) (name value : GoString) :
    Table GoString (List GoString) :=
  dst.set (canonicalName name) ((dst.lookup (canonicalName name)).getD [] ++ [value])

def copyField (src : Header) (dst : Table GoString (List GoString)) (field : Field) :
    Table GoString (List GoString) :=
  if isHopByHop field.name then dst
  else if (connected src).contains (toLower field.name) then dst
  else field.values.foldl (fun out value => add out field.name value) dst

/-- The fields come in the order in which the map is ranged over. -/
def copyHeadersTo (dst : Table GoString (List GoString)) (src : Header) :
    Table GoString (List GoString) :=
  src.fields.foldl (copyField src) dst

theorem lookup_addAll (values : List GoString) (hvalues : values ≠ [])
    (hname : canonicalName name = name) (dst : Table GoString (List GoString)) (other : GoString) :
    (values.foldl (fun out value => add out name value) dst).lookup other =
      if other = name then some ((dst.lookup name).getD [] ++ values) else dst.lookup other := by
  induction values generalizing dst with
  | nil => exact absurd rfl hvalues
  | cons value values ih =>
    have hadd : forall key, (add dst name value).lookup key =
        if key = name then some ((dst.lookup name).getD [] ++ [value])
        else dst.lookup key := by
      intro key
      rw [add, hname, Table.lookup_set]
    rw [List.foldl_cons]
    by_cases hempty : values = []
    · rw [hempty, List.foldl_nil]
      exact hadd other
    rw [ih hempty, hadd name, hadd other, if_pos rfl, Option.getD_some,
      List.append_assoc, List.singleton_append]
    by_cases hother : other = name
    · rw [if_pos hother, if_pos hother]
    · rw [if_neg hother, if_neg hother, if_neg hother]

theorem lookup_copyField (hfield : field ∈ src.fields)
    (dst : Table GoString (List GoString)) (name : GoString) :
    (copyField src dst field).lookup name = if name = field.name ∧ endToEnd src name = true then
        some ((dst.lookup name).getD [] ++ field.values) else dst.lookup name := by
  unfold copyField
  by_cases hhop : isHopByHop field.name = true
  · rw [if_pos hhop, if_neg]
    intro h
    rw [h.left, endToEnd, hhop] at h
    exact absurd h.right (by simp)
  rw [if_neg hhop]
  by_cases hconnected : (connected src).contains (toLower field.name) = true
  · rw [if_pos hconnected, if_neg]
    intro h
    rw [h.left, endToEnd, hconnected] at h
    exact absurd h.right (by simp)
  have hkept : endToEnd src field.name = true := by
    rw [Bool.not_eq_true] at hhop hconnected
    rw [endToEnd, hhop, hconnected]
    rfl
  rw [if_neg hconnected, lookup_addAll field.values (src.filled field hfield)
    (src.canonical field hfield)]
  by_cases hname : name = field.name
  · rw [if_pos hname, if_pos ⟨hname, by rw [hname]; exact hkept⟩, hname]
  · rw [if_neg hname, if_neg fun h => hname h.left]

variable {fields : List Field}

theorem lookup_copyFields_other (hfields : forall field, field ∈ fields -> field ∈ src.fields)
    (h : (forall field, field ∈ fields -> field.name ≠ name) ∨ endToEnd src name = false)
    (dst : Table GoString (List GoString)) :
    (fields.foldl (copyField src) dst).lookup name = dst.lookup name := by
  induction fields generalizing dst with
  | nil => rfl
  | cons field fields ih =>
    have hrest : (forall other, other ∈ fields -> other.name ≠ name) ∨
        endToEnd src name = false := by
      rcases h with h | h
      · exact Or.inl fun other hother => h other (List.mem_cons_of_mem field hother)
      · exact Or.inr h
    rw [List.foldl_cons, ih (fun other hother => hfields other
      (List.mem_cons_of_mem field hother)) hrest, lookup_copyField
      (hfields field List.mem_cons_self), if_neg]
    intro hcopied
    rcases h with h | h
    · exact h field List.mem_cons_self hcopied.left.symm
    rw [hcopied.right] at h
    cases h

theorem lookup_copyFields (hfields : forall field, field ∈ fields -> field ∈ src.fields)
    (hdistinct : (fields.map Field.name).Nodup) (hfield : field ∈ fields)
    (hkept : endToEnd src field.name = true) (dst : Table GoString (List GoString)) :
    (fields.foldl (copyField src) dst).lookup field.name =
      some ((dst.lookup field.name).getD [] ++ field.values) := by
  induction fields generalizing dst with
  | nil => cases hfield
  | cons first fields ih =>
    have hrest : forall other, other ∈ fields -> other ∈ src.fields := by
      intro other hother
      exact hfields other (List.mem_cons_of_mem first hother)
    have hfirst := hfields first List.mem_cons_self
    rw [List.map_cons, List.nodup_cons] at hdistinct
    rw [List.foldl_cons]
    rcases List.mem_cons.mp hfield with rfl | hmem
    · have hothers : forall other, other ∈ fields -> other.name ≠ field.name := by
        intro other hother hname
        exact hdistinct.left (List.mem_map.mpr ⟨other, hother, hname⟩)
      rw [lookup_copyFields_other hrest (Or.inl hothers), lookup_copyField hfirst,
        if_pos ⟨rfl, hkept⟩]
    have hne : field.name ≠ first.name := by
      intro hname
      exact hdistinct.left (List.mem_map.mpr ⟨field, hmem, hname⟩)
    rw [ih hrest hdistinct.right hmem, lookup_copyField hfirst, if_neg fun h => hne h.left]

/-!
## An empty destination
-/

section EmptyDestination

variable {src : Header}

theorem lookup_absent (h : forall field, field ∈ src.fields -> field.name ≠ name) :
    (copyHeadersTo Table.empty src).lookup name = none :=
  lookup_copyFields_other (fun _ h => h) (Or.inl h) Table.empty

theorem lookup_left_behind (h : endToEnd src name = false) :
    (copyHeadersTo Table.empty src).lookup name = none :=
  lookup_copyFields_other (fun _ h => h) (Or.inr h) Table.empty

theorem lookup_copied (hfield : field ∈ src.fields) (h : endToEnd src field.name = true) :
    (copyHeadersTo Table.empty src).lookup field.name = some field.values :=
  lookup_copyFields (fun _ h => h) src.distinct hfield h Table.empty

end EmptyDestination

/-!
## Nominated fields
-/

def nominatedBy (line : GoString) : List GoString :=
  (((split line 44).map trimSpace).filter fun token => token != []).map toLower

def Nominated (src : Header) (name : GoString) : Prop :=
  exists line, line ∈ src.values (str "Connection") ∧ toLower name ∈ nominatedBy line

/-- The destination has no hop-by-hop and no nominated field, and all the values of every
other one. -/
structure Stripped (src : Header) (dst : Table GoString (List GoString)) : Prop where
  hopByHop : forall name, isHopByHop name = true -> dst.lookup name = none
  nominated : forall name, Nominated src name -> dst.lookup name = none
  others : forall field, field ∈ src.fields -> isHopByHop field.name = false ->
    ¬ Nominated src field.name -> dst.lookup field.name = some field.values
  only : forall name, (forall field, field ∈ src.fields -> field.name ≠ name) ->
    dst.lookup name = none

/-- No field of the source is nominated by a later Connection line alone. -/
def FirstLineNominates (src : Header) : Prop :=
  forall field, field ∈ src.fields -> isHopByHop field.name = false ->
    Nominated src field.name -> toLower field.name ∈ nominatedBy (src.get (str "Connection"))

theorem connected_first (src : Header) :
    connected src = nominatedBy (src.get (str "Connection")) :=
  rfl

theorem nominatedBy_nil : nominatedBy [] = [] := by
  decide

theorem nominated_of_connected (h : toLower name ∈ connected src) : Nominated src name := by
  rw [connected_first, Header.get] at h
  cases hlines : src.values (str "Connection") with
  | nil =>
    rw [hlines, List.headD_nil, nominatedBy_nil] at h
    cases h
  | cons line lines =>
    rw [hlines, List.headD_cons] at h
    exact ⟨line, by rw [hlines]; exact List.mem_cons_self, h⟩

theorem endToEnd_eq_true :
    endToEnd src name = true <-> isHopByHop name = false ∧ toLower name ∉ connected src := by
  rw [endToEnd, Bool.and_eq_true, Bool.not_eq_true', Bool.not_eq_true', ← Bool.not_eq_true
    (List.contains _ _), List.contains_iff_mem]

/-- Headers are stripped exactly when the first Connection line nominates whatever the
others do. -/
theorem copyHeaders_stripped_iff (src : Header) :
    Stripped src (copyHeadersTo Table.empty src) <-> FirstLineNominates src := by
  constructor
  · intro h field hfield hhop hnominated
    by_contra hfirst
    have hcopied := lookup_copied hfield (endToEnd_eq_true.mpr ⟨hhop, hfirst⟩)
    rw [h.nominated field.name hnominated] at hcopied
    cases hcopied
  intro h
  constructor
  · intro name hhop
    apply lookup_left_behind
    rw [endToEnd, hhop]
    rfl
  · intro name hnominated
    by_cases hpresent : forall field, field ∈ src.fields -> field.name ≠ name
    · exact lookup_absent hpresent
    push Not at hpresent
    rcases hpresent with ⟨field, hfield, rfl⟩
    apply lookup_left_behind
    rw [← Bool.not_eq_true, endToEnd_eq_true]
    intro hkept
    exact hkept.right (h field hfield hkept.left hnominated)
  · intro field hfield hhop hnominated
    apply lookup_copied hfield
    rw [endToEnd_eq_true]
    exact ⟨hhop, fun hfirst => hnominated (nominated_of_connected hfirst)⟩
  intro name hpresent
  exact lookup_absent hpresent

def twoLines : Header where
  fields := [⟨str "Connection", [str "keep-alive", str "X-Private"]⟩,
    ⟨str "X-Private", [str "1"]⟩]
  token := by decide
  canonical := by decide
  distinct := by decide
  filled := by decide

theorem later_nomination_copied :
    Nominated twoLines (str "X-Private") ∧
      (copyHeadersTo Table.empty twoLines).lookup (str "X-Private") = some [str "1"] ∧
      ¬ Stripped twoLines (copyHeadersTo Table.empty twoLines) := by
  have hnominated : Nominated twoLines (str "X-Private") :=
    ⟨str "X-Private", by decide, by decide⟩
  have hcopied : (copyHeadersTo Table.empty twoLines).lookup (str "X-Private") =
      some [str "1"] := by
    decide
  refine ⟨hnominated, hcopied, ?_⟩
  intro h
  rw [h.nominated _ hnominated] at hcopied
  cases hcopied

end ReplxEdge.Proxy
