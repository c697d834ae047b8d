import Mathlib.Data.List.Infix

/-!
# Journals

What happened, the latest record first. A journal only grows at its head, so the
past of a record never changes. The operators are those of past-time temporal
logic: a condition on a record may speak of the journal before it.
-/

namespace ReplxEdge.Foundation

variable {Record : Type} {p p' : List Record -> Record -> Prop} {q : Record -> Prop}
variable {new past log : List Record} {r : Record}

/-!
## Since
-/

/-- Some record meets a condition, and no later one meets another. -/
def Since (p : List Record -> Record -> Prop) (q : Record -> Prop) : List Record -> Prop
  | [] => False
  | r :: past => p past r ∨ (¬ q r ∧ Since p q past)

def Once (p : List Record -> Record -> Prop) : List Record -> Prop :=
  Since p fun _ => False

instance Since.decidable (p : List Record -> Record -> Prop) (q : Record -> Prop)
    [forall past r, Decidable (p past r)] [forall r, Decidable (q r)] :
    (log : List Record) -> Decidable (Since p q log)
  | [] => isFalse id
  | r :: past =>
    have := Since.decidable p q past
    inferInstanceAs (Decidable (p past r ∨ (¬ q r ∧ Since p q past)))

instance Once.decidable (p : List Record -> Record -> Prop)
    [forall past r, Decidable (p past r)] (log : List Record) : Decidable (Once p log) :=
  Since.decidable p (fun _ => False) log

theorem Since.here (h : p past r) : Since p q (r :: past) :=
  Or.inl h

theorem Since.later (hr : ¬ q r) (h : Since p q past) : Since p q (r :: past) :=
  Or.inr ⟨hr, h⟩

/-- A longer journal keeps what holds since a record, if nothing new ends it. -/
theorem Since.append (hnew : forall r, r ∈ new -> ¬ q r) (h : Since p q log) :
    Since p q (new ++ log) := by
  induction new with
  | nil => exact h
  | cons r rest ih =>
    refine Since.later (hnew r List.mem_cons_self) (ih ?_)
    intro other hother
    exact hnew other (List.mem_cons_of_mem r hother)

theorem Since.imp_suffix (himp : forall past r, (r :: past) <:+ log -> p past r -> p' past r)
    (h : Since p q log) : Since p' q log := by
  induction log with
  | nil => exact h
  | cons r past ih =>
    rcases h with hhere | ⟨hr, hpast⟩
    · exact Since.here (himp past r (List.suffix_refl _) hhere)
    refine Since.later hr (ih ?_ hpast)
    intro before other hsuffix
    exact himp before other (hsuffix.trans (List.suffix_cons r past))

/-- The record that the operator speaks of. -/
theorem Since.exists_suffix (h : Since p q log) :
    exists past r, (r :: past) <:+ log ∧ p past r := by
  induction log with
  | nil => cases h
  | cons head past ih =>
    rcases h with hhere | ⟨_, hpast⟩
    · exact ⟨past, head, List.suffix_refl _, hhere⟩
    rcases ih hpast with ⟨before, r, hsuffix, hr⟩
    exact ⟨before, r, hsuffix.trans (List.suffix_cons head past), hr⟩

theorem Since.exists_append (h : Since p q log) :
    exists new past r, log = new ++ r :: past ∧ p past r ∧ forall d, d ∈ new -> ¬ q d := by
  induction log with
  | nil => cases h
  | cons head past ih =>
    rcases h with hhere | ⟨hhead, hpast⟩
    · exact ⟨[], past, head, rfl, hhere, fun _ hd => (nomatch hd)⟩
    rcases ih hpast with ⟨new, before, r, rfl, hr, hnew⟩
    refine ⟨head :: new, before, r, rfl, hr, ?_⟩
    intro d hd
    rcases List.mem_cons.mp hd with heq | hmem
    · exact heq ▸ hhead
    · exact hnew d hmem

/-- Records that do not meet the condition have not ended it either. -/
theorem Since.of_append (h : Since p q (new ++ log)) (hnew : forall past r, r ∈ new -> ¬ p past r) :
    (forall r, r ∈ new -> ¬ q r) ∧ Since p q log := by
  induction new with
  | nil => exact ⟨fun _ hr => (nomatch hr), h⟩
  | cons head rest ih =>
    rcases h with hhere | ⟨hhead, hpast⟩
    · exact absurd hhere (hnew _ head List.mem_cons_self)
    rcases ih hpast (fun past r hr => hnew past r (List.mem_cons_of_mem head hr)) with
      ⟨hrest, hlog⟩
    refine ⟨?_, hlog⟩
    intro r hr
    rcases List.mem_cons.mp hr with heq | hmem
    · exact heq ▸ hhead
    · exact hrest r hmem

theorem once_of_suffix (hsuffix : (r :: past) <:+ log) (h : p past r) : Once p log := by
  rcases hsuffix with ⟨front, rfl⟩
  exact Since.append (fun _ _ hfalse => hfalse) (Since.here h)

/-!
## Throughout
-/

def Throughout (p : List Record -> Record -> Prop) : List Record -> Prop
  | [] => True
  | r :: past => p past r ∧ Throughout p past

theorem Throughout.append (hnew : forall past r, r ∈ new -> p past r)
    (h : Throughout p log) : Throughout p (new ++ log) := by
  induction new with
  | nil => exact h
  | cons r rest ih =>
    refine ⟨hnew _ r List.mem_cons_self, ih ?_⟩
    intro past other hother
    exact hnew past other (List.mem_cons_of_mem r hother)

theorem Throughout.of_suffix (hsuffix : past <:+ log) (h : Throughout p log) :
    Throughout p past := by
  rcases hsuffix with ⟨front, rfl⟩
  induction front with
  | nil => exact h
  | cons r rest ih => exact ih h.right

theorem Throughout.imp_suffix (himp : forall past r, (r :: past) <:+ log -> p past r -> p' past r)
    (h : Throughout p log) : Throughout p' log := by
  induction log with
  | nil => trivial
  | cons r past ih =>
    refine ⟨himp past r (List.suffix_refl _) h.left, ih ?_ h.right⟩
    intro before other hsuffix
    exact himp before other (hsuffix.trans (List.suffix_cons r past))

theorem Throughout.exists_suffix (h : Throughout p log) (hmem : r ∈ log) :
    exists past, (r :: past) <:+ log ∧ p past r := by
  rcases List.append_of_mem hmem with ⟨front, past, rfl⟩
  have hsuffix : (r :: past) <:+ front ++ r :: past := List.suffix_append front (r :: past)
  exact ⟨past, hsuffix, (h.of_suffix hsuffix).left⟩

end ReplxEdge.Foundation
