/-
**Entries by name.**

A list of entries, looked up by name: of several entries of one name the first counts.

* `Entries.put`: replaces the entry of a name, or adds one at the end;
* `Entries.erase`: takes all entries of a name away;
* `Entries.lookup_put`, `Entries.lookup_erase`: what every name stands for afterwards.
-/

namespace LiveReload.Entries

variable {α : Type}

/-- Entries with the value of one name replaced, or added at the end. -/
def put (name : String) (value : α) : List (String × α) → List (String × α)
  | [] => [(name, value)]
  | entry :: rest =>
    if entry.1 = name then (name, value) :: rest else entry :: put name value rest

/-- Entries without those of one name. -/
def erase (name : String) (entries : List (String × α)) : List (String × α) :=
  entries.filter fun entry => entry.1 ≠ name

/-- A name is looked up in the first entry, and then in the others. -/
theorem lookup_cons_eq (key name : String) (held : α) (rest : List (String × α)) :
    List.lookup name ((key, held) :: rest) =
      if name = key then some held else rest.lookup name := by
  by_cases same : name = key
  · simp [same]
  · simp [List.lookup_cons, same, beq_eq_false_iff_ne.2 same]

/-- The value put answers to its name, and no other name changes. -/
theorem lookup_put (name other : String) (value : α) (entries : List (String × α)) :
    (put name value entries).lookup other =
      if other = name then some value else entries.lookup other := by
  induction entries with
  | nil => simp [put, lookup_cons_eq]
  | cons entry rest step =>
    obtain ⟨key, held⟩ := entry
    unfold put
    split
    · rename_i equal
      simp only at equal
      subst equal
      rw [lookup_cons_eq, lookup_cons_eq]
      split <;> rfl
    · rename_i different
      simp only at different
      rw [lookup_cons_eq, lookup_cons_eq, step]
      by_cases same : other = key
      · subst same
        simp [different]
      · simp [same]

/-- The name erased answers no more, and no other name changes. -/
theorem lookup_erase (name other : String) (entries : List (String × α)) :
    (erase name entries).lookup other = if other = name then none else entries.lookup other := by
  induction entries with
  | nil => simp [erase]
  | cons entry rest step =>
    obtain ⟨key, held⟩ := entry
    unfold erase at step ⊢
    by_cases dropped : key = name
    · subst dropped
      rw [List.filter_cons_of_neg (by simp), step, lookup_cons_eq]
      split <;> simp_all
    · rw [List.filter_cons_of_pos (by simpa using dropped), lookup_cons_eq, lookup_cons_eq, step]
      by_cases same : other = key
      · subst same
        simp [dropped]
      · simp [same]

end LiveReload.Entries
