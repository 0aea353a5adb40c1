/-
**External libraries by name.**

A table from the name of a library to its path, in ascending order of the names whatever order they
were put in.

* `Externs.put`: adds or replaces one entry;
* `Externs.find?_put`: what a name stands for afterwards.
-/
import LiveReload.Entries
import LiveReload.Path

namespace LiveReload

/-- Paths by name, each name once and in ascending order. -/
structure Externs where
  entries : List (String × Path)
  ascending : entries.Pairwise fun a b => a.1 < b.1

namespace Externs

/-- No libraries. -/
def empty : Externs := ⟨[], .nil⟩

instance : Inhabited Externs := ⟨empty⟩

/-- Puts an entry in its place of an ascending list. -/
def place (name : String) (path : Path) : List (String × Path) → List (String × Path)
  | [] => [(name, path)]
  | entry :: rest =>
    if name < entry.1 then (name, path) :: entry :: rest
    else if entry.1 = name then (name, path) :: rest
    else entry :: place name path rest

theorem mem_place {name : String} {path : Path} {entries : List (String × Path)}
    {entry : String × Path} (member : entry ∈ place name path entries) :
    entry = (name, path) ∨ entry ∈ entries := by
  induction entries with
  | nil =>
    simp only [place, List.mem_singleton] at member
    exact .inl member
  | cons first rest step =>
    unfold place at member
    split at member
    · rcases List.mem_cons.1 member with same | older
      · exact .inl same
      · exact .inr older
    · split at member
      · rcases List.mem_cons.1 member with same | older
        · exact .inl same
        · exact .inr (List.mem_cons_of_mem _ older)
      · rcases List.mem_cons.1 member with same | later
        · exact .inr (same ▸ List.mem_cons_self)
        · rcases step later with same | older
          · exact .inl same
          · exact .inr (List.mem_cons_of_mem _ older)

theorem place_ascending (name : String) (path : Path) {entries : List (String × Path)}
    (ascending : entries.Pairwise fun a b => a.1 < b.1) :
    (place name path entries).Pairwise fun a b => a.1 < b.1 := by
  induction entries with
  | nil => simp [place]
  | cons first rest step =>
    have ⟨below, tail⟩ := List.pairwise_cons.1 ascending
    unfold place
    split
    · rename_i smaller
      refine List.pairwise_cons.2 ⟨?_, ascending⟩
      intro entry member
      rcases List.mem_cons.1 member with same | later
      · exact same ▸ smaller
      · exact String.lt_trans smaller (below entry later)
    · rename_i notSmaller
      split
      · rename_i equal
        exact List.pairwise_cons.2 ⟨fun entry member => equal ▸ below entry member, tail⟩
      · rename_i different
        refine List.pairwise_cons.2 ⟨?_, step tail⟩
        intro entry member
        rcases mem_place member with same | older
        · subst same
          exact Classical.byContradiction fun notLess =>
            different (String.le_antisymm (String.not_lt.1 notSmaller) (String.not_lt.1 notLess))
        · exact below entry older

/-- Adds an entry, or replaces the one of that name. -/
def put (externs : Externs) (name : String) (path : Path) : Externs :=
  ⟨place name path externs.entries, place_ascending name path externs.ascending⟩

/-- The table of a list of entries, the later of one name replacing the earlier. -/
def ofList (entries : List (String × Path)) : Externs :=
  entries.foldl (fun externs entry => externs.put entry.1 entry.2) empty

/-- What a name stands for. -/
def find? (externs : Externs) (name : String) : Option Path :=
  externs.entries.lookup name

/-- The name stands for a library. -/
def has (externs : Externs) (name : String) : Bool :=
  (externs.find? name).isSome

theorem lookup_place (name other : String) (path : Path) (entries : List (String × Path)) :
    (place name path entries).lookup other =
      if other = name then some path else entries.lookup other := by
  induction entries with
  | nil => simp [place, Entries.lookup_cons_eq]
  | cons first rest step =>
    obtain ⟨key, held⟩ := first
    unfold place
    split
    · rw [Entries.lookup_cons_eq]
    · split
      · rename_i equal
        simp only at equal
        subst equal
        rw [Entries.lookup_cons_eq, Entries.lookup_cons_eq]
        split <;> rfl
      · rename_i different
        simp only at different
        rw [Entries.lookup_cons_eq, Entries.lookup_cons_eq, step]
        by_cases same : other = key
        · subst same
          simp [different]
        · simp [same]

/-- The entry put last answers to its name and no other name changes. -/
theorem find?_put (externs : Externs) (name other : String) (path : Path) :
    (externs.put name path).find? other =
      if other = name then some path else externs.find? other :=
  lookup_place name other path externs.entries

end Externs

end LiveReload
