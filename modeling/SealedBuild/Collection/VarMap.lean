/-!
# Maps of variables

A map from names to values as its list of bindings in ascending order of names, so that
equal maps are equal values and every rendering of a map has one order. The order is that
of code points.
-/

namespace SealedBuild

/-- A map from names to values. -/
structure VarMap where
  entries : List (String × String)
  ascending : entries.Pairwise fun a b => a.1 < b.1
  deriving DecidableEq

namespace VarMap

/-- The empty map. -/
def empty : VarMap :=
  ⟨[], .nil⟩

instance : Inhabited VarMap := ⟨empty⟩

/-- A binding put at its place in an ascending list, in place of an older one. -/
def insertInto (name value : String) : List (String × String) → List (String × String)
  | [] => [(name, value)]
  | first :: rest =>
    if name < first.1 then (name, value) :: first :: rest
    else if name = first.1 then (name, value) :: rest
    else first :: insertInto name value rest

theorem name_mem_insertInto {name value : String} {entries : List (String × String)}
    {other : String × String} (hother : other ∈ insertInto name value entries) :
    other = (name, value) ∨ other ∈ entries := by
  induction entries with
  | nil => simpa [insertInto] using hother
  | cons first rest ih =>
    simp only [insertInto] at hother
    split at hother
    · simpa using hother
    · split at hother
      · rcases List.mem_cons.1 hother with h | h
        · exact .inl h
        · exact .inr (List.mem_cons_of_mem _ h)
      · rcases List.mem_cons.1 hother with h | h
        · exact .inr (h ▸ List.mem_cons_self)
        · exact (ih h).imp_right (List.mem_cons_of_mem _)

theorem pairwise_insertInto_entries {name value : String} {entries : List (String × String)}
    (hentries : entries.Pairwise fun a b => a.1 < b.1) :
    (insertInto name value entries).Pairwise fun a b => a.1 < b.1 := by
  induction entries with
  | nil => simp [insertInto]
  | cons first rest ih =>
    obtain ⟨hfirst, hrest⟩ := List.pairwise_cons.1 hentries
    simp only [insertInto]
    split
    · next hlt =>
      refine List.pairwise_cons.2 ⟨fun other hother => ?_, hentries⟩
      rcases List.mem_cons.1 hother with rfl | hother
      · exact hlt
      · exact String.lt_trans hlt (hfirst other hother)
    · next hnot =>
      split
      · next heq =>
        refine List.pairwise_cons.2 ⟨fun other hother => ?_, hrest⟩
        simpa [heq] using hfirst other hother
      · next hne =>
        refine List.pairwise_cons.2 ⟨fun other hother => ?_, ih hrest⟩
        rcases name_mem_insertInto hother with rfl | hother
        · exact Std.lt_of_le_of_ne (String.not_lt.1 hnot) (Ne.symm hne)
        · exact hfirst other hother

/-- The map with a binding, in place of an older one of that name. -/
def insert (m : VarMap) (name value : String) : VarMap :=
  ⟨insertInto name value m.entries, pairwise_insertInto_entries m.ascending⟩

/-- The value bound to a name. -/
def get? (m : VarMap) (name : String) : Option String :=
  m.entries.lookup name

/-- Whether a name is bound. -/
def contains (m : VarMap) (name : String) : Bool :=
  (m.get? name).isSome

/-- The map with all bindings of a list, later ones in place of earlier ones. -/
def insertAll (m : VarMap) (bindings : List (String × String)) : VarMap :=
  bindings.foldl (fun m (name, value) => m.insert name value) m

/-- The map of the bindings in a list, later ones in place of earlier ones. -/
def ofList (bindings : List (String × String)) : VarMap :=
  empty.insertAll bindings

/-- Adds the bindings of another map for the names that are not bound yet. -/
def withDefaults (m other : VarMap) : VarMap :=
  other.entries.foldl
    (fun m (name, value) => if m.contains name then m else m.insert name value) m

/-- The map with every value replaced by a function of it. -/
def mapValues (f : String → String) (m : VarMap) : VarMap :=
  ⟨m.entries.map fun (name, value) => (name, f value),
    List.pairwise_map.2 m.ascending⟩

/-- The names that are bound, in ascending order. -/
def names (m : VarMap) : List String :=
  m.entries.map Prod.fst

/-- The bindings as `name=value` texts, in ascending order of names. -/
def assignments (m : VarMap) : List String :=
  m.entries.map fun (name, value) => name ++ "=" ++ value

end VarMap

end SealedBuild
