import Mathlib.Data.List.Induction
import Mathlib.Data.List.Sort
import SealedBuild.Collection.VarMap

/-!
# Laws of maps of variables

Which bindings a map holds after each operation. Two bindings of one map never share a name,
so a map is known by its bindings.
-/

namespace SealedBuild.VarMap

variable {m : VarMap} {name value : String} {other : String × String}

theorem nodup_names (m : VarMap) : m.names.Nodup := by
  rw [names, List.Nodup, List.pairwise_map]
  exact m.ascending.imp fun hlt => Std.ne_of_lt hlt

theorem mem_names_of_mem (h : other ∈ m.entries) : other.1 ∈ m.names :=
  List.mem_map_of_mem h

theorem contains_iff : m.contains name = true ↔ name ∈ m.names := by
  rw [contains, get?, List.lookup_isSome_iff, names, List.mem_map]
  simp only [beq_iff_eq, eq_comm (a := name)]

theorem contains_eq_false_iff : m.contains name = false ↔ name ∉ m.names := by
  rw [← contains_iff, Bool.not_eq_true]

@[simp]
theorem names_mapValues {f : String → String} {m : VarMap} :
    (m.mapValues f).names = m.names := by
  simp [names, mapValues]

theorem mem_insertInto {entries : List (String × String)}
    (hentries : entries.Pairwise fun a b => a.1 < b.1) :
    other ∈ insertInto name value entries ↔
      other = (name, value) ∨ other ∈ entries ∧ other.1 ≠ name := by
  induction entries with
  | nil => simp [insertInto]
  | cons first rest ih =>
      obtain ⟨hfirst, hrest⟩ := List.pairwise_cons.mp hentries
      rw [insertInto]
      by_cases hlt : name < first.1
      · -- The name comes before all of the list, and so is bound nowhere in it.
        have hkept : other ∈ first :: rest → other.1 ≠ name := by
          intro hmem
          rcases List.mem_cons.mp hmem with rfl | hmem
          · exact (Std.ne_of_lt hlt).symm
          · exact (Std.ne_of_lt (String.lt_trans hlt (hfirst other hmem))).symm
        rw [if_pos hlt, List.mem_cons, and_iff_left_of_imp hkept]
      · rw [if_neg hlt]
        by_cases hsame : name = first.1
        · -- The first binding gives way; the name is not bound behind it.
          have hkept : other ∈ rest → other.1 ≠ name := by
            intro hmem
            rw [hsame]
            exact (Std.ne_of_lt (hfirst other hmem)).symm
          rw [if_pos hsame, List.mem_cons, List.mem_cons, or_and_right,
            and_iff_left_of_imp hkept]
          have hdropped : ¬ (other = first ∧ other.1 ≠ name) := by
            rintro ⟨rfl, hne⟩
            exact hne hsame.symm
          rw [or_iff_right hdropped]
        · have hkept : other = first → other.1 ≠ name := by
            rintro rfl
            exact Ne.symm hsame
          rw [if_neg hsame, List.mem_cons, ih hrest, List.mem_cons, or_and_right,
            and_iff_left_of_imp hkept]
          exact or_left_comm

theorem mem_insert :
    other ∈ (m.insert name value).entries ↔
      other = (name, value) ∨ other ∈ m.entries ∧ other.1 ≠ name :=
  mem_insertInto m.ascending

theorem mem_names_insert {n : String} :
    n ∈ (m.insert name value).names ↔ n = name ∨ n ∈ m.names := by
  simp only [names, List.mem_map, mem_insert]
  constructor
  · rintro ⟨binding, rfl | ⟨hbinding, _⟩, rfl⟩
    · exact .inl rfl
    · exact .inr ⟨binding, hbinding, rfl⟩
  · intro hn
    by_cases hsame : n = name
    · exact ⟨(name, value), .inl rfl, hsame.symm⟩
    · obtain ⟨binding, hbinding, rfl⟩ := hn.resolve_left hsame
      exact ⟨binding, .inr ⟨hbinding, hsame⟩, rfl⟩

/-- The bindings of a list replace those of a map. -/
theorem mem_insertAll {bindings : List (String × String)}
    (hnodup : (bindings.map Prod.fst).Nodup) :
    other ∈ (m.insertAll bindings).entries ↔
      other ∈ bindings ∨ other ∈ m.entries ∧ other.1 ∉ bindings.map Prod.fst := by
  induction bindings generalizing m with
  | nil => simp [insertAll]
  | cons first rest ih =>
      obtain ⟨hfirst, hrest⟩ := List.nodup_cons.mp hnodup
      have hstep : m.insertAll (first :: rest) = (m.insert first.1 first.2).insertAll rest := rfl
      have hnew : other = first → other.1 ∉ rest.map Prod.fst := by
        rintro rfl
        exact hfirst
      rw [hstep, ih hrest, mem_insert, List.mem_cons, List.map_cons, List.mem_cons, not_or,
        or_and_right, and_iff_left_of_imp hnew, and_assoc]
      exact or_left_comm.trans or_assoc.symm

theorem mem_ofList {bindings : List (String × String)}
    (hnodup : (bindings.map Prod.fst).Nodup) :
    other ∈ (ofList bindings).entries ↔ other ∈ bindings := by
  rw [ofList, mem_insertAll hnodup]
  simp [empty]

theorem ofList_append {bindings bindings' : List (String × String)} :
    ofList (bindings ++ bindings') = (ofList bindings).insertAll bindings' :=
  List.foldl_append

theorem mem_names_ofList {bindings : List (String × String)} :
    name ∈ (ofList bindings).names ↔ name ∈ bindings.map Prod.fst := by
  induction bindings using List.reverseRecOn with
  | nil => rfl
  | append_singleton bindings binding ih =>
      have hstep : ofList (bindings ++ [binding]) = (ofList bindings).insert binding.1 binding.2 :=
        ofList_append
      rw [hstep, mem_names_insert, ih, List.map_append, List.mem_append, List.map_singleton,
        List.mem_singleton, or_comm]

/-- A map is known by its bindings. -/
theorem ext_entries {m' : VarMap} (h : ∀ binding, binding ∈ m.entries ↔ binding ∈ m'.entries) :
    m = m' := by
  have : Std.Antisymm fun a b : String × String => a.1 < b.1 :=
    ⟨fun _ _ hlt hgt => (String.lt_asymm hlt hgt).elim⟩
  have : Std.Irrefl fun a b : String × String => a.1 < b.1 := ⟨fun a => String.lt_irrefl a.1⟩
  obtain ⟨entries, hentries⟩ := m
  obtain ⟨entries', hentries'⟩ := m'
  obtain rfl : entries = entries' := hentries.eq_of_mem_iff hentries' h
  rfl

theorem get?_eq_some_iff : m.get? name = some value ↔ (name, value) ∈ m.entries := by
  obtain ⟨entries, hentries⟩ := m
  rw [get?]
  dsimp only
  induction entries with
  | nil => simp
  | cons first rest ih =>
      obtain ⟨hfirst, hrest⟩ := List.pairwise_cons.mp hentries
      rcases first with ⟨bound, held⟩
      by_cases hname : name = bound
      · -- The first binding is of the name, and so no other one is.
        subst hname
        have hfree : (name, value) ∉ rest := fun hmem =>
          String.lt_irrefl name (hfirst (name, value) hmem)
        simp [hfree, eq_comm]
      · simp [List.lookup_cons, beq_false_of_ne hname, ih hrest, hname]

@[simp]
theorem get?_insert {bound : String} :
    (m.insert name value).get? bound = if bound = name then some value else m.get? bound := by
  ext held
  rw [get?_eq_some_iff, mem_insert]
  split
  next hsame => simp [hsame, eq_comm]
  next hother => simp [hother, get?_eq_some_iff]

/-- A map is known by the values of its names. -/
theorem ext_get? {m' : VarMap} (h : ∀ name, m.get? name = m'.get? name) : m = m' :=
  ext_entries fun binding => by rw [← get?_eq_some_iff, h, get?_eq_some_iff]

/-- Of the bindings of one name in a list, the last one holds. -/
theorem mem_ofList_iff {bindings : List (String × String)} :
    other ∈ (ofList bindings).entries ↔
      (bindings.filter fun binding => binding.1 = other.1).getLast? = some other := by
  induction bindings using List.reverseRecOn with
  | nil => simp [ofList, insertAll, empty]
  | append_singleton bindings binding ih =>
      have hstep : ofList (bindings ++ [binding]) = (ofList bindings).insert binding.1 binding.2 :=
        ofList_append
      rw [hstep, mem_insert, ih, List.filter_append]
      by_cases hname : binding.1 = other.1
      · simp [← hname, eq_comm]
      · have hne : other ≠ binding := by
          rintro rfl
          exact hname rfl
        simp [hname, hne, Ne.symm hname]

/-- Bindings of different names may come in any order. -/
theorem ofList_congr {bindings bindings' : List (String × String)}
    (h : ∀ name, bindings.filter (fun binding => binding.1 = name) =
      bindings'.filter fun binding => binding.1 = name) :
    ofList bindings = ofList bindings' :=
  ext_entries fun binding => by rw [mem_ofList_iff, mem_ofList_iff, h]

/-- The bindings of a map stay; another map adds those of other names. -/
theorem mem_withDefaults {defaults : VarMap} :
    other ∈ (m.withDefaults defaults).entries ↔
      other ∈ m.entries ∨ other ∈ defaults.entries ∧ other.1 ∉ m.names := by
  have hnodup := defaults.nodup_names
  rw [withDefaults]
  rw [names] at hnodup
  generalize defaults.entries = bindings at hnodup ⊢
  induction bindings generalizing m with
  | nil => simp
  | cons first rest ih =>
      rcases first with ⟨name, value⟩
      obtain ⟨hfirst, hrest⟩ := List.nodup_cons.mp hnodup
      rw [List.foldl_cons, List.mem_cons]
      dsimp only
      by_cases hbound : name ∈ m.names
      · have hskipped : ¬ (other = (name, value) ∧ other.1 ∉ m.names) := by
          rintro ⟨rfl, hfree⟩
          exact hfree hbound
        rw [if_pos (contains_iff.mpr hbound), or_and_right, or_iff_right hskipped]
        exact ih hrest
      · have hold : other ∈ m.entries → other.1 ≠ name := by
          rintro hmem rfl
          exact hbound (mem_names_of_mem hmem)
        have hnew : other ∈ rest → other.1 ≠ name := by
          intro hmem hsame
          have hnamed : other.1 ∈ rest.map Prod.fst := List.mem_map_of_mem hmem
          rw [hsame] at hnamed
          exact hfirst hnamed
        have hadded : other = (name, value) → other.1 ∉ m.names := by
          rintro rfl
          exact hbound
        rw [if_neg (mt contains_iff.mp hbound)]
        refine (ih hrest).trans ?_
        rw [mem_insert, mem_names_insert, and_iff_left_of_imp hold, not_or, ← and_assoc,
          and_iff_left_of_imp hnew, or_and_right, and_iff_left_of_imp hadded, or_assoc]
        exact or_left_comm

end SealedBuild.VarMap
