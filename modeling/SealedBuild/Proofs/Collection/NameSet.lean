import Mathlib.Data.List.Sort
import SealedBuild.Collection.NameSet

/-!
# Laws of sets of names

Which names a set holds after each operation.
-/

namespace SealedBuild.NameSet

variable {s : NameSet} {name : String} {names : List String}

theorem mem_insertAll : name ∈ s.insertAll names ↔ name ∈ names ∨ name ∈ s := by
  induction names generalizing s with
  | nil => simp [insertAll]
  | cons first rest ih =>
      have hstep : s.insertAll (first :: rest) = (s.insert first).insertAll rest := rfl
      rw [hstep, ih, mem_insert, List.mem_cons]
      exact or_left_comm.trans or_assoc.symm

theorem mem_ofList : name ∈ ofList names ↔ name ∈ names := by
  rw [ofList, mem_insertAll]
  exact or_iff_left List.not_mem_nil

/-- A set is known by its names. -/
theorem ext_names {s' : NameSet} (h : ∀ name, name ∈ s ↔ name ∈ s') : s = s' := by
  have : Std.Antisymm fun a b : String => a < b :=
    ⟨fun _ _ hlt hgt => (String.lt_asymm hlt hgt).elim⟩
  have : Std.Irrefl fun a b : String => a < b := ⟨String.lt_irrefl⟩
  obtain ⟨names, hnames⟩ := s
  obtain ⟨names', hnames'⟩ := s'
  obtain rfl : names = names' := hnames.eq_of_mem_iff hnames' h
  rfl

end SealedBuild.NameSet
