import SealedBuild.Proofs.Files.Agreement

/-!
# Placing a file in a directory

Whether a new file or directory can be put under a name into a directory that is there, and has no
such name yet, is a matter of the name, as long as the path is not too long. A path that names no
file, since it has no name or ends in a double dot, takes nothing in any tree.
-/

namespace SealedBuild.FileTree

variable {t t' : FileTree} {path base name : String} {here location : List String} {node : FileNode}

/-- A name that a directory can hold. -/
def Storable (name : String) : Prop :=
  HostPath.Ordinary name ∧ name.utf8ByteSize ≤ longestName ∧
    (name.toList.any fun c => c.toNat == 0) = false

instance (name : String) : Decidable (Storable name) :=
  inferInstanceAs (Decidable (_ ∧ _))

theorem partsOf_eq_ok_iff {parts : List String} :
    partsOf path = .ok parts ↔
      path.isEmpty = false ∧ (path.toList.any fun c => c.toNat == 0) = false ∧
        path.utf8ByteSize ≤ longestPath ∧ parts = HostPath.parts path := by
  unfold partsOf
  split
  · next hempty => simp [hempty]
  · next hempty =>
    split
    · next hnul => simp [hnul]
    · next hnul =>
      split
      · next hlong => simp [Nat.not_le_of_lt hlong]
      · next hshort =>
        rw [Bool.not_eq_true] at hempty hnul
        rw [Except.ok.injEq, hempty, hnul]
        simp [Nat.le_of_not_lt hshort, HostPath.parts, eq_comm]

theorem locate_eq_ok_iff :
    t.locate path = .ok location ↔
      partsOf path = .ok (HostPath.parts path) ∧
        (HostPath.parts path).foldlM t.enter (t.startOf path) = .ok location := by
  unfold locate
  rw [bind_eq_ok_iff]
  constructor
  · rintro ⟨parts, hparts, hwalk⟩
    obtain rfl := partsOf_eq_ok hparts
    exact ⟨hparts, hwalk⟩
  · rintro ⟨hparts, hwalk⟩
    exact ⟨_, hparts, hwalk⟩

/-! ## Below a directory -/

/-- There is nothing below a location that is the parent of no other. -/
theorem get?_below_eq_none (h : ∀ entry ∈ t.nodes, entry.1.dropLast ≠ location) (name : String) :
    t.get? (location ++ [name]) = none := by
  rw [get?, if_neg (by simp), List.lookup_eq_none_iff]
  intro entry hmem
  have hne := h entry hmem
  rw [bne_iff_ne]
  intro hsame
  rw [← hsame, List.dropLast_concat] at hne
  exact hne rfl

/-- A directory with room for any name behind its path. -/
structure Roomy (t : FileTree) (base : String) : Prop where
  found : t.find base = .ok .directory
  slash : base.endsWith "/" = false
  short : base.utf8ByteSize + 1 + longestName ≤ longestPath

namespace Roomy

variable (h : t.Roomy base)
include h

theorem join_eq (hname : HostPath.Ordinary name) :
    HostPath.join base name = base ++ "/" ++ name := by
  have hempty : base.isEmpty = false := by
    obtain ⟨hparts, -⟩ := locate_eq_ok_iff.mp (find_eq_ok_iff.mp h.found).1
    exact (partsOf_eq_ok_iff.mp hparts).1
  rw [HostPath.join, hname.isAbsolute_eq, hempty, h.slash]
  rfl

theorem parts_eq (hname : HostPath.Ordinary name) :
    HostPath.parts (HostPath.join base name) = HostPath.parts base ++ [name] := by
  rw [h.join_eq hname, HostPath.parts_slash, hname.parts_eq]

/-- Below such a directory a name can be located exactly when a directory can hold it. -/
theorem locate_join_iff (hname : HostPath.Ordinary name) :
    t.locate (HostPath.join base name) = .ok (t.target base ++ [name]) ↔ Storable name := by
  obtain ⟨hlocate, hdirectory⟩ := find_eq_ok_iff.mp h.found
  obtain ⟨hparts, hwalk⟩ := locate_eq_ok_iff.mp hlocate
  obtain ⟨-, hnul, -⟩ := partsOf_eq_ok_iff.mp hparts
  have hlast : (HostPath.parts base ++ [name]).foldlM t.enter (t.startOf base) =
      t.enter (t.target base) name := by
    rw [List.foldlM_append, hwalk]
    exact bind_pure (t.enter (t.target base) name)
  have hchars : ((HostPath.join base name).toList.any fun c => c.toNat == 0) =
      name.toList.any fun c => c.toNat == 0 := by
    rw [h.join_eq hname, String.toList_append, String.toList_append, List.any_append,
      List.any_append, hnul]
    rfl
  have hsize : (HostPath.join base name).utf8ByteSize =
      base.utf8ByteSize + 1 + name.utf8ByteSize := by
    rw [h.join_eq hname, String.utf8ByteSize_append, String.utf8ByteSize_append]
    rfl
  have hshort := h.short
  rw [locate_eq_ok_iff, partsOf_eq_ok_iff, startOf_join hname, h.parts_eq hname, hlast,
    enter_eq_ok_iff, follow_of_ordinary hname, join_ne_empty hname, hchars, hsize, Storable]
  constructor
  · rintro ⟨⟨-, hplain, -, -⟩, -, hfits, -⟩
    exact ⟨hname, hfits, hplain⟩
  · rintro ⟨-, hfits, hplain⟩
    exact ⟨⟨rfl, hplain, by omega, rfl⟩, hdirectory, hfits, rfl⟩

/-- A new file is put under every name that a directory can hold. -/
theorem write_eq (hname : Storable name) (hmissing : t.get? (t.target base ++ [name]) = none)
    (content : List UInt8) :
    t.write (HostPath.join base name) content =
      .ok (t.put (t.target base ++ [name]) (.file newFileMode content)) := by
  obtain ⟨hparts, hwalk⟩ := locate_eq_ok_iff.mp ((h.locate_join_iff hname.1).mpr hname)
  have hdirectory := (find_eq_ok_iff.mp h.found).2
  rw [write, hparts]
  simp only [bind, Except.bind, beforeSlashes?_join hname.1, Option.getD_none]
  rw [hwalk]
  simp only [hmissing, List.dropLast_concat, hdirectory]
  rfl

theorem dropSlashes_parts (hname : HostPath.Ordinary name) :
    ((HostPath.parts (HostPath.join base name)).reverse.dropWhile (· == "")).reverse =
      HostPath.parts (HostPath.join base name) := by
  rw [h.parts_eq hname, List.reverse_append, List.reverse_singleton, List.singleton_append,
    List.dropWhile_cons, if_neg (by simpa using hname.1)]
  simp

/-- A new directory is put under every name that a directory can hold. -/
theorem createDir_eq (hname : Storable name) (hmissing : t.get? (t.target base ++ [name]) = none) :
    t.createDir (HostPath.join base name) = .ok (t.put (t.target base ++ [name]) .directory) := by
  obtain ⟨hparts, hwalk⟩ := locate_eq_ok_iff.mp ((h.locate_join_iff hname.1).mpr hname)
  have hdirectory := (find_eq_ok_iff.mp h.found).2
  rw [createDir, hparts]
  simp only [bind, Except.bind, h.dropSlashes_parts hname.1]
  rw [hwalk]
  simp only [hmissing, List.dropLast_concat, hdirectory]

end Roomy

/-! ## What a place takes -/

/-- Parts that say nothing can be left out of a walk. -/
theorem walk_filter {parts : List String} (h : parts.foldlM t.enter here = .ok location) :
    (parts.filter fun part => !HostPath.isIdle part).foldlM t.enter here = .ok location := by
  induction parts generalizing here with
  | nil => exact h
  | cons part parts ih =>
      obtain ⟨next, hnext, hrest⟩ := bind_eq_ok_iff.mp h
      cases hidle : HostPath.isIdle part with
      | true =>
          obtain ⟨-, -, rfl⟩ := enter_eq_ok_iff.mp hnext
          rw [follow_of_isIdle hidle] at hrest
          simpa [hidle] using ih hrest
      | false =>
          simp only [List.filter_cons, hidle, Bool.not_false, if_true]
          exact bind_eq_ok_iff.mpr ⟨next, hnext, ih hrest⟩

theorem locate_of_write {content : List UInt8} (h : t.write path content = .ok t') :
    t.locate path = .ok (t.target path) := by
  unfold write at h
  obtain ⟨parts, hparts, hwriting⟩ := bind_eq_ok_iff.mp h
  obtain ⟨location, hwalk, hputting⟩ := bind_eq_ok_iff.mp hwriting
  obtain rfl := partsOf_eq_ok hparts
  cases hslashed : beforeSlashes? (HostPath.parts path) with
  | some front =>
      rw [hslashed] at hputting
      rcases hnode : t.get? location with - | (- | ⟨mode, old⟩) <;> rw [hnode] at hputting <;>
        cases hputting
  | none =>
      rw [hslashed] at hwalk
      have hlocate : t.locate path = .ok location := locate_eq_ok_iff.mpr ⟨hparts, hwalk⟩
      rwa [← eq_target_of_locate hlocate]

theorem walk_of_createDir (h : t.createDir path = .ok t') :
    partsOf path = .ok (HostPath.parts path) ∧
      ((HostPath.parts path).reverse.dropWhile (· == "")).reverse.foldlM t.enter (t.startOf path) =
        .ok (t.target path) := by
  unfold createDir at h
  obtain ⟨parts, hparts, hmaking⟩ := bind_eq_ok_iff.mp h
  obtain ⟨location, hwalk, -⟩ := bind_eq_ok_iff.mp hmaking
  obtain rfl := partsOf_eq_ok hparts
  have hlocation := eq_of_walk hwalk
  rw [foldl_follow_dropSlashes, ← target_eq] at hlocation
  exact ⟨hparts, hlocation ▸ hwalk⟩

theorem read_eq_ok_iff {content : List UInt8} :
    t.read path = .ok content ↔ ∃ mode, t.find path = .ok (.file mode content) := by
  unfold read
  rw [bind_eq_ok_iff]
  constructor
  · rintro ⟨node, hfind, hread⟩
    cases node with
    | directory => cases hread
    | file mode found => exact ⟨mode, by rw [hfind, Except.ok.inj hread]⟩
  · rintro ⟨mode, hfind⟩
    exact ⟨_, hfind, rfl⟩

/-- What is put at a place that can be found is found, unless a directory was there. -/
theorem find_put {node : FileNode} (hlocate : t.locate path = .ok (t.target path))
    (hdirectory : t.get? (t.target path) ≠ some .directory) :
    (t.put (t.target path) node).find path = .ok node := by
  have htouches : Touches (t.target path) t (t.put (t.target path) node) := .put hdirectory
  have hroot : t.target path ≠ [] := fun htop => hdirectory (htop ▸ get?_nil t)
  rw [find_eq_ok_iff, target_congr htouches.workingDir]
  exact ⟨locate_mono htouches.workingDir (fun _ => htouches.kept) hlocate, get?_put_self hroot⟩

/-- What was written is found. -/
theorem find_of_write {content : List UInt8} (h : t.write path content = .ok t') :
    ∃ mode, t'.find path = .ok (.file mode content) := by
  obtain ⟨hdirectory, mode, rfl⟩ := write_eq_ok h
  exact ⟨mode, find_put (locate_of_write h) hdirectory⟩

/-- Whether a file can be written at a path. -/
def Writable (t : FileTree) (path : String) : Prop :=
  ∃ content written, t.write path content = .ok written

/-- Where one content can be written, any can. -/
theorem Writable.exists_write (h : t.Writable path) (content : List UInt8) :
    ∃ written, t.write path content = .ok written := by
  obtain ⟨other, written, hwrite⟩ := h
  unfold write at hwrite ⊢
  obtain ⟨parts, hparts, hwriting⟩ := bind_eq_ok_iff.mp hwrite
  obtain ⟨location, hwalk, hputting⟩ := bind_eq_ok_iff.mp hwriting
  rw [hparts]
  simp only [bind, Except.bind, hwalk] at hputting ⊢
  split at hputting
  · cases hputting
  · exact ⟨_, rfl⟩
  · cases hputting
  · cases hputting
  · split at hputting
    · exact ⟨_, rfl⟩
    · cases hputting
    · cases hputting

theorem setMode_of_find {mode changed : Nat} {content : List UInt8}
    (h : t.find path = .ok (.file mode content)) :
    t.setMode path changed = .ok (t.put (t.target path) (.file changed content)) := by
  obtain ⟨hlocate, hfile⟩ := find_eq_ok_iff.mp h
  rw [setMode, hlocate]
  simp only [bind, Except.bind, hfile]

/-- A directory that was made is found. -/
theorem find_of_createDir (h : t.createDir path = .ok t') : t'.find path = .ok .directory := by
  obtain ⟨hmissing, hput⟩ := createDir_eq_ok h
  obtain ⟨hparts, hwalk⟩ := walk_of_createDir h
  have htouches : Touches (t.target path) t t' := hput ▸ .put (by rw [hmissing]; nofun)
  have hmade : t'.get? (t.target path) = some .directory :=
    hput ▸ get?_put_self (ne_nil_of_missing hmissing)
  -- Slashes behind the name are walked as well, which they can be at a directory.
  have hnames := walk_filter (walk_mono (fun _ => htouches.kept) hwalk)
  rw [filter_dropSlashes] at hnames
  have hlocate : t'.locate path = .ok (t.target path) := by
    rw [locate_eq_ok_iff, startOf_congr htouches.workingDir]
    exact ⟨hparts, walk_parts hnames hmade⟩
  rw [find_eq_ok_iff, target_congr htouches.workingDir]
  exact ⟨hlocate, hmade⟩

namespace Roomy

variable (h : t.Roomy base)
include h

theorem storable_of_write (hname : HostPath.Ordinary name) {content : List UInt8}
    (hwrite : t.write (HostPath.join base name) content = .ok t') : Storable name := by
  have hlocate := locate_of_write hwrite
  rw [target_join hname] at hlocate
  exact (h.locate_join_iff hname).mp hlocate

theorem storable_of_createDir (hname : HostPath.Ordinary name)
    (hcreate : t.createDir (HostPath.join base name) = .ok t') : Storable name := by
  obtain ⟨hparts, hwalk⟩ := walk_of_createDir hcreate
  rw [h.dropSlashes_parts hname, target_join hname] at hwalk
  exact (h.locate_join_iff hname).mp (locate_eq_ok_iff.mpr ⟨hparts, hwalk⟩)

end Roomy

/-! ## Paths that name no file -/

/-- All that lies above a location that was walked to is a directory, if this was so at the
start. -/
theorem directory_above_walk {names : List String}
    (habove : ∀ above, above <+: here → above ≠ here → t.get? above = some .directory)
    (h : names.foldlM t.enter here = .ok location) :
    ∀ above, above <+: location → above ≠ location → t.get? above = some .directory := by
  induction names generalizing here with
  | nil => exact Except.ok.inj h ▸ habove
  | cons name names ih =>
      obtain ⟨next, hnext, hrest⟩ := bind_eq_ok_iff.mp h
      obtain ⟨hhere, -, rfl⟩ := enter_eq_ok_iff.mp hnext
      have hupto : ∀ above, above <+: here → t.get? above = some .directory := by
        intro above hbelow
        by_cases hsame : above = here
        · rw [hsame, hhere]
        · exact habove above hbelow hsame
      refine ih (fun above hbelow hne => ?_) hrest
      unfold follow at hbelow hne
      split at hbelow
      · exact hupto above (hbelow.trans (List.dropLast_prefix here))
      · split at hbelow
        · exact hupto above hbelow
        · next hdots hidle =>
          rw [if_neg hdots, if_neg hidle] at hne
          exact hupto above ((List.prefix_concat_iff.mp hbelow).resolve_left hne)

/-- From the root, a way without a name or with a double dot for its last one leads to a
directory. -/
theorem directory_of_nameless (hpath : HostPath.fileName? path = none) {parts : List String}
    (hparts : (parts.filter fun part => !HostPath.isIdle part) = HostPath.names path)
    (h : parts.foldlM t.enter [] = .ok location) : t.get? location = some .directory := by
  have hwalk := walk_filter h
  rw [hparts] at hwalk
  cases hlast : (HostPath.names path).getLast? with
  | none =>
      rw [List.getLast?_eq_none_iff.mp hlast] at hwalk
      exact Except.ok.inj hwalk ▸ get?_nil t
  | some last =>
      have hdots : last = ".." := by
        by_contra hne
        rw [HostPath.fileName?_eq_some_iff.mpr ⟨hlast, hne⟩] at hpath
        cases hpath
      subst hdots
      obtain ⟨front, hfront⟩ := List.getLast?_eq_some_iff.mp hlast
      rw [hfront, List.foldlM_append] at hwalk
      obtain ⟨before, hbefore, hback⟩ := bind_eq_ok_iff.mp hwalk
      obtain ⟨_, hnext, hend⟩ := bind_eq_ok_iff.mp hback
      obtain ⟨hhere, -, rfl⟩ := enter_eq_ok_iff.mp hnext
      obtain rfl := Except.ok.inj hend
      have hroot : ∀ above, above <+: [] → above ≠ [] → t.get? above = some .directory :=
        fun above hbelow hne => (hne (List.prefix_nil.mp hbelow)).elim
      rw [follow, if_pos rfl]
      by_cases htop : before = []
      · rw [htop]
        exact get?_nil t
      · refine directory_above_walk hroot hbefore _ (List.dropLast_prefix before) fun hsame => ?_
        have hlength := congrArg List.length hsame
        rw [List.length_dropLast] at hlength
        have := List.length_pos_iff.mpr htop
        omega

section Nameless

variable (habsolute : HostPath.isAbsolute path = true) (hpath : HostPath.fileName? path = none)
include habsolute hpath

theorem write_ne_ok_of_nameless (content : List UInt8) : t.write path content ≠ .ok t' := by
  intro h
  obtain ⟨-, hwalk⟩ := locate_eq_ok_iff.mp (locate_of_write h)
  rw [startOf, habsolute, if_pos rfl] at hwalk
  exact (write_eq_ok h).1 (directory_of_nameless hpath (HostPath.names_eq path).symm hwalk)

theorem createDir_ne_ok_of_nameless : t.createDir path ≠ .ok t' := by
  intro h
  obtain ⟨-, hwalk⟩ := walk_of_createDir h
  rw [startOf, habsolute, if_pos rfl] at hwalk
  have hnames := filter_dropSlashes (HostPath.parts path)
  rw [← HostPath.names_eq] at hnames
  have hdirectory := directory_of_nameless hpath hnames hwalk
  rw [(createDir_eq_ok h).1] at hdirectory
  cases hdirectory

end Nameless

end SealedBuild.FileTree
