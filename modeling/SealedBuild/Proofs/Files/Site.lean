import SealedBuild.Proofs.Files.Placing

/-!
# Changes at one path

Someone writes a file at a path, removes what is there, or makes a directory there, again and again.
The way to such a place does not lead through the place itself, so it stays open whatever is put
there, and what a change does is told by what is at the path before it. A change that is refused
leaves the tree as it is. Permissions have no part in this.
-/

namespace SealedBuild

/-- What is at the end of a path. -/
inductive Holding where
  | nothing
  | directory
  | file (content : List UInt8)
  deriving DecidableEq, Inhabited

/-- A node, or none, without its permissions. -/
def Holding.ofNode : Option FileNode → Holding
  | none => nothing
  | some .directory => directory
  | some (.file _ content) => file content

/-- A change that is tried at a path. -/
inductive PathChange where
  | write (content : List UInt8)
  | remove
  | createDir
  deriving DecidableEq, Inhabited

namespace PathChange

/-- The files after a change at a path. One that is refused leaves them as they are. -/
def apply (path : String) (files : FileTree) : PathChange → FileTree
  | write content => (files.write path content).toOption.getD files
  | remove => files.remove path
  | createDir => (files.createDir path).toOption.getD files

/-- What is at the path after a change. No file takes the place of a directory, and no directory
that of a file. -/
def effect (held : Holding) : PathChange → Holding
  | write content => if held = .directory then .directory else .file content
  | remove => .nothing
  | createDir => if held = .nothing then .directory else held

end PathChange

namespace FileTree

variable {t s u : FileTree} {location here last : List String} {path : String}

/-- What a path holds. -/
def holding (t : FileTree) (path : String) : Holding :=
  match t.find path with
  | .ok .directory => .directory
  | .ok (.file _ content) => .file content
  | .error _ => .nothing

/-! ## Trees that differ at one place -/

/-- Two trees that have the same outside of a location and of what is below it. -/
structure AgreeOutside (location : List String) (t s : FileTree) : Prop where
  workingDir : s.workingDir = t.workingDir
  get? : ∀ other, ¬ location <+: other → s.get? other = t.get? other

namespace AgreeOutside

theorem refl (location : List String) (t : FileTree) : AgreeOutside location t t :=
  ⟨rfl, fun _ _ => rfl⟩

theorem trans (h : AgreeOutside location t s) (h' : AgreeOutside location s u) :
    AgreeOutside location t u :=
  ⟨h'.workingDir.trans h.workingDir,
    fun other hother => (h'.get? other hother).trans (h.get? other hother)⟩

theorem put (hroot : location ≠ []) (node : FileNode) :
    AgreeOutside location t (t.put location node) := by
  refine ⟨rfl, fun other hother => ?_⟩
  have hne : other ≠ location := by
    rintro rfl
    exact hother List.prefix_rfl
  rw [get?_put hroot, if_neg hne]

theorem prune (hroot : location ≠ []) : AgreeOutside location t (t.prune location) :=
  ⟨rfl, fun other hother => by rw [get?_prune hroot, if_neg hother]⟩

/-- A way to a directory goes on in the other tree, unless it starts at the location or below it.
It cannot come there, since what is at the location is no directory. -/
theorem walk (h : AgreeOutside location t s) {names : List String}
    (hlocation : t.get? location ≠ some .directory) (hhere : ¬ location <+: here)
    (hwalk : names.foldlM t.enter here = .ok last) (hlast : t.get? last = some .directory) :
    names.foldlM s.enter here = .ok last := by
  induction names generalizing here with
  | nil => exact hwalk
  | cons name names ih =>
      obtain ⟨next, hnext, hrest⟩ := bind_eq_ok_iff.mp hwalk
      have hdirectory : t.get? next = some .directory := directory_of_walk hrest hlast
      have hbeside : ¬ location <+: next := by
        obtain ⟨-, -, rfl⟩ := enter_eq_ok_iff.mp hnext
        unfold follow at hdirectory ⊢
        split
        · exact fun hbelow => hhere (hbelow.trans (List.dropLast_prefix here))
        · split
          · exact hhere
          · next hdots hidle =>
            rw [if_neg hdots, if_neg hidle] at hdirectory
            intro hbelow
            rcases List.prefix_concat_iff.mp hbelow with hsame | habove
            · exact hlocation (hsame ▸ hdirectory)
            · exact hhere habove
      have hentered : s.enter here name = .ok next := by
        rw [enter_congr (h.get? here hhere), hnext]
      exact bind_eq_ok_iff.mpr ⟨next, hentered, ih hbeside hrest⟩

end AgreeOutside

/-! ## The place of a file -/

/-- A path leads to a location where a file can be: its directory is there, no slash is behind its
name, and the way there does not depend on what is at the location or below it. -/
structure Site (path : String) (location : List String) (t : FileTree) : Prop where
  ne_nil : location ≠ []
  parent : t.get? location.dropLast = some .directory
  unslashed : (HostPath.parts path).getLast? ≠ some ""
  locate : ∀ s, AgreeOutside location t s → s.locate path = .ok location

theorem Site.congr (h : Site path location t) (hagree : AgreeOutside location t s) :
    Site path location s := by
  refine ⟨h.ne_nil, ?_, h.unslashed, fun u hu => h.locate u (hagree.trans hu)⟩
  have hshort : ¬ location <+: location.dropLast := by
    intro hbelow
    have hlength := hbelow.length_le
    have hpos := List.length_pos_iff.mpr h.ne_nil
    rw [List.length_dropLast] at hlength
    omega
  rw [hagree.get? _ hshort, h.parent]

/-- A path that leads to a directory and, with its last part, to a name in it. -/
structure Named (t : FileTree) (path : String) (front here : List String) (name : String) :
    Prop where
  parts : HostPath.parts path = front ++ [name]
  walk : front.foldlM t.enter (t.startOf path) = .ok here
  directory : t.get? here = some .directory
  short : name.utf8ByteSize ≤ longestName
  nonempty : name ≠ ""
  follow : follow here name = here ++ [name]
  target : t.target path = here ++ [name]

theorem parts_ne_nil (path : String) : HostPath.parts path ≠ [] := by
  simp [HostPath.parts, Text.splitAt_eq_splitOn]

/-- The last part of a path to a file is the name of the file. -/
theorem exists_named_of_find {mode : Nat} {content : List UInt8} (hgrounded : t.Grounded)
    (hfind : t.find path = .ok (.file mode content)) :
    ∃ front here name, t.Named path front here name := by
  obtain ⟨hlocate, hfile⟩ := find_eq_ok_iff.mp hfind
  obtain ⟨-, hwalk⟩ := locate_eq_ok_iff.mp hlocate
  rcases List.eq_nil_or_concat (HostPath.parts path) with hnil | ⟨front, name, hparts⟩
  · exact (parts_ne_nil path hnil).elim
  · rw [List.concat_eq_append] at hparts
    rw [hparts, List.foldlM_append] at hwalk
    obtain ⟨here, hfront, hback⟩ := bind_eq_ok_iff.mp hwalk
    obtain ⟨next, hnext, hend⟩ := bind_eq_ok_iff.mp hback
    obtain ⟨hhere, hshort, rfl⟩ := enter_eq_ok_iff.mp hnext
    have htarget : follow here name = t.target path := Except.ok.inj hend
    -- A part that goes up or stays leads to a directory, not to a file.
    rw [← htarget] at hfile
    unfold FileTree.follow at hfile htarget
    split at hfile
    · rw [hgrounded.directory_above hhere (List.dropLast_prefix here)] at hfile
      cases hfile
    · next hdots =>
      split at hfile
      · rw [hhere] at hfile
        cases hfile
      · next hidle =>
        rw [if_neg hdots, if_neg hidle] at htarget
        have hfollow : FileTree.follow here name = here ++ [name] := by
          rw [FileTree.follow, if_neg hdots, if_neg hidle]
        exact ⟨front, here, name, hparts, hfront, hhere, hshort,
          fun hempty => hidle (.inl hempty), hfollow, htarget.symm⟩

/-- Where a file is found, there is a place for one. -/
theorem site_of_find {mode : Nat} {content : List UInt8} (hgrounded : t.Grounded)
    (hfind : t.find path = .ok (.file mode content)) : Site path (t.target path) t := by
  obtain ⟨front, here, name, hnamed⟩ := exists_named_of_find hgrounded hfind
  obtain ⟨hlocate, hfile⟩ := find_eq_ok_iff.mp hfind
  obtain ⟨hparts, -⟩ := locate_eq_ok_iff.mp hlocate
  have hlocation : t.get? (t.target path) ≠ some .directory := by
    rw [hfile]
    nofun
  have hstart : ¬ t.target path <+: t.startOf path := fun hbelow =>
    hlocation (hgrounded.directory_above (directory_of_walk hnamed.walk hnamed.directory) hbelow)
  have hbeside : ¬ t.target path <+: here := by
    intro hbelow
    have hlength := hbelow.length_le
    rw [hnamed.target, List.length_append, List.length_singleton] at hlength
    omega
  refine ⟨by simp [hnamed.target], ?_, ?_, ?_⟩
  · rw [hnamed.target, List.dropLast_concat, hnamed.directory]
  · simpa [hnamed.parts] using hnamed.nonempty
  · intro s hagree
    have hwalk := hagree.walk hlocation hstart hnamed.walk hnamed.directory
    have hlast : s.enter here name = .ok (t.target path) := by
      rw [enter_eq_ok_iff, hagree.get? here hbeside, hnamed.follow, hnamed.target]
      exact ⟨hnamed.directory, hnamed.short, rfl⟩
    rw [locate_eq_ok_iff, startOf_congr hagree.workingDir]
    refine ⟨hparts, ?_⟩
    rw [hnamed.parts, List.foldlM_append]
    exact bind_eq_ok_iff.mpr ⟨here, hwalk, bind_eq_ok_iff.mpr ⟨_, hlast, rfl⟩⟩

/-! ## What a change does there -/

theorem beforeSlashes?_eq_none {parts : List String} (h : parts.getLast? ≠ some "") :
    beforeSlashes? parts = none := by
  rw [← List.head?_reverse] at h
  unfold beforeSlashes?
  split
  · next behind hparts =>
    rw [hparts] at h
    exact (h rfl).elim
  · rfl

theorem dropSlashes_eq_self {parts : List String} (h : parts.getLast? ≠ some "") :
    (parts.reverse.dropWhile (· == "")).reverse = parts := by
  rw [← List.head?_reverse] at h
  cases hparts : parts.reverse with
  | nil => simp [List.reverse_eq_nil_iff.mp hparts]
  | cons last front =>
      rw [hparts] at h
      have hlast : last ≠ "" := fun hempty => h (hempty ▸ rfl)
      rw [List.dropWhile_cons_of_neg (by simpa using hlast), ← hparts, List.reverse_reverse]

namespace Site

variable (h : Site path location t)
include h

theorem walk_eq :
    partsOf path = .ok (HostPath.parts path) ∧
      (HostPath.parts path).foldlM t.enter (t.startOf path) = .ok location :=
  locate_eq_ok_iff.mp (h.locate t (.refl location t))

theorem holding_eq : t.holding path = .ofNode (t.get? location) := by
  rw [holding, find, h.locate t (.refl location t)]
  simp only [bind, Except.bind]
  rcases t.get? location with - | (- | ⟨mode, content⟩) <;> rfl

theorem remove_eq : t.remove path = t.prune location := by
  rw [remove, h.locate t (.refl location t)]

theorem write_eq (content : List UInt8) :
    t.write path content =
      match t.get? location with
      | none => .ok (t.put location (.file newFileMode content))
      | some .directory => .error .isDirectory
      | some (.file mode _) => .ok (t.put location (.file mode content)) := by
  obtain ⟨hparts, hwalk⟩ := h.walk_eq
  rw [write, hparts]
  simp only [bind, Except.bind, beforeSlashes?_eq_none h.unslashed, Option.getD_none]
  rw [hwalk]
  dsimp only
  rcases t.get? location with - | (- | ⟨mode, old⟩)
  · rw [h.parent]
    rfl
  · rfl
  · rfl

theorem createDir_eq :
    t.createDir path =
      match t.get? location with
      | none => .ok (t.put location .directory)
      | some _ => .error .occupied := by
  obtain ⟨hparts, hwalk⟩ := h.walk_eq
  rw [createDir, hparts]
  simp only [bind, Except.bind, dropSlashes_eq_self h.unslashed]
  rw [hwalk]
  dsimp only
  rcases t.get? location with - | node
  · rw [h.parent]
  · rfl

/-- A change touches nothing outside of the place. -/
theorem agreeOutside_apply (change : PathChange) :
    AgreeOutside location t (change.apply path t) := by
  cases change with
  | write content =>
      rw [PathChange.apply, h.write_eq]
      rcases t.get? location with - | (- | ⟨mode, old⟩)
      · exact .put h.ne_nil _
      · exact .refl location t
      · exact .put h.ne_nil _
  | remove =>
      rw [PathChange.apply, h.remove_eq]
      exact .prune h.ne_nil
  | createDir =>
      rw [PathChange.apply, h.createDir_eq]
      rcases t.get? location with - | node
      · exact .put h.ne_nil _
      · exact .refl location t

theorem apply (change : PathChange) : Site path location (change.apply path t) :=
  h.congr (h.agreeOutside_apply change)

/-- What is at the place after a change depends on what was there before, and on nothing else. -/
theorem holding_apply (change : PathChange) :
    (change.apply path t).holding path = change.effect (t.holding path) := by
  rw [(h.apply change).holding_eq, h.holding_eq]
  cases change with
  | write content =>
      rw [PathChange.apply, h.write_eq]
      rcases hnode : t.get? location with - | (- | ⟨mode, old⟩)
      · exact congrArg Holding.ofNode (get?_put_self h.ne_nil)
      · exact congrArg Holding.ofNode hnode
      · exact congrArg Holding.ofNode (get?_put_self h.ne_nil)
  | remove =>
      rw [PathChange.apply, h.remove_eq, get?_prune h.ne_nil, if_pos List.prefix_rfl]
      rfl
  | createDir =>
      rw [PathChange.apply, h.createDir_eq]
      rcases hnode : t.get? location with - | (- | ⟨mode, old⟩)
      · exact congrArg Holding.ofNode (get?_put_self h.ne_nil)
      · exact congrArg Holding.ofNode hnode
      · exact congrArg Holding.ofNode hnode

end Site

end FileTree

end SealedBuild
