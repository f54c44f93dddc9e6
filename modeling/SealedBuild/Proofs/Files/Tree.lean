import Mathlib.Data.List.Induction
import SealedBuild.FileTree
import SealedBuild.Proofs.Files.Path
import SealedBuild.Proofs.Outcome

/-!
# Laws of file trees

A path leads from its start through a way of locations to its target, name by name. Which ones
these are follows from the path and the working directory alone; the tree decides only whether the
way can be gone. So what an operation does is told by locations: what it puts at the target, and
which directories it makes on the way.
-/

namespace SealedBuild.FileTree

variable {t t' : FileTree} {location other here : List String} {node : FileNode} {path : String}

/-! ## Looking up -/

theorem lookup_filter {α β : Type} [BEq α] [LawfulBEq α] (keep : α → Bool) (key : α)
    (entries : List (α × β)) :
    (entries.filter fun entry => keep entry.1).lookup key =
      if keep key then entries.lookup key else none := by
  induction entries with
  | nil => simp
  | cons entry entries ih =>
      obtain ⟨found, value⟩ := entry
      rw [List.filter_cons]
      by_cases hkey : key = found
      · subst hkey
        cases hkeep : keep key <;> simp [hkeep, ih]
      · have hbeq : (key == found) = false := beq_false_of_ne hkey
        cases hkeep : keep found <;> simp [ih, List.lookup_cons, hbeq]

@[simp]
theorem get?_nil (t : FileTree) : t.get? [] = some .directory :=
  if_pos rfl

theorem ne_nil_of_missing (h : t.get? location = none) : location ≠ [] := by
  rintro rfl
  rw [get?_nil] at h
  cases h

theorem get?_put (h : location ≠ []) :
    (t.put location node).get? other = if other = location then some node else t.get? other := by
  by_cases hroot : other = []
  · subst hroot
    rw [get?_nil, get?_nil, if_neg (Ne.symm h)]
  · rw [get?, if_neg hroot, get?, if_neg hroot, put, List.lookup_cons]
    by_cases hsame : other = location
    · simp [hsame]
    · have hbeq : (other == location) = false := beq_false_of_ne hsame
      rw [hbeq, lookup_filter (· != location), if_neg hsame]
      simp [hsame]

theorem get?_put_self (h : location ≠ []) : (t.put location node).get? location = some node := by
  rw [get?_put h, if_pos rfl]

@[simp]
theorem workingDir_put : (t.put location node).workingDir = t.workingDir := rfl

theorem get?_prune (h : location ≠ []) :
    (t.prune location).get? other = if location <+: other then none else t.get? other := by
  by_cases hroot : other = []
  · subst hroot
    rw [get?_nil, get?_nil, if_neg (by simpa using h)]
  · rw [get?, if_neg hroot, get?, if_neg hroot, prune,
      lookup_filter (fun key => !location.isPrefixOf key)]
    by_cases hbelow : location <+: other
    · rw [if_pos hbelow, if_neg (by simpa using hbelow)]
    · rw [if_neg hbelow, if_pos (by simpa [← Bool.not_eq_true] using hbelow)]

@[simp]
theorem workingDir_prune : (t.prune location).workingDir = t.workingDir := rfl

/-- Every node is in a directory. -/
def Grounded (files : FileTree) : Prop :=
  ∀ location name, files.get? (location ++ [name]) ≠ none →
    files.get? location = some .directory

/-- Whether a tree is grounded can be told by its nodes. -/
theorem grounded_of_nodes
    (h : ∀ entry ∈ t.nodes, t.get? entry.1.dropLast = some .directory) : t.Grounded := by
  intro location name hnode
  rw [get?, if_neg (by simp)] at hnode
  obtain ⟨node, hlookup⟩ := Option.ne_none_iff_exists'.mp hnode
  obtain ⟨before, after, hnodes, -⟩ := List.lookup_eq_some_iff.mp hlookup
  have hparent := h (location ++ [name], node) (by simp [hnodes])
  rwa [List.dropLast_concat] at hparent

theorem Grounded.directory_above {above : List String} (h : t.Grounded)
    (hdirectory : t.get? location = some .directory) (habove : above <+: location) :
    t.get? above = some .directory := by
  obtain ⟨rest, rfl⟩ := habove
  induction rest using List.reverseRecOn with
  | nil => rwa [List.append_nil] at hdirectory
  | append_singleton rest name ih =>
      have hnode : t.get? (above ++ rest ++ [name]) ≠ none := by
        rw [List.append_assoc, hdirectory]
        nofun
      exact ih (h _ name hnode)

/-! ## Ways -/

/-- Where a name leads from a location. -/
def follow (here : List String) (name : String) : List String :=
  if name = ".." then here.dropLast
  else if name = "" ∨ name = "." then here
  else here ++ [name]

/-- The location that a path leads to. -/
def target (t : FileTree) (path : String) : List String :=
  (HostPath.names path).foldl follow (t.startOf path)

/-- The locations that a path leads through, from its start to its target. -/
def way (t : FileTree) (path : String) : List (List String) :=
  (HostPath.names path).scanl follow (t.startOf path)

section Congr

variable (h : t'.workingDir = t.workingDir)
include h

theorem startOf_congr : t'.startOf path = t.startOf path := by
  rw [startOf, startOf, h]

theorem target_congr : t'.target path = t.target path := by
  rw [target, target, startOf_congr h]

theorem way_congr : t'.way path = t.way path := by
  rw [way, way, startOf_congr h]

end Congr

theorem follow_of_isIdle {name : String} (h : HostPath.isIdle name = true) :
    follow here name = here := by
  have hname : name = "" ∨ name = "." := by simpa [HostPath.isIdle] using h
  rw [follow, if_neg (by rcases hname with rfl | rfl <;> decide), if_pos hname]

theorem follow_of_ordinary {name : String} (h : HostPath.Ordinary name) :
    follow here name = here ++ [name] := by
  rw [follow, if_neg h.2.2.1, if_neg (by simp [h.1, h.2.1])]

theorem foldl_follow_filter (parts : List String) (here : List String) :
    (parts.filter fun part => !HostPath.isIdle part).foldl follow here =
      parts.foldl follow here := by
  induction parts generalizing here with
  | nil => rfl
  | cons part parts ih =>
      cases hidle : HostPath.isIdle part with
      | true => simp [hidle, follow_of_isIdle hidle, ih]
      | false => simp [hidle, ih]

/-- Empty parts at the end say nothing. -/
theorem filter_dropSlashes (parts : List String) :
    ((parts.reverse.dropWhile (· == "")).reverse.filter fun part => !HostPath.isIdle part) =
      parts.filter fun part => !HostPath.isIdle part := by
  induction parts using List.reverseRecOn with
  | nil => rfl
  | append_singleton parts part ih =>
      rw [List.reverse_append, List.reverse_singleton, List.singleton_append, List.dropWhile_cons]
      by_cases hpart : part = ""
      · subst hpart
        have hidle : HostPath.isIdle "" = true := rfl
        rw [if_pos (beq_self_eq_true ""), ih]
        simp [hidle]
      · rw [if_neg (by simpa using hpart), List.reverse_cons, List.reverse_reverse]

/-- Empty parts at the end lead nowhere. -/
theorem foldl_follow_dropSlashes (parts : List String) (here : List String) :
    ((parts.reverse.dropWhile (· == "")).reverse).foldl follow here = parts.foldl follow here := by
  rw [← foldl_follow_filter, filter_dropSlashes, foldl_follow_filter]

theorem target_eq (t : FileTree) (path : String) :
    t.target path = (HostPath.parts path).foldl follow (t.startOf path) := by
  rw [target, HostPath.names_eq, foldl_follow_filter]

section Join

variable {base name : String}

theorem startOf_join (h : HostPath.Ordinary name) :
    t.startOf (HostPath.join base name) = t.startOf base := by
  rw [startOf, startOf, HostPath.isAbsolute_join h.isAbsolute_eq]

theorem names_join (h : HostPath.Ordinary name) :
    HostPath.names (HostPath.join base name) = HostPath.names base ++ [name] := by
  rw [HostPath.names_join h.isAbsolute_eq, h.names_eq]

theorem target_join (h : HostPath.Ordinary name) :
    t.target (HostPath.join base name) = t.target base ++ [name] := by
  rw [target, target, startOf_join h, names_join h, List.foldl_append, List.foldl_cons,
    List.foldl_nil, follow_of_ordinary h]

end Join

/-- The location of what has a name of its own in the directory at a path. -/
def place (t : FileTree) (base name : String) : List String :=
  t.target base ++ [name]

theorem place_ne_nil (t : FileTree) (base name : String) : t.place base name ≠ [] := by
  simp [place]

/-! ## Walking -/

theorem enter_eq_ok_iff {name : String} {next : List String} :
    t.enter here name = .ok next ↔
      t.get? here = some .directory ∧ name.utf8ByteSize ≤ longestName ∧
        next = follow here name := by
  unfold enter follow
  cases t.get? here with
  | none => simp
  | some node =>
      cases node with
      | file mode content => simp
      | directory =>
          by_cases hlong : longestName < name.utf8ByteSize
          · simp [hlong, Nat.not_le_of_lt hlong]
          · have hshort : name.utf8ByteSize ≤ longestName := Nat.le_of_not_lt hlong
            simp only [hlong, hshort, if_false, true_and]
            split
            · simp [eq_comm]
            · split <;> simp [eq_comm]

/-- What a walk reaches is where its names lead. -/
theorem eq_of_walk {names : List String}
    (h : names.foldlM t.enter here = .ok location) : location = names.foldl follow here := by
  induction names generalizing here with
  | nil => exact (Except.ok.inj h).symm
  | cons name names ih =>
      obtain ⟨next, hnext, hrest⟩ := bind_eq_ok_iff.mp h
      obtain ⟨-, -, rfl⟩ := enter_eq_ok_iff.mp hnext
      exact ih hrest

/-- A walk goes on in any tree that keeps the directories. -/
theorem walk_mono {names : List String}
    (hkept : ∀ location, t.get? location = some .directory → t'.get? location = some .directory)
    (h : names.foldlM t.enter here = .ok location) : names.foldlM t'.enter here = .ok location := by
  induction names generalizing here with
  | nil => exact h
  | cons name names ih =>
      obtain ⟨next, hnext, hrest⟩ := bind_eq_ok_iff.mp h
      obtain ⟨hhere, hshort, hfollow⟩ := enter_eq_ok_iff.mp hnext
      have hentered := enter_eq_ok_iff.mpr ⟨hkept _ hhere, hshort, hfollow⟩
      exact bind_eq_ok_iff.mpr ⟨next, hentered, ih hrest⟩

/-- A walk to a directory starts in one. -/
theorem directory_of_walk {names : List String}
    (h : names.foldlM t.enter here = .ok location) (hend : t.get? location = some .directory) :
    t.get? here = some .directory := by
  cases names with
  | nil => exact Except.ok.inj h ▸ hend
  | cons name names =>
      obtain ⟨next, hnext, -⟩ := bind_eq_ok_iff.mp h
      exact (enter_eq_ok_iff.mp hnext).1

/-- Where the names that say something can be walked to a directory, all parts can. -/
theorem walk_parts {parts : List String}
    (h : (parts.filter fun part => !HostPath.isIdle part).foldlM t.enter here = .ok location)
    (hend : t.get? location = some .directory) : parts.foldlM t.enter here = .ok location := by
  induction parts generalizing here with
  | nil => exact h
  | cons part parts ih =>
      cases hidle : HostPath.isIdle part with
      | false =>
          rw [List.filter_cons, hidle] at h
          obtain ⟨next, hnext, hrest⟩ := bind_eq_ok_iff.mp h
          exact bind_eq_ok_iff.mpr ⟨next, hnext, ih hrest⟩
      | true =>
          -- An idle part leads nowhere, but it is entered from a directory only.
          rw [List.filter_cons, hidle] at h
          have hshort : part.utf8ByteSize ≤ longestName := by
            have hpart : part = "" ∨ part = "." := by simpa [HostPath.isIdle] using hidle
            rcases hpart with rfl | rfl <;> decide
          exact bind_eq_ok_iff.mpr ⟨here, enter_eq_ok_iff.mpr
            ⟨directory_of_walk h hend, hshort, (follow_of_isIdle hidle).symm⟩, ih h⟩

theorem partsOf_eq_ok {parts : List String} (h : partsOf path = .ok parts) :
    parts = HostPath.parts path := by
  unfold partsOf at h
  split at h
  · cases h
  · split at h
    · cases h
    · split at h
      · cases h
      · exact (Except.ok.inj h).symm

/-- What is located is the target. -/
theorem eq_target_of_locate (h : t.locate path = .ok location) : location = t.target path := by
  unfold locate at h
  obtain ⟨parts, hparts, hwalk⟩ := bind_eq_ok_iff.mp h
  rw [eq_of_walk hwalk, target_eq, partsOf_eq_ok hparts]

theorem locate_mono (hworkingDir : t'.workingDir = t.workingDir)
    (hkept : ∀ location, t.get? location = some .directory → t'.get? location = some .directory)
    (h : t.locate path = .ok location) : t'.locate path = .ok location := by
  unfold locate at h ⊢
  obtain ⟨parts, hparts, hwalk⟩ := bind_eq_ok_iff.mp h
  rw [startOf_congr hworkingDir]
  exact bind_eq_ok_iff.mpr ⟨parts, hparts, walk_mono hkept hwalk⟩

theorem find_eq_ok_iff :
    t.find path = .ok node ↔
      t.locate path = .ok (t.target path) ∧ t.get? (t.target path) = some node := by
  unfold find
  cases hlocate : t.locate path with
  | error fault =>
      exact ⟨nofun, fun h => nomatch h.1⟩
  | ok location =>
      obtain rfl := eq_target_of_locate hlocate
      simp only [bind, Except.bind, true_and]
      cases t.get? (t.target path) with
      | none => exact ⟨nofun, nofun⟩
      | some found => simp

/-! ## Making directories -/

/-- The second tree is the first one with directories made at missing locations among some. -/
structure Opens (among : List (List String)) (before after : FileTree) : Prop where
  workingDir : after.workingDir = before.workingDir
  get? : ∀ location, after.get? location = before.get? location ∨
    location ∈ among ∧ before.get? location = none ∧ after.get? location = some .directory

namespace Opens

variable {among wider : List (List String)} {middle : FileTree}

theorem refl (among : List (List String)) (t : FileTree) : Opens among t t :=
  ⟨rfl, fun _ => .inl rfl⟩

theorem mono (h : Opens among t t') (hwider : ∀ location ∈ among, location ∈ wider) :
    Opens wider t t' :=
  ⟨h.workingDir, fun location => (h.get? location).imp_right fun hmade =>
    ⟨hwider location hmade.1, hmade.2⟩⟩

theorem trans (h : Opens among t middle) (h' : Opens among middle t') : Opens among t t' := by
  refine ⟨h'.workingDir.trans h.workingDir, fun location => ?_⟩
  rcases h'.get? location with hsame | ⟨hmem, hmissing, hmade⟩
  · rw [hsame]
    exact h.get? location
  · rcases h.get? location with hsame | ⟨-, -, hdirectory⟩
    · exact .inr ⟨hmem, hsame ▸ hmissing, hmade⟩
    · rw [hmissing] at hdirectory
      cases hdirectory

theorem put (hmem : location ∈ among) (hmissing : t.get? location = none) :
    Opens among t (t.put location .directory) := by
  have hne := ne_nil_of_missing hmissing
  refine ⟨rfl, fun other => ?_⟩
  by_cases hother : other = location
  · subst hother
    exact .inr ⟨hmem, hmissing, get?_put_self hne⟩
  · exact .inl (by rw [get?_put hne, if_neg hother])

/-- What is there stays. -/
theorem kept (h : Opens among t t') (hnode : t.get? location = some node) :
    t'.get? location = some node := by
  rcases h.get? location with hsame | ⟨-, hmissing, -⟩
  · rw [hsame, hnode]
  · rw [hmissing] at hnode
    cases hnode

theorem unchanged (h : Opens among t t') (hmem : location ∉ among) :
    t'.get? location = t.get? location :=
  (h.get? location).resolve_right fun hmade => hmem hmade.1

end Opens

theorem scanl_subset (here : List String) (name : String) (names : List String) :
    ∀ location ∈ names.scanl follow (follow here name),
      location ∈ (name :: names).scanl follow here := by
  intro location hmem
  rw [List.scanl_cons]
  exact List.mem_cons_of_mem _ hmem

theorem follow_mem_scanl (here : List String) (name : String) (names : List String) :
    follow here name ∈ (name :: names).scanl follow here :=
  scanl_subset here name names _ (by cases names <;> simp)

/-- The three ends of making the directories along a way: it is left before its last name, a
directory is at its end, or one is made there. -/
theorem createAlong_concat {made : Bool} {front : List String} {last : String}
    {result : Except FileFault Unit}
    (h : createAlong made t here (front ++ [last]) = (t', result)) :
    ∃ opened, Opens (front.scanl follow here) t opened ∧
      ((∃ fault, result = .error fault) ∧ t' = opened ∨
        result = .ok () ∧
          Opens [(front ++ [last]).foldl follow here] opened t' ∧
          t'.get? ((front ++ [last]).foldl follow here) = some .directory) := by
  induction front generalizing made t here with
  | nil =>
      refine ⟨t, .refl _ t, ?_⟩
      rw [List.nil_append, createAlong] at h
      cases hnext : t.enter here last with
      | error fault =>
          rw [hnext] at h
          cases h
          exact .inl ⟨⟨fault, rfl⟩, rfl⟩
      | ok next =>
          obtain ⟨-, -, rfl⟩ := enter_eq_ok_iff.mp hnext
          rw [hnext] at h
          dsimp only at h
          cases hnode : t.get? (follow here last) with
          | none =>
              rw [hnode] at h
              cases h
              exact .inr ⟨rfl, .put List.mem_cons_self hnode,
                get?_put_self (ne_nil_of_missing hnode)⟩
          | some node =>
              rw [hnode] at h
              cases node with
              | directory =>
                  cases h
                  exact .inr ⟨rfl, .refl _ _, hnode⟩
              | file mode content =>
                  cases h
                  exact .inl ⟨⟨_, rfl⟩, rfl⟩
  | cons name front ih =>
      rw [List.cons_append, createAlong] at h
      cases hnext : t.enter here name with
      | error fault =>
          rw [hnext] at h
          cases h
          exact ⟨_, .refl _ _, .inl ⟨⟨fault, rfl⟩, rfl⟩⟩
      | ok next =>
          obtain ⟨-, -, rfl⟩ := enter_eq_ok_iff.mp hnext
          rw [hnext] at h
          dsimp only at h
          cases hnode : t.get? (follow here name) with
          | none =>
              rw [hnode] at h
              obtain ⟨opened, hopens, hend⟩ := ih h
              exact ⟨opened, (Opens.put (follow_mem_scanl here name front) hnode).trans
                (hopens.mono (scanl_subset here name front)), hend⟩
          | some node =>
              rw [hnode] at h
              cases node with
              | directory =>
                  obtain ⟨opened, hopens, hend⟩ := ih h
                  exact ⟨opened, hopens.mono (scanl_subset here name front), hend⟩
              | file mode content =>
                  cases h
                  exact ⟨_, .refl _ _, .inl ⟨⟨_, rfl⟩, rfl⟩⟩

/-- A way that was made can be gone. -/
theorem walk_of_createAlong {made : Bool} {names : List String}
    (h : createAlong made t here names = (t', .ok ())) :
    Opens (names.scanl follow here) t t' ∧
      names.foldlM t'.enter here = .ok (names.foldl follow here) := by
  induction names generalizing made t here with
  | nil =>
      cases h
      exact ⟨.refl _ _, rfl⟩
  | cons name names ih =>
      rw [createAlong] at h
      cases hnext : t.enter here name with
      | error fault =>
          rw [hnext] at h
          cases h
      | ok next =>
          obtain ⟨hhere, hshort, rfl⟩ := enter_eq_ok_iff.mp hnext
          rw [hnext] at h
          dsimp only at h
          have hstep : Opens ((name :: names).scanl follow here) t t' ∧
              names.foldlM t'.enter (follow here name) =
                .ok (names.foldl follow (follow here name)) := by
            cases hnode : t.get? (follow here name) with
            | none =>
                rw [hnode] at h
                obtain ⟨hopens, hwalk⟩ := ih h
                exact ⟨(Opens.put (follow_mem_scanl here name names) hnode).trans
                  (hopens.mono (scanl_subset here name names)), hwalk⟩
            | some node =>
                rw [hnode] at h
                cases node with
                | directory =>
                    obtain ⟨hopens, hwalk⟩ := ih h
                    exact ⟨hopens.mono (scanl_subset here name names), hwalk⟩
                | file mode content => cases h
          refine ⟨hstep.1, ?_⟩
          rw [List.foldlM_cons, enter_eq_ok_iff.mpr ⟨hstep.1.kept hhere, hshort, rfl⟩]
          exact hstep.2

section Below

variable {base name : String} {result : Except FileFault Unit}

theorem join_ne_empty (hname : HostPath.Ordinary name) :
    (HostPath.join base name).isEmpty = false := by
  have hnames : HostPath.names (HostPath.join base name) = HostPath.names base ++ [name] :=
    names_join hname
  cases hempty : (HostPath.join base name).isEmpty with
  | false => rfl
  | true =>
      rw [String.isEmpty_iff.mp hempty] at hnames
      have hlength := congrArg List.length hnames
      rw [List.length_append] at hlength
      cases hlength

/-- Making a directory of an ordinary name makes missing directories on the way to it, and then
either ends there or has made it. -/
theorem opens_createDirAll (hname : HostPath.Ordinary name)
    (h : t.createDirAll (HostPath.join base name) = (t', result)) :
    ∃ opened, Opens (t.way base) t opened ∧
      ((∃ fault, result = .error fault) ∧ t' = opened ∨
        result = .ok () ∧ Opens [t.target base ++ [name]] opened t' ∧
          t'.find (HostPath.join base name) = .ok .directory) := by
  rw [createDirAll, join_ne_empty hname, if_neg Bool.false_ne_true] at h
  cases hparts : partsOf (HostPath.join base name) with
  | error fault =>
      rw [hparts] at h
      cases h
      exact ⟨_, .refl _ _, .inl ⟨⟨fault, rfl⟩, rfl⟩⟩
  | ok parts =>
      rw [hparts] at h
      dsimp only at h
      rw [names_join hname, startOf_join hname] at h
      obtain ⟨opened, hopens, hend⟩ := createAlong_concat h
      refine ⟨opened, hopens, hend.imp_right ?_⟩
      rintro ⟨rfl, hmade, hdirectory⟩
      -- The names were walked without the idle parts of the path, which `find` walks as well.
      obtain ⟨hall, hwalk⟩ := walk_of_createAlong h
      rw [← names_join hname, ← startOf_join hname, ← target, target_join hname] at hmade hdirectory
      rw [← names_join hname, ← startOf_join hname, ← startOf_congr hall.workingDir, ← target,
        HostPath.names_eq] at hwalk
      rw [← target_join hname, ← target_congr hall.workingDir] at hdirectory
      have hwhole := walk_parts hwalk hdirectory
      rw [partsOf_eq_ok hparts] at hparts
      exact ⟨rfl, hmade, find_eq_ok_iff.mpr
        ⟨bind_eq_ok_iff.mpr ⟨_, hparts, hwhole⟩, hdirectory⟩⟩

end Below

/-! ## Removing and writing -/

theorem removeDirAll_of_find (h : t.find path = .ok .directory) :
    t.removeDirAll path = .ok (t.prune (t.target path)) := by
  obtain ⟨hlocate, hdirectory⟩ := find_eq_ok_iff.mp h
  rw [removeDirAll, hlocate]
  simp only [bind, Except.bind, hdirectory]

theorem removeDirAll_of_missing {fault : FileFault} (h : t.find path = .error fault) :
    t.removeDirAll path = .error fault := by
  unfold find at h
  unfold removeDirAll
  cases hlocate : t.locate path with
  | error fault' =>
      rw [hlocate] at h
      cases h
      rfl
  | ok location =>
      rw [hlocate] at h
      simp only [bind, Except.bind] at h ⊢
      cases hnode : t.get? location with
      | none =>
          rw [hnode] at h
          cases h
          rfl
      | some node =>
          rw [hnode] at h
          cases h

theorem removeDirAll_of_file {mode : Nat} {content : List UInt8}
    (h : t.find path = .ok (.file mode content)) : t.removeDirAll path = .error .notDirectory := by
  obtain ⟨hlocate, hfile⟩ := find_eq_ok_iff.mp h
  rw [removeDirAll, hlocate]
  simp only [bind, Except.bind, hfile]

/-- What was pruned is not found. -/
theorem find_prune_ne_ok (hroot : t.target path ≠ []) (node : FileNode) :
    (t.prune (t.target path)).find path ≠ .ok node := by
  intro h
  obtain ⟨-, hnode⟩ := find_eq_ok_iff.mp h
  rw [target_congr workingDir_prune, get?_prune hroot, if_pos List.prefix_rfl] at hnode
  cases hnode

/-- The second tree differs from the first one at a location at most, and a directory there
stays. -/
structure Touches (location : List String) (before after : FileTree) : Prop where
  workingDir : after.workingDir = before.workingDir
  get? : ∀ other, other ≠ location → after.get? other = before.get? other
  directory : before.get? location = some .directory → after.get? location = some .directory

namespace Touches

theorem refl (location : List String) (t : FileTree) : Touches location t t :=
  ⟨rfl, fun _ _ => rfl, id⟩

theorem trans {middle : FileTree} (h : Touches location t middle)
    (h' : Touches location middle t') : Touches location t t' :=
  ⟨h'.workingDir.trans h.workingDir,
    fun other hother => (h'.get? other hother).trans (h.get? other hother),
    fun hdirectory => h'.directory (h.directory hdirectory)⟩

theorem put (h : t.get? location ≠ some .directory) :
    Touches location t (t.put location node) := by
  have hroot : location ≠ [] := by
    rintro rfl
    exact h (get?_nil t)
  exact ⟨rfl, fun other hother => by rw [get?_put hroot, if_neg hother], fun hdir => (h hdir).elim⟩

/-- All directories stay. -/
theorem kept (h : Touches location t t') (hdirectory : t.get? other = some .directory) :
    t'.get? other = some .directory := by
  by_cases hother : other = location
  · subst hother
    exact h.directory hdirectory
  · rw [h.get? other hother, hdirectory]

/-- A directory that is found is found. -/
theorem find_directory (h : Touches location t t') (hfind : t.find path = .ok .directory) :
    t'.find path = .ok .directory := by
  obtain ⟨hlocate, hdirectory⟩ := find_eq_ok_iff.mp hfind
  rw [find_eq_ok_iff, target_congr h.workingDir]
  exact ⟨locate_mono h.workingDir (fun _ => h.kept) hlocate, h.kept hdirectory⟩

end Touches

/-- A file that is written is at the target of its path, where no directory was. -/
theorem write_eq_ok {content : List UInt8} (h : t.write path content = .ok t') :
    t.get? (t.target path) ≠ some .directory ∧
      ∃ mode, t' = t.put (t.target path) (.file mode content) := by
  unfold write at h
  obtain ⟨parts, hparts, hwriting⟩ := bind_eq_ok_iff.mp h
  obtain ⟨location, hwalk, hputting⟩ := bind_eq_ok_iff.mp hwriting
  cases hslashed : beforeSlashes? parts with
  | some front =>
      rw [hslashed] at hputting
      rcases hnode : t.get? location with - | (- | ⟨mode, old⟩) <;> rw [hnode] at hputting <;>
        cases hputting
  | none =>
      rw [hslashed] at hwalk hputting
      obtain rfl : location = t.target path := by
        rw [eq_of_walk hwalk, target_eq, ← partsOf_eq_ok hparts]
        rfl
      rcases hnode : t.get? (t.target path) with - | (- | ⟨mode, old⟩) <;> rw [hnode] at hputting
      · rcases hparent : t.get? (t.target path).dropLast with - | (- | ⟨mode, old⟩) <;>
          simp only [Option.isSome_none, hparent] at hputting <;> cases hputting
        exact ⟨nofun, newFileMode, rfl⟩
      · cases hputting
      · cases hputting
        exact ⟨nofun, mode, rfl⟩

/-- Making one directory touches its target. -/
theorem createDir_eq_ok (h : t.createDir path = .ok t') :
    t.get? (t.target path) = none ∧ t' = t.put (t.target path) .directory := by
  unfold createDir at h
  obtain ⟨parts, hparts, hmaking⟩ := bind_eq_ok_iff.mp h
  obtain ⟨location, hwalk, hputting⟩ := bind_eq_ok_iff.mp hmaking
  obtain rfl : location = t.target path := by
    rw [eq_of_walk hwalk, target_eq, ← partsOf_eq_ok hparts, foldl_follow_dropSlashes]
  cases hnode : t.get? (t.target path) with
  | some node => rw [hnode] at hputting; cases hputting
  | none =>
      rw [hnode] at hputting
      rcases hparent : t.get? (t.target path).dropLast with - | (- | ⟨mode, old⟩) <;>
        simp only [hparent] at hputting <;> cases hputting
      exact ⟨rfl, rfl⟩

end SealedBuild.FileTree
