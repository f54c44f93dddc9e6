import SealedBuild.BuildContext
import SealedBuild.Proofs.Files.Tree

/-!
# Operations on two trees

What an operation answers and changes depends on the locations that its path leads through, and on
no others. So it does the same on two trees that agree on these. The making of directories may even
find some of them made in one tree and missing in the other, as long as what lies behind is not told
apart by it.
-/

namespace SealedBuild

namespace FileTree

variable {t t' s s' : FileTree} {location here : List String} {path base name : String}

/-! ## Locations along a path -/

theorem scanl_eq_cons (here : List String) (names : List String) :
    ∃ rest, names.scanl follow here = here :: rest := by
  cases names <;> simp

theorem mem_scanl_self (here : List String) (names : List String) :
    here ∈ names.scanl follow here := by
  obtain ⟨rest, hrest⟩ := scanl_eq_cons here names
  rw [hrest]
  exact List.mem_cons_self

/-- Parts that say nothing lead through no further locations. -/
theorem mem_scanl_filter {parts : List String} :
    location ∈ (parts.filter fun part => !HostPath.isIdle part).scanl follow here ↔
      location ∈ parts.scanl follow here := by
  induction parts generalizing here with
  | nil => rfl
  | cons part parts ih =>
      cases hidle : HostPath.isIdle part with
      | false => simp [hidle, List.scanl_cons, ih]
      | true =>
          have hself := mem_scanl_self here parts
          simp only [List.filter_cons, hidle, Bool.not_true, Bool.false_eq_true, if_false,
            List.scanl_cons, List.mem_cons, follow_of_isIdle hidle, ih]
          exact ⟨.inr, fun h => h.elim (fun heq => heq ▸ hself) id⟩

theorem mem_way_iff :
    location ∈ t.way path ↔
      location ∈ (HostPath.parts path).scanl follow (t.startOf path) := by
  rw [way, HostPath.names_eq, mem_scanl_filter]

theorem startOf_mem_way (t : FileTree) (path : String) : t.startOf path ∈ t.way path :=
  mem_scanl_self _ _

/-- A way ends at its target. -/
theorem way_eq_concat (t : FileTree) (path : String) :
    ∃ front, t.way path = front ++ [t.target path] := by
  rw [target, way]
  generalize t.startOf path = here
  generalize HostPath.names path = names
  induction names generalizing here with
  | nil => exact ⟨[], by simp⟩
  | cons name names ih =>
      obtain ⟨front, hfront⟩ := ih (follow here name)
      exact ⟨here :: front, by rw [List.scanl_cons, hfront, List.foldl_cons, List.cons_append]⟩

theorem target_mem_way (t : FileTree) (path : String) : t.target path ∈ t.way path := by
  obtain ⟨front, hfront⟩ := way_eq_concat t path
  rw [hfront]
  exact List.mem_append_right front (List.mem_singleton_self _)

theorem way_join (hname : HostPath.Ordinary name) :
    t.way (HostPath.join base name) = t.way base ++ [t.target base ++ [name]] := by
  rw [way, way, target, startOf_join hname, names_join hname, List.scanl_append,
    ← follow_of_ordinary hname]
  simp [List.scanl_cons]

theorem mem_way_join (hname : HostPath.Ordinary name) :
    location ∈ t.way (HostPath.join base name) ↔
      location ∈ t.way base ∨ location = t.target base ++ [name] := by
  rw [way_join hname, List.mem_append, List.mem_singleton]

/-- The way to a directory that is found leads through directories. -/
theorem directory_of_mem_way (h : t.find path = .ok .directory) (hmem : location ∈ t.way path) :
    t.get? location = some .directory := by
  obtain ⟨hlocate, hend⟩ := find_eq_ok_iff.mp h
  unfold locate at hlocate
  obtain ⟨parts, hparts, hwalk⟩ := bind_eq_ok_iff.mp hlocate
  rw [mem_way_iff, ← partsOf_eq_ok hparts] at hmem
  generalize t.startOf path = here at hwalk hmem
  clear hparts hlocate
  induction parts generalizing here with
  | nil =>
      obtain rfl : location = here := by simpa using hmem
      exact directory_of_walk hwalk hend
  | cons part parts ih =>
      rw [List.scanl_cons, List.mem_cons] at hmem
      rcases hmem with rfl | hmem
      · exact directory_of_walk hwalk hend
      · obtain ⟨next, hnext, hrest⟩ := bind_eq_ok_iff.mp hwalk
        obtain ⟨-, -, rfl⟩ := enter_eq_ok_iff.mp hnext
        exact ih _ hrest hmem

/-! ## Looking -/

/-- Two trees with the same working directory that have the same at some locations. -/
structure Agree (among : List (List String)) (t s : FileTree) : Prop where
  workingDir : s.workingDir = t.workingDir
  get? : ∀ location ∈ among, s.get? location = t.get? location

theorem enter_congr {name : String} (h : s.get? here = t.get? here) :
    s.enter here name = t.enter here name := by
  rw [enter, enter, h]

theorem walk_congr {names : List String}
    (h : ∀ location ∈ names.scanl follow here, s.get? location = t.get? location) :
    names.foldlM s.enter here = names.foldlM t.enter here := by
  induction names generalizing here with
  | nil => rfl
  | cons name names ih =>
      rw [List.foldlM_cons, List.foldlM_cons, enter_congr (h here (mem_scanl_self _ _))]
      cases hnext : t.enter here name with
      | error fault => rfl
      | ok next =>
          obtain ⟨-, -, rfl⟩ := enter_eq_ok_iff.mp hnext
          exact ih fun location hmem => h location (scanl_subset here name names location hmem)

theorem locate_congr (h : Agree (t.way path) t s) : s.locate path = t.locate path := by
  unfold locate
  cases hparts : partsOf path with
  | error fault => rfl
  | ok parts =>
      change parts.foldlM s.enter (s.startOf path) = parts.foldlM t.enter (t.startOf path)
      rw [startOf_congr h.workingDir]
      refine walk_congr fun location hmem => h.get? location (mem_way_iff.mpr ?_)
      rwa [← partsOf_eq_ok hparts]

/-- What is found at a path depends on the locations it leads through. -/
theorem find_congr (h : Agree (t.way path) t s) : s.find path = t.find path := by
  unfold find
  rw [locate_congr h]
  cases hlocate : t.locate path with
  | error fault => rfl
  | ok location =>
      obtain rfl := eq_target_of_locate hlocate
      simp only [bind, Except.bind, h.get? _ (target_mem_way t path)]

/-! ## Removing -/

/-- A directory is removed from both trees or from neither. -/
theorem removeDirAll_congr (h : Agree (t.way path) t s) :
    t.removeDirAll path = .ok (t.prune (t.target path)) ∧
        s.removeDirAll path = .ok (s.prune (t.target path)) ∨
      (∃ fault, t.removeDirAll path = .error fault) ∧
        ∃ fault, s.removeDirAll path = .error fault := by
  have hfind := find_congr h
  cases hnode : t.find path with
  | error fault =>
      rw [hnode] at hfind
      exact .inr ⟨⟨fault, removeDirAll_of_missing hnode⟩, fault, removeDirAll_of_missing hfind⟩
  | ok node =>
      rw [hnode] at hfind
      cases node with
      | directory =>
          refine .inl ⟨removeDirAll_of_find hnode, ?_⟩
          rw [removeDirAll_of_find hfind, target_congr h.workingDir]
      | file mode content =>
          exact .inr ⟨⟨_, removeDirAll_of_file hnode⟩, _, removeDirAll_of_file hfind⟩

/-! ## Writing -/

/-- Two trees have changed at a location, where they are the same now, and nowhere else. -/
structure Alike (location : List String) (t t' s s' : FileTree) : Prop where
  workingDir : t'.workingDir = t.workingDir
  workingDir' : s'.workingDir = s.workingDir
  same : s'.get? location = t'.get? location
  kept : ∀ other, other ≠ location →
    t'.get? other = t.get? other ∧ s'.get? other = s.get? other

namespace Alike

theorem refl (h : s.get? location = t.get? location) : Alike location t t s s :=
  ⟨rfl, rfl, h, fun _ _ => ⟨rfl, rfl⟩⟩

theorem trans {t₁ s₁ : FileTree} (h : Alike location t t₁ s s₁) (h' : Alike location t₁ t' s₁ s') :
    Alike location t t' s s' :=
  ⟨h'.workingDir.trans h.workingDir, h'.workingDir'.trans h.workingDir', h'.same,
    fun other hother => ⟨(h'.kept other hother).1.trans (h.kept other hother).1,
      (h'.kept other hother).2.trans (h.kept other hother).2⟩⟩

theorem put (hroot : location ≠ []) (node : FileNode) :
    Alike location t (t.put location node) s (s.put location node) :=
  ⟨rfl, rfl, by rw [get?_put_self hroot, get?_put_self hroot], fun other hother => by
    rw [get?_put hroot, get?_put hroot, if_neg hother, if_neg hother]; exact ⟨rfl, rfl⟩⟩

theorem agree {among : List (List String)} (h : Alike location t t' s s')
    (hagree : Agree among t s) :
    Agree among t' s' where
  workingDir := by rw [h.workingDir, h.workingDir', hagree.workingDir]
  get? other hmem := by
    by_cases hother : other = location
    · rw [hother, h.same]
    · rw [(h.kept other hother).1, (h.kept other hother).2, hagree.get? other hmem]

end Alike

/-- The name at the end of a joined path has no slash behind it. -/
theorem beforeSlashes?_join (hname : HostPath.Ordinary name) :
    beforeSlashes? (HostPath.parts (HostPath.join base name)) = none := by
  have hparts : ∃ front, HostPath.parts (HostPath.join base name) = front ++ [name] :=
    HostPath.parts_join hname
  obtain ⟨front, hfront⟩ := hparts
  rw [hfront, beforeSlashes?, List.reverse_append, List.reverse_singleton, List.singleton_append]
  split
  · rename_i heq
    exact absurd (List.cons.inj heq).1 hname.1
  · rfl

/-- A file is written in both trees or in neither. -/
theorem write_congr (hname : HostPath.Ordinary name) (content : List UInt8)
    (h : Agree (t.way (HostPath.join base name)) t s) :
    (∃ fault, t.write (HostPath.join base name) content = .error fault ∧
        s.write (HostPath.join base name) content = .error fault) ∨
      ∃ node, t.write (HostPath.join base name) content =
          .ok (t.put (t.target base ++ [name]) node) ∧
        s.write (HostPath.join base name) content =
          .ok (s.put (t.target base ++ [name]) node) := by
  have hlocate := locate_congr h
  unfold locate at hlocate
  unfold write
  cases hparts : partsOf (HostPath.join base name) with
  | error fault => exact .inl ⟨fault, rfl, rfl⟩
  | ok parts =>
      obtain rfl := partsOf_eq_ok hparts
      rw [hparts] at hlocate
      simp only [bind, Except.bind, beforeSlashes?_join hname, Option.getD_none] at hlocate ⊢
      rw [hlocate]
      cases hwalk : (HostPath.parts (HostPath.join base name)).foldlM t.enter
          (t.startOf (HostPath.join base name)) with
      | error fault => exact .inl ⟨fault, rfl, rfl⟩
      | ok location =>
          obtain rfl : location = t.target base ++ [name] := by
            rw [eq_of_walk hwalk, ← target_eq, target_join hname]
          have hend := h.get? _ ((mem_way_join hname).mpr (.inr rfl))
          have hparent := h.get? _ ((mem_way_join hname).mpr (.inl (target_mem_way t base)))
          dsimp only
          rw [List.dropLast_concat, hend, hparent]
          rcases t.get? (t.target base ++ [name]) with - | (- | ⟨mode, old⟩)
          · rcases t.get? (t.target base) with - | (- | ⟨mode, old⟩)
            · exact .inl ⟨_, rfl, rfl⟩
            · exact .inr ⟨_, rfl, rfl⟩
            · exact .inl ⟨_, rfl, rfl⟩
          · exact .inl ⟨_, rfl, rfl⟩
          · exact .inr ⟨_, rfl, rfl⟩

/-- The permissions of a file are set in both trees or in neither. -/
theorem setMode_congr (hroot : t.target path ≠ []) (mode : Nat) (h : Agree (t.way path) t s) :
    (∃ fault, t.setMode path mode = .error fault ∧ s.setMode path mode = .error fault) ∨
      ∃ t' s', t.setMode path mode = .ok t' ∧ s.setMode path mode = .ok s' ∧
        Alike (t.target path) t t' s s' := by
  have hend := h.get? _ (target_mem_way t path)
  have hlocate := locate_congr h
  unfold setMode
  rw [hlocate]
  cases hwalk : t.locate path with
  | error fault => exact .inl ⟨fault, rfl, rfl⟩
  | ok location =>
      obtain rfl := eq_target_of_locate hwalk
      simp only [bind, Except.bind]
      rw [hend]
      rcases hnode : t.get? (t.target path) with - | (- | ⟨old, content⟩)
      · exact .inl ⟨_, rfl, rfl⟩
      · exact .inr ⟨t, s, rfl, rfl, .refl hend⟩
      · exact .inr ⟨_, _, rfl, rfl, .put hroot _⟩

/-! ## Making directories -/

/-- At a location the second tree has what the first one has, or a directory where that has
nothing. -/
def Ahead (t s : FileTree) (location : List String) : Prop :=
  s.get? location = t.get? location ∨
    t.get? location = none ∧ s.get? location = some .directory

/-- No file is behind a missing location. -/
def Clear (t : FileTree) (locations : List (List String)) : Prop :=
  locations.Pairwise fun earlier later =>
    t.get? earlier = none → ∀ mode content, t.get? later ≠ some (.file mode content)

/-- At every location two trees have not changed, or the location is one of some, nothing was there
in the first tree, and both have a directory there now. -/
structure OpensBeside (among : List (List String)) (t t' s s' : FileTree) : Prop where
  workingDir : t'.workingDir = t.workingDir
  workingDir' : s'.workingDir = s.workingDir
  get? : ∀ location, t'.get? location = t.get? location ∧ s'.get? location = s.get? location ∨
    location ∈ among ∧ t.get? location = none ∧ t'.get? location = some .directory ∧
      s'.get? location = some .directory

namespace OpensBeside

variable {among wider : List (List String)}

theorem refl (among : List (List String)) (t s : FileTree) : OpensBeside among t t s s :=
  ⟨rfl, rfl, fun _ => .inl ⟨rfl, rfl⟩⟩

theorem mono (h : OpensBeside among t t' s s') (hwider : ∀ location ∈ among, location ∈ wider) :
    OpensBeside wider t t' s s' :=
  ⟨h.workingDir, h.workingDir', fun location => (h.get? location).imp_right fun hmade =>
    ⟨hwider location hmade.1, hmade.2⟩⟩

theorem trans {t₁ s₁ : FileTree} (h : OpensBeside among t t₁ s s₁)
    (h' : OpensBeside among t₁ t' s₁ s') : OpensBeside among t t' s s' := by
  refine ⟨h'.workingDir.trans h.workingDir, h'.workingDir'.trans h.workingDir', fun location => ?_⟩
  rcases h'.get? location with ⟨ht, hs⟩ | ⟨hmem, hmissing, hmade⟩
  · rw [ht, hs]
    exact h.get? location
  · rcases h.get? location with ⟨ht, -⟩ | ⟨-, -, hdirectory, -⟩
    · exact .inr ⟨hmem, ht ▸ hmissing, hmade⟩
    · rw [hmissing] at hdirectory
      cases hdirectory

end OpensBeside

theorem OpensBeside.put {among : List (List String)} (hmem : location ∈ among)
    (hmissing : t.get? location = none)
    (hafter : s' = s.put location .directory ∨
      s' = s ∧ s.get? location = some .directory) :
    OpensBeside among t (t.put location .directory) s s' := by
  have hroot := ne_nil_of_missing hmissing
  refine ⟨rfl, by rcases hafter with rfl | ⟨rfl, -⟩ <;> rfl, fun other => ?_⟩
  by_cases hother : other = location
  · subst hother
    refine .inr ⟨hmem, hmissing, get?_put_self hroot, ?_⟩
    rcases hafter with rfl | ⟨rfl, hdirectory⟩
    · exact get?_put_self hroot
    · exact hdirectory
  · refine .inl ⟨by rw [get?_put hroot, if_neg hother], ?_⟩
    rcases hafter with rfl | ⟨rfl, -⟩
    · rw [get?_put hroot, if_neg hother]
    · rfl

theorem ahead_put (h : Ahead t s location) {other : List String} (hother : other ≠ []) :
    Ahead (t.put other .directory) (s.put other .directory) location := by
  unfold Ahead
  rw [get?_put hother, get?_put hother]
  by_cases hsame : location = other
  · simp [hsame]
  · rw [if_neg hsame, if_neg hsame]
    exact h

theorem ahead_put_left (h : Ahead t s location) {other : List String} (hother : other ≠ [])
    (hdirectory : s.get? other = some .directory) :
    Ahead (t.put other .directory) s location := by
  unfold Ahead
  rw [get?_put hother]
  by_cases hsame : location = other
  · simp [hsame, hdirectory]
  · rw [if_neg hsame]
    exact h

theorem file_of_put {other : List String} (hother : other ≠ []) {mode : Nat} {content : List UInt8}
    (h : (t.put other .directory).get? location = some (.file mode content)) :
    t.get? location = some (.file mode content) := by
  rw [get?_put hother] at h
  split at h
  · cases h
  · exact h

theorem Clear.put {locations : List (List String)} (h : Clear t locations) {other : List String}
    (hother : other ≠ []) : Clear (t.put other .directory) locations := by
  refine h.imp fun hbehind hmissing mode content hfile => ?_
  refine hbehind ?_ mode content (file_of_put hother hfile)
  rw [get?_put hother] at hmissing
  split at hmissing
  · cases hmissing
  · exact hmissing

theorem Clear.of_cons {locations : List (List String)} (h : Clear t (location :: locations)) :
    Clear t locations :=
  (List.pairwise_cons.mp h).2

/-- Once the missing start of a clear way has been made, no file is on the way. -/
theorem Clear.no_file {names : List String} (h : Clear t (names.scanl follow here))
    (hroot : here ≠ []) (hmissing : t.get? here = none) :
    ∀ location ∈ names.scanl follow here, ∀ mode content,
      (t.put here .directory).get? location ≠ some (.file mode content) := by
  intro location hmem mode content hfile
  obtain ⟨rest, hrest⟩ := scanl_eq_cons here names
  rw [hrest] at h hmem
  have hnode := file_of_put hroot hfile
  rcases List.mem_cons.mp hmem with rfl | hbehind
  · rw [hmissing] at hnode
    cases hnode
  · exact (List.pairwise_cons.mp h).1 location hbehind hmissing mode content hnode

/-- Making the directories along a way does the same in two trees, also where the second one is
ahead: it then knows of no directory made, but there is no file on the rest of the way by which that
would be told. -/
theorem createAlong_beside {names : List String} {made made' : Bool}
    (hhere : s.get? here = t.get? here)
    (hahead : ∀ location ∈ names.scanl follow here, Ahead t s location)
    (hclear : Clear t (names.scanl follow here))
    (hmade : made' = made ∨ ∀ location ∈ names.scanl follow here, ∀ mode content,
      t.get? location ≠ some (.file mode content)) :
    (createAlong made' s here names).2 = (createAlong made t here names).2 ∧
      OpensBeside (names.scanl follow here) t (createAlong made t here names).1
        s (createAlong made' s here names).1 := by
  induction names generalizing here made made' t s with
  | nil => exact ⟨rfl, .refl _ _ _⟩
  | cons name names ih =>
      rw [createAlong, createAlong, enter_congr hhere]
      cases hnext : t.enter here name with
      | error fault => exact ⟨rfl, .refl _ _ _⟩
      | ok next =>
          obtain ⟨-, -, rfl⟩ := enter_eq_ok_iff.mp hnext
          have hsubset := scanl_subset here name names
          have hmem := follow_mem_scanl here name names
          have hself := mem_scanl_self (follow here name) names
          have hahead' := fun location h => hahead location (hsubset location h)
          have hclear' : Clear t (names.scanl follow (follow here name)) := by
            rw [List.scanl_cons] at hclear
            exact hclear.of_cons
          have hmade' := hmade.imp_right fun h location hin => h location (hsubset location hin)
          dsimp only
          rcases hnode : t.get? (follow here name) with - | (- | ⟨mode, content⟩)
          · have hroot := ne_nil_of_missing hnode
            have hput (files : FileTree) :
                (files.put (follow here name) .directory).get? (follow here name) =
                  some .directory := get?_put_self hroot
            rcases hahead _ hmem with hsame | ⟨-, hdirectory⟩
            · obtain ⟨hresult, hopens⟩ := ih ((hput s).trans (hput t).symm)
                (fun location hin => ahead_put (hahead' location hin) hroot) (hclear'.put hroot)
                (.inl (rfl : true = true))
              rw [hsame, hnode]
              exact ⟨hresult, (OpensBeside.put hmem hnode (.inl rfl)).trans (hopens.mono hsubset)⟩
            · -- The second tree has the directory, and does not know that one was made.
              have hbehind := hclear'.no_file hroot hnode
              obtain ⟨hresult, hopens⟩ := ih (hdirectory.trans (hput t).symm)
                (fun location hin => ahead_put_left (hahead' location hin) hroot hdirectory)
                (hclear'.put hroot) (.inr hbehind : made' = true ∨ _)
              rw [hdirectory]
              exact ⟨hresult,
                (OpensBeside.put hmem hnode (.inr ⟨rfl, hdirectory⟩)).trans (hopens.mono hsubset)⟩
          · have hsame := (hahead _ hmem).resolve_right fun h => by rw [hnode] at h; cases h.1
            obtain ⟨hresult, hopens⟩ := ih hsame hahead' hclear' hmade'
            rw [hsame, hnode]
            exact ⟨hresult, hopens.mono hsubset⟩
          · have hsame := (hahead _ hmem).resolve_right fun h => by rw [hnode] at h; cases h.1
            -- Only at a file does it matter whether a directory was made before.
            rcases hmade with rfl | hnofile
            · rw [hsame, hnode]
              exact ⟨rfl, .refl _ _ _⟩
            · exact absurd hnode (hnofile _ hmem mode content)

/-- Making a directory and those on the way to it does the same in two trees of which the second one
may be ahead. -/
theorem createDirAll_beside (hworkingDir : s.workingDir = t.workingDir)
    (hstart : s.get? (t.startOf path) = t.get? (t.startOf path))
    (hahead : ∀ location ∈ t.way path, Ahead t s location) (hclear : Clear t (t.way path)) :
    (s.createDirAll path).2 = (t.createDirAll path).2 ∧
      OpensBeside (t.way path) t (t.createDirAll path).1 s (s.createDirAll path).1 := by
  unfold createDirAll
  cases path.isEmpty with
  | true => exact ⟨rfl, .refl _ _ _⟩
  | false =>
      rw [if_neg Bool.false_ne_true, if_neg Bool.false_ne_true]
      cases partsOf path with
      | error fault => exact ⟨rfl, .refl _ _ _⟩
      | ok parts =>
          rw [startOf_congr hworkingDir]
          exact createAlong_beside hstart hahead hclear (.inl rfl)

end FileTree

/-! ## Extraction -/

namespace Extraction

open FileTree

variable {t s : FileTree} {base name : String}

/-- What is done with an entry of a regular file. -/
theorem take_of_regular {entry : Archive.Entry}
    (hkind : entry.header.kind = .regular ∨ entry.header.kind = .contiguous) (dest : String)
    (state : State) :
    take dest state entry =
      if state.2.isSome then (state, .error (Fault.furtherEntry entry.name).toFailure)
      else
        match state.1.write dest entry.content with
        | .error fault => (state, .error (.io fault))
        | .ok written =>
          match written.setMode dest BuildContext.artifactMode with
          | .error fault => ((written, none), .error (.io fault))
          | .ok files => ((files, some entry.content.length), .ok ()) := by
  unfold take
  rcases hkind with hkind | hkind <;> exact hkind ▸ rfl

section Beside

variable (hname : HostPath.Ordinary name) (h : Agree (t.way (HostPath.join base name)) t s)
include hname h

/-- An entry of a regular file is written in both trees alike. -/
theorem take_regular_congr (written : Option Nat) {entry : Archive.Entry}
    (hkind : entry.header.kind = .regular ∨ entry.header.kind = .contiguous) :
    let taken := take (HostPath.join base name) (t, written) entry
    let taken' := take (HostPath.join base name) (s, written) entry
    taken'.2 = taken.2 ∧ taken'.1.2 = taken.1.2 ∧
      Alike (t.target base ++ [name]) t taken.1.1 s taken'.1.1 := by
  have hroot : t.target base ++ [name] ≠ [] := by simp
  have hrefl : Alike (t.target base ++ [name]) t t s s :=
    .refl (h.get? _ ((mem_way_join hname).mpr (.inr rfl)))
  simp only [take_of_regular hkind]
  cases written with
  | some size => exact ⟨rfl, rfl, hrefl⟩
  | none =>
      simp only [Option.isSome_none, Bool.false_eq_true, if_false]
      rcases write_congr hname entry.content h with ⟨fault, ht, hs⟩ | ⟨node, ht, hs⟩
      · rw [ht, hs]
        exact ⟨rfl, rfl, hrefl⟩
      rw [ht, hs]
      have hput : Alike (t.target base ++ [name]) t (t.put (t.target base ++ [name]) node) s
          (s.put (t.target base ++ [name]) node) := .put hroot node
      have htarget : (t.put (t.target base ++ [name]) node).target (HostPath.join base name) =
          t.target base ++ [name] := (target_congr workingDir_put).trans (target_join hname)
      have hagree := hput.agree h
      -- Writing the file changes no way, so its permissions are set at the same location.
      have hway : (t.put (t.target base ++ [name]) node).way (HostPath.join base name) =
          t.way (HostPath.join base name) := way_congr workingDir_put
      rw [← hway] at hagree
      dsimp only
      rcases setMode_congr (by rw [htarget]; exact hroot) BuildContext.artifactMode hagree with
        ⟨fault, ht, hs⟩ | ⟨t', s', ht, hs, halike⟩
      · rw [ht, hs]
        exact ⟨rfl, rfl, hput⟩
      · rw [ht, hs]
        rw [htarget] at halike
        exact ⟨rfl, rfl, hput.trans halike⟩

theorem take_congr (written : Option Nat) (entry : Archive.Entry) :
    let taken := take (HostPath.join base name) (t, written) entry
    let taken' := take (HostPath.join base name) (s, written) entry
    taken'.2 = taken.2 ∧ taken'.1.2 = taken.1.2 ∧
      Alike (t.target base ++ [name]) t taken.1.1 s taken'.1.1 := by
  have hrefl : Alike (t.target base ++ [name]) t t s s :=
    .refl (h.get? _ ((mem_way_join hname).mpr (.inr rfl)))
  cases hkind : entry.header.kind with
  | regular => exact take_regular_congr hname h written (.inl hkind)
  | contiguous => exact take_regular_congr hname h written (.inr hkind)
  | _ =>
      simp only [take, hkind]
      exact ⟨trivial, trivial, hrefl⟩

omit hname h in
/-- Entries are taken in both trees alike. -/
theorem takeAll_congr (hname : HostPath.Ordinary name)
    (h : Agree (t.way (HostPath.join base name)) t s) (written : Option Nat)
    (entries : List Archive.Entry) :
    let taken := takeAll (HostPath.join base name) (t, written) entries
    let taken' := takeAll (HostPath.join base name) (s, written) entries
    taken'.2 = taken.2 ∧ taken'.1.2 = taken.1.2 ∧
      Alike (t.target base ++ [name]) t taken.1.1 s taken'.1.1 := by
  induction entries generalizing t s written with
  | nil => exact ⟨rfl, rfl, .refl (h.get? _ ((mem_way_join hname).mpr (.inr rfl)))⟩
  | cons entry entries ih =>
      obtain ⟨hresult, hwritten, halike⟩ := take_congr hname h written entry
      simp only [takeAll]
      rcases ht : take (HostPath.join base name) (t, written) entry with ⟨⟨t', size⟩, failure | _⟩
      all_goals
        rcases hs : take (HostPath.join base name) (s, written) entry with ⟨⟨s', size'⟩, result⟩
        rw [ht, hs] at hresult hwritten halike
        dsimp only at hresult hwritten halike
        subst hresult hwritten
      · exact ⟨rfl, rfl, halike⟩
      · have hagree := halike.agree h
        rw [← way_congr halike.workingDir] at hagree
        obtain ⟨hresult, hwritten, hrest⟩ := ih hagree size'
        rw [target_congr halike.workingDir] at hrest
        exact ⟨hresult, hwritten, halike.trans hrest⟩

/-- An archive is extracted in both trees alike. -/
theorem extract_congr (archive : List UInt8) :
    let extracted := extract archive (HostPath.join base name) t
    let extracted' := extract archive (HostPath.join base name) s
    extracted'.2 = extracted.2 ∧
      Alike (t.target base ++ [name]) t extracted.1 s extracted'.1 := by
  rcases hentries : Archive.entries archive with ⟨entries, fault⟩
  obtain ⟨hresult, hwritten, halike⟩ := takeAll_congr hname h none entries
  simp only [extract, hentries]
  rcases ht : takeAll (HostPath.join base name) (t, none) entries with ⟨⟨t', size⟩, failure | _⟩
  all_goals
    rcases hs : takeAll (HostPath.join base name) (s, none) entries with ⟨⟨s', size'⟩, result⟩
    rw [ht, hs] at hresult hwritten halike
    dsimp only at hresult hwritten halike
    subst hresult hwritten
  · exact ⟨rfl, halike⟩
  · cases fault with
    | some fault => exact ⟨rfl, halike⟩
    | none =>
        cases size' with
        | some size => exact ⟨rfl, halike⟩
        | none => exact ⟨rfl, halike⟩

end Beside

end Extraction

end SealedBuild
