import Mathlib.Logic.Function.Basic
import SealedBuild.Proofs.Files.Agreement

/-!
# The directories of several runs

Runs stage in directories of their own below one staging directory, and each makes the way to it
when it needs it. The files that they share are seen beside the files that one of them would have
if it were alone: below its own directory they are the same, and on the way to the staging
directory the shared ones may be ahead. What a run does about its own directory is then the same in
both.
-/

namespace SealedBuild.FileTree

variable {start t t' s s' : FileTree} {location : List String} {base short name : String}
  {made : Bool}

/-! ## Ways that lead forward -/

variable {files : FileTree} {earlier later : List String}

/-- Nothing is behind a missing location. -/
theorem Grounded.missing (h : files.Grounded) (hbehind : earlier <+: later)
    (hmissing : files.get? earlier = none) : files.get? later = none := by
  obtain ⟨rest, rfl⟩ := hbehind
  induction rest using List.reverseRecOn with
  | nil => rwa [List.append_nil]
  | append_singleton rest name ih =>
      by_contra hnode
      rw [← List.append_assoc] at hnode
      rw [h _ _ hnode] at ih
      cases ih

/-- Without double dots a way leads forward. -/
theorem pairwise_scanl {names : List String} (hnames : ∀ name ∈ names, HostPath.isIdle name = false)
    (hplain : ".." ∉ names) (here : List String) :
    (names.scanl follow here).Pairwise (· <+: ·) := by
  induction names generalizing here with
  | nil => exact List.pairwise_singleton _ _
  | cons name names ih =>
      have hname : follow here name = here ++ [name] := by
        have hidle := hnames name List.mem_cons_self
        simp only [HostPath.isIdle, Bool.or_eq_false_iff, beq_eq_false_iff_ne] at hidle
        rw [follow, if_neg fun h : name = ".." => hplain (h ▸ List.mem_cons_self),
          if_neg (by simp [hidle])]
      have htail := ih (fun name h => hnames name (List.mem_cons_of_mem _ h))
        (fun h => hplain (List.mem_cons_of_mem _ h)) (here ++ [name])
      obtain ⟨rest, hrest⟩ := scanl_eq_cons (here ++ [name]) names
      rw [List.scanl_cons, hname]
      rw [hrest] at htail ⊢
      refine List.pairwise_cons.mpr ⟨fun later hlater => ?_, htail⟩
      have hfirst : here <+: here ++ [name] := List.prefix_append _ _
      rcases List.mem_cons.mp hlater with rfl | hlater
      · exact hfirst
      · exact hfirst.trans ((List.pairwise_cons.mp htail).1 later hlater)

/-! ## Own directories -/

/-- The files of a run that is alone, between two of its steps. `made` tells that its directory is
there. While it is not and the way to it is broken off, nothing is at its place. -/
structure Alone (start : FileTree) (base short : String) (made : Bool) (t : FileTree) : Prop where
  workingDir : t.workingDir = start.workingDir
  origin : t.get? (start.startOf base) = start.get? (start.startOf base)
  outside : ∀ location, ¬ start.place base short <+: location →
    t.get? location = start.get? location ∨
      location ∈ start.way base ∧ start.get? location = none ∧ t.get? location = some .directory
  found : made = true → t.find (HostPath.join base short) = .ok .directory
  vacant : made = false → ∀ earlier ∈ start.way base, start.get? earlier = none →
    ∀ location, start.place base short <+: location → t.get? location = none

/-- The files that runs share, beside those that one of them would have alone. -/
structure Beside (start : FileTree) (base short : String) (t s : FileTree) : Prop where
  workingDir : s.workingDir = t.workingDir
  origin : s.get? (start.startOf base) = t.get? (start.startOf base)
  ahead : ∀ location ∈ start.way base, Ahead t s location
  own : ∀ location, start.place base short <+: location → s.get? location = t.get? location

/-- A step that a run makes on the shared files and on its own ones alike. -/
structure Parallel (start : FileTree) (base short : String) (t t' s s' : FileTree) : Prop where
  workingDir : t'.workingDir = t.workingDir
  workingDir' : s'.workingDir = s.workingDir
  own : ∀ location, start.place base short <+: location → s'.get? location = t'.get? location
  outside : ∀ location, ¬ start.place base short <+: location →
    t'.get? location = t.get? location ∧ s'.get? location = s.get? location ∨
      location ∈ start.way base ∧ t.get? location = none ∧ t'.get? location = some .directory ∧
        s'.get? location = some .directory

theorem Parallel.refl (h : start.Beside base short t s) : start.Parallel base short t t s s :=
  ⟨rfl, rfl, h.own, fun _ _ => .inl ⟨rfl, rfl⟩⟩

namespace Alone

variable (h : start.Alone base short made t)
include h

theorem way_eq (path : String) : t.way path = start.way path :=
  way_congr h.workingDir

theorem target_eq (path : String) : t.target path = start.target path :=
  target_congr h.workingDir

variable (hapart : ∀ location ∈ start.way base, ¬ start.place base short <+: location)
include hapart

/-- What was there on the way is there. -/
theorem kept_on_way (hmem : location ∈ start.way base) {node : FileNode}
    (hnode : start.get? location = some node) : t.get? location = some node := by
  rcases h.outside location (hapart location hmem) with hsame | ⟨-, hmissing, -⟩
  · rw [hsame, hnode]
  · rw [hmissing] at hnode
    cases hnode

theorem missing_on_way (hmem : location ∈ start.way base) (hmissing : t.get? location = none) :
    start.get? location = none := by
  cases hnode : start.get? location with
  | none => rfl
  | some node =>
      rw [h.kept_on_way hapart hmem hnode] at hmissing
      cases hmissing

/-- No file is behind a missing location on the way to the run's own directory. -/
theorem clear_own (hmade : made = false) (hshort : HostPath.Ordinary short)
    (hclear : Clear start (start.way base)) :
    Clear t (t.way (HostPath.join base short)) := by
  rw [h.way_eq, way_join hshort]
  refine List.pairwise_append.mpr ⟨?_, List.pairwise_singleton _ _, ?_⟩
  · refine hclear.imp_of_mem fun {earlier later} hearlier hlater => ?_
    intro hbehind hmissing mode content hfile
    refine hbehind (h.missing_on_way hapart hearlier hmissing) mode content ?_
    rcases h.outside later (hapart later hlater) with hsame | ⟨-, -, hdirectory⟩
    · rw [← hsame, hfile]
    · rw [hfile] at hdirectory
      cases hdirectory
  · -- While the way is broken off, nothing is at its end.
    intro earlier hearlier later hlater hmissing mode content hfile
    obtain rfl := List.mem_singleton.mp hlater
    have hnone := h.vacant hmade earlier hearlier (h.missing_on_way hapart hearlier hmissing)
      (start.place base short) List.prefix_rfl
    rw [place, hfile] at hnone
    cases hnone

/-- Where the way is whole or the run's directory is there, both trees agree along its path. -/
theorem agree_own (hbeside : start.Beside base short t s) (hshort : HostPath.Ordinary short)
    (hwhole : made = true ∨ ∀ location ∈ start.way base, start.get? location ≠ none) :
    Agree (t.way (HostPath.join base short)) t s := by
  refine ⟨hbeside.workingDir, fun location hmem => ?_⟩
  have hpresent : location ∈ start.way base → t.get? location ≠ none := by
    intro hway hmissing
    rcases hwhole with hmade | hwhole
    · rw [directory_of_mem_way (h.found hmade) hmem] at hmissing
      cases hmissing
    · exact hwhole location hway (h.missing_on_way hapart hway hmissing)
  rw [h.way_eq, mem_way_join hshort] at hmem
  rcases hmem with hway | rfl
  · exact (hbeside.ahead location hway).resolve_right fun hahead => hpresent hway hahead.1
  · exact hbeside.own _ List.prefix_rfl

/-- A step alike on both trees, away from the start of the way, leaves the run's files such as those
of a run that is alone. -/
theorem of_parallel {made' : Bool} (hparallel : start.Parallel base short t t' s s')
    (horigin : t'.get? (start.startOf base) = t.get? (start.startOf base))
    (hfound : made' = true → t'.find (HostPath.join base short) = .ok .directory)
    (hvacant : made' = false → ∀ earlier ∈ start.way base, start.get? earlier = none →
      ∀ location, start.place base short <+: location → t'.get? location = none) :
    start.Alone base short made' t' where
  workingDir := hparallel.workingDir.trans h.workingDir
  origin := horigin.trans h.origin
  outside location houtside := by
    rcases hparallel.outside location houtside with ⟨hsame, -⟩ | ⟨hmem, hmissing, hdirectory, -⟩
    · rw [hsame]
      exact h.outside location houtside
    · exact .inr ⟨hmem, h.missing_on_way hapart hmem hmissing, hdirectory⟩
  found := hfound
  vacant := hvacant

end Alone

/-! ## Steps about the run's own directory -/

/-- Where the way cannot be entered, nothing is made. -/
theorem createDirAll_of_missing (hshort : HostPath.Ordinary short)
    (h : t.get? (t.startOf base) = none) : (t.createDirAll (HostPath.join base short)).1 = t := by
  unfold createDirAll
  rw [join_ne_empty hshort, if_neg Bool.false_ne_true, names_join hshort, startOf_join hshort]
  cases partsOf (HostPath.join base short) with
  | error fault => rfl
  | ok parts =>
      obtain ⟨name, rest, hnames⟩ :=
        List.exists_cons_of_ne_nil (List.append_ne_nil_of_right_ne_nil (HostPath.names base)
          (List.cons_ne_nil short []))
      rw [hnames]
      dsimp only
      rw [createAlong, enter, h]

theorem removeDirAll_of_vacant {path : String} (h : t.get? (t.target path) = none) :
    ∃ fault, t.removeDirAll path = .error fault := by
  rcases hfind : t.find path with fault | - | ⟨mode, content⟩
  · exact ⟨fault, removeDirAll_of_missing hfind⟩
  · rw [(find_eq_ok_iff.mp hfind).2] at h
    cases h
  · exact ⟨_, removeDirAll_of_file hfind⟩

theorem parallel_of_prune (start t s : FileTree) (base short : String) :
    start.Parallel base short t (t.prune (start.place base short)) s
      (s.prune (start.place base short)) where
  workingDir := rfl
  workingDir' := rfl
  own location hown := by
    have hroot := place_ne_nil start base short
    rw [get?_prune hroot, get?_prune hroot, if_pos hown, if_pos hown]
  outside location houtside := by
    have hroot := place_ne_nil start base short
    rw [get?_prune hroot, get?_prune hroot, if_neg houtside, if_neg houtside]
    exact .inl ⟨rfl, rfl⟩

/-- Where the way has not been made and is broken off, there is nothing to drop. -/
theorem removeDirAll_of_broken (halone : start.Alone base short made t) {path : String}
    (hmade : made = false)
    (hbroken : ¬ ∀ location ∈ start.way base, start.get? location ≠ none)
    (hown : ∀ location, start.place base short <+: location → s.get? location = t.get? location)
    (htarget : s.target path = start.place base short) :
    ∃ fault, s.removeDirAll path = .error fault := by
  simp only [Classical.not_forall, not_not] at hbroken
  obtain ⟨earlier, hearlier, hmissing⟩ := hbroken
  refine removeDirAll_of_vacant ?_
  rw [htarget, hown _ List.prefix_rfl]
  exact halone.vacant hmade earlier hearlier hmissing _ List.prefix_rfl

section Steps

variable (halone : start.Alone base short made t) (hbeside : start.Beside base short t s)
  (hapart : ∀ location ∈ start.way base, ¬ start.place base short <+: location)
  (hshort : HostPath.Ordinary short)
include hbeside

theorem parallel_of_alike (hname : location = start.place base short ++ [name])
    (h : Alike location t t' s s') : start.Parallel base short t t' s s' where
  workingDir := h.workingDir
  workingDir' := h.workingDir'
  own other hown := by
    by_cases hother : other = location
    · rw [hother, h.same]
    · rw [(h.kept other hother).1, (h.kept other hother).2, hbeside.own other hown]
  outside other houtside := by
    refine .inl (h.kept other ?_)
    rintro rfl
    exact houtside (hname ▸ List.prefix_append _ _)

include halone

theorem parallel_of_opens (hshort : HostPath.Ordinary short)
    (h : OpensBeside (t.way (HostPath.join base short)) t t' s s') :
    start.Parallel base short t t' s s' where
  workingDir := h.workingDir
  workingDir' := h.workingDir'
  own location hown := by
    rcases h.get? location with ⟨ht, hs⟩ | ⟨-, -, ht, hs⟩
    · rw [ht, hs, hbeside.own location hown]
    · rw [ht, hs]
  outside location houtside := by
    refine (h.get? location).imp_right fun ⟨hmem, hmade⟩ => ⟨?_, hmade⟩
    rw [halone.way_eq, mem_way_join hshort] at hmem
    exact hmem.resolve_right fun heq => houtside (heq ▸ List.prefix_rfl)

include hapart hshort

/-- Making the directory. -/
theorem createDirAll_parallel (hmade : made = false) (hclear : Clear start (start.way base)) :
    let path := HostPath.join base short
    (s.createDirAll path).2 = (t.createDirAll path).2 ∧
      start.Parallel base short t (t.createDirAll path).1 s (s.createDirAll path).1 ∧
      start.Alone base short (t.createDirAll path).2.toBool (t.createDirAll path).1 := by
  intro path
  have hstart : t.startOf path = start.startOf base :=
    (startOf_join hshort).trans (startOf_congr halone.workingDir)
  have hahead : ∀ location ∈ t.way path, Ahead t s location := by
    intro location hmem
    rw [halone.way_eq, mem_way_join hshort] at hmem
    rcases hmem with hway | rfl
    · exact hbeside.ahead location hway
    · exact .inl (hbeside.own _ List.prefix_rfl)
  obtain ⟨hresult, hopens⟩ := createDirAll_beside hbeside.workingDir
    (by rw [hstart]; exact hbeside.origin) hahead (halone.clear_own hapart hmade hshort hclear)
  have hparallel := parallel_of_opens halone hbeside hshort hopens
  refine ⟨hresult, hparallel, halone.of_parallel hapart hparallel ?_ ?_ ?_⟩
  · have hmem := startOf_mem_way start base
    rcases hparallel.outside _ (hapart _ hmem) with ⟨hsame, -⟩ | ⟨-, hmissing, -⟩
    · exact hsame
    · rw [← startOf_congr halone.workingDir] at hmissing
      rw [createDirAll_of_missing hshort hmissing]
  -- The result tells whether the directory has been made.
  all_goals
    have hcall : t.createDirAll path = ((t.createDirAll path).1, (t.createDirAll path).2) := rfl
    obtain ⟨opened, hmaking, hend⟩ := opens_createDirAll hshort hcall
    intro htold
    rcases hend with ⟨⟨fault, hfault⟩, hopened⟩ | ⟨hok, -, hfound⟩
  · rw [hfault] at htold
    cases htold
  · exact hfound
  · intro earlier hearlier hmissing location hown
    rw [hopened, hmaking.unchanged, halone.vacant hmade earlier hearlier hmissing location hown]
    rw [halone.way_eq]
    exact fun hmem => hapart location hmem hown
  · rw [hok] at htold
    cases htold

/-- Dropping the directory. -/
theorem removeDirAll_parallel :
    let path := HostPath.join base short
    let dropped := (t.removeDirAll path).toOption.getD t
    start.Parallel base short t dropped s ((s.removeDirAll path).toOption.getD s) ∧
      start.Alone base short false dropped := by
  intro path dropped
  have htarget : t.target path = start.place base short := by
    rw [target_join hshort, halone.target_eq, place]
  have htarget' : s.target path = start.place base short :=
    (target_congr hbeside.workingDir).trans htarget
  have hroot := place_ne_nil start base short
  have herrors (hmade : made = false) (ht : ∃ fault, t.removeDirAll path = .error fault)
      (hs : ∃ fault, s.removeDirAll path = .error fault) :
      start.Parallel base short t dropped s ((s.removeDirAll path).toOption.getD s) ∧
        start.Alone base short false dropped := by
    obtain ⟨fault, ht⟩ := ht
    obtain ⟨fault', hs⟩ := hs
    have hdropped : dropped = t := by simp only [dropped, ht]; rfl
    rw [hdropped, hs, ← hmade]
    exact ⟨.refl hbeside, halone⟩
  -- Along a whole way both trees agree. At the end of a broken one there is nothing in either.
  by_cases hwhole : made = true ∨ ∀ location ∈ start.way base, start.get? location ≠ none
  · rcases removeDirAll_congr (halone.agree_own hapart hbeside hshort hwhole) with
      ⟨ht, hs⟩ | ⟨ht, hs⟩
    · have hdropped : dropped = t.prune (start.place base short) := by
        simp only [dropped, path, ht, ← htarget]
        rfl
      have hparallel := parallel_of_prune start t s base short
      rw [hdropped, hs, htarget]
      refine ⟨hparallel, halone.of_parallel hapart hparallel ?_
        (fun hmade => absurd hmade Bool.false_ne_true) ?_⟩
      · rw [get?_prune hroot, if_neg (hapart _ (startOf_mem_way start base))]
      · intro _ _ _ _ location hown
        rw [get?_prune hroot, if_pos hown]
    · refine herrors ?_ ht hs
      cases made with
      | false => rfl
      | true =>
          obtain ⟨fault, ht⟩ := ht
          rw [removeDirAll_of_find (halone.found rfl)] at ht
          cases ht
  · rw [not_or, Bool.not_eq_true] at hwhole
    obtain ⟨hmade, hbroken⟩ := hwhole
    refine herrors hmade ?_ ?_
    · exact removeDirAll_of_broken halone hmade hbroken (fun _ _ => rfl) htarget
    · exact removeDirAll_of_broken halone hmade hbroken hbeside.own htarget'

theorem agree_artifact (hmade : made = true) (hname : HostPath.Ordinary name) :
    Agree (t.way (HostPath.join (HostPath.join base short) name)) t s := by
  have hagree := halone.agree_own hapart hbeside hshort (.inl hmade)
  refine ⟨hagree.workingDir, fun location hmem => ?_⟩
  rcases (mem_way_join hname).mp hmem with hway | rfl
  · exact hagree.get? location hway
  · refine hbeside.own _ ?_
    rw [target_join hshort, halone.target_eq]
    exact List.prefix_append _ _

/-- Looking at the artifact. -/
theorem find_artifact (hmade : made = true) (hname : HostPath.Ordinary name) :
    s.find (HostPath.join (HostPath.join base short) name) =
      t.find (HostPath.join (HostPath.join base short) name) :=
  find_congr (agree_artifact halone hbeside hapart hshort hmade hname)

/-- Extracting the artifact. -/
theorem extract_parallel (hmade : made = true) (hname : HostPath.Ordinary name)
    (archive : List UInt8) :
    let path := HostPath.join (HostPath.join base short) name
    let extracted := Extraction.extract archive path t
    let extracted' := Extraction.extract archive path s
    extracted'.2 = extracted.2 ∧
      start.Parallel base short t extracted.1 s extracted'.1 ∧
      start.Alone base short true extracted.1 := by
  intro path extracted extracted'
  have hagree := agree_artifact halone hbeside hapart hshort hmade hname
  obtain ⟨hresult, halike⟩ := Extraction.extract_congr hname hagree archive
  have htarget : t.target (HostPath.join base short) ++ [name] =
      start.place base short ++ [name] := by
    rw [target_join hshort, halone.target_eq, place]
  have hoff (location : List String) (hmem : location ∈ start.way (HostPath.join base short)) :
      location ≠ t.target (HostPath.join base short) ++ [name] := by
    rw [htarget]
    rintro rfl
    rcases (mem_way_join hshort).mp hmem with hway | heq
    · exact hapart _ hway (List.prefix_append _ _)
    · simp [place] at heq
  have hparallel := parallel_of_alike hbeside htarget halike
  refine ⟨hresult, hparallel, halone.of_parallel hapart hparallel ?_ (fun _ => ?_)
    fun hmade => absurd hmade.symm Bool.false_ne_true⟩
  · exact (halike.kept _ (hoff _ ((mem_way_join hshort).mpr (.inl (startOf_mem_way start base))))).1
  · rw [← halone.found hmade]
    refine find_congr ⟨halike.workingDir, fun location hmem => ?_⟩
    rw [halone.way_eq] at hmem
    exact (halike.kept location (hoff location hmem)).1

end Steps

/-! ## The files of all runs together -/

/-- Shared files have below each run's own directory what that run would have there alone, and
elsewhere what was there at the start or what any of them has made. -/
structure Merged {ι : Type} (start : FileTree) (base : String) (shorts : ι → String)
    (trees : ι → FileTree) (shared : FileTree) : Prop where
  workingDir : shared.workingDir = start.workingDir
  own : ∀ i location, start.place base (shorts i) <+: location →
    shared.get? location = (trees i).get? location
  outside : ∀ location, (∀ i, ¬ start.place base (shorts i) <+: location) → ∀ node,
    shared.get? location = some node ↔
      start.get? location = some node ∨ ∃ i, (trees i).get? location = some node

namespace Merged

variable {ι : Type} {shorts : ι → String} {trees : ι → FileTree} {shared shared' : FileTree}
  {mades : ι → Bool}

theorem refl (start : FileTree) (base : String) (shorts : ι → String) :
    start.Merged base shorts (fun _ => start) start where
  workingDir := rfl
  own _ _ _ := rfl
  outside _ _ _ := ⟨.inl, fun h => h.elim id fun ⟨_, h⟩ => h⟩

/-- What each run has alone settles what they have together. -/
theorem get?_eq (h : start.Merged base shorts trees shared)
    (h' : start.Merged base shorts trees shared') (location : List String) :
    shared.get? location = shared'.get? location := by
  by_cases hown : ∃ i, start.place base (shorts i) <+: location
  · obtain ⟨i, hown⟩ := hown
    rw [h.own i location hown, h'.own i location hown]
  · have houtside := not_exists.mp hown
    exact Option.ext fun node => (h.outside location houtside node).trans
      (h'.outside location houtside node).symm

variable (h : start.Merged base shorts trees shared)
  (halone : ∀ i, start.Alone base (shorts i) (mades i) (trees i))
  (hapart : ∀ i, ∀ location ∈ start.way base, ¬ start.place base (shorts i) <+: location)
include h halone hapart

/-- The shared files are beside those of each run. -/
theorem beside (i : ι) : start.Beside base (shorts i) (trees i) shared where
  workingDir := h.workingDir.trans (halone i).workingDir.symm
  origin := by
    have hmem := startOf_mem_way start base
    refine Option.ext fun node => (h.outside _ (fun j => hapart j _ hmem) node).trans ?_
    rw [(halone i).origin]
    exact ⟨fun hnode => hnode.elim id fun ⟨j, hnode⟩ => (halone j).origin ▸ hnode, .inl⟩
  ahead location hmem := by
    have houtside := h.outside location fun j => hapart j location hmem
    cases hnode : (trees i).get? location with
    | some node => exact .inl (((houtside node).mpr (.inr ⟨i, hnode⟩)).trans hnode.symm)
    | none =>
        -- What this run misses on the way has been made by another one, as a directory.
        have hmissing := (halone i).missing_on_way (hapart i) hmem hnode
        cases hshared : shared.get? location with
        | none => exact .inl (hshared.trans hnode.symm)
        | some node =>
            rcases (houtside node).mp hshared with hstart | ⟨j, hother⟩
            · rw [hmissing] at hstart
              cases hstart
            · rcases (halone j).outside location (hapart j location hmem) with
                hsame | ⟨-, -, hdirectory⟩
              · rw [hsame, hmissing] at hother
                cases hother
              · rw [hdirectory] at hother
                exact .inr ⟨hnode, hshared.trans hother.symm⟩
  own := h.own i

/-- A step of one run that is alike on its own files and on the shared ones. -/
theorem step [DecidableEq ι] (hdistinct : Function.Injective shorts) {i : ι} {t' : FileTree}
    (hparallel : start.Parallel base (shorts i) (trees i) t' shared shared') :
    start.Merged base shorts (Function.update trees i t') shared' where
  workingDir := hparallel.workingDir'.trans h.workingDir
  own j location hown := by
    by_cases hj : j = i
    · subst hj
      rw [Function.update_self, hparallel.own location hown]
    · rw [Function.update_of_ne hj, ← h.own j location hown]
      -- Places of different runs are of one length, so none of them is below another.
      have houtside : ¬ start.place base (shorts i) <+: location := by
        intro hboth
        have hplace : start.place base (shorts i) = start.place base (shorts j) :=
          (List.prefix_of_prefix_length_le hboth hown (by simp [place])).eq_of_length
            (by simp [place])
        have hshort : shorts i = shorts j := by simpa [place] using hplace
        exact hj (hdistinct hshort).symm
      rcases hparallel.outside location houtside with ⟨-, hsame⟩ | ⟨hmem, -⟩
      · exact hsame
      · exact (hapart j location hmem hown).elim
  outside location houtside node := by
    have hbefore := h.outside location houtside node
    rcases hparallel.outside location (houtside i) with ⟨ht, hs⟩ | ⟨hmem, hmissing, ht, hs⟩
    · rw [hs, hbefore]
      refine or_congr_right (exists_congr fun j => ?_)
      by_cases hj : j = i
      · subst hj
        rw [Function.update_self, ht]
      · rw [Function.update_of_ne hj]
    · rw [hs]
      constructor
      · intro hnode
        exact .inr ⟨i, by rw [Function.update_self, ht, hnode]⟩
      · have hnone := (halone i).missing_on_way (hapart i) hmem hmissing
        rintro (hstart | ⟨j, hnode⟩)
        · rw [hnone] at hstart
          cases hstart
        · by_cases hj : j = i
          · subst hj
            rwa [Function.update_self, ht] at hnode
          · rw [Function.update_of_ne hj] at hnode
            rcases (halone j).outside location (houtside j) with hsame | ⟨-, -, hdirectory⟩
            · rw [hsame, hnone] at hnode
              cases hnode
            · rwa [hdirectory] at hnode

end Merged

end SealedBuild.FileTree
