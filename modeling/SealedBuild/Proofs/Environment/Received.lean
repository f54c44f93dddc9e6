import Mathlib.Data.List.Nodup
import Mathlib.Data.List.TakeWhile
import SealedBuild.Engine.Containers
import SealedBuild.Proofs.Collection.VarMap
import SealedBuild.Proofs.Definition
import SealedBuild.Proofs.Text.Cuts

/-!
# The environment that a container receives

A container is given its variables as assignments, and reads a name up to the first equals
sign. The names of a declaration may hold that sign themselves, and a check of the whole names
does not see what is read. The variables that follow from the flags are received as they are
meant exactly when no further name is read as one of them.
-/

namespace SealedBuild

namespace Text

theorem cutFirst_append (separator : Char) (front rest : List Char) :
    ∃ more, cutFirst separator (front ++ separator :: rest) =
      some (front.takeWhile (· ≠ separator), more) := by
  induction front with
  | nil => exact ⟨rest, by simp [cutFirst]⟩
  | cons c front ih =>
      obtain ⟨more, ih⟩ := ih
      by_cases hc : c = separator
      · exact ⟨front ++ separator :: rest, by simp [cutFirst, hc]⟩
      · exact ⟨more, by simp [cutFirst, hc, ih]⟩

end Text

namespace VarMap

/-- The name and the value that an assignment is read as. -/
def reading (assignment : String) : String × String :=
  match Text.cutFirst '=' assignment.toList with
  | some (name, value) => (String.ofList name, String.ofList value)
  | none => (assignment, "")

/-- What a name is read as. -/
def readName (name : String) : String :=
  String.ofList (name.toList.takeWhile (· ≠ '='))

theorem reading_fst (name value : String) :
    (reading (name ++ "=" ++ value)).1 = readName name := by
  obtain ⟨more, hcut⟩ := Text.cutFirst_append '=' name.toList value.toList
  have htext : (name ++ "=" ++ value).toList = name.toList ++ '=' :: value.toList := by simp
  rw [reading, htext, hcut]
  rfl

theorem reading_of_not_mem {name : String} (hname : '=' ∉ name.toList) (value : String) :
    reading (name ++ "=" ++ value) = (name, value) := by
  have htext : (name ++ "=" ++ value).toList = name.toList ++ '=' :: value.toList := by simp
  rw [reading, htext, Text.cutFirst_append_cons hname]
  simp

theorem not_mem_readName (name : String) : '=' ∉ (readName name).toList := by
  rw [readName, String.toList_ofList]
  intro hmem
  have hne := List.mem_takeWhile_imp hmem
  simp at hne

theorem readName_of_not_mem {name : String} (hname : '=' ∉ name.toList) :
    readName name = name := by
  have hall : name.toList.takeWhile (· ≠ '=') = name.toList := by
    rw [List.takeWhile_eq_self_iff]
    intro c hc
    exact decide_eq_true (ne_of_mem_of_not_mem hc hname)
  rw [readName, hall, String.ofList_toList]

theorem readName_readName (name : String) : readName (readName name) = readName name :=
  readName_of_not_mem (not_mem_readName name)

/-- What the assignments of a map are read as. -/
theorem map_reading_fst (m : VarMap) :
    m.assignments.map (fun assignment => (reading assignment).1) = m.names.map readName := by
  simp [assignments, names, Function.comp_def, reading_fst]

theorem mem_map_reading {m : VarMap} {name value : String} (hname : '=' ∉ name.toList)
    (h : (name, value) ∈ m.entries) : (name, value) ∈ m.assignments.map reading := by
  rw [assignments, List.map_map, List.mem_map]
  exact ⟨_, h, reading_of_not_mem hname value⟩

end VarMap

namespace BuildEnvironment

variable {e : BuildEnvironment}

/-- The variable that selects one way of linking the cryptography library. -/
def linkageVariable (e : BuildEnvironment) (static : Bool) : String :=
  e.crypto.variableStem ++ if static then "_STATIC" else "_DYNAMIC"

/-- What is read from some assignments agrees with the flags and the linkage. -/
structure Received (e : BuildEnvironment) (assignments : List String) : Prop where
  once : (assignments.map fun assignment => (VarMap.reading assignment).1).Nodup
  strip : e.flags.strip = true → ("RUSTFLAGS", stripFlag) ∈ assignments.map VarMap.reading
  targetDir : ("CARGO_TARGET_DIR", targetDir) ∈ assignments.map VarMap.reading
  libDir : ∀ dir ∈ e.crypto.libDir,
    (e.crypto.variableStem ++ "_LIB_DIR", dir) ∈ assignments.map VarMap.reading
  includeDir : ∀ dir ∈ e.crypto.includeDir,
    (e.crypto.variableStem ++ "_INCLUDE_DIR", dir) ∈ assignments.map VarMap.reading
  selected : (e.linkageVariable e.flags.staticCrypto, "1") ∈ assignments.map VarMap.reading
  unselected :
    e.linkageVariable (!e.flags.staticCrypto) ∉
      assignments.map fun assignment => (VarMap.reading assignment).1

/-- No further name is read as a variable that follows from the flags. -/
structure Undisturbed (e : BuildEnvironment) : Prop where
  library : '=' ∉ e.crypto.library.toList
  once : (e.extraEnv.names.map VarMap.readName).Nodup
  derived : ∀ name ∈ e.extraEnv.names, VarMap.readName name ∉ e.derivedEnv.names
  unselected : ∀ name ∈ e.extraEnv.names,
    VarMap.readName name ≠ e.linkageVariable (!e.flags.staticCrypto)

/-! ## The variables that follow -/

/-- The bindings that follow from the linkage and the flags. -/
def derivedBindings (e : BuildEnvironment) : List (String × String) :=
  [(e.linkageVariable e.flags.staticCrypto, "1")] ++
    e.crypto.libDir.toList.map (fun dir => (e.crypto.variableStem ++ "_LIB_DIR", dir)) ++
    e.crypto.includeDir.toList.map (fun dir => (e.crypto.variableStem ++ "_INCLUDE_DIR", dir)) ++
    (if e.flags.strip then [("RUSTFLAGS", stripFlag)] else []) ++
    [("CARGO_TARGET_DIR", targetDir)]

theorem derivedEnv_eq (e : BuildEnvironment) : e.derivedEnv = VarMap.ofList e.derivedBindings :=
  rfl

/-- The last five characters of a name, from the last one on. They tell the derived variables
apart, whatever the library is called. -/
def ending (name : String) : List Char :=
  name.toList.reverse.take 5

theorem ending_append (stem : String) {suffix : String} (h : 5 ≤ suffix.toList.length) :
    ending (stem ++ suffix) = ending suffix := by
  rw [ending, ending, String.toList_append, List.reverse_append,
    List.take_append_of_le_length (by simpa using h)]

/-- The derived variables and the one that is not selected all bear different names. -/
theorem nodup_derived (e : BuildEnvironment) :
    (e.linkageVariable (!e.flags.staticCrypto) :: e.derivedBindings.map Prod.fst).Nodup := by
  have hstatic : ending (e.crypto.variableStem ++ "_STATIC") = ending "_STATIC" :=
    ending_append _ (by decide)
  have hdynamic : ending (e.crypto.variableStem ++ "_DYNAMIC") = ending "_DYNAMIC" :=
    ending_append _ (by decide)
  have hlib : ending (e.crypto.variableStem ++ "_LIB_DIR") = ending "_LIB_DIR" :=
    ending_append _ (by decide)
  have hinclude : ending (e.crypto.variableStem ++ "_INCLUDE_DIR") = ending "_INCLUDE_DIR" :=
    ending_append _ (by decide)
  -- The stem may be any text, but the endings are given.
  apply List.Nodup.of_map ending
  rw [derivedBindings]
  cases e.flags.staticCrypto <;> cases e.crypto.libDir <;> cases e.crypto.includeDir <;>
    cases e.flags.strip <;>
    simp only [linkageVariable, hstatic, hdynamic, hlib, hinclude, List.map_cons, List.map_nil,
      Option.toList_none, Option.toList_some, Bool.not_true, Bool.not_false,
      if_true, if_false, Bool.false_eq_true, List.append_nil, List.nil_append, List.cons_append] <;>
    decide

theorem mem_derivedEnv {binding : String × String} :
    binding ∈ e.derivedEnv.entries ↔ binding ∈ e.derivedBindings := by
  rw [derivedEnv_eq]
  exact VarMap.mem_ofList (List.nodup_cons.mp e.nodup_derived).2

theorem mem_names_derivedEnv {name : String} :
    name ∈ e.derivedEnv.names ↔ name ∈ e.derivedBindings.map Prod.fst := by
  simp only [VarMap.names, List.mem_map, mem_derivedEnv]

theorem mem_compilerEnv (hcheck : e.check = .ok ()) {binding : String × String} :
    binding ∈ e.compilerEnv.entries ↔
      binding ∈ e.derivedEnv.entries ∨ binding ∈ e.extraEnv.entries := by
  have hfree := (check_eq_ok_iff.mp hcheck).2.2
  rw [compilerEnv, VarMap.mem_withDefaults]
  refine or_congr_right (and_iff_left_of_imp ?_)
  intro hbinding
  exact VarMap.contains_eq_false_iff.mp (hfree _ (VarMap.mem_names_of_mem hbinding))

theorem mem_names_compilerEnv (hcheck : e.check = .ok ()) {name : String} :
    name ∈ e.compilerEnv.names ↔ name ∈ e.derivedEnv.names ∨ name ∈ e.extraEnv.names := by
  simp only [VarMap.names, List.mem_map, mem_compilerEnv hcheck, or_and_right, exists_or]

theorem toUpper_eq_equals {c : Char} : c.toUpper = '=' ↔ c = '=' := by
  unfold Char.toUpper
  split
  next h =>
    constructor
    · intro heq
      have hval := congrArg Char.val heq
      dsimp only at hval
      have hlow := h.1
      rw [← UInt32.add_sub_cancel c.val ('A'.val - 'a'.val), hval] at hlow
      exact absurd hlow (by decide)
    · rintro rfl
      exact absurd h.1 (by decide)
  next => rfl

theorem equals_mem_variableStem (crypto : CryptoLinkage) :
    '=' ∈ crypto.variableStem.toList ↔ '=' ∈ crypto.library.toList := by
  have hchar {c : Char} : (if c = '-' then '_' else c.toUpper) = '=' ↔ c = '=' := by
    split
    next hc => simp [hc]
    next => exact toUpper_eq_equals
  rw [CryptoLinkage.variableStem, String.toList_ofList, List.mem_map]
  simp only [hchar, exists_eq_right]

/-- The derived names are read whole unless the library's name holds an equals sign. -/
theorem equals_not_mem_derived (hlibrary : '=' ∉ e.crypto.library.toList) :
    ∀ name ∈ e.derivedEnv.names, '=' ∉ name.toList := by
  have hstem : '=' ∉ e.crypto.variableStem.toList := mt (equals_mem_variableStem _).mp hlibrary
  have happend {suffix : String} (hsuffix : '=' ∉ suffix.toList) :
      '=' ∉ (e.crypto.variableStem ++ suffix).toList := by
    rw [String.toList_append, List.mem_append, not_or]
    exact ⟨hstem, hsuffix⟩
  intro name hname
  rw [mem_names_derivedEnv, derivedBindings] at hname
  simp only [List.map_append, List.mem_append, List.map_cons, List.map_nil, List.mem_singleton,
    List.map_map, List.mem_map, Function.comp_apply] at hname
  rcases hname with (((rfl | ⟨_, _, rfl⟩) | ⟨_, _, rfl⟩) | hstrip) | rfl
  · apply happend
    split <;> decide
  · exact happend (by decide)
  · exact happend (by decide)
  · obtain ⟨binding, hbinding, rfl⟩ := hstrip
    split at hbinding
    · rw [List.mem_singleton.mp hbinding]
      decide
    · cases hbinding
  · decide

namespace Received

theorem undisturbed (hcheck : e.check = .ok ()) (h : e.Received e.compilerEnv.assignments) :
    e.Undisturbed := by
  have honce := h.once
  have hunselected := h.unselected
  rw [VarMap.map_reading_fst] at honce hunselected
  have hinjective := (List.nodup_map_iff_inj_on e.compilerEnv.nodup_names).mp honce
  have hextra {name : String} (hname : name ∈ e.extraEnv.names) : name ∈ e.compilerEnv.names :=
    (mem_names_compilerEnv hcheck).mpr (.inr hname)
  refine ⟨?library, ?once, ?derived, ?unselected⟩
  case library =>
    obtain ⟨assignment, hassignment, hread⟩ := List.mem_map.mp h.selected
    obtain ⟨⟨name, value⟩, _, rfl⟩ := List.mem_map.mp hassignment
    have hname := congrArg Prod.fst hread
    rw [VarMap.reading_fst] at hname
    have hplain := VarMap.not_mem_readName name
    rw [hname, linkageVariable, String.toList_append, List.mem_append, not_or,
      equals_mem_variableStem] at hplain
    exact hplain.1
  case once =>
    rw [List.nodup_map_iff_inj_on e.extraEnv.nodup_names]
    intro name hname other hother hsame
    exact hinjective name (hextra hname) other (hextra hother) hsame
  case derived =>
    intro name hname hderived
    -- The derived name is read as itself, so the further name would have to be that name.
    have hread : VarMap.readName name ∈ e.compilerEnv.names :=
      (mem_names_compilerEnv hcheck).mpr (.inl hderived)
    have hself := hinjective _ hread name (hextra hname) (VarMap.readName_readName name)
    rw [hself] at hderived
    have hfree := (check_eq_ok_iff.mp hcheck).2.2 name hname
    exact VarMap.contains_eq_false_iff.mp hfree hderived
  case unselected =>
    intro name hname hsame
    exact hunselected (List.mem_map.mpr ⟨name, hextra hname, hsame⟩)

end Received

theorem Undisturbed.received (hcheck : e.check = .ok ()) (h : e.Undisturbed) :
    e.Received e.compilerEnv.assignments := by
  have hplain := equals_not_mem_derived h.library
  have hread {name : String} (hname : name ∈ e.derivedEnv.names) : VarMap.readName name = name :=
    VarMap.readName_of_not_mem (hplain name hname)
  have hbound {name value : String} (hbinding : (name, value) ∈ e.derivedBindings) :
      (name, value) ∈ e.compilerEnv.assignments.map VarMap.reading := by
    have hderived := mem_derivedEnv.mpr hbinding
    exact VarMap.mem_map_reading (hplain _ (VarMap.mem_names_of_mem hderived))
      ((mem_compilerEnv hcheck).mpr (.inl hderived))
  refine ⟨?once, ?strip, hbound ?targetDir, ?libDir, ?includeDir, hbound ?selected, ?unselected⟩
  case once =>
    rw [VarMap.map_reading_fst, List.nodup_map_iff_inj_on e.compilerEnv.nodup_names]
    have hextra := (List.nodup_map_iff_inj_on e.extraEnv.nodup_names).mp h.once
    intro name hname other hother hsame
    rcases (mem_names_compilerEnv hcheck).mp hname with hname | hname <;>
      rcases (mem_names_compilerEnv hcheck).mp hother with hother | hother
    · rwa [hread hname, hread hother] at hsame
    · rw [hread hname] at hsame
      exact absurd (hsame ▸ hname) (h.derived other hother)
    · rw [hread hother] at hsame
      exact absurd (hsame ▸ hother) (h.derived name hname)
    · exact hextra name hname other hother hsame
  case strip =>
    intro hstrip
    apply hbound
    simp [derivedBindings, hstrip]
  case targetDir => simp [derivedBindings]
  case libDir =>
    intro dir hdir
    apply hbound
    simp [derivedBindings, Option.mem_def.mp hdir]
  case includeDir =>
    intro dir hdir
    apply hbound
    simp [derivedBindings, Option.mem_def.mp hdir]
  case selected => simp [derivedBindings]
  case unselected =>
    rw [VarMap.map_reading_fst]
    intro hunselected
    obtain ⟨name, hname, hsame⟩ := List.mem_map.mp hunselected
    rcases (mem_names_compilerEnv hcheck).mp hname with hname | hname
    · rw [hread hname] at hsame
      rw [hsame, mem_names_derivedEnv] at hname
      exact (List.nodup_cons.mp e.nodup_derived).1 hname
    · exact h.unselected name hname hsame

/-- What a builder job takes over from its declaration. -/
theorem job_of_ofBuilder {workingDir : String} {id : RunId} {spec : BuilderSpec} {job : JobSpec}
    (hjob : Job.ofBuilder workingDir id spec = .ok job) :
    job.image = spec.environment.toolchain.imageRef ∧
      job.env = spec.environment.compilerEnv ∧
      job.workingDir = spec.source.map SourceMount.mountPath ∧
      job.command = ["/bin/sh", "-c", Job.script spec] ∧
      job.id = id := by
  unfold Job.ofBuilder at hjob
  cases hsource : spec.source with
  | none =>
      rw [hsource] at hjob
      cases hjob
      exact ⟨rfl, rfl, rfl, rfl, rfl⟩
  | some source =>
      rw [hsource] at hjob
      dsimp only at hjob
      cases hdir : HostPath.absolute? workingDir source.hostDir with
      | none =>
          rw [hdir] at hjob
          cases hjob
      | some hostDir =>
          rw [hdir] at hjob
          cases hjob
          exact ⟨rfl, rfl, rfl, rfl, rfl⟩

/-- A builder job runs with the compiler's variables. -/
theorem env_of_ofBuilder {workingDir : String} {id : RunId} {spec : BuilderSpec} {job : JobSpec}
    (hjob : Job.ofBuilder workingDir id spec = .ok job) :
    job.env = spec.environment.compilerEnv :=
  (job_of_ofBuilder hjob).2.1

/-- The container of an accepted pipeline receives an environment that agrees with the flags
exactly when no further name is read as a variable that follows from them. -/
theorem received_iff_undisturbed {definition : PipelineDefinition}
    (hvalid : definition.validate = .ok ()) {workingDir : String} {id : RunId} {job : JobSpec}
    (hjob : Job.ofBuilder workingDir id definition.builder = .ok job) :
    definition.builder.environment.Received (Engine.containerConfig job).env ↔
      definition.builder.environment.Undisturbed := by
  have hbuilder := (PipelineDefinition.validate_eq_ok_iff.mp hvalid).2.1
  have hcheck := (BuilderSpec.check_eq_ok_iff.mp hbuilder).1
  have henv : (Engine.containerConfig job).env =
      definition.builder.environment.compilerEnv.assignments :=
    congrArg VarMap.assignments (env_of_ofBuilder hjob)
  rw [henv]
  exact ⟨fun h => h.undisturbed hcheck, fun h => h.received hcheck⟩

/-- The sample declaration with a further variable. -/
def sampleWith (name value : String) : PipelineDefinition :=
  let sample := PipelineDefinition.sample
  { sample with
    builder := { sample.builder with
      environment := sample.builder.environment.withEnv name value } }

theorem received_sampleWith :
    ∃ job, Job.ofBuilder "/" ⟨1⟩ (sampleWith "CARGO_NET_OFFLINE" "true").builder = .ok job ∧
      (sampleWith "CARGO_NET_OFFLINE" "true").builder.environment.Received
        (Engine.containerConfig job).env := by
  have hvalid : (sampleWith "CARGO_NET_OFFLINE" "true").validate = .ok () :=
    eq_ok_iff_toBool.mpr (by decide +kernel)
  have hplain : (sampleWith "CARGO_NET_OFFLINE" "true").builder.environment.Undisturbed :=
    ⟨by decide, by decide +kernel, by decide +kernel, by decide +kernel⟩
  obtain ⟨job, hjob⟩ : ∃ job,
      Job.ofBuilder "/" ⟨1⟩ (sampleWith "CARGO_NET_OFFLINE" "true").builder = .ok job :=
    ⟨_, rfl⟩
  exact ⟨job, hjob, (received_iff_undisturbed hvalid hjob).mpr hplain⟩

/-- A further name with an equals sign is read as a derived variable, with another value. -/
theorem exists_not_received :
    ∃ (definition : PipelineDefinition) (job : JobSpec), definition.validate = .ok () ∧
      Job.ofBuilder "/" ⟨1⟩ definition.builder = .ok job ∧
      ("RUSTFLAGS", stripFlag) ∈ (Engine.containerConfig job).env.map VarMap.reading ∧
      ("RUSTFLAGS", "x=") ∈ (Engine.containerConfig job).env.map VarMap.reading ∧
      ¬ definition.builder.environment.Received (Engine.containerConfig job).env := by
  refine ⟨sampleWith "RUSTFLAGS=x" "", _, eq_ok_iff_toBool.mpr (by decide +kernel), rfl,
    by decide +kernel, by decide +kernel, ?_⟩
  intro hreceived
  exact absurd hreceived.once (by decide +kernel)

end BuildEnvironment

end SealedBuild
