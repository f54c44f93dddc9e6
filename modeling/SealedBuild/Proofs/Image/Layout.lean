import Mathlib.Data.List.Forall2
import SealedBuild.Proofs.Collection.VarMap
import SealedBuild.Proofs.Definition
import SealedBuild.Proofs.Text.Lines
import SealedBuild.RuntimeImage

/-!
# The layout of runtime containerfiles

A containerfile is meant to have one line for its base, one for each label, one copy of the
artifact and one command. Labels and the command are quoted, but quotes do not keep a line
feed from ending a line, and the base and the destination stand there as they are. The layout
holds exactly for texts in which none of this matters.
-/

namespace SealedBuild

namespace AssemblyRequest

variable {request : AssemblyRequest}

/-- The containerfile, line by line, as one reads it that knows the request. -/
structure Layout (request : AssemblyRequest) where
  labels : List String
  operands : String
  command : String
  lines_eq :
    Text.linesOf request.containerfile =
      ("FROM " ++ request.spec.baseImage) :: labels ++ ["COPY " ++ operands, "CMD " ++ command]
  labelled :
    List.Forall₂ (fun binding line => ∃ value, line = "LABEL " ++ binding.1 ++ "=" ++ value)
      request.labels.entries labels
  copied : Text.wordsOf operands = [artifactEntryName, request.spec.destination]

/-- The texts of a request hold nothing that changes the lines around them. -/
structure Unbroken (request : AssemblyRequest) : Prop where
  baseImage : '\n' ∉ request.spec.baseImage.toList
  baseEnd : request.spec.baseImage.toList.getLast? ≠ some '\r'
  destination : ∀ c ∈ request.spec.destination.toList, Text.isBlank c = false
  labels : ∀ binding ∈ request.labels.entries,
    '\n' ∉ binding.1.toList ∧ '\n' ∉ binding.2.toList

/-- The row of a label. -/
def labelRow (binding : String × String) : String :=
  "LABEL " ++ binding.1 ++ "=" ++ Text.quoted binding.2

/-- What the containerfile is put together from, without the line ends. -/
def rows (request : AssemblyRequest) : List String :=
  ("FROM " ++ request.spec.baseImage) :: request.labels.entries.map labelRow ++
    ["COPY " ++ (artifactEntryName ++ " " ++ request.spec.destination),
      "CMD " ++ Text.execForm request.spec.entryCommand]

theorem containerfile_toList (request : AssemblyRequest) :
    request.containerfile.toList =
      (request.rows.map String.toList).flatMap (· ++ ['\n']) := by
  delta containerfile
  simp [rows, labelRow, String.toList_join, List.flatMap_map, Function.comp_def]

theorem length_rows (request : AssemblyRequest) :
    request.rows.length = request.labels.entries.length + 3 := by
  simp [rows]

theorem mem_rows {row : String} :
    row ∈ request.rows ↔
      row = "FROM " ++ request.spec.baseImage ∨
        (∃ binding ∈ request.labels.entries, row = labelRow binding) ∨
        row = "COPY " ++ (artifactEntryName ++ " " ++ request.spec.destination) ∨
        row = "CMD " ++ Text.execForm request.spec.entryCommand := by
  simp [rows, eq_comm]

/-- The lines of the containerfile are its rows, as far as their last characters let them. -/
theorem linesOf_containerfile (h : ∀ row ∈ request.rows, '\n' ∉ row.toList) :
    Text.linesOf request.containerfile =
      request.rows.map fun row => String.ofList (Text.chopReturn row.toList) := by
  rw [Text.linesOf, containerfile_toList, Text.lines_rows (by simpa using h), List.map_map,
    List.map_map]
  rfl

/-- With as many lines as rows, no row can hold a line feed. -/
theorem Layout.newline_not_mem (layout : request.Layout) :
    ∀ row ∈ request.rows, '\n' ∉ row.toList := by
  have hlength := congrArg List.length layout.lines_eq
  rw [Text.linesOf, List.length_map, containerfile_toList] at hlength
  have hlabels := layout.labelled.length_eq
  have hrows : ∀ row ∈ request.rows.map String.toList, '\n' ∉ row := by
    apply Text.not_mem_of_length_lines
    rw [hlength, List.length_map, length_rows, hlabels]
    simp
  simpa using hrows

theorem Layout.unbroken (layout : request.Layout) : request.Unbroken where
  baseImage := by
    have hrow := layout.newline_not_mem ("FROM " ++ request.spec.baseImage) List.mem_cons_self
    rw [String.toList_append, List.mem_append, not_or] at hrow
    exact hrow.2
  baseEnd := by
    -- The first line is the base as it stands, so reading it has dropped nothing.
    have hlines := layout.lines_eq
    rw [linesOf_containerfile layout.newline_not_mem] at hlines
    have hfirst := congrArg String.toList (List.cons.inj hlines).1
    rw [String.toList_ofList, Text.chopReturn_eq_self_iff, String.toList_append,
      List.getLast?_append] at hfirst
    intro hreturn
    rw [hreturn] at hfirst
    exact hfirst rfl
  destination := by
    have hword : request.spec.destination ∈ Text.wordsOf layout.operands := by
      rw [layout.copied]
      exact List.mem_cons_of_mem _ List.mem_cons_self
    obtain ⟨word, hword, hdestination⟩ := List.mem_map.mp hword
    rw [← hdestination, String.toList_ofList]
    exact Text.isBlank_of_mem_words hword
  labels := by
    intro binding hbinding
    have hmem : labelRow binding ∈ request.rows := mem_rows.mpr (.inr (.inl ⟨_, hbinding, rfl⟩))
    have hrow := layout.newline_not_mem _ hmem
    simp only [labelRow, String.toList_append, List.mem_append, not_or,
      Text.mem_quoted (c := '\n') (by decide) (by decide)] at hrow
    exact ⟨hrow.1.1.2, hrow.2⟩

namespace Unbroken

theorem newline_not_mem_destination (h : request.Unbroken) :
    '\n' ∉ request.spec.destination.toList := by
  intro hmem
  cases h.destination _ hmem

theorem entryCommand_toList (request : AssemblyRequest) :
    (Text.execForm request.spec.entryCommand).toList =
      '[' :: (Text.quoted request.spec.destination).toList ++ [']'] := by
  simp [Text.execForm, RuntimeSpec.entryCommand, String.toList_append]

theorem newline_not_mem (h : request.Unbroken) : ∀ row ∈ request.rows, '\n' ∉ row.toList := by
  have hquoted (text : String) (htext : '\n' ∉ text.toList) : '\n' ∉ (Text.quoted text).toList := by
    rwa [Text.mem_quoted (by decide) (by decide)]
  intro row hrow
  rcases mem_rows.mp hrow with rfl | ⟨binding, hbinding, rfl⟩ | rfl | rfl
  · simp [h.baseImage]
  · obtain ⟨hname, hvalue⟩ := h.labels binding hbinding
    simp [labelRow, hname, hquoted _ hvalue]
  · simp [artifactEntryName, h.newline_not_mem_destination]
  · simp [entryCommand_toList, hquoted _ h.newline_not_mem_destination]

/-- No row ends in a carriage return. -/
theorem getLast?_rows (h : request.Unbroken) :
    ∀ row ∈ request.rows, row.toList.getLast? ≠ some '\r' := by
  intro row hrow
  rcases mem_rows.mp hrow with rfl | ⟨binding, hbinding, rfl⟩ | rfl | rfl
  · have hbase := h.baseEnd
    simp only [String.toList_append, List.getLast?_append]
    cases hlast : request.spec.baseImage.toList.getLast? with
    | none => simp
    | some c => simpa [hlast] using hbase
  · rw [labelRow, String.toList_append, List.getLast?_append, Text.getLast?_quoted]
    nofun
  · simp only [String.toList_append, List.getLast?_append]
    cases hlast : request.spec.destination.toList.getLast? with
    | none => simp
    | some c =>
        have hblank := h.destination c (List.mem_of_getLast? hlast)
        rintro ⟨⟩
        cases hblank
  · rw [String.toList_append, entryCommand_toList, ← List.append_assoc, List.getLast?_concat]
    nofun

theorem linesOf_containerfile (h : request.Unbroken) :
    Text.linesOf request.containerfile = request.rows := by
  rw [AssemblyRequest.linesOf_containerfile h.newline_not_mem]
  conv_rhs => rw [← List.map_id request.rows]
  apply List.map_congr_left
  intro row hrow
  rw [Text.chopReturn_eq_self_iff.mpr (h.getLast?_rows row hrow), String.ofList_toList]
  rfl

/-- The containerfile has its layout. -/
theorem layout (h : request.Unbroken) (hdestination : request.spec.destination ≠ "") :
    Nonempty request.Layout := by
  refine ⟨request.labels.entries.map labelRow,
    artifactEntryName ++ " " ++ request.spec.destination,
    Text.execForm request.spec.entryCommand, h.linesOf_containerfile, ?_, ?_⟩
  · rw [List.forall₂_map_right_iff, List.forall₂_same]
    intro binding _
    exact ⟨_, rfl⟩
  · have hname : Text.words artifactEntryName.toList = [artifactEntryName.toList] :=
      Text.words_eq_singleton (by decide) (Text.not_blank_iff_all.mpr (by decide))
    have hplace : Text.words request.spec.destination.toList = [request.spec.destination.toList] :=
      Text.words_eq_singleton (by simpa using hdestination) h.destination
    rw [Text.wordsOf, String.toList_append, String.toList_append, List.append_assoc]
    change (Text.words (artifactEntryName.toList ++ ' ' :: request.spec.destination.toList)).map
      String.ofList = _
    rw [Text.words_append_blank _ _ rfl, hname, hplace]
    simp

end Unbroken

theorem layout_iff_unbroken (hdestination : request.spec.destination ≠ "") :
    Nonempty request.Layout ↔ request.Unbroken := by
  constructor
  · rintro ⟨layout⟩
    exact layout.unbroken
  · intro h
    exact h.layout hdestination

/-- The labels of a request, in ascending order of their names. -/
theorem labels_ofArtifact (spec : RuntimeSpec) (artifact : CompiledArtifact)
    (tag pipeline fingerprint : String) :
    (ofArtifact spec artifact tag pipeline fingerprint).labels.entries =
      [(checksumLabel, artifact.checksum), (fingerprintLabel, fingerprint),
        (pipelineLabel, pipeline)] := by
  have hfingerprint : fingerprintLabel < pipelineLabel := by decide
  have hchecksum : checksumLabel < fingerprintLabel := by decide
  simp only [ofArtifact, VarMap.ofList, VarMap.insertAll, List.foldl_cons, List.foldl_nil,
    VarMap.insert, VarMap.empty, VarMap.insertInto, hfingerprint, hchecksum, if_true]

theorem mem_labels_ofArtifact {spec : RuntimeSpec} {artifact : CompiledArtifact}
    {tag pipeline fingerprint : String} {binding : String × String} :
    binding ∈ (ofArtifact spec artifact tag pipeline fingerprint).labels.entries ↔
      binding ∈ [(pipelineLabel, pipeline), (fingerprintLabel, fingerprint),
        (checksumLabel, artifact.checksum)] := by
  apply VarMap.mem_ofList
  change [pipelineLabel, fingerprintLabel, checksumLabel].Nodup
  decide

theorem unbroken_ofArtifact_iff {spec : RuntimeSpec} {artifact : CompiledArtifact}
    {tag pipeline fingerprint : String} :
    (ofArtifact spec artifact tag pipeline fingerprint).Unbroken ↔
      ('\n' ∉ spec.baseImage.toList ∧ spec.baseImage.toList.getLast? ≠ some '\r') ∧
      (∀ c ∈ spec.destination.toList, Text.isBlank c = false) ∧
      '\n' ∉ pipeline.toList ∧ '\n' ∉ fingerprint.toList ∧ '\n' ∉ artifact.checksum.toList := by
  constructor
  · intro h
    have hlabel {name value : String} (hbinding : (name, value) ∈ [(pipelineLabel, pipeline),
        (fingerprintLabel, fingerprint), (checksumLabel, artifact.checksum)]) :
        '\n' ∉ value.toList :=
      (h.labels _ (mem_labels_ofArtifact.mpr hbinding)).2
    exact ⟨⟨h.baseImage, h.baseEnd⟩, h.destination, hlabel List.mem_cons_self,
      hlabel (List.mem_cons_of_mem _ List.mem_cons_self),
      hlabel (List.mem_cons_of_mem _ (List.mem_cons_of_mem _ List.mem_cons_self))⟩
  · rintro ⟨⟨hbase, hend⟩, hdestination, hpipeline, hfingerprint, hchecksum⟩
    refine ⟨hbase, hend, hdestination, ?_⟩
    intro binding hbinding
    simp only [mem_labels_ofArtifact, List.mem_cons, List.not_mem_nil, or_false] at hbinding
    rcases hbinding with rfl | rfl | rfl
    · exact ⟨show '\n' ∉ pipelineLabel.toList by decide, hpipeline⟩
    · exact ⟨show '\n' ∉ fingerprintLabel.toList by decide, hfingerprint⟩
    · exact ⟨show '\n' ∉ checksumLabel.toList by decide, hchecksum⟩

/-- The containerfile of an accepted pipeline has its layout exactly when the base image and
the label values have no line feed, the base image does not end in a carriage return, and the
destination has no white space. -/
theorem layout_ofArtifact_iff {definition : PipelineDefinition}
    (hvalid : definition.validate = .ok ()) (artifact : CompiledArtifact)
    (tag fingerprint : String) :
    Nonempty (ofArtifact definition.runtime artifact tag definition.name fingerprint).Layout ↔
      ('\n' ∉ definition.runtime.baseImage.toList ∧
        definition.runtime.baseImage.toList.getLast? ≠ some '\r') ∧
      (∀ c ∈ definition.runtime.destination.toList, Text.isBlank c = false) ∧
      '\n' ∉ definition.name.toList ∧ '\n' ∉ fingerprint.toList ∧
      '\n' ∉ artifact.checksum.toList := by
  have hruntime := (PipelineDefinition.validate_eq_ok_iff.mp hvalid).2.2
  have hdestination : definition.runtime.destination ≠ "" :=
    ne_empty_of_checkFilePath (RuntimeSpec.check_eq_ok_iff.mp hruntime).2.1
  exact (layout_iff_unbroken hdestination).trans unbroken_ofArtifact_iff

/-- An artifact of the sample pipeline. -/
def sampleArtifact : CompiledArtifact where
  name := "service"
  sourcePath := "/out/service"
  stagedPath := "/staging/service"
  architecture := .x86_64
  linkage := .static
  stripped := true
  size := 4
  checksum := "abc"
  producedAt := ⟨0, 0⟩

theorem layout_sample :
    Nonempty (ofArtifact PipelineDefinition.sample.runtime sampleArtifact "service:1" "service"
      "f00d").Layout :=
  (layout_ofArtifact_iff PipelineDefinition.validate_sample sampleArtifact "service:1"
    "f00d").mpr
      ⟨by decide, Text.not_blank_iff_all.mpr (by decide), by decide, by decide, by decide⟩

/-- A name with a line feed puts a step of its own into the image. -/
theorem exists_run_line :
    ∃ definition : PipelineDefinition, definition.validate = .ok () ∧
      ImageTag.validate "service:1" = .ok () ∧
      "RUN id\"" ∈ Text.linesOf (ofArtifact definition.runtime sampleArtifact "service:1"
        definition.name "f00d").containerfile ∧
      ¬ Nonempty (ofArtifact definition.runtime sampleArtifact "service:1" definition.name
        "f00d").Layout := by
  refine ⟨{ PipelineDefinition.sample with name := "service\nRUN id" },
    eq_ok_iff_toBool.mpr (by decide +kernel), eq_ok_iff_toBool.mpr (by decide +kernel),
    by decide +kernel, ?_⟩
  rintro ⟨layout⟩
  have hname := (unbroken_ofArtifact_iff.mp layout.unbroken).2.2.1
  revert hname
  decide

end AssemblyRequest

end SealedBuild
