import SealedBuild.Proofs.PipelineFile.Drafts

/-!
# What variables cannot change

The variables of a run fill in texts: the commands, the values of the builder's variables, and the
tag. Nothing else of a definition depends on them, and only a tag can be refused for their sake.
The name and the toolchain that they bring along are those of no pipeline yet, and never count.
-/

namespace SealedBuild

open Node

/-- Two definitions that differ in the texts of their commands, of the values of their variables
and of their tags at most. -/
structure PipelineDefinition.SameShape (first second : PipelineDefinition) : Prop where
  name : first.name = second.name
  toolchain : first.builder.environment.toolchain = second.builder.environment.toolchain
  packageManager :
    first.builder.environment.packageManager = second.builder.environment.packageManager
  packages : first.builder.environment.packages = second.builder.environment.packages
  crypto : first.builder.environment.crypto = second.builder.environment.crypto
  flags : first.builder.environment.flags = second.builder.environment.flags
  variableNames :
    first.builder.environment.extraEnv.names = second.builder.environment.extraEnv.names
  commands : first.builder.commands.length = second.builder.commands.length
  source : first.builder.source = second.builder.source
  artifactPath : first.builder.artifactPath = second.builder.artifactPath
  baseImage : first.runtime.baseImage = second.runtime.baseImage
  destination : first.runtime.destination = second.runtime.destination
  tagged : first.runtime.tag.isSome = second.runtime.tag.isSome

namespace PipelineFile

variable {vars vars' : Variables} {node : Node} {nodes : List Node}

/-! ## The builder block -/

/-- The check of a builder stage does not read the texts that variables fill in. -/
theorem check_interpolated {spec : BuilderSpec} : (interpolated vars spec).check = spec.check := by
  have henvironment : (interpolated vars spec).environment.check = spec.environment.check := by
    simp only [BuildEnvironment.check, interpolated, VarMap.names_mapValues]
    rfl
  simp only [BuilderSpec.check, henvironment]
  simp only [interpolated, List.isEmpty_map]

/-! ## The runtime block -/

/-- The runtime stage that a draft is finished to. -/
theorem RuntimeDraft.parts_of_finish {draft : RuntimeDraft} {spec : RuntimeSpec}
    (h : draft.finish = .ok spec) :
    draft.baseImage = some spec.baseImage ∧ draft.destination = some spec.destination ∧
      draft.tag = spec.tag := by
  obtain ⟨baseImage, hbaseImage, h⟩ := bind_eq_ok_iff.mp h
  obtain ⟨destination, hdestination, h⟩ := bind_eq_ok_iff.mp h
  rw [require_eq_ok_iff] at hbaseImage hdestination
  suffices hspec : spec = ⟨baseImage, destination, draft.tag⟩ by
    subst hspec
    exact ⟨hbaseImage, hdestination, rfl⟩
  dsimp only at h
  split at h
  · split at h
    · exact (Except.ok.inj h).symm
    · cases h
  · exact (Except.ok.inj h).symm

/-- A block that can be read declares a tag exactly when one of its tag nodes has a text. -/
theorem RuntimeDraft.isSome_tag (h : ∀ node ∈ nodes, Readable vars node) :
    (ofNodes vars nodes).tag.isSome =
      (readings "tag" Node.firstText? nodes).reduceOption.getLast?.isSome := by
  unfold ofNodes
  cases hlast : (readings "tag" Node.firstText? nodes).reduceOption.getLast? with
  | none => rfl
  | some written =>
      have hwritten := List.reduceOption_mem_iff.mp (List.mem_of_getLast? hlast)
      obtain ⟨node, hnode, htext⟩ := List.mem_map.mp hwritten
      obtain ⟨hmem, hname⟩ := mem_named.mp hnode
      have htag := h node hmem hname written htext
      cases hread : PipelineFile.tag vars written with
      | error _ => simp [hread, Except.isOk, Except.toBool] at htag
      | ok _ => simp [hread, Except.toOption]

/-- A runtime block without a text for a tag. -/
def Untagged (node : Node) : Prop :=
  ∀ child ∈ node.children?.getD [], child.name = "tag" → child.firstText? = none

theorem RuntimeDraft.foldlM_eq_of_untagged (draft : RuntimeDraft)
    (h : ∀ node ∈ nodes, node.name = "tag" → node.firstText? = none) :
    nodes.foldlM (add vars) draft = nodes.foldlM (add vars') draft := by
  induction nodes generalizing draft with
  | nil => rfl
  | cons node nodes ih =>
      obtain ⟨hnode, hnodes⟩ := List.forall_mem_cons.mp h
      have hstep : draft.add vars node = draft.add vars' node := by
        unfold add
        split <;> try rfl
        next hname => rw [hnode hname]
      rw [List.foldlM_cons, List.foldlM_cons, hstep]
      exact bind_congr fun next => ih next hnodes

/-- A runtime block without a text for a tag declares the same with all variables. -/
theorem runtime_eq_of_untagged (h : Untagged node) : runtime vars node = runtime vars' node := by
  unfold runtime
  cases hchildren : node.children? with
  | none => rfl
  | some children =>
      rw [Untagged, hchildren] at h
      exact congrArg (· >>= RuntimeDraft.finish) (RuntimeDraft.foldlM_eq_of_untagged {} h)

/-- The runtime stages that a block declares with any variables differ in their tags at most. -/
theorem runtime_parts_eq {spec spec' : RuntimeSpec} (h : runtime vars node = .ok spec)
    (h' : runtime vars' node = .ok spec') :
    spec.baseImage = spec'.baseImage ∧ spec.destination = spec'.destination ∧
      spec.tag.isSome = spec'.tag.isSome := by
  obtain ⟨children, hchildren, hreadable, hfinish⟩ := runtime_eq_ok_iff.mp h
  obtain ⟨_, hchildren', hreadable', hfinish'⟩ := runtime_eq_ok_iff.mp h'
  obtain rfl := Option.some.inj (hchildren.symm.trans hchildren')
  obtain ⟨hbaseImage, hdestination, htag⟩ := RuntimeDraft.parts_of_finish hfinish
  obtain ⟨hbaseImage', hdestination', htag'⟩ := RuntimeDraft.parts_of_finish hfinish'
  refine ⟨Option.some.inj (hbaseImage.symm.trans hbaseImage'),
    Option.some.inj (hdestination.symm.trans hdestination'), ?_⟩
  rw [← htag, ← htag', RuntimeDraft.isSome_tag hreadable, RuntimeDraft.isSome_tag hreadable']

/-! ## The whole file -/

/-- Two definitions of one document have one shape. -/
theorem sameShape_of_ofDocument {document : List Node} {baseDir : String}
    {definition definition' : PipelineDefinition}
    (h : ofDocument document baseDir vars = .ok definition)
    (h' : ofDocument document baseDir vars' = .ok definition') :
    definition.SameShape definition' := by
  obtain ⟨-, -, builderNode, hbuilder, runtimeNode, hruntime, raw, hraw, spec, hspec, rfl, -⟩ :=
    ofDocument_eq_ok_iff.mp h
  obtain ⟨-, -, _, hbuilder', _, hruntime', _, hraw', spec', hspec', rfl, -⟩ :=
    ofDocument_eq_ok_iff.mp h'
  obtain rfl := Option.some.inj (hbuilder.symm.trans hbuilder')
  obtain rfl := Option.some.inj (hruntime.symm.trans hruntime')
  obtain rfl := Except.ok.inj (hraw.symm.trans hraw')
  obtain ⟨hbaseImage, hdestination, htagged⟩ := runtime_parts_eq hspec hspec'
  exact {
    name := rfl
    toolchain := rfl
    packageManager := rfl
    packages := rfl
    crypto := rfl
    flags := rfl
    variableNames := by simp [interpolated]
    commands := by simp [interpolated]
    source := rfl
    artifactPath := rfl
    baseImage := hbaseImage
    destination := hdestination
    tagged := htagged }

/-- A document ends alike with all variables if its runtime block has no text for a tag. -/
theorem alike_of_untagged {document : List Node} {baseDir : String}
    (h : ∀ node ∈ (named "runtime" document).head?, Untagged node) :
    EndAlike (· = ·) (fun _ _ => True) (ofDocument document baseDir vars)
      (ofDocument document baseDir vars') := by
  unfold ofDocument
  refine .bind_self fun draft hdraft => ?_
  obtain ⟨-, rfl⟩ := FileDraft.foldlM_add_eq_ok_iff.mp hdraft
  cases (FileDraft.ofNodes document).name.isEmpty with
  | true => exact .error rfl
  | false =>
      refine .bind_self fun builderNode _ => ?_
      refine .bind_self fun runtimeNode hnode => ?_
      refine .bind_self fun raw _ => ?_
      have hruntime : runtime (inPipeline vars (FileDraft.ofNodes document).name raw) runtimeNode =
          runtime (inPipeline vars' (FileDraft.ofNodes document).name raw) runtimeNode :=
        runtime_eq_of_untagged (h runtimeNode (require_eq_ok_iff.mp hnode))
      dsimp only [inPipeline] at hruntime ⊢
      rw [hruntime]
      refine .bind_self fun spec _ => ?_
      simp only [PipelineDefinition.check, check_interpolated]
      exact .bind_self fun _ _ => .ok trivial

/-- The variables leave the shape of a pipeline alone. Of the name and the toolchain that they
bring along nothing is seen; two definitions of one document have one shape; and without a text for
a tag, a document is accepted with all variables or refused with all, for one and the same fault. -/
theorem ofDocument_noninterference (document : List Node) (baseDir : String)
    (vars vars' : Variables) :
    (∀ name toolchain,
      ofDocument document baseDir { vars with pipelineName := name, toolchain := toolchain } =
        ofDocument document baseDir vars) ∧
      (∀ definition definition', ofDocument document baseDir vars = .ok definition →
        ofDocument document baseDir vars' = .ok definition' → definition.SameShape definition') ∧
      ((∀ node ∈ (named "runtime" document).head?, Untagged node) →
        EndAlike (· = ·) (fun _ _ => True) (ofDocument document baseDir vars)
          (ofDocument document baseDir vars')) :=
  ⟨fun _ _ => rfl, fun _ _ => sameShape_of_ofDocument, alike_of_untagged⟩

/-- A tag that is no text. -/
def numberTag : Node :=
  .mk "tag" [.argument .number] none

theorem untagged_sample : ∀ node ∈ (named "runtime" (sampleDocument numberTag)).head?,
    Untagged node := by
  intro node hnode
  obtain rfl := Option.some.inj hnode
  unfold Untagged
  decide

theorem ofDocument_noninterference_sample :
    (ofDocument (sampleDocument sampleTag) "/repo" (sampleVariables "fast") =
        .ok (sampleDefinition "fast") ∧
      ofDocument (sampleDocument sampleTag) "/repo" (sampleVariables "safe") =
        .ok (sampleDefinition "safe") ∧
      (sampleDefinition "fast").SameShape (sampleDefinition "safe")) ∧
    (∀ node ∈ (named "runtime" (sampleDocument numberTag)).head?, Untagged node) ∧
      EndAlike (· = ·) (fun _ _ => True)
        (ofDocument (sampleDocument numberTag) "/repo" (sampleVariables "fast"))
        (ofDocument (sampleDocument numberTag) "/repo" (sampleVariables "safe")) := by
  have hfast : ofDocument (sampleDocument sampleTag) "/repo" (sampleVariables "fast") =
      .ok (sampleDefinition "fast") := by decide +kernel
  have hsafe : ofDocument (sampleDocument sampleTag) "/repo" (sampleVariables "safe") =
      .ok (sampleDefinition "safe") := by decide +kernel
  have hshape := (ofDocument_noninterference (sampleDocument sampleTag) "/repo"
    (sampleVariables "fast") (sampleVariables "safe")).2.1
  have halike := (ofDocument_noninterference (sampleDocument numberTag) "/repo"
    (sampleVariables "fast") (sampleVariables "safe")).2.2
  exact ⟨⟨hfast, hsafe, hshape _ _ hfast hsafe⟩, untagged_sample, halike untagged_sample⟩

end PipelineFile

end SealedBuild
