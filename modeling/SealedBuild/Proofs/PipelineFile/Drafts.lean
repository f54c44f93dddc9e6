import Mathlib.Data.List.Induction
import Mathlib.Data.List.ReduceOption
import Mathlib.Tactic.MkIffOfInductiveProp
import SealedBuild.PipelineFile
import SealedBuild.Proofs.Collection.VarMap
import SealedBuild.Proofs.Outcome

/-!
# What a pipeline file declares

A file and each of its two blocks is read node by node into a draft. What ends up in the draft is
told here by the nodes of each name: which of them the reader takes, and which it refuses. Nodes of
different names have no effect on each other.
-/

namespace SealedBuild

section Fold

variable {ε α β : Type} {step : β → α → Except ε β}

/-- A fold that may fail is known by what it makes of every list that it has got through so far:
the state is a function of that list, and getting through a list is a matter of the list too. -/
theorem foldlM_eq_ok_iff {passes : List α → Prop} (state : List α → β) (hnil : passes [])
    (hstep : ∀ items item next, passes items →
      (step (state items) item = .ok next ↔
        passes (items ++ [item]) ∧ state (items ++ [item]) = next))
    (hdrop : ∀ items item, passes (items ++ [item]) → passes items) (items : List α) (last : β) :
    items.foldlM step (state []) = .ok last ↔ passes items ∧ state items = last := by
  induction items using List.reverseRecOn generalizing last with
  | nil =>
      rw [and_iff_right hnil]
      exact iff_of_eq (Except.ok.injEq _ _)
  | append_singleton items item ih =>
      rw [List.foldlM_append, bind_eq_ok_iff]
      simp only [ih, List.foldlM_cons, List.foldlM_nil, bind_pure]
      constructor
      · rintro ⟨_, ⟨hpasses, rfl⟩, hlast⟩
        exact (hstep items item last hpasses).mp hlast
      · intro hlast
        have hpasses := hdrop items item hlast.1
        exact ⟨_, ⟨hpasses, rfl⟩, (hstep items item last hpasses).mpr hlast⟩

/-- A fold whose steps fail on the item alone gets through the lists without such an item. -/
theorem foldlM_eq_ok_iff_forall {readable : α → Prop} (state : List α → β)
    (hstep : ∀ items item next, step (state items) item = .ok next ↔
      readable item ∧ state (items ++ [item]) = next) (items : List α) (last : β) :
    items.foldlM step (state []) = .ok last ↔
      (∀ item ∈ items, readable item) ∧ state items = last := by
  apply foldlM_eq_ok_iff state
  · simp
  · intro items item next hitems
    rw [hstep, List.forall_mem_append, List.forall_mem_singleton, and_iff_right hitems]
  · intro items item hitems
    exact (List.forall_mem_append.mp hitems).1

end Fold

namespace Node

/-- The nodes of a name, in order. -/
def named (name : String) (nodes : List Node) : List Node :=
  nodes.filter fun node => node.name = name

/-- What the nodes of a name say, each on its own, in order. -/
def readings {α : Type} (name : String) (read : Node → α) (nodes : List Node) : List α :=
  (named name nodes).map read

variable {α : Type} {name : String} {node : Node} {nodes : List Node} {read : Node → α}

theorem mem_named : node ∈ named name nodes ↔ node ∈ nodes ∧ node.name = name := by
  simp [named]

theorem named_concat :
    named name (nodes ++ [node]) = named name nodes ++ if node.name = name then [node] else [] := by
  by_cases hname : node.name = name <;> simp [named, hname]

theorem readings_concat :
    readings name read (nodes ++ [node]) =
      readings name read nodes ++ if node.name = name then [read node] else [] := by
  by_cases hname : node.name = name <;> simp [readings, named_concat, hname]

/-- One more node of a name that comes once at most has to be the first of that name. -/
theorem length_named_concat_le_one {other : String} :
    (named other (nodes ++ [node])).length ≤ 1 ↔
      (named other nodes).length ≤ 1 ∧ (node.name = other → (named other nodes).head? = none) := by
  rw [named_concat, List.head?_eq_none_iff, ← List.length_eq_zero_iff]
  by_cases hname : node.name = other
  · rw [if_pos hname, List.length_append, List.length_singleton, forall_prop_of_true hname]
    omega
  · rw [if_neg hname, List.append_nil, forall_prop_of_false hname, and_true]

end Node

namespace PipelineFile

open Node

theorem require_eq_ok_iff {α : Type} {what : String} {value? : Option α} {value : α} :
    require what value? = .ok value ↔ value? = some value := by
  cases value? with
  | none => exact ⟨nofun, nofun⟩
  | some found => simp [require]

/-! ## The builder block -/

/-- The package manager that a node declares. -/
def packageManager? (node : Node) : Option PackageManager :=
  PackageManager.ofName? (node.firstText?.getD "")

/-- Whether a node of a builder block can be read. -/
def BuilderDraft.Readable (node : Node) : Prop :=
  match node.name with
  | "toolchain" => (PipelineFile.toolchain node).isOk = true
  | "package-manager" => (packageManager? node).isSome = true
  | "crypto" => (PipelineFile.crypto node).isOk = true
  | "strip" => node.firstTruth?.isSome = true
  | "source" => node.firstText?.isSome = true
  | _ => True

/-- The draft of a builder block, from what its nodes of each name say. -/
def BuilderDraft.ofNodes (baseDir : String) (nodes : List Node) : BuilderDraft where
  toolchain := (readings "toolchain" PipelineFile.toolchain nodes).getLast?.bind Except.toOption
  packageManager := (readings "package-manager" packageManager? nodes).getLast?.join.getD .apt
  packages := (readings "packages" Node.texts nodes).flatten
  crypto :=
    ((readings "crypto" PipelineFile.crypto nodes).getLast?.bind Except.toOption).map Prod.fst
  flags := {
    strip := (readings "strip" Node.firstTruth? nodes).getLast?.join.getD true
    staticCrypto :=
      (((readings "crypto" PipelineFile.crypto nodes).getLast?.bind Except.toOption).map
        Prod.snd).getD true }
  source := (readings "source" Node.firstText? nodes).getLast?.join.map fun dir =>
    ⟨HostPath.join baseDir dir, SourceMount.defaultPath⟩
  env := VarMap.ofList (readings "env" bindings nodes).flatten
  commands := (readings "run" Node.firstText? nodes).reduceOption
  artifactPath := (readings "artifact" Node.firstText? nodes).getLast?.join

theorem BuilderDraft.add_eq_ok_iff {baseDir : String} {nodes : List Node} {node : Node}
    {draft : BuilderDraft} :
    (ofNodes baseDir nodes).add baseDir node = .ok draft ↔
      Readable node ∧ ofNodes baseDir (nodes ++ [node]) = draft := by
  unfold add Readable
  split
  · next hname =>
    cases hread : PipelineFile.toolchain node with
    | error fault => simp [hname, bind, Except.bind, Except.isOk, Except.toBool]
    | ok toolchain =>
        simp [ofNodes, readings_concat, hname, hread, Except.toOption, bind, Except.bind, pure,
          Except.pure, Except.isOk, Except.toBool]
  · next hname =>
    simp only [← packageManager?.eq_1]
    cases hread : packageManager? node with
    | none => simp [hname]
    | some manager => simp [ofNodes, readings_concat, hname, hread]
  · next hname => simp [ofNodes, readings_concat, hname]
  · next hname =>
    cases hread : PipelineFile.crypto node with
    | error fault => simp [hname, bind, Except.bind, Except.isOk, Except.toBool]
    | ok linkage =>
        simp [ofNodes, readings_concat, hname, hread, Except.toOption, bind, Except.bind, pure,
          Except.pure, Except.isOk, Except.toBool]
  · next hname =>
    cases hread : node.firstTruth? with
    | none => simp [hname]
    | some strip => simp [ofNodes, readings_concat, hname, hread]
  · next hname =>
    cases hread : node.firstText? with
    | none => simp [hname, require, bind, Except.bind]
    | some dir =>
        simp [ofNodes, readings_concat, hname, hread, require, bind, Except.bind, pure,
          Except.pure]
  · next hname => simp [ofNodes, readings_concat, hname, VarMap.ofList_append]
  · next hname =>
    cases hread : node.firstText? <;>
      simp [ofNodes, readings_concat, hname, hread, List.reduceOption_append]
  · next hname => simp [ofNodes, readings_concat, hname]
  · next h1 h2 h3 h4 h5 h6 h7 h8 h9 =>
    simp only [ofNodes, readings_concat, if_neg h1, if_neg h2, if_neg h3, if_neg h4, if_neg h5,
      if_neg h6, if_neg h7, if_neg h8, if_neg h9, List.append_nil]
    rw [Except.ok.injEq, true_and]

/-- The nodes of a builder block are read exactly when each of them can be read, and every part of
what has been read is told by the nodes of one name. -/
theorem BuilderDraft.foldlM_add_eq_ok_iff {baseDir : String} {nodes : List Node}
    {draft : BuilderDraft} :
    nodes.foldlM (add baseDir) {} = .ok draft ↔
      (∀ node ∈ nodes, Readable node) ∧ ofNodes baseDir nodes = draft := by
  exact foldlM_eq_ok_iff_forall (ofNodes baseDir) (fun _ _ _ => add_eq_ok_iff) nodes draft

/-- A builder block declares what its finished draft does. -/
theorem builder_eq_ok_iff {baseDir : String} {node : Node} {spec : BuilderSpec} :
    builder baseDir node = .ok spec ↔
      ∃ children, node.children? = some children ∧
        (∀ child ∈ children, BuilderDraft.Readable child) ∧
        (BuilderDraft.ofNodes baseDir children).finish = .ok spec := by
  simp only [builder, bind_eq_ok_iff, require_eq_ok_iff, BuilderDraft.foldlM_add_eq_ok_iff,
    and_assoc, exists_and_left, exists_eq_left']

/-! ## The runtime block -/

/-- Whether a node of a runtime block can be read. -/
def RuntimeDraft.Readable (vars : Variables) (node : Node) : Prop :=
  node.name = "tag" → ∀ written ∈ node.firstText?, (PipelineFile.tag vars written).isOk = true

/-- The draft of a runtime block, from what its nodes of each name say. -/
def RuntimeDraft.ofNodes (vars : Variables) (nodes : List Node) : RuntimeDraft where
  baseImage := (readings "image" Node.firstText? nodes).getLast?.join
  destination := (readings "destination" Node.firstText? nodes).getLast?.join
  entrypoint := (readings "entrypoint" Node.texts nodes).getLast?
  tag := (readings "tag" Node.firstText? nodes).reduceOption.getLast?.bind fun written =>
    (PipelineFile.tag vars written).toOption

theorem RuntimeDraft.add_eq_ok_iff {vars : Variables} {nodes : List Node} {node : Node}
    {draft : RuntimeDraft} :
    (ofNodes vars nodes).add vars node = .ok draft ↔
      Readable vars node ∧ ofNodes vars (nodes ++ [node]) = draft := by
  unfold add Readable
  split
  · next hname => simp [ofNodes, readings_concat, hname]
  · next hname => simp [ofNodes, readings_concat, hname]
  · next hname => simp [ofNodes, readings_concat, hname]
  · next hname =>
    cases hread : node.firstText? with
    | none => simp [ofNodes, readings_concat, hname, hread, List.reduceOption_append]
    | some written =>
        cases htag : PipelineFile.tag vars written with
        | error fault => simp [hname, htag, bind, Except.bind, Except.isOk, Except.toBool]
        | ok tag =>
            simp [ofNodes, readings_concat, hname, hread, htag, List.reduceOption_append,
              Except.toOption, bind, Except.bind, pure, Except.pure, Except.isOk, Except.toBool]
  · next himage hdestination hentrypoint htag =>
    simp only [ofNodes, readings_concat, if_neg himage, if_neg hdestination, if_neg hentrypoint,
      if_neg htag, List.append_nil]
    rw [Except.ok.injEq, and_iff_right fun h => (htag h).elim]

/-- The nodes of a runtime block are read exactly when each of them can be read, and every part of
what has been read is told by the nodes of one name. -/
theorem RuntimeDraft.foldlM_add_eq_ok_iff {vars : Variables} {nodes : List Node}
    {draft : RuntimeDraft} :
    nodes.foldlM (add vars) {} = .ok draft ↔
      (∀ node ∈ nodes, Readable vars node) ∧ ofNodes vars nodes = draft := by
  exact foldlM_eq_ok_iff_forall (ofNodes vars) (fun _ _ _ => add_eq_ok_iff) nodes draft

/-- A runtime block declares what its finished draft does. -/
theorem runtime_eq_ok_iff {vars : Variables} {node : Node} {spec : RuntimeSpec} :
    runtime vars node = .ok spec ↔
      ∃ children, node.children? = some children ∧
        (∀ child ∈ children, RuntimeDraft.Readable vars child) ∧
        (RuntimeDraft.ofNodes vars children).finish = .ok spec := by
  simp only [runtime, bind_eq_ok_iff, require_eq_ok_iff, RuntimeDraft.foldlM_add_eq_ok_iff,
    and_assoc, exists_and_left, exists_eq_left']

/-! ## The whole file -/

/-- The nodes at the top can be read: each pipeline has a name, and no block is there twice. -/
@[mk_iff]
structure FileDraft.Readable (nodes : List Node) : Prop where
  pipeline : none ∉ readings "pipeline" Node.firstText? nodes
  builder : (named "builder" nodes).length ≤ 1
  runtime : (named "runtime" nodes).length ≤ 1

/-- The draft of a file, from what its nodes of each name say. -/
def FileDraft.ofNodes (nodes : List Node) : FileDraft where
  name := (readings "pipeline" Node.firstText? nodes).getLast?.join.getD ""
  builder := (named "builder" nodes).head?
  runtime := (named "runtime" nodes).head?

theorem FileDraft.readable_concat {nodes : List Node} {node : Node} :
    Readable (nodes ++ [node]) ↔
      Readable nodes ∧ (node.name = "pipeline" → node.firstText? ≠ none) ∧
        (node.name = "builder" → (ofNodes nodes).builder = none) ∧
        (node.name = "runtime" → (ofNodes nodes).runtime = none) := by
  have hpipeline : (none ∉ if node.name = "pipeline" then [node.firstText?] else []) ↔
      (node.name = "pipeline" → node.firstText? ≠ none) := by
    by_cases hname : node.name = "pipeline" <;> simp [hname, eq_comm]
  rw [readable_iff, readable_iff, readings_concat, List.mem_append, not_or, hpipeline,
    length_named_concat_le_one, length_named_concat_le_one]
  constructor
  · rintro ⟨⟨hnamed, hfirst⟩, ⟨hone, hbuilder⟩, hsingle, hruntime⟩
    exact ⟨⟨hnamed, hone, hsingle⟩, hfirst, hbuilder, hruntime⟩
  · rintro ⟨⟨hnamed, hone, hsingle⟩, hfirst, hbuilder, hruntime⟩
    exact ⟨⟨hnamed, hfirst⟩, ⟨hone, hbuilder⟩, hsingle, hruntime⟩

theorem FileDraft.add_eq_ok_iff {nodes : List Node} {node : Node} {draft : FileDraft}
    (hnodes : Readable nodes) :
    (ofNodes nodes).add node = .ok draft ↔
      Readable (nodes ++ [node]) ∧ ofNodes (nodes ++ [node]) = draft := by
  rw [readable_concat, and_iff_right hnodes]
  unfold add
  split
  · next hname =>
    cases hread : node.firstText? with
    | none => simp [hname, require, bind, Except.bind]
    | some name =>
        simp [ofNodes, named_concat, readings_concat, hname, hread, require, bind, Except.bind,
          pure, Except.pure]
  · next hname =>
    cases hbuilder : (named "builder" nodes).head? <;>
      simp [ofNodes, named_concat, readings_concat, hname, hbuilder]
  · next hname =>
    cases hruntime : (named "runtime" nodes).head? <;>
      simp [ofNodes, named_concat, readings_concat, hname, hruntime]
  · next hpipeline hbuilder hruntime =>
    simp only [ofNodes, named_concat, readings_concat, if_neg hpipeline, if_neg hbuilder,
      if_neg hruntime, List.append_nil]
    rw [Except.ok.injEq, forall_prop_of_false hpipeline, forall_prop_of_false hbuilder,
      forall_prop_of_false hruntime, true_and, true_and, true_and]

/-- The nodes at the top are read exactly when they can be, and every part of what has been read is
told by the nodes of one name. -/
theorem FileDraft.foldlM_add_eq_ok_iff {nodes : List Node} {draft : FileDraft} :
    nodes.foldlM add {} = .ok draft ↔ Readable nodes ∧ ofNodes nodes = draft := by
  apply foldlM_eq_ok_iff ofNodes
  · exact ⟨nofun, Nat.zero_le 1, Nat.zero_le 1⟩
  · exact fun _ _ _ hnodes => add_eq_ok_iff hnodes
  · exact fun _ _ hnodes => (readable_concat.mp hnodes).1

/-- The variables as the two blocks of a file see them. -/
def inPipeline (vars : Variables) (name : String) (raw : BuilderSpec) : Variables :=
  { vars with
    pipelineName := name
    toolchain := raw.environment.toolchain }

/-- A document declares a definition exactly when its nodes can be read, both of its blocks declare
a stage, and the definition of the two passes its check. -/
theorem ofDocument_eq_ok_iff {document : List Node} {baseDir : String} {vars : Variables}
    {definition : PipelineDefinition} :
    ofDocument document baseDir vars = .ok definition ↔
      FileDraft.Readable document ∧ (FileDraft.ofNodes document).name.isEmpty = false ∧
        ∃ builderNode, (FileDraft.ofNodes document).builder = some builderNode ∧
        ∃ runtimeNode, (FileDraft.ofNodes document).runtime = some runtimeNode ∧
        ∃ raw, builder baseDir builderNode = .ok raw ∧
        ∃ spec, runtime (inPipeline vars (FileDraft.ofNodes document).name raw) runtimeNode =
          .ok spec ∧
        (⟨(FileDraft.ofNodes document).name,
          interpolated (inPipeline vars (FileDraft.ofNodes document).name raw) raw, spec⟩ :
            PipelineDefinition) = definition ∧
        definition.check = .ok () := by
  unfold ofDocument
  simp only [bind_eq_ok_iff, FileDraft.foldlM_add_eq_ok_iff, and_assoc, exists_and_left,
    exists_eq_left']
  apply and_congr_right
  intro _
  cases (FileDraft.ofNodes document).name.isEmpty with
  | true => simp [bind, Except.bind, throw, throwThe, MonadExceptOf.throw]
  | false =>
      simp only [Bool.false_eq_true, if_false, bind_eq_ok_iff, require_eq_ok_iff,
        mapError_eq_ok_iff, Unique.exists_iff, pure, Except.pure, Except.ok.injEq, true_and]
      refine exists_congr fun builderNode => and_congr_right fun _ => ?_
      refine exists_congr fun runtimeNode => and_congr_right fun _ => ?_
      refine exists_congr fun raw => and_congr_right fun _ => ?_
      refine exists_congr fun spec => and_congr_right fun _ => ?_
      constructor
      · rintro ⟨hcheck, rfl⟩
        exact ⟨rfl, hcheck⟩
      · rintro ⟨rfl, hcheck⟩
        exact ⟨hcheck, rfl⟩

/-! ## A file -/

/-- A node with one text. -/
def leaf (name text : String) : Node :=
  .mk name [.argument (.text text)] none

/-- A node with children only. -/
def block (name : String) (children : List Node) : Node :=
  .mk name [] (some children)

/-- How a reference to a variable of the host is written. -/
def hostReference (name : String) : String :=
  String.ofList (Piece.written ("env." ++ name).toList)

/-- A tag that refers to a variable of the host. -/
def sampleTag : Node :=
  leaf "tag" ("service:" ++ hostReference "MODE")

/-- A file whose commands and variables refer to a variable of the host. -/
def sampleDocument (tag : Node) : List Node := [
  leaf "pipeline" "service",
  block "builder" [
    leaf "toolchain" "rust:1.75",
    .mk "crypto" [.argument (.text "openssl")]
      (some [leaf "note" "static", leaf "shared-objects" "libssl"]),
    block "env" [leaf "CC" "gcc", leaf "MODE" (hostReference "MODE")],
    leaf "run" ("make " ++ hostReference "MODE"),
    leaf "run" "make install",
    leaf "artifact" "/out/service"],
  block "runtime" [
    leaf "image" "scratch",
    leaf "destination" "/service",
    tag]]

/-- What that variable may stand for. -/
def sampleVariables (mode : String) : Variables :=
  { env := .ofList [("MODE", mode)] }

/-- What the file declares where the variable has that value. -/
def sampleDefinition (mode : String) : PipelineDefinition where
  name := "service"
  builder := {
    environment := {
      toolchain := ⟨"rust", "1.75"⟩
      packageManager := .apt
      packages := .empty
      crypto := ⟨"openssl", none, none, ["libssl"]⟩
      flags := {}
      extraEnv := .ofList [("CC", "gcc"), ("MODE", mode)] }
    source := none
    commands := ["make " ++ mode, "make install"]
    artifactPath := "/out/service" }
  runtime := ⟨"scratch", "/service", some ("service:" ++ mode)⟩

end PipelineFile

end SealedBuild
