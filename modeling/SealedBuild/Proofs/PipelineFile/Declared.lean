import Mathlib.Data.List.Forall2
import Mathlib.Tactic.MkIffOfInductiveProp
import SealedBuild.Proofs.Collection.NameSet
import SealedBuild.Proofs.PipelineFile.Drafts

/-!
# What becomes of declarations

A file that is accepted has declared a definition, and the definition is compared here with what
was declared, node by node. Of some declarations the reader demands that their arguments have the
type that they take, and refuses them otherwise. Of the others it takes the arguments that have it
and passes over the rest, so that a definition holds all that was declared exactly when there is
nothing of these to pass over.
-/

namespace SealedBuild

open PipelineFile

/-- What arguments a declaration takes. -/
inductive ArgumentKind where
  /-- A text as the first argument. -/
  | text
  /-- A truth as the first argument. -/
  | truth
  /-- Any number of texts. -/
  | texts

/-- Whether the arguments of a node are of a kind. -/
def ArgumentKind.Fits : ArgumentKind → Node → Prop
  | text, node => node.firstText?.isSome = true
  | truth, node => node.firstTruth?.isSome = true
  | texts, node => ∀ value ∈ node.arguments, value.text?.isSome = true

instance (kind : ArgumentKind) (node : Node) : Decidable (kind.Fits node) :=
  match kind with
  | .text => inferInstanceAs (Decidable (_ = _))
  | .truth => inferInstanceAs (Decidable (_ = _))
  | .texts => inferInstanceAs (Decidable (∀ value ∈ _, _))

namespace Node

/-- The nodes in the blocks of all nodes of a name. -/
def within (name : String) (nodes : List Node) : List Node :=
  (named name nodes).flatMap fun node => node.children?.getD []

/-- The nodes have the arguments that nodes of their names take. -/
def Fitting (takes : String → Option ArgumentKind) (nodes : List Node) : Prop :=
  ∀ node ∈ nodes, ∀ kind ∈ takes node.name, kind.Fits node

instance (takes : String → Option ArgumentKind) (nodes : List Node) :
    Decidable (Fitting takes nodes) :=
  inferInstanceAs (Decidable (∀ node ∈ nodes, ∀ kind ∈ takes node.name, kind.Fits node))

end Node

namespace PipelineFile

open Node

/-! ## What declarations take -/

/-- What the reader demands of the nodes at the top. -/
def fileDemands : String → Option ArgumentKind
  | "pipeline" => some .text
  | _ => none

/-- What the reader demands of the nodes of a builder block. -/
def builderDemands : String → Option ArgumentKind
  | "toolchain" | "package-manager" | "crypto" | "source" => some .text
  | "strip" => some .truth
  | _ => none

/-- What the other nodes of a builder block take. -/
def builderTakes : String → Option ArgumentKind
  | "run" | "artifact" => some .text
  | "packages" => some .texts
  | _ => none

/-- What the nodes in the block of a `crypto` node take. -/
def linkageTakes : String → Option ArgumentKind
  | "shared-objects" => some .texts
  | _ => none

/-- What the nodes of a runtime block take. -/
def runtimeTakes : String → Option ArgumentKind
  | "image" | "destination" | "tag" => some .text
  | "entrypoint" => some .texts
  | _ => none

/-- The arguments that the reader demands of a file are there and have their types. -/
structure Demanded (document : List Node) : Prop where
  file : Fitting fileDemands document
  builder : Fitting builderDemands (within "builder" document)

/-- The arguments of all other declarations of a file are there and have their types too, although
the reader does not demand it. -/
structure Undemanded (document : List Node) : Prop where
  builder : Fitting builderTakes (within "builder" document)
  env : Fitting (fun _ => some .text) (within "env" (within "builder" document))
  linkage : Fitting linkageTakes (within "crypto" (within "builder" document))
  runtime : Fitting runtimeTakes (within "runtime" document)

/-- The arguments of every declaration of a file have the types that it takes. -/
structure WellTyped (document : List Node) : Prop where
  demanded : Demanded document
  undemanded : Undemanded document

/-- A definition holds all that the builder block of a file declares. -/
@[mk_iff]
structure Kept (document : List Node) (vars : Variables) (definition : PipelineDefinition) :
    Prop where
  /-- There is one command for each `run` node, in order. -/
  commands : List.Forall₂
    (fun node command =>
      node.firstText?.map (inPipeline vars definition.name definition.builder).interpolate =
        some command)
    (named "run" (within "builder" document)) definition.builder.commands
  packages : ∀ node ∈ named "packages" (within "builder" document), ∀ value ∈ node.arguments,
    ∃ name ∈ definition.builder.environment.packages, value = .text name
  env : ∀ child ∈ within "env" (within "builder" document),
    child.name ∈ definition.builder.environment.extraEnv.names
  staticCrypto : ∀ node ∈ (named "crypto" (within "builder" document)).getLast?,
    ∀ value ∈ node.property? "static",
      value = .truth definition.builder.environment.flags.staticCrypto

/-- The values from which the reader makes commands, packages, variables and the kind of linkage
are there and have their types. -/
@[mk_iff]
structure Keepable (document : List Node) : Prop where
  commands : ∀ node ∈ named "run" (within "builder" document), node.firstText?.isSome = true
  packages : ∀ node ∈ named "packages" (within "builder" document), ∀ value ∈ node.arguments,
    value.text?.isSome = true
  /-- A variable without a text is there all the same if another one of its name has a text. -/
  env : ∀ child ∈ within "env" (within "builder" document),
    ∃ other ∈ within "env" (within "builder" document),
      other.name = child.name ∧ other.firstText?.isSome = true
  staticCrypto : ∀ node ∈ (named "crypto" (within "builder" document)).getLast?,
    ∀ value ∈ node.property? "static", value.truth?.isSome = true

/-! ## The blocks of an accepted file -/

variable {document nodes : List Node} {node : Node} {baseDir : String} {vars : Variables}
  {definition : PipelineDefinition}

theorem within_eq {name : String} (hone : (named name nodes).length ≤ 1)
    (hnode : (named name nodes).head? = some node) :
    within name nodes = node.children?.getD [] := by
  obtain ⟨rest, hnamed⟩ := List.head?_eq_some_iff.mp hnode
  rw [hnamed, List.length_cons] at hone
  obtain rfl : rest = [] := List.eq_nil_of_length_eq_zero (by omega)
  rw [within, hnamed, List.flatMap_singleton]

/-- The builder stage of a definition is what the nodes of the builder block declare. -/
theorem builder_of_ofDocument (h : ofDocument document baseDir vars = .ok definition) :
    (∀ node ∈ within "builder" document, BuilderDraft.Readable node) ∧
      ∃ raw, (BuilderDraft.ofNodes baseDir (within "builder" document)).finish = .ok raw ∧
        definition.builder =
          interpolated (inPipeline vars definition.name definition.builder) raw := by
  obtain ⟨hfile, -, builderNode, hbuilder, -, -, raw, hraw, -, -, rfl, -⟩ :=
    ofDocument_eq_ok_iff.mp h
  obtain ⟨children, hchildren, hreadable, hfinish⟩ := builder_eq_ok_iff.mp hraw
  have hwithin : within "builder" document = children := by
    rw [within_eq hfile.builder hbuilder, hchildren]
    rfl
  rw [hwithin]
  exact ⟨hreadable, raw, hfinish, rfl⟩

/-- The runtime stage of a definition is what the nodes of the runtime block declare. -/
theorem runtime_of_ofDocument (h : ofDocument document baseDir vars = .ok definition) :
    (RuntimeDraft.ofNodes (inPipeline vars definition.name definition.builder)
      (within "runtime" document)).finish = .ok definition.runtime := by
  obtain ⟨hfile, -, -, -, runtimeNode, hruntime, raw, -, spec, hspec, rfl, -⟩ :=
    ofDocument_eq_ok_iff.mp h
  obtain ⟨children, hchildren, -, hfinish⟩ := runtime_eq_ok_iff.mp hspec
  have hwithin : within "runtime" document = children := by
    rw [within_eq hfile.runtime hruntime, hchildren]
    rfl
  rw [hwithin]
  exact hfinish

/-- The parts of the stage that a draft of a builder block is finished to. -/
theorem BuilderDraft.parts_of_finish {draft : BuilderDraft} {spec : BuilderSpec}
    (h : draft.finish = .ok spec) :
    spec.commands = draft.commands ∧
      spec.environment.packages = NameSet.ofList draft.packages ∧
      spec.environment.extraEnv = draft.env ∧ spec.environment.flags = draft.flags := by
  obtain ⟨toolchain, -, h⟩ := bind_eq_ok_iff.mp h
  obtain ⟨crypto, -, h⟩ := bind_eq_ok_iff.mp h
  obtain ⟨artifactPath, -, h⟩ := bind_eq_ok_iff.mp h
  obtain rfl := Except.ok.inj h
  exact ⟨rfl, rfl, rfl, rfl⟩

/-! ## Declarations that are demanded -/

theorem isSome_firstText?_of_toolchain (h : (toolchain node).isOk = true) :
    node.firstText?.isSome = true := by
  cases htext : node.firstText? with
  | none => simp [toolchain, htext, require, bind, Except.bind, Except.isOk, Except.toBool] at h
  | some _ => rfl

theorem isSome_firstText?_of_crypto (h : (crypto node).isOk = true) :
    node.firstText?.isSome = true := by
  cases htext : node.firstText? with
  | none => simp [crypto, htext, require, bind, Except.bind, Except.isOk, Except.toBool] at h
  | some _ => rfl

/-- No package manager has the empty name, which stands for a name that is no text. -/
theorem isSome_firstText?_of_packageManager? (h : (packageManager? node).isSome = true) :
    node.firstText?.isSome = true := by
  cases htext : node.firstText? with
  | none => simp [packageManager?, htext, PackageManager.ofName?] at h
  | some _ => rfl

theorem BuilderDraft.Readable.fitting (h : ∀ node ∈ nodes, Readable node) :
    Fitting builderDemands nodes := by
  intro node hnode kind hkind
  have hreadable := h node hnode
  unfold builderDemands at hkind
  unfold Readable at hreadable
  split at hkind <;> rename_i hname <;> cases hkind <;> rw [hname] at hreadable
  · exact isSome_firstText?_of_toolchain hreadable
  · exact isSome_firstText?_of_packageManager? hreadable
  · exact isSome_firstText?_of_crypto hreadable
  · exact hreadable
  · exact hreadable

/-- A file is refused for every argument that does not have a type that is demanded. -/
theorem demanded_of_ofDocument (h : ofDocument document baseDir vars = .ok definition) :
    Demanded document where
  file := by
    have hnames := (ofDocument_eq_ok_iff.mp h).1.pipeline
    intro node hnode kind hkind
    unfold fileDemands at hkind
    split at hkind
    · next hname =>
      cases hkind
      by_contra hnone
      rw [ArgumentKind.Fits, Option.not_isSome_iff_eq_none] at hnone
      exact hnames (hnone ▸ List.mem_map_of_mem (mem_named.mpr ⟨hnode, hname⟩))
    · cases hkind
  builder := BuilderDraft.Readable.fitting (builder_of_ofDocument h).1

/-! ## Declarations that are kept -/

theorem forall₂_reduceOption_iff {α β γ : Type} {f : α → Option β} {g : β → γ} {items : List α} :
    List.Forall₂ (fun item c => (f item).map g = some c) items
        ((items.map f).reduceOption.map g) ↔
      ∀ item ∈ items, (f item).isSome = true := by
  constructor
  · intro h
    have hlength : (items.map f).reduceOption.length = (items.map f).length := by
      rw [List.length_map, h.length_eq, List.length_map]
    rw [List.reduceOption_length_eq_iff, List.forall_mem_map] at hlength
    exact hlength
  · intro h
    induction items with
    | nil => exact .nil
    | cons item items ih =>
        obtain ⟨hitem, hitems⟩ := List.forall_mem_cons.mp h
        obtain ⟨value, hvalue⟩ := Option.isSome_iff_exists.mp hitem
        rw [List.map_cons, hvalue, List.reduceOption_cons_of_some, List.map_cons]
        exact .cons (by rw [hvalue, Option.map_some]) (ih hitems)

theorem isSome_text?_iff {value : Value} :
    value.text?.isSome = true ↔ ∃ content, value = .text content := by
  cases value <;> simp [Value.text?]

theorem mem_texts {content : String} :
    content ∈ node.texts ↔ Value.text content ∈ node.arguments := by
  rw [texts, List.mem_filterMap]
  constructor
  · rintro ⟨value, hvalue, htext⟩
    obtain ⟨_, rfl⟩ := isSome_text?_iff.mp (Option.isSome_of_mem htext)
    cases htext
    exact hvalue
  · exact fun h => ⟨_, h, rfl⟩

/-- The variables of all blocks of a builder block that are read. -/
theorem flatten_readings_bindings :
    (readings "env" bindings nodes).flatten =
      (within "env" nodes).filterMap fun child =>
        child.firstText?.map fun value => (child.name, value) := by
  rw [readings, ← List.flatMap_def, within, List.filterMap_flatMap]
  rfl

theorem mem_names_readings {name : String} :
    name ∈ (VarMap.ofList (readings "env" bindings nodes).flatten).names ↔
      ∃ child ∈ within "env" nodes, child.name = name ∧ child.firstText?.isSome = true := by
  rw [VarMap.mem_names_ofList, flatten_readings_bindings, List.map_filterMap, List.mem_filterMap]
  refine exists_congr fun child => and_congr_right fun _ => ?_
  cases child.firstText? <;> simp

theorem snd_of_crypto {linkage : CryptoLinkage} {staticCrypto : Bool}
    (h : crypto node = .ok (linkage, staticCrypto)) :
    staticCrypto = (node.truthProperty? "static").getD true := by
  obtain ⟨library, -, h⟩ := bind_eq_ok_iff.mp h
  exact (congrArg Prod.snd (Except.ok.inj h)).symm

/-- A property of a linkage that is a truth is what is read of it. -/
theorem eq_truth_iff {value : Value} (h : node.property? "static" = some value) :
    value = .truth ((node.truthProperty? "static").getD true) ↔ value.truth?.isSome = true := by
  rw [truthProperty?, h]
  cases value <;> simp [Value.truth?]

/-- The last linkage that is declared decides whether it is static. -/
theorem BuilderDraft.staticCrypto_of_getLast? (h : ∀ node ∈ nodes, Readable node)
    (hlast : (named "crypto" nodes).getLast? = some node) :
    (ofNodes baseDir nodes).flags.staticCrypto = (node.truthProperty? "static").getD true := by
  obtain ⟨hmem, hname⟩ := mem_named.mp (List.mem_of_getLast? hlast)
  have hreadable := h node hmem
  rw [Readable, hname] at hreadable
  cases hread : PipelineFile.crypto node with
  | error fault => simp [hread, Except.isOk, Except.toBool] at hreadable
  | ok declared =>
      obtain ⟨linkage, staticCrypto⟩ := declared
      rw [← snd_of_crypto hread]
      simp [ofNodes, readings, List.getLast?_map, hlast, hread, Except.toOption]

/-- What the nodes of a builder block make of the parts of a definition. -/
theorem parts_of_ofDocument (h : ofDocument document baseDir vars = .ok definition) :
    definition.builder.commands =
        (readings "run" firstText? (within "builder" document)).reduceOption.map
          (inPipeline vars definition.name definition.builder).interpolate ∧
      definition.builder.environment.packages =
        NameSet.ofList (readings "packages" texts (within "builder" document)).flatten ∧
      definition.builder.environment.extraEnv.names =
        (VarMap.ofList (readings "env" bindings (within "builder" document)).flatten).names ∧
      definition.builder.environment.flags =
        (BuilderDraft.ofNodes baseDir (within "builder" document)).flags := by
  obtain ⟨-, raw, hfinish, hbuilder⟩ := builder_of_ofDocument h
  obtain ⟨hcommands, hpackages, henv, hflags⟩ := BuilderDraft.parts_of_finish hfinish
  refine ⟨?_, ?_, ?_, ?_⟩
  · rw [congrArg BuilderSpec.commands hbuilder, interpolated, hcommands]
    rfl
  · rw [hbuilder, interpolated, hpackages]
    rfl
  · rw [hbuilder, interpolated, VarMap.names_mapValues, henv]
    rfl
  · rw [hbuilder, interpolated, hflags]

/-- Each part of a definition holds what was declared of it exactly when the values that it is
made from are there. -/
theorem kept_iff_keepable (h : ofDocument document baseDir vars = .ok definition) :
    Kept document vars definition ↔ Keepable document := by
  have hreadable := (builder_of_ofDocument h).1
  obtain ⟨hcommands, hpackages, henv, hflags⟩ := parts_of_ofDocument h
  rw [kept_iff, keepable_iff]
  refine and_congr ?_ (and_congr ?_ (and_congr ?_ ?_))
  · rw [hcommands]
    exact forall₂_reduceOption_iff
  · refine forall₂_congr fun node hnode => forall₂_congr fun value hvalue => ?_
    rw [isSome_text?_iff]
    constructor
    · rintro ⟨name, -, rfl⟩
      exact ⟨name, rfl⟩
    · rintro ⟨content, rfl⟩
      refine ⟨content, ?_, rfl⟩
      rw [hpackages, NameSet.mem_ofList]
      exact List.mem_flatten_of_mem (List.mem_map_of_mem hnode) (mem_texts.mpr hvalue)
  · rw [henv]
    exact forall₂_congr fun child _ => mem_names_readings
  · refine forall₂_congr fun node hnode => forall₂_congr fun value hvalue => ?_
    rw [hflags, BuilderDraft.staticCrypto_of_getLast? hreadable hnode, eq_truth_iff hvalue]

/-- A definition holds all commands, packages, variables and the kind of linkage that its file
declares exactly when the values that these are made from are there and have their types. An
argument of a wrong type was refused exactly if it is one that the reader demands. -/
theorem nothing_lost_iff (h : ofDocument document baseDir vars = .ok definition) :
    (Kept document vars definition ↔ Keepable document) ∧
      (WellTyped document ↔ Undemanded document) :=
  ⟨kept_iff_keepable h, WellTyped.undemanded, fun hundemanded =>
    ⟨demanded_of_ofDocument h, hundemanded⟩⟩

/-- A file with some more nodes in its two blocks. -/
def documentWith (inBuilder inRuntime : List Node) : List Node := [
  leaf "pipeline" "service",
  block "builder" ([
    leaf "toolchain" "rust:1.75",
    leaf "crypto" "openssl",
    leaf "run" "make",
    leaf "artifact" "/out/service"] ++ inBuilder),
  block "runtime" ([
    leaf "image" "scratch",
    leaf "destination" "/service"] ++ inRuntime)]

/-- What the file declares where these nodes add nothing. -/
def plainDefinition : PipelineDefinition where
  name := "service"
  builder := {
    environment := .ofToolchain ⟨"rust", "1.75"⟩ (.ofLibrary "openssl")
    source := none
    commands := ["make"]
    artifactPath := "/out/service" }
  runtime := ⟨"scratch", "/service", none⟩

/-- A file with packages, variables, two commands and a second linkage. -/
def fullDocument : List Node :=
  documentWith [
    .mk "packages" [.argument (.text "libssl-dev"), .argument (.text "pkg-config")] none,
    block "env" [leaf "CC" "gcc", leaf "CC" "clang"],
    leaf "run" "make install",
    .mk "crypto" [.argument (.text "openssl"), .property "static" (.truth false)] none] []

theorem nothing_lost_fullDocument :
    ∃ definition, ofDocument fullDocument "/repo" {} = .ok definition ∧
      Kept fullDocument {} definition ∧ WellTyped fullDocument := by
  have hok : (ofDocument fullDocument "/repo" {}).isOk = true := by decide +kernel
  have hkeepable : Keepable fullDocument := ⟨by decide, by decide, by decide, by decide⟩
  have hundemanded : Undemanded fullDocument := ⟨by decide, by decide, by decide, by decide⟩
  cases hread : ofDocument fullDocument "/repo" {} with
  | error fault => simp [hread, Except.isOk, Except.toBool] at hok
  | ok definition =>
      obtain ⟨hkept, htyped⟩ := nothing_lost_iff hread
      exact ⟨definition, rfl, hkept.mpr hkeepable, htyped.mpr hundemanded⟩

/-- A file with a variable whose value is a number. -/
def numberedDocument : List Node :=
  documentWith [block "env" [.mk "RETRIES" [.argument .number] none]] []

/-- A variable whose value is no text is left out of the definition without a fault. -/
theorem variable_lost :
    ofDocument numberedDocument "/repo" {} = .ok plainDefinition ∧
      ¬ Kept numberedDocument {} plainDefinition ∧ ¬ WellTyped numberedDocument := by
  refine ⟨by decide +kernel, fun h => ?_, fun h => ?_⟩
  · have henv := h.env
    revert henv
    decide +kernel
  · have henv := h.undemanded.env
    revert henv
    decide

/-! ## The entry point -/

/-- A runtime stage has the entry point that was declared for it last, if any was. -/
theorem RuntimeDraft.entrypoint_of_finish {draft : RuntimeDraft} {spec : RuntimeSpec}
    (h : draft.finish = .ok spec) :
    ∀ entrypoint ∈ draft.entrypoint, entrypoint = [spec.destination] := by
  obtain ⟨baseImage, -, h⟩ := bind_eq_ok_iff.mp h
  obtain ⟨destination, -, h⟩ := bind_eq_ok_iff.mp h
  intro entrypoint hentrypoint
  rw [Option.mem_def.mp hentrypoint] at h
  dsimp only at h
  split at h
  · next hsame =>
    rw [hsame, ← Except.ok.inj h]
    rfl
  · cases h

theorem arguments_eq_map_texts (h : ArgumentKind.texts.Fits node) :
    node.arguments = node.texts.map .text := by
  rw [ArgumentKind.Fits] at h
  rw [texts]
  generalize node.arguments = values at h ⊢
  induction values with
  | nil => rfl
  | cons value values ih =>
      obtain ⟨hvalue, hvalues⟩ := List.forall_mem_cons.mp h
      obtain ⟨content, rfl⟩ := isSome_text?_iff.mp hvalue
      have hread : (Value.text content).text? = some content := rfl
      rw [List.filterMap_cons_some hread, List.map_cons, ← ih hvalues]

/-- The texts of the last entry point of an accepted file are the destination and nothing more. All
of its entry points restate the destination exactly when none has an argument other than texts and
all of them have the same. -/
theorem entrypoint_restates_iff (h : ofDocument document baseDir vars = .ok definition) :
    (∀ node ∈ (named "entrypoint" (within "runtime" document)).getLast?,
      node.texts = [definition.runtime.destination]) ∧
    ((∀ node ∈ named "entrypoint" (within "runtime" document),
        node.arguments = [.text definition.runtime.destination]) ↔
      (∀ node ∈ named "entrypoint" (within "runtime" document), ArgumentKind.texts.Fits node) ∧
        ∀ node ∈ named "entrypoint" (within "runtime" document),
          ∀ other ∈ named "entrypoint" (within "runtime" document), node.texts = other.texts) := by
  have hlast : ∀ node ∈ (named "entrypoint" (within "runtime" document)).getLast?,
      node.texts = [definition.runtime.destination] := by
    intro node hnode
    apply RuntimeDraft.entrypoint_of_finish (runtime_of_ofDocument h)
    change (readings "entrypoint" texts _).getLast? = some node.texts
    rw [readings, List.getLast?_map, Option.mem_def.mp hnode, Option.map_some]
  refine ⟨hlast, ?_⟩
  generalize named "entrypoint" (within "runtime" document) = entrypoints at hlast ⊢
  constructor
  · intro hall
    have htexts : ∀ node ∈ entrypoints, node.texts = [definition.runtime.destination] := by
      intro node hnode
      rw [texts, hall node hnode]
      rfl
    refine ⟨fun node hnode => ?_, fun node hnode other hother => ?_⟩
    · rw [ArgumentKind.Fits, hall node hnode, List.forall_mem_singleton]
      rfl
    · rw [htexts node hnode, htexts other hother]
  · rintro ⟨hfits, hsame⟩ node hnode
    -- The last one is among those that all say the same.
    obtain ⟨last, hgetLast⟩ := Option.isSome_iff_exists.mp
      (List.getLast?_isSome.mpr (List.ne_nil_of_mem hnode))
    rw [arguments_eq_map_texts (hfits node hnode),
      hsame node hnode last (List.mem_of_getLast? hgetLast), hlast last hgetLast]
    rfl

/-- A file whose entry point is the destination. -/
def restatingDocument : List Node :=
  documentWith [] [leaf "entrypoint" "/service"]

theorem entrypoint_restates_sample :
    ofDocument restatingDocument "/repo" {} = .ok plainDefinition ∧
      ∀ node ∈ named "entrypoint" (within "runtime" restatingDocument),
        node.arguments = [.text "/service"] := by
  have hread : ofDocument restatingDocument "/repo" {} = .ok plainDefinition := by
    decide +kernel
  exact ⟨hread, (entrypoint_restates_iff hread).2.mpr ⟨by decide, by decide⟩⟩

/-- A file whose entry point has a number behind the destination. -/
def arguedDocument : List Node :=
  documentWith []
    [.mk "entrypoint" [.argument (.text "/service"), .argument .number] none]

/-- An entry point with a further argument is accepted if that argument is no text. -/
theorem argued_entrypoint_accepted :
    ofDocument arguedDocument "/repo" {} = .ok plainDefinition ∧
      ¬ ∀ node ∈ named "entrypoint" (within "runtime" arguedDocument),
        node.arguments = [.text plainDefinition.runtime.destination] :=
  ⟨by decide +kernel, by decide⟩

-- An entry point that differs is accepted before one that does not.
example :
    ofDocument (documentWith [] [leaf "entrypoint" "/bin/sh", leaf "entrypoint" "/service"])
      "/repo" {} = .ok plainDefinition := by
  decide +kernel

end PipelineFile

end SealedBuild
