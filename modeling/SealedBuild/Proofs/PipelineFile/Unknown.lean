import SealedBuild.Proofs.PipelineFile.Drafts

/-!
# Unknown nodes

At the top of a pipeline file, in each of its two blocks and in the block of a linkage the reader
knows a few names, and passes over the nodes of all others. Such nodes may be put in anywhere among
those that are there, with whatever they hold: what the file declares is the same, and so is what is
wrong with it.
-/

namespace SealedBuild

namespace Node

/-- Nodes of unknown names are put in anywhere in a list. Those that were there keep their order and
are changed as a relation allows. -/
inductive Padded (known : List String) (change : Node → Node → Prop) :
    List Node → List Node → Prop where
  | nil : Padded known change [] []
  | keep {node node' : Node} {nodes nodes' : List Node} (hnode : change node node')
      (h : Padded known change nodes nodes') : Padded known change (node :: nodes) (node' :: nodes')
  | put {node : Node} {nodes nodes' : List Node} (hname : node.name ∉ known)
      (h : Padded known change nodes nodes') : Padded known change nodes (node :: nodes')

/-- A node stays as it is, or it has a given name and its block is changed as a relation allows. -/
inductive WithBlock (name : String) (change : List Node → List Node → Prop) :
    Node → Node → Prop where
  | same (node : Node) : WithBlock name change node node
  | block (entries : List Entry) {children children' : List Node} (h : change children children') :
      WithBlock name change (.mk name entries (some children)) (.mk name entries (some children'))

namespace WithBlock

variable {node node' : Node} {name : String} {change : List Node → List Node → Prop}

theorem eq_of_name_ne (h : WithBlock name change node node') (hname : node.name ≠ name) :
    node = node' := by
  cases h with
  | same => rfl
  | block => exact absurd rfl hname

theorem name_eq (h : WithBlock name change node node') : node.name = node'.name := by
  cases h <;> rfl

theorem firstText?_eq (h : WithBlock name change node node') :
    node.firstText? = node'.firstText? := by
  cases h <;> rfl

end WithBlock

namespace Padded

variable {ε β : Type} {known : List String} {change : Node → Node → Prop} {nodes nodes' : List Node}
  {step : β → Node → Except ε β}

/-- A fold that passes over the unknown names ends as it did, if it ends so for one changed node. -/
theorem foldlM_alike {alike : β → β → Prop}
    (hskip : ∀ draft node, node.name ∉ known → step draft node = .ok draft)
    (hstep : ∀ draft draft' node node', alike draft draft' → change node node' →
      EndAlike (· = ·) alike (step draft node) (step draft' node'))
    (h : Padded known change nodes nodes') {draft draft' : β} (hdraft : alike draft draft') :
    EndAlike (· = ·) alike (nodes.foldlM step draft) (nodes'.foldlM step draft') := by
  induction h generalizing draft draft' with
  | nil => exact .ok hdraft
  | keep hnode _ ih =>
      rw [List.foldlM_cons, List.foldlM_cons]
      exact (hstep _ _ _ _ hdraft hnode).bind fun _ _ => ih
  | @put node nodes nodes' hname _ ih =>
      have hput : (node :: nodes').foldlM step draft' = nodes'.foldlM step draft' := by
        rw [List.foldlM_cons, hskip draft' node hname]
        rfl
      rw [hput]
      exact ih hdraft

theorem foldlM_eq (hskip : ∀ draft node, node.name ∉ known → step draft node = .ok draft)
    (hstep : ∀ draft node node', change node node' → step draft node = step draft node')
    (h : Padded known change nodes nodes') (draft : β) :
    nodes.foldlM step draft = nodes'.foldlM step draft := by
  apply endAlike_eq_iff.mp
  apply h.foldlM_alike hskip _ rfl
  rintro draft _ node node' rfl hnode
  exact endAlike_eq_iff.mpr (hstep draft node node' hnode)

/-- The first node of a known name is the same. -/
theorem find?_eq (h : Padded known (· = ·) nodes nodes') {name : String}
    (hname : name ∈ known) :
    nodes.find? (fun node => node.name = name) = nodes'.find? fun node => node.name = name := by
  induction h with
  | nil => rfl
  | keep hnode _ ih => rw [hnode, List.find?_cons, List.find?_cons, ih]
  | @put node nodes nodes' hput _ ih =>
      have hother : node.name ≠ name := by
        rintro rfl
        exact hput hname
      rw [ih, List.find?_cons_of_neg (by simpa using hother)]

end Padded

end Node

namespace PipelineFile

open Node

variable {node node' : Node} {baseDir : String} {vars : Variables}

/-! ## Where nodes may be put in -/

/-- The names that are known at the top. -/
def topNames : List String :=
  ["pipeline", "builder", "runtime"]

/-- The names that are known in the builder block. -/
def builderNames : List String :=
  ["toolchain", "package-manager", "packages", "crypto", "strip", "source", "env", "run",
    "artifact"]

/-- The names that are known in the runtime block. -/
def runtimeNames : List String :=
  ["image", "destination", "entrypoint", "tag"]

/-- The names that are known in the block of a linkage. -/
def cryptoNames : List String :=
  ["shared-objects"]

/-- A linkage with unknown nodes put into its block. -/
abbrev CryptoPadded : Node → Node → Prop :=
  WithBlock "crypto" (Padded cryptoNames (· = ·))

/-- A builder block with unknown nodes put into it, and into the linkages that it declares. -/
abbrev BuilderPadded : Node → Node → Prop :=
  WithBlock "builder" (Padded builderNames CryptoPadded)

/-- A runtime block with unknown nodes put into it. -/
abbrev RuntimePadded : Node → Node → Prop :=
  WithBlock "runtime" (Padded runtimeNames (· = ·))

/-- A document with unknown nodes put in, at its top and in its blocks. -/
abbrev DocumentPadded : List Node → List Node → Prop :=
  Padded topNames fun node node' => BuilderPadded node node' ∨ RuntimePadded node node'

/-! ## The builder block -/

theorem crypto_eq_of_padded (h : CryptoPadded node node') : crypto node = crypto node' := by
  cases h with
  | same => rfl
  | @block entries children children' h =>
      have hstems : sharedObjects (.mk "crypto" entries (some children)) =
          sharedObjects (.mk "crypto" entries (some children')) := by
        simp only [sharedObjects, children?, Option.getD_some, h.find?_eq List.mem_cons_self]
        rfl
      simp only [crypto, hstems]
      rfl

theorem BuilderDraft.add_of_unknown (draft : BuilderDraft) (node : Node)
    (h : node.name ∉ builderNames) : draft.add baseDir node = .ok draft := by
  unfold add
  split <;> simp_all [builderNames]

theorem BuilderDraft.add_eq_of_padded (draft : BuilderDraft) (node node' : Node)
    (h : CryptoPadded node node') : draft.add baseDir node = draft.add baseDir node' := by
  cases h with
  | same => rfl
  | block entries h =>
      have hcrypto := crypto_eq_of_padded (.block entries h)
      simp only [add, name, hcrypto]

theorem builder_eq_of_padded (h : BuilderPadded node node') :
    builder baseDir node = builder baseDir node' := by
  cases h with
  | same => rfl
  | block entries h =>
      exact congrArg (· >>= BuilderDraft.finish)
        (h.foldlM_eq BuilderDraft.add_of_unknown BuilderDraft.add_eq_of_padded {})

/-! ## The runtime block -/

theorem RuntimeDraft.add_of_unknown (draft : RuntimeDraft) (node : Node)
    (h : node.name ∉ runtimeNames) : draft.add vars node = .ok draft := by
  unfold add
  split <;> simp_all [runtimeNames]

theorem runtime_eq_of_padded (h : RuntimePadded node node') :
    runtime vars node = runtime vars node' := by
  cases h with
  | same => rfl
  | block entries h =>
      exact congrArg (· >>= RuntimeDraft.finish)
        (h.foldlM_eq RuntimeDraft.add_of_unknown (fun draft _ _ => congrArg (draft.add vars)) {})

/-! ## The whole file -/

/-- Two drafts hold one name, and blocks that unknown nodes were put into. -/
structure FileDraft.Padded (draft draft' : FileDraft) : Prop where
  name : draft.name = draft'.name
  builder : Option.Rel BuilderPadded draft.builder draft'.builder
  runtime : Option.Rel RuntimePadded draft.runtime draft'.runtime

theorem FileDraft.add_of_unknown (draft : FileDraft) (node : Node)
    (h : node.name ∉ topNames) : draft.add node = .ok draft := by
  unfold add
  split <;> simp_all [topNames]

theorem FileDraft.add_alike (draft draft' : FileDraft) (node node' : Node)
    (hdraft : draft.Padded draft') (h : BuilderPadded node node' ∨ RuntimePadded node node') :
    EndAlike (· = ·) FileDraft.Padded (draft.add node) (draft'.add node') := by
  have hname : node.name = node'.name := h.elim WithBlock.name_eq WithBlock.name_eq
  have htext : node.firstText? = node'.firstText? :=
    h.elim WithBlock.firstText?_eq WithBlock.firstText?_eq
  obtain ⟨hnamed, hbuilder, hruntime⟩ := hdraft
  unfold add
  rw [← hname]
  split
  · rw [htext]
    exact EndAlike.bind_self fun name _ => .ok ⟨rfl, hbuilder, hruntime⟩
  · next hblock =>
    -- Under this name only a builder block was padded; any other node is as it was.
    have hnode : BuilderPadded node node' := by
      rcases h with h | h
      · exact h
      · rw [h.eq_of_name_ne (by simp [hblock])]
        exact .same node'
    generalize draft.builder = builder?, draft'.builder = builder?' at hbuilder ⊢
    cases hbuilder with
    | none => exact .ok ⟨hnamed, .some hnode, hruntime⟩
    | some => exact .error rfl
  · next hblock =>
    have hnode : RuntimePadded node node' := by
      rcases h with h | h
      · rw [h.eq_of_name_ne (by simp [hblock])]
        exact .same node'
      · exact h
    generalize draft.runtime = runtime?, draft'.runtime = runtime?' at hruntime ⊢
    cases hruntime with
    | none => exact .ok ⟨hnamed, hbuilder, .some hnode⟩
    | some => exact .error rfl
  · exact .ok ⟨hnamed, hbuilder, hruntime⟩

/-- Nodes that the reader does not know may be put in at the top of a document, into its blocks and
into the blocks of its linkages: it declares what it declared, or is refused for the same reason. -/
theorem ofDocument_eq_of_padded {document document' : List Node}
    (h : DocumentPadded document document') (baseDir : String) (vars : Variables) :
    ofDocument document baseDir vars = ofDocument document' baseDir vars := by
  have hdraft : EndAlike (· = ·) FileDraft.Padded (document.foldlM FileDraft.add {})
      (document'.foldlM FileDraft.add {}) :=
    h.foldlM_alike FileDraft.add_of_unknown FileDraft.add_alike ⟨rfl, .none, .none⟩
  unfold ofDocument
  refine endAlike_eq_iff.mp (hdraft.bind ?_)
  rintro ⟨name, builder?, runtime?⟩ ⟨_, builder?', runtime?'⟩ ⟨rfl, hbuilder, hruntime⟩
  rw [endAlike_eq_iff]
  dsimp only at hbuilder hruntime ⊢
  cases hbuilder with
  | none => rfl
  | some hbuilder =>
      cases hruntime with
      | none => rfl
      | some hruntime =>
          split
          · rfl
          · change (builder baseDir _ >>= _) = (builder baseDir _ >>= _)
            rw [builder_eq_of_padded hbuilder]
            refine bind_congr fun raw => ?_
            rw [runtime_eq_of_padded hruntime]

/-- The sample with nodes that the reader does not know at its top and in each of its blocks. Some
of them have names that are known elsewhere. -/
def samplePadded : List Node := [
  block "notes" [leaf "pipeline" "other"],
  leaf "pipeline" "service",
  block "builder" [
    leaf "tag" "other:latest",
    leaf "toolchain" "rust:1.75",
    .mk "crypto" [.argument (.text "openssl")]
      (some [block "notes" [leaf "shared-objects" "libz"], leaf "note" "static",
        leaf "shared-objects" "libssl"]),
    block "env" [leaf "CC" "gcc", leaf "MODE" (hostReference "MODE")],
    leaf "run" ("make " ++ hostReference "MODE"),
    leaf "run" "make install",
    leaf "artifact" "/out/service"],
  block "runtime" [
    leaf "image" "scratch",
    leaf "destination" "/service",
    leaf "artifact" "/out/other",
    sampleTag],
  leaf "toolchain" "rust:latest"]

theorem documentPadded_sample : DocumentPadded (sampleDocument sampleTag) samplePadded := by
  have hcrypto : CryptoPadded
      (.mk "crypto" [.argument (.text "openssl")]
        (some [leaf "note" "static", leaf "shared-objects" "libssl"]))
      (.mk "crypto" [.argument (.text "openssl")]
        (some [block "notes" [leaf "shared-objects" "libz"], leaf "note" "static",
          leaf "shared-objects" "libssl"])) :=
    .block _ (.put (by decide) (.keep rfl (.keep rfl .nil)))
  refine .put (by decide) (.keep (.inl (.same _)) (.keep (.inl (.block _ ?builder))
    (.keep (.inr (.block _ ?runtime)) (.put (by decide) .nil))))
  case builder =>
    exact .put (by decide) (.keep (.same _) (.keep hcrypto
      (.keep (.same _) (.keep (.same _) (.keep (.same _) (.keep (.same _) .nil))))))
  case runtime => exact .keep rfl (.keep rfl (.put (by decide) (.keep rfl .nil)))

/-- A document that is refused for the package manager that it names. -/
def sampleRefused (others : List Node) : List Node := [
  leaf "pipeline" "service",
  block "builder" (others ++ [leaf "package-manager" "yum"]),
  block "runtime" []]

theorem ofDocument_samplePadded :
    DocumentPadded (sampleDocument sampleTag) samplePadded ∧
      ofDocument samplePadded "/repo" (sampleVariables "fast") = .ok (sampleDefinition "fast") ∧
      ofDocument (sampleRefused [leaf "image" "scratch"]) "/repo" (sampleVariables "fast") =
        .error (.invalidValue "package-manager" "unknown package manager: yum") := by
  have hsample : ofDocument (sampleDocument sampleTag) "/repo" (sampleVariables "fast") =
      .ok (sampleDefinition "fast") := by decide +kernel
  have hrefused : DocumentPadded (sampleRefused []) (sampleRefused [leaf "image" "scratch"]) :=
    .keep (.inl (.same _)) (.keep (.inl (.block _ (.put (by decide) (.keep (.same _) .nil))))
      (.keep (.inr (.same _)) .nil))
  refine ⟨documentPadded_sample, ?_, ?_⟩
  · rw [← ofDocument_eq_of_padded documentPadded_sample, hsample]
  · rw [← ofDocument_eq_of_padded hrefused]
    decide +kernel

end PipelineFile

end SealedBuild
