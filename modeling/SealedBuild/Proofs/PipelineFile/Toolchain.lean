import SealedBuild.Proofs.PipelineFile.Unknown
import SealedBuild.Proofs.Text.Cuts

/-!
# Spellings of a toolchain

A toolchain is declared by its image and its version apart, or by both in one text with a colon
between. Such a text is cut at its last colon. What stands behind that colon is the version, unless
it holds a slash: then the colon is that of a registry's port, and there is no version. So each
spelling may take the place of the other, and a file with either of them declares the same, or is
refused for the same reason.

The nodes of an `env` block are variables. The name of a toolchain makes no toolchain of one, so
they are not spelled otherwise here.
-/

namespace SealedBuild

namespace Node

/-- A node gives an image and a version in one text, and no other version. -/
structure Joined (repository version : String) (node : Node) : Prop where
  firstText : node.firstText? = some (repository ++ ":" ++ version)
  unversioned : node.textProperty? "version" = none

/-- A node gives an image in a text, and a version as a property. -/
structure Apart (repository version : String) (node : Node) : Prop where
  firstText : node.firstText? = some repository
  versioned : node.textProperty? "version" = some version

/-- Toolchains that the first node gives in one text, at any depth, are given apart in the second
one, whatever else they hold. -/
inductive Respelled : Node → Node → Prop where
  | same (node : Node) : Respelled node node
  | toolchain {repository version : String} {entries entries' : List Entry}
      {children : Option (List Node)} (hcolon : ':' ∉ version.toList)
      (hslash : '/' ∉ version.toList)
      (hjoined : Joined repository version (.mk "toolchain" entries children))
      (hapart : Apart repository version (.mk "toolchain" entries' children)) :
      Respelled (.mk "toolchain" entries children) (.mk "toolchain" entries' children)
  | block {name : String} (entries : List Entry) {children children' : List Node}
      (hname : name ≠ "env") (h : List.Forall₂ Respelled children children') :
      Respelled (.mk name entries (some children)) (.mk name entries (some children'))

namespace Respelled

variable {node node' : Node}

/-- The plain spellings, each followed by the same other entries. -/
theorem of_entries {repository version : String} {entries : List Entry}
    (children : Option (List Node)) (hcolon : ':' ∉ version.toList)
    (hslash : '/' ∉ version.toList)
    (hversion : entries.filterMap (Entry.valueOf? "version") = []) :
    Respelled
      (.mk "toolchain" (.argument (.text (repository ++ ":" ++ version)) :: entries) children)
      (.mk "toolchain"
        (.argument (.text repository) :: .property "version" (.text version) :: entries)
        children) := by
  refine .toolchain hcolon hslash ⟨rfl, ?_⟩ ⟨rfl, ?_⟩
  · change (entries.filterMap (Entry.valueOf? "version")).getLast?.bind Value.text? = none
    rw [hversion]
    rfl
  · change (Value.text version :: entries.filterMap (Entry.valueOf? "version")).getLast?.bind
      Value.text? = some version
    rw [hversion]
    rfl

theorem name_eq (h : Respelled node node') : node.name = node'.name := by
  cases h <;> rfl

/-- Only a toolchain has other entries. -/
theorem entries_eq (h : Respelled node node') (hname : node.name ≠ "toolchain") :
    node.entries = node'.entries := by
  cases h with
  | same => rfl
  | toolchain => exact (hname rfl).elim
  | block => rfl

theorem firstText?_eq (h : Respelled node node') (hname : node.name ≠ "toolchain") :
    node.firstText? = node'.firstText? := by
  rw [firstText?, arguments, h.entries_eq hname]
  rfl

theorem texts_eq (h : Respelled node node') (hname : node.name ≠ "toolchain") :
    node.texts = node'.texts := by
  rw [texts, arguments, h.entries_eq hname]
  rfl

end Respelled

/-- Nothing is put in where the nodes are changed one by one. -/
theorem Padded.of_forall₂ {known : List String} {change : Node → Node → Prop}
    {nodes nodes' : List Node} (h : List.Forall₂ change nodes nodes') :
    Padded known change nodes nodes' := by
  induction h with
  | nil => exact .nil
  | cons hnode _ ih => exact .keep hnode ih

end Node

namespace PipelineFile

open Node

variable {node node' : Node} {baseDir : String} {vars : Variables}

/-! ## One declaration -/

/-- The image and the version are what a reference has on the two sides of its last colon. -/
theorem cutLast_eq_some_iff_imageRef {text : String} {toolchain : Toolchain} :
    Text.cutLast ':' text.toList = some (toolchain.image.toList, toolchain.version.toList) ↔
      toolchain.imageRef = text ∧ ':' ∉ toolchain.version.toList := by
  rw [Text.cutLast_eq_some_iff, ← String.toList_inj, Toolchain.imageRef, String.toList_append,
    String.toList_append, eq_comm]
  simp

/-- A toolchain is read from a text alone exactly when the text is its reference, and neither a
colon nor a slash is in its version. -/
theorem toolchain_eq_ok_iff_of_unversioned {text : String} {toolchain : Toolchain}
    (htext : node.firstText? = some text) (hversion : node.textProperty? "version" = none) :
    PipelineFile.toolchain node = .ok toolchain ↔
      toolchain.imageRef = text ∧ ':' ∉ toolchain.version.toList ∧
        '/' ∉ toolchain.version.toList := by
  rw [← and_assoc, ← cutLast_eq_some_iff_imageRef]
  unfold PipelineFile.toolchain
  simp only [htext, hversion, require, bind, Except.bind]
  cases Text.cutLast ':' text.toList with
  | none =>
      refine iff_of_false throw_ne_ok ?_
      rintro ⟨hparts, -⟩
      cases hparts
  | some parts =>
      obtain ⟨repository, version⟩ := parts
      dsimp only
      by_cases hslash : '/' ∈ version
      · rw [if_pos (List.contains_iff_mem.mpr hslash)]
        refine iff_of_false throw_ne_ok ?_
        rintro ⟨hparts, hplain⟩
        cases hparts
        exact hplain hslash
      · rw [if_neg (mt List.contains_iff_mem.mp hslash)]
        constructor
        · intro hread
          cases hread
          simpa using hslash
        · rintro ⟨hparts, -⟩
          cases hparts
          simp [pure, Except.pure]

/-- The port of a registry is no version. -/
example : PipelineFile.toolchain (leaf "toolchain" "localhost:5000/rust") =
    .error (.missing "version for toolchain 'localhost:5000/rust'") := by
  decide +kernel

theorem toolchain_of_apart {repository version : String} (h : Apart repository version node) :
    PipelineFile.toolchain node = .ok ⟨repository, version⟩ := by
  simp only [PipelineFile.toolchain, h.firstText, h.versioned, require]
  rfl

/-- Both spellings are read as one toolchain, or as none. -/
theorem toolchain_eq_of_respelled (h : Respelled node node') :
    PipelineFile.toolchain node = PipelineFile.toolchain node' := by
  cases h with
  | same => rfl
  | @toolchain repository version entries entries' children hcolon hslash hjoined hapart =>
      rw [toolchain_of_apart hapart]
      exact (toolchain_eq_ok_iff_of_unversioned hjoined.firstText hjoined.unversioned).mpr
        ⟨rfl, hcolon, hslash⟩
  | block => rfl

/-! ## The builder block -/

/-- Of the children of a linkage none is a toolchain. -/
theorem find?_texts_eq_of_respelled {nodes nodes' : List Node} {name : String}
    (hname : name ≠ "toolchain") (h : List.Forall₂ Respelled nodes nodes') :
    (nodes.find? fun node => node.name = name).elim [] texts =
      (nodes'.find? fun node => node.name = name).elim [] texts := by
  induction h with
  | nil => rfl
  | @cons node node' nodes nodes' hnode _ ih =>
      rw [List.find?_cons, List.find?_cons, ← hnode.name_eq]
      by_cases hfound : node.name = name
      · simp [hfound, hnode.texts_eq (hfound ▸ hname)]
      · simpa [hfound] using ih

theorem crypto_eq_of_respelled {children children' : List Node} (name : String)
    (entries : List Entry) (h : List.Forall₂ Respelled children children') :
    crypto (.mk name entries (some children)) = crypto (.mk name entries (some children')) := by
  have hother : "shared-objects" ≠ "toolchain" := by decide
  have hstems : sharedObjects (.mk name entries (some children)) =
      sharedObjects (.mk name entries (some children')) := by
    simp only [sharedObjects, children?, Option.getD_some, find?_texts_eq_of_respelled hother h]
    rfl
  simp only [crypto, hstems]
  rfl

/-- Only linkages and blocks of variables are told by what is in them. -/
theorem BuilderDraft.add_eq_of_respelled (draft : BuilderDraft) (node node' : Node)
    (h : Respelled node node') : draft.add baseDir node = draft.add baseDir node' := by
  have htoolchain := toolchain_eq_of_respelled h
  cases h with
  | same => rfl
  | toolchain => simp only [add, name, htoolchain]
  | block entries hname h =>
      unfold add
      dsimp only [name]
      split
      · rfl
      · rfl
      · rfl
      · rw [crypto_eq_of_respelled "crypto" entries h]
      · rfl
      · rfl
      · exact (hname rfl).elim
      · rfl
      · rfl
      · rfl

theorem builder_eq_of_respelled (h : Respelled node node') :
    builder baseDir node = builder baseDir node' := by
  cases h with
  | same => rfl
  | toolchain => rfl
  | block entries hname h =>
      exact congrArg (· >>= BuilderDraft.finish)
        ((Padded.of_forall₂ h).foldlM_eq BuilderDraft.add_of_unknown
          BuilderDraft.add_eq_of_respelled {})

/-! ## The runtime block -/

/-- No node of a runtime block is a toolchain. -/
theorem RuntimeDraft.add_eq_of_respelled (draft : RuntimeDraft) (node node' : Node)
    (h : Respelled node node') : draft.add vars node = draft.add vars node' := by
  cases h with
  | same => rfl
  | toolchain => rfl
  | block entries hname h =>
      unfold add
      dsimp only [name]
      split <;> rfl

theorem runtime_eq_of_respelled (h : Respelled node node') :
    runtime vars node = runtime vars node' := by
  cases h with
  | same => rfl
  | toolchain => rfl
  | block entries hname h =>
      exact congrArg (· >>= RuntimeDraft.finish)
        ((Padded.of_forall₂ h).foldlM_eq RuntimeDraft.add_of_unknown
          RuntimeDraft.add_eq_of_respelled {})

/-! ## The whole file -/

/-- Two drafts hold one name, and blocks that are read alike. -/
structure FileDraft.Alike (baseDir : String) (draft draft' : FileDraft) : Prop where
  name : draft.name = draft'.name
  builder : Option.Rel
    (fun node node' => PipelineFile.builder baseDir node = PipelineFile.builder baseDir node')
    draft.builder draft'.builder
  runtime : Option.Rel
    (fun node node' => ∀ vars, PipelineFile.runtime vars node = PipelineFile.runtime vars node')
    draft.runtime draft'.runtime

theorem FileDraft.add_alike_of_respelled (draft draft' : FileDraft) (node node' : Node)
    (hdraft : draft.Alike baseDir draft') (h : Respelled node node') :
    EndAlike (· = ·) (FileDraft.Alike baseDir) (draft.add node) (draft'.add node') := by
  obtain ⟨hnamed, hbuilder, hruntime⟩ := hdraft
  unfold add
  rw [← h.name_eq]
  split
  · next hname =>
    rw [h.firstText?_eq (by simp [hname])]
    exact EndAlike.bind_self fun name _ => .ok ⟨rfl, hbuilder, hruntime⟩
  · generalize draft.builder = builder?, draft'.builder = builder?' at hbuilder ⊢
    cases hbuilder with
    | none => exact .ok ⟨hnamed, .some (builder_eq_of_respelled h), hruntime⟩
    | some => exact .error rfl
  · generalize draft.runtime = runtime?, draft'.runtime = runtime?' at hruntime ⊢
    cases hruntime with
    | none => exact .ok ⟨hnamed, hbuilder, .some fun vars => runtime_eq_of_respelled h⟩
    | some => exact .error rfl
  · exact .ok ⟨hnamed, hbuilder, hruntime⟩

/-- A file goes on alike from drafts whose blocks are read alike. -/
theorem ofDocument_eq_of_alike {document document' : List Node}
    (h : EndAlike (· = ·) (FileDraft.Alike baseDir) (document.foldlM FileDraft.add {})
      (document'.foldlM FileDraft.add {})) (vars : Variables) :
    ofDocument document baseDir vars = ofDocument document' baseDir vars := by
  unfold ofDocument
  refine endAlike_eq_iff.mp (h.bind ?_)
  rintro ⟨name, builder?, runtime?⟩ ⟨_, builder?', runtime?'⟩ ⟨rfl, hbuilder, hruntime⟩
  rw [endAlike_eq_iff]
  dsimp only at hbuilder hruntime ⊢
  split
  · rfl
  · cases hbuilder with
    | none => rfl
    | @some builderNode builderNode' hbuilder =>
        cases hruntime with
        | none => rfl
        | some hruntime =>
            change (builder baseDir builderNode >>= _) = (builder baseDir builderNode' >>= _)
            rw [hbuilder]
            refine bind_congr fun raw => ?_
            rw [hruntime]

theorem ofDocument_eq_of_respelled {document document' : List Node}
    (h : List.Forall₂ Respelled document document') (baseDir : String) (vars : Variables) :
    ofDocument document baseDir vars = ofDocument document' baseDir vars :=
  ofDocument_eq_of_alike ((Padded.of_forall₂ h).foldlM_alike FileDraft.add_of_unknown
    FileDraft.add_alike_of_respelled ⟨rfl, .none, .none⟩) vars

/-- The two spellings of a toolchain agree. Where a file gives repository and version in one text,
it may give them apart, and it declares the same or is refused for the same reason. A text alone is
read exactly as the toolchain that it is the reference of, with no colon and no slash in the
version, so that the port of a registry is no version. -/
theorem toolchain_spellings_agree :
    (∀ document document' : List Node, List.Forall₂ Respelled document document' →
      ∀ (baseDir : String) (vars : Variables),
        ofDocument document baseDir vars = ofDocument document' baseDir vars) ∧
      ∀ (node : Node) (text : String), node.firstText? = some text →
        node.textProperty? "version" = none →
        ∀ toolchain : Toolchain, PipelineFile.toolchain node = .ok toolchain ↔
          toolchain.imageRef = text ∧ ':' ∉ toolchain.version.toList ∧
            '/' ∉ toolchain.version.toList := by
  constructor
  · intro document document' h baseDir vars
    exact ofDocument_eq_of_respelled h baseDir vars
  · intro node text htext hversion toolchain
    exact toolchain_eq_ok_iff_of_unversioned htext hversion

/-- A file in which a node declares the toolchain. -/
def sampleDeclaring (toolchain : Node) : List Node := [
  leaf "pipeline" "service",
  block "builder" [
    toolchain,
    leaf "crypto" "openssl",
    leaf "run" "make",
    leaf "artifact" "/out/service"],
  block "runtime" [
    leaf "image" "scratch",
    leaf "destination" "/service"]]

/-- A toolchain of that repository, with its version apart. -/
def sampleApart (version : String) : Node :=
  .mk "toolchain" [.argument (.text "rust"), .property "version" (.text version)] none

theorem respelled_sampleDeclaring {toolchain toolchain' : Node}
    (h : Respelled toolchain toolchain') :
    List.Forall₂ Respelled (sampleDeclaring toolchain) (sampleDeclaring toolchain') := by
  have hbuilder : "builder" ≠ "env" := by decide
  refine .cons (.same _) (.cons (.block [] hbuilder ?_) (.cons (.same _) .nil))
  exact .cons h (.cons (.same _) (.cons (.same _) (.cons (.same _) .nil)))

theorem toolchain_spellings_sample :
    List.Forall₂ Respelled (sampleDeclaring (leaf "toolchain" "rust:1.75"))
        (sampleDeclaring (sampleApart "1.75")) ∧
      (ofDocument (sampleDeclaring (sampleApart "1.75")) "/repo" {}).map
          (fun definition => definition.builder.environment.toolchain) = .ok ⟨"rust", "1.75"⟩ ∧
      ofDocument (sampleDeclaring (sampleApart "latest")) "/repo" {} =
        .error (.invalid (.environment (.unpinnedToolchain "rust:latest"))) ∧
      PipelineFile.toolchain (leaf "toolchain" "localhost:5000/rust:1.75") =
        .ok ⟨"localhost:5000/rust", "1.75"⟩ := by
  obtain ⟨hfiles, htexts⟩ := toolchain_spellings_agree
  have hrespelled (version : String) (hcolon : ':' ∉ version.toList)
      (hslash : '/' ∉ version.toList) :
      Respelled (leaf "toolchain" ("rust" ++ ":" ++ version)) (sampleApart version) :=
    .of_entries none hcolon hslash rfl
  have hpinned := respelled_sampleDeclaring (hrespelled "1.75" (by decide) (by decide))
  have hfloating := respelled_sampleDeclaring (hrespelled "latest" (by decide) (by decide))
  refine ⟨hpinned, ?_, ?_, ?_⟩
  · rw [← hfiles _ _ hpinned]
    decide +kernel
  · rw [← hfiles _ _ hfloating]
    decide +kernel
  · rw [htexts _ "localhost:5000/rust:1.75" rfl rfl]
    decide

end PipelineFile

end SealedBuild
