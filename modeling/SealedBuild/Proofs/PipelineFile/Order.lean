import Mathlib.Data.List.Forall2
import SealedBuild.Proofs.PipelineFile.Drafts

/-!
# The order of declarations

Siblings of different names may change places in a pipeline file, at the top and in every block,
and the file declares what it declared. Siblings of one name keep their order: the last toolchain
counts, and commands run as they stand.
-/

namespace SealedBuild

open PipelineFile

namespace Node

theorem forall_named_iff {nodes : List Node} {holds : Node → Prop} :
    (∀ name, ∀ node ∈ named name nodes, holds node) ↔ ∀ node ∈ nodes, holds node := by
  simp only [mem_named]
  exact ⟨fun h node hnode => h node.name node ⟨hnode, rfl⟩, fun h _ node hnode => h node hnode.1⟩

/-- A node whose siblings, at any depth, have changed places with siblings of other names. -/
inductive Reordered : Node → Node → Prop where
  | bare (name : String) (entries : List Entry) :
      Reordered (.mk name entries none) (.mk name entries none)
  | block (name : String) (entries : List Entry) {children children' : List Node}
      (h : ∀ key, List.Forall₂ Reordered (named key children) (named key children')) :
      Reordered (.mk name entries (some children)) (.mk name entries (some children'))

/-- The siblings of each name come in one order in both lists, themselves reordered within. -/
def Rearranged (nodes nodes' : List Node) : Prop :=
  ∀ key, List.Forall₂ Reordered (named key nodes) (named key nodes')

theorem Reordered.refl : ∀ node : Node, node.Reordered node
  | .mk name entries none => .bare name entries
  | .mk name entries (some children) => .block name entries fun key =>
      List.forall₂_same.mpr fun child _hchild => Reordered.refl child
decreasing_by
  have hsize := List.sizeOf_lt_of_mem (mem_named.mp _hchild).1
  simp only [mk.sizeOf_spec, Option.some.sizeOf_spec]
  omega

/-- Siblings that change places, and nothing else. -/
theorem rearranged_of_named_eq {nodes nodes' : List Node}
    (h : ∀ key, named key nodes = named key nodes') : Rearranged nodes nodes' := fun key =>
  h key ▸ List.forall₂_same.mpr fun node _ => .refl node

namespace Reordered

variable {α : Type} {node node' : Node}

/-- What does not look at the children is not changed. -/
theorem eq_of_entries (h : node.Reordered node') (read : Node → α)
    (hread : ∀ name entries children children',
      read (.mk name entries children) = read (.mk name entries children')) :
    read node = read node' := by
  cases h with
  | bare => rfl
  | block => exact hread _ _ _ _

theorem name_eq (h : node.Reordered node') : node.name = node'.name :=
  h.eq_of_entries name fun _ _ _ _ => rfl

theorem firstText?_eq (h : node.Reordered node') : node.firstText? = node'.firstText? :=
  h.eq_of_entries firstText? fun _ _ _ _ => rfl

theorem texts_eq (h : node.Reordered node') : node.texts = node'.texts :=
  h.eq_of_entries texts fun _ _ _ _ => rfl

theorem textProperty?_eq (h : node.Reordered node') (key : String) :
    node.textProperty? key = node'.textProperty? key :=
  h.eq_of_entries (fun node => node.textProperty? key) fun _ _ _ _ => rfl

end Reordered

namespace Rearranged

variable {α : Type} {nodes nodes' : List Node}

/-- A node may come behind siblings of other names. -/
theorem cons_middle {node node' : Node} (front : List Node) {back : List Node}
    (hnode : node.Reordered node') (hfront : ∀ other ∈ front, other.name ≠ node.name)
    (h : Rearranged nodes (front ++ back)) :
    Rearranged (node :: nodes) (front ++ node' :: back) := by
  intro key
  have hrest := h key
  rw [named, named, List.filter_append] at hrest
  rw [named, named, List.filter_append, List.filter_cons, List.filter_cons, ← hnode.name_eq]
  by_cases hkey : node.name = key
  · have hnone : front.filter (fun other => other.name = key) = [] := by
      rw [List.filter_eq_nil_iff]
      intro other hother
      simpa [← hkey] using hfront other hother
    rw [hnone, List.nil_append] at hrest ⊢
    simpa [hkey] using ⟨hnode, hrest⟩
  · simpa [hkey] using hrest

theorem readings_eq (h : Rearranged nodes nodes') (name : String) {read : Node → α}
    (hread : ∀ node node', Reordered node node' → read node = read node') :
    readings name read nodes = readings name read nodes' := by
  have hnamed := h name
  rw [readings, readings]
  generalize named name nodes = items, named name nodes' = items' at hnamed ⊢
  induction hnamed with
  | nil => rfl
  | cons hnode _ ih => rw [List.map_cons, List.map_cons, hread _ _ hnode, ih]

theorem head?_rel (h : Rearranged nodes nodes') (name : String) :
    Option.Rel Reordered (named name nodes).head? (named name nodes').head? := by
  have hnamed := h name
  generalize named name nodes = items, named name nodes' = items' at hnamed ⊢
  cases hnamed with
  | nil => exact .none
  | cons hnode _ => exact .some hnode

theorem forall_iff (h : Rearranged nodes nodes') {holds : Node → Prop}
    (hholds : ∀ node node', Reordered node node' → (holds node ↔ holds node')) :
    (∀ node ∈ nodes, holds node) ↔ ∀ node ∈ nodes', holds node := by
  have hnamed : ∀ name, (∀ node ∈ named name nodes, holds node) ↔
      ∀ node ∈ named name nodes', holds node := by
    intro name
    have hname := h name
    generalize named name nodes = items, named name nodes' = items' at hname ⊢
    induction hname with
    | nil => rfl
    | cons hnode _ ih =>
        rw [List.forall_mem_cons, List.forall_mem_cons]
        exact and_congr (hholds _ _ hnode) ih
  rw [← forall_named_iff, ← forall_named_iff]
  exact forall_congr' hnamed

end Rearranged

end Node

namespace PipelineFile

open Node

variable {node node' : Node} {nodes nodes' : List Node}

theorem toolchain_eq_of_reordered (h : node.Reordered node') : toolchain node = toolchain node' :=
  h.eq_of_entries toolchain fun _ _ _ _ => rfl

theorem packageManager?_eq_of_reordered (h : node.Reordered node') :
    packageManager? node = packageManager? node' :=
  h.eq_of_entries packageManager? fun _ _ _ _ => rfl

theorem find?_elim_texts {name : String} :
    (nodes.find? fun node => node.name = name).elim [] texts =
      (readings name texts nodes).head?.getD [] := by
  rw [readings, List.head?_map, named, List.head?_filter]
  cases nodes.find? fun node => decide (node.name = name) <;> rfl

/-- Of the children of a linkage only the first of one name counts. -/
theorem sharedObjects_eq_of_reordered (h : node.Reordered node') :
    sharedObjects node = sharedObjects node' := by
  cases h with
  | bare => rfl
  | block name entries h =>
      have htexts := Rearranged.readings_eq h "shared-objects" fun _ _ hchild => hchild.texts_eq
      simp only [sharedObjects, children?, Option.getD_some, find?_elim_texts, htexts]
      rfl

theorem crypto_eq_of_reordered (h : node.Reordered node') : crypto node = crypto node' := by
  have hstatic : node.truthProperty? "static" = node'.truthProperty? "static" :=
    h.eq_of_entries (fun node => node.truthProperty? "static") fun _ _ _ _ => rfl
  simp only [crypto, h.firstText?_eq, h.textProperty?_eq, sharedObjects_eq_of_reordered h, hstatic]

/-- The bindings of one name, in order, are the texts of the children of that name. -/
theorem filter_bindings {name key : String} {entries : List Entry} {children : List Node} :
    (bindings (.mk name entries (some children))).filter (fun binding => binding.1 = key) =
      (readings key Node.firstText? children).reduceOption.map fun value => (key, value) := by
  have hblock : bindings (.mk name entries (some children)) =
      children.filterMap fun child => child.firstText?.map fun value => (child.name, value) := rfl
  rw [hblock]
  simp only [readings, named, List.reduceOption, List.filter_filterMap, List.filterMap_map,
    List.map_filterMap, List.filterMap_filter]
  congr 1
  funext child
  by_cases hname : child.name = key <;> cases hread : child.firstText? <;> simp [hname, hread]

theorem filter_bindings_eq_of_reordered (h : node.Reordered node') (key : String) :
    (bindings node).filter (fun binding => binding.1 = key) =
      (bindings node').filter fun binding => binding.1 = key := by
  cases h with
  | bare => rfl
  | block name entries h =>
      rw [filter_bindings, filter_bindings,
        Rearranged.readings_eq h key fun _ _ hchild => hchild.firstText?_eq]

/-- Rearranged blocks bind the same variables, although not in the same order. -/
theorem ofList_bindings_eq (h : Rearranged nodes nodes') :
    VarMap.ofList (readings "env" bindings nodes).flatten =
      VarMap.ofList (readings "env" bindings nodes').flatten := by
  apply VarMap.ofList_congr
  intro key
  rw [List.filter_flatten, List.filter_flatten, readings, List.map_map, readings, List.map_map]
  exact congrArg List.flatten
    (h.readings_eq "env" fun _ _ hnode => filter_bindings_eq_of_reordered hnode key)

theorem BuilderDraft.readable_iff_of_reordered (h : node.Reordered node') :
    Readable node ↔ Readable node' := by
  have htruth : node.firstTruth? = node'.firstTruth? :=
    h.eq_of_entries firstTruth? fun _ _ _ _ => rfl
  rw [Readable, Readable, h.name_eq, toolchain_eq_of_reordered h, packageManager?_eq_of_reordered h,
    crypto_eq_of_reordered h, htruth, h.firstText?_eq]

theorem BuilderDraft.ofNodes_eq (h : Rearranged nodes nodes') (baseDir : String) :
    ofNodes baseDir nodes = ofNodes baseDir nodes' := by
  have htext : ∀ name, readings name Node.firstText? nodes = readings name Node.firstText? nodes' :=
    fun name => h.readings_eq name fun _ _ hnode => hnode.firstText?_eq
  have htruth :
      readings "strip" Node.firstTruth? nodes = readings "strip" Node.firstTruth? nodes' :=
    h.readings_eq "strip" fun _ _ hnode => hnode.eq_of_entries firstTruth? fun _ _ _ _ => rfl
  rw [ofNodes, ofNodes,
    h.readings_eq "toolchain" fun _ _ hnode => toolchain_eq_of_reordered hnode,
    h.readings_eq "package-manager" fun _ _ hnode => packageManager?_eq_of_reordered hnode,
    h.readings_eq "packages" fun _ _ hnode => hnode.texts_eq,
    h.readings_eq "crypto" fun _ _ hnode => crypto_eq_of_reordered hnode,
    ofList_bindings_eq h, htruth, htext, htext, htext]

theorem builder_eq_ok_iff_of_reordered (h : node.Reordered node') {baseDir : String}
    {spec : BuilderSpec} : builder baseDir node = .ok spec ↔ builder baseDir node' = .ok spec := by
  cases h with
  | bare => rfl
  | block name entries h =>
      simp only [builder_eq_ok_iff, children?, Option.some.injEq, exists_eq_left']
      rw [BuilderDraft.ofNodes_eq h,
        Rearranged.forall_iff h fun _ _ => BuilderDraft.readable_iff_of_reordered]

theorem RuntimeDraft.readable_iff_of_reordered {vars : Variables} (h : node.Reordered node') :
    Readable vars node ↔ Readable vars node' := by
  rw [Readable, Readable, h.name_eq, h.firstText?_eq]

theorem RuntimeDraft.ofNodes_eq (h : Rearranged nodes nodes') (vars : Variables) :
    ofNodes vars nodes = ofNodes vars nodes' := by
  have htext : ∀ name, readings name Node.firstText? nodes = readings name Node.firstText? nodes' :=
    fun name => h.readings_eq name fun _ _ hnode => hnode.firstText?_eq
  rw [ofNodes, ofNodes, h.readings_eq "entrypoint" fun _ _ hnode => hnode.texts_eq, htext, htext,
    htext]

theorem runtime_eq_ok_iff_of_reordered (h : node.Reordered node') {vars : Variables}
    {spec : RuntimeSpec} : runtime vars node = .ok spec ↔ runtime vars node' = .ok spec := by
  cases h with
  | bare => rfl
  | block name entries h =>
      simp only [runtime_eq_ok_iff, children?, Option.some.injEq, exists_eq_left']
      rw [RuntimeDraft.ofNodes_eq h,
        Rearranged.forall_iff h fun _ _ => RuntimeDraft.readable_iff_of_reordered]

theorem FileDraft.readable_iff_of_rearranged (h : Rearranged nodes nodes') :
    Readable nodes ↔ Readable nodes' := by
  rw [readable_iff, readable_iff, h.readings_eq "pipeline" fun _ _ hnode => hnode.firstText?_eq,
    (h "builder").length_eq, (h "runtime").length_eq]

theorem FileDraft.name_eq (h : Rearranged nodes nodes') :
    (ofNodes nodes).name = (ofNodes nodes').name := by
  rw [ofNodes, ofNodes, h.readings_eq "pipeline" fun _ _ hnode => hnode.firstText?_eq]

/-- A document whose declarations have changed places, at the top and in its blocks, without
passing another of their name, declares what it declared. -/
theorem ofDocument_eq_ok_iff_of_rearranged {document document' : List Node}
    (h : Rearranged document document') (baseDir : String) (vars : Variables)
    (definition : PipelineDefinition) :
    ofDocument document baseDir vars = .ok definition ↔
      ofDocument document' baseDir vars = .ok definition := by
  have hbuilder : Option.Rel Reordered (FileDraft.ofNodes document).builder
      (FileDraft.ofNodes document').builder := h.head?_rel "builder"
  have hruntime : Option.Rel Reordered (FileDraft.ofNodes document).runtime
      (FileDraft.ofNodes document').runtime := h.head?_rel "runtime"
  rw [ofDocument_eq_ok_iff, ofDocument_eq_ok_iff, FileDraft.name_eq h,
    FileDraft.readable_iff_of_rearranged h]
  generalize (FileDraft.ofNodes document).builder = builder?,
    (FileDraft.ofNodes document').builder = builder?' at hbuilder ⊢
  generalize (FileDraft.ofNodes document).runtime = runtime?,
    (FileDraft.ofNodes document').runtime = runtime?' at hruntime ⊢
  cases hbuilder with
  | none => simp
  | some hbuilder =>
      cases hruntime with
      | none => simp
      | some hruntime =>
          simp only [Option.some.injEq, exists_eq_left', builder_eq_ok_iff_of_reordered hbuilder,
            runtime_eq_ok_iff_of_reordered hruntime]

/-- The sample with every block turned about. -/
def sampleRearranged : List Node := [
  block "runtime" [
    sampleTag,
    leaf "destination" "/service",
    leaf "image" "scratch"],
  block "builder" [
    leaf "run" ("make " ++ hostReference "MODE"),
    leaf "artifact" "/out/service",
    block "env" [leaf "MODE" (hostReference "MODE"), leaf "CC" "gcc"],
    leaf "run" "make install",
    .mk "crypto" [.argument (.text "openssl")]
      (some [leaf "shared-objects" "libssl", leaf "note" "static"]),
    leaf "toolchain" "rust:1.75"],
  leaf "pipeline" "service"]

theorem rearranged_sample : Rearranged (sampleDocument sampleTag) sampleRearranged := by
  have hnil : Rearranged [] [] := rearranged_of_named_eq fun _ => rfl
  have hcrypto : Rearranged [leaf "note" "static", leaf "shared-objects" "libssl"]
      [leaf "shared-objects" "libssl", leaf "note" "static"] :=
    .cons_middle [_] (.refl _) (by decide) (.cons_middle [] (.refl _) (by decide) hnil)
  have henv : Rearranged [leaf "CC" "gcc", leaf "MODE" (hostReference "MODE")]
      [leaf "MODE" (hostReference "MODE"), leaf "CC" "gcc"] :=
    .cons_middle [_] (.refl _) (by decide) (.cons_middle [] (.refl _) (by decide) hnil)
  apply Rearranged.cons_middle [_, _] (.refl _) (by decide)
  apply Rearranged.cons_middle [_] (.block _ _ ?_) (by decide)
  · apply Rearranged.cons_middle [] (.block _ _ ?_) (by decide) hnil
    apply Rearranged.cons_middle [_, _] (.refl _) (by decide)
    apply Rearranged.cons_middle [_] (.refl _) (by decide)
    exact .cons_middle [] (.refl _) (by decide) hnil
  · apply Rearranged.cons_middle [_, _, _, _, _] (.refl _) (by decide)
    apply Rearranged.cons_middle [_, _, _, _] (.block _ _ hcrypto) (by decide)
    apply Rearranged.cons_middle [_, _] (.block _ _ henv) (by decide)
    apply Rearranged.cons_middle [] (.refl _) (by decide)
    apply Rearranged.cons_middle [_] (.refl _) (by decide)
    exact .cons_middle [] (.refl _) (by decide) hnil

theorem ofDocument_sampleRearranged :
    Rearranged (sampleDocument sampleTag) sampleRearranged ∧
      ofDocument (sampleDocument sampleTag) "/repo" (sampleVariables "fast") =
        .ok (sampleDefinition "fast") ∧
      ofDocument sampleRearranged "/repo" (sampleVariables "fast") =
        .ok (sampleDefinition "fast") := by
  have hsample : ofDocument (sampleDocument sampleTag) "/repo" (sampleVariables "fast") =
      .ok (sampleDefinition "fast") := by decide +kernel
  exact ⟨rearranged_sample, hsample,
    (ofDocument_eq_ok_iff_of_rearranged rearranged_sample _ _ _).mp hsample⟩

end PipelineFile

end SealedBuild
