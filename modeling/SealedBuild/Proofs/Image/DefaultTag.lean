import SealedBuild.Proofs.Definition
import SealedBuild.Proofs.Image.Reference
import SealedBuild.RuntimeStage

/-!
# Default tags

An image without a declared tag gets the pipeline's name in lower case, a colon and the first
digits of the fingerprint. The colon that is put in is the last one behind the last slash,
whatever the name holds, so the whole is cut there again. What remains to be checked is the name
alone, and it is checked as a name: a name that has a tag of its own is refused.
-/

namespace SealedBuild

namespace ImageTag

variable {text : List Char}

/-- No colon stands behind the last slash. -/
def Untagged (text : List Char) : Prop :=
  ∀ before after, text = before ++ ':' :: after → '/' ∈ after

theorem split_eq_self_iff : split text = (text, none) ↔ Untagged text := by
  cases hcut : Text.cutLast ':' text with
  | none =>
      have hcolon := Text.cutLast_eq_none_iff.mp hcut
      have huntagged : Untagged text := by
        rintro before after rfl
        simp at hcolon
      exact iff_of_true (by simp only [split, hcut]) huntagged
  | some parts =>
      obtain ⟨front, last⟩ := parts
      obtain ⟨htext, hlast⟩ := Text.cutLast_eq_some_iff.mp hcut
      rw [split_of_cutLast hcut]
      constructor
      · -- The last colon has a slash behind it, and so has every colon before it.
        intro hsplit before after hcolon
        have hslash : '/' ∈ last := by
          by_contra hslash
          rw [if_neg hslash] at hsplit
          cases hsplit
        have hsuffix : last <:+ after := by
          have hback : last <:+ text := ⟨front ++ [':'], by simp [htext]⟩
          have hback' : ':' :: after <:+ text := ⟨before, hcolon.symm⟩
          rcases List.suffix_or_suffix_of_suffix hback hback' with h | h
          · rcases List.suffix_cons_iff.mp h with rfl | h
            · exact absurd List.mem_cons_self hlast
            · exact h
          · exact absurd (h.subset List.mem_cons_self) hlast
        exact hsuffix.subset hslash
      · exact fun huntagged => if_pos (huntagged front last htext)

theorem untagged_of_isName (h : IsName (Text.splitAt '/' text)) : Untagged text := by
  rw [← split_eq_self_iff]
  apply split_eq_none
  rw [← Text.splitAt_eq_splitOn]
  exact fun part hpart => (h.isComponent_last part hpart).not_mem.2

/-- A text is a name exactly when it is a reference without a tag. -/
theorem isName_iff {name : String} :
    IsName (Text.splitAt '/' name.toList) ↔ validate name = .ok () ∧ Untagged name.toList := by
  have huntagged (h : Untagged name.toList) :
      validate name = .ok () ↔ IsName (Text.splitAt '/' name.toList) := by
    rw [validate, mapError_eq_ok_iff, Reference.check_eq_ok_iff, Reference.ofText,
      split_eq_self_iff.mpr h]
    exact ⟨Reference.WellFormed.name, fun hname =>
      ⟨hname, fun tag htag => absurd htag (Option.not_mem_none tag)⟩⟩
  exact ⟨fun h => ⟨(huntagged (untagged_of_isName h)).mpr h, untagged_of_isName h⟩,
    fun h => (huntagged h.2).mp h.1⟩

/-- With a tag put behind it, a text is accepted exactly when it is a name. -/
theorem validate_append_tag_iff {name tag : String} (htag : IsTag tag.toList) :
    validate (name ++ ":" ++ tag) = .ok () ↔ validate name = .ok () ∧ Untagged name.toList := by
  have htext : (name ++ ":" ++ tag).toList = name.toList ++ ':' :: tag.toList := by simp
  obtain ⟨hslash, hcolon⟩ := htag.not_mem
  rw [← isName_iff, validate, mapError_eq_ok_iff, Reference.check_eq_ok_iff, Reference.ofText,
    htext, split_append_tag _ hcolon hslash]
  exact ⟨Reference.WellFormed.name, fun hname => ⟨hname, by simpa using htag⟩⟩

theorem validate_cases (reference : String) :
    validate reference = .ok () ∨
      ∃ fault, validate reference = .error (.invalidInput (faultText reference fault)) := by
  unfold validate
  cases check reference with
  | error fault => exact .inr ⟨fault, rfl⟩
  | ok _ => exact .inl rfl

end ImageTag

/-- The form of a fingerprint: sixty-four hexadecimal digits in lower case. -/
structure IsFingerprint (text : String) : Prop where
  length : text.length = 64
  digits : ∀ c ∈ text.toList, ('0' ≤ c ∧ c ≤ '9') ∨ ('a' ≤ c ∧ c ≤ 'f')

namespace Sha256

theorem length_digest (message : List UInt8) : (digest message).length = 32 := by
  simp [digest, wordBytes]

theorem digitChar_hex {n : Nat} (h : n < 16) :
    ('0' ≤ n.digitChar ∧ n.digitChar ≤ '9') ∨ ('a' ≤ n.digitChar ∧ n.digitChar ≤ 'f') := by
  revert n
  decide

theorem isFingerprint_hex (message : List UInt8) : IsFingerprint (hex message) where
  length := by
    simp [hex, hexByte, List.length_flatMap, length_digest]
  digits := by
    intro c hc
    rw [hex, String.toList_ofList] at hc
    obtain ⟨b, -, hc⟩ := List.mem_flatMap.mp hc
    have hb := b.toNat_lt
    simp only [hexByte, List.mem_cons, List.not_mem_nil, or_false] at hc
    rcases hc with rfl | rfl
    · exact digitChar_hex (by omega)
    · exact digitChar_hex (by omega)

end Sha256

/-- Every build has a fingerprint of that form. -/
theorem BuildEnvironment.isFingerprint_fingerprint (e : BuildEnvironment)
    (commands : List String) : IsFingerprint (e.fingerprint commands) :=
  Sha256.isFingerprint_hex _

namespace RuntimeStage

/-- The start of a fingerprint is a tag. -/
theorem isTag_short {fingerprint : String} (h : IsFingerprint fingerprint) :
    ImageTag.IsTag (fingerprint.toList.take shortFingerprint) := by
  have hlength : (fingerprint.toList.take shortFingerprint).length = 12 := by
    rw [List.length_take, String.length_toList, h.length]
    rfl
  have hletter : ∀ c ∈ fingerprint.toList.take shortFingerprint, ImageTag.IsAlphanumeric c := by
    intro c hc
    rcases h.digits c (List.mem_of_mem_take hc) with hdigit | ⟨hfirst, hlast⟩
    · exact .inl (.inr hdigit)
    · exact .inl (.inl ⟨hfirst, Char.le_trans hlast (by decide)⟩)
  exact {
    nonempty := by omega
    short := by omega
    first := fun c hc => .inl (hletter c (List.mem_of_mem_head? hc))
    chars := fun c hc => .inl (hletter c hc) }

/-- Without a given and a declared tag, an image gets its default tag exactly when the pipeline's
name in lower case is a usable reference without a tag of its own. Any other name is refused. -/
theorem resolveTag_default_iff (pipeline : String) {fingerprint : String} {spec : RuntimeSpec}
    (hundeclared : spec.tag = none) (hfingerprint : IsFingerprint fingerprint) :
    (resolveTag none pipeline spec fingerprint =
        .ok (Text.lowercase pipeline ++ ":" ++ String.ofList (fingerprint.toList.take 12)) ↔
      ImageTag.validate (Text.lowercase pipeline) = .ok () ∧
        ImageTag.Untagged (Text.lowercase pipeline).toList) ∧
    (¬ (ImageTag.validate (Text.lowercase pipeline) = .ok () ∧
        ImageTag.Untagged (Text.lowercase pipeline).toList) →
      ∃ reason, resolveTag none pipeline spec fingerprint = .error (.invalidInput reason)) := by
  have hresolve : resolveTag none pipeline spec fingerprint =
      (do
        ImageTag.validate (defaultTag pipeline fingerprint)
        pure (defaultTag pipeline fingerprint)) := by
    rw [resolveTag, hundeclared]
    rfl
  have hdefault : Text.lowercase pipeline ++ ":" ++ String.ofList (fingerprint.toList.take 12) =
      defaultTag pipeline fingerprint := rfl
  have htag : ImageTag.IsTag
      (String.ofList (fingerprint.toList.take shortFingerprint)).toList := by
    rw [String.toList_ofList]
    exact isTag_short hfingerprint
  rw [hresolve, hdefault, ← ImageTag.validate_append_tag_iff htag, ← defaultTag]
  refine ⟨check_bind_eq_ok_iff.trans (and_iff_left rfl), fun hrefused => ?_⟩
  obtain ⟨fault, hfault⟩ := (ImageTag.validate_cases _).resolve_left hrefused
  exact ⟨_, by rw [hfault]; rfl⟩

/-- A runtime stage without a tag. -/
def untagged : RuntimeSpec :=
  { PipelineDefinition.sample.runtime with tag := none }

/-- The port of a registry is no tag, and a tag of its own keeps a name from having another. -/
theorem resolveTag_registry_port :
    IsFingerprint PipelineDefinition.sample.fingerprint ∧
      resolveTag none "Registry.Local:5000/Service" untagged PipelineDefinition.sample.fingerprint =
        .ok ("registry.local:5000/service" ++ ":" ++
          String.ofList (PipelineDefinition.sample.fingerprint.toList.take 12)) ∧
      ∃ reason, resolveTag none "Service:1" untagged PipelineDefinition.sample.fingerprint =
        .error (.invalidInput reason) := by
  have hfingerprint : IsFingerprint PipelineDefinition.sample.fingerprint :=
    BuildEnvironment.isFingerprint_fingerprint _ _
  have hport : Text.lowercase "Registry.Local:5000/Service" = "registry.local:5000/service" := by
    decide +kernel
  have htag : Text.lowercase "Service:1" = "service:1" := by decide +kernel
  generalize PipelineDefinition.sample.fingerprint = fingerprint at hfingerprint ⊢
  refine ⟨hfingerprint, ?_, ?_⟩
  · have hname := (resolveTag_default_iff "Registry.Local:5000/Service"
      (show untagged.tag = none from rfl) hfingerprint).1
    rw [hport] at hname
    have hvalid : ImageTag.validate "registry.local:5000/service" = .ok () :=
      eq_ok_iff_toBool.mpr (by decide +kernel)
    exact hname.mpr ⟨hvalid, ImageTag.split_eq_self_iff.mp (by decide +kernel)⟩
  · refine (resolveTag_default_iff "Service:1" rfl hfingerprint).2 fun h => ?_
    rw [htag] at h
    have hslash := h.2 "service".toList "1".toList (by decide)
    revert hslash
    decide

end RuntimeStage

end SealedBuild
