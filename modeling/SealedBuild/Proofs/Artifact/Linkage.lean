import SealedBuild.Proofs.Artifact.Inspection
import SealedBuild.Proofs.Outcome
import SealedBuild.Proofs.Text.Cuts

/-!
# The shared objects of a library

A shared object has the name of its stem with `.so` and perhaps a version behind it, and an
executable requests it by this name or by a path. An inspection knows the shared objects of a
library by what a request begins with. It passes over requests by a path, and it counts requests
of other files whose names only begin in the same way. The linkage that it reports is exact where
no request is of these two kinds.
-/

namespace SealedBuild

namespace CryptoLinkage

/-- What stands behind the last slash of a request. -/
def fileName (request : String) : List Char :=
  match Text.cutLast '/' request.toList with
  | some (_, name) => name
  | none => request.toList

/-- A shared object of a stem is named by the stem and `.so`, or with a version behind these. -/
def IsSharedObject (stem : String) (name : List Char) : Prop :=
  name = stem.toList ++ ".so".toList ∨
    ∃ version, version ≠ [] ∧ name = stem.toList ++ ".so.".toList ++ version

instance (stem : String) (name : List Char) : Decidable (IsSharedObject stem name) :=
  decidable_of_iff
    (name = stem.toList ++ ".so".toList ∨
      ∃ version ∈ Text.after? (stem.toList ++ ".so.".toList) name, version ≠ []) <| by
    simp only [IsSharedObject, Option.mem_def, Text.after?_eq_some_iff, and_comm]

/-- Whether a request is for a shared object of the library. -/
def RefersTo (crypto : CryptoLinkage) (request : String) : Prop :=
  ∃ stem ∈ crypto.sharedObjects, IsSharedObject stem (fileName request)

instance (crypto : CryptoLinkage) (request : String) : Decidable (crypto.RefersTo request) :=
  inferInstanceAs (Decidable (∃ stem ∈ _, _))

/-- Whether a request begins as one for a shared object of the library would without a path. -/
def BeginsAs (crypto : CryptoLinkage) (request : String) : Prop :=
  ∃ stem ∈ crypto.sharedObjects, stem.toList ++ ".so".toList <+: request.toList

/-- A request from whose beginning it can be told whether it is for a shared object of the
library. -/
structure Plain (crypto : CryptoLinkage) (request : String) : Prop where
  whole : crypto.BeginsAs request → crypto.RefersTo request
  direct : '/' ∈ request.toList → crypto.RefersTo request → crypto.BeginsAs request

variable {crypto : CryptoLinkage} {request : String}

theorem fileName_of_not_mem (h : '/' ∉ request.toList) : fileName request = request.toList := by
  rw [fileName, Text.cutLast_eq_none_iff.mpr h]

theorem ownsSharedObject_iff : crypto.ownsSharedObject request = true ↔ crypto.BeginsAs request := by
  simp [ownsSharedObject, BeginsAs, String.startsWith_string_iff]

theorem beginsAs_of_isSharedObject {stem : String} (hstem : stem ∈ crypto.sharedObjects)
    (h : IsSharedObject stem request.toList) : crypto.BeginsAs request := by
  refine ⟨stem, hstem, ?_⟩
  rcases h with hbare | ⟨version, -, hversion⟩
  · exact ⟨[], by rw [hbare, List.append_nil]⟩
  · rw [hversion]
    exact ⟨'.' :: version, by simp⟩

/-- Without a path, a request for a shared object of the library begins as one. -/
theorem plain_iff : crypto.Plain request ↔ (crypto.BeginsAs request ↔ crypto.RefersTo request) := by
  constructor
  · intro h
    refine ⟨h.whole, fun hrefers => ?_⟩
    by_cases hslash : '/' ∈ request.toList
    · exact h.direct hslash hrefers
    · obtain ⟨stem, hstem, hobject⟩ := hrefers
      rw [fileName_of_not_mem hslash] at hobject
      exact beginsAs_of_isSharedObject hstem hobject
  · intro h
    exact ⟨h.mp, fun _ => h.mpr⟩

end CryptoLinkage

/-- The linkage of an executable that requests some shared objects of the library. -/
def Linkage.ofLibraries : List String → Linkage
  | [] => static
  | libraries => dynamic libraries

theorem Linkage.ofLibraries_injective : Function.Injective ofLibraries := by
  intro libraries libraries' h
  cases libraries <;> cases libraries' <;> simp_all [ofLibraries]

namespace Inspection

variable {inspection : Inspection} {crypto : CryptoLinkage}

/-- The requests for shared objects of the library, in file order. -/
def references (inspection : Inspection) (crypto : CryptoLinkage) : List String :=
  inspection.needed.filter fun request => decide (crypto.RefersTo request)

/-- The linkage is reported as it is, and where static linkage is declared, the executable is
refused for its requests for shared objects of the library and for no others. -/
structure ExactLinkage (inspection : Inspection) (crypto : CryptoLinkage) : Prop where
  linkage : inspection.linkage crypto = .ofLibraries (inspection.references crypto)
  refused : ∀ flags : BuildFlags, flags.staticCrypto = true → inspection.references crypto ≠ [] →
    inspection.verify flags crypto = .error (.invariantViolation
      (InspectionFault.linkedDynamically crypto.library (inspection.references crypto)).message)
  passed : ∀ flags : BuildFlags, inspection.references crypto = [] →
    inspection.verify flags crypto = inspection.verify { flags with staticCrypto := false } crypto

theorem linkage_eq_ofLibraries :
    inspection.linkage crypto = .ofLibraries (inspection.cryptoDependencies crypto) :=
  rfl

/-- The check of static linkage depends on what is reported alone. -/
theorem exactLinkage_of_linkage
    (h : inspection.linkage crypto = .ofLibraries (inspection.references crypto)) :
    inspection.ExactLinkage crypto where
  linkage := h
  refused flags hstatic hsome := by
    obtain ⟨first, rest, hlibraries⟩ := List.exists_cons_of_ne_nil hsome
    rw [verify, check, hstatic, h, hlibraries]
    rfl
  passed flags hnone := by
    rw [verify, verify, check, check, h, hnone]
    cases flags.staticCrypto <;> rfl

theorem linkage_eq_iff :
    inspection.linkage crypto = .ofLibraries (inspection.references crypto) ↔
      ∀ request ∈ inspection.needed, (crypto.BeginsAs request ↔ crypto.RefersTo request) := by
  rw [linkage_eq_ofLibraries, Linkage.ofLibraries_injective.eq_iff, cryptoDependencies, references]
  simp only [← CryptoLinkage.ownsSharedObject_iff]
  constructor
  · intro hsame request hrequest
    have hmem : request ∈ inspection.needed.filter crypto.ownsSharedObject ↔
        request ∈ inspection.needed.filter fun request => decide (crypto.RefersTo request) := by
      rw [hsame]
    simpa [hrequest] using hmem
  · intro hagree
    apply List.filter_congr
    intro request hrequest
    rw [Bool.eq_iff_iff, decide_eq_true_iff]
    exact hagree request hrequest

/-- The reported linkage is exact exactly when every request is plain: where it begins as one for a
shared object of the library, it is one, and it is one with a path only if it begins so too. -/
theorem exactLinkage_iff (inspection : Inspection) (crypto : CryptoLinkage) :
    inspection.ExactLinkage crypto ↔ ∀ request ∈ inspection.needed, crypto.Plain request := by
  simp only [CryptoLinkage.plain_iff, ← linkage_eq_iff]
  exact ⟨ExactLinkage.linkage, exactLinkage_of_linkage⟩

/-- A stripped executable with some requests. -/
def sampleNeeding (needed : List String) : Inspection :=
  ⟨.x86_64, needed, none, false, []⟩

/-- A request by a path is passed over, so that an executable that is linked against the library
dynamically is taken for a static one. -/
theorem path_request_passed_over :
    (sampleNeeding ["/opt/lib/libssl.so.3"]).linkage (.ofLibrary "openssl") = .static ∧
      (sampleNeeding ["/opt/lib/libssl.so.3"]).verify {} (.ofLibrary "openssl") = .ok () ∧
      (sampleNeeding ["/opt/lib/libssl.so.3"]).references (.ofLibrary "openssl") =
        ["/opt/lib/libssl.so.3"] ∧
      ¬ (sampleNeeding ["/opt/lib/libssl.so.3"]).ExactLinkage (.ofLibrary "openssl") := by
  refine ⟨by decide +kernel, eq_ok_iff_toBool.mpr (by decide +kernel), by decide +kernel, ?_⟩
  intro h
  have hlinkage := h.linkage
  revert hlinkage
  decide +kernel

-- A name that goes on otherwise is counted.
example :
    (sampleNeeding ["libssl.sock"]).linkage (.ofLibrary "openssl") = .dynamic ["libssl.sock"] ∧
      (sampleNeeding ["libssl.sock"]).references (.ofLibrary "openssl") = [] := by
  decide +kernel

end Inspection

end SealedBuild
