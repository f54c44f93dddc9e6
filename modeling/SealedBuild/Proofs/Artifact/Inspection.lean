import SealedBuild.Inspection

/-!
# Laws of inspections

What a passed inspection says of an executable, in terms of its headers alone.
-/

namespace SealedBuild

namespace Inspection

variable {inspection : Inspection} {flags : BuildFlags} {crypto : CryptoLinkage}

theorem linkage_eq_static_iff :
    inspection.linkage crypto = .static ↔
      ∀ needed ∈ inspection.needed, crypto.ownsSharedObject needed = false := by
  have hnone : inspection.linkage crypto = .static ↔ inspection.cryptoDependencies crypto = [] := by
    unfold linkage
    cases inspection.cryptoDependencies crypto <;> simp
  rw [hnone, cryptoDependencies, List.filter_eq_nil_iff]
  simp only [Bool.not_eq_true]

theorem isStripped_eq_true_iff :
    inspection.isStripped = true ↔
      inspection.hasSymtab = false ∧ inspection.debugSections = [] := by
  simp [isStripped]

/-- An inspection passes exactly when it shows what the flags declare. -/
theorem check_eq_ok_iff :
    inspection.check flags crypto = .ok () ↔
      (flags.staticCrypto = true → inspection.linkage crypto = .static) ∧
      (flags.strip = true → inspection.isStripped = true) := by
  unfold check
  cases flags.staticCrypto <;> cases inspection.linkage crypto <;> cases flags.strip <;>
    cases inspection.isStripped <;> simp

end Inspection

end SealedBuild
