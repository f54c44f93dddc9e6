import SealedBuild.Environment
import SealedBuild.Proofs.Collection.NameSet
import SealedBuild.Proofs.Collection.VarMap

/-!
# Updates of an environment

An environment is put together by updates: packages are added, and a variable, the flags and the
package manager are assigned. Packages are a set and an assignment replaces an earlier one, so all
that is left of a sequence of updates is which packages it adds and what it assigns last. Sequences
that agree in this give one environment from any other, and sequences that do not can be told apart.
-/

namespace SealedBuild

/-- One update of an environment. -/
inductive Update where
  | packages (names : List String)
  | env (name value : String)
  | flags (flags : BuildFlags)
  | packageManager (manager : PackageManager)
  deriving DecidableEq

namespace Update

/-- The packages that an update adds. -/
def added : Update → List String
  | .packages names => names
  | _ => []

/-- The value that an update assigns to a variable. -/
def value? (name : String) : Update → Option String
  | .env bound value => if name = bound then some value else none
  | _ => none

/-- The flags that an update assigns. -/
def flags? : Update → Option BuildFlags
  | .flags assigned => some assigned
  | _ => none

/-- The package manager that an update assigns. -/
def packageManager? : Update → Option PackageManager
  | .packageManager assigned => some assigned
  | _ => none

/-- What the updates assign last, if any does. -/
def last {α : Type} (assigned? : Update → Option α) (updates : List Update) : Option α :=
  (updates.filterMap assigned?).getLast?

end Update

open Update

/-- Two sequences of updates add the same packages and make the same last assignments. -/
structure SameEffect (updates updates' : List Update) : Prop where
  packages : ∀ name, name ∈ updates.flatMap added ↔ name ∈ updates'.flatMap added
  env : ∀ name, last (value? name) updates = last (value? name) updates'
  flags : last flags? updates = last flags? updates'
  packageManager : last packageManager? updates = last packageManager? updates'

namespace BuildEnvironment

variable {e : BuildEnvironment} {updates updates' : List Update}

/-- The environment after one update. -/
def updated (e : BuildEnvironment) : Update → BuildEnvironment
  | .packages names => e.withPackages names
  | .env name value => e.withEnv name value
  | .flags flags => e.withFlags flags
  | .packageManager manager => e.withPackageManager manager

/-- The environment after a sequence of updates. -/
def after (e : BuildEnvironment) (updates : List Update) : BuildEnvironment :=
  updates.foldl updated e

/-- Two environments are one, and so is everything that is made of them. -/
structure Alike (e e' : BuildEnvironment) : Prop where
  environment : e = e'
  installScript : e.installScript = e'.installScript
  compilerEnv : e.compilerEnv = e'.compilerEnv
  validate : e.validate = e'.validate
  fingerprint : ∀ commands, e.fingerprint commands = e'.fingerprint commands

theorem alike_iff {e' : BuildEnvironment} : e.Alike e' ↔ e = e' := by
  constructor
  · exact Alike.environment
  · rintro rfl
    exact ⟨rfl, rfl, rfl, rfl, fun _ => rfl⟩

/-! ## What is left of the updates -/

@[simp]
theorem after_cons (e : BuildEnvironment) (update : Update) (updates : List Update) :
    e.after (update :: updates) = (e.updated update).after updates :=
  rfl

/-- What every update either assigns or leaves is, after all of them, what they assign last. -/
theorem read_after {α : Type} (read : BuildEnvironment → Option α) {assigned? : Update → Option α}
    (h : ∀ e update, read (e.updated update) = (assigned? update).or (read e)) :
    read (e.after updates) = (last assigned? updates).or (read e) := by
  induction updates generalizing e with
  | nil => rfl
  | cons update rest ih =>
      rw [after_cons, ih, h, last, last, List.filterMap_cons]
      cases assigned? update with
      | none => rfl
      | some a =>
          rw [List.getLast?_cons]
          cases (rest.filterMap assigned?).getLast? <;> rfl

theorem mem_packages_after {name : String} :
    name ∈ (e.after updates).packages ↔ name ∈ updates.flatMap added ∨ name ∈ e.packages := by
  induction updates generalizing e with
  | nil => exact (or_iff_right List.not_mem_nil).symm
  | cons update rest ih =>
      have hstep : name ∈ (e.updated update).packages ↔
          name ∈ update.added ∨ name ∈ e.packages := by
        cases update with
        | packages names => exact NameSet.mem_insertAll
        | _ => exact (or_iff_right List.not_mem_nil).symm
      rw [after_cons, ih, hstep, List.flatMap_cons, List.mem_append, or_left_comm, or_assoc]

theorem get?_extraEnv_after (name : String) :
    (e.after updates).extraEnv.get? name =
      (last (value? name) updates).or (e.extraEnv.get? name) := by
  refine read_after (fun e => e.extraEnv.get? name) fun e update => ?_
  cases update with
  | env bound value =>
      refine VarMap.get?_insert.trans ?_
      rw [value?]
      split <;> rfl
  | _ => rfl

theorem flags_after : some (e.after updates).flags = (last flags? updates).or (some e.flags) :=
  read_after (fun e => some e.flags) fun _ update => by cases update <;> rfl

theorem packageManager_after :
    some (e.after updates).packageManager =
      (last packageManager? updates).or (some e.packageManager) :=
  read_after (fun e => some e.packageManager) fun _ update => by cases update <;> rfl

/-- Nothing else of an environment is ever updated. -/
theorem toolchain_crypto_after (e : BuildEnvironment) (updates : List Update) :
    (e.after updates).toolchain = e.toolchain ∧ (e.after updates).crypto = e.crypto := by
  induction updates generalizing e with
  | nil => exact ⟨rfl, rfl⟩
  | cons update rest ih =>
      obtain ⟨htoolchain, hcrypto⟩ := ih (e.updated update)
      rw [after_cons, htoolchain, hcrypto]
      cases update <;> exact ⟨rfl, rfl⟩

/-! ## Sequences with one effect -/

theorem after_eq_of_sameEffect (h : SameEffect updates updates') (e : BuildEnvironment) :
    e.after updates = e.after updates' := by
  obtain ⟨htoolchain, hcrypto⟩ := toolchain_crypto_after e updates
  obtain ⟨htoolchain', hcrypto'⟩ := toolchain_crypto_after e updates'
  have hpackages : (e.after updates).packages = (e.after updates').packages :=
    NameSet.ext_names fun name => by rw [mem_packages_after, mem_packages_after, h.packages]
  have henv : (e.after updates).extraEnv = (e.after updates').extraEnv :=
    VarMap.ext_get? fun name => by rw [get?_extraEnv_after, get?_extraEnv_after, h.env]
  have hflags : some (e.after updates).flags = some (e.after updates').flags := by
    rw [flags_after, flags_after, h.flags]
  have hmanager :
      some (e.after updates).packageManager = some (e.after updates').packageManager := by
    rw [packageManager_after, packageManager_after, h.packageManager]
  cases hend : e.after updates
  cases hend' : e.after updates'
  simp_all

/-- Assignments that cannot be told apart, whatever was there before, are the same. -/
theorem eq_of_or_some_eq {α : Type} [Nontrivial α] {a a' : Option α}
    (h : ∀ old : α, a.or (some old) = a'.or (some old)) : a = a' := by
  cases a with
  | none =>
      cases a' with
      | none => rfl
      | some new' =>
          obtain ⟨old, hne⟩ := exists_ne new'
          exact absurd (Option.some.inj (h old)) hne
  | some new =>
      cases a' with
      | none =>
          obtain ⟨old, hne⟩ := exists_ne new
          exact absurd (Option.some.inj (h old)).symm hne
      | some new' => exact h new

theorem sameEffect_of_after_eq (h : ∀ e : BuildEnvironment, e.after updates = e.after updates') :
    SameEffect updates updates' := by
  have : Nontrivial BuildFlags := ⟨⟨false, false⟩, ⟨true, true⟩, by decide⟩
  have : Nontrivial PackageManager := ⟨.apt, .apk, by decide⟩
  -- Packages and variables show where there were none. Flags and a package manager are always
  -- there, so that those of the first environment may be any.
  let bare : BuildEnvironment := ofToolchain default default
  refine ⟨fun name => ?packages, fun name => ?env, eq_of_or_some_eq fun flags => ?flags,
    eq_of_or_some_eq fun manager => ?packageManager⟩
  case packages =>
    have hmem {updates : List Update} :
        name ∈ (bare.after updates).packages ↔ name ∈ updates.flatMap added :=
      mem_packages_after.trans (or_iff_left List.not_mem_nil)
    rw [← hmem, h, hmem]
  case env =>
    have hget {updates : List Update} :
        (bare.after updates).extraEnv.get? name = last (value? name) updates :=
      (get?_extraEnv_after name).trans Option.or_none
    rw [← hget, h, hget]
  case flags =>
    have hflags {updates : List Update} :
        some ((bare.withFlags flags).after updates).flags = (last flags? updates).or (some flags) :=
      flags_after
    rw [← hflags, h, hflags]
  case packageManager =>
    have hmanager {updates : List Update} :
        some ((bare.withPackageManager manager).after updates).packageManager =
          (last packageManager? updates).or (some manager) :=
      packageManager_after
    rw [← hmanager, h, hmanager]

/-- Packages may be added in parts. -/
theorem sameEffect_split (before between behind : List Update) (names names' : List String) :
    SameEffect (before ++ .packages (names ++ names') :: (between ++ behind))
      (before ++ .packages names :: (between ++ .packages names' :: behind)) where
  packages name := by
    simp only [List.flatMap_append, List.flatMap_cons, List.mem_append, added]
    tauto
  env name := by simp [last, List.filterMap_cons, value?]
  flags := by simp [last, List.filterMap_cons, flags?]
  packageManager := by simp [last, List.filterMap_cons, packageManager?]

/-- Packages may be added again. -/
theorem sameEffect_repeat (before between behind : List Update) (names : List String) :
    SameEffect (before ++ .packages names :: (between ++ .packages names :: behind))
      (before ++ .packages names :: (between ++ behind)) where
  packages name := by
    simp only [List.flatMap_append, List.flatMap_cons, List.mem_append, added]
    tauto
  env name := by simp [last, List.filterMap_cons, value?]
  flags := by simp [last, List.filterMap_cons, flags?]
  packageManager := by simp [last, List.filterMap_cons, packageManager?]

/-- Updates commute as far as they can: exactly those sequences that add the same packages and make
the same last assignments give, from any environment, the same one. Packages may be added in parts,
and those that were added may be added again. -/
theorem after_alike_iff :
    (∀ updates updates' : List Update, SameEffect updates updates' ↔
      ∀ e : BuildEnvironment, (e.after updates).Alike (e.after updates')) ∧
    ∀ (e : BuildEnvironment) (before between behind : List Update) (names names' : List String),
      (e.after (before ++ .packages (names ++ names') :: (between ++ behind))).Alike
          (e.after (before ++ .packages names :: (between ++ .packages names' :: behind))) ∧
        (e.after (before ++ .packages names :: (between ++ .packages names :: behind))).Alike
          (e.after (before ++ .packages names :: (between ++ behind))) := by
  simp only [alike_iff]
  refine ⟨fun updates updates' => ⟨after_eq_of_sameEffect, sameEffect_of_after_eq⟩, ?_⟩
  intro e before between behind names names'
  exact ⟨after_eq_of_sameEffect (sameEffect_split before between behind names names') e,
    after_eq_of_sameEffect (sameEffect_repeat before between behind names) e⟩

end BuildEnvironment

end SealedBuild
