import Mathlib.Order.Defs.Unbundled
import SealedBuild.World
import SealedBuild.Failure

/-!
# Following actions

An action is followed by naming the worlds between its steps. An action that may fail and
succeeds splits at each bind into a first step and a rest that both succeed.
-/

namespace SealedBuild

variable {σ α β : Type}

/-- The world after the clock has been read once more. -/
def World.tick (world : World σ) : World σ :=
  { world with readings := world.readings + 1 }

/-- The instant that the clock gives next. -/
def World.instant (world : World σ) : Instant :=
  world.clock world.readings

namespace Act

@[simp] theorem bind_apply (action : Act σ α) (next : α → Act σ β) (world : World σ) :
    (action >>= next) world = next (action world).1 (action world).2 := rfl

@[simp] theorem pure_apply (a : α) (world : World σ) :
    (pure a : Act σ α) world = (a, world) := rfl

theorem changeFiles_apply (operation : FileTree → Except FileFault FileTree) (world : World σ) :
    (changeFiles operation : Act σ (Except FileFault Unit)) world =
      match operation world.files with
      | .ok changed => (.ok (), { world with files := changed })
      | .error fault => (.error fault, world) := by
  have hfiles : (changeFiles operation : Act σ (Except FileFault Unit)) world =
      (match operation world.files with
        | .ok changed => do
            setFiles changed
            pure (.ok ())
        | .error fault => pure (.error fault) : Act σ (Except FileFault Unit)) world := rfl
  rw [hfiles]
  cases operation world.files <;> rfl

@[simp] theorem run_mk (action : Act σ (Except Failure α)) (world : World σ) :
    (ExceptT.mk action).run world = action world := rfl

/-- A step that cannot fail, within an action that may. -/
@[simp] theorem run_lift (action : Act σ α) (world : World σ) :
    (monadLift action : ExceptT Failure (Act σ) α).run world =
      (.ok (action world).1, (action world).2) := rfl

/-- A bind takes its two steps with a world between them. -/
theorem bind_eq {action : Act σ α} {next : α → Act σ β} {world last : World σ} {b : β}
    (h : (action >>= next) world = (b, last)) :
    ∃ a after, action world = (a, after) ∧ next a after = (b, last) :=
  ⟨(action world).1, (action world).2, rfl, h⟩

/-- A bind goes on from a success and passes a failure on, with the world as it is then. -/
theorem run_bind (action : ExceptT Failure (Act σ) α) (next : α → ExceptT Failure (Act σ) β)
    (world : World σ) :
    (action >>= next).run world =
      match action.run world with
      | (.ok a, after) => (next a).run after
      | (.error failure, after) => (.error failure, after) := by
  have hbind : (action >>= next).run world =
      (ExceptT.bindCont next (action.run world).1 : Act σ _) (action.run world).2 := rfl
  rw [hbind]
  rcases action.run world with ⟨failure | a, after⟩ <;> rfl

/-- A bind succeeds exactly when both of its steps do. -/
theorem run_bind_ok {action : ExceptT Failure (Act σ) α}
    {next : α → ExceptT Failure (Act σ) β} {world last : World σ} {b : β}
    (h : (action >>= next).run world = (.ok b, last)) :
    ∃ a after, action.run world = (.ok a, after) ∧ (next a).run after = (.ok b, last) := by
  rw [run_bind] at h
  cases hstep : action.run world with
  | mk answer after =>
      rw [hstep] at h
      cases answer with
      | ok a => exact ⟨a, after, rfl, h⟩
      | error failure => cases h

/-! ## What an action may do to a world -/

/-- The action takes every world to one that is related to it. -/
def Leads (related : World σ → World σ → Prop) (action : Act σ α) : Prop :=
  ∀ world, related world (action world).2

namespace Leads

variable {related : World σ → World σ → Prop} [IsPreorder (World σ) related]

theorem pure (a : α) : Leads related (Pure.pure a : Act σ α) :=
  fun world => refl_of related world

theorem files : Leads related (Act.files : Act σ FileTree) :=
  fun world => refl_of related world

theorem bind {action : Act σ α} {next : α → Act σ β} (haction : action.Leads related)
    (hnext : ∀ a, (next a).Leads related) : (action >>= next).Leads related :=
  fun world => trans_of related (haction world) (hnext _ _)

theorem run_bind {action : ExceptT Failure (Act σ) α} {next : α → ExceptT Failure (Act σ) β}
    (haction : Leads related action.run) (hnext : ∀ a, Leads related (next a).run) :
    Leads related (action >>= next).run := by
  have hcont (answer : Except Failure α) :
      Leads related (ExceptT.bindCont next answer : Act σ _) := by
    cases answer with
    | ok a => exact hnext a
    | error failure => exact pure _
  exact bind haction hcont

theorem run_lift {action : Act σ α} (h : action.Leads related) :
    Leads related (monadLift action : ExceptT Failure (Act σ) α).run :=
  bind h fun _ => pure _

end Leads

end Act

end SealedBuild
