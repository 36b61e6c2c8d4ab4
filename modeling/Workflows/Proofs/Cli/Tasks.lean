import Mathlib.Order.Defs.Unbundled
import Workflows.Cli.Program

/-!
# What tasks on files come to

* `Cli.Job.on`: what a task comes to, and the files after it; `on_bind`, `on_look`, `on_act`: its parts;
* `Cli.Job.on_bind_eq_ok`, `Cli.Job.on_bind_eq_error`: when a task that goes on succeeds, and when it fails;
* `Cli.Job.Keeps`: whatever a task comes to, the files after it are related to those before it.
-/

namespace Workflows

namespace Cli

namespace Job

variable {α β : Type} {fs : FileSystem}

/-- What a task comes to, and the files after it. -/
abbrev on (j : Job α) (fs : FileSystem) : Except String α × FileSystem := j.run.run fs

theorem ext {j k : Job α} (same : ∀ fs, j.on fs = k.on fs) : j = k := funext same

theorem on_bind (j : Job α) (f : α → Job β) : (j >>= f).on fs = match j.on fs with
    | (.ok a, fs) => (f a).on fs
    | (.error message, fs) => (.error message, fs) := by
  unfold on
  rw [ExceptT.run_bind, StateT.run_bind]
  rcases j.run.run fs with ⟨_ | _, _⟩ <;> rfl

theorem on_bind_of_ok {j : Job α} {a : α} {fs' : FileSystem} (ended : j.on fs = (.ok a, fs')) (f : α → Job β) :
    (j >>= f).on fs = (f a).on fs' := by
  rw [on_bind, ended]

theorem on_get : (get : Job FileSystem).on fs = (.ok fs, fs) := rfl

theorem on_look (f : FileSystem → Except EngineError α) :
    (look f).on fs = ((f fs).mapError (·.message), fs) := by
  unfold look
  rw [on_bind, on_get]
  dsimp only
  cases f fs <;> rfl

theorem on_act (f : FileSystem → Except EngineError α × FileSystem) :
    (act f).on fs = ((f fs).1.mapError (·.message), (f fs).2) := by
  unfold act
  rw [on_bind, on_get]
  dsimp only
  rcases f fs with ⟨_ | _, _⟩ <;> rfl

theorem on_act_eq_ok {f : FileSystem → Except EngineError α × FileSystem} {a : α} {fs' : FileSystem}
    (ended : (act f).on fs = (.ok a, fs')) : f fs = (.ok a, fs') := by
  rw [on_act] at ended
  rcases answer : f fs with ⟨fault | b, fs₁⟩
  · rw [answer] at ended
    cases ended
  · rw [answer] at ended
    cases ended
    rfl

theorem on_act_eq_error {f : FileSystem → Except EngineError α × FileSystem} {message : String} {fs' : FileSystem}
    (ended : (act f).on fs = (.error message, fs')) : ∃ fault, f fs = (.error fault, fs') := by
  rw [on_act] at ended
  rcases answer : f fs with ⟨fault | b, fs₁⟩
  · rw [answer] at ended
    cases ended
    exact ⟨fault, rfl⟩
  · rw [answer] at ended
    cases ended

/-- A task that goes on succeeds where both parts do. -/
theorem on_bind_eq_ok {j : Job α} {f : α → Job β} {b : β} {fs' : FileSystem}
    (ended : (j >>= f).on fs = (.ok b, fs')) :
    ∃ a fs₁, j.on fs = (.ok a, fs₁) ∧ (f a).on fs₁ = (.ok b, fs') := by
  rw [on_bind] at ended
  rcases first : j.on fs with ⟨message | a, fs₁⟩
  · rw [first] at ended
    cases ended
  · rw [first] at ended
    exact ⟨a, fs₁, rfl, ended⟩

/-- A task that goes on fails where one of its parts does. -/
theorem on_bind_eq_error {j : Job α} {f : α → Job β} {message : String} {fs' : FileSystem}
    (ended : (j >>= f).on fs = (.error message, fs')) : j.on fs = (.error message, fs') ∨
      ∃ a fs₁, j.on fs = (.ok a, fs₁) ∧ (f a).on fs₁ = (.error message, fs') := by
  rw [on_bind] at ended
  rcases first : j.on fs with ⟨fault | a, fs₁⟩
  · rw [first] at ended
    cases ended
    exact .inl rfl
  · rw [first] at ended
    exact .inr ⟨a, fs₁, rfl, ended⟩

/-- Whatever a task comes to, the files after it are related to those before it. -/
def Keeps (R : FileSystem → FileSystem → Prop) (j : Job α) : Prop := ∀ fs, R fs (j.on fs).2

section Keeps

variable {R : FileSystem → FileSystem → Prop}

theorem Keeps.bind [IsTrans FileSystem R] {j : Job α} {f : α → Job β} (first : j.Keeps R)
    (next : ∀ a, (f a).Keeps R) : (j >>= f).Keeps R := by
  intro fs
  have before := first fs
  rw [on_bind]
  rcases ended : j.on fs with ⟨message | a, fs₁⟩
  · rwa [ended] at before
  · rw [ended] at before
    exact IsTrans.trans _ _ _ before (next a fs₁)

theorem Keeps.of_on {j : Job α} {r : Except String α} {fs' : FileSystem} (keeps : j.Keeps R)
    (ended : j.on fs = (r, fs')) : R fs fs' := by
  have after := keeps fs
  rwa [ended] at after

theorem keeps_pure [Std.Refl R] (a : α) : (pure a : Job α).Keeps R := fun fs => Std.Refl.refl fs

theorem keeps_throw [Std.Refl R] (message : String) : (throw message : Job α).Keeps R := fun fs => Std.Refl.refl fs

theorem keeps_get [Std.Refl R] : (get : Job FileSystem).Keeps R := fun fs => Std.Refl.refl fs

theorem keeps_look [Std.Refl R] (f : FileSystem → Except EngineError α) : (look f).Keeps R := fun fs => by
  rw [on_look]
  exact Std.Refl.refl fs

end Keeps

end Job

end Cli

end Workflows
