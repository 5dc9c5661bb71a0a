import KubeLB.Foundation.Runs

/-!
An owner is guarded while a copy of it may exist elsewhere.

Whoever makes the copy first sees to it that the owner has a guard, which keeps the
owner from going away. The guard comes off only after the copy has been removed. The
maker of copies may read the owner from a source that lags behind; what that source
may still show counts as promised.
-/

namespace Custody
open Runs

structure State where
  /-- The owner is there, with its guard. -/
  guarded : Prop
  copied : Prop
  /-- A reader may still be shown the guard. -/
  promised : Prop
  /-- The maker has seen the guard or put it there, and may write the copy next. -/
  armed : Prop
  /-- The maker has removed the copy, and may take the guard off next. -/
  cleared : Prop

structure Sound (s : State) : Prop where
  guarded : s.copied ∨ s.armed ∨ s.promised → s.guarded
  cleared : s.cleared → ¬ s.copied

structure Step (s s' : State) : Prop where
  copies : s'.copied → s.copied ∨ s.armed
  arms : s'.armed → s.armed ∨ s.promised ∨ s'.guarded
  promises : s'.promised → s.promised ∨ s'.guarded
  clears : s'.cleared → ¬ s'.copied
  /-- The guard comes off where the copy has been removed, no copy is about to be
  made and no reader will see the guard any more. -/
  keeps : s.guarded → s'.guarded ∨
    s.cleared ∧ (s'.copied → s.copied) ∧ ¬ s'.armed ∧ ¬ s'.promised

theorem Step.refl {s : State} (sound : Sound s) : Step s s :=
  ⟨Or.inl, Or.inl, Or.inl, sound.cleared, Or.inl⟩

theorem Step.sound {s s' : State} (step : Step s s') (sound : Sound s) : Sound s' := by
  refine ⟨?_, step.clears⟩
  intro needed
  have before : s.guarded ∨ s'.guarded := by
    rcases needed with copied | armed | promised
    · rcases step.copies copied with copied | armed
      · exact Or.inl (sound.guarded (Or.inl copied))
      · exact Or.inl (sound.guarded (Or.inr (Or.inl armed)))
    · rcases step.arms armed with armed | promised | guarded
      · exact Or.inl (sound.guarded (Or.inr (Or.inl armed)))
      · exact Or.inl (sound.guarded (Or.inr (Or.inr promised)))
      · exact Or.inr guarded
    · rcases step.promises promised with promised | guarded
      · exact Or.inl (sound.guarded (Or.inr (Or.inr promised)))
      · exact Or.inr guarded
  rcases before with guarded | guarded
  · rcases step.keeps guarded with guarded | ⟨cleared, removed, idle, passed⟩
    · exact guarded
    · -- the guard came off, so nothing of `needed` can be the case
      rcases needed with copied | armed | promised
      · exact absurd (removed copied) (sound.cleared cleared)
      · exact absurd armed idle
      · exact absurd promised passed
  · exact guarded

/-- A system whose steps all keep to the protocol, for each of its owners. -/
theorem throughout_sound {σ α κ : Type} {step : σ → α → Option σ} {init : σ}
    {view : κ → σ → State} {P : σ → Prop} {C : σ → α → σ → Prop}
    (start : P init ∧ ∀ owner, Sound (view owner init))
    (keep : ∀ s a s', P s → C s a s' → step s a = some s' → P s')
    (follows : ∀ s a s', P s → C s a s' → step s a = some s' →
      ∀ owner, Sound (view owner s) → Step (view owner s) (view owner s'))
    {actions : List α} (meets : EachStep step init actions C) :
    Throughout step init actions fun s => ∀ owner, Sound (view owner s) := by
  have both : Throughout step init actions fun s => P s ∧ ∀ owner, Sound (view owner s) := by
    refine throughout_of_eachStep (P := fun s => P s ∧ ∀ owner, Sound (view owner s)) start ?_ meets
    rintro s a s' ⟨holds, sound⟩ met taken
    refine ⟨keep s a s' holds met taken, fun owner => ?_⟩
    exact (follows s a s' holds met taken owner (sound owner)).sound (sound owner)
  exact fun before s small reached => (both before s small reached).2

end Custody
