import KubeLB.Foundation.Informer
import KubeLB.Foundation.Runs

/-!
A controller that keeps a record of something it watches.

A run reads the source and works out what is to be recorded, which may include the time
of the run. It patches the record by the difference between this and the version of
the record that it is shown, so that a patch of an old version may leave something else
than was meant. Source and record are both followed at a distance. New versions of the
source start a run when they arrive, new versions of the record only where the
controller heeds them.

Two such controllers may stand in a row, the record of the first being the source of
the second.
-/

namespace Recording
open Informer Runs

/-- The difference between two records, applied to a third one. -/
structure MergePatch (ρ : Type) where
  patch : ρ → ρ → ρ → ρ
  /-- A patch of what it was made from gives what is wanted. -/
  patch_self : ∀ current changed, patch current changed current = changed
  /-- No difference changes nothing. -/
  patch_same : ∀ current other, patch current current other = other

/-- The patch of a record that is written as a whole. -/
def MergePatch.atomic (ρ : Type) [DecidableEq ρ] : MergePatch ρ where
  patch current changed other := if current = changed then other else changed
  patch_self current changed := by
    split
    · assumption
    · rfl
  patch_same _ _ := if_pos rfl

structure Recorder (σ ρ : Type) extends MergePatch ρ where
  /-- What a run that has read the source wants to be recorded at a time, if anything. -/
  desired : Nat → σ → Except String (Option ρ)

structure State (σ ρ : Type) where
  source : Versions σ
  record : Versions ρ
  queued : Bool := true
  /-- The source as the run that is going on has read it. -/
  task : Option σ := none

inductive Action (σ ρ : Type)
  | setSource (new : σ)
  /-- Somebody else writes the record. -/
  | setRecord (new : ρ)
  | deliverSource (heard : Bool)
  | deliverRecord (heard : Bool)
  | request
  | take
  | record (time : Nat)
  | fail
  /-- The run ends as if it had succeeded, and has not come to the record. -/
  | giveUp
  | restart (heard : Bool)

variable {σ ρ τ : Type}

namespace Recorder
variable (r : Recorder σ ρ)

def write [DecidableEq ρ] (time : Nat) (s : State σ ρ) (read : σ) : State σ ρ :=
  match r.desired time read with
  | .error _ => { s with queued := true, task := none }
  | .ok none => { s with task := none }
  | .ok (some wanted) =>
      if s.record.seen = wanted then { s with task := none }
      else
        { s with
          record := s.record.write (r.patch s.record.seen wanted s.record.present)
          task := none }

def step [DecidableEq ρ] (s : State σ ρ) : Action σ ρ → Option (State σ ρ)
  | .setSource new => some { s with source := s.source.write new }
  | .setRecord new => some { s with record := s.record.write new }
  | .deliverSource heard =>
      if s.source.behind = [] then none
      else some { s with source := s.source.advance, queued := s.queued || heard }
  | .deliverRecord heard =>
      if s.record.behind = [] then none
      else some { s with record := s.record.advance, queued := s.queued || heard }
  | .request => some { s with queued := true }
  | .take =>
      if s.queued = true ∧ s.task.isNone then
        some { s with queued := false, task := some s.source.seen }
      else none
  | .record time => s.task.map (r.write time s)
  | .fail => s.task.map fun _ => { s with queued := true, task := none }
  | .giveUp => s.task.map fun _ => { s with task := none }
  | .restart heard =>
      some {
        source := { present := s.source.present }
        record := { present := s.record.present }
        queued := heard }

def Fits (s : State σ ρ) : Prop :=
  ∃ time wanted, r.desired time s.source.present = .ok wanted ∧
    ∀ record, wanted = some record → s.record.present = record

/-- What was read is the present source, or the record is as it should be. -/
def Stage (s : State σ ρ) : Prop :=
  match s.task with
  | some read => read = s.source.present
  | none => r.Fits s

/-- A run will follow, or the one that is going on or has come to its end is up to date. -/
inductive Progress (heeds : Bool) (s : State σ ρ) : Prop
  | queued (queued : s.queued = true)
  | source (behind : s.source.behind ≠ [])
  | record (heeds : heeds = true) (behind : s.record.behind ≠ [])
  | stage (stage : r.Stage s)

end Recorder

/-- What has to come in time. Where new versions of the record start no run, a patch is made
of the record as it is. -/
def Timely (heeds : Bool) (s : State σ ρ) : Action σ ρ → Prop
  | .deliverSource heard | .restart heard => heard = true
  | .deliverRecord heard => heeds = true → heard = true
  | .setRecord _ => heeds = true
  | .record _ => heeds = true ∨ s.record.seen = s.record.present
  | .giveUp => False
  | _ => True

structure Settled (heeds : Bool) (s : State σ ρ) : Prop where
  idle : s.task = none
  queued : s.queued = false
  source : s.source.behind = []
  record : heeds = true → s.record.behind = []

section
variable {r : Recorder σ ρ} {heeds : Bool} {s s' : State σ ρ}

theorem Recorder.Progress.mono (progress : r.Progress heeds s)
    (queued : s.queued = true → s'.queued = true)
    (source : s.source.behind ≠ [] → s'.source.behind ≠ [])
    (record : heeds = true → s.record.behind ≠ [] → s'.record.behind ≠ [])
    (stage : r.Stage s → r.Progress heeds s') : r.Progress heeds s' := by
  cases progress with
  | queued held => exact .queued (queued held)
  | source behind => exact .source (source behind)
  | record heeds behind => exact .record heeds (record heeds behind)
  | stage held => exact stage held

variable [DecidableEq ρ]

theorem Recorder.Progress.write {read : σ} (time : Nat) (progress : r.Progress heeds s)
    (task : s.task = some read)
    (timely : heeds = true ∨ s.record.seen = s.record.present) :
    r.Progress heeds (r.write time s read) := by
  have current : r.Stage s → r.desired time s.source.present = r.desired time read := by
    intro stage
    simp only [Recorder.Stage, task] at stage
    rw [stage]
  unfold Recorder.write
  cases desired : r.desired time read with
  | error err => exact .queued rfl
  | ok wanted =>
      rw [desired] at current
      cases wanted with
      | none =>
          refine progress.mono id id (fun _ => id) fun stage => .stage ?_
          exact ⟨time, none, current stage, fun _ none => by cases none⟩
      | some wanted =>
          dsimp only
          split
          · rename_i same
            refine progress.mono id id (fun _ => id) fun stage => ?_
            by_cases shown : s.record.seen = s.record.present
            · refine .stage ⟨time, some wanted, current stage, ?_⟩
              rintro _ ⟨⟩
              exact shown.symm.trans same
            · refine .record (timely.resolve_right shown) fun caught => ?_
              exact shown (Versions.seen_eq_present caught)
          · refine progress.mono id id (fun _ _ => Versions.behind_write_ne_nil _ _) fun stage => ?_
            by_cases shown : s.record.seen = s.record.present
            · refine .stage ⟨time, some wanted, current stage, ?_⟩
              rintro _ ⟨⟩
              change r.patch s.record.seen wanted s.record.present = wanted
              rw [shown, r.patch_self]
            · exact .record (timely.resolve_right shown) (Versions.behind_write_ne_nil _ _)

theorem Recorder.Progress.step {a : Action σ ρ} (progress : r.Progress heeds s)
    (timely : Timely heeds s a) (taken : r.step s a = some s') : r.Progress heeds s' := by
  cases a with
  | setSource new =>
      cases taken
      exact .source (Versions.behind_write_ne_nil _ _)
  | setRecord new =>
      cases taken
      exact .record timely (Versions.behind_write_ne_nil _ _)
  | deliverSource heard =>
      simp only [Recorder.step] at taken
      split at taken
      · cases taken
      · cases taken
        exact .queued (by rw [timely, Bool.or_true])
  | deliverRecord heard =>
      simp only [Recorder.step] at taken
      split at taken
      · cases taken
      · cases taken
        cases heeds with
        | true => exact .queued (by rw [timely rfl, Bool.or_true])
        | false =>
            refine progress.mono (fun queued => by rw [queued, Bool.true_or]) id ?_
              fun stage => .stage stage
            rintro ⟨⟩
  | request =>
      cases taken
      exact .queued rfl
  | take =>
      simp only [Recorder.step] at taken
      split at taken
      · cases taken
        by_cases caught : s.source.behind = []
        · exact .stage (Versions.seen_eq_present caught)
        · exact .source caught
      · cases taken
  | record time =>
      obtain ⟨read, task, taken⟩ := Option.map_eq_some_iff.mp taken
      cases taken
      exact progress.write time task timely
  | fail =>
      obtain ⟨_, _, taken⟩ := Option.map_eq_some_iff.mp taken
      cases taken
      exact .queued rfl
  | giveUp => cases timely
  | restart heard =>
      cases taken
      exact .queued timely

omit [DecidableEq ρ] in
theorem Recorder.Progress.fits (progress : r.Progress heeds s) (settled : Settled heeds s) :
    r.Fits s := by
  cases progress with
  | queued queued =>
      rw [settled.queued] at queued
      cases queued
  | source behind => exact absurd settled.source behind
  | record heeds behind => exact absurd (settled.record heeds) behind
  | stage stage =>
      simp only [Recorder.Stage, settled.idle] at stage
      exact stage

theorem Recorder.presents_of_step {a : Action σ ρ} (taken : r.step s a = some s') :
    ((∀ new, a ≠ .setSource new) → s'.source.present = s.source.present) ∧
      ((∀ time, a ≠ .record time) → (∀ new, a ≠ .setRecord new) →
        s'.record.present = s.record.present) := by
  cases a with
  | setSource new =>
      cases taken
      exact ⟨fun leaves => absurd rfl (leaves new), fun _ _ => rfl⟩
  | setRecord new =>
      cases taken
      exact ⟨fun _ => rfl, fun _ leaves => absurd rfl (leaves new)⟩
  | deliverSource heard | deliverRecord heard | take =>
      simp only [Recorder.step] at taken
      split at taken <;> cases taken
      exact ⟨fun _ => rfl, fun _ _ => rfl⟩
  | record time =>
      obtain ⟨read, _, taken⟩ := Option.map_eq_some_iff.mp taken
      cases taken
      refine ⟨fun _ => ?_, fun reads => absurd rfl (reads time)⟩
      unfold Recorder.write
      split
      · rfl
      · rfl
      · split <;> rfl
  | fail | giveUp =>
      obtain ⟨_, _, taken⟩ := Option.map_eq_some_iff.mp taken
      cases taken
      exact ⟨fun _ => rfl, fun _ _ => rfl⟩
  | request | restart heard =>
      cases taken
      exact ⟨fun _ => rfl, fun _ _ => rfl⟩

/-! ### A patch of an old version -/

def Action.Quiet : Action σ ρ → Prop
  | .deliverRecord heard => heard = false
  | .take | .record _ | .fail | .giveUp => True
  | _ => False

structure AtRest (source : σ) (record : ρ) (s : State σ ρ) : Prop where
  settled : Settled false s
  source : s.source.present = source
  record : s.record.present = record

theorem AtRest.step {a : Action σ ρ} {source : σ} {record : ρ} (rest : AtRest source record s)
    (quiet : a.Quiet) (taken : r.step s a = some s') : AtRest source record s' := by
  have idle := rest.settled.idle
  cases a with
  | setSource _ | setRecord _ | deliverSource _ | request | restart _ => cases quiet
  | deliverRecord heard =>
      simp only [Recorder.step] at taken
      split at taken
      · cases taken
      · cases taken
        have unheard : heard = false := quiet
        refine ⟨⟨idle, ?_, rest.settled.source, fun heeds => by cases heeds⟩, rest.source,
          rest.record⟩
        rw [rest.settled.queued, unheard, Bool.or_self]
  | take =>
      simp only [Recorder.step, rest.settled.queued, Bool.false_eq_true, false_and, if_false]
        at taken
      cases taken
  | record _ | fail | giveUp =>
      simp only [Recorder.step, idle, Option.map_none] at taken
      cases taken

theorem AtRest.throughout {source : σ} {record : ρ} (rest : AtRest source record s)
    {actions : List (Action σ ρ)} (quiet : ∀ a ∈ actions, a.Quiet) :
    Throughout r.step s actions (AtRest source record) := by
  refine throughout_of_eachStep (C := fun _ a _ => a.Quiet) rest ?_ ?_
  · intro s a s' rest quiet taken
    exact rest.step quiet taken
  · intro before a _ _ small _ _
    exact quiet a (small.subset (List.mem_append_right _ (List.mem_singleton_self a)))

/-- A source that turns and turns back before the first patch has come back. -/
def flip (time time' : Nat) (old new : σ) : List (Action σ ρ) :=
  [.setSource new, .deliverSource true, .take, .record time,
    .setSource old, .deliverSource true, .take, .record time']

/-- The second patch is made of the old version, and is applied to what the first one has
left. -/
theorem Recorder.run_flip (r : Recorder σ ρ) (old new : σ) {time time' : Nat} {a a' b : ρ}
    (wantsOld : r.desired time' old = .ok (some a'))
    (wantsNew : r.desired time new = .ok (some b)) (differs : a ≠ b) :
    ∃ s, run r.step { source := ⟨[], old⟩, record := ⟨[], a⟩, queued := false }
      (flip time time' old new) = some s ∧ AtRest old (r.patch a a' b) s := by
  obtain rfl | same := eq_or_ne a a'
  · refine ⟨{ source := ⟨[], old⟩, record := ⟨[a], b⟩, queued := false }, ?_, ?_⟩
    · simp [run, flip, Recorder.step, Recorder.write, Versions.write, Versions.advance,
        Versions.seen, wantsOld, wantsNew, differs, r.patch_self]
    · exact ⟨⟨rfl, rfl, rfl, fun heeds => by cases heeds⟩, rfl, (r.patch_same a b).symm⟩
  · refine ⟨{ source := ⟨[], old⟩, record := ⟨[a, b], r.patch a a' b⟩, queued := false }, ?_, ?_⟩
    · simp [run, flip, Recorder.step, Recorder.write, Versions.write, Versions.advance,
        Versions.seen, wantsOld, wantsNew, differs, r.patch_self, same]
    · exact ⟨⟨rfl, rfl, rfl, fun heeds => by cases heeds⟩, rfl, rfl⟩

end

/-! ## Two in a row -/

/-- The record of the first controller is the source of the second. -/
structure Chain (σ ρ τ : Type) where
  first : State σ ρ
  second : State ρ τ

inductive ChainAction (σ ρ τ : Type)
  | first (a : Action σ ρ)
  | second (a : Action ρ τ)

section
variable [DecidableEq ρ] [DecidableEq τ] (r : Recorder σ ρ) (r' : Recorder ρ τ)

/-- What is written to the record in between is on its way to the second controller. -/
def Chain.passOn (s : Chain σ ρ τ) (first : State σ ρ) : Action σ ρ → Chain σ ρ τ
  | .record _ | .setRecord _ =>
      ⟨first, { s.second with source := s.second.source.write first.record.present }⟩
  | _ => ⟨first, s.second⟩

def chainStep (s : Chain σ ρ τ) : ChainAction σ ρ τ → Option (Chain σ ρ τ)
  | .first a => (r.step s.first a).map fun first => s.passOn first a
  | .second (.setSource _) => none
  | .second a => (r'.step s.second a).map fun second => ⟨s.first, second⟩

def ChainTimely (heeds heeds' : Bool) (s : Chain σ ρ τ) : ChainAction σ ρ τ → Prop
  | .first a => Timely heeds s.first a
  | .second a => Timely heeds' s.second a

variable {r r'} {heeds heeds' : Bool} {s s' : Chain σ ρ τ}

/-- Both controllers are on their way, and the second is shown what the first records. -/
structure Chain.Progress (r : Recorder σ ρ) (r' : Recorder ρ τ) (heeds heeds' : Bool)
    (s : Chain σ ρ τ) : Prop where
  first : r.Progress heeds s.first
  second : r'.Progress heeds' s.second
  joint : s.second.source.present = s.first.record.present

theorem Chain.Progress.step {a : ChainAction σ ρ τ} (progress : s.Progress r r' heeds heeds')
    (timely : ChainTimely heeds heeds' s a) (taken : chainStep r r' s a = some s') :
    s'.Progress r r' heeds heeds' := by
  cases a with
  | first a =>
      obtain ⟨first, stepped, rfl⟩ := Option.map_eq_some_iff.mp taken
      have moved := progress.first.step timely stepped
      by_cases writes : (∃ time, a = .record time) ∨ ∃ new, a = .setRecord new
      · have passed : s.passOn first a = ⟨first,
            { s.second with source := s.second.source.write first.record.present }⟩ := by
          rcases writes with ⟨time, rfl⟩ | ⟨new, rfl⟩ <;> rfl
        rw [passed]
        exact ⟨moved, .source (Versions.behind_write_ne_nil _ _), rfl⟩
      · simp only [not_or, not_exists] at writes
        have passed : s.passOn first a = ⟨first, s.second⟩ := by
          cases a with
          | record time => exact absurd rfl (writes.1 time)
          | setRecord new => exact absurd rfl (writes.2 new)
          | _ => rfl
        rw [passed]
        have kept := (Recorder.presents_of_step stepped).2 writes.1 writes.2
        exact ⟨moved, progress.second, progress.joint.trans kept.symm⟩
  | second a =>
      have leaves : ∀ new, a ≠ .setSource new := by
        rintro new rfl
        cases taken
      have taken : (r'.step s.second a).map (fun second => (⟨s.first, second⟩ : Chain σ ρ τ)) =
          some s' := by
        cases a with
        | setSource new => exact absurd rfl (leaves new)
        | _ => exact taken
      obtain ⟨second, stepped, rfl⟩ := Option.map_eq_some_iff.mp taken
      have kept := (Recorder.presents_of_step stepped).1 leaves
      exact ⟨progress.first, progress.second.step timely stepped, kept.trans progress.joint⟩

def Chain.start (source : σ) (record : ρ) (copy : τ) : Chain σ ρ τ where
  first := { source := { present := source }, record := { present := record } }
  second := { source := { present := record }, record := { present := copy } }

/-- In every run in which all comes in time, once nothing is left to do for either of them
both records are as they should be. -/
theorem Chain.fits_throughout {source : σ} {record : ρ} {copy : τ}
    {actions : List (ChainAction σ ρ τ)}
    (timely : EachStep (chainStep r r') (.start source record copy) actions
      fun s a _ => ChainTimely heeds heeds' s a) :
    Throughout (chainStep r r') (.start source record copy) actions fun s =>
      Settled heeds s.first → Settled heeds' s.second →
        r.Fits s.first ∧ r'.Fits s.second ∧ s.second.source.present = s.first.record.present := by
  have progress : Throughout (chainStep r r') (.start source record copy) actions
      (Chain.Progress r r' heeds heeds') := by
    refine throughout_of_eachStep (C := fun s a _ => ChainTimely heeds heeds' s a)
      ⟨.queued rfl, .queued rfl, rfl⟩ ?_ timely
    intro s a s' progress timely taken
    exact progress.step timely taken
  intro before s small reached first second
  have held := progress before s small reached
  exact ⟨held.first.fits first, held.second.fits second, held.joint⟩

end

end Recording
