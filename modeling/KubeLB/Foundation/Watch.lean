import KubeLB.Foundation.Runs

/-!
A controller that is told of changes and brings its outputs up to date.

The handlers of a change queue requests. One worker takes a request at a time,
looks at the watched objects while others go on changing them, and leaves an
output for the topic of the request. A run that fails puts its request back. A
request is in the queue at most once, and one that is queued while its run is going
on stays there. On a restart outputs and queue are lost, and every object is
announced again.

A run need not see one state of the objects: it is given all the states since it
began. Nothing is assumed about the order in which requests are taken.
-/

namespace Watch
open Runs

structure Controller (σ α ρ τ ι ο : Type) where
  change : σ → α → Option σ
  /-- The requests that a change queues. -/
  requests : σ → α → Finset ρ
  /-- Those that the first announcement of all objects queues. -/
  announced : σ → Finset ρ
  topic : ρ → τ
  blank : ο
  /-- The output after a run that has seen these states, and whether the run succeeds.
  The last argument is the output before. -/
  reconcile : List σ → ρ → ι → ο → Option (ο × Bool)

structure State (σ ρ τ ο : Type) where
  world : σ
  queue : Finset ρ
  /-- The request that is worked on, and the states since it was taken. -/
  working : Option (ρ × List σ) := none
  output : τ → ο

inductive Action (α ρ ι : Type)
  | change (change : α)
  | take (request : ρ)
  | finish (input : ι)
  | restart

variable {σ α ρ τ ι ο : Type}

namespace Controller
variable (c : Controller σ α ρ τ ι ο)

def begin (world : σ) : State σ ρ τ ο where
  world := world
  queue := c.announced world
  output := fun _ => c.blank

def step [DecidableEq ρ] [DecidableEq τ] (s : State σ ρ τ ο) :
    Action α ρ ι → Option (State σ ρ τ ο)
  | .change a => do
      let world ← c.change s.world a
      return { s with
        world := world
        queue := s.queue ∪ c.requests s.world a
        working := s.working.map fun work => (work.1, world :: work.2) }
  | .take request =>
      if request ∈ s.queue ∧ s.working = none then
        some { s with
          queue := s.queue.erase request
          working := some (request, [s.world]) }
      else none
  | .finish input =>
      match s.working with
      | none => none
      | some (request, seen) => do
          let (output, succeeded) ← c.reconcile seen request input (s.output (c.topic request))
          return { s with
            queue := if succeeded then s.queue else insert request s.queue
            working := none
            output := Function.update s.output (c.topic request) output }
  | .restart => some (c.begin s.world)

end Controller

/-- What the outputs of a topic should be like, and what of the objects they depend on. -/
structure Purpose (c : Controller σ α ρ τ ι ο) (ν : Type) where
  view : σ → τ → ν
  Fits : ν → ο → Prop
  /-- A run during which the view stays the same and which succeeds leaves an output
  that fits. -/
  fits : ∀ {seen request input before after} {v : ν},
    (∀ world ∈ seen, view world (c.topic request) = v) →
    c.reconcile seen request input before = some (after, true) → Fits v after

section
variable {ν : Type} {c : Controller σ α ρ τ ι ο} (p : Purpose c ν) (t : τ)

def Queued (c : Controller σ α ρ τ ι ο) (t : τ) (s : State σ ρ τ ο) : Prop :=
  ∃ request ∈ s.queue, c.topic request = t

def Working (c : Controller σ α ρ τ ι ο) (t : τ) (s : State σ ρ τ ο) : Prop :=
  ∃ request seen, s.working = some (request, seen) ∧ c.topic request = t

/-- The run that is going on for the topic has seen one view only, the present one. -/
def Purpose.Steady (s : State σ ρ τ ο) : Prop :=
  ∃ request seen, s.working = some (request, seen) ∧ c.topic request = t ∧
    ∀ world ∈ seen, p.view world t = p.view s.world t

/-- The output fits, or a run will follow or is following on the present view. -/
inductive Purpose.Current (s : State σ ρ τ ο) : Prop
  | queued (queued : Queued c t s)
  | steady (steady : p.Steady t s)
  | settled (idle : ¬ Working c t s) (fits : p.Fits (p.view s.world t) (s.output t))

def Purpose.Heard (s : State σ ρ τ ο) (a : Action α ρ ι) (s' : State σ ρ τ ο) : Prop :=
  match a with
  | .change a => p.view s'.world t ≠ p.view s.world t →
      ∃ request ∈ c.requests s.world a, c.topic request = t
  | .restart => (∃ request ∈ c.announced s.world, c.topic request = t) ∨
      p.Fits (p.view s.world t) c.blank
  | _ => True

variable {p t}

theorem Queued.mono {s s' : State σ ρ τ ο} (queued : Queued c t s)
    (grows : ∀ request ∈ s.queue, request ∈ s'.queue) : Queued c t s' := by
  obtain ⟨request, member, about⟩ := queued
  exact ⟨request, grows request member, about⟩

theorem Purpose.Current.begin {world : σ}
    (heard : (∃ request ∈ c.announced world, c.topic request = t) ∨
      p.Fits (p.view world t) c.blank) : p.Current t (c.begin world) := by
  rcases heard with announced | blank
  · exact .queued announced
  · refine .settled ?_ blank
    rintro ⟨request, seen, working, _⟩
    cases working

variable [DecidableEq ρ] [DecidableEq τ]

theorem Purpose.Current.change {s s' : State σ ρ τ ο} {a : α} (current : p.Current t s)
    (heard : p.Heard t s (.change a : Action α ρ ι) s') (taken : c.step s (.change a) = some s') :
    p.Current t s' := by
  obtain ⟨world, changed, taken⟩ := Option.bind_eq_some_iff.mp taken
  cases taken
  by_cases same : p.view world t = p.view s.world t
  · cases current with
    | queued queued => exact .queued (queued.mono fun request => Finset.mem_union_left _)
    | steady steady =>
        obtain ⟨request, seen, working, about, once⟩ := steady
        refine .steady ⟨request, world :: seen, ?_, about, ?_⟩
        · simp only [working, Option.map_some]
        · intro shown member
          rcases List.mem_cons.mp member with rfl | earlier
          · rfl
          · exact (once shown earlier).trans same.symm
    | settled idle fits =>
        refine .settled ?_ ?_
        · rintro ⟨request, seen, working, about⟩
          obtain ⟨⟨_, earlier⟩, held, same⟩ := Option.map_eq_some_iff.mp working
          cases same
          exact idle ⟨_, _, held, about⟩
        · change p.Fits (p.view world t) (s.output t)
          rwa [same]
  · obtain ⟨request, member, about⟩ := heard same
    exact .queued ⟨request, Finset.mem_union_right _ member, about⟩

theorem Purpose.Current.take {s s' : State σ ρ τ ο} {request : ρ} (current : p.Current t s)
    (taken : c.step s (.take request) = some s') : p.Current t s' := by
  simp only [Controller.step] at taken
  split at taken
  · rename_i free
    cases taken
    by_cases own : c.topic request = t
    · refine .steady ⟨request, [s.world], rfl, own, ?_⟩
      intro world member
      rw [List.mem_singleton.mp member]
    · cases current with
      | queued queued =>
          obtain ⟨other, member, about⟩ := queued
          have others : other ≠ request := by
            rintro rfl
            exact own about
          exact .queued ⟨other, Finset.mem_erase.mpr ⟨others, member⟩, about⟩
      | steady steady =>
          obtain ⟨_, _, working, _⟩ := steady
          rw [free.2] at working
          cases working
      | settled idle fits =>
          refine .settled ?_ fits
          rintro ⟨_, _, working, about⟩
          cases working
          exact own about
  · cases taken

theorem Purpose.Current.finish {s s' : State σ ρ τ ο} {input : ι} (current : p.Current t s)
    (taken : c.step s (.finish input) = some s') : p.Current t s' := by
  simp only [Controller.step] at taken
  split at taken
  · cases taken
  rename_i request seen working
  obtain ⟨⟨output, succeeded⟩, returned, taken⟩ := Option.bind_eq_some_iff.mp taken
  cases taken
  have grows : ∀ other ∈ s.queue,
      other ∈ if succeeded then s.queue else insert request s.queue := by
    intro other member
    split
    · exact member
    · exact Finset.mem_insert_of_mem member
  have stopped : ∀ queue output', ¬ Working c t ⟨s.world, queue, none, output'⟩ := by
    rintro _ _ ⟨_, _, working, _⟩
    cases working
  cases current with
  | queued queued => exact .queued (queued.mono grows)
  | steady steady =>
      obtain ⟨_, _, held, about, once⟩ := steady
      cases working.symm.trans held
      cases succeeded with
      | false => exact .queued ⟨request, Finset.mem_insert_self _ _, about⟩
      | true =>
          refine .settled (stopped _ _) ?_
          subst about
          change p.Fits _ (Function.update s.output (c.topic request) output (c.topic request))
          rw [Function.update_self]
          exact p.fits once returned
  | settled idle fits =>
      have other : t ≠ c.topic request := fun same => idle ⟨request, seen, working, same.symm⟩
      refine .settled (stopped _ _) ?_
      change p.Fits _ (Function.update s.output (c.topic request) output t)
      rwa [Function.update_of_ne other]

theorem Purpose.Current.step {s s' : State σ ρ τ ο} {a : Action α ρ ι} (current : p.Current t s)
    (heard : p.Heard t s a s') (taken : c.step s a = some s') : p.Current t s' := by
  cases a with
  | change a => exact current.change heard taken
  | take request => exact current.take taken
  | finish input => exact current.finish taken
  | restart =>
      cases taken
      exact Purpose.Current.begin heard

/-- In every state of a run in which all that matters to a topic is heard of, its output
fits the present objects once no request of the topic is left. -/
theorem Purpose.settled_throughout {world : σ} {actions : List (Action α ρ ι)}
    (start : (∃ request ∈ c.announced world, c.topic request = t) ∨
      p.Fits (p.view world t) c.blank)
    (heard : EachStep c.step (c.begin world) actions (p.Heard t)) :
    Throughout c.step (c.begin world) actions fun s =>
      ¬ Queued c t s → ¬ Working c t s → p.Fits (p.view s.world t) (s.output t) := by
  have current : Throughout c.step (c.begin world) actions (p.Current t) := by
    refine throughout_of_eachStep (C := p.Heard t) (Purpose.Current.begin start) ?_ heard
    intro s a s' current heard taken
    exact current.step heard taken
  intro before s small reached idle stopped
  cases current before s small reached with
  | queued queued => exact absurd queued idle
  | steady steady =>
      obtain ⟨request, seen, working, about, _⟩ := steady
      exact absurd ⟨request, seen, working, about⟩ stopped
  | settled _ fits => exact fits

end

end Watch
