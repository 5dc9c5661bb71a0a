import KubeLB.Foundation.Base64
import KubeLB.Foundation.Recording
import KubeLB.Route.Status

/-!
How the status of a resource comes back to its tenant: the Route controller of the
manager records the status of the generated resource in the Route
(manageRoutes, updateResourceStatus and UpdateRouteStatus in
internal/controllers/kubelb/route_controller.go), and the CCM copies it from the
Route to the resource it stands for (reconcile in
internal/controllers/ccm/ingress_controller.go, gateway_controller.go,
gateway_httproute_controller.go and gateway_grpcroute_controller.go, which are the
same but for the type).

All four objects are read from informers: generated resource and Route by the manager,
Route and tenant's resource by the CCM. New versions of the generated resource
start a run of the Route controller, new versions of the status of the Route do not
(GenerationChangedPredicate). The CCM is called for all new versions of Route and
resource. Both write with a merge patch against the version in their cache.

The resource and the Route are there and are not deleted. What else the two reconciles
do is left out; where the apply of the resource fails, the Route keeps the
status it has and the run ends without an error. The condition that the Route controller
records has the time of the run, in seconds, so that it finds a difference in nearly
every run.
-/

namespace KubeLB
open Recording Runs

structure StatusCodec (S : Type) where
  zero : S
  marshal : S → List UInt8
  /-- yaml.UnmarshalStrict. -/
  unmarshalStrict : List UInt8 → Except String S
  unmarshalStrict_marshal : ∀ status, unmarshalStrict (marshal status) = .ok status

/-- v1alpha1.ResourceState with the time of its conditions and the raw status. -/
structure RawResourceState extends ResourceState where
  lastTransitionTime : Nat := 0
  raw : List UInt8 := []
  deriving DecidableEq

def RawResourceState.timedConditions (state : RawResourceState) : List Condition × Nat :=
  (state.conditions, state.lastTransitionTime)

/-- The merge patch of the state of a resource: field by field, with the conditions as one
list. The raw status is a JSON value of its own. -/
def statePatch (raw : MergePatch (List UInt8)) : MergePatch RawResourceState where
  patch current changed other :=
    let conditions := (MergePatch.atomic _).patch current.timedConditions
      changed.timedConditions other.timedConditions
    { generatedName := (MergePatch.atomic _).patch current.generatedName changed.generatedName
        other.generatedName
      ns := (MergePatch.atomic _).patch current.ns changed.ns other.ns
      name := (MergePatch.atomic _).patch current.name changed.name other.name
      conditions := conditions.1
      lastTransitionTime := conditions.2
      raw := raw.patch current.raw changed.raw other.raw }
  patch_self current changed := by
    simp only [MergePatch.patch_self]
    rfl
  patch_same current other := by
    simp only [MergePatch.patch_same]
    rfl

def defaultRouteStatus : List Char := "{}".toList

/-- json.Marshal of a byte slice: a string in base64. -/
def marshalBytes (bytes : List UInt8) : List Char :=
  Char.ofNat 34 :: (Base64.encode bytes ++ [Char.ofNat 34])

section
variable {S : Type} (codec : StatusCodec S)

/-- What the Route controller records of the generated resource, which the cache may not show
yet. -/
def recordedState (time : Nat) (generated : Option (ObjectMeta × S)) : RawResourceState :=
  let (obj, status) := generated.getD ({}, codec.zero)
  { updateResourceStatus obj none with
    lastTransitionTime := time
    raw := codec.marshal status }

def routeRecorder (merge : MergePatch RawResourceState) :
    Recorder (Option (ObjectMeta × S)) RawResourceState where
  toMergePatch := merge
  desired time generated := .ok (some (recordedState codec time generated))

def statusOfRoute (kind : SourceKind) (state : RawResourceState) : Except String (Option S) :=
  if state.generatedName.isEmpty then .ok none
  else if marshalBytes state.raw = defaultRouteStatus then .ok none
  else
    match codec.unmarshalStrict state.raw with
    | .error err => .error ("failed to unmarshal " ++ kind.name ++ " status: " ++ err)
    | .ok status => .ok (some status)

def tenantRecorder (merge : MergePatch S) (kind : SourceKind) : Recorder RawResourceState S where
  toMergePatch := merge
  desired _ := statusOfRoute codec kind

end

/-- The check for a status that is not there yet compares the base64 of the status with the
JSON of an empty one, and is never met. -/
theorem marshalBytes_ne_defaultRouteStatus (bytes : List UInt8) :
    marshalBytes bytes ≠ defaultRouteStatus := by
  intro same
  have first := congrArg List.head? same
  simp [marshalBytes, defaultRouteStatus] at first

section
variable {S : Type} (codec : StatusCodec S)

theorem marshal_injective {a b : S} (same : codec.marshal a = codec.marshal b) : a = b := by
  have read := codec.unmarshalStrict_marshal a
  rw [same, codec.unmarshalStrict_marshal b] at read
  exact (Except.ok.inj read).symm

/-- What the manager has recorded of a resource is what the CCM reads, an empty status
included. -/
theorem statusOfRoute_recordedState (kind : SourceKind) (time : Nat) {obj : ObjectMeta}
    (status : S) (named : obj.name ≠ "") :
    statusOfRoute codec kind (recordedState codec time (some (obj, status))) =
      .ok (some status) := by
  have shown : (recordedState codec time (some (obj, status))).generatedName.isEmpty = false := by
    simpa [recordedState, updateResourceStatus, String.isEmpty_iff] using named
  rw [statusOfRoute, shown, if_neg Bool.false_ne_true,
    if_neg (marshalBytes_ne_defaultRouteStatus _)]
  change (match codec.unmarshalStrict (codec.marshal status) with
    | .error err => _
    | .ok status => _) = _
  rw [codec.unmarshalStrict_marshal]

/-- A patch that is made of the status as it was, for the same status at another time, leaves
the status that is there. -/
theorem patch_recordedState (raw : MergePatch (List UInt8)) (obj : ObjectMeta) (now between : S)
    (time time' time₁ : Nat) :
    (statePatch raw).patch (recordedState codec time (some (obj, now)))
        (recordedState codec time' (some (obj, now)))
        (recordedState codec time₁ (some (obj, between))) =
      recordedState codec (if time = time' then time₁ else time') (some (obj, between)) := by
  by_cases same : time = time'
  · subst same
    rw [MergePatch.patch_same, if_pos rfl]
  · simp [statePatch, recordedState, RawResourceState.timedConditions, MergePatch.atomic,
      MergePatch.patch_same, same]

end

def verbatimCodec : StatusCodec (List UInt8) where
  zero := []
  marshal := id
  unmarshalStrict := .ok
  unmarshalStrict_marshal _ := rfl

def arrivingActions :
    List (ChainAction (Option (ObjectMeta × List UInt8)) RawResourceState (List UInt8)) :=
  [.first .take, .first (.record 5), .second (.deliverSource true), .second .take,
    .second (.record 5), .second (.deliverRecord true), .second .take, .second (.record 6)]

/-- The status of a generated resource changes and changes back before the Route controller
is shown its own first patch: the second patch carries nothing but the new time of the
condition. Then the Route is left with the status in between, and whatever else happens, it
keeps it until the resource, the Route's spec, the Config or the Tenant changes, the
cache is resynced or the manager is restarted. -/
theorem flipped_status_stays {S : Type} (codec : StatusCodec S) (raw : MergePatch (List UInt8))
    (obj : ObjectMeta) (now between : S) (differs : now ≠ between) (time time₁ time₂ : Nat)
    (later : List (Action (Option (ObjectMeta × S)) RawResourceState))
    (quiet : ∀ a ∈ later, a.Quiet) :
    ∃ s, run (routeRecorder codec (statePatch raw)).step
        { source := ⟨[], some (obj, now)⟩,
          record := ⟨[], recordedState codec time (some (obj, now))⟩, queued := false }
        (flip time₁ time₂ (some (obj, now)) (some (obj, between))) = some s ∧
      Throughout (routeRecorder codec (statePatch raw)).step s later fun s =>
        Recording.Settled false s ∧ s.source.present = some (obj, now) ∧
          s.record.present = recordedState codec (if time = time₂ then time₁ else time₂)
            (some (obj, between)) := by
  have states : recordedState codec time (some (obj, now)) ≠
      recordedState codec time₁ (some (obj, between)) := by
    intro same
    exact differs (marshal_injective codec (congrArg RawResourceState.raw same))
  obtain ⟨s, reached, rest⟩ := (routeRecorder codec (statePatch raw)).run_flip (some (obj, now))
    (some (obj, between)) rfl rfl states
  refine ⟨s, reached, ?_⟩
  intro before s' small later
  have held := rest.throughout quiet before s' small later
  refine ⟨held.settled, held.source, held.record.trans ?_⟩
  exact patch_recordedState codec raw obj now between time time₂ time₁

def flippedStart : State (Option (ObjectMeta × List UInt8)) RawResourceState where
  source := { present := some ({ name := "web" }, [1]) }
  record := { present := recordedState verbatimCodec 0 (some ({ name := "web" }, [1])) }
  queued := false

theorem flipped_status_stays_cleared :
    ∃ s, run (routeRecorder verbatimCodec (statePatch (.atomic _))).step flippedStart
        (flip 5 9 (some ({ name := "web" }, [1])) (some ({ name := "web" }, [])) ++
          [.deliverRecord false, .deliverRecord false]) = some s ∧ Recording.Settled true s ∧
      s.source.present = some ({ name := "web" }, [1]) ∧ s.record.present.raw = [] ∧
      s.record.present.lastTransitionTime = 9 := by
  have quiet : ∀ a ∈ [(.deliverRecord false :
      Action (Option (ObjectMeta × List UInt8)) RawResourceState), .deliverRecord false],
      a.Quiet := by
    intro a isA
    simp only [List.mem_cons, List.not_mem_nil, or_false, or_self] at isA
    rw [isA]
    rfl
  obtain ⟨s, reached, kept⟩ := flipped_status_stays verbatimCodec (.atomic _)
    { name := "web" } [1] [] (by decide) 0 5 9 [.deliverRecord false, .deliverRecord false] quiet
  have concrete : run (routeRecorder verbatimCodec (statePatch (.atomic _))).step flippedStart
      (flip 5 9 (some ({ name := "web" }, [1])) (some ({ name := "web" }, []))) = some _ := rfl
  cases concrete.symm.trans reached
  obtain ⟨_, source, record⟩ := kept _ _ (List.prefix_refl _) rfl
  exact ⟨_, rfl, ⟨rfl, rfl, rfl, fun _ => rfl⟩, source, by rw [record]; rfl, by rw [record]; rfl⟩

end KubeLB
