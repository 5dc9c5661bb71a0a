import KubeLB.Foundation.Heap
import KubeLB.LoadBalancer.Hostname

/-!
PropagateAnnotations and AddDNSAndCertificateAnnotations on the maps of the program
(internal/kubelb/utils.go), as cells of a heap.

If all annotations are propagated, PropagateAnnotations writes the defaults into the
map it is given and returns that map; otherwise it returns a new one. One reconcile
gives the map of the LoadBalancer first for the Service, then for the Ingress or the
HTTPRoute, and in between configureHostname writes the LoadBalancer back.
-/

namespace KubeLB
open FiniteMap

abbrev AnnotationHeap := Heap (FiniteMap String String)

def permittedAnnotations (annotations : FiniteMap String String)
    (settings : AnnotationSettings) : FiniteMap String String :=
  let permitted := settings.propagatedAnnotations.getD ∅
  filterKeys (fun k => ∃ valuesFilter ∈ permitted.lookup k,
    ∃ value ∈ annotations.lookup k, permitsValue valuesFilter value) annotations

/-- applyDefaultAnnotations writes into the map it is given and returns it. -/
def applyDefaultAnnotationsAt (heap : AnnotationHeap) (map : Nat)
    (settings : AnnotationSettings) (resource : AnnotatedResource) : Nat × AnnotationHeap :=
  (map, heap.modify map fun annotations =>
    applyDefaultAnnotations annotations settings resource)

/-- PropagateAnnotations: the map it returns. `none` is a nil map. -/
def propagateAnnotationsAt (heap : AnnotationHeap) (loadbalancer : Option Nat)
    (settings : AnnotationSettings) (resource : AnnotatedResource) : Nat × AnnotationHeap :=
  let (map, heap) :=
    match loadbalancer with
    | none => heap.alloc ∅
    | some map => (map, heap)
  if settings.propagateAllAnnotations = some true then
    applyDefaultAnnotationsAt heap map settings resource
  else
    let (a, heap) := heap.alloc (permittedAnnotations ((heap.read map).getD ∅) settings)
    applyDefaultAnnotationsAt heap a settings resource

/-- The annotations of a resource that is made for a hostname: propagated first, then
written to. -/
def hostnameAnnotationsAt (heap : AnnotationHeap) (loadbalancer : Option Nat)
    (settings : AnnotationSettings) (resource : AnnotatedResource) (tenant : TenantSpec)
    (config : ConfigSpec) (hostname : String) (skipCertificateAnnotations : Bool) :
    Nat × AnnotationHeap :=
  let (map, heap) := propagateAnnotationsAt heap loadbalancer settings resource
  (map, heap.modify map fun annotations =>
    addDNSAndCertificateAnnotations annotations tenant config hostname skipCertificateAnnotations)

def returned (result : Nat × AnnotationHeap) : FiniteMap String String :=
  (result.2.read result.1).getD ∅

def load : Option (FiniteMap String String) → Option Nat × AnnotationHeap
  | none => (none, ⟨[]⟩)
  | some annotations => (some 0, ⟨[annotations]⟩)

def AnnotationHeap.contents (heap : AnnotationHeap) (map : Option Nat) :
    Option (FiniteMap String String) :=
  map.bind heap.read

/-- The reference leads to the annotations, and is nil if there are none. -/
structure Refers (heap : AnnotationHeap) (map : Option Nat)
    (annotations : Option (FiniteMap String String)) : Prop where
  contents : heap.contents map = annotations
  nil : map = none ↔ annotations = none

/-- The annotations of the LoadBalancer after a call of PropagateAnnotations. -/
def extendedAnnotations (annotations : Option (FiniteMap String String))
    (settings : AnnotationSettings) (resource : AnnotatedResource) :
    Option (FiniteMap String String) :=
  if settings.propagateAllAnnotations = some true then
    annotations.map fun map => applyDefaultAnnotations map settings resource
  else annotations

section
variable (settings : AnnotationSettings) (resource : AnnotatedResource)

theorem refers_load (annotations : Option (FiniteMap String String)) :
    Refers (load annotations).2 (load annotations).1 annotations := by
  cases annotations with
  | none => exact ⟨rfl, iff_of_true rfl rfl⟩
  | some map => exact ⟨rfl, iff_of_false (by simp [load]) (by simp)⟩

theorem propagateAnnotations_eq (annotations : FiniteMap String String) :
    propagateAnnotations annotations settings resource =
      if settings.propagateAllAnnotations = some true then
        applyDefaultAnnotations annotations settings resource
      else applyDefaultAnnotations (permittedAnnotations annotations settings) settings resource :=
  rfl

/-- On a map the call returns what it computes, and extends the map itself if all
annotations are propagated. -/
theorem propagateAnnotationsAt_some {heap : AnnotationHeap} {map : Nat}
    {annotations : FiniteMap String String} (found : heap.read map = some annotations) :
    let result := propagateAnnotationsAt heap (some map) settings resource
    result.2.read result.1 = some (propagateAnnotations annotations settings resource) ∧
      result.2.read map = some (if settings.propagateAllAnnotations = some true then
        applyDefaultAnnotations annotations settings resource else annotations) := by
  simp only [propagateAnnotationsAt, propagateAnnotations_eq, applyDefaultAnnotationsAt]
  split
  · simp [Heap.read_modify_self, found]
  · have new := Heap.read_alloc_self heap
      (permittedAnnotations ((heap.read map).getD ∅) settings)
    have old := Heap.read_alloc_of_read
      (permittedAnnotations ((heap.read map).getD ∅) settings) found
    have apart := Heap.ne_alloc_of_read
      (permittedAnnotations ((heap.read map).getD ∅) settings) found
    constructor
    · rw [Heap.read_modify_self, new, found]
      rfl
    · rw [Heap.read_modify_of_ne _ apart, old]

theorem propagateAnnotationsAt_none (heap : AnnotationHeap) :
    let result := propagateAnnotationsAt heap none settings resource
    result.2.read result.1 = some (propagateAnnotations ∅ settings resource) := by
  exact (propagateAnnotationsAt_some settings resource (Heap.read_alloc_self heap ∅)).1

variable {heap : AnnotationHeap} {map : Option Nat}
  {annotations : Option (FiniteMap String String)}

theorem read_propagateAnnotationsAt (refers : Refers heap map annotations) :
    let result := propagateAnnotationsAt heap map settings resource
    result.2.read result.1 =
      some (propagateAnnotations (annotations.getD ∅) settings resource) := by
  cases map with
  | none =>
      rw [refers.nil.mp rfl]
      exact propagateAnnotationsAt_none settings resource heap
  | some map =>
      cases annotations with
      | none => cases refers.nil.mpr rfl
      | some held => exact (propagateAnnotationsAt_some settings resource refers.contents).1

theorem refers_propagateAnnotationsAt (refers : Refers heap map annotations) :
    Refers (propagateAnnotationsAt heap map settings resource).2 map
      (extendedAnnotations annotations settings resource) := by
  cases annotations with
  | none =>
      cases refers.nil.mpr rfl
      refine ⟨?_, iff_of_true rfl ?_⟩ <;> simp [AnnotationHeap.contents, extendedAnnotations]
  | some held =>
      cases map with
      | none => cases refers.nil.mp rfl
      | some map =>
          have after := (propagateAnnotationsAt_some settings resource refers.contents).2
          refine ⟨after.trans ?_, iff_of_false (by simp) ?_⟩
          · unfold extendedAnnotations
            split <;> rfl
          · unfold extendedAnnotations
            split <;> simp

theorem returned_propagateAnnotationsAt (refers : Refers heap map annotations) :
    returned (propagateAnnotationsAt heap map settings resource) =
      propagateAnnotations (annotations.getD ∅) settings resource := by
  rw [returned, read_propagateAnnotationsAt settings resource refers]
  rfl

theorem returned_hostnameAnnotationsAt (refers : Refers heap map annotations)
    (tenant : TenantSpec) (config : ConfigSpec) (hostname : String) (skip : Bool) :
    returned (hostnameAnnotationsAt heap map settings resource tenant config hostname skip) =
      addDNSAndCertificateAnnotations
        (propagateAnnotations (annotations.getD ∅) settings resource) tenant config hostname
        skip := by
  simp only [returned, hostnameAnnotationsAt, Heap.read_modify_self,
    read_propagateAnnotationsAt settings resource refers]
  rfl

end

theorem applyDefaultAnnotations_eq_iff (annotations : FiniteMap String String)
    (settings : AnnotationSettings) (resource : AnnotatedResource) :
    applyDefaultAnnotations annotations settings resource = annotations ↔
      ∀ k, defaultValue settings resource k ≠ none → k ∈ annotations := by
  constructor
  · intro same k default
    by_contra absent
    have lookup := lookup_applyDefaultAnnotations annotations settings resource k
    rw [same, Finmap.lookup_eq_none.mpr absent, Option.none_or] at lookup
    exact default lookup.symm
  · intro covered
    refine Finmap.ext_lookup fun k => ?_
    rw [lookup_applyDefaultAnnotations]
    by_cases default : defaultValue settings resource k = none
    · rw [default, Option.or_none]
    · obtain ⟨value, found⟩ := Finmap.mem_iff.mp (covered k default)
      rw [found, Option.some_or]

/-- Computing the annotations of one resource changes neither the annotations of the
LoadBalancer nor what is computed for another resource later, exactly when not all
annotations are propagated, or the LoadBalancer has no annotations at all, or it has
every annotation that is a default for the first resource. -/
theorem propagation_leaves_source_iff {heap : AnnotationHeap} {map : Option Nat}
    {annotations : Option (FiniteMap String String)} (refers : Refers heap map annotations)
    (settings : AnnotationSettings) (first second : AnnotatedResource) (tenant : TenantSpec)
    (config : ConfigSpec) (hostname : String) (skip : Bool) :
    let once := (propagateAnnotationsAt heap map settings first).2
    (once.contents map = annotations ∧
      returned (propagateAnnotationsAt once map settings second) =
        returned (propagateAnnotationsAt heap map settings second) ∧
      returned (hostnameAnnotationsAt once map settings second tenant config hostname skip) =
        returned (hostnameAnnotationsAt heap map settings second tenant config hostname skip)) ↔
      (settings.propagateAllAnnotations ≠ some true ∨
        ∀ source, annotations = some source →
          ∀ k, defaultValue settings first k ≠ none → k ∈ source) := by
  intro once
  have after := refers_propagateAnnotationsAt settings first refers
  have unchanged : extendedAnnotations annotations settings first = annotations ↔
      settings.propagateAllAnnotations ≠ some true ∨
        ∀ source, annotations = some source →
          ∀ k, defaultValue settings first k ≠ none → k ∈ source := by
    unfold extendedAnnotations
    split
    · rename_i all
      cases annotations with
      | none => simp
      | some source => simp [all, applyDefaultAnnotations_eq_iff]
    · rename_i some_
      exact iff_of_true rfl (Or.inl some_)
  rw [← unchanged]
  constructor
  · rintro ⟨same, _⟩
    exact after.contents.symm.trans same
  · intro same
    rw [same] at after
    refine ⟨after.contents, ?_, ?_⟩
    · rw [returned_propagateAnnotationsAt settings second after,
        returned_propagateAnnotationsAt settings second refers]
    · rw [returned_hostnameAnnotationsAt settings second after,
        returned_hostnameAnnotationsAt settings second refers]

/-- All annotations are propagated and Services have a default, which the LoadBalancer
sets itself. -/
theorem propagation_leaves_source_own_default :
    let settings : AnnotationSettings :=
      { propagateAllAnnotations := some true
        defaultAnnotations := some ((∅ : FiniteMap AnnotatedResource _).insert .service
          ((∅ : FiniteMap String String).insert "metallb.io/address-pool" "public")) }
    let source : FiniteMap String String := ((∅ : FiniteMap String String).insert
      "metallb.io/address-pool" "private").insert "team" "shop"
    let (map, heap) := load (some source)
    let once := (propagateAnnotationsAt heap map settings .service).2
    once.contents map = some source ∧
      returned (propagateAnnotationsAt once map settings .ingress) =
        returned (propagateAnnotationsAt heap map settings .ingress) := by
  intro settings source
  have own : ∀ k, defaultValue settings .service k ≠ none → k ∈ source := by
    intro k isDefault
    by_cases same : k = "metallb.io/address-pool"
    · rw [same]
      decide
    · simp [defaultValue, settings, Finmap.lookup_insert_of_ne, same] at isDefault
  obtain ⟨kept, same, _⟩ := (propagation_leaves_source_iff (refers_load (some source)) settings
    .service .ingress {} {} "" false).mpr (Or.inr fun _ isSource => Option.some.inj isSource ▸ own)
  exact ⟨kept, same⟩

/-- All annotations are propagated and Services have a default: it ends up in the map
of the LoadBalancer and on the Ingress. -/
theorem service_default_reaches_ingress :
    let settings : AnnotationSettings :=
      { propagateAllAnnotations := some true
        defaultAnnotations := some ((∅ : FiniteMap AnnotatedResource _).insert .service
          ((∅ : FiniteMap String String).insert "metallb.io/address-pool" "public")) }
    let source : FiniteMap String String := (∅ : FiniteMap String String).insert "team" "shop"
    let (map, heap) := load (some source)
    let once := (propagateAnnotationsAt heap map settings .service).2
    ((once.contents map).bind fun held => held.lookup "metallb.io/address-pool") = some "public" ∧
      (returned (propagateAnnotationsAt heap map settings .ingress)).lookup
        "metallb.io/address-pool" = none ∧
      (returned (propagateAnnotationsAt once map settings .ingress)).lookup
        "metallb.io/address-pool" = some "public" := by
  decide

end KubeLB
