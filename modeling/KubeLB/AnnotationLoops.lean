import KubeLB.Annotations
import KubeLB.Foundation.MapLoop

/-!
PropagateAnnotations loop by loop (internal/kubelb/utils.go).

The function ranges over four maps: the permitted annotations, to split their filters;
the source annotations, to let them through; the defaults of the resource and those of
all resources, to fill the gaps. Each loop meets the keys in an order of its own.
`propagateAnnotations` is what they compute in any order.
-/

namespace KubeLB
open FiniteMap

structure RangeOrders where
  permitted : List String
  loadbalancer : List String
  resource : List String
  all : List String

/-- The values a filter admits, none for the empty filter. -/
def filterValues (v : String) : List (List Char) :=
  if v = "" then [] else (v.toList.splitOn ',').map trimSpace

def permitKey (k v : String) (permittedMap : FiniteMap String (List (List Char))) :
    FiniteMap String (List (List Char)) :=
  if k ∈ permittedMap then permittedMap else permittedMap.insert k (filterValues v)

/-- The loop over the values of a filter, which stops at the first that fits. -/
def copyIfListed (k v : String) : List (List Char) → FiniteMap String String →
    FiniteMap String String
  | [], a => a
  | vf :: valuesFilter, a =>
      if v.toList = vf then a.insert k v else copyIfListed k v valuesFilter a

def copyIfPermitted (permittedMap : FiniteMap String (List (List Char))) (k v : String)
    (a : FiniteMap String String) : FiniteMap String String :=
  match permittedMap.lookup k with
  | none => a
  | some valuesFilter =>
      if valuesFilter.length = 0 then a.insert k v else copyIfListed k v valuesFilter a

def copyIfAbsent (k v : String) (loadbalancer : FiniteMap String String) :
    FiniteMap String String :=
  if k ∈ loadbalancer then loadbalancer else loadbalancer.insert k v

def rangeDefaults (order : List String) (defaults : Option (FiniteMap String String))
    (loadbalancer : FiniteMap String String) : FiniteMap String String :=
  match defaults with
  | none => loadbalancer
  | some defaults => rangeLoop defaults copyIfAbsent order loadbalancer

def applyDefaultAnnotationsIn (orders : RangeOrders) (loadbalancer : FiniteMap String String)
    (settings : AnnotationSettings) (resource : AnnotatedResource) : FiniteMap String String :=
  match settings.defaultAnnotations with
  | none => loadbalancer
  | some defaults =>
      rangeDefaults orders.all (defaults.lookup .all)
        (rangeDefaults orders.resource (defaults.lookup resource) loadbalancer)

/-- PropagateAnnotations, `none` for a nil map. -/
def propagateAnnotationsIn (orders : RangeOrders) (loadbalancer : Option (FiniteMap String String))
    (settings : AnnotationSettings) (resource : AnnotatedResource) : FiniteMap String String :=
  let loadbalancer := loadbalancer.getD ∅
  if settings.propagateAllAnnotations = some true then
    applyDefaultAnnotationsIn orders loadbalancer settings resource
  else
    let permitted := settings.propagatedAnnotations.getD ∅
    let permittedMap := rangeLoop permitted permitKey orders.permitted ∅
    let a := rangeLoop loadbalancer (copyIfPermitted permittedMap) orders.loadbalancer ∅
    applyDefaultAnnotationsIn orders a settings resource

def defaultsOf (settings : AnnotationSettings) (resource : AnnotatedResource) :
    FiniteMap String String :=
  ((settings.defaultAnnotations.getD ∅).lookup resource).getD ∅

structure RangeOrders.Enumerate (orders : RangeOrders)
    (loadbalancer : Option (FiniteMap String String)) (settings : AnnotationSettings)
    (resource : AnnotatedResource) : Prop where
  permitted : Enumerates orders.permitted (settings.propagatedAnnotations.getD ∅)
  loadbalancer : Enumerates orders.loadbalancer (loadbalancer.getD ∅)
  resource : Enumerates orders.resource (defaultsOf settings resource)
  all : Enumerates orders.all (defaultsOf settings .all)

theorem copyIfListed_eq (k v : String) (valuesFilter : List (List Char))
    (a : FiniteMap String String) :
    copyIfListed k v valuesFilter a = if v.toList ∈ valuesFilter then a.insert k v else a := by
  induction valuesFilter with
  | nil => rfl
  | cons vf valuesFilter ih =>
      rw [copyIfListed, ih]
      by_cases fits : v.toList = vf <;> simp [fits]

/-- Only the empty filter has no values, since splitting gives at least one. -/
theorem filterValues_admit_iff (valuesFilter v : String) :
    (filterValues valuesFilter).length = 0 ∨ v.toList ∈ filterValues valuesFilter ↔
      permitsValue valuesFilter v = true := by
  unfold filterValues permitsValue
  split
  · rename_i empty
    simp [empty]
  · rename_i nonempty
    simp [nonempty, List.splitOn_ne_nil]

theorem lookup_permittedMap {permitted : FiniteMap String String} {order : List String}
    (enumerates : Enumerates order permitted) (k : String) :
    (rangeLoop permitted permitKey order ∅).lookup k =
      (permitted.lookup k).map filterValues := by
  refine (lookup_rangeLoop (writesOwnKey_insertIfAbsent filterValues) enumerates ∅ k).trans ?_
  rw [Finmap.lookup_empty]
  cases permitted.lookup k <;> rfl

theorem copyIfPermitted_eq {permitted : FiniteMap String String}
    {permittedMap : FiniteMap String (List (List Char))}
    (split : ∀ k, permittedMap.lookup k = (permitted.lookup k).map filterValues) :
    copyIfPermitted permittedMap = fun k v a =>
      if ∃ valuesFilter ∈ permitted.lookup k, permitsValue valuesFilter v then a.insert k v
      else a := by
  funext k v a
  rw [copyIfPermitted, split]
  cases permitted.lookup k with
  | none => simp
  | some valuesFilter =>
      simp only [Option.map_some, copyIfListed_eq, Option.mem_def, Option.some.injEq,
        exists_eq_left', ← filterValues_admit_iff]
      by_cases empty : (filterValues valuesFilter).length = 0 <;> simp only [empty] <;> simp

theorem lookup_copied {permitted loadbalancer : FiniteMap String String}
    {permittedOrder order : List String} (permits : Enumerates permittedOrder permitted)
    (enumerates : Enumerates order loadbalancer) (k : String) :
    (rangeLoop loadbalancer
      (copyIfPermitted (rangeLoop permitted permitKey permittedOrder ∅)) order ∅).lookup k =
      (loadbalancer.lookup k).filter fun v =>
        ∃ valuesFilter ∈ permitted.lookup k, permitsValue valuesFilter v := by
  rw [copyIfPermitted_eq (lookup_permittedMap permits),
    lookup_rangeLoop (writesOwnKey_insertIf _) enumerates, Finmap.lookup_empty]
  cases loadbalancer.lookup k with
  | none => rfl
  | some v => simp [Option.filter_some]

theorem lookup_rangeDefaults {order : List String} {defaults : Option (FiniteMap String String)}
    (enumerates : Enumerates order (defaults.getD ∅)) (loadbalancer : FiniteMap String String)
    (k : String) :
    (rangeDefaults order defaults loadbalancer).lookup k =
      (loadbalancer.lookup k).or ((defaults.getD ∅).lookup k) := by
  cases defaults with
  | none => simp [rangeDefaults]
  | some defaults =>
      refine (lookup_rangeLoop (writesOwnKey_insertIfAbsent id) enumerates _ _).trans ?_
      simp only [Option.getD_some]
      cases defaults.lookup k with
      | none => rw [Option.or_none]
      | some v => rfl

section
variable {orders : RangeOrders} {loadbalancer : Option (FiniteMap String String)}
  {settings : AnnotationSettings} {resource : AnnotatedResource}

theorem lookup_applyDefaultAnnotationsIn
    (enumerate : orders.Enumerate loadbalancer settings resource)
    (annotations : FiniteMap String String) (k : String) :
    (applyDefaultAnnotationsIn orders annotations settings resource).lookup k =
      (annotations.lookup k).or
        (((defaultsOf settings resource).lookup k).or ((defaultsOf settings .all).lookup k)) := by
  have resourceOrder := enumerate.resource
  have allOrder := enumerate.all
  unfold applyDefaultAnnotationsIn
  unfold defaultsOf at resourceOrder allOrder ⊢
  split
  · rename_i none
    simp [none]
  · rename_i defaults some
    rw [some, Option.getD_some] at resourceOrder allOrder ⊢
    rw [lookup_rangeDefaults allOrder, lookup_rangeDefaults resourceOrder, Option.or_assoc]

/-- What a call returns at a key, in any order: the source annotation if it is let
through, else the default of the resource, else that of all resources, else nothing. -/
theorem lookup_propagateAnnotationsIn (enumerate : orders.Enumerate loadbalancer settings resource)
    (k : String) :
    (propagateAnnotationsIn orders loadbalancer settings resource).lookup k =
      (((loadbalancer.getD ∅).lookup k).filter (propagates settings k)).or
        (((defaultsOf settings resource).lookup k).or ((defaultsOf settings .all).lookup k)) := by
  unfold propagateAnnotationsIn
  split
  · rename_i all
    have lets (v : String) : propagates settings k v = true := by
      simp [propagates, all]
    rw [lookup_applyDefaultAnnotationsIn enumerate]
    cases (loadbalancer.getD ∅).lookup k with
    | none => rfl
    | some v => rw [Option.filter_some_pos (lets v)]
  · rename_i some_
    have lets : propagates settings k = fun v =>
        decide (∃ valuesFilter ∈ (settings.propagatedAnnotations.getD ∅).lookup k,
          permitsValue valuesFilter v = true) := by
      funext v
      simp [propagates, some_]
    rw [lookup_applyDefaultAnnotationsIn enumerate,
      lookup_copied enumerate.permitted enumerate.loadbalancer, lets]

theorem propagateAnnotationsIn_eq (enumerate : orders.Enumerate loadbalancer settings resource) :
    propagateAnnotationsIn orders loadbalancer settings resource =
      propagateAnnotations (loadbalancer.getD ∅) settings resource := by
  refine Finmap.ext_lookup fun k => ?_
  rw [lookup_propagateAnnotationsIn enumerate, lookup_propagateAnnotations]
  unfold defaultValue defaultsOf
  cases settings.defaultAnnotations <;> simp

end

/-- Whatever orders the four loops take, PropagateAnnotations returns at a key the source
annotation if it is let through, else the default of the resource, else the default of
all resources, and nothing at any other key. -/
theorem propagated_in_every_order (loadbalancer : Option (FiniteMap String String))
    (settings : AnnotationSettings) (resource : AnnotatedResource) (orders orders' : RangeOrders)
    (enumerate : orders.Enumerate loadbalancer settings resource)
    (enumerate' : orders'.Enumerate loadbalancer settings resource) :
    let result := propagateAnnotationsIn orders loadbalancer settings resource
    (∀ k, result.lookup k =
      (((loadbalancer.getD ∅).lookup k).filter (propagates settings k)).or
        (((defaultsOf settings resource).lookup k).or ((defaultsOf settings .all).lookup k))) ∧
    result = propagateAnnotationsIn orders' loadbalancer settings resource :=
  ⟨lookup_propagateAnnotationsIn enumerate,
    (propagateAnnotationsIn_eq enumerate).trans (propagateAnnotationsIn_eq enumerate').symm⟩

/-- A key the filter rejects gets the default of the resource, which wins over the one for
all resources; a key that is let through keeps its own value. -/
theorem propagated_in_two_orders :
    let settings : AnnotationSettings :=
      { propagatedAnnotations := some (insertAll ∅ [("a", ""), ("b", "x, y")])
        defaultAnnotations := some (insertAll ∅
          [(.service, insertAll ∅ [("b", "s"), ("a", "s")]),
            (.all, insertAll ∅ [("b", "d"), ("c", "d")])]) }
    let source := some (insertAll ∅ [("a", "1"), ("b", "z"), ("e", "1")])
    let result := propagateAnnotationsIn ⟨["a", "b"], ["a", "b", "e"], ["a", "b"], ["b", "c"]⟩
      source settings .service
    (result.lookup "a" = some "1" ∧ result.lookup "b" = some "s" ∧
      result.lookup "c" = some "d" ∧ result.lookup "e" = none) ∧
    result = propagateAnnotationsIn ⟨["b", "a"], ["e", "b", "a"], ["b", "a"], ["c", "b"]⟩
      source settings .service := by
  intro settings source result
  obtain ⟨found, same⟩ := propagated_in_every_order source settings .service
    ⟨["a", "b"], ["a", "b", "e"], ["a", "b"], ["b", "c"]⟩
    ⟨["b", "a"], ["e", "b", "a"], ["b", "a"], ["c", "b"]⟩
    ⟨by decide, by decide, by decide, by decide⟩ ⟨by decide, by decide, by decide, by decide⟩
  refine ⟨?_, same⟩
  simp only [result, found]
  decide

end KubeLB
