import KubeLB.Names

/-!
Annotation settings and their propagation (internal/kubelb/utils.go,
internal/controllers/kubelb/shared.go and internal/util/kubernetes).

Every map here is the one a call returns. That PropagateAnnotations may return
the very map it was given, with the defaults written into it, is the subject of
LoadBalancer/AnnotationMap.
-/

namespace KubeLB
open FiniteMap

inductive AnnotatedResource
  | all | service | ingress | gateway | httpRoute | grpcRoute | tcpRoute | udpRoute | tlsRoute
  deriving DecidableEq, Repr

structure AnnotationSettings where
  propagatedAnnotations : Option (FiniteMap String String) := none
  propagateAllAnnotations : Option Bool := none
  defaultAnnotations : Option (FiniteMap AnnotatedResource (FiniteMap String String)) := none
  deriving DecidableEq

def getAnnotations (tenant config : AnnotationSettings) : AnnotationSettings :=
  let global : AnnotationSettings :=
    if config.propagateAllAnnotations = some true then
      { propagateAllAnnotations := config.propagateAllAnnotations }
    else { propagatedAnnotations := config.propagatedAnnotations }
  let settings : AnnotationSettings :=
    if tenant.propagateAllAnnotations = some true then
      { global with propagateAllAnnotations := tenant.propagateAllAnnotations }
    else if tenant.propagatedAnnotations.isSome then
      { global with propagatedAnnotations := tenant.propagatedAnnotations }
    else global
  { settings with defaultAnnotations := tenant.defaultAnnotations <|> config.defaultAnnotations }

/-- unicode.IsSpace. -/
def isSpace (c : Char) : Bool :=
  (9 ≤ c.toNat ∧ c.toNat ≤ 13) ∨ (0x2000 ≤ c.toNat ∧ c.toNat ≤ 0x200a) ∨
    c.toNat ∈ [0x20, 0x85, 0xa0, 0x1680, 0x2028, 0x2029, 0x202f, 0x205f, 0x3000]

def trimSpace (s : List Char) : List Char :=
  ((s.dropWhile isSpace).reverse.dropWhile isSpace).reverse

/-- Whether the value passes the filter of a permitted annotation: a list of
values separated by commas, or anything if it is empty. -/
def permitsValue (valuesFilter value : String) : Bool :=
  valuesFilter = "" ∨ value.toList ∈ (valuesFilter.toList.splitOn ',').map trimSpace

def applyDefaultAnnotations (annotations : FiniteMap String String)
    (settings : AnnotationSettings) (resource : AnnotatedResource) : FiniteMap String String :=
  match settings.defaultAnnotations with
  | none => annotations
  | some defaults =>
      annotations ∪ (defaults.lookup resource).getD ∅ ∪ (defaults.lookup .all).getD ∅

def propagateAnnotations (annotations : FiniteMap String String)
    (settings : AnnotationSettings) (resource : AnnotatedResource) : FiniteMap String String :=
  if settings.propagateAllAnnotations = some true then
    applyDefaultAnnotations annotations settings resource
  else
    let permitted := settings.propagatedAnnotations.getD ∅
    let kept := filterKeys (fun k => ∃ valuesFilter ∈ permitted.lookup k,
      ∃ value ∈ annotations.lookup k, permitsValue valuesFilter value) annotations
    applyDefaultAnnotations kept settings resource

def propagates (settings : AnnotationSettings) (k value : String) : Bool :=
  settings.propagateAllAnnotations = some true ∨
    ∃ valuesFilter ∈ (settings.propagatedAnnotations.getD ∅).lookup k,
      permitsValue valuesFilter value

/-- The default at a key: that of the resource, else the one for all resources. -/
def defaultValue (settings : AnnotationSettings) (resource : AnnotatedResource)
    (k : String) : Option String :=
  settings.defaultAnnotations.bind fun defaults =>
    (((defaults.lookup resource).getD ∅).lookup k).or (((defaults.lookup .all).getD ∅).lookup k)

theorem lookup_applyDefaultAnnotations (annotations : FiniteMap String String)
    (settings : AnnotationSettings) (resource : AnnotatedResource) (k : String) :
    (applyDefaultAnnotations annotations settings resource).lookup k =
      (annotations.lookup k).or (defaultValue settings resource k) := by
  unfold applyDefaultAnnotations defaultValue
  cases settings.defaultAnnotations with
  | none => rw [Option.bind_none, Option.or_none]
  | some defaults => rw [lookup_union, lookup_union, Option.or_assoc, Option.bind_some]

/-- What PropagateAnnotations returns at a key: the source annotation if the
settings let it through, else the default. -/
theorem lookup_propagateAnnotations (annotations : FiniteMap String String)
    (settings : AnnotationSettings) (resource : AnnotatedResource) (k : String) :
    (propagateAnnotations annotations settings resource).lookup k =
      ((annotations.lookup k).filter (propagates settings k)).or
        (defaultValue settings resource k) := by
  unfold propagateAnnotations
  split
  · rename_i all
    have lets (value : String) : propagates settings k value = true := by
      simp [propagates, all]
    rw [lookup_applyDefaultAnnotations]
    cases annotations.lookup k with
    | none => rfl
    | some value => rw [Option.filter_some_pos (lets value)]
  · rename_i some_
    rw [lookup_applyDefaultAnnotations, lookup_filterKeys]
    cases annotations.lookup k with
    | none => simp
    | some value =>
        simp only [Option.filter_some, propagates, some_, false_or, decide_eq_true_eq,
          Option.mem_def, Option.some.injEq, exists_eq_left']

def lastAppliedConfigAnnotation : String := "kubectl.kubernetes.io/last-applied-configuration"

/-- An annotation map as the API server hands it out: nil when it is empty. -/
def readBack (annotations : FiniteMap String String) : Option (FiniteMap String String) :=
  if annotations = ∅ then none else some annotations

theorem getD_readBack (annotations : FiniteMap String String) :
    (readBack annotations).getD ∅ = annotations := by
  unfold readBack
  split
  · rename_i empty
    exact empty.symm
  · rfl

/-- CompareAnnotations, with `none` for a nil map. -/
def compareAnnotations : Option (FiniteMap String String) → Option (FiniteMap String String) → Bool
  | none, none => true
  | some a, some b =>
      a = b ∨ a.erase lastAppliedConfigAnnotation = b.erase lastAppliedConfigAnnotation
  | _, _ => false

theorem lookup_eq_of_compareAnnotations {a b : Option (FiniteMap String String)}
    (same : compareAnnotations a b = true) {key : String}
    (relevant : key ≠ lastAppliedConfigAnnotation) :
    (a.getD ∅).lookup key = (b.getD ∅).lookup key := by
  cases a <;> cases b
  case none.none => rfl
  case none.some | some.none => cases same
  case some.some a b =>
    rcases of_decide_eq_true same with same | same
    · rw [same]
    · exact erase_eq_erase_iff.mp same key relevant

def mergeAnnotations (existing desired : Option (FiniteMap String String)) :
    Option (FiniteMap String String) :=
  if compareAnnotations existing desired then existing
  else some (desired.getD ∅ ∪ existing.getD ∅)

end KubeLB
