import KubeLB.Resources.CreateOrUpdate

/-!
When the rewriting of a route returns, and what it writes.

A rule is rewritten in two passes. Its own filters are first, each by its own
reference; then the backends, where backend number `j` may write once more to
filter number `j`. Which services are written depends on the order in which they
are listed, whether the call returns does not.
-/

namespace KubeLB
open Fallible LastMatch

def ReferenceReturns (globalTopology : Bool) (services : List ObjectMeta)
    (ref : BackendObjectReference) : Prop :=
  ref.IsService → ∀ service ∈ services, ref.Matches service →
    (generatedName globalTopology service).isSome

/-- The services whose names are written for the filters of a backend, in order. -/
def nestedMatches (services : List ObjectMeta) (nested : List RouteFilter) : List ObjectMeta :=
  nested.flatMap fun filter =>
    match filter.requestMirror with
    | none => []
    | some mirror => if mirror.IsService then services.filter mirror.Matches else []

def HasMirror (filters : List RouteFilter) (j : Nat) : Prop :=
  ∃ filter, filters[j]? = some filter ∧ filter.requestMirror.isSome

section
variable {globalTopology : Bool} {services services' : List ObjectMeta}
  {ref ref' : BackendObjectReference} {filters filters' nested : List RouteFilter} {i j : Nat}

/-! ### One reference -/

theorem overwrites_renamed :
    Overwrites fun (target : BackendObjectReference) name => some (target.renamed name) := by
  intro target target' x y written
  cases written
  rfl

theorem rewriteReference_isSome_iff :
    (rewriteReference globalTopology services ref).isSome ↔
      ReferenceReturns globalTopology services ref := by
  unfold rewriteReference ReferenceReturns
  by_cases service : ref.IsService
  · rw [if_pos service, loop_isSome_iff overwrites_renamed]
    simp [service, Option.isSome_iff_exists]
  · simp [service]

/-- A reference is left alone, or gets the name of a service it matches. -/
theorem eq_or_renamed_of_rewriteReference
    (returned : rewriteReference globalTopology services ref = some ref') :
    (ref' = ref ∧ (ref.IsService → ∀ service ∈ services, ¬ ref.Matches service)) ∨
      ref.IsService ∧ ∃ service ∈ services, ref.Matches service ∧
        ∃ name, generatedName globalTopology service = some name ∧ ref' = ref.renamed name := by
  unfold rewriteReference at returned
  by_cases isService : ref.IsService
  · rw [if_pos isService] at returned
    refine (eq_or_written_of_loop overwrites_renamed returned).imp
      (fun ⟨same, unmatched⟩ => ⟨same, fun _ => unmatched⟩) ?_
    rintro ⟨service, listed, matched, name, named, written⟩
    exact ⟨isService, service, listed, matched, name, named, (Option.some.inj written).symm⟩
  · rw [if_neg isService] at returned
    exact Or.inl ⟨(Option.some.inj returned).symm, fun holds => absurd holds isService⟩

theorem rewriteReference_concat {service : ObjectMeta} (isService : ref.IsService)
    (matched : ref.Matches service)
    (returned : rewriteReference globalTopology (services ++ [service]) ref = some ref') :
    ∃ name, generatedName globalTopology service = some name ∧ ref' = ref.renamed name := by
  rw [rewriteReference, if_pos isService] at returned
  obtain ⟨name, named, written⟩ := loop_concat overwrites_renamed matched returned
  exact ⟨name, named, (Option.some.inj written).symm⟩

theorem rewriteFilter_isSome_iff {filter : RouteFilter} :
    (rewriteFilter globalTopology services filter).isSome ↔
      ∀ mirror, filter.requestMirror = some mirror →
        ReferenceReturns globalTopology services mirror := by
  unfold rewriteFilter
  cases filter.requestMirror with
  | none => simp
  | some mirror => simp [rewriteReference_isSome_iff]

theorem isSome_requestMirror_of_rewriteFilter {filter filter' : RouteFilter}
    (rewritten : rewriteFilter globalTopology services filter = some filter') :
    filter'.requestMirror.isSome = filter.requestMirror.isSome := by
  unfold rewriteFilter at rewritten
  split at rewritten
  · cases rewritten
    rfl
  · rename_i mirror found
    obtain ⟨target, _, rfl⟩ := Option.map_eq_some_iff.mp rewritten
    rw [found]
    rfl

theorem hasMirror_of_rewriteFilters
    (returned : filters.mapM (rewriteFilter globalTopology services) = some filters') (j : Nat) :
    HasMirror filters' j ↔ HasMirror filters j := by
  unfold HasMirror
  rw [getElem?_of_mapM returned]
  constructor
  · rintro ⟨filter', found, mirrors⟩
    obtain ⟨filter, found, rewritten⟩ := Option.bind_eq_some_iff.mp found
    rw [isSome_requestMirror_of_rewriteFilter rewritten] at mirrors
    exact ⟨filter, found, mirrors⟩
  · rintro ⟨filter, found, mirrors⟩
    obtain ⟨filter', rewritten⟩ := Option.isSome_iff_exists.mp
      (mapM_isSome_iff.mp (by rw [returned]; rfl) filter (List.mem_of_getElem? found))
    rw [← isSome_requestMirror_of_rewriteFilter rewritten] at mirrors
    exact ⟨filter', by rw [found, Option.bind_some, rewritten], mirrors⟩

/-! ### The write to a filter of the rule -/

theorem overwriteMirror_eq_some {name : String} :
    overwriteMirror j filters name = some filters' ↔
      ∃ filter mirror, filters[j]? = some filter ∧ filter.requestMirror = some mirror ∧
        filters.set j { filter with requestMirror := some (mirror.renamed name) } = filters' := by
  simp only [overwriteMirror, Option.bind_eq_bind, Option.bind_eq_some_iff, Option.pure_def,
    Option.some.injEq]
  exact ⟨fun ⟨filter, found, mirror, mirrors, written⟩ => ⟨filter, mirror, found, mirrors, written⟩,
    fun ⟨filter, mirror, found, mirrors, written⟩ => ⟨filter, found, mirror, mirrors, written⟩⟩

theorem overwriteMirror_isSome_iff {name : String} :
    (overwriteMirror j filters name).isSome ↔ HasMirror filters j := by
  rw [Option.isSome_iff_exists]
  constructor
  · rintro ⟨filters', written⟩
    obtain ⟨filter, mirror, found, mirrors, _⟩ := overwriteMirror_eq_some.mp written
    exact ⟨filter, found, by simp [mirrors]⟩
  · rintro ⟨filter, found, mirrors⟩
    obtain ⟨mirror, mirrors⟩ := Option.isSome_iff_exists.mp mirrors
    exact ⟨_, overwriteMirror_eq_some.mpr ⟨filter, mirror, found, mirrors, rfl⟩⟩

theorem overwrites_overwriteMirror : Overwrites (overwriteMirror j) := by
  intro filters filters' x y written
  obtain ⟨filter, mirror, found, mirrors, rfl⟩ := overwriteMirror_eq_some.mp written
  have inside : j < filters.length := (List.getElem?_eq_some_iff.mp found).1
  have written' : overwriteMirror j filters y =
      some (filters.set j { filter with requestMirror := some (mirror.renamed y) }) :=
    overwriteMirror_eq_some.mpr ⟨filter, mirror, found, mirrors, rfl⟩
  rw [written', overwriteMirror_eq_some]
  exact ⟨_, _, List.getElem?_set_self inside, rfl, List.set_set ..⟩

/-- Nothing changes exactly if the mirror has the name and no namespace. -/
theorem overwriteMirror_eq_self_iff {name : String} :
    overwriteMirror j filters name = some filters ↔
      ∃ filter mirror, filters[j]? = some filter ∧ filter.requestMirror = some mirror ∧
        mirror.name = name ∧ mirror.ns = none := by
  rw [overwriteMirror_eq_some]
  refine exists_congr fun filter => exists_congr fun mirror => and_congr_right fun found =>
    and_congr_right fun mirrors => ?_
  obtain ⟨inside, atJ⟩ := List.getElem?_eq_some_iff.mp found
  constructor
  · intro unchanged
    have same := congrArg (fun filters => filters[j]?) unchanged
    simp only [List.getElem?_set_self inside, found, Option.some.injEq] at same
    rw [← same] at mirrors
    exact renamed_eq_self_iff.mp (Option.some.inj mirrors)
  · intro already
    rw [renamed_eq_self_iff.mpr already, ← mirrors]
    subst atJ
    exact List.set_getElem_self inside

/-! ### The filters of a backend -/

theorem mem_nestedMatches {service : ObjectMeta} :
    service ∈ nestedMatches services nested ↔
      service ∈ services ∧ ∃ filter ∈ nested, ∃ mirror, filter.requestMirror = some mirror ∧
        mirror.IsService ∧ mirror.Matches service := by
  simp only [nestedMatches, List.mem_flatMap]
  constructor
  · rintro ⟨filter, member, written⟩
    cases mirrors : filter.requestMirror with
    | none => simp [mirrors] at written
    | some mirror =>
        simp only [mirrors] at written
        split at written
        · rename_i isService
          obtain ⟨listed, matched⟩ := List.mem_filter.mp written
          exact ⟨listed, filter, member, mirror, mirrors, isService, by simpa using matched⟩
        · cases written
  · rintro ⟨listed, filter, member, mirror, mirrors, isService, matched⟩
    refine ⟨filter, member, ?_⟩
    simp only [mirrors, if_pos isService, List.mem_filter]
    exact ⟨listed, by simpa using matched⟩

theorem rewriteNested_eq_loop (nested filters : List RouteFilter) :
    rewriteNested globalTopology services j nested filters =
      loop (fun _ => True) (generatedName globalTopology) (overwriteMirror j)
        (nestedMatches services nested) filters := by
  induction nested generalizing filters with
  | nil => rfl
  | cons filter nested ih =>
      rw [rewriteNested, List.foldlM_cons, nestedMatches, List.flatMap_cons, loop_append]
      refine congr (congrArg Option.bind ?_) (funext fun filters => ih filters)
      cases filter.requestMirror with
      | none => rfl
      | some mirror =>
          by_cases isService : mirror.IsService
          · simp only [if_pos isService]
            exact loop_eq_filter services
          · simp [isService]

theorem rewriteNested_isSome_iff :
    (rewriteNested globalTopology services j nested filters).isSome ↔
      ∀ service ∈ nestedMatches services nested,
        (generatedName globalTopology service).isSome ∧ HasMirror filters j := by
  rw [rewriteNested_eq_loop, loop_isSome_iff overwrites_overwriteMirror]
  refine forall₂_congr fun service _ => ?_
  simp only [overwriteMirror_isSome_iff, exists_and_right, forall_const]
  rw [← Option.isSome_iff_exists]

theorem getElem?_rewriteNested_of_ne (other : i ≠ j)
    (returned : rewriteNested globalTopology services j nested filters = some filters') :
    filters'[i]? = filters[i]? := by
  rw [rewriteNested_eq_loop] at returned
  obtain ⟨rfl, _⟩ | ⟨service, _, _, name, _, written⟩ :=
    eq_or_written_of_loop overwrites_overwriteMirror returned
  · rfl
  · obtain ⟨filter, mirror, _, _, rfl⟩ := overwriteMirror_eq_some.mp written
    exact List.getElem?_set_ne (Ne.symm other)

/-- The last service that is matched decides whether the filters stay as they are. -/
theorem rewriteNested_eq_self_iff :
    rewriteNested globalTopology services j nested filters = some filters ↔
      (∀ service ∈ nestedMatches services nested, (generatedName globalTopology service).isSome) ∧
      ∀ service, (nestedMatches services nested).getLast? = some service →
        ∃ filter mirror, filters[j]? = some filter ∧ filter.requestMirror = some mirror ∧
          generatedName globalTopology service = some mirror.name ∧ mirror.ns = none := by
  have isSome_iff : (rewriteNested globalTopology services j nested filters).isSome ↔
      ∀ service ∈ nestedMatches services nested,
        (generatedName globalTopology service).isSome ∧ HasMirror filters j :=
    rewriteNested_isSome_iff
  rw [rewriteNested_eq_loop] at isSome_iff ⊢
  obtain nothing | ⟨front, service, matches'⟩ := (nestedMatches services nested).eq_nil_or_concat
  · simp [nothing]
  · rw [List.concat_eq_append] at matches'
    have last : (nestedMatches services nested).getLast? = some service := by simp [matches']
    have member : service ∈ nestedMatches services nested := by simp [matches']
    constructor
    · intro unchanged
      refine ⟨fun other listed => (isSome_iff.mp (by simp [unchanged]) other listed).1, ?_⟩
      intro other isLast
      cases last.symm.trans isLast
      rw [matches'] at unchanged
      obtain ⟨name, named, written⟩ := loop_concat overwrites_overwriteMirror trivial unchanged
      obtain ⟨filter, mirror, found, mirrors, rfl, cleared⟩ :=
        overwriteMirror_eq_self_iff.mp written
      exact ⟨filter, mirror, found, mirrors, named, cleared⟩
    · rintro ⟨generated, ofLast⟩
      obtain ⟨filter, mirror, found, mirrors, named, cleared⟩ := ofLast service last
      have hasMirror : HasMirror filters j := ⟨filter, found, by simp [mirrors]⟩
      obtain ⟨after, returned⟩ := Option.isSome_iff_exists.mp
        (isSome_iff.mpr fun other listed => ⟨generated other listed, hasMirror⟩)
      have same : overwriteMirror j filters mirror.name = some filters :=
        overwriteMirror_eq_self_iff.mpr ⟨filter, mirror, found, mirrors, rfl, cleared⟩
      rw [matches'] at returned ⊢
      obtain ⟨name, named', written⟩ := loop_concat overwrites_overwriteMirror trivial returned
      cases named.symm.trans named'
      rw [returned, ← written, same]

theorem hasMirror_of_rewriteNested
    (returned : rewriteNested globalTopology services j nested filters = some filters')
    (i : Nat) : HasMirror filters' i ↔ HasMirror filters i := by
  by_cases other : i = j
  · subst other
    rw [rewriteNested_eq_loop] at returned
    obtain ⟨rfl, _⟩ | ⟨service, _, _, name, _, written⟩ :=
      eq_or_written_of_loop overwrites_overwriteMirror returned
    · rfl
    · obtain ⟨filter, mirror, found, mirrors, rfl⟩ := overwriteMirror_eq_some.mp written
      have inside : i < filters.length := (List.getElem?_eq_some_iff.mp found).1
      exact iff_of_true ⟨_, List.getElem?_set_self inside, rfl⟩ ⟨filter, found, by simp [mirrors]⟩
  · rw [HasMirror, getElem?_rewriteNested_of_ne other returned, HasMirror]

end

end KubeLB
