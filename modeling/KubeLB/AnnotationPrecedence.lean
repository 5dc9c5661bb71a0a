import KubeLB.Annotations

/-!
Whether the annotation settings of a tenant take precedence over those of the
Config (GetAnnotations in internal/controllers/kubelb/shared.go).

GetAnnotations merges the two levels field by field, and PropagateAnnotations
lets PropagateAllAnnotations win over PropagatedAnnotations. A tenant can switch
the propagation of all annotations on but not off, and a list of its own is
ignored as long as the Config propagates all of them.
-/

namespace KubeLB
open FiniteMap

/-- Two Configs give the same annotations to the tenant: it propagates all of
them itself, or both Configs do, or neither does and the lists that are left to
decide agree. A difference that the defaults make up for does not count. -/
def TenantDecides (tenant config config' : AnnotationSettings) : Prop :=
  tenant.propagateAllAnnotations = some true ∨
    (config.propagateAllAnnotations = some true ∧ config'.propagateAllAnnotations = some true) ∨
    (config.propagateAllAnnotations ≠ some true ∧ config'.propagateAllAnnotations ≠ some true ∧
      (tenant.propagatedAnnotations.isSome ∨
        ∀ k value, (propagates config k value ↔ propagates config' k value) ∨
          ∀ resource, defaultValue (getAnnotations tenant config) resource k = some value))

/-- Settings with the same defaults give the same annotations everywhere exactly
when they let the same ones through, up to those that are the default anyway. -/
theorem propagateAnnotations_eq_iff {settings settings' : AnnotationSettings}
    (agree : settings.defaultAnnotations = settings'.defaultAnnotations) :
    (∀ source resource, propagateAnnotations source settings resource =
        propagateAnnotations source settings' resource) ↔
      ∀ k value, (propagates settings k value ↔ propagates settings' k value) ∨
        ∀ resource, defaultValue settings resource k = some value := by
  have defaults (resource : AnnotatedResource) (k : String) :
      defaultValue settings' resource k = defaultValue settings resource k := by
    simp only [defaultValue, agree]
  constructor
  · intro same k value
    refine or_iff_not_imp_left.mpr fun differ resource => ?_
    -- a source with this one annotation tells the two apart
    have atKey := congrArg (Finmap.lookup k) (same (Finmap.singleton k value) resource)
    rw [lookup_propagateAnnotations, lookup_propagateAnnotations,
      Finmap.lookup_singleton_eq, defaults] at atKey
    cases lets : propagates settings k value <;> cases lets' : propagates settings' k value <;>
      simp_all [Option.filter_some]
  · intro same source resource
    refine Finmap.ext_lookup fun k => ?_
    rw [lookup_propagateAnnotations, lookup_propagateAnnotations, defaults]
    cases source.lookup k with
    | none => rfl
    | some value =>
        obtain lets | default := same k value
        · rw [Option.filter_some, Option.filter_some, Bool.eq_iff_iff.mpr lets]
        · rw [default resource, Option.filter_some, Option.filter_some]
          split <;> split <;> rfl

theorem propagates_getAnnotations (tenant config : AnnotationSettings) (k value : String) :
    propagates (getAnnotations tenant config) k value = true ↔
      tenant.propagateAllAnnotations = some true ∨ config.propagateAllAnnotations = some true ∨
        ∃ valuesFilter ∈ ((tenant.propagatedAnnotations.or config.propagatedAnnotations).getD
          ∅).lookup k, permitsValue valuesFilter value := by
  rw [propagates, decide_eq_true_iff]
  by_cases tenantAll : tenant.propagateAllAnnotations = some true
  · simp [getAnnotations, tenantAll]
  · by_cases configAll : config.propagateAllAnnotations = some true
    · by_cases own : tenant.propagatedAnnotations.isSome <;>
        simp [getAnnotations, tenantAll, configAll, own]
    · cases own : tenant.propagatedAnnotations <;>
        simp [getAnnotations, tenantAll, configAll, own]

/-- A finite list of permitted annotations does not let everything through, not
even with the defaults. -/
theorem exists_not_propagated {settings : AnnotationSettings}
    (listed : settings.propagateAllAnnotations ≠ some true) :
    ∃ k, propagates settings k "" = false ∧ defaultValue settings .all k = none := by
  let defaults := ((settings.defaultAnnotations.getD ∅).lookup .all).getD ∅
  obtain ⟨k, fresh⟩ := Infinite.exists_notMem_finset
    ((settings.propagatedAnnotations.getD ∅).keys ∪ defaults.keys)
  rw [Finset.notMem_union, Finmap.mem_keys, Finmap.mem_keys] at fresh
  refine ⟨k, ?_, ?_⟩
  · rw [propagates, Finmap.lookup_eq_none.mpr fresh.1]
    simp [listed]
  · have absent := Finmap.lookup_eq_none.mpr fresh.2
    unfold defaultValue
    cases given : settings.defaultAnnotations with
    | none => rfl
    | some byResource =>
        simp only [defaults, given, Option.getD_some] at absent
        rw [Option.bind_some, absent, Option.none_or]

/-- A Config that propagates everything and one that does not are told apart by
every tenant that does not propagate everything itself. -/
theorem config_shows_through {tenant config config' : AnnotationSettings}
    (tenantLists : tenant.propagateAllAnnotations ≠ some true)
    (all : config.propagateAllAnnotations = some true)
    (lists : config'.propagateAllAnnotations ≠ some true) :
    ∃ source, propagateAnnotations source (getAnnotations tenant config) .all ≠
      propagateAnnotations source (getAnnotations tenant config') .all := by
  have listed : (getAnnotations tenant config').propagateAllAnnotations ≠ some true := by
    simp only [getAnnotations, if_neg tenantLists, if_neg lists]
    split <;> simp
  obtain ⟨k, held, absent⟩ := exists_not_propagated listed
  have lets : propagates (getAnnotations tenant config) k "" = true :=
    (propagates_getAnnotations _ _ _ _).mpr (Or.inr (Or.inl all))
  refine ⟨Finmap.singleton k "", fun same => ?_⟩
  have atKey := congrArg (Finmap.lookup k) same
  rw [lookup_propagateAnnotations, lookup_propagateAnnotations, Finmap.lookup_singleton_eq,
    absent, Option.filter_some, Option.filter_some, if_pos lets, held] at atKey
  cases atKey

/-- Two Configs with the same defaults are indistinguishable to a tenant exactly
when the tenant propagates all annotations, or the Configs agree on whether to
and the lists that decide then agree. -/
theorem tenant_precedence_iff (tenant config config' : AnnotationSettings)
    (agree : config.defaultAnnotations = config'.defaultAnnotations) :
    (∀ source resource,
      propagateAnnotations source (getAnnotations tenant config) resource =
        propagateAnnotations source (getAnnotations tenant config') resource) ↔
      TenantDecides tenant config config' := by
  have defaults : (getAnnotations tenant config).defaultAnnotations =
      (getAnnotations tenant config').defaultAnnotations := by
    simp only [getAnnotations, agree]
  have merged := propagateAnnotations_eq_iff defaults
  simp only [propagates_getAnnotations] at merged
  by_cases tenantAll : tenant.propagateAllAnnotations = some true
  · exact iff_of_true (merged.mpr (by simp [tenantAll])) (Or.inl tenantAll)
  by_cases all : config.propagateAllAnnotations = some true <;>
    by_cases all' : config'.propagateAllAnnotations = some true
  · exact iff_of_true (merged.mpr (by simp [all, all'])) (Or.inr (Or.inl ⟨all, all'⟩))
  · obtain ⟨source, differ⟩ := config_shows_through tenantAll all all'
    refine iff_of_false (fun same => differ (same source .all)) ?_
    simp [TenantDecides, tenantAll, all, all']
  · obtain ⟨source, differ⟩ := config_shows_through tenantAll all' all
    refine iff_of_false (fun same => differ (same source .all).symm) ?_
    simp [TenantDecides, tenantAll, all, all']
  · rw [merged]
    cases own : tenant.propagatedAnnotations with
    | some listed =>
        refine iff_of_true (fun k value => Or.inl ?_) ?_
        · simp [tenantAll, all, all']
        · exact Or.inr (Or.inr ⟨all, all', Or.inl (by simp [own])⟩)
    | none => simp [TenantDecides, propagates, tenantAll, all, all', own]

/-- The tenant lists its annotations; neither Config propagates all of them. -/
theorem tenant_precedence_own_list :
    let tenant : AnnotationSettings :=
      { propagatedAnnotations := some (Finmap.singleton "team" "") }
    let config : AnnotationSettings := { propagateAllAnnotations := some false }
    let config' : AnnotationSettings :=
      { propagatedAnnotations := some (Finmap.singleton "owner" "") }
    ∀ source resource,
      propagateAnnotations source (getAnnotations tenant config) resource =
        propagateAnnotations source (getAnnotations tenant config') resource := by
  intro tenant config config'
  refine (tenant_precedence_iff tenant config config' rfl).mpr
    (Or.inr (Or.inr ⟨by decide, by decide, Or.inl rfl⟩))

/-- The tenant turns the propagation of all annotations off and lists one; with a
Config that propagates all of them another annotation passes all the same. -/
theorem tenant_cannot_turn_off :
    let tenant : AnnotationSettings :=
      { propagateAllAnnotations := some false
        propagatedAnnotations := some (Finmap.singleton "team" "") }
    let source : FiniteMap String String := Finmap.singleton "secret" "42"
    (propagateAnnotations source
        (getAnnotations tenant { propagateAllAnnotations := some true }) .service).lookup
          "secret" = some "42" ∧
      propagateAnnotations source (getAnnotations tenant {}) .service = ∅ := by
  decide

end KubeLB
