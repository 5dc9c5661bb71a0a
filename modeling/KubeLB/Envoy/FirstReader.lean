import KubeLB.Envoy.AddressCache

/-!
Which reference MapSnapshot reads.

Of all references with one key it reads the first, in the order of the lists and
LoadBalancers before Routes; the others get what this one has got. So the map of
addresses can be left out once every reference is read as the first with its key.
-/

namespace KubeLB
open Fallible

def referenceText (key : ObjectKey) : String := endpointAddressReferencePattern key.ns key.name

def endpointKeys (ns : String) (endpoints : List LoadBalancerEndpoints) : List ObjectKey :=
  endpoints.filterMap fun endpoint => endpoint.addressesReference.map fun name => ⟨ns, name⟩

/-- The references in the order in which MapSnapshot comes to them. -/
def readKeys (lbs : List LoadBalancer) (routes : List Route) : List ObjectKey :=
  (lbs.flatMap fun lb => endpointKeys lb.ns lb.spec.endpoints) ++
    routes.flatMap fun route => endpointKeys route.ns (usedEndpoints route)

def firstReader (lbs : List LoadBalancer) (routes : List Route) (key : ObjectKey) : ObjectKey :=
  ((readKeys lbs routes).find? fun other => referenceText other = referenceText key).getD key

def served (get : ObjectKey → Except String (List EndpointAddress)) (lbs : List LoadBalancer)
    (routes : List Route) (key : ObjectKey) : Except String (List EndpointAddress) :=
  get (firstReader lbs routes key)

/-- A reference that is the first with its key in some order of the lists: one of a
LoadBalancer, or one of a Route where no LoadBalancer has one with that key. -/
structure Reader (lbs : List LoadBalancer) (routes : List Route) (key : ObjectKey) : Prop where
  referenced : Referenced lbs routes key
  first : Referenced lbs [] key ∨
    ∀ other, Referenced lbs [] other → referenceText other ≠ referenceText key

section
variable {lbs lbs' : List LoadBalancer} {routes routes' : List Route} {key key' : ObjectKey}
  {ns : String} {endpoints : List LoadBalancerEndpoints}

theorem mem_endpointKeys : key ∈ endpointKeys ns endpoints ↔
    ∃ endpoint ∈ endpoints, ∃ name, endpoint.addressesReference = some name ∧ ⟨ns, name⟩ = key := by
  simp only [endpointKeys, List.mem_filterMap, Option.map_eq_some_iff]

theorem ns_of_mem_endpointKeys (member : key ∈ endpointKeys ns endpoints) : key.ns = ns := by
  obtain ⟨_, _, _, _, rfl⟩ := mem_endpointKeys.mp member
  rfl

theorem mem_readKeys : key ∈ readKeys lbs routes ↔ Referenced lbs routes key := by
  simp only [readKeys, List.mem_append, List.mem_flatMap, mem_endpointKeys]
  constructor
  · rintro (⟨lb, listed, endpoint, member, name, refers, rfl⟩ |
      ⟨route, listed, endpoint, member, name, refers, rfl⟩)
    · exact .loadBalancer listed member refers
    · by_cases source : route.spec.kubernetes = none
      · simp [usedEndpoints, source] at member
      · rw [usedEndpoints, if_neg source] at member
        exact .route listed source member refers
  · rintro (⟨listed, member, refers⟩ | ⟨listed, source, member, refers⟩)
    · exact .inl ⟨_, listed, _, member, _, refers, rfl⟩
    · refine .inr ⟨_, listed, _, ?_, _, refers, rfl⟩
      rw [usedEndpoints, if_neg source]
      exact member

instance : Decidable (Referenced lbs routes key) := decidable_of_iff _ mem_readKeys

instance : Decidable (Reader lbs routes key) :=
  decidable_of_iff (Referenced lbs routes key ∧ (Referenced lbs [] key ∨
      ∀ other ∈ readKeys lbs [], referenceText other ≠ referenceText key)) <| by
    simp only [mem_readKeys]
    exact ⟨fun reader => ⟨reader.1, reader.2⟩, fun reader => ⟨reader.referenced, reader.first⟩⟩

theorem find?_readKeys (referenced : Referenced lbs routes key) :
    ((readKeys lbs routes).find? fun other => referenceText other = referenceText key) =
      some (firstReader lbs routes key) := by
  rw [firstReader]
  cases found : (readKeys lbs routes).find? fun other =>
      referenceText other = referenceText key with
  | some first => rfl
  | none =>
      have missed := List.find?_eq_none.mp found key (mem_readKeys.mpr referenced)
      simp at missed

theorem firstReader_congr (text : referenceText key = referenceText key')
    (referenced : Referenced lbs routes key) (referenced' : Referenced lbs routes key') :
    firstReader lbs routes key = firstReader lbs routes key' := by
  have found := find?_readKeys referenced
  rw [text, find?_readKeys referenced'] at found
  exact (Option.some.inj found).symm

theorem readKeys_split_lb (before : List LoadBalancer) (lb : LoadBalancer)
    (after : List LoadBalancer) (routes : List Route) :
    readKeys (before ++ lb :: after) routes = readKeys before [] ++
      (endpointKeys lb.ns lb.spec.endpoints ++ readKeys after routes) := by
  simp [readKeys]

theorem readKeys_split_route (lbs : List LoadBalancer) (before : List Route) (route : Route)
    (after : List Route) :
    readKeys lbs (before ++ route :: after) = readKeys lbs before ++
      (endpointKeys route.ns (usedEndpoints route) ++ readKeys [] after) := by
  simp [readKeys]

/-- The first reference with a key is that of the first object that has one: within an
object the key tells references apart. -/
theorem firstReader_of_split {before after : List ObjectKey}
    (split : readKeys lbs routes = before ++ (endpointKeys ns endpoints ++ after))
    (unread : ∀ other ∈ before, referenceText other ≠ referenceText key)
    (member : key ∈ endpointKeys ns endpoints) : firstReader lbs routes key = key := by
  have skipped : (before.find? fun other => referenceText other = referenceText key) = none := by
    refine List.find?_eq_none.mpr fun other earlier => ?_
    simpa using unread other earlier
  rw [firstReader, split, List.find?_append, skipped, Option.none_or, List.find?_append]
  cases found : (endpointKeys ns endpoints).find? fun other =>
      referenceText other = referenceText key with
  | none =>
      have missed := List.find?_eq_none.mp found key member
      simp at missed
  | some first =>
      have text : referenceText first = referenceText key := by
        simpa using List.find?_some found
      have sameNs := (ns_of_mem_endpointKeys (List.mem_of_find?_eq_some found)).trans
        (ns_of_mem_endpointKeys member).symm
      exact key_eq_of_text text (.inl sameNs)

theorem firstReader_reader (referenced : Referenced lbs routes key) :
    Reader lbs routes (firstReader lbs routes key) ∧
      referenceText (firstReader lbs routes key) = referenceText key := by
  have found := find?_readKeys referenced
  have text : referenceText (firstReader lbs routes key) = referenceText key := by
    simpa using List.find?_some found
  refine ⟨⟨mem_readKeys.mp (List.mem_of_find?_eq_some found), ?_⟩, text⟩
  have parts : readKeys lbs routes = readKeys lbs [] ++ readKeys [] routes := by simp [readKeys]
  rw [parts, List.find?_append] at found
  cases ofLBs : (readKeys lbs []).find? fun other => referenceText other = referenceText key with
  | some other =>
      rw [ofLBs, Option.some_or] at found
      exact .inl (mem_readKeys.mp (List.mem_of_find?_eq_some (ofLBs.trans found)))
  | none =>
      refine .inr fun other listed => ?_
      have missed := List.find?_eq_none.mp ofLBs other (mem_readKeys.mpr listed)
      rw [text]
      simpa using missed

theorem Referenced.perm (permLBs : lbs'.Perm lbs) (permRoutes : routes'.Perm routes)
    (referenced : Referenced lbs' routes' key) : Referenced lbs routes key := by
  cases referenced with
  | loadBalancer listed member refers =>
      exact .loadBalancer (permLBs.mem_iff.mp listed) member refers
  | route listed source member refers =>
      exact .route (permRoutes.mem_iff.mp listed) source member refers

theorem Reader.perm (permLBs : lbs'.Perm lbs) (permRoutes : routes'.Perm routes)
    (reader : Reader lbs' routes' key) : Reader lbs routes key where
  referenced := reader.referenced.perm permLBs permRoutes
  first := reader.first.imp (Referenced.perm permLBs (.refl _)) fun none other listed =>
    none other (listed.perm permLBs.symm (.refl _))

theorem Reader.exists_perm (reader : Reader lbs routes key) :
    ∃ lbs' routes', lbs'.Perm lbs ∧ routes'.Perm routes ∧ firstReader lbs' routes' key = key := by
  obtain listed | unread := reader.first
  · obtain ⟨listed, member, refers⟩ | ⟨absent, _, _, _⟩ := listed
    · obtain ⟨before, after, rfl⟩ := List.append_of_mem listed
      refine ⟨_, routes, List.perm_middle.symm, .refl _, ?_⟩
      refine firstReader_of_split (readKeys_split_lb [] _ _ _) (by simp [readKeys]) ?_
      exact mem_endpointKeys.mpr ⟨_, member, _, refers, rfl⟩
    · cases absent
  · cases reader.referenced with
    | loadBalancer listed member refers =>
        exact absurd rfl (unread _ (.loadBalancer listed member refers))
    | route listed source member refers =>
        obtain ⟨before, after, rfl⟩ := List.append_of_mem listed
        refine ⟨lbs, _, .refl _, List.perm_middle.symm, ?_⟩
        refine firstReader_of_split (readKeys_split_route _ [] _ _)
          (fun other earlier => unread other (mem_readKeys.mp earlier))
          (mem_endpointKeys.mpr ⟨_, ?_, _, refers, rfl⟩)
        rw [usedEndpoints, if_neg source]
        exact member

end

section
variable {get get' : ObjectKey → Except String (List EndpointAddress)} {lbs : List LoadBalancer}
  {routes : List Route} {ns : String} {endpoints : List LoadBalancerEndpoints}
  {before after : AddressesMap}

def MapHolds (keys : List ObjectKey) (addressesMap : AddressesMap) : Prop :=
  ∀ key ∈ keys, addressesMap.lookup (referenceText key) ≠ none

theorem MapExtends.unknown {text : String} (grown : MapExtends before after)
    (unknown : after.lookup text = none) : before.lookup text = none := by
  cases known : before.lookup text with
  | none => rfl
  | some addresses => cases unknown.symm.trans (grown text addresses known)

theorem MapHolds.extends {keys : List ObjectKey} (holds : MapHolds keys before)
    (grown : MapExtends before after) : MapHolds keys after :=
  fun key member unknown => holds key member (grown.unknown unknown)

theorem holds_of_served {resolved : List LoadBalancerEndpoints}
    (all : List.Forall₂ (MapServes after ns) endpoints resolved) :
    MapHolds (endpointKeys ns endpoints) after := by
  intro key member unknown
  obtain ⟨endpoint, listed, name, refers, rfl⟩ := mem_endpointKeys.mp member
  obtain ⟨_, _, mapServes⟩ := exists_of_forall₂ all.flip listed
  cases unknown.symm.trans (mapServes name refers)

theorem resolveEndpoint_congr {endpoint : LoadBalancerEndpoints}
    (same : ∀ name, endpoint.addressesReference = some name →
      before.lookup (referenceText ⟨ns, name⟩) = none → get ⟨ns, name⟩ = get' ⟨ns, name⟩) :
    resolveEndpoint get ns endpoint before = resolveEndpoint get' ns endpoint before := by
  rw [resolveEndpoint, resolveEndpoint]
  cases refers : endpoint.addressesReference with
  | none => rfl
  | some name =>
      cases known : before.lookup (endpointAddressReferencePattern ns name) with
      | some addresses => simp only [known]
      | none => simp only [known, same name refers known]

theorem resolveEndpoints_congr
    (same : ∀ key ∈ endpointKeys ns endpoints, before.lookup (referenceText key) = none →
      get key = get' key) :
    endpoints.mapM (resolveEndpoint get ns) before =
      endpoints.mapM (resolveEndpoint get' ns) before := by
  refine (mapM_congr_from (I := fun _ => MapExtends before) (.refl before) ?_).1
  intro done endpoint rest now split grown
  have listed : endpoint ∈ endpoints := by simp [split]
  refine ⟨resolveEndpoint_congr fun name refers unknown => ?_, fun _ _ returned =>
    grown.trans (resolveEndpoint_served returned).1⟩
  exact same _ (mem_endpointKeys.mpr ⟨endpoint, listed, name, refers, rfl⟩)
    (grown.unknown unknown)

theorem resolveLoadBalancer_congr {lb : LoadBalancer}
    (same : ∀ key ∈ endpointKeys lb.ns lb.spec.endpoints,
      before.lookup (referenceText key) = none → get key = get' key) :
    resolveLoadBalancer get lb before = resolveLoadBalancer get' lb before := by
  change (lb.spec.endpoints.mapM (resolveEndpoint get lb.ns) before >>= _) =
    (lb.spec.endpoints.mapM (resolveEndpoint get' lb.ns) before >>= _)
  rw [resolveEndpoints_congr same]

theorem resolveRoute_congr {route : Route}
    (same : ∀ key ∈ endpointKeys route.ns (usedEndpoints route),
      before.lookup (referenceText key) = none → get key = get' key) :
    resolveRoute get route before = resolveRoute get' route before := by
  by_cases skipped : route.spec.kubernetes = none
  · rw [resolveRoute, resolveRoute, if_pos skipped, if_pos skipped]
  · rw [usedEndpoints, if_neg skipped] at same
    rw [resolveRoute, resolveRoute, if_neg skipped, if_neg skipped]
    change (route.spec.endpoints.mapM (resolveEndpoint get route.ns) before >>= _) =
      (route.spec.endpoints.mapM (resolveEndpoint get' route.ns) before >>= _)
    rw [resolveEndpoints_congr same]

theorem resolveLoadBalancers_served (get : ObjectKey → Except String (List EndpointAddress))
    (lbs : List LoadBalancer) (routes : List Route) :
    lbs.mapM (resolveLoadBalancer get) ∅ =
        lbs.mapM (resolveLoadBalancer (served get lbs routes)) ∅ ∧
      ∀ lbs' after, lbs.mapM (resolveLoadBalancer get) ∅ = .ok (lbs', after) →
        MapHolds (readKeys lbs []) after := by
  refine mapM_congr_from (I := fun done => MapHolds (readKeys done []))
    (by simp [MapHolds, readKeys])
    fun done lb rest now split holds => ⟨?_, fun resolved after returned => ?_⟩
  · refine resolveLoadBalancer_congr fun key member unknown => ?_
    rw [served, firstReader_of_split (split ▸ readKeys_split_lb done lb rest routes) ?_ member]
    intro other earlier text
    exact holds other earlier (text ▸ unknown)
  · obtain ⟨grown, mapServes⟩ := resolveLoadBalancer_served returned
    intro key member
    rw [readKeys_split_lb, List.mem_append, List.mem_append] at member
    obtain earlier | own | later := member
    · exact holds.extends grown key earlier
    · exact holds_of_served mapServes key own
    · cases later

theorem resolveRoutes_served (get : ObjectKey → Except String (List EndpointAddress))
    (lbs : List LoadBalancer) (routes : List Route) (start : MapHolds (readKeys lbs []) before) :
    routes.mapM (resolveRoute get) before =
      routes.mapM (resolveRoute (served get lbs routes)) before := by
  refine (mapM_congr_from (I := fun done => MapHolds (readKeys lbs done)) start
    fun done route rest now split holds => ⟨?_, fun resolved after returned => ?_⟩).1
  · refine resolveRoute_congr fun key member unknown => ?_
    rw [served, firstReader_of_split (split ▸ readKeys_split_route lbs done route rest) ?_ member]
    intro other earlier text
    exact holds other earlier (text ▸ unknown)
  · obtain ⟨grown, mapServes⟩ := resolveRoute_served returned
    intro key member
    rw [readKeys_split_route, List.mem_append, List.mem_append] at member
    obtain earlier | own | later := member
    · exact holds.extends grown key earlier
    · exact holds_of_served mapServes key own
    · cases later

theorem addressesAgree_served : AddressesAgree (served get lbs routes) lbs routes := by
  intro key key' referenced referenced' text
  rw [served, served, firstReader_congr text referenced referenced']

/-- MapSnapshot uses for every endpoint what the first reference with its key reads. -/
theorem resolveObjects_eq_fetch_served (get : ObjectKey → Except String (List EndpointAddress))
    (lbs : List LoadBalancer) (routes : List Route) :
    resolveObjects get lbs routes = fetchObjects (served get lbs routes) lbs routes := by
  rw [← resolveObjects_eq_fetch addressesAgree_served, resolveObjects, resolveObjects]
  obtain ⟨same, holds⟩ := resolveLoadBalancers_served get lbs routes
  rw [← same]
  cases resolved : lbs.mapM (resolveLoadBalancer get) ∅ with
  | error err => rfl
  | ok result =>
      change (routes.mapM (resolveRoute get) result.2 >>= _) =
        (routes.mapM (resolveRoute (served get lbs routes)) result.2 >>= _)
      rw [resolveRoutes_served get lbs routes (holds _ _ resolved)]

theorem resolveObjects_congr (same : ∀ key, Referenced lbs routes key → get key = get' key) :
    resolveObjects get lbs routes = resolveObjects get' lbs routes := by
  rw [resolveObjects_eq_fetch_served, resolveObjects_eq_fetch_served]
  exact fetchObjects_congr fun key referenced =>
    same _ (firstReader_reader referenced).1.referenced

end

end KubeLB
