import KubeLB.Foundation.Reordering
import KubeLB.Resources.CreateOrUpdate

/-!
The name of a backend of an Ingress.

For each backend the loop over the services compares names through a pointer, and
what it compares is the name it may just have written. A backend is rewritten twice
if its name in the LB cluster is also the name of a service later in the list.
-/

namespace KubeLB

/-- The loop over the services, seen on the name of the backend alone. -/
def rewriteName (globalTopology : Bool) (services : List ObjectMeta) (name : String) :
    Option String :=
  services.foldlM (fun name service =>
    if name = service.name then generatedName globalTopology service else some name) name

/-- What the name of a backend should become: that of exactly its service. -/
structure NameResolved (globalTopology : Bool) (services : List ObjectMeta)
    (name name' : String) : Prop where
  listed : ∀ service ∈ services, service.name = name →
    generatedName globalTopology service = some name'
  unlisted : (∀ service ∈ services, service.name ≠ name) → name' = name

def ResolvesName (globalTopology : Bool) (services : List ObjectMeta) (name : String) : Prop :=
  ∃ name', rewriteName globalTopology services name = some name' ∧
    NameResolved globalTopology services name name'

/-- The service of this name, if it is listed, has a name in the LB cluster at which
the loop stays. -/
def Settled (globalTopology : Bool) (services : List ObjectMeta) (name : String) : Prop :=
  ∀ service ∈ services, service.name = name →
    ∃ name', generatedName globalTopology service = some name' ∧
      ∀ other ∈ services, other.name = name' → generatedName globalTopology other = some name'

section
variable {globalTopology : Bool} {services services' : List ObjectMeta} {name name' : String}
  {service : ObjectMeta}

theorem rewriteName_append (front back : List ObjectMeta) (name : String) :
    rewriteName globalTopology (front ++ back) name =
      (rewriteName globalTopology front name).bind (rewriteName globalTopology back) := by
  simp only [rewriteName, List.foldlM_append]
  rfl

theorem rewriteName_cons_self (named : service.name = name) :
    rewriteName globalTopology (service :: services) name =
      (generatedName globalTopology service).bind (rewriteName globalTopology services) := by
  simp only [rewriteName, List.foldlM_cons, named]
  rfl

theorem rewriteName_eq_self (same : ∀ service ∈ services, service.name = name →
    generatedName globalTopology service = some name) :
    rewriteName globalTopology services name = some name := by
  induction services with
  | nil => rfl
  | cons service services ih =>
      have later := ih fun other member => same other (List.mem_cons_of_mem _ member)
      by_cases named : service.name = name
      · rw [rewriteName_cons_self named, same service List.mem_cons_self named, Option.bind_some,
          later]
      · have other : ¬ name = service.name := fun equal => named equal.symm
        rw [rewriteName, List.foldlM_cons, if_neg other]
        exact later

theorem NameResolved.of_mem_iff (same : ∀ service, service ∈ services' ↔ service ∈ services)
    (resolved : NameResolved globalTopology services' name name') :
    NameResolved globalTopology services name name' :=
  ⟨fun service listed => resolved.listed service ((same service).mpr listed),
    fun unlisted => resolved.unlisted fun service listed =>
      unlisted service ((same service).mp listed)⟩

theorem Settled.of_mem_iff (same : ∀ service, service ∈ services' ↔ service ∈ services)
    (settled : Settled globalTopology services name) :
    Settled globalTopology services' name := by
  intro service listed named
  obtain ⟨name', generated, stays⟩ := settled service ((same service).mp listed) named
  exact ⟨name', generated, fun other listed => stays other ((same other).mp listed)⟩

/-- The loop goes from a name to the one its services get, and stays there. -/
theorem rewriteName_of_listed (listed : ∃ service ∈ services, service.name = name)
    (own : ∀ service ∈ services, service.name = name →
      generatedName globalTopology service = some name')
    (stays : ∀ service ∈ services, service.name = name' →
      generatedName globalTopology service = some name') :
    rewriteName globalTopology services name = some name' := by
  induction services with
  | nil =>
      obtain ⟨_, none, _⟩ := listed
      cases none
  | cons service services ih =>
      obtain ⟨ownHere, own⟩ := List.forall_mem_cons.mp own
      obtain ⟨_, stays⟩ := List.forall_mem_cons.mp stays
      by_cases named : service.name = name
      · rw [rewriteName_cons_self named, ownHere named, Option.bind_some,
          rewriteName_eq_self stays]
      · have other : ¬ name = service.name := fun equal => named equal.symm
        rw [rewriteName, List.foldlM_cons, if_neg other]
        refine ih ?_ own stays
        obtain ⟨found, member, foundNamed⟩ := listed
        obtain rfl | member := List.mem_cons.mp member
        · exact absurd foundNamed named
        · exact ⟨found, member, foundNamed⟩

theorem resolvesName_of_settled (distinct : (services.map ObjectMeta.name).Nodup)
    (settled : Settled globalTopology services name) :
    ResolvesName globalTopology services name := by
  by_cases listed : ∃ service ∈ services, service.name = name
  · obtain ⟨service, member, named⟩ := listed
    obtain ⟨name', generated, stays⟩ := settled service member named
    have own : ∀ other ∈ services, other.name = name →
        generatedName globalTopology other = some name' := by
      intro other otherListed otherNamed
      rw [List.inj_on_of_nodup_map distinct otherListed member (otherNamed.trans named.symm),
        generated]
    exact ⟨name', rewriteName_of_listed ⟨service, member, named⟩ own stays, own,
      fun unlisted => absurd named (unlisted service member)⟩
  · simp only [not_exists, not_and] at listed
    refine ⟨name, rewriteName_eq_self fun service member named =>
      absurd named (listed service member), fun service member named =>
      absurd named (listed service member), fun _ => rfl⟩

/-- A service last in the list that has the name just written is taken in its turn. -/
theorem rewriteName_chain {rest : List ObjectMeta} {other : ObjectMeta}
    (unlisted : ∀ service ∈ rest, service.name ≠ name) (named : service.name = name)
    (generated : generatedName globalTopology service = some name')
    (chained : other.name = name') :
    rewriteName globalTopology (rest ++ [service, other]) name =
      generatedName globalTopology other := by
  rw [rewriteName_append, rewriteName_eq_self fun service member named =>
    absurd named (unlisted service member), Option.bind_some, rewriteName_cons_self named,
    generated, Option.bind_some, rewriteName_cons_self chained]
  cases generatedName globalTopology other <;> rfl

/-- In every order the loop finds the name it should, exactly if this name is
settled. -/
theorem resolvesName_always_iff (distinct : (services.map ObjectMeta.name).Nodup) :
    (∀ services', services'.Perm services → ResolvesName globalTopology services' name) ↔
      Settled globalTopology services name := by
  constructor
  · intro always service listed named
    obtain ⟨name', _, resolved⟩ := always services (List.Perm.refl _)
    have generated := resolved.listed service listed named
    refine ⟨name', generated, fun other otherListed chained => ?_⟩
    by_cases same : service = other
    · rwa [← same]
    · obtain ⟨rest, perm⟩ := Reordering.exists_perm_front listed otherListed same
      have last : (rest ++ [service, other]).Perm services := List.perm_append_comm.trans perm
      have unlisted : ∀ third ∈ rest, third.name ≠ name := by
        intro third inRest thirdNamed
        have names := (perm.map ObjectMeta.name).nodup_iff.mpr distinct
        rw [List.map_cons, List.nodup_cons] at names
        refine names.1 (List.mem_map.mpr ⟨third, ?_, thirdNamed.trans named.symm⟩)
        exact List.mem_cons_of_mem _ inRest
      obtain ⟨name'', rewritten, resolved'⟩ := always _ last
      rw [rewriteName_chain unlisted named generated chained] at rewritten
      cases generated.symm.trans (resolved'.listed service (by simp) named)
      exact rewritten
  · intro settled services' perm
    refine resolvesName_of_settled ((perm.map _).nodup_iff.mpr distinct) ?_
    exact settled.of_mem_iff fun _ => perm.mem_iff

end

end KubeLB
