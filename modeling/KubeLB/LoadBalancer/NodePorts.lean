import KubeLB.LoadBalancer.Service

/-!
The node ports that CreateServicePorts keeps.

A port takes over the node port of the first existing port that has its name, or
its number and protocol. The two ways may lead two ports to one existing port:
one that has kept its name, and one that has been given its number.
-/

namespace KubeLB

/-- The node port a LoadBalancer port takes over, zero for none. -/
def keptNodePort (existing : List ServicePort) (lbPort : LoadBalancerPort) : Int :=
  ((matchingPort existing lbPort).map ServicePort.nodePort).getD 0

/-- No node port is asked for twice; zero leaves the choice to the API server. -/
def DistinctNodePorts (ports : List ServicePort) : Prop :=
  ((ports.map ServicePort.nodePort).filter (· ≠ 0)).Nodup

instance (ports : List ServicePort) : Decidable (DistinctNodePorts ports) :=
  inferInstanceAs (Decidable (List.Nodup _))

/-- A port of the LoadBalancer and one of the Service with one name, or with one number
and protocol. -/
def Fits (p : LoadBalancerPort) (port : ServicePort) : Prop :=
  p.name = port.name ∨ (p.port = port.port ∧ p.protocol = port.protocol)

def FirstFit (existing : List ServicePort) (p : LoadBalancerPort) (port : ServicePort) : Prop :=
  ∃ before after, existing = before ++ port :: after ∧ Fits p port ∧
    ∀ earlier ∈ before, ¬ Fits p earlier

/-- An existing port with a node port that is the first to fit the new port of its name,
and the first to fit another one of its number and protocol. -/
structure TakenTwice (lbPorts : List LoadBalancerPort) (existing : List ServicePort)
    (port : ServicePort) : Prop where
  assigned : port.nodePort ≠ 0
  byName : ∃ p ∈ lbPorts, p.name = port.name ∧ FirstFit existing p port
  byNumber : ∃ q ∈ lbPorts, q.name ≠ port.name ∧ q.port = port.port ∧
    q.protocol = port.protocol ∧ FirstFit existing q port

section
variable {lb : LoadBalancer} {existing : List ServicePort} {port : ServicePort}
  {p q : LoadBalancerPort}

theorem matchingPort_eq_some_iff :
    matchingPort existing p = some port ↔ FirstFit existing p port := by
  simp only [matchingPort, List.find?_eq_some_iff_append, FirstFit, Fits, decide_eq_true_eq,
    Bool.not_eq_true', decide_eq_false_iff_not, eq_comm (a := p.name), eq_comm (a := p.port),
    eq_comm (a := p.protocol)]
  constructor
  · rintro ⟨fits, before, after, split, unfit⟩
    exact ⟨before, after, split, fits, unfit⟩
  · rintro ⟨before, after, split, fits, unfit⟩
    exact ⟨fits, before, after, split, unfit⟩

theorem FirstFit.mem (first : FirstFit existing p port) : port ∈ existing := by
  obtain ⟨before, after, rfl, _⟩ := first
  simp

theorem FirstFit.fits (first : FirstFit existing p port) : Fits p port := by
  obtain ⟨_, _, _, fits, _⟩ := first
  exact fits

theorem keptNodePort_ne_zero (kept : keptNodePort existing p ≠ 0) :
    ∃ port, FirstFit existing p port ∧ port.nodePort = keptNodePort existing p := by
  cases found : matchingPort existing p with
  | none => simp [keptNodePort, found] at kept
  | some port => exact ⟨port, matchingPort_eq_some_iff.mp found, by simp [keptNodePort, found]⟩

theorem FirstFit.keptNodePort (first : FirstFit existing p port) :
    keptNodePort existing p = port.nodePort := by
  simp [KubeLB.keptNodePort, matchingPort_eq_some_iff.mpr first]

/-- The node ports of the result are those that the ports take over, in another order. -/
theorem nodePorts_createServicePorts {endpoint : LoadBalancerEndpoints}
    {others : List LoadBalancerEndpoints} (endpoints : lb.spec.endpoints = endpoint :: others)
    (enough : lb.spec.ports.length ≤ endpoint.ports.length) (existing : List ServicePort)
    (pa : PortAllocator) :
    ∃ ports, createServicePorts lb existing pa = some ports ∧
      (ports.map ServicePort.nodePort).Perm (lb.spec.ports.map (keptNodePort existing)) := by
  refine ⟨_, createServicePorts_cons endpoints enough existing pa, ?_⟩
  refine ((List.perm_insertionSort _ _).map _).trans (.of_eq ?_)
  rw [List.map_map]
  calc (lb.spec.ports.zip endpoint.ports).map _
      = ((lb.spec.ports.zip endpoint.ports).map Prod.fst).map (keptNodePort existing) := by
        rw [List.map_map]
        rfl
    _ = lb.spec.ports.map (keptNodePort existing) := by rw [List.map_fst_zip enough]

/-- Two ports that one existing port fits are fitted in different ways. -/
theorem takenTwice_of_same (names : (lb.spec.ports.map (·.name)).Nodup)
    (numbers : (lb.spec.ports.map fun p => (p.port, p.protocol)).Nodup)
    (assigned : port.nodePort ≠ 0) (memberP : p ∈ lb.spec.ports) (memberQ : q ∈ lb.spec.ports)
    (different : p ≠ q) (firstP : FirstFit existing p port) (firstQ : FirstFit existing q port) :
    TakenTwice lb.spec.ports existing port := by
  have apart : p.name ≠ q.name := fun same =>
    different (List.inj_on_of_nodup_map names memberP memberQ same)
  have apart' : (p.port, p.protocol) ≠ (q.port, q.protocol) := fun same =>
    different (List.inj_on_of_nodup_map numbers memberP memberQ same)
  obtain nameP | numberP := firstP.fits
  · obtain nameQ | numberQ := firstQ.fits
    · exact absurd (nameP.trans nameQ.symm) apart
    · exact ⟨assigned, ⟨p, memberP, nameP, firstP⟩, q, memberQ,
        fun same => apart (nameP.trans same.symm), numberQ.1, numberQ.2, firstQ⟩
  · obtain nameQ | numberQ := firstQ.fits
    · exact ⟨assigned, ⟨q, memberQ, nameQ, firstQ⟩, p, memberP,
        fun same => apart (same.trans nameQ.symm), numberP.1, numberP.2, firstP⟩
    · exact absurd (Prod.ext (numberP.1.trans numberQ.1.symm) (numberP.2.trans numberQ.2.symm))
        apart'

/-- CreateServicePorts asks for no node port twice, exactly when no existing port that
has one is taken by its name and by its number. -/
theorem createServicePorts_distinctNodePorts_iff (lb : LoadBalancer)
    (existing : List ServicePort) (pa : PortAllocator) {endpoint : LoadBalancerEndpoints}
    {others : List LoadBalancerEndpoints} (endpoints : lb.spec.endpoints = endpoint :: others)
    (enough : lb.spec.ports.length ≤ endpoint.ports.length)
    (names : (lb.spec.ports.map (·.name)).Nodup)
    (numbers : (lb.spec.ports.map fun p => (p.port, p.protocol)).Nodup)
    (nodePorts : DistinctNodePorts existing) :
    ∃ ports, createServicePorts lb existing pa = some ports ∧
      (DistinctNodePorts ports ↔ ¬ ∃ port, TakenTwice lb.spec.ports existing port) := by
  obtain ⟨ports, created, perm⟩ := nodePorts_createServicePorts endpoints enough existing pa
  refine ⟨ports, created, ?_⟩
  have different : lb.spec.ports.Nodup := names.of_map _
  rw [DistinctNodePorts, (perm.filter _).nodup_iff, List.filter_map,
    List.nodup_map_iff_inj_on (different.filter _)]
  simp only [List.mem_filter, Function.comp_apply, decide_eq_true_eq]
  constructor
  · rintro distinct ⟨port, twice⟩
    obtain ⟨p, memberP, nameP, firstP⟩ := twice.byName
    obtain ⟨q, memberQ, nameQ, _, _, firstQ⟩ := twice.byNumber
    have keptP := firstP.keptNodePort
    have keptQ := firstQ.keptNodePort
    have same : p = q := distinct p ⟨memberP, keptP ▸ twice.assigned⟩ q
      ⟨memberQ, keptQ ▸ twice.assigned⟩ (keptP.trans keptQ.symm)
    exact nameQ (same ▸ nameP)
  · intro untaken p ⟨memberP, keptP⟩ q ⟨memberQ, keptQ⟩ same
    obtain ⟨port, firstP, portP⟩ := keptNodePort_ne_zero keptP
    obtain ⟨port', firstQ, portQ⟩ := keptNodePort_ne_zero keptQ
    have assigned : port.nodePort ≠ 0 := portP ▸ keptP
    -- The node port tells which existing port it was.
    have samePort : port = port' := by
      rw [DistinctNodePorts, List.filter_map] at nodePorts
      refine List.inj_on_of_nodup_map nodePorts ?_ ?_ (portP.trans (same.trans portQ.symm))
      · exact List.mem_filter.mpr ⟨firstP.mem, by simpa using assigned⟩
      · refine List.mem_filter.mpr ⟨firstQ.mem, ?_⟩
        simpa using portQ ▸ keptQ
    subst samePort
    by_contra apart
    exact untaken ⟨port, takenTwice_of_same names numbers assigned memberP memberQ apart
      firstP firstQ⟩

end

def portsLoadBalancer (ports : List LoadBalancerPort) : LoadBalancer :=
  { ns := "tenant-a", name := "app"
    spec :=
      { endpoints := [{ ports := ports.map fun p => ⟨p.name, p.port + 30000, p.protocol⟩ }]
        ports := ports } }

/-- Port x is given the number that port a had, and a another one. The existing x stands
before the existing a, so that both ports come to their own first. -/
theorem createServicePorts_renumbered :
    ∃ ports, createServicePorts (portsLoadBalancer [⟨"a", .tcp, 90⟩, ⟨"x", .tcp, 80⟩])
        [⟨"x", .tcp, 70, .int 10000, 30001⟩, ⟨"a", .tcp, 80, .int 10001, 30002⟩]
        newPortAllocator = some ports ∧ DistinctNodePorts ports := by
  obtain ⟨ports, created, distinct⟩ := createServicePorts_distinctNodePorts_iff
    (portsLoadBalancer [⟨"a", .tcp, 90⟩, ⟨"x", .tcp, 80⟩])
    [⟨"x", .tcp, 70, .int 10000, 30001⟩, ⟨"a", .tcp, 80, .int 10001, 30002⟩] newPortAllocator
    rfl (by decide) (by decide) (by decide) (by decide)
  refine ⟨ports, created, distinct.mpr ?_⟩
  rintro ⟨port, twice⟩
  obtain ⟨q, member, name, _, _, first⟩ := twice.byNumber
  simp only [portsLoadBalancer, List.mem_cons, List.not_mem_nil, or_false] at member
  have found := matchingPort_eq_some_iff.mpr first
  obtain rfl | rfl := member
  · cases found
    exact name rfl
  · cases found
    exact name rfl

/-- Port a is given the number 90 and a new port c the number 80 that it had: both
take over its node port. So do two ports that keep their names, where the one is given
the number of the other and the other stands first. -/
theorem createServicePorts_takes_nodePort_twice :
    let lb := portsLoadBalancer [⟨"a", .tcp, 90⟩, ⟨"c", .tcp, 80⟩]
    let existing : List ServicePort := [⟨"a", .tcp, 80, .int 10000, 30001⟩]
    let ports : List ServicePort :=
      [⟨"a", .tcp, 90, .int 30090, 30001⟩, ⟨"c", .tcp, 80, .int 30080, 30001⟩]
    (lb.spec.ports.map (·.name)).Nodup ∧
      (lb.spec.ports.map fun p => (p.port, p.protocol)).Nodup ∧
      (existing.map (·.name)).Nodup ∧ (existing.map fun p => (p.port, p.protocol)).Nodup ∧
      DistinctNodePorts existing ∧
      createServicePorts lb existing newPortAllocator = some ports ∧
      ¬ DistinctNodePorts ports ∧
      (createServicePorts (portsLoadBalancer [⟨"a", .tcp, 80⟩, ⟨"x", .tcp, 70⟩])
        [⟨"x", .tcp, 80, .int 10000, 30001⟩, ⟨"a", .tcp, 90, .int 10001, 30002⟩]
        newPortAllocator).map (·.map fun p => (p.name, p.nodePort)) =
          some [("a", 30001), ("x", 30001)] := by
  decide

end KubeLB
