import KubeLB.Foundation.Program
import KubeLB.Foundation.Runs
import KubeLB.LoadBalancer.Mapping

/-!
The Node controller of the CCM (internal/controllers/ccm/node_controller.go).

It writes the addresses of the ready nodes of the tenant cluster to the Addresses
object of the tenant. For each node the last address of the configured type counts,
and a node for which this one is empty is left out. The sort is not stable, but the
entries have an IP and nothing else, so that neither its choices nor the order in
which the nodes are listed show in the result.
-/

namespace KubeLB.Ccm
open Program Runs

/-- corev1.NodeConditionType, which is an open set. -/
inductive NodeConditionType
  | ready
  | other (name : String)
  deriving DecidableEq

inductive ConditionStatus
  | true | false | unknown
  deriving DecidableEq

structure NodeCondition where
  type : NodeConditionType
  status : ConditionStatus
  deriving DecidableEq

/-- corev1.NodeAddressType. -/
inductive NodeAddressType
  | hostname | internalIP | externalIP | internalDNS | externalDNS
  | other (name : String)
  deriving DecidableEq

structure NodeAddress where
  type : NodeAddressType
  address : String
  deriving DecidableEq

structure Node where
  conditions : List NodeCondition
  addresses : List NodeAddress
  deriving DecidableEq

/-- v1alpha1.Addresses. -/
structure Addresses where
  name : String
  ns : String
  addresses : List EndpointAddress
  deriving DecidableEq

/-- sort.Slice by IP: the result is sorted, and where equal IPs end up is not said. Strings
are compared byte by byte, which for UTF-8 is the order of their characters. -/
structure SliceSort where
  sort : List EndpointAddress → List EndpointAddress
  perm : ∀ addresses, (sort addresses).Perm addresses
  sorted : ∀ addresses, (sort addresses).Pairwise fun a b => a.ip ≤ b.ip

/-- The settings of KubeLBNodeReconciler. -/
structure NodeReconciler where
  clusterName : String
  endpointAddressType : NodeAddressType

def Node.isReady (node : Node) : Bool :=
  node.conditions.any fun condition => condition.type = .ready ∧ condition.status = .true

/-- The body of the loop over the addresses of a node: a later address of the type
replaces an earlier one. -/
def pickAddress (addressType : NodeAddressType) (internalIP : String) (address : NodeAddress) :
    String :=
  if address.type = addressType then address.address else internalIP

/-- The body of the loop of GenerateAddresses, on the addresses and validAddressFound. -/
def appendAddress (state : List EndpointAddress × Bool) (endpoint : String) :
    List EndpointAddress × Bool :=
  if endpoint = "" then state else (state.1 ++ [{ ip := endpoint }], true)

namespace NodeReconciler

def getEndpoints (r : NodeReconciler) (nodes : List Node) : List String :=
  (nodes.filter Node.isReady).map fun node =>
    node.addresses.foldl (pickAddress r.endpointAddressType) ""

def generateAddresses (r : NodeReconciler) (slice : SliceSort) (nodes : List Node) :
    Except String Addresses :=
  let (addresses, validAddressFound) := (r.getEndpoints nodes).foldl appendAddress ([], false)
  if validAddressFound = false then .error "no valid addresses found"
  else .ok { name := defaultAddressName, ns := r.clusterName, addresses := slice.sort addresses }

end NodeReconciler

/-- The nodes as they are listed, the choices of the sort, and the errors a reconcile meets,
in the order of its requests. That the object is not found is no error here. -/
structure NodeEnv where
  nodes : List Node
  slice : SliceSort
  list : Option String := none
  get : Option String := none
  create : Option String := none
  update : Option String := none

/-- The Addresses object of the tenant, and the Updates of it that were asked for. -/
structure NodeWorld where
  addresses : Option Addresses := none
  updates : List (List EndpointAddress) := []
  deriving DecidableEq

def NodeReconciler.reconcile (r : NodeReconciler) (env : NodeEnv) :
    Program NodeWorld String Unit := do
  attempt env.list
  let current ← ofExcept (r.generateAddresses env.slice env.nodes)
  attempt env.get
  match ← read NodeWorld.addresses with
  | none =>
      attempt env.create
      write fun world => { world with addresses := some current }
  | some stored =>
      -- The generated list is never empty, so that reflect.DeepEqual is equality of lists.
      if stored.addresses = current.addresses then return ()
      else
        write fun world => { world with updates := world.updates ++ [current.addresses] }
        attempt env.update
        write fun world =>
          { world with addresses := some { stored with addresses := current.addresses } }

/-! ## What is generated -/

def Node.lastAddress (addressType : NodeAddressType) (node : Node) : Option String :=
  (node.addresses.filter (·.type = addressType)).getLast?.map NodeAddress.address

/-- The entry for a node: the last address of the type, if the node is ready and the
address is not empty. -/
def Node.entry (addressType : NodeAddressType) (node : Node) : Option EndpointAddress :=
  if node.isReady then
    ((node.lastAddress addressType).filter (· ≠ "")).map fun address => { ip := address }
  else none

/-- The entries of all nodes, in no order. -/
def nodeAddresses (addressType : NodeAddressType) (nodes : List Node) :
    Multiset EndpointAddress :=
  (nodes : Multiset Node).filterMap (Node.entry addressType)

section Loops
variable (addressType : NodeAddressType)

theorem foldl_pickAddress (internalIP : String) (addresses : List NodeAddress) :
    addresses.foldl (pickAddress addressType) internalIP =
      ((addresses.filter (·.type = addressType)).getLast?.map NodeAddress.address).getD
        internalIP := by
  induction addresses generalizing internalIP with
  | nil => rfl
  | cons address addresses ih =>
      rw [List.foldl_cons, ih, pickAddress]
      by_cases picked : address.type = addressType
      · rw [if_pos picked, List.filter_cons_of_pos (by simpa using picked), List.getLast?_cons]
        cases (addresses.filter (·.type = addressType)).getLast? <;> rfl
      · rw [if_neg picked, List.filter_cons_of_neg (by simpa using picked)]

theorem foldl_appendAddress (state : List EndpointAddress × Bool) (endpoints : List String) :
    endpoints.foldl appendAddress state =
      (state.1 ++ (endpoints.filter (· ≠ "")).map (fun endpoint => { ip := endpoint }),
        state.2 || endpoints.any (· ≠ "")) := by
  induction endpoints generalizing state with
  | nil => simp
  | cons endpoint endpoints ih =>
      rw [List.foldl_cons, ih, appendAddress]
      by_cases empty : endpoint = ""
      · simp [empty]
      · simp [empty]

/-- A ready node has an entry when the loop over its addresses ends with one. -/
theorem entry_of_ready {node : Node} (ready : node.isReady = true) :
    node.entry addressType =
      let internalIP := node.addresses.foldl (pickAddress addressType) ""
      if internalIP = "" then none else some { ip := internalIP } := by
  rw [Node.entry, if_pos ready, Node.lastAddress, foldl_pickAddress]
  cases (node.addresses.filter (·.type = addressType)).getLast? with
  | none => rfl
  | some address =>
      by_cases empty : address.address = ""
      · simp [empty, Option.filter]
      · simp [empty, Option.filter]

/-- The endpoints of the ready nodes, without the empty ones, are their entries. -/
theorem filter_getEndpoints (r : NodeReconciler) (nodes : List Node) :
    ((r.getEndpoints nodes).filter (· ≠ "")).map (fun endpoint => { ip := endpoint }) =
      nodes.filterMap (Node.entry r.endpointAddressType) := by
  rw [NodeReconciler.getEndpoints]
  induction nodes with
  | nil => rfl
  | cons node nodes ih =>
      by_cases ready : node.isReady = true
      · rw [List.filter_cons_of_pos ready, List.map_cons, List.filterMap_cons,
          entry_of_ready r.endpointAddressType ready]
        by_cases empty : node.addresses.foldl (pickAddress r.endpointAddressType) "" = ""
        · simpa [empty] using ih
        · simpa [empty] using ih
      · rw [List.filter_cons_of_neg ready, List.filterMap_cons, Node.entry, if_neg ready]
        exact ih

end Loops

section Generate
variable {r : NodeReconciler} {slice : SliceSort} {nodes : List Node}

theorem generateAddresses_eq (r : NodeReconciler) (slice : SliceSort) (nodes : List Node) :
    r.generateAddresses slice nodes =
      if nodes.filterMap (Node.entry r.endpointAddressType) = [] then
        .error "no valid addresses found"
      else
        .ok { name := defaultAddressName, ns := r.clusterName
              addresses := slice.sort (nodes.filterMap (Node.entry r.endpointAddressType)) } := by
  have found : (r.getEndpoints nodes).any (· ≠ "") = false ↔
      nodes.filterMap (Node.entry r.endpointAddressType) = [] := by
    rw [← filter_getEndpoints, List.map_eq_nil_iff, List.filter_eq_nil_iff, List.any_eq_false]
  simp only [NodeReconciler.generateAddresses, foldl_appendAddress, List.nil_append,
    Bool.false_or, filter_getEndpoints, found]

theorem generateAddresses_ok {result : Addresses}
    (generated : r.generateAddresses slice nodes = .ok result) :
    result.addresses = slice.sort (nodes.filterMap (Node.entry r.endpointAddressType)) := by
  rw [generateAddresses_eq] at generated
  split at generated
  · cases generated
  · cases generated
    rfl

theorem hostname_of_entry {addressType : NodeAddressType} {node : Node} {address : EndpointAddress}
    (entry : node.entry addressType = some address) : address.hostname = "" := by
  rw [Node.entry] at entry
  split at entry
  · obtain ⟨_, _, rfl⟩ := Option.map_eq_some_iff.mp entry
    rfl
  · cases entry

structure Canonical (addresses : List EndpointAddress) : Prop where
  sorted : addresses.Pairwise fun a b => a.ip ≤ b.ip
  hostnames : ∀ address ∈ addresses, address.hostname = ""

theorem canonical_sort (addressType : NodeAddressType) (slice : SliceSort) (nodes : List Node) :
    Canonical (slice.sort (nodes.filterMap (Node.entry addressType))) := by
  refine ⟨slice.sorted _, fun address member => ?_⟩
  obtain ⟨node, _, entry⟩ := List.mem_filterMap.mp ((slice.perm _).mem_iff.mp member)
  exact hostname_of_entry entry

theorem canonical_of_generated {result : Addresses}
    (generated : r.generateAddresses slice nodes = .ok result) : Canonical result.addresses := by
  rw [generateAddresses_ok generated]
  exact canonical_sort _ _ _

theorem Canonical.eq_of_perm {addresses addresses' : List EndpointAddress}
    (canonical : Canonical addresses) (canonical' : Canonical addresses')
    (perm : addresses.Perm addresses') : addresses = addresses' := by
  refine List.Perm.eq_of_pairwise (fun a b inFirst inSecond ab ba => ?_) canonical.sorted
    canonical'.sorted perm
  have ips : a.ip = b.ip := le_antisymm ab ba
  have names : a.hostname = b.hostname :=
    (canonical.hostnames a inFirst).trans (canonical'.hostnames b inSecond).symm
  cases a
  cases b
  simp_all

theorem coe_generated {result : Addresses}
    (generated : r.generateAddresses slice nodes = .ok result) :
    (result.addresses : Multiset EndpointAddress) =
      nodeAddresses r.endpointAddressType nodes := by
  rw [generateAddresses_ok generated, nodeAddresses, Multiset.filterMap_coe, Multiset.coe_eq_coe]
  exact slice.perm _

/-- A node has no entry exactly when its last address of the type is empty or missing, or
it is not ready. -/
theorem entry_eq_none_iff {addressType : NodeAddressType} {node : Node} :
    node.entry addressType = none ↔ node.isReady = true →
      ∀ address, node.lastAddress addressType = some address → address = "" := by
  rw [Node.entry]
  by_cases ready : node.isReady = true
  · rw [if_pos ready]
    cases node.lastAddress addressType with
    | none => simp
    | some address =>
        by_cases empty : address = ""
        · simp [empty, Option.filter]
        · simp [empty, ready, Option.filter]
  · simp [ready]

theorem generateAddresses_fails_iff :
    (∃ err, r.generateAddresses slice nodes = .error err) ↔
      ∀ node ∈ nodes, node.isReady = true →
        ∀ address, node.lastAddress r.endpointAddressType = some address → address = "" := by
  rw [generateAddresses_eq]
  have fails : nodes.filterMap (Node.entry r.endpointAddressType) = [] ↔
      ∀ node ∈ nodes, node.isReady = true →
        ∀ address, node.lastAddress r.endpointAddressType = some address → address = "" := by
    rw [List.filterMap_eq_nil_iff]
    exact forall₂_congr fun node _ => entry_eq_none_iff
  rw [← fails]
  split
  · rename_i none
    exact iff_of_true ⟨_, rfl⟩ none
  · rename_i some'
    exact iff_of_false (by rintro ⟨err, ⟨⟩⟩) some'

/-- Neither the order of the nodes nor the choices of the sort show. -/
theorem generateAddresses_perm {nodes' : List Node} (slice' : SliceSort)
    (perm : nodes'.Perm nodes) :
    r.generateAddresses slice' nodes' = r.generateAddresses slice nodes := by
  have entries := perm.filterMap (Node.entry r.endpointAddressType)
  have same : slice'.sort (nodes'.filterMap (Node.entry r.endpointAddressType)) =
      slice.sort (nodes.filterMap (Node.entry r.endpointAddressType)) :=
    (canonical_sort _ slice' nodes').eq_of_perm (canonical_sort _ slice nodes)
      ((slice'.perm _).trans (entries.trans (slice.perm _).symm))
  have empty : nodes'.filterMap (Node.entry r.endpointAddressType) = [] ↔
      nodes.filterMap (Node.entry r.endpointAddressType) = [] := by
    rw [← List.length_eq_zero_iff, ← List.length_eq_zero_iff, entries.length_eq]
  rw [generateAddresses_eq, generateAddresses_eq]
  simp only [same, empty]

end Generate

/-- What GenerateAddresses makes of a list of nodes. -/
structure AddressesFollowNodes (r : NodeReconciler) (nodes : List Node) : Prop where
  fails : ∀ slice, (∃ err, r.generateAddresses slice nodes = .error err) ↔
    ∀ node ∈ nodes, node.isReady = true →
      ∀ address, node.lastAddress r.endpointAddressType = some address → address = ""
  sorted : ∀ slice result, r.generateAddresses slice nodes = .ok result →
    result.addresses.Pairwise fun a b => a.ip ≤ b.ip
  entries : ∀ slice result, r.generateAddresses slice nodes = .ok result →
    (result.addresses : Multiset EndpointAddress) = nodeAddresses r.endpointAddressType nodes
  order : ∀ slice slice' nodes', nodes'.Perm nodes →
    r.generateAddresses slice' nodes' = r.generateAddresses slice nodes

theorem addressesFollowNodes (r : NodeReconciler) (nodes : List Node) :
    AddressesFollowNodes r nodes where
  fails _ := generateAddresses_fails_iff
  sorted slice result generated := by
    rw [generateAddresses_ok generated]
    exact slice.sorted _
  entries _ _ generated := coe_generated generated
  order _ slice' _ perm := generateAddresses_perm slice' perm

/-! ## Runs of the controller -/

/-- A reconcile, by a CCM that may have been restarted with another address type. -/
structure NodeAction where
  endpointAddressType : NodeAddressType
  env : NodeEnv

def nodeStep (clusterName : String) (world : NodeWorld) (action : NodeAction) :
    Option NodeWorld :=
  (NodeReconciler.reconcile ⟨clusterName, action.endpointAddressType⟩ action.env world).map
    Prod.snd

section Reconcile
variable (r : NodeReconciler) (env : NodeEnv) (world : NodeWorld)

/-- What a reconcile can do: nothing, create the object, or ask for an Update because the
list it has generated is another one. -/
def NodeEffect (world' : NodeWorld) : Prop :=
  world' = world ∨
  (∃ current, r.generateAddresses env.slice env.nodes = .ok current ∧
    world' = { world with addresses := some current }) ∨
  ∃ stored current, world.addresses = some stored ∧
    r.generateAddresses env.slice env.nodes = .ok current ∧
    stored.addresses ≠ current.addresses ∧
    (world'.addresses = some stored ∨
      world'.addresses = some { stored with addresses := current.addresses })

/-- Whether it returns or fails; an Update that fails has been asked for all the same. -/
theorem reconcile_effect :
    Ensures world (r.reconcile env) (fun _ => NodeEffect r env world)
      (NodeEffect r env world) := by
  refine .attempt (Or.inl rfl) ?_
  rw [ensures_bind, ensures_ofExcept]
  refine ⟨fun current generated => ?_, fun _ _ => Or.inl rfl⟩
  refine .attempt (Or.inl rfl) ?_
  rw [ensures_bind, ensures_read]
  cases found : world.addresses with
  | none =>
      refine .attempt (Or.inl rfl) ?_
      exact Or.inr (Or.inl ⟨current, generated, rfl⟩)
  | some stored =>
      refine (ensures_ite _ _).mpr ⟨fun _ => Or.inl rfl, fun differs => ?_⟩
      rw [ensures_bind, ensures_write]
      refine .attempt ?_ ?_
      · exact Or.inr (Or.inr ⟨stored, current, found, generated, differs, Or.inl found⟩)
      · exact Or.inr (Or.inr ⟨stored, current, found, generated, differs, Or.inr rfl⟩)

end Reconcile

theorem nodeStep_effect {clusterName : String} {world world' : NodeWorld} {action : NodeAction}
    (taken : nodeStep clusterName world action = some world') :
    NodeEffect ⟨clusterName, action.endpointAddressType⟩ action.env world world' := by
  obtain ⟨⟨outcome, _⟩, ran, rfl⟩ := Option.map_eq_some_iff.mp taken
  exact (reconcile_effect _ _ _).elim ran (fun _ => id) id

/-- The object, if it is there, is as a reconcile writes it: sorted, and without hostnames. -/
def StoredCanonical (world : NodeWorld) : Prop :=
  ∀ stored, world.addresses = some stored → Canonical stored.addresses

section Step
variable {clusterName : String} {world world' : NodeWorld} {action : NodeAction}

theorem StoredCanonical.step (holds : StoredCanonical world)
    (taken : nodeStep clusterName world action = some world') : StoredCanonical world' := by
  obtain rfl | ⟨current, generated, rfl⟩ |
      ⟨stored, current, found, generated, _, kept | written⟩ := nodeStep_effect taken
  · exact holds
  · intro stored here
    cases here
    exact canonical_of_generated generated
  · intro stored' here
    cases kept.symm.trans here
    exact holds stored found
  · intro stored' here
    cases written.symm.trans here
    change Canonical current.addresses
    exact canonical_of_generated generated

theorem StoredCanonical.changed (holds : StoredCanonical world)
    (taken : nodeStep clusterName world action = some world')
    (asked : world'.updates ≠ world.updates) :
    ∃ stored, world.addresses = some stored ∧ (stored.addresses : Multiset EndpointAddress) ≠
      nodeAddresses action.endpointAddressType action.env.nodes := by
  obtain rfl | ⟨current, _, rfl⟩ | ⟨stored, current, found, generated, differs, _⟩ :=
    nodeStep_effect taken
  · exact absurd rfl asked
  · exact absurd rfl asked
  · refine ⟨stored, found, fun same => differs ?_⟩
    refine (holds stored found).eq_of_perm (canonical_of_generated generated)
      (Multiset.coe_eq_coe.mp ?_)
    exact same.trans (coe_generated generated).symm

end Step

/-- GenerateAddresses fails exactly when the last address of the type is empty or missing on
every ready node; else its result is sorted, has one entry for each ready node with such
an address that is not empty, and does not depend on the order of the nodes. In every run
of reconciles, from a cluster without the object or with one that a reconcile has written, an
Update is asked for only when the entries are others than those stored. -/
theorem addresses_follow_nodes (r : NodeReconciler) (nodes : List Node)
    (start : NodeWorld) (actions : List NodeAction) :
    AddressesFollowNodes r nodes ∧
    (StoredCanonical start →
      EachStep (nodeStep r.clusterName) start actions fun world action world' =>
        world'.updates ≠ world.updates →
          ∃ stored, world.addresses = some stored ∧
            (stored.addresses : Multiset EndpointAddress) ≠
              nodeAddresses action.endpointAddressType action.env.nodes) := by
  refine ⟨addressesFollowNodes r nodes, ?_⟩
  intro canonical before action world world' small reached taken asked
  have shorter := (List.prefix_append before [action]).trans small
  have holds := throughout_of_step canonical (fun _ _ _ holds taken => holds.step taken) actions
    before world shorter reached
  exact holds.changed taken asked

def insertionSlice : SliceSort where
  sort addresses := addresses.insertionSort fun a b => a.ip ≤ b.ip
  perm addresses := List.perm_insertionSort _ addresses
  sorted addresses := List.pairwise_insertionSort _ addresses

private def readyNode (ip : String) : Node where
  conditions := [⟨.ready, .true⟩]
  addresses := [⟨.internalIP, ip⟩]

/-- A reconcile with the nodes as they are stored asks for nothing, and one after a node has
been added asks for an Update. -/
theorem addresses_follow_nodes_node_added :
    let stored : Addresses := ⟨defaultAddressName, "tenant-a", [⟨"10.0.0.1", ""⟩, ⟨"10.0.0.2", ""⟩]⟩
    let three : List EndpointAddress := [⟨"10.0.0.1", ""⟩, ⟨"10.0.0.2", ""⟩, ⟨"10.0.0.3", ""⟩]
    let reconcile (nodes : List Node) : NodeAction :=
      ⟨.internalIP, { nodes := nodes, slice := insertionSlice }⟩
    let unchanged := reconcile [readyNode "10.0.0.2", readyNode "10.0.0.1"]
    let added := reconcile [readyNode "10.0.0.2", readyNode "10.0.0.1", readyNode "10.0.0.3"]
    run (nodeStep "tenant-a") { addresses := some stored } [unchanged] =
        some { addresses := some stored } ∧
      nodeStep "tenant-a" { addresses := some stored } added =
        some { addresses := some { stored with addresses := three }, updates := [three] } ∧
      ∃ held, some stored = some held ∧ (held.addresses : Multiset EndpointAddress) ≠
        nodeAddresses added.endpointAddressType added.env.nodes := by
  intro stored three reconcile unchanged added
  have first : run (nodeStep "tenant-a") { addresses := some stored } [unchanged] =
      some { addresses := some stored } := by decide
  have second : nodeStep "tenant-a" { addresses := some stored } added =
      some { addresses := some { stored with addresses := three }, updates := [three] } := by
    decide
  have canonical : StoredCanonical { addresses := some stored } := by
    rintro _ ⟨⟩
    exact ⟨by decide, by decide⟩
  exact ⟨first, second, (addresses_follow_nodes ⟨"tenant-a", .internalIP⟩ added.env.nodes
    { addresses := some stored } [unchanged, added]).2 canonical [unchanged] added _ _
    (List.prefix_refl _) first second (List.cons_ne_nil _ _)⟩

def halfEmptyNode : Node where
  conditions := [⟨.ready, .true⟩]
  addresses := [⟨.internalIP, "10.0.0.1"⟩, ⟨.internalIP, ""⟩]

/-- The node is ready and has an address of the type that is not empty, and still
GenerateAddresses fails on it. -/
theorem last_address_empty_fails :
    halfEmptyNode.isReady = true ∧
      (∃ address ∈ halfEmptyNode.addresses,
        address.type = .internalIP ∧ address.address ≠ "") ∧
      NodeReconciler.generateAddresses ⟨"tenant-a", .internalIP⟩ insertionSlice [halfEmptyNode] =
        .error "no valid addresses found" :=
  ⟨rfl, by decide, rfl⟩

end KubeLB.Ccm
