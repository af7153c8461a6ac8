import Kubelink.Registry.Index

/-!
# Queries over all links

`GetLinkForIP`, `HasWireguard`, `IsGateway` and `GetMeshGatewaysFor` range over the links
map, and Go visits a map in an arbitrary order. The model takes that order as an argument:
any permutation of the stored links (`IterationOrder`). `Visit` copies the links out in such
an order and runs a visitor on the copies until it refuses one.

Results:
* `getMeshGatewaysFor_eq`: the gateways of the links whose cluster network contains the
  address, in the order visited, and the network of the last of them.
* `getLinkForIP_stored`: in a sound state, `GetLinkForIP` returns a stored link whose
  cluster IP is the address or whose egress contains it.
* `getLinkForIP_eq_none_iff`: in a sound and complete state, it returns `nil` exactly when
  no stored link has that cluster IP or an egress network containing the address.
-/

namespace Kubelink

/-- `tcp.CIDRNet(cidr)`: the network of a CIDR, its address under its mask. -/
def cidrNet (cidr : IPNet) : IPNet := { cidr with ip := cidr.ip.mask cidr.mask }

namespace Links

/-- The stored links, in the order of the map's entries. -/
def values (s : Links) : List Link := s.links.entries.map (·.2)

/-- An order in which `range` may visit the links map: any permutation of its links. -/
def IterationOrder (s : Links) (order : List Link) : Prop := order.Perm s.values

/-- `HasWireguard()`, visiting the links in `order`. -/
def hasWireguard (order : List Link) : Bool := order.any Link.isWireguard

/-- `Visit(visitor)`: the links are copied out under the lock, in `order`, and the visitor,
which carries its own state, runs on each copy until it returns `false`; so it may change the
registry without changing what is visited. -/
def visit {σ : Type} (visitor : σ → Link → σ × Bool) : List Link → σ → σ
  | [], st => st
  | l :: ls, st => if (visitor st l).2 then visit visitor ls (visitor st l).1 else (visitor st l).1

/-- `IsGateway(ifce)`, visiting the links in `order`: some link has the interface's IP as
its gateway. -/
def isGateway (order : List Link) (ifceIP : IP) : Bool := order.any (·.gateway.equal ifceIP)

/-- One link of the loop of `GetMeshGatewaysFor`. -/
def meshGatewayStep (ip : IP) (acc : Option IPNet × List IP) (l : Link) : Option IPNet × List IP :=
  if l.clusterAddress.contains ip then (some (cidrNet l.clusterAddress), acc.2 ++ [l.gateway]) else acc

/-- `GetMeshGatewaysFor(ip)`, visiting the links in `order`: the network of the last link
whose cluster network contains `ip`, and the gateways of all such links. -/
def getMeshGatewaysFor (order : List Link) (ip : IP) : Option IPNet × List IP :=
  order.foldl (meshGatewayStep ip) (none, [])

/-- `GetLinkForIP(ip)`, visiting the links in `order`: the link of the cluster address `ip`,
or else the first link whose egress contains `ip`. -/
def getLinkForIP (s : Links) (order : List Link) (ip : IP) : Option Link :=
  match s.clusteraddr.lookup ip.string with
  | some l => some l
  | none => order.find? (·.egress.contains ip)

/-! ## The order of a map -/

theorem mem_values {s : Links} {l : Link} : l ∈ s.values ↔ ∃ n, s.links.lookup n = some l := by
  simp only [values, List.mem_map, ← Option.mem_def, AList.mem_lookup_iff]
  exact ⟨fun ⟨⟨n, l'⟩, h, he⟩ => ⟨n, he ▸ h⟩, fun ⟨n, h⟩ => ⟨⟨n, l⟩, h, rfl⟩⟩

/-- In a state that stores each link under its own name, the links visited are stored under
their names. -/
theorem lookup_of_mem_order {s : Links} (hn : NamesMatch s.links) {order : List Link}
    (ho : IterationOrder s order) {l : Link} (hl : l ∈ order) : s.links.lookup l.name = some l := by
  obtain ⟨n, h⟩ := mem_values.mp (ho.mem_iff.mp hl)
  rwa [hn n l h]

/-! ## `GetMeshGatewaysFor` -/

theorem foldl_meshGatewayStep (ip : IP) : ∀ (order : List Link) (acc : Option IPNet × List IP),
    order.foldl (meshGatewayStep ip) acc =
      (((order.filter (·.clusterAddress.contains ip)).getLast?.map (cidrNet ·.clusterAddress)).or acc.1,
        acc.2 ++ (order.filter (·.clusterAddress.contains ip)).map (·.gateway))
  | [], acc => by simp
  | l :: order, acc => by
    rw [List.foldl_cons, foldl_meshGatewayStep ip order, List.filter_cons]
    by_cases h : l.clusterAddress.contains ip
    · simp only [meshGatewayStep, h, if_true, List.getLast?_cons, List.map_cons, List.append_assoc,
        List.singleton_append]
      cases (order.filter (·.clusterAddress.contains ip)).getLast? <;> rfl
    · simp only [meshGatewayStep, h, Bool.false_eq_true, if_false]

/-- `GetMeshGatewaysFor` returns the gateways of the links whose cluster network contains
the address, in the order visited, and the network of the last of them. -/
theorem getMeshGatewaysFor_eq (order : List Link) (ip : IP) :
    getMeshGatewaysFor order ip =
      ((order.filter (·.clusterAddress.contains ip)).getLast?.map (cidrNet ·.clusterAddress),
        (order.filter (·.clusterAddress.contains ip)).map (·.gateway)) := by
  rw [getMeshGatewaysFor, foldl_meshGatewayStep]
  cases (order.filter (·.clusterAddress.contains ip)).getLast? <;> rfl

/-! ## `GetLinkForIP` -/

variable {s : Links} {order : List Link} {ip : IP}

/-- In a sound state, `GetLinkForIP` returns a stored link whose cluster IP prints as `ip`
or whose egress contains `ip`. -/
theorem getLinkForIP_stored (hs : Sound s) (ho : IterationOrder s order) {l : Link}
    (h : s.getLinkForIP order ip = some l) :
    s.links.lookup l.name = some l ∧ (l.clusterKey = ip.string ∨ l.egress.contains ip = true) := by
  unfold getLinkForIP at h
  split at h
  · next l' hl =>
    cases h
    obtain ⟨hstored, hkey⟩ := hs.clusteraddr _ _ hl
    exact ⟨hstored, .inl hkey.symm⟩
  · have hp := List.find?_some h
    exact ⟨lookup_of_mem_order hs.names ho (List.mem_of_find?_eq_some h), .inr hp⟩

/-- The registry of `policyLink`, on an address of its egress. -/
theorem getLinkForIP_stored_policy :
    Sound policyRegistry ∧ IterationOrder policyRegistry policyRegistry.values ∧
      policyRegistry.getLinkForIP policyRegistry.values (IP.ipv4 10 1 2 3) = some policyLink ∧
      policyRegistry.links.lookup policyLink.name = some policyLink ∧
        (policyLink.clusterKey = (IP.ipv4 10 1 2 3).string ∨ policyLink.egress.contains (IP.ipv4 10 1 2 3) = true) := by
  have h : policyRegistry.getLinkForIP policyRegistry.values (IP.ipv4 10 1 2 3) = some policyLink := by decide
  exact ⟨sound_policyRegistry, List.Perm.refl _, h, getLinkForIP_stored sound_policyRegistry (List.Perm.refl _) h⟩

/-- In a sound and complete state, `GetLinkForIP` returns `nil` exactly when no stored link
has a cluster IP that prints as `ip` or an egress network that contains `ip`. -/
theorem getLinkForIP_eq_none_iff (hs : Sound s) (hc : Complete s) (ho : IterationOrder s order) :
    s.getLinkForIP order ip = none ↔
      ∀ n l, s.links.lookup n = some l → l.clusterKey ≠ ip.string ∧ l.egress.contains ip = false := by
  constructor
  · intro h n l hl
    unfold getLinkForIP at h
    split at h
    · cases h
    · next hnone =>
      refine ⟨fun hkey => ?_, ?_⟩
      · have := hc.clusteraddr n l hl
        rw [getLinkForClusterAddress, ← Link.clusterKey, hkey, hnone] at this
        cases this
      · have hmem : l ∈ order := ho.mem_iff.mpr (mem_values.mpr ⟨n, hl⟩)
        simpa using List.find?_eq_none.mp h l hmem
  · intro h
    have hkey : s.clusteraddr.lookup ip.string = none := by
      rcases hk : s.clusteraddr.lookup ip.string with _ | l
      · rfl
      · obtain ⟨hstored, hkey⟩ := hs.clusteraddr _ _ hk
        exact absurd hkey.symm (h _ _ hstored).1
    rw [getLinkForIP, hkey, List.find?_eq_none]
    intro l hl
    simpa using (h _ _ (lookup_of_mem_order hs.names ho hl)).2

/-- The registry of `policyLink`, on an address no link has. -/
theorem getLinkForIP_eq_none_iff_policy :
    Sound policyRegistry ∧ Complete policyRegistry ∧ IterationOrder policyRegistry policyRegistry.values ∧
      (policyRegistry.getLinkForIP policyRegistry.values (IP.ipv4 8 8 8 8) = none ↔
        ∀ n l, policyRegistry.links.lookup n = some l →
          l.clusterKey ≠ (IP.ipv4 8 8 8 8).string ∧ l.egress.contains (IP.ipv4 8 8 8 8) = false) :=
  ⟨sound_policyRegistry, complete_policyRegistry, List.Perm.refl _,
    getLinkForIP_eq_none_iff sound_policyRegistry complete_policyRegistry (List.Perm.refl _)⟩

end Links

end Kubelink
