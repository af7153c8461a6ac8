import Kubelink.Registry.Query

/-!
# The routes of the registry

The router asks the registry for the kernel routes of the mesh. `GetRoutes` routes the
egress networks and the cluster network of every link whose gateway is another node
through that gateway; `GetRoutesToLink` routes the egress networks of every link whose
gateway is this node into a given device. Go visits the links map in an arbitrary order,
and the route list `Routes` is not under src/: the model takes its `Add` as a parameter
that keeps what was there and what it adds (`AddKeeps`), as appending does, with or without
dropping duplicates.

Results:
* `mem_getRoutes`, `mem_getRoutesToLink`: the routes of the two lists, link by link.
* `egress_routed`: every egress network of every stored link is routed, through the link's
  gateway when the gateway is another node, into the device when it is this node.
* `getRoutesToLink_of_not_isGateway`: a node that `IsGateway` denies gets no route into the
  device, in every order of the map.
-/

namespace Kubelink

/-- `netlink.Route`, with the fields the registry sets; `onlink` is the flag `FLAG_ONLINK`. -/
structure Route where
  dst : IPNet
  gw : Option IP
  linkIndex : Nat
  protocol : Nat
  priority : Nat
  onlink : Bool
deriving DecidableEq, Repr

/-- Modelled from the spec: `NodeInterface`, whose file is not under src/, with the address
and the index of the node's interface. -/
structure NodeInterface where
  ip : IP
  index : Nat
deriving DecidableEq, Repr

/-- `Routes.Add` keeps the routes it had and holds the one it adds. -/
def AddKeeps (add : List Route → Route → List Route) : Prop :=
  ∀ routes r x, x ∈ add routes r ↔ x ∈ routes ∨ x = r

namespace Links

/-- The device of `GetRoutes`: `tunl0` with `FLAG_ONLINK` when that device exists and is up
(`netlink.LinkByName("tunl0")` gives its index and whether it is up), else the node's
interface. -/
def routeDevice (tunl0 : Option (Nat × Bool)) (ifce : NodeInterface) : Nat × Bool :=
  match tunl0 with
  | some (index, true) => (index, true)
  | _ => (ifce.index, false)

/-- The routes that `GetRoutes` adds for a link: each egress network and then the cluster
network, through the link's gateway, with priority 101. -/
def linkRoutes (device : Nat × Bool) (l : Link) : List Route :=
  (l.egress.nets.getD []).map (fun c => ⟨c, some l.gateway, device.1, 0, 101, device.2⟩) ++
    [⟨cidrNet l.clusterAddress, some l.gateway, device.1, 0, 101, device.2⟩]

/-- `GetRoutes(ifce)`, visiting the links in `order`. -/
def getRoutes (add : List Route → Route → List Route) (tunl0 : Option (Nat × Bool)) (order : List Link)
    (ifce : NodeInterface) : List Route :=
  order.foldl (fun routes l =>
    if !l.gateway.equal ifce.ip then (linkRoutes (routeDevice tunl0 ifce) l).foldl add routes else routes) []

/-- The route that `GetRoutesToLink` adds for an egress network: into the device `index`. -/
def deviceRoute (index : Nat) (c : IPNet) : Route := ⟨c, none, index, 0, 0, false⟩

/-- `GetRoutesToLink(ifce, link)`, visiting the links in `order`; `index` is the index of
`link`. -/
def getRoutesToLink (add : List Route → Route → List Route) (order : List Link) (ifce : NodeInterface)
    (index : Nat) : List Route :=
  order.foldl (fun routes l =>
    if l.gateway.equal ifce.ip then ((l.egress.nets.getD []).map (deviceRoute index)).foldl add routes
    else routes) []

/-- `Routes.Add` as an append keeps the routes. -/
theorem addKeeps_append : AddKeeps fun (routes : List Route) (r : Route) => routes ++ [r] :=
  fun _ _ _ => by simp only [List.mem_append, List.mem_singleton]

section Add

variable {add : List Route → Route → List Route} (hadd : AddKeeps add)
include hadd

theorem mem_foldl_add (xs : List Route) (routes : List Route) (x : Route) :
    x ∈ xs.foldl add routes ↔ x ∈ routes ∨ x ∈ xs := by
  induction xs generalizing routes with
  | nil => simp
  | cons r rs ih => rw [List.foldl_cons, ih, hadd, List.mem_cons, or_assoc, or_comm (a := x = r)]

theorem mem_foldl_links {p : Link → Bool} {f : Link → List Route} (order : List Link) (routes : List Route)
    (x : Route) :
    x ∈ order.foldl (fun routes l => if p l then (f l).foldl add routes else routes) routes ↔
      x ∈ routes ∨ ∃ l ∈ order, p l = true ∧ x ∈ f l := by
  induction order generalizing routes with
  | nil => simp
  | cons l ls ih =>
    rw [List.foldl_cons, ih]
    by_cases hp : p l <;> simp [hp, mem_foldl_add hadd, or_assoc]

/-- `GetRoutes` holds the routes of the links whose gateway is another node. -/
theorem mem_getRoutes (tunl0 : Option (Nat × Bool)) (order : List Link) (ifce : NodeInterface) (r : Route) :
    r ∈ getRoutes add tunl0 order ifce ↔
      ∃ l ∈ order, l.gateway.equal ifce.ip = false ∧ r ∈ linkRoutes (routeDevice tunl0 ifce) l := by
  rw [getRoutes, mem_foldl_links hadd]
  simp

/-- `GetRoutesToLink` holds a route into the device for each egress network of the links
whose gateway is this node. -/
theorem mem_getRoutesToLink (order : List Link) (ifce : NodeInterface) (index : Nat) (r : Route) :
    r ∈ getRoutesToLink add order ifce index ↔
      ∃ l ∈ order, l.gateway.equal ifce.ip = true ∧ ∃ c ∈ l.egress.nets.getD [], r = deviceRoute index c := by
  rw [getRoutesToLink, mem_foldl_links hadd]
  simp only [List.not_mem_nil, false_or, List.mem_map]
  constructor <;> rintro ⟨l, hl, hg, c, hc, h⟩ <;> exact ⟨l, hl, hg, c, hc, h.symm⟩

/-- A node that `IsGateway` denies gets no route into the device. -/
theorem getRoutesToLink_of_not_isGateway {order : List Link} {ifce : NodeInterface}
    (h : isGateway order ifce.ip = false) (index : Nat) (r : Route) : r ∉ getRoutesToLink add order ifce index := by
  rw [mem_getRoutesToLink hadd]
  rintro ⟨l, hl, hg, -⟩
  simp only [isGateway, List.any_eq_false] at h
  exact h l hl hg

omit hadd in
/-- The registry of `policyLink` on a node that is not its gateway. -/
theorem getRoutesToLink_of_not_isGateway_policy :
    let add := fun (routes : List Route) (r : Route) => routes ++ [r]
    let ifce : NodeInterface := ⟨IP.ipv4 10 0 0 2, 1⟩
    AddKeeps add ∧ isGateway policyRegistry.values ifce.ip = false ∧
      deviceRoute 7 ⟨IP.ipv4 10 1 0 0, [255, 255, 0, 0]⟩ ∉ getRoutesToLink add policyRegistry.values ifce 7 :=
  ⟨addKeeps_append, by decide, getRoutesToLink_of_not_isGateway addKeeps_append (by decide) 7 _⟩

variable {s : Links} {order : List Link} (ho : IterationOrder s order)
include ho

/-- Every egress network of every stored link is routed: through the link's gateway when
the gateway is another node, into the device when it is this node. -/
theorem egress_routed (tunl0 : Option (Nat × Bool)) (ifce : NodeInterface) (index : Nat) {n : String}
    {l : Link} (hl : s.links.lookup n = some l) {c : IPNet} (hc : c ∈ l.egress.nets.getD []) :
    (l.gateway.equal ifce.ip = false →
      ⟨c, some l.gateway, (routeDevice tunl0 ifce).1, 0, 101, (routeDevice tunl0 ifce).2⟩ ∈
        getRoutes add tunl0 order ifce) ∧
    (l.gateway.equal ifce.ip = true → deviceRoute index c ∈ getRoutesToLink add order ifce index) := by
  have hmem : l ∈ order := ho.mem_iff.mpr (mem_values.mpr ⟨n, hl⟩)
  refine ⟨fun hg => (mem_getRoutes hadd _ _ _ _).mpr ⟨l, hmem, hg, ?_⟩,
    fun hg => (mem_getRoutesToLink hadd _ _ _ _).mpr ⟨l, hmem, hg, c, hc, rfl⟩⟩
  exact List.mem_append_left _ (List.mem_map.mpr ⟨c, hc, rfl⟩)

omit hadd ho in
/-- The egress `10.1.0.0/16` of `policyLink`, on a node that is not its gateway. -/
theorem egress_routed_policy :
    let add := fun (routes : List Route) (r : Route) => routes ++ [r]
    let ifce : NodeInterface := ⟨IP.ipv4 10 0 0 2, 1⟩
    let c : IPNet := ⟨IP.ipv4 10 1 0 0, [255, 255, 0, 0]⟩
    AddKeeps add ∧ IterationOrder policyRegistry policyRegistry.values ∧
      policyRegistry.links.lookup "a" = some policyLink ∧ c ∈ policyLink.egress.nets.getD [] ∧
      (policyLink.gateway.equal ifce.ip = false →
        ⟨c, some policyLink.gateway, (routeDevice none ifce).1, 0, 101, (routeDevice none ifce).2⟩ ∈
          getRoutes add none policyRegistry.values ifce) ∧
      (policyLink.gateway.equal ifce.ip = true → deviceRoute 7 c ∈ getRoutesToLink add policyRegistry.values ifce 7) :=
  ⟨addKeeps_append, List.Perm.refl _, rfl, List.mem_singleton_self _,
    egress_routed addKeeps_append (List.Perm.refl _) none _ 7 (show policyRegistry.links.lookup "a" = some policyLink from rfl)
      (List.mem_singleton_self _)⟩

end Add

end Links

end Kubelink
