import Kubelink.Registry.Routes
import Kubelink.Tunnel.Net

/-!
# The registry stores declared links

Every link the registry stores is one that `LinkFor` built from some `KubeLink` with the
registry's default port, up to its foreign data: `UpdateLink` stores the link of `LinkFor`,
the two info operations store a stored link with other foreign data, and `RemoveLink`
stores nothing (`step_stores`). Only `ReplaceLink` stores a link its caller built.
`AllDeclared` says this of a state, and `AllDeclared.run` carries it along every run whose
`ReplaceLink` calls store declared links.

What the queries answer then rests on what `ParseCIDR` returns. The cluster address of a
link is the address of its `a.b.c.d/n` text with the mask of the network, and `CIDRNet` of
it is the network `ParseCIDR` returns: the first address, under the same mask, so it
contains exactly the addresses the cluster address contains (`cidrNet_parseCIDR`).

Results:
* `getMeshGatewaysFor_declared`: in every state reachable from `NewLinks`,
  `GetMeshGatewaysFor(ip)` returns a network exactly when it returns gateways; the network
  contains `ip`, and it is the cluster network of a link whose gateway it returns.
* `getRoutes_declared`: every route of `GetRoutes` goes through the gateway of a stored link
  of another node, to an egress network of the link or to a network that contains exactly
  the addresses of the link's cluster network; every such link has that cluster route.
-/

namespace Kubelink

/-- `ParseCIDR` on IPv4 text, as Go's: every network it returns is a `ParseCIDRResult` with a
four-byte mask. -/
def Library.ParsesIPv4CIDRs (lib : Library) : Prop :=
  ∀ s ip n, lib.parseCIDR s = .ok (ip, n) → ParseCIDRResult ip n ∧ n.mask.length = 4

theorem Library.ipv4_parsesIPv4CIDRs : Library.ipv4.ParsesIPv4CIDRs :=
  fun _ _ _ h => parseCIDRv4_result h

/-- On an IPv4 network that `ParseCIDR` returns, `CIDRNet` of the network with the parsed
address is that network, and it contains the same addresses. -/
theorem cidrNet_parseCIDR {ip : IP} {n : IPNet} (h : ParseCIDRResult ip n) (h4 : n.mask.length = 4) :
    cidrNet { n with ip := ip } = n ∧ ∀ x, n.contains x = ({ n with ip := ip } : IPNet).contains x := by
  obtain ⟨ones, bits, hle, hlen, hfam, rfl⟩ := h
  refine ⟨rfl, fun x => ?_⟩
  dsimp only at h4 ⊢
  rcases hfam with ⟨rfl, hpre⟩ | rfl
  · simp [IPNet.contains, networkNumberAndMask, IP.to4, withMask, IP.mask, hlen, hpre, h4,
      maskedEqual_zipWith_and]
  · exact absurd h4 (by rw [cidrMask_length hle (.inr rfl)]; decide)

/-- A link the registry may store: what `LinkFor` builds from some `KubeLink` with the default
port `defaultport`, with any foreign data. -/
def Declared (lib : Library) (defaultport : Int) (l : Link) : Prop :=
  ∃ klink l₀ fd, linkFor lib defaultport klink = .ok l₀ ∧ l = { l₀ with linkForeignData := fd }

variable {lib : Library}

theorem Declared.withForeignData {defaultport : Int} {l : Link} (h : Declared lib defaultport l)
    (fd : LinkForeignData) : Declared lib defaultport { l with linkForeignData := fd } := by
  obtain ⟨klink, l₀, -, hl, rfl⟩ := h
  exact ⟨klink, l₀, fd, hl, rfl⟩

/-- On an IPv4 library, `CIDRNet` of a declared link's cluster address contains exactly the
addresses the cluster address contains, the link's own cluster IP among them. -/
theorem Declared.cidrNet (hlib : lib.ParsesIPv4CIDRs) {defaultport : Int} {l : Link}
    (h : Declared lib defaultport l) :
    (∀ x, (cidrNet l.clusterAddress).contains x = l.clusterAddress.contains x) ∧
      l.clusterAddress.contains l.clusterAddress.ip = true := by
  obtain ⟨klink, l₀, fd, hl, rfl⟩ := h
  obtain ⟨ip, n, hp, hc⟩ := linkFor_clusterAddress hl
  obtain ⟨hr, h4⟩ := hlib _ _ _ hp
  have hnet := cidrNet_parseCIDR hr h4
  dsimp only
  rw [hc, hnet.1]
  exact ⟨hnet.2, (broadcastAddress_clusterAddress hr h4).2⟩

namespace Links

/-- Every stored link is `Declared` with the registry's default port. -/
def AllDeclared (lib : Library) (s : Links) : Prop :=
  ∀ n l, s.links.lookup n = some l → Declared lib s.defaultport l

/-- A `ReplaceLink` that stores a declared link; every other operation. -/
def ReplacesDeclared (lib : Library) (s : Links) : Op → Prop
  | .replaceLink l => Declared lib s.defaultport l
  | _ => True

theorem allDeclared_newLinks (defaultport : Int) : AllDeclared lib (newLinks defaultport) :=
  fun _ _ h => by simp [newLinks] at h

theorem AllDeclared.step {s : Links} (h : AllDeclared lib s) {op : Op} (hop : ReplacesDeclared lib s op) :
    AllDeclared lib (s.step lib op) := by
  intro n l hl
  rw [step_defaultport]
  rcases step_stores s op with hs | ⟨m, hs⟩ | ⟨l', hs, hprov⟩ <;> rw [hs] at hl
  · exact h n l hl
  · by_cases hn : n = m
    · subst hn
      simp at hl
    · exact h n l (by rwa [AList.lookup_erase_ne hn] at hl)
  · by_cases hn : n = l'.name
    · subst hn
      rw [AList.lookup_insert, Option.some.injEq] at hl
      subst hl
      rcases hprov with hd | ⟨m, old, fd, hold, rfl⟩ | rfl
      · exact hd
      · exact (h m old hold).withForeignData fd
      · exact hop
    · exact h n l (by rwa [AList.lookup_insert_ne hn] at hl)

theorem AllDeclared.run {s : Links} (h : AllDeclared lib s) {ops : List Op}
    (hops : EveryStep lib (ReplacesDeclared lib) s ops) : AllDeclared lib (s.run lib ops) := by
  induction ops generalizing s with
  | nil => exact h
  | cons op ops ih => exact ih (h.step hops.1) hops.2

/-- A link of an iteration order of a state whose links are declared is declared. -/
theorem AllDeclared.of_mem {s : Links} (h : AllDeclared lib s) {order : List Link} (ho : IterationOrder s order)
    {l : Link} (hl : l ∈ order) : Declared lib s.defaultport l := by
  obtain ⟨n, hn⟩ := mem_values.mp (ho.mem_iff.mp hl)
  exact h n l hn

/-! ## What the queries answer -/

/-- Along every run from `NewLinks` whose `ReplaceLink` calls store declared links, on an IPv4
library, `GetMeshGatewaysFor(ip)` returns a network exactly when it returns gateways, in any
order of the map. The network contains `ip`: it is `CIDRNet` of the cluster address of a
visited link whose gateway it returns, and contains exactly the addresses of that link's
cluster network. -/
theorem getMeshGatewaysFor_declared (hlib : lib.ParsesIPv4CIDRs) (defaultport : Int) {ops : List Op}
    (hops : EveryStep lib (ReplacesDeclared lib) (newLinks defaultport) ops) {order : List Link}
    (ho : IterationOrder ((newLinks defaultport).run lib ops) order) (ip : IP) :
    ((getMeshGatewaysFor order ip).1.isSome ↔ (getMeshGatewaysFor order ip).2 ≠ []) ∧
      ∀ n ∈ (getMeshGatewaysFor order ip).1, n.contains ip = true ∧
        ∃ l ∈ order, l.gateway ∈ (getMeshGatewaysFor order ip).2 ∧ n = cidrNet l.clusterAddress ∧
          ∀ x, n.contains x = l.clusterAddress.contains x := by
  have hs := (allDeclared_newLinks defaultport).run hops
  rw [getMeshGatewaysFor_eq]
  refine ⟨by simp, fun n hn => ?_⟩
  obtain ⟨l, hl, rfl⟩ := Option.mem_map.mp hn
  obtain ⟨hlo, hc⟩ := List.mem_filter.mp (List.mem_of_getLast?_eq_some hl)
  have hnet := ((hs.of_mem ho hlo).cidrNet hlib).1
  exact ⟨(hnet ip).trans hc, l, hlo,
    List.mem_map_of_mem _ (List.mem_of_getLast?_eq_some hl), rfl, hnet⟩

/-- The registry holding the link of `peerLink "a" "peer"`, asked for `192.168.0.7`. -/
theorem getMeshGatewaysFor_declared_peer :
    let s := (newLinks 80).run Library.ipv4 [.updateLink (peerLink "a" "peer")]
    let g := getMeshGatewaysFor s.values (IP.ipv4 192 168 0 7)
    (g.1.isSome ↔ g.2 ≠ []) ∧ ∀ n ∈ g.1, n.contains (IP.ipv4 192 168 0 7) = true ∧
      ∃ l ∈ s.values, l.gateway ∈ g.2 ∧ n = cidrNet l.clusterAddress ∧
        ∀ x, n.contains x = l.clusterAddress.contains x :=
  getMeshGatewaysFor_declared Library.ipv4_parsesIPv4CIDRs 80 (by simp [EveryStep, ReplacesDeclared]) (List.Perm.refl _) _

/-- Along every such run, every route of `GetRoutes` goes through the gateway of a visited
link whose gateway is another node, to an egress network of the link or to a network that
contains exactly the addresses of the link's cluster network; and every such link has that
cluster route, which covers its own cluster IP. -/
theorem getRoutes_declared (hlib : lib.ParsesIPv4CIDRs) {add : List Route → Route → List Route}
    (hadd : AddKeeps add) (defaultport : Int) {ops : List Op}
    (hops : EveryStep lib (ReplacesDeclared lib) (newLinks defaultport) ops) {order : List Link}
    (ho : IterationOrder ((newLinks defaultport).run lib ops) order) (tunl0 : Option (Nat × Bool))
    (ifce : NodeInterface) :
    (∀ r ∈ getRoutes add tunl0 order ifce, ∃ l ∈ order, l.gateway.equal ifce.ip = false ∧
      r.gw = some l.gateway ∧ (r.dst ∈ l.egress.nets.getD [] ∨ ∀ x, r.dst.contains x = l.clusterAddress.contains x)) ∧
    ∀ l ∈ order, l.gateway.equal ifce.ip = false → ∃ r ∈ getRoutes add tunl0 order ifce,
      r.gw = some l.gateway ∧ r.dst.contains l.clusterAddress.ip = true ∧
        ∀ x, r.dst.contains x = l.clusterAddress.contains x := by
  have hs := (allDeclared_newLinks defaultport).run hops
  constructor
  · intro r hr
    obtain ⟨l, hlo, hg, hr⟩ := (mem_getRoutes hadd tunl0 order ifce r).mp hr
    refine ⟨l, hlo, hg, ?_⟩
    rcases List.mem_append.mp hr with hr | hr
    · obtain ⟨c, hc, rfl⟩ := List.mem_map.mp hr
      exact ⟨rfl, .inl hc⟩
    · rw [List.mem_singleton.mp hr]
      exact ⟨rfl, .inr ((hs.of_mem ho hlo).cidrNet hlib).1⟩
  · intro l hlo hg
    have hnet := (hs.of_mem ho hlo).cidrNet hlib
    refine ⟨_, (mem_getRoutes hadd tunl0 order ifce _).mpr ⟨l, hlo, hg, List.mem_append_right _ (List.mem_singleton_self _)⟩,
      rfl, (hnet.1 _).trans hnet.2, hnet.1⟩

/-- The routes of the node `10.0.0.2` for the registry holding the link of
`peerLink "a" "peer"`, whose gateway is `10.0.0.1`, with an `Add` that appends. -/
theorem getRoutes_declared_peer :
    let s := (newLinks 80).run Library.ipv4 [.updateLink (peerLink "a" "peer")]
    let add := fun (routes : List Route) (r : Route) => routes ++ [r]
    let ifce : NodeInterface := ⟨IP.ipv4 10 0 0 2, 1⟩
    AddKeeps add ∧
    (∀ r ∈ getRoutes add none s.values ifce, ∃ l ∈ s.values, l.gateway.equal ifce.ip = false ∧
      r.gw = some l.gateway ∧ (r.dst ∈ l.egress.nets.getD [] ∨ ∀ x, r.dst.contains x = l.clusterAddress.contains x)) ∧
    ∀ l ∈ s.values, l.gateway.equal ifce.ip = false → ∃ r ∈ getRoutes add none s.values ifce,
      r.gw = some l.gateway ∧ r.dst.contains l.clusterAddress.ip = true ∧
        ∀ x, r.dst.contains x = l.clusterAddress.contains x :=
  ⟨addKeeps_append, getRoutes_declared Library.ipv4_parsesIPv4CIDRs addKeeps_append 80
    (by simp [EveryStep, ReplacesDeclared]) (List.Perm.refl _) none _⟩

end Links

end Kubelink
