import Kubelink.Policy.Ingress

/-!
# Links

`Link` is the registry's snapshot of one declared peer, as `LinkFor` builds it from a
`KubeLink`. The foreign data (`LinkForeignData`) is what the peer advertised about its API
server access and its DNS service, with the flag `UpdatePending` of the two-phase update.

`allowIngress_eq`: `AllowIngress` answers `(r.Contains(ip), r.IsSet())` for the link's range
`r`, since an unset range contains every address.
-/

namespace Kubelink

/-- `LinkAccessInfo`: the API server access a peer advertises. -/
structure LinkAccessInfo where
  caCert : String
  token : String
deriving DecidableEq, Repr

/-- `access.Equal(other)`. -/
def LinkAccessInfo.equal (a b : LinkAccessInfo) : Bool :=
  a.caCert == b.caCert && a.token == b.token

/-- `LinkDNSInfo`: the DNS service a peer advertises. -/
structure LinkDNSInfo where
  clusterDomain : String
  dnsIP : IP
deriving DecidableEq, Repr

/-- `dns.Equal(other)`: the addresses by `IP.Equal`, the domains as text. -/
def LinkDNSInfo.equal (a b : LinkDNSInfo) : Bool :=
  a.dnsIP.equal b.dnsIP && a.clusterDomain == b.clusterDomain

/-- `LinkForeignData`: the advertised access and DNS info, and whether a staged value
waits for the peer's confirmation. -/
structure LinkForeignData where
  updatePending : Bool
  linkAccessInfo : LinkAccessInfo
  linkDNSInfo : LinkDNSInfo
deriving DecidableEq, Repr

/-- The zero value of `LinkForeignData`, which a link gets from `LinkFor`. -/
def LinkForeignData.zero : LinkForeignData := ⟨false, ⟨"", ""⟩, ⟨"", []⟩⟩

/-- `Link`. A link built by `LinkFor` always has a cluster address and a gateway, so the
model gives them no `nil`. -/
structure Link where
  name : String
  serviceCIDR : Option IPNet
  egress : CIDRList
  ingress : Option IPRange
  clusterAddress : IPNet
  gateway : IP
  host : String
  port : Int
  endpoint : String
  publicKey : Option Key
  linkForeignData : LinkForeignData
deriving DecidableEq, Repr

/-- `l.AllowIngress(ip)`: `(granted, set)`; a link without a policy admits everything. -/
def Link.allowIngress (l : Link) (ip : IP) : Bool × Bool :=
  if !IPRange.isSet l.ingress then (true, false) else (IPRange.contains l.ingress ip, true)

/-- `l.IsWireguard()`. -/
def Link.isWireguard (l : Link) : Bool :=
  l.publicKey.isSome && l.endpoint != "none"

/-- An unset range, `nil` or with both lists `nil`, contains every address. -/
theorem contains_of_not_isSet {r : Option IPRange} (h : IPRange.isSet r = false) (ip : IP) :
    IPRange.contains r ip = true := by
  rcases r with _ | ⟨⟨_ | _⟩, ⟨_ | _⟩⟩ <;> simp_all [IPRange.isSet, IPRange.contains, CIDRList.isSet]

/-- `AllowIngress` is the range's `Contains` and `IsSet`. -/
theorem allowIngress_eq (l : Link) (ip : IP) :
    l.allowIngress ip = (IPRange.contains l.ingress ip, IPRange.isSet l.ingress) := by
  unfold Link.allowIngress
  cases h : IPRange.isSet l.ingress
  · simp [contains_of_not_isSet h]
  · simp

/-- A link named `a` with the policy `["10.0.0.0/8"]`, the egress `10.1.0.0/16`, the cluster
address `192.168.0.12/24` and the gateway `10.0.0.1`. -/
def policyLink : Link :=
  ⟨"a", none, ⟨some [⟨IP.ipv4 10 1 0 0, [255, 255, 0, 0]⟩]⟩, some ⟨⟨some [⟨IP.ipv4 10 0 0 0, [255, 0, 0, 0]⟩]⟩, ⟨none⟩⟩,
    ⟨IP.ipv4 192 168 0 12, [255, 255, 255, 0]⟩, IP.ipv4 10 0 0 1, "peer", 80, "peer:80", none, .zero⟩

end Kubelink
