import Kubelink.Registry.Index
import Kubelink.Tunnel.Serve

/-!
# The filter of `serve` against the registry

`serve` finds the link of a packet from the cluster network with `GetLinkForClusterAddress`,
a lookup in the registry's `clusteraddr` index. In a sound state that lookup only finds a
stored link whose cluster IP is the source, and in a sound and complete state it finds
exactly that link (`getLinkForClusterAddress_eq_some_iff`), so the filter is the rule
`AdmitsStored`, stated with the stored links themselves. States reached from `NewLinks` are
sound along runs whose `ReplaceLink` calls keep the host and cluster IP of the link they
replace (`KeepsKeys`), and complete along runs in which no state holds two links with one
host or cluster IP (`CollisionFree`).

Results:
* `forward_iff_admitsStored`: in every state reached by a run of both kinds, the filter of
  `serve` admits a packet exactly when `AdmitsStored` does.
* `serve_sources_stored`: along every run that keeps the keys, with collisions or without,
  every IPv4 packet that `serve` writes to tun from the cluster network comes from the
  cluster IP of a stored link whose ingress policy grants its destination.
-/

namespace Kubelink

namespace Links

/-- In a sound state, `GetLinkForClusterAddress(ip)` finds only a stored link whose cluster IP
is `ip`. -/
theorem getLinkForClusterAddress_stored {s : Links} (hs : Sound s) {ip : IP} {l : Link}
    (h : s.getLinkForClusterAddress ip = some l) :
    s.links.lookup l.name = some l ∧ l.clusterAddress.ip.equal ip = true := by
  obtain ⟨hl, hk⟩ := hs.clusteraddr _ _ h
  exact ⟨hl, (string_eq_iff_equal _ _).mp hk.symm⟩

/-- In a sound and complete state, `GetLinkForClusterAddress(ip)` is the stored link whose
cluster IP is `ip`. -/
theorem getLinkForClusterAddress_eq_some_iff {s : Links} (hs : Sound s) (hc : Complete s) (ip : IP) (l : Link) :
    s.getLinkForClusterAddress ip = some l ↔ ∃ n, s.links.lookup n = some l ∧ l.clusterAddress.ip.equal ip = true := by
  refine ⟨fun h => ⟨l.name, getLinkForClusterAddress_stored hs h⟩, fun ⟨n, hl, he⟩ => ?_⟩
  have h := hc.clusteraddr n l hl
  unfold getLinkForClusterAddress at h ⊢
  rwa [(string_eq_iff_equal _ _).mpr he] at h

end Links

namespace Mux

/-- Spec side: `Admits` with the stored links in place of the cluster address index: a packet
from the cluster network needs a stored link whose cluster IP is its source and whose
ingress policy grants its destination. -/
def AdmitsStored (lib : Library) (mux : Mux) (packet : List UInt8) : Prop :=
  (packet.headD 0).toNat / 16 ≠ 4 ∨
    ∃ header, lib.parseHeader packet = .ok header ∧
      ((mux.clusterAddr.contains header.src = true ∧
          ∃ n l, mux.links.links.lookup n = some l ∧ l.clusterAddress.ip.equal header.src = true ∧
            (l.allowIngress header.dst).1 = true ∧
            ((l.allowIngress header.dst).2 = true ∨ mux.localNets.isSet = false ∨
              mux.localNets.contains header.dst = true)) ∨
        (mux.clusterAddr.contains header.src = false ∧ header.dst.equal mux.clusterAddr.ip = true))

theorem admits_iff_admitsStored {mux : Mux} (hs : mux.links.Sound) (hc : mux.links.Complete) (lib : Library)
    (packet : List UInt8) : mux.Admits lib packet ↔ mux.AdmitsStored lib packet := by
  unfold Admits AdmitsStored
  refine or_congr Iff.rfl (exists_congr fun header => and_congr_right fun _ => or_congr_left (and_congr_right fun _ => ?_))
  simp only [Links.getLinkForClusterAddress_eq_some_iff hs hc]
  exact ⟨fun ⟨l, ⟨n, hl, he⟩, h⟩ => ⟨n, l, hl, he, h⟩, fun ⟨n, l, hl, he, h⟩ => ⟨l, ⟨n, hl, he⟩, h⟩⟩

/-- Along every run from `NewLinks` whose `ReplaceLink` calls keep the keys of the link they
replace and in which no state holds two links with one host or cluster IP, the filter of
`serve` on the reached registry is `AdmitsStored`: a packet from the cluster network passes
exactly when a stored link has its source as cluster IP and grants its destination. -/
theorem forward_iff_admitsStored (lib : Library) (defaultport : Int) {ops : List Links.Op}
    (hkeys : Links.EveryStep lib Links.KeepsKeys (newLinks defaultport) ops)
    (hfree : Links.Always lib Links.CollisionFree (newLinks defaultport) ops)
    (clusterAddr : IPNet) (localNets : CIDRList) (packet : List UInt8) :
    (Mux.mk clusterAddr localNets ((newLinks defaultport).run lib ops)).forward lib packet = true ↔
      (Mux.mk clusterAddr localNets ((newLinks defaultport).run lib ops)).AdmitsStored lib packet :=
  (forward_iff_admits _ _ _).trans (admits_iff_admitsStored ((Links.sound_newLinks _).run hkeys)
    ((Links.complete_newLinks _).run (Links.namesMatch_newLinks _) hfree) _ _)

/-- The registry of `policyLink` on the cluster network `192.168.0.0/24`, and an IPv4 packet
from the link's cluster IP `192.168.0.12` to `10.1.2.3`, which its ingress policy grants. -/
theorem forward_iff_admitsStored_policy :
    let ops : List Links.Op := [.replaceLink policyLink]
    let mux := Mux.mk ⟨IP.ipv4 192 168 0 1, [255, 255, 255, 0]⟩ ⟨none⟩ ((newLinks 80).run Library.ipv4 ops)
    let packet : List UInt8 := [0x45, 0, 0, 20, 0, 0, 0, 0, 64, 6, 0, 0, 192, 168, 0, 12, 10, 1, 2, 3]
    Links.EveryStep Library.ipv4 Links.KeepsKeys (newLinks 80) ops ∧
      Links.Always Library.ipv4 Links.CollisionFree (newLinks 80) ops ∧ mux.forward Library.ipv4 packet = true ∧
      (mux.forward Library.ipv4 packet = true ↔ mux.AdmitsStored Library.ipv4 packet) :=
  have hkeys : Links.EveryStep Library.ipv4 Links.KeepsKeys (newLinks 80) [.replaceLink policyLink] := by
    simp [Links.EveryStep, Links.KeepsKeys, newLinks]
  have hfree : Links.Always Library.ipv4 Links.CollisionFree (newLinks 80) [.replaceLink policyLink] :=
    ⟨Links.collisionFree_newLinks 80, Links.collisionFree_policyRegistry⟩
  ⟨hkeys, hfree, by decide, forward_iff_admitsStored Library.ipv4 80 hkeys hfree _ _ _⟩

end Mux

namespace TunnelConnection

/-- Along every run from `NewLinks` whose `ReplaceLink` calls keep the keys of the link they
replace, on a stream of frames that fit the buffer, however it is split: every IPv4 packet
that `serve` writes to tun with a source in the cluster network comes from the cluster IP of
a stored link whose ingress policy grants its destination. -/
theorem serve_sources_stored (lib : Library) (defaultport : Int) {ops : List Links.Op}
    (hkeys : Links.EveryStep lib Links.KeepsKeys (newLinks defaultport) ops) (t : TunnelConnection)
    (hmux : t.mux.links = (newLinks defaultport).run lib ops) (frames : List (UInt8 × List UInt8))
    (hfit : ∀ f ∈ frames, f.2.length ≤ BufferSize) (cs : List (List UInt8))
    (hcs : cs.flatten = frames.flatMap encodeFrame) :
    ∃ written, t.serve lib (cs.map .ok) [] = some (.returned .eof, written) ∧
      ∀ p ∈ written, ∀ header, (p.headD 0).toNat / 16 = 4 → lib.parseHeader p = .ok header →
        t.mux.clusterAddr.contains header.src = true →
          ∃ n l, t.mux.links.links.lookup n = some l ∧ l.clusterAddress.ip.equal header.src = true ∧
            (l.allowIngress header.dst).1 = true := by
  have hs : t.mux.links.Sound := hmux ▸ (Links.sound_newLinks defaultport).run hkeys
  obtain ⟨cs', hcs', hloop⟩ := @serveFrom_frames lib t [] frames hfit cs [] [] (by rw [hcs, List.append_nil])
  simp only [List.append_nil] at hloop
  refine ⟨_, by rw [serve, hloop, serveFrom_stop (serveStep_exhausted hcs'), List.nil_append, List.append_nil],
    fun p hp header hv hh hc => ?_⟩
  obtain ⟨f, hf, rfl⟩ := List.mem_map.mp hp
  obtain ⟨-, -, hadm⟩ := of_decide_eq_true (List.mem_filter.mp hf).2
  rcases hadm with hv' | ⟨header', hh', ⟨-, l, hl, hg, -⟩ | ⟨hc', -⟩⟩
  · exact absurd hv hv'
  · cases hh.symm.trans hh'
    obtain ⟨hl', he⟩ := Links.getLinkForClusterAddress_stored hs hl
    exact ⟨l.name, l, hl', he, hg⟩
  · cases hh.symm.trans hh'
    exact absurd (hc'.symm.trans hc) Bool.false_ne_true

/-- The registry of `policyLink` on the cluster network `192.168.0.0/24`, serving in one read
a data frame with an IPv4 packet from the link's cluster IP, which `serve` writes to tun. -/
theorem serve_sources_stored_policy :
    let t : TunnelConnection :=
      ⟨⟨⟨IP.ipv4 192 168 0 1, [255, 255, 255, 0]⟩, ⟨none⟩, (newLinks 80).run Library.ipv4 [.replaceLink policyLink]⟩, []⟩
    let frames : List (UInt8 × List UInt8) :=
      [(0, [0x45, 0, 0, 20, 0, 0, 0, 0, 64, 6, 0, 0, 192, 168, 0, 12, 10, 1, 2, 3])]
    t.serve Library.ipv4 ([frames.flatMap encodeFrame].map .ok) [] = some (.returned .eof, frames.map (·.2)) ∧
    ∃ written, t.serve Library.ipv4 ([frames.flatMap encodeFrame].map .ok) [] = some (.returned .eof, written) ∧
      ∀ p ∈ written, ∀ header, (p.headD 0).toNat / 16 = 4 → Library.ipv4.parseHeader p = .ok header →
        t.mux.clusterAddr.contains header.src = true →
          ∃ n l, t.mux.links.links.lookup n = some l ∧ l.clusterAddress.ip.equal header.src = true ∧
            (l.allowIngress header.dst).1 = true :=
  ⟨by decide, serve_sources_stored Library.ipv4 80 (by simp [Links.EveryStep, Links.KeepsKeys, newLinks]) _ rfl _
    (by decide) _ (List.flatten_singleton _)⟩

end TunnelConnection

end Kubelink
