import Kubelink.Registry.Links

/-!
# The indices of the registry

`endpoints` and `clusteraddr` index the links of `links` by host and by cluster IP.
`UpdateLink` checks no collision: a link takes over the host and the cluster IP of any other
link that has them (`updateLink_admits`, and the run `updateLink_accepts_collision`). Every
operation is `store` (drop the keys of the replaced link that the new link does not share,
then `replaceLink`), `RemoveLink`, a raw `ReplaceLink`, or no change (`step_cases`).

Soundness is a run invariant (`Sound`). Completeness goes link by link: an index finds the
link stored under `n` after every operation that stores a link under `n` (`Stores`), and every
step keeps it found while no link under another name shares its key (`Finds.step`).

Results:
* `indices_agree`: an index entry is the link stored under its name, at its key, in every
  state reachable by runs whose `ReplaceLink` calls keep the stored link's host and cluster
  IP; and a stored link is found by `GetLinkForEndpoint` (`GetLinkForClusterAddress`) when,
  since its name was last stored, no state held a link under another name with its host
  (an `IP.Equal` cluster IP), whatever collisions came before.
* `indices_drift`: both fail otherwise. After `a` and `b` collide and `b` is removed, `a` is
  stored and indexed under neither key; a `ReplaceLink` that moves `a` to another host leaves
  the old entry behind.
-/

namespace Kubelink

namespace Links

/-! ## An index over `links` -/

section Index

variable {κ : Type} [DecidableEq κ] (key : Link → κ)

/-- Every entry of the index `idx` is the link stored under its name, at that link's key. -/
def IndexSound (links : AList fun _ : String => Link) (idx : AList fun _ : κ => Link) : Prop :=
  ∀ k l, idx.lookup k = some l → links.lookup l.name = some l ∧ k = key l

/-- The index `idx` finds the link stored under `n`, at its key. -/
def IndexFinds (links : AList fun _ : String => Link) (idx : AList fun _ : κ => Link) (n : String) : Prop :=
  ∀ l, links.lookup n = some l → idx.lookup (key l) = some l

/-- No link stored under another name than `n` has the key of the link stored under `n`. -/
def KeyAlone (links : AList fun _ : String => Link) (n : String) : Prop :=
  ∀ l ∈ links.lookup n, ∀ e ∈ links.entries, e.1 ≠ n → key e.2 ≠ key l

/-- No two links stored under different names share a key. -/
def KeysDistinct (links : AList fun _ : String => Link) : Prop :=
  ∀ n₁ n₂ l₁ l₂, links.lookup n₁ = some l₁ → links.lookup n₂ = some l₂ → n₁ ≠ n₂ → key l₁ ≠ key l₂

/-- The index `idx` without the key of the link stored under `l.name`, where `l` has
another one. -/
def dropOld (links : AList fun _ : String => Link) (idx : AList fun _ : κ => Link) (l : Link) :
    AList fun _ : κ => Link :=
  match links.lookup l.name with
  | none => idx
  | some old => dropKey idx key old l

variable {key} {links : AList fun _ : String => Link} {idx : AList fun _ : κ => Link} {l : Link} {n : String}

omit [DecidableEq κ] in
theorem KeyAlone.ne (h : KeyAlone key links n) {m : String} {v w : Link} (hv : links.lookup n = some v)
    (hw : links.lookup m = some w) (hm : m ≠ n) : key w ≠ key v :=
  h v hv ⟨m, w⟩ (AList.mem_lookup_iff.mp hw) hm

omit [DecidableEq κ] in
theorem KeysDistinct.keyAlone (h : KeysDistinct key links) (n : String) : KeyAlone key links n :=
  fun v hv e he hne => h e.1 n e.2 v (AList.mem_lookup_iff.mpr he) hv hne

theorem lookup_dropOld_of_ne {k : κ}
    (hk : ∀ old, links.lookup l.name = some old → key old ≠ key l → k ≠ key old) :
    (dropOld key links idx l).lookup k = idx.lookup k := by
  unfold dropOld dropKey
  split
  · rfl
  · next old hold =>
    split_ifs with h
    · rfl
    · exact AList.lookup_erase_ne (hk old hold h)

theorem lookup_dropOld_old {old : Link} (hold : links.lookup l.name = some old) (hne : key old ≠ key l) :
    (dropOld key links idx l).lookup (key old) = none := by
  simp only [dropOld, hold, dropKey, if_neg hne, AList.lookup_erase]

theorem lookup_of_lookup_dropOld {k : κ} {v : Link} (h : (dropOld key links idx l).lookup k = some v) :
    idx.lookup k = some v := by
  unfold dropOld dropKey at h
  split at h
  · exact h
  · next old _ =>
    split_ifs at h
    · exact h
    · by_cases hk : k = key old
      · subst hk
        simp at h
      · rwa [AList.lookup_erase_ne hk] at h

/-- Storing `l` under its name, its old key dropped and `l` at its key, keeps an index sound. -/
theorem IndexSound.store (h : IndexSound key links idx) (l : Link) :
    IndexSound key (links.insert l.name l) ((dropOld key links idx l).insert (key l) l) := by
  intro k v hv
  by_cases hk : k = key l
  · subst hk
    obtain rfl : l = v := by simpa using hv
    exact ⟨AList.lookup_insert _, rfl⟩
  · rw [AList.lookup_insert_ne hk] at hv
    obtain ⟨hlv, rfl⟩ := h k v (lookup_of_lookup_dropOld hv)
    refine ⟨?_, rfl⟩
    by_cases hn : v.name = l.name
    · rw [hn] at hlv
      rw [lookup_dropOld_old hlv hk] at hv
      cases hv
    · rwa [AList.lookup_insert_ne hn]

/-- Removing a link and its key keeps an index sound. -/
theorem IndexSound.remove (h : IndexSound key links idx) {n : String} {old : Link}
    (hold : links.lookup n = some old) : IndexSound key (links.erase n) (idx.erase (key old)) := by
  intro k v hv
  have hk : k ≠ key old := by
    rintro rfl
    simp at hv
  rw [AList.lookup_erase_ne hk] at hv
  obtain ⟨hlv, rfl⟩ := h k v hv
  have hn : v.name ≠ n := by
    rintro rfl
    rw [hold] at hlv
    cases hlv
    exact hk rfl
  exact ⟨by rwa [AList.lookup_erase_ne hn], rfl⟩

/-- A link just stored is found at its key. -/
theorem indexFinds_insert_self : IndexFinds key (links.insert l.name l) (idx.insert (key l) l) l.name := by
  intro v hv
  obtain rfl : l = v := by simpa using hv
  exact AList.lookup_insert _

/-- Storing `l` keeps the link under `n` found when no link under another name shares its key
before and after, whatever the index does at the key of the link `l` replaces. -/
theorem IndexFinds.insert (h : IndexFinds key links idx n) (hd : KeyAlone key links n)
    (hd' : KeyAlone key (links.insert l.name l) n) {idx' : AList fun _ : κ => Link}
    (hidx : ∀ k, (∀ old, links.lookup l.name = some old → k ≠ key old) → idx'.lookup k = idx.lookup k) :
    IndexFinds key (links.insert l.name l) (idx'.insert (key l) l) n := by
  by_cases hn : n = l.name
  · subst hn
    exact indexFinds_insert_self
  intro v hv
  have hkey : key l ≠ key v := hd'.ne hv (AList.lookup_insert _) (Ne.symm hn)
  rw [AList.lookup_insert_ne hn] at hv
  rw [AList.lookup_insert_ne (Ne.symm hkey), hidx _ fun old hold => Ne.symm (hd.ne hv hold (Ne.symm hn)), h v hv]

/-- Removing a link and its key keeps the link under `n` found when no link under another
name shares its key. -/
theorem IndexFinds.remove (h : IndexFinds key links idx n) (hd : KeyAlone key links n) {m : String}
    {old : Link} (hold : links.lookup m = some old) : IndexFinds key (links.erase m) (idx.erase (key old)) n := by
  intro v hv
  have hm : m ≠ n := by
    rintro rfl
    simp at hv
  rw [AList.lookup_erase_ne (Ne.symm hm)] at hv
  rw [AList.lookup_erase_ne (hd.ne hv hold hm).symm, h v hv]

end Index

/-! ## The shape of every operation -/

/-- Storing `l` in place of the link under its name, as `updateLink` does: the keys of the
old link that `l` does not share are dropped, then `replaceLink`. -/
def store (s : Links) (l : Link) : Links :=
  match s.links.lookup l.name with
  | none => (s.replaceLink l).2
  | some old => ((s.dropStaleKeys old l).replaceLink l).2

@[simp] theorem store_links (s : Links) (l : Link) : (s.store l).links = s.links.insert l.name l := by
  unfold store
  split <;> simp

theorem store_endpoints (s : Links) (l : Link) :
    (s.store l).endpoints = (dropOld Link.host s.links s.endpoints l).insert l.host l := by
  unfold store dropOld
  split <;> simp [dropStaleKeys_eq, *]

theorem store_clusteraddr (s : Links) (l : Link) :
    (s.store l).clusteraddr = (dropOld Link.clusterKey s.links s.clusteraddr l).insert l.clusterKey l := by
  unfold store dropOld
  split <;> simp [dropStaleKeys_eq, *]

/-- `replaceLink` is `store` when `l` keeps the host and the cluster IP of the link it
replaces. -/
theorem replaceLink_eq_store {s : Links} {l : Link}
    (h : ∀ old, s.links.lookup l.name = some old → old.host = l.host ∧ old.clusterKey = l.clusterKey) :
    (s.replaceLink l).2 = s.store l := by
  unfold store
  split
  · rfl
  · next old hold =>
    obtain ⟨hh, hc⟩ := h old hold
    rw [dropStaleKeys_eq]
    simp [dropKey, hh, hc]

variable {lib : Library}

/-- Every operation, in a state that stores each link under its own name, is `store`, a
removal of a stored link, a raw `ReplaceLink`, or no change. -/
theorem step_cases {s : Links} (hn : NamesMatch s.links) (op : Op) :
    s.step lib op = s ∨ (∃ n old, s.links.lookup n = some old ∧ s.step lib op = s.removeLink n) ∨
      (∃ l, s.step lib op = s.store l) ∨ ∃ l, op = .replaceLink l ∧ s.step lib op = (s.replaceLink l).2 := by
  have hcopy : ∀ name (old : Link) fd, s.links.lookup name = some old →
      (s.replaceLink { old with linkForeignData := fd }).2 = s.store { old with linkForeignData := fd } :=
    fun name old fd hold => replaceLink_eq_store fun o ho => by
      rw [show old.name = name from hn name old hold, hold] at ho
      cases ho
      exact ⟨rfl, rfl⟩
  cases op with
  | updateLink klink =>
    rcases h : linkFor lib s.defaultport klink with err | l
    · exact .inl (by rw [step, updateLink_of_error h])
    · have hname := linkFor_name h
      simp only [step, updateLink_of_ok h]
      split
      · next hnone =>
        rw [← hname] at hnone
        exact .inr (.inr (.inl ⟨l, by simp only [store, hnone]⟩))
      · next old hold =>
        rw [← hname] at hold
        exact .inr (.inr (.inl ⟨{ l with linkForeignData := old.linkForeignData },
          by simp only [store, hold]; rfl⟩))
  | removeLink name =>
    rcases hold : s.links.lookup name with _ | old
    · exact .inl (by simp [step, removeLink, hold])
    · exact .inr (.inl ⟨name, old, hold, rfl⟩)
  | replaceLink link => exact .inr (.inr (.inr ⟨link, rfl, rfl⟩))
  | updateLinkInfo name access dns pending =>
    rcases updateLinkInfo_state s name access dns pending with ⟨-, h⟩ | ⟨old, fd, hold, -, h, -⟩
    · exact .inl h
    · exact .inr (.inr (.inl ⟨_, h.trans (hcopy name old fd hold)⟩))
  | linkInfoUpdated name access dns =>
    rcases linkInfoUpdated_state s name access dns with ⟨-, h⟩ | ⟨old, hold, -, h⟩
    · exact .inl h
    · exact .inr (.inr (.inl ⟨_, h.trans (hcopy name old _ hold)⟩))

/-! ## Soundness -/

/-- The indices agree with `links`: each entry is the link stored under its name, at that
link's key, and each link is stored under its own name. -/
structure Sound (s : Links) : Prop where
  names : NamesMatch s.links
  endpoints : IndexSound Link.host s.links s.endpoints
  clusteraddr : IndexSound Link.clusterKey s.links s.clusteraddr

/-- An operation other than `ReplaceLink`, or a `ReplaceLink(l)` that keeps the host and the
cluster IP of the link stored under `l.Name`. -/
def KeepsKeys (s : Links) : Op → Prop
  | .replaceLink l => ∀ old, s.links.lookup l.name = some old → old.host = l.host ∧ old.clusterKey = l.clusterKey
  | _ => True

theorem Sound.store {s : Links} (h : Sound s) (l : Link) : Sound (s.store l) where
  names := by simpa using h.names.insert l
  endpoints := by simpa [store_endpoints] using h.endpoints.store l
  clusteraddr := by simpa [store_clusteraddr] using h.clusteraddr.store l

theorem Sound.removeLink {s : Links} (h : Sound s) (n : String) : Sound (s.removeLink n) := by
  unfold Links.removeLink
  split
  · next old hold => exact ⟨h.names.erase n, h.endpoints.remove hold, h.clusteraddr.remove hold⟩
  · exact h

theorem Sound.step {s : Links} (h : Sound s) {op : Op} (hop : KeepsKeys s op) : Sound (s.step lib op) := by
  rcases step_cases h.names op with hs | ⟨n, -, -, hs⟩ | ⟨l, hs⟩ | ⟨l, rfl, hs⟩ <;> rw [hs]
  · exact h
  · exact h.removeLink n
  · exact h.store l
  · rw [replaceLink_eq_store hop]
    exact h.store l

theorem Sound.run {s : Links} (h : Sound s) {ops : List Op} (hops : EveryStep lib KeepsKeys s ops) :
    Sound (s.run lib ops) := by
  induction ops generalizing s with
  | nil => exact h
  | cons op ops ih => exact ih (h.step hops.1) hops.2

/-! ## Completeness -/

/-- `GetLinkForClusterAddress` and `GetLinkForEndpoint` find every stored link. -/
structure Complete (s : Links) : Prop where
  clusteraddr : ∀ n l, s.links.lookup n = some l → s.getLinkForClusterAddress l.clusterAddress.ip = some l
  endpoints : ∀ n l, s.links.lookup n = some l → s.getLinkForEndpoint l.host = some l

/-- No two links stored under different names have the same host or `IP.Equal` cluster IPs. -/
structure CollisionFree (s : Links) : Prop where
  hosts : KeysDistinct Link.host s.links
  clusterIPs : ∀ n₁ n₂ l₁ l₂, s.links.lookup n₁ = some l₁ → s.links.lookup n₂ = some l₂ → n₁ ≠ n₂ →
    l₁.clusterAddress.ip.equal l₂.clusterAddress.ip = false

theorem CollisionFree.clusterKeys {s : Links} (h : CollisionFree s) : KeysDistinct Link.clusterKey s.links :=
  fun n₁ n₂ l₁ l₂ h₁ h₂ hn heq => by
    have := h.clusterIPs n₁ n₂ l₁ l₂ h₁ h₂ hn
    rw [(string_eq_iff_equal _ _).mp heq] at this
    cases this

/-! ## Completeness, link by link -/

/-- One of the two indices of the registry: its key, and what each shape of operation does to
it. -/
structure RegistryIndex (κ : Type) [DecidableEq κ] where
  key : Link → κ
  get : Links → AList fun _ : κ => Link
  get_store : ∀ s l, get (s.store l) = (dropOld key s.links (get s) l).insert (key l) l
  get_replaceLink : ∀ s l, get (s.replaceLink l).2 = (get s).insert (key l) l
  get_removeLink : ∀ s n old, s.links.lookup n = some old → get (s.removeLink n) = (get s).erase (key old)

/-- `endpoints`, keyed by the host. -/
def hostIndex : RegistryIndex String where
  key := Link.host
  get := Links.endpoints
  get_store := store_endpoints
  get_replaceLink := replaceLink_endpoints
  get_removeLink _ _ _ h := by simp [removeLink, h]

/-- `clusteraddr`, keyed by the text of the cluster IP. -/
def clusterIndex : RegistryIndex IP where
  key := Link.clusterKey
  get := Links.clusteraddr
  get_store := store_clusteraddr
  get_replaceLink := replaceLink_clusteraddr
  get_removeLink _ _ _ h := by simp [removeLink, h]

/-- The operation stores a link under `n`, which it does by `replaceLink`: an `UpdateLink` of
a `KubeLink` named `n` that `LinkFor` accepts, a `ReplaceLink` of a link named `n`, an
`UpdateLinkInfo` of `n` that reports a change, or a `LinkInfoUpdated` of `n` that confirms a
value. -/
def Stores (lib : Library) (n : String) (s : Links) : Op → Prop
  | .updateLink klink => klink.name = n ∧ (linkFor lib s.defaultport klink).isOk = true
  | .removeLink _ => False
  | .replaceLink l => l.name = n
  | .updateLinkInfo m access dns pending => m = n ∧ (s.updateLinkInfo m access dns pending).2.1 = true
  | .linkInfoUpdated m access dns => m = n ∧ Confirms s m access dns

/-- An operation that stores a link under `n` ends with `replaceLink` of a link named `n`. -/
theorem step_of_stores {s : Links} (hn : NamesMatch s.links) {n : String} {op : Op} (h : Stores lib n s op) :
    ∃ (t : Links) (l : Link), s.step lib op = (t.replaceLink l).2 ∧ l.name = n := by
  cases op with
  | updateLink klink =>
    obtain ⟨rfl, hok⟩ := h
    rcases hl : linkFor lib s.defaultport klink with err | l
    · rw [hl] at hok
      cases hok
    · have hname := linkFor_name hl
      rw [step, updateLink_of_ok hl]
      split
      · exact ⟨s, l, rfl, hname⟩
      · exact ⟨_, _, rfl, hname⟩
  | removeLink _ => exact h.elim
  | replaceLink l => exact ⟨s, l, rfl, h⟩
  | updateLinkInfo m access dns pending =>
    obtain ⟨rfl, hch⟩ := h
    rcases updateLinkInfo_state s m access dns pending with ⟨hf, -⟩ | ⟨old, fd, hold, -, hs, -⟩
    · exact absurd (hf.symm.trans hch) Bool.false_ne_true
    · exact ⟨s, _, hs, hn _ old hold⟩
  | linkInfoUpdated m access dns =>
    obtain ⟨rfl, hc⟩ := h
    rcases linkInfoUpdated_state s m access dns with ⟨hnc, -⟩ | ⟨old, hold, -, hs⟩
    · exact absurd hc hnc
    · exact ⟨s, _, hs, hn _ old hold⟩

section Finds

variable {κ : Type} [DecidableEq κ] (ix : RegistryIndex κ) {n : String}

/-- The index finds the link stored under `n`. -/
def Finds (n : String) (s : Links) : Prop := IndexFinds ix.key s.links (ix.get s) n

/-- No link stored under another name shares the key of the link stored under `n`. -/
def Alone (n : String) (s : Links) : Prop := KeyAlone ix.key s.links n

/-- Every operation that stores a link under `n` leaves it found. -/
theorem finds_of_stores {s : Links} (hn : NamesMatch s.links) {op : Op} (h : Stores lib n s op) :
    Finds ix n (s.step lib op) := by
  obtain ⟨t, l, hs, rfl⟩ := step_of_stores hn h
  rw [hs, Finds, ix.get_replaceLink, replaceLink_links]
  exact indexFinds_insert_self

/-- A step keeps the link under `n` found when no link under another name shares its key
before and after the step. -/
theorem Finds.step {s : Links} (hn : NamesMatch s.links) (h : Finds ix n s) (hd : Alone ix n s) {op : Op}
    (hd' : Alone ix n (s.step lib op)) : Finds ix n (s.step lib op) := by
  rcases step_cases hn op with hs | ⟨m, old, hold, hs⟩ | ⟨l, hs⟩ | ⟨l, -, hs⟩ <;> rw [hs] at hd' ⊢
  · exact h
  · -- a removal: the key it drops is another link's
    have hlinks : (s.removeLink m).links = s.links.erase m := by simp [removeLink, hold]
    rw [Finds, ix.get_removeLink s m old hold, hlinks]
    exact h.remove hd hold
  · -- the cleanup of `updateLink`, then `replaceLink`
    rw [Alone, store_links] at hd'
    rw [Finds, ix.get_store, store_links]
    exact h.insert hd hd' fun _ hk => lookup_dropOld_of_ne fun old hold _ => hk old hold
  · -- a raw `ReplaceLink`
    rw [Alone, replaceLink_links] at hd'
    rw [Finds, ix.get_replaceLink, replaceLink_links]
    exact h.insert hd hd' fun _ _ => rfl

/-- Along a run in which no link under another name ever shares the key of the link under
`n`, the link under `n` stays found. -/
theorem Finds.run {s : Links} (hn : NamesMatch s.links) (h : Finds ix n s) {ops : List Op}
    (hops : Always lib (Alone ix n) s ops) : Finds ix n (s.run lib ops) := by
  induction ops generalizing s with
  | nil => exact h
  | cons op ops ih => exact ih (namesMatch_step hn op) (h.step ix hn hops.1 hops.2.head) hops.2

end Finds

/-- No link stored under another name than `n` has the host of the link stored under `n`. -/
def HostAlone (n : String) (s : Links) : Prop :=
  ∀ l ∈ s.links.lookup n, ∀ e ∈ s.links.entries, e.1 ≠ n → e.2.host ≠ l.host

/-- No link stored under another name than `n` has a cluster IP `IP.Equal` to that of the link
stored under `n`. -/
def ClusterIPAlone (n : String) (s : Links) : Prop :=
  ∀ l ∈ s.links.lookup n, ∀ e ∈ s.links.entries, e.1 ≠ n → e.2.clusterAddress.ip.equal l.clusterAddress.ip = false

instance (n : String) (s : Links) : Decidable (HostAlone n s) :=
  inferInstanceAs (Decidable (∀ l ∈ s.links.lookup n, ∀ e ∈ s.links.entries, e.1 ≠ n → e.2.host ≠ l.host))

instance (n : String) (s : Links) : Decidable (ClusterIPAlone n s) :=
  inferInstanceAs (Decidable (∀ l ∈ s.links.lookup n, ∀ e ∈ s.links.entries, e.1 ≠ n →
    e.2.clusterAddress.ip.equal l.clusterAddress.ip = false))

/-- Cluster IPs that are not `IP.Equal` have different texts. -/
theorem ClusterIPAlone.alone {n : String} {s : Links} (h : ClusterIPAlone n s) : Alone clusterIndex n s :=
  fun l hl e he hne heq => Bool.false_ne_true ((h l hl e he hne).symm.trans ((string_eq_iff_equal _ _).mp heq))

theorem Complete.run {s : Links} (h : Complete s) (hn : NamesMatch s.links) {ops : List Op}
    (hops : Always lib CollisionFree s ops) : Complete (s.run lib ops) where
  clusteraddr n := Finds.run clusterIndex hn (h.clusteraddr n) (hops.imp fun _ hf => hf.clusterKeys.keyAlone n)
  endpoints n := Finds.run hostIndex hn (h.endpoints n) (hops.imp fun _ hf => hf.hosts.keyAlone n)

/-! ## The registry from `NewLinks` -/

theorem sound_newLinks (defaultport : Int) : Sound (newLinks defaultport) :=
  ⟨namesMatch_newLinks defaultport, fun _ _ h => by simp [newLinks] at h, fun _ _ h => by simp [newLinks] at h⟩

theorem complete_newLinks (defaultport : Int) : Complete (newLinks defaultport) :=
  ⟨fun _ _ h => by simp [newLinks] at h, fun _ _ h => by simp [newLinks] at h⟩

theorem collisionFree_newLinks (defaultport : Int) : CollisionFree (newLinks defaultport) :=
  ⟨fun _ _ _ _ h => by simp [newLinks] at h, fun _ _ _ _ h => by simp [newLinks] at h⟩

/-- The registry holding `policyLink` alone. -/
def policyRegistry : Links := (newLinks 80).run Library.ipv4 [.replaceLink policyLink]

theorem lookup_policyRegistry {n : String} {l : Link} (h : policyRegistry.links.lookup n = some l) :
    n = policyLink.name ∧ l = policyLink := by
  have hs : policyRegistry.links = (∅ : AList fun _ : String => Link).insert policyLink.name policyLink := rfl
  rw [hs] at h
  by_cases hn : n = policyLink.name
  · subst hn
    rw [AList.lookup_insert] at h
    exact ⟨rfl, (Option.some.inj h).symm⟩
  · rw [AList.lookup_insert_ne hn] at h
    cases h

theorem sound_policyRegistry : Sound policyRegistry :=
  (sound_newLinks 80).run (by simp [EveryStep, KeepsKeys, newLinks])

theorem collisionFree_policyRegistry : CollisionFree policyRegistry :=
  have hone : ∀ n₁ n₂ l₁ l₂, policyRegistry.links.lookup n₁ = some l₁ → policyRegistry.links.lookup n₂ = some l₂ →
      n₁ = n₂ := fun _ _ _ _ h₁ h₂ => (lookup_policyRegistry h₁).1.trans (lookup_policyRegistry h₂).1.symm
  ⟨fun _ _ _ _ h₁ h₂ hn => absurd (hone _ _ _ _ h₁ h₂) hn, fun _ _ _ _ h₁ h₂ hn => absurd (hone _ _ _ _ h₁ h₂) hn⟩

theorem complete_policyRegistry : Complete policyRegistry :=
  (complete_newLinks 80).run (namesMatch_newLinks 80) ⟨collisionFree_newLinks 80, collisionFree_policyRegistry⟩

/-! ## Collisions -/

/-- `UpdateLink` checks no collision. In every state it fails, changing nothing, exactly when
`LinkFor` fails. Otherwise it stores the link of `LinkFor`, with the foreign data of the link
stored under that name before, and `GetLinkForEndpoint` and `GetLinkForClusterAddress` return
it for its host and cluster IP, whatever links under other names have them. -/
theorem updateLink_admits (lib : Library) (s : Links) (klink : KubeLink) :
    match linkFor lib s.defaultport klink with
    | .error err => s.updateLink lib klink = (.error err, s)
    | .ok l =>
      let l' := match s.getLink klink.name with
        | none => l
        | some old => { l with linkForeignData := old.linkForeignData }
      (s.updateLink lib klink).1 = .ok l' ∧ (s.updateLink lib klink).2.getLink klink.name = some l' ∧
        (s.updateLink lib klink).2.getLinkForEndpoint l.host = some l' ∧
        (s.updateLink lib klink).2.getLinkForClusterAddress l.clusterAddress.ip = some l' := by
  rcases h : linkFor lib s.defaultport klink with err | l
  · exact updateLink_of_error h
  · have hname := linkFor_name h
    simp only [updateLink_of_ok h, getLink, getLinkForEndpoint, getLinkForClusterAddress]
    rcases hold : s.links.lookup klink.name with _ | old <;> simp [hname, Link.clusterKey]

/-- Two `KubeLink`s under the names `a` and `b` with the same endpoint host and cluster
address are both stored by `UpdateLink`. -/
theorem updateLink_accepts_collision :
    let s := (newLinks 80).run Library.ipv4
      [.updateLink (peerLink "a" "peer"), .updateLink (peerLink "b" "peer")]
    ((s.getLink "a").bind fun a => (s.getLink "b").map fun b =>
      (a.host == b.host, a.clusterAddress.ip.equal b.clusterAddress.ip)) = some (true, true) := by
  decide

/-- Along the runs from `NewLinks`, the indices agree with `links` as far as the operations
let them. Every index entry is the link stored under its name, at that link's key, when every
`ReplaceLink(l)` of the run keeps the host and the cluster IP of the link stored under
`l.Name`. And a link is found by its host (by its cluster IP) when, since an operation of the
run last stored a link under its name, no state held a link under another name with that host
(with an `IP.Equal` cluster IP), whatever collisions came before. -/
theorem indices_agree (lib : Library) (defaultport : Int) (ops : List Op) :
    (EveryStep lib KeepsKeys (newLinks defaultport) ops → Sound ((newLinks defaultport).run lib ops)) ∧
    ∀ n pre op post, ops = pre ++ op :: post → Stores lib n ((newLinks defaultport).run lib pre) op →
      (Always lib (HostAlone n) (((newLinks defaultport).run lib pre).step lib op) post →
        ∀ l, ((newLinks defaultport).run lib ops).links.lookup n = some l →
          ((newLinks defaultport).run lib ops).getLinkForEndpoint l.host = some l) ∧
      (Always lib (ClusterIPAlone n) (((newLinks defaultport).run lib pre).step lib op) post →
        ∀ l, ((newLinks defaultport).run lib ops).links.lookup n = some l →
          ((newLinks defaultport).run lib ops).getLinkForClusterAddress l.clusterAddress.ip = some l) := by
  refine ⟨(sound_newLinks defaultport).run, fun n pre op post hops hst => ?_⟩
  subst hops
  have hn : NamesMatch ((newLinks defaultport).run lib pre).links := namesMatch_run (namesMatch_newLinks _) pre
  rw [run_append, run_cons]
  exact ⟨fun hal => (finds_of_stores hostIndex hn hst).run hostIndex (namesMatch_step hn op) hal,
    fun hal => (finds_of_stores clusterIndex hn hst).run clusterIndex (namesMatch_step hn op)
      (hal.imp fun _ h => h.alone)⟩

/-- `a`, then `c` and `d`, which share a host and a cluster IP with each other but not with
`a`, then `d` removed: both getters still find `a`, though the removal of `d` dropped the
entries of `c`. -/
theorem indices_agree_collision :
    let c : KubeLink := ⟨"c", ⟨"", "192.168.0.13/24", "peer", [], [], ""⟩, ⟨"10.0.0.1"⟩⟩
    let op : Op := .updateLink (peerLink "a" "peer-a")
    let post : List Op := [.updateLink c, .updateLink { c with name := "d" }, .removeLink "d"]
    let s := (newLinks 80).run Library.ipv4 ([] ++ op :: post)
    Stores Library.ipv4 "a" ((newLinks 80).run Library.ipv4 []) op ∧
      Always Library.ipv4 (HostAlone "a") (((newLinks 80).run Library.ipv4 []).step Library.ipv4 op) post ∧
      Always Library.ipv4 (ClusterIPAlone "a") (((newLinks 80).run Library.ipv4 []).step Library.ipv4 op) post ∧
      (∀ l, s.links.lookup "a" = some l → s.getLinkForEndpoint l.host = some l) ∧
      (∀ l, s.links.lookup "a" = some l → s.getLinkForClusterAddress l.clusterAddress.ip = some l) := by
  intro c op post s
  have hst : Stores Library.ipv4 "a" ((newLinks 80).run Library.ipv4 []) op := ⟨rfl, by decide⟩
  have hh : Always Library.ipv4 (HostAlone "a") (((newLinks 80).run Library.ipv4 []).step Library.ipv4 op) post := by
    decide
  have hc : Always Library.ipv4 (ClusterIPAlone "a") (((newLinks 80).run Library.ipv4 []).step Library.ipv4 op)
      post := by
    decide
  have hagree := (indices_agree Library.ipv4 80 ([] ++ op :: post)).2 "a" [] op post rfl hst
  exact ⟨hst, hh, hc, hagree.1 hh, hagree.2 hc⟩

/-- Both parts fail on other runs. Once `a` and `b` collide after `a` was stored and `b` is
removed, `a` is the only link, and neither `GetLinkForEndpoint` nor `GetLinkForClusterAddress`
finds it. A `ReplaceLink` that moves `a` to the host `other` leaves the entry of the old `a`
under `peer`. -/
theorem indices_drift :
    let s := (newLinks 80).run Library.ipv4
      [.updateLink (peerLink "a" "peer"), .updateLink (peerLink "b" "peer"), .removeLink "b"]
    let s' := (newLinks 80).run Library.ipv4
      [.updateLink (peerLink "a" "peer"), .replaceLink ⟨"a", none, ⟨none⟩, none,
        ⟨IP.ipv4 192 168 0 12, [255, 255, 255, 0]⟩, IP.ipv4 10 0 0 1, "other", 80, "other:80", none, .zero⟩]
    (s.links.keys = ["a"] ∧ (s.getLink "a").map (·.host) = some "peer" ∧
      s.getLinkForEndpoint "peer" = none ∧ s.getLinkForClusterAddress (IP.ipv4 192 168 0 12) = none) ∧
    ((s'.getLinkForEndpoint "peer").map fun l => (l.name, l.host)) = some ("a", "peer") ∧
      (s'.getLink "a").map (·.host) = some "other" := by
  decide

end Links

end Kubelink
