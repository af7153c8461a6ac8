import Kubelink.Registry.Links

/-!
# Staging the foreign data of a link

A peer's access info and DNS info are staged in two phases: `UpdateLinkInfo(…, pending =
true)` stores a new value and sets `UpdatePending`; while the flag is set, calls that are not
pending are ignored; `LinkInfoUpdated` clears the flag when the peer echoes a stored value.
The flag is shared by the two values, and `LinkInfoUpdated` clears it on an echo of either
one, even of a value that never changed.

Results:
* `staging_protected`: `UpdateLink` keeps the foreign data of a stored link; and after a
  pending `UpdateLinkInfo` that changed the foreign data of `n`, a call that is not pending
  changes nothing, as long as no operation in between removed or replaced `n` or confirmed
  one of its values (`KeepsStaged`).
* `staging_released_by_echo`: the echo of the unchanged DNS info releases a staged access
  value, which a later call that is not pending then overwrites.
-/

namespace Kubelink

namespace Links

/-- The foreign data of the link stored under `n`. -/
def infoOf (s : Links) (n : String) : Option LinkForeignData := (s.links.lookup n).map (·.linkForeignData)

/-- The link stored under `n` waits for the peer's confirmation. -/
def Locked (s : Links) (n : String) : Prop :=
  ∃ l, s.links.lookup n = some l ∧ l.linkForeignData.updatePending = true

/-- An operation that neither removes nor replaces the link `n`, nor confirms one of its
values. -/
def KeepsStaged (n : String) (s : Links) : Op → Prop
  | .removeLink m => m ≠ n
  | .replaceLink l => l.name ≠ n
  | .linkInfoUpdated m access dns => m = n → ¬Confirms s n access dns
  | _ => True

variable {lib : Library} {n : String}

theorem lookup_replaceLink_ne {s : Links} {l : Link} (h : l.name ≠ n) :
    (s.replaceLink l).2.links.lookup n = s.links.lookup n := by
  simp [AList.lookup_insert_ne (Ne.symm h)]

/-- `UpdateLink` keeps the foreign data of a stored link, whatever link it stores. -/
theorem updateLink_keeps_info (s : Links) (klink : KubeLink) {old : Link}
    (hold : s.links.lookup n = some old) :
    ((s.updateLink lib klink).2.links.lookup n).map (·.linkForeignData) = some old.linkForeignData := by
  rcases h : linkFor lib s.defaultport klink with err | l
  · simp [updateLink_of_error h, hold]
  · have hname := linkFor_name h
    simp only [updateLink_of_ok h]
    by_cases hn : klink.name = n
    · subst hn
      simp [hold, hname]
    · split <;> simp [AList.lookup_insert_ne (Ne.symm (hname ▸ hn)), hold]

/-- A copy of a stored link under another name leaves the link `n` alone. -/
theorem lookup_copy_ne {s : Links} (hn : NamesMatch s.links) {m : String} {old : Link}
    (hold : s.links.lookup m = some old) (hm : m ≠ n) (fd : LinkForeignData) :
    (s.replaceLink { old with linkForeignData := fd }).2.links.lookup n = s.links.lookup n :=
  lookup_replaceLink_ne (by rw [show old.name = m from hn m old hold]; exact hm)

/-- While `n` is locked, every operation that keeps what is staged keeps it locked. -/
theorem locked_step {s : Links} (hn : NamesMatch s.links) (h : Locked s n) {op : Op}
    (hop : KeepsStaged n s op) : Locked (s.step lib op) n := by
  obtain ⟨l, hl, hp⟩ := h
  cases op with
  | updateLink klink =>
    have : ((s.updateLink lib klink).2.links.lookup n).map (·.linkForeignData) = some l.linkForeignData :=
      updateLink_keeps_info s klink hl
    obtain ⟨l', hl', hfd⟩ := Option.map_eq_some'.mp this
    exact ⟨l', hl', hfd ▸ hp⟩
  | removeLink m =>
    simp only [step, removeLink]
    split
    · exact ⟨l, by rwa [AList.lookup_erase_ne (Ne.symm hop)], hp⟩
    · exact ⟨l, hl, hp⟩
  | replaceLink l' => exact ⟨l, by simpa [step, AList.lookup_insert_ne (Ne.symm hop)] using hl, hp⟩
  | updateLinkInfo m access dns pending =>
    rcases updateLinkInfo_state s m access dns pending with ⟨-, hs⟩ | ⟨old, fd, hold, -, hs, hfd⟩
    · exact ⟨l, by rw [step, hs]; exact hl, hp⟩
    · by_cases hm : m = n
      · subst hm
        cases pending
        · exact ⟨l, by rw [step, updateLinkInfo_of_pending hl hp]; exact hl, hp⟩
        · rw [hold] at hl
          cases hl
          refine ⟨{ l with linkForeignData := fd }, ?_, hfd⟩
          rw [step, hs, replaceLink_links, show l.name = m from hn m l hold]
          exact AList.lookup_insert _
      · exact ⟨l, by rw [step, hs, lookup_copy_ne hn hold hm]; exact hl, hp⟩
  | linkInfoUpdated m access dns =>
    rcases linkInfoUpdated_state s m access dns with ⟨-, hs⟩ | ⟨old, hold, hconf, hs⟩
    · exact ⟨l, by rw [step, hs]; exact hl, hp⟩
    · by_cases hm : m = n
      · exact absurd (hm ▸ hconf) (hop hm)
      · exact ⟨l, by rw [step, hs, lookup_copy_ne hn hold hm]; exact hl, hp⟩

theorem locked_run {s : Links} (hn : NamesMatch s.links) (h : Locked s n) {ops : List Op}
    (hops : EveryStep lib (KeepsStaged n) s ops) : Locked (s.run lib ops) n := by
  induction ops generalizing s with
  | nil => exact h
  | cons op ops ih => exact ih (namesMatch_step hn op) (locked_step hn h hops.1) hops.2

/-- A pending call of `UpdateLinkInfo` that changes the foreign data of `n` locks it. -/
theorem locked_of_staged {s : Links} (hn : NamesMatch s.links) {access : Option LinkAccessInfo}
    {dns : Option LinkDNSInfo} (h : infoOf (s.step lib (.updateLinkInfo n access dns true)) n ≠ infoOf s n) :
    Locked (s.step lib (.updateLinkInfo n access dns true)) n := by
  rcases updateLinkInfo_state s n access dns true with ⟨-, hs⟩ | ⟨old, fd, hold, -, hs, hfd⟩
  · exact absurd (by rw [step, hs]) h
  · refine ⟨{ old with linkForeignData := fd }, ?_, hfd⟩
    rw [step, hs, replaceLink_links, show old.name = n from hn n old hold]
    exact AList.lookup_insert _

/-- The staging protocol, as far as the shared flag keeps it. `UpdateLink` keeps the foreign
data (access info, DNS info and `UpdatePending`) of a stored link. After a pending
`UpdateLinkInfo` that changed the foreign data of `n`, in any state reachable from
`NewLinks`, a call of `UpdateLinkInfo` that is not pending changes nothing, as long as no
operation in between removed `n`, replaced it with `ReplaceLink`, or was a `LinkInfoUpdated`
echoing the stored access info or the stored DNS info of `n`. -/
theorem staging_protected (lib : Library) (defaultport : Int) (n : String) :
    (∀ (s : Links) (klink : KubeLink) (old : Link), s.links.lookup n = some old →
      ((s.updateLink lib klink).2.links.lookup n).map (·.linkForeignData) = some old.linkForeignData) ∧
    ∀ pre access dns mid access' dns',
      let s₁ := (newLinks defaultport).run lib pre
      let s₂ := s₁.step lib (.updateLinkInfo n access dns true)
      infoOf s₂ n ≠ infoOf s₁ n → EveryStep lib (KeepsStaged n) s₂ mid →
        (s₂.run lib mid).step lib (.updateLinkInfo n access' dns' false) = s₂.run lib mid := by
  refine ⟨fun s klink _ hold => updateLink_keeps_info s klink hold, ?_⟩
  intro pre access dns mid access' dns' s₁ s₂ hchanged hmid
  have hn₁ : NamesMatch s₁.links := namesMatch_run (namesMatch_newLinks defaultport) pre
  have hn₂ : NamesMatch s₂.links := namesMatch_step hn₁ _
  obtain ⟨l, hl, hp⟩ := locked_run hn₂ (locked_of_staged hn₁ hchanged) hmid
  exact updateLinkInfo_of_pending hl hp access' dns'

/-- `a` stages the access info `ca1`; then an `UpdateLink` moves `a` to another endpoint, a
call that is not pending offers `ca3`, and another name is removed; a last call that is not
pending, offering `ca2`, changes nothing. -/
theorem staging_protected_staged :
    let pre : List Op := [.updateLink (peerLink "a" "peer")]
    let mid : List Op := [.updateLink (peerLink "a" "other"), .updateLinkInfo "a" (some ⟨"ca3", "t3"⟩) none false,
      .removeLink "b"]
    let s₁ := (newLinks 80).run Library.ipv4 pre
    let s₂ := s₁.step Library.ipv4 (.updateLinkInfo "a" (some ⟨"ca1", "t1"⟩) none true)
    infoOf s₂ "a" ≠ infoOf s₁ "a" ∧ EveryStep Library.ipv4 (KeepsStaged "a") s₂ mid ∧
      (s₂.run Library.ipv4 mid).step Library.ipv4 (.updateLinkInfo "a" (some ⟨"ca2", "t2"⟩) none false) =
        s₂.run Library.ipv4 mid := by
  intro pre mid s₁ s₂
  have hchanged : infoOf s₂ "a" ≠ infoOf s₁ "a" := by decide
  have hmid : EveryStep Library.ipv4 (KeepsStaged "a") s₂ mid := ⟨trivial, trivial, show "b" ≠ "a" by decide, trivial⟩
  exact ⟨hchanged, hmid, (staging_protected Library.ipv4 80 "a").2 pre _ none mid _ none hchanged hmid⟩

/-- The shared flag releases a staged value without its confirmation: `a` stages the access
info `ca1` as pending, the peer echoes the DNS info, which never changed, and this releases the
flag, so a call that is not pending replaces `ca1` by `ca2`, with no confirmation of `ca1` in
between. -/
theorem staging_released_by_echo :
    let s := (newLinks 80).run Library.ipv4 [.updateLink (peerLink "a" "peer"),
      .updateLinkInfo "a" (some ⟨"ca1", "t1"⟩) none true, .linkInfoUpdated "a" none (some ⟨"", []⟩)]
    (s.getLink "a").map (·.linkForeignData.linkAccessInfo) = some ⟨"ca1", "t1"⟩ ∧
      ((s.step Library.ipv4 (.updateLinkInfo "a" (some ⟨"ca2", "t2"⟩) none false)).getLink "a").map
        (·.linkForeignData.linkAccessInfo) = some ⟨"ca2", "t2"⟩ := by
  decide

end Links

end Kubelink
