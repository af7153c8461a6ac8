import Kubelink.Registry.LinkFor

/-!
# The link registry `Links`

`Links` holds the declared links under three keys: the link's name (`links`), the host of
its endpoint (`endpoints`) and the text of its cluster IP (`clusteraddr`). Go's maps are
`AList`s here: an assignment is `insert`, `delete` is `erase`. The maps hold pointers to
links that are never written once stored (`LinkInfoUpdated` and `UpdateLinkInfo` store a
modified copy), so the model stores the links themselves. The registry's lock serialises
the operations, and a run is a sequence of `step`s.

The two blocks of `LinkInfoUpdated`, one for the access info and one for the DNS info, are
one definition `confirmInfo`; those of `UpdateLinkInfo` are `stageInfo`.

Results:
* `setup_lookup`: with a logger, `Setup` stores under each name the link of the last listed
  `KubeLink` of that name that `LinkFor` accepts, with the foreign data the name had, and
  skips the `KubeLink`s that `LinkFor` refuses. Its loop calls `Infof` unguarded, so on a
  nil logger it panics after the first `updateLink` (`setupLoop`).
* `updateLink_of_ok`, `updateLink_of_error`: `UpdateLink` stores what `LinkFor` returns, with
  the foreign data of the link it replaces, after dropping the index keys that the new link
  no longer has; it changes nothing when `LinkFor` fails. `updateLink_updateLink`: a
  `KubeLink` delivered twice leaves the registry as one delivery does.
* `updateLinkInfo_state`, `linkInfoUpdated_state`: the two info operations either change
  nothing (reporting no change, or confirming no value) or store a copy of the stored link
  with other foreign data.
* `registerLink_fails`: `RegisterLink` never registers a link. The `KubeLink` it creates has
  no status, and `LinkFor` refuses a link without a gateway, if no earlier check refuses it.
-/

namespace Kubelink

/-- The key of a link in `clusteraddr`: `ClusterAddress.IP.String()`. -/
def Link.clusterKey (l : Link) : IP := l.clusterAddress.ip.string

/-- `Links`, without the lock and the resource interface. -/
structure Links where
  initialized : Bool
  defaultport : Int
  links : AList fun _ : String => Link
  endpoints : AList fun _ : String => Link
  clusteraddr : AList fun _ : IP => Link

/-- `NewLinks(resc, defaultport)`. -/
def newLinks (defaultport : Int) : Links := ⟨false, defaultport, ∅, ∅, ∅⟩

namespace Links

/-- `replaceLink(link)`: store the link under its name, its host and its cluster IP. -/
def replaceLink (s : Links) (link : Link) : Link × Links :=
  (link, { s with
    links := s.links.insert link.name link
    endpoints := s.endpoints.insert link.host link
    clusteraddr := s.clusteraddr.insert link.clusterKey link })

/-- The cleanup of `updateLink` before it stores `l` in place of `old`: the host and the
cluster IP of `old` are dropped from the indices where `l` has others. -/
def dropStaleKeys (s : Links) (old l : Link) : Links :=
  let s := if old.host ≠ l.host then { s with endpoints := s.endpoints.erase old.host } else s
  if !old.clusterAddress.ip.equal l.clusterAddress.ip then
    { s with clusteraddr := s.clusteraddr.erase old.clusterKey }
  else s

/-- `updateLink(klink)`: the link of `LinkFor`, keeping the foreign data of the link it
replaces. A failing `LinkFor` leaves the registry alone. -/
def updateLink (lib : Library) (s : Links) (klink : KubeLink) : Except LinkForError Link × Links :=
  match linkFor lib s.defaultport klink with
  | .error err => (.error err, s)
  | .ok l =>
    match s.links.lookup klink.name with
    | none =>
      let (l, s) := s.replaceLink l
      (.ok l, s)
    | some old =>
      let (l, s) := (s.dropStaleKeys old l).replaceLink { l with linkForeignData := old.linkForeignData }
      (.ok l, s)

/-- `RemoveLink(name)`. -/
def removeLink (s : Links) (name : String) : Links :=
  match s.links.lookup name with
  | some l =>
    { s with
      links := s.links.erase name
      endpoints := s.endpoints.erase l.host
      clusteraddr := s.clusteraddr.erase l.clusterKey }
  | none => s

/-- One block of `LinkInfoUpdated`, for the field `get`: an advertised value equal to the
stored one confirms it and clears `UpdatePending` of `new`; otherwise the value is dropped
(`nil`). -/
def confirmInfo {α : Type} (equal : α → α → Bool) (get : LinkForeignData → α)
    (old : LinkForeignData) (x : Option α) (new : LinkForeignData) : LinkForeignData × Option α :=
  match x with
  | some v => if equal (get old) v then ({ new with updatePending := false }, some v) else (new, none)
  | none => (new, none)

/-- `LinkInfoUpdated(name, access, dns)`: the peer confirms the values it received. -/
def linkInfoUpdated (s : Links) (name : String) (access : Option LinkAccessInfo)
    (dns : Option LinkDNSInfo) : Option Link × Links :=
  match s.links.lookup name with
  | none => (none, s)
  | some old =>
    let (fd, access) := confirmInfo LinkAccessInfo.equal (·.linkAccessInfo) old.linkForeignData access
      old.linkForeignData
    let (fd, dns) := confirmInfo LinkDNSInfo.equal (·.linkDNSInfo) old.linkForeignData dns fd
    if access.isSome || dns.isSome then
      let (l, s) := s.replaceLink { old with linkForeignData := fd }
      (some l, s)
    else (some old, s)

/-- One block of `UpdateLinkInfo`, for the field `get` written by `set`: a value other than
the stored one is staged in `new` when no update is pending or the call is itself pending,
and `UpdatePending` becomes `pending`; otherwise the value is dropped (`nil`). -/
def stageInfo {α : Type} (equal : α → α → Bool) (get : LinkForeignData → α)
    (set : LinkForeignData → α → LinkForeignData) (old : LinkForeignData) (x : Option α)
    (pending : Bool) (new : LinkForeignData) : LinkForeignData × Option α :=
  match x with
  | some v =>
    if !equal (get old) v then
      if !old.updatePending || pending then ({ set new v with updatePending := pending }, some v)
      else (new, none)
    else (new, none)
  | none => (new, none)

/-- `UpdateLinkInfo(name, access, dns, pending)`: the link and whether it changed. -/
def updateLinkInfo (s : Links) (name : String) (access : Option LinkAccessInfo)
    (dns : Option LinkDNSInfo) (pending : Bool) : Option Link × Bool × Links :=
  match s.links.lookup name with
  | none => (none, false, s)
  | some old =>
    let (fd, access) := stageInfo LinkAccessInfo.equal (·.linkAccessInfo)
      (fun d a => { d with linkAccessInfo := a }) old.linkForeignData access pending old.linkForeignData
    let (fd, dns) := stageInfo LinkDNSInfo.equal (·.linkDNSInfo)
      (fun d v => { d with linkDNSInfo := v }) old.linkForeignData dns pending fd
    if access.isSome || dns.isSome then
      let (l, s) := s.replaceLink { old with linkForeignData := fd }
      (some l, true, s)
    else (some old, false, s)

/-- `GetLink(name)`. -/
def getLink (s : Links) (name : String) : Option Link := s.links.lookup name

/-- `GetLinkForClusterAddress(ip)`: the map is keyed by `ip.String()`. -/
def getLinkForClusterAddress (s : Links) (ip : IP) : Option Link := s.clusteraddr.lookup ip.string

/-- `GetLinkForEndpoint(dnsname)`. -/
def getLinkForEndpoint (s : Links) (dnsname : String) : Option Link := s.endpoints.lookup dnsname

/-- The `KubeLink` that `RegisterLink` creates: the name, the texts of the cluster address
and the routing cidr, the endpoint, and nothing else, so an empty status. -/
def registeredKubeLink (name clusterAddress fqdn cidr : String) : KubeLink :=
  ⟨name, ⟨cidr, clusterAddress, fqdn, [], [], ""⟩, ⟨""⟩⟩

/-- The errors of `RegisterLink`: that of `resource.Create`, or that of `UpdateLink`. -/
inductive RegisterError
  | create (err : String)
  | updateLink (err : LinkForError)
deriving DecidableEq, Repr

/-- `RegisterLink(name, clusterCIDR, fqdn, cidr)`. `create` is `resource.Create`, `none` when
it succeeds; `ipString` and `netString` are `String()` of an address and of a network. -/
def registerLink (lib : Library) (create : KubeLink → Option String) (ipString : IP → String)
    (netString : IPNet → String) (s : Links) (name : String) (clusterCIDR : IPNet) (fqdn : String)
    (cidr : IPNet) : Except RegisterError Link × Links :=
  let kl := registeredKubeLink name (ipString clusterCIDR.ip) fqdn (netString cidr)
  match create kl with
  | some err => (.error (.create err), s)
  | none =>
    let (r, s') := s.updateLink lib kl
    (r.mapError .updateLink, s')

/-- The operations of the registry that change it. -/
inductive Op
  | updateLink (klink : KubeLink)
  | removeLink (name : String)
  | replaceLink (link : Link)
  | updateLinkInfo (name : String) (access : Option LinkAccessInfo) (dns : Option LinkDNSInfo)
      (pending : Bool)
  | linkInfoUpdated (name : String) (access : Option LinkAccessInfo) (dns : Option LinkDNSInfo)

/-- One operation, under the registry's lock. -/
def step (lib : Library) (s : Links) : Op → Links
  | .updateLink klink => (s.updateLink lib klink).2
  | .removeLink name => s.removeLink name
  | .replaceLink link => (s.replaceLink link).2
  | .updateLinkInfo name access dns pending => (s.updateLinkInfo name access dns pending).2.2
  | .linkInfoUpdated name access dns => (s.linkInfoUpdated name access dns).2

/-- A sequence of operations. -/
def run (lib : Library) (s : Links) (ops : List Op) : Links := ops.foldl (step lib) s

/-- A `logger.LogContext`. What it logs is left out: `Setup` only tests it against nil. -/
structure LogContext

/-- How `Setup` ends: it returns, or it panics, with the registry as it leaves it. -/
inductive SetupEnd
  | returned (s : Links)
  | panicked (s : Links)

/-- The loop of `Setup`: `updateLink` for each listed `KubeLink`, then `Infof` with the link it
stored or with its error, one of which is always set. That `Infof` is not guarded against a
nil logger, so on a nil logger the first iteration panics, after its `updateLink`. -/
def setupLoop (lib : Library) (logger : Option LogContext) : Links → List KubeLink → SetupEnd
  | s, [] => .returned s
  | s, klink :: list =>
    let s := (s.updateLink lib klink).2
    match logger with
    | none => .panicked s
    | some _ => setupLoop lib logger s list

/-- `Setup(logger, cluster)`, with the `KubeLink`s that the resource lists: on the first call,
the loop. Only its first `Infof` is guarded against a nil logger. -/
def setup (lib : Library) (logger : Option LogContext) (s : Links) (list : List KubeLink) : SetupEnd :=
  if s.initialized then .returned s
  else setupLoop lib logger { s with initialized := true } list

/-! ## Runs -/

/-- `P` holds at every state of the run `ops` from `s`, the first and the last included. -/
def Always (lib : Library) (P : Links → Prop) : Links → List Op → Prop
  | s, [] => P s
  | s, op :: ops => P s ∧ Always lib P (s.step lib op) ops

/-- `Q` holds of every operation of the run `ops` from `s`, at the state it is applied to. -/
def EveryStep (lib : Library) (Q : Links → Op → Prop) : Links → List Op → Prop
  | _, [] => True
  | s, op :: ops => Q s op ∧ EveryStep lib Q (s.step lib op) ops

variable {lib : Library}

@[simp] theorem run_nil (s : Links) : s.run lib [] = s := rfl

@[simp] theorem run_cons (s : Links) (op : Op) (ops : List Op) :
    s.run lib (op :: ops) = (s.step lib op).run lib ops := rfl

theorem Always.head {P : Links → Prop} {s : Links} {ops : List Op} (h : Always lib P s ops) : P s := by
  cases ops with
  | nil => exact h
  | cons op ops => exact h.1

theorem Always.imp {P Q : Links → Prop} (hpq : ∀ s, P s → Q s) :
    ∀ {s : Links} {ops : List Op}, Always lib P s ops → Always lib Q s ops
  | _, [], h => hpq _ h
  | _, _ :: _, h => ⟨hpq _ h.1, Always.imp hpq h.2⟩

instance Always.decidable {P : Links → Prop} [DecidablePred P] :
    ∀ (s : Links) (ops : List Op), Decidable (Always lib P s ops)
  | s, [] => inferInstanceAs (Decidable (P s))
  | s, op :: ops =>
    have : Decidable (Always lib P (s.step lib op) ops) := Always.decidable (s.step lib op) ops
    inferInstanceAs (Decidable (P s ∧ Always lib P (s.step lib op) ops))

theorem run_append (s : Links) (ops ops' : List Op) :
    s.run lib (ops ++ ops') = (s.run lib ops).run lib ops' := List.foldl_append _ _ _ _

/-- An invariant of every step holds at every state of every run. -/
theorem run_invariant (P : Links → Prop) (hstep : ∀ s op, P s → P (s.step lib op)) :
    ∀ (ops : List Op) (s : Links), P s → P (s.run lib ops)
  | [], _, h => h
  | op :: ops, s, h => run_invariant P hstep ops _ (hstep s op h)

/-! ## What each operation does -/

@[simp] theorem replaceLink_links (s : Links) (l : Link) :
    (s.replaceLink l).2.links = s.links.insert l.name l := rfl

@[simp] theorem replaceLink_endpoints (s : Links) (l : Link) :
    (s.replaceLink l).2.endpoints = s.endpoints.insert l.host l := rfl

@[simp] theorem replaceLink_clusteraddr (s : Links) (l : Link) :
    (s.replaceLink l).2.clusteraddr = s.clusteraddr.insert l.clusterKey l := rfl

@[simp] theorem replaceLink_defaultport (s : Links) (l : Link) :
    (s.replaceLink l).2.defaultport = s.defaultport := rfl

/-- Dropping an index key: `idx` without the key of `old` where `l` has another one. -/
def dropKey {κ : Type} [DecidableEq κ] (idx : AList fun _ : κ => Link) (key : Link → κ) (old l : Link) :
    AList fun _ : κ => Link :=
  if key old = key l then idx else idx.erase (key old)

/-- The cleanup of `updateLink` drops the keys of `old` that `l` does not share: the cluster
IPs are compared with `IP.Equal`, which agrees with comparing their texts. -/
theorem dropStaleKeys_eq (s : Links) (old l : Link) :
    s.dropStaleKeys old l = { s with
      endpoints := dropKey s.endpoints Link.host old l
      clusteraddr := dropKey s.clusteraddr Link.clusterKey old l } := by
  have hkey : old.clusterKey = l.clusterKey ↔ old.clusterAddress.ip.equal l.clusterAddress.ip = true :=
    string_eq_iff_equal _ _
  unfold dropStaleKeys dropKey
  by_cases hh : old.host = l.host <;> cases hc : old.clusterAddress.ip.equal l.clusterAddress.ip <;>
    simp [hh, hkey, hc]

@[simp] theorem dropStaleKeys_links (s : Links) (old l : Link) :
    (s.dropStaleKeys old l).links = s.links := by
  rw [dropStaleKeys_eq]

@[simp] theorem dropStaleKeys_defaultport (s : Links) (old l : Link) :
    (s.dropStaleKeys old l).defaultport = s.defaultport := by
  rw [dropStaleKeys_eq]

/-- The link `LinkFor` builds is named after the `KubeLink`. -/
theorem linkFor_name {defaultport : Int} {klink : KubeLink} {l : Link}
    (h : linkFor lib defaultport klink = .ok l) : l.name = klink.name := by
  unfold linkFor at h
  simp only [bind, Except.bind, pure, Except.pure, Except.mapError] at h
  repeat' split at h
  all_goals cases h; try rfl

/-- The link `LinkFor` builds has the zero foreign data. -/
theorem linkFor_foreignData {defaultport : Int} {klink : KubeLink} {l : Link}
    (h : linkFor lib defaultport klink = .ok l) : l.linkForeignData = .zero := by
  unfold linkFor at h
  simp only [bind, Except.bind, pure, Except.pure, Except.mapError] at h
  repeat' split at h
  all_goals cases h; try rfl

/-- `UpdateLink` fails, changing nothing, exactly when `LinkFor` fails. -/
theorem updateLink_of_error {s : Links} {klink : KubeLink} {err : LinkForError}
    (h : linkFor lib s.defaultport klink = .error err) : s.updateLink lib klink = (.error err, s) := by
  simp [updateLink, h]

/-- Otherwise `UpdateLink` stores the link of `LinkFor`, with the foreign data of the link it
replaces, after dropping the keys that the new link no longer has. -/
theorem updateLink_of_ok {s : Links} {klink : KubeLink} {l : Link}
    (h : linkFor lib s.defaultport klink = .ok l) :
    s.updateLink lib klink =
      match s.links.lookup klink.name with
      | none => (.ok l, (s.replaceLink l).2)
      | some old =>
        (.ok { l with linkForeignData := old.linkForeignData },
          ((s.dropStaleKeys old l).replaceLink { l with linkForeignData := old.linkForeignData }).2) := by
  simp only [updateLink, h]
  split <;> rfl

theorem replaceLink_replaceLink (s : Links) (l : Link) :
    ((s.replaceLink l).2.replaceLink l).2 = (s.replaceLink l).2 := by
  simp only [replaceLink, AList.insert_insert]

/-- The cleanup after a link with the same host and cluster IP drops no key. -/
theorem dropStaleKeys_of_keys (s : Links) (old l : Link) (hh : old.host = l.host)
    (hc : old.clusterAddress.ip = l.clusterAddress.ip) : s.dropStaleKeys old l = s := by
  simp [dropStaleKeys_eq, dropKey, hh, Link.clusterKey, hc]

/-- A `KubeLink` delivered again changes nothing: the second `UpdateLink` finds the link the
first one stored, keeps its foreign data and its keys, and stores it once more. -/
theorem updateLink_updateLink (s : Links) (klink : KubeLink) :
    (s.updateLink lib klink).2.updateLink lib klink = s.updateLink lib klink := by
  rcases h : linkFor lib s.defaultport klink with err | l
  · rw [updateLink_of_error h, updateLink_of_error h]
  · have hname := linkFor_name h
    rw [updateLink_of_ok h]
    rcases hold : s.links.lookup klink.name with _ | old <;> dsimp only
    · rw [@updateLink_of_ok lib _ klink l (by rwa [replaceLink_defaultport]), replaceLink_links, ← hname,
        AList.lookup_insert]
      dsimp only
      rw [dropStaleKeys_of_keys _ l l rfl rfl, replaceLink_replaceLink]
    · let l' : Link := { l with linkForeignData := old.linkForeignData }
      rw [@updateLink_of_ok lib _ klink l (by rwa [replaceLink_defaultport, dropStaleKeys_defaultport]),
        replaceLink_links, ← show l'.name = klink.name from hname, AList.lookup_insert]
      dsimp only
      rw [dropStaleKeys_of_keys _ l' l rfl rfl, replaceLink_replaceLink]

/-- `LinkFor` refuses a `KubeLink` whose status has no gateway. -/
theorem linkFor_of_gateway_empty (defaultport : Int) {klink : KubeLink} (h : klink.status.gateway = "") :
    ∃ err, linkFor lib defaultport klink = .error err := by
  rcases hl : linkFor lib defaultport klink with err | l
  · exact ⟨err, rfl⟩
  · simp only [linkFor, bind_eq_ok_except] at hl
    obtain ⟨_, -, _, -, _, -, _, -, hl⟩ := hl
    split_ifs at hl <;> simp only [h, throw_except, pure_except, ok_bind_except, error_bind_except,
      reduceCtorEq, if_true] at hl

/-- `RegisterLink` never registers a link. The `KubeLink` it creates has an empty status, so
`LinkFor` refuses it, at the latest for its missing gateway (with Go's `ParseCIDR` the cluster
address, an address without a prefix, is refused first): the call fails and leaves the
registry as it was, and when `Create` succeeds the resource stays behind with the error of
`LinkFor` reported for it. -/
theorem registerLink_fails (create : KubeLink → Option String) (ipString : IP → String)
    (netString : IPNet → String) (s : Links) (name : String) (clusterCIDR : IPNet) (fqdn : String)
    (cidr : IPNet) :
    ∃ err, s.registerLink lib create ipString netString name clusterCIDR fqdn cidr = (.error err, s) ∧
      (create (registeredKubeLink name (ipString clusterCIDR.ip) fqdn (netString cidr)) = none →
        ∃ e, err = .updateLink e ∧
          linkFor lib s.defaultport (registeredKubeLink name (ipString clusterCIDR.ip) fqdn (netString cidr)) =
            .error e) := by
  obtain ⟨e, he⟩ : ∃ e, linkFor lib s.defaultport
      (registeredKubeLink name (ipString clusterCIDR.ip) fqdn (netString cidr)) = .error e :=
    linkFor_of_gateway_empty _ rfl
  cases hc : create (registeredKubeLink name (ipString clusterCIDR.ip) fqdn (netString cidr)) with
  | some err => exact ⟨.create err, by simp only [registerLink, hc], fun h => nomatch h⟩
  | none =>
    exact ⟨.updateLink e, by simp only [registerLink, hc, updateLink_of_error he, Except.mapError],
      fun _ => ⟨e, rfl, he⟩⟩

/-! ## The blocks of the two info operations -/

section Blocks

variable {α : Type} (equal : α → α → Bool) (get : LinkForeignData → α)
  (set : LinkForeignData → α → LinkForeignData) (old new : LinkForeignData) (x : Option α)

/-- A block of `LinkInfoUpdated` either drops its value or confirms a value equal to the stored
one and clears the flag. -/
theorem confirmInfo_cases :
    ((∀ v, x = some v → equal (get old) v = false) ∧ confirmInfo equal get old x new = (new, none)) ∨
      ∃ v, x = some v ∧ equal (get old) v = true ∧
        confirmInfo equal get old x new = ({ new with updatePending := false }, some v) := by
  unfold confirmInfo
  rcases x with _ | v
  · exact .inl ⟨(fun _ h => nomatch h), rfl⟩
  · cases hv : equal (get old) v <;> simp [hv]

/-- A block of `UpdateLinkInfo` either drops its value or stages it, setting the flag to the
call's `pending`. -/
theorem stageInfo_cases (pending : Bool) :
    stageInfo equal get set old x pending new = (new, none) ∨
      ∃ v, x = some v ∧ stageInfo equal get set old x pending new =
        ({ set new v with updatePending := pending }, some v) := by
  unfold stageInfo
  rcases x with _ | v
  · exact .inl rfl
  · by_cases hv : equal (get old) v <;> by_cases hp : (!old.updatePending || pending) <;> simp [hv, hp]

/-- While an update is pending, a block of a call that is not pending drops its value. -/
theorem stageInfo_of_pending (h : old.updatePending = true) :
    stageInfo equal get set old x false new = (new, none) := by
  unfold stageInfo
  rcases x with _ | v
  · rfl
  · simp [h]

end Blocks

/-- `UpdateLinkInfo` reports no change and changes nothing, or reports a change and stores a copy
of the link under `name` whose foreign data has the flag `pending`. -/
theorem updateLinkInfo_state (s : Links) (name : String) (access : Option LinkAccessInfo)
    (dns : Option LinkDNSInfo) (pending : Bool) :
    ((s.updateLinkInfo name access dns pending).2.1 = false ∧ (s.updateLinkInfo name access dns pending).2.2 = s) ∨
      ∃ old fd, s.links.lookup name = some old ∧ (s.updateLinkInfo name access dns pending).2.1 = true ∧
        (s.updateLinkInfo name access dns pending).2.2 = (s.replaceLink { old with linkForeignData := fd }).2 ∧
        fd.updatePending = pending := by
  rcases hold : s.links.lookup name with _ | old
  · simp [updateLinkInfo, hold]
  simp only [updateLinkInfo, hold]
  rcases stageInfo_cases LinkAccessInfo.equal (·.linkAccessInfo) (fun d a => { d with linkAccessInfo := a })
      old.linkForeignData old.linkForeignData access pending with ha | ⟨a, -, ha⟩ <;> rw [ha] <;>
    rcases stageInfo_cases LinkDNSInfo.equal (·.linkDNSInfo) (fun d v => { d with linkDNSInfo := v })
      old.linkForeignData _ dns pending with hd | ⟨d, -, hd⟩ <;> rw [hd] <;>
    first | exact .inl ⟨rfl, rfl⟩ | exact .inr ⟨old, _, rfl, rfl, rfl, rfl⟩

/-- While the link's update is pending, a call of `UpdateLinkInfo` that is not pending changes
nothing. -/
theorem updateLinkInfo_of_pending {s : Links} {name : String} {old : Link}
    (hold : s.links.lookup name = some old) (h : old.linkForeignData.updatePending = true)
    (access : Option LinkAccessInfo) (dns : Option LinkDNSInfo) :
    (s.updateLinkInfo name access dns false).2.2 = s := by
  simp [updateLinkInfo, hold, stageInfo_of_pending _ _ _ _ _ _ h]

/-- `LinkInfoUpdated` confirms a value of the link stored under `n`: the advertised access
info or DNS info equals the stored one. -/
def Confirms (s : Links) (n : String) (access : Option LinkAccessInfo) (dns : Option LinkDNSInfo) : Prop :=
  ∃ old, s.links.lookup n = some old ∧
    ((∃ a, access = some a ∧ old.linkForeignData.linkAccessInfo.equal a = true) ∨
      (∃ d, dns = some d ∧ old.linkForeignData.linkDNSInfo.equal d = true))

/-- `LinkInfoUpdated` changes nothing when it confirms no value, and otherwise stores a copy of
the link with the flag cleared. -/
theorem linkInfoUpdated_state (s : Links) (name : String) (access : Option LinkAccessInfo)
    (dns : Option LinkDNSInfo) :
    (¬Confirms s name access dns ∧ (s.linkInfoUpdated name access dns).2 = s) ∨
      ∃ old, s.links.lookup name = some old ∧ Confirms s name access dns ∧
        (s.linkInfoUpdated name access dns).2 =
          (s.replaceLink { old with linkForeignData := { old.linkForeignData with updatePending := false } }).2 := by
  rcases hold : s.links.lookup name with _ | old
  · simp [linkInfoUpdated, Confirms, hold]
  simp only [linkInfoUpdated, hold]
  rcases confirmInfo_cases LinkAccessInfo.equal (·.linkAccessInfo) old.linkForeignData
      old.linkForeignData access with ⟨hna, ha⟩ | ⟨a, rfl, hae, ha⟩ <;>
    rw [ha] <;>
    rcases confirmInfo_cases LinkDNSInfo.equal (·.linkDNSInfo) old.linkForeignData _ dns
      with ⟨hnd, hd⟩ | ⟨d, rfl, hde, hd⟩ <;> rw [hd]
  · refine .inl ⟨?_, rfl⟩
    rintro ⟨o, ho, ⟨a, rfl, hae⟩ | ⟨d, rfl, hde⟩⟩ <;> rw [hold] at ho <;> cases ho
    · exact Bool.false_ne_true ((hna a rfl).symm.trans hae)
    · exact Bool.false_ne_true ((hnd d rfl).symm.trans hde)
  · exact .inr ⟨old, rfl, ⟨old, hold, .inr ⟨d, rfl, hde⟩⟩, rfl⟩
  · exact .inr ⟨old, rfl, ⟨old, hold, .inl ⟨a, rfl, hae⟩⟩, rfl⟩
  · exact .inr ⟨old, rfl, ⟨old, hold, .inl ⟨a, rfl, hae⟩⟩, rfl⟩

/-! ## Every link is stored under its own name -/

/-- The link stored under a name has that name. -/
def NamesMatch (links : AList fun _ : String => Link) : Prop :=
  ∀ n l, links.lookup n = some l → l.name = n

theorem NamesMatch.insert {links : AList fun _ : String => Link} (h : NamesMatch links) (l : Link) :
    NamesMatch (links.insert l.name l) := by
  intro n v hv
  by_cases hn : n = l.name
  · subst hn
    simp only [AList.lookup_insert, Option.some.injEq] at hv
    exact hv ▸ rfl
  · exact h n v (by rwa [AList.lookup_insert_ne hn] at hv)

theorem NamesMatch.erase {links : AList fun _ : String => Link} (h : NamesMatch links) (n : String) :
    NamesMatch (links.erase n) := by
  intro m v hv
  by_cases hm : m = n
  · subst hm
    simp at hv
  · exact h m v (by rwa [AList.lookup_erase_ne hm] at hv)

/-- What a step does to `links`: nothing, erasing a name, or storing under its name a link
that `LinkFor` returned with some foreign data, a stored link with other foreign data, or the
link of a `ReplaceLink`. -/
theorem step_stores (s : Links) (op : Op) :
    (s.step lib op).links = s.links ∨ (∃ n, (s.step lib op).links = s.links.erase n) ∨
      ∃ l, (s.step lib op).links = s.links.insert l.name l ∧
        ((∃ klink l₀ fd, linkFor lib s.defaultport klink = .ok l₀ ∧ l = { l₀ with linkForeignData := fd }) ∨
          (∃ n old fd, s.links.lookup n = some old ∧ l = { old with linkForeignData := fd }) ∨
          op = .replaceLink l) := by
  cases op with
  | updateLink klink =>
    rcases h : linkFor lib s.defaultport klink with err | l
    · exact .inl (by rw [step, updateLink_of_error h])
    · simp only [step, updateLink_of_ok h]
      split
      · exact .inr (.inr ⟨l, rfl, .inl ⟨klink, l, l.linkForeignData, h, rfl⟩⟩)
      · next _ old _ =>
        exact .inr (.inr ⟨{ l with linkForeignData := old.linkForeignData }, by simp,
          .inl ⟨klink, l, old.linkForeignData, h, rfl⟩⟩)
  | removeLink name =>
    simp only [step, removeLink]
    split
    · exact .inr (.inl ⟨name, rfl⟩)
    · exact .inl rfl
  | replaceLink link => exact .inr (.inr ⟨link, rfl, .inr (.inr rfl)⟩)
  | updateLinkInfo name access dns pending =>
    rcases updateLinkInfo_state s name access dns pending with ⟨-, h⟩ | ⟨old, fd, hold, -, h, -⟩
    · exact .inl (by rw [step, h])
    · exact .inr (.inr ⟨_, by rw [step, h]; rfl, .inr (.inl ⟨name, old, fd, hold, rfl⟩)⟩)
  | linkInfoUpdated name access dns =>
    rcases linkInfoUpdated_state s name access dns with ⟨-, h⟩ | ⟨old, hold, -, h⟩
    · exact .inl (by rw [step, h])
    · exact .inr (.inr ⟨_, by rw [step, h]; rfl, .inr (.inl ⟨name, old, _, hold, rfl⟩)⟩)

/-- What a step does to `links`: nothing, storing a link under its name, or erasing a name. -/
theorem step_links (s : Links) (op : Op) :
    (s.step lib op).links = s.links ∨ (∃ l, (s.step lib op).links = s.links.insert l.name l) ∨
      ∃ n, (s.step lib op).links = s.links.erase n := by
  rcases step_stores s op with h | ⟨n, h⟩ | ⟨l, h, -⟩
  · exact .inl h
  · exact .inr (.inr ⟨n, h⟩)
  · exact .inr (.inl ⟨l, h⟩)

/-- No operation changes the default port. -/
@[simp] theorem step_defaultport (s : Links) (op : Op) : (s.step lib op).defaultport = s.defaultport := by
  cases op with
  | updateLink klink =>
    rcases h : linkFor lib s.defaultport klink with err | l
    · rw [step, updateLink_of_error h]
    · simp only [step, updateLink_of_ok h]
      split <;> simp
  | removeLink name =>
    simp only [step, removeLink]
    split <;> rfl
  | replaceLink link => rfl
  | updateLinkInfo name access dns pending =>
    rcases updateLinkInfo_state s name access dns pending with ⟨-, h⟩ | ⟨_, _, -, -, h, -⟩ <;>
      simp only [step, h, replaceLink_defaultport]
  | linkInfoUpdated name access dns =>
    rcases linkInfoUpdated_state s name access dns with ⟨-, h⟩ | ⟨_, -, -, h⟩ <;>
      simp only [step, h, replaceLink_defaultport]

/-- Every step stores each link under its own name. -/
theorem namesMatch_step {s : Links} (h : NamesMatch s.links) (op : Op) :
    NamesMatch (s.step lib op).links := by
  rcases step_links s op with hs | ⟨l, hs⟩ | ⟨n, hs⟩ <;> rw [hs]
  · exact h
  · exact h.insert l
  · exact h.erase n

/-- Every state reachable from `NewLinks` stores each link under its own name. -/
theorem namesMatch_run {s : Links} (h : NamesMatch s.links) (ops : List Op) :
    NamesMatch (s.run lib ops).links :=
  run_invariant (fun s => NamesMatch s.links) (fun _ op hs => namesMatch_step hs op) ops s h

theorem namesMatch_newLinks (defaultport : Int) : NamesMatch (newLinks defaultport).links := by
  intro n l h
  simp [newLinks] at h

/-! ## What `Setup` stores -/

@[simp] theorem updateLink_defaultport (s : Links) (klink : KubeLink) :
    (s.updateLink lib klink).2.defaultport = s.defaultport :=
  step_defaultport s (.updateLink klink)

/-- The links `LinkFor` builds from the listed `KubeLink`s named `n`, in order; those it
refuses are left out. -/
def builtLinks (lib : Library) (defaultport : Int) (n : String) (list : List KubeLink) : List Link :=
  list.filterMap fun klink => (linkFor lib defaultport klink).toOption.filter (·.name = n)

/-- `l` with the foreign data of the link stored under its name, zero if there is none. -/
def withStoredData (s : Links) (l : Link) : Link :=
  { l with linkForeignData := ((s.links.lookup l.name).map (·.linkForeignData)).getD .zero }

/-- One `UpdateLink` on the lookup of a name: a link that `LinkFor` builds under that name is
stored with the foreign data it replaces; every other name keeps its link. -/
theorem updateLink_lookup (s : Links) (klink : KubeLink) (n : String) :
    (s.updateLink lib klink).2.links.lookup n =
      (((linkFor lib s.defaultport klink).toOption.filter (·.name = n)).map (withStoredData s)).or
        (s.links.lookup n) := by
  rcases h : linkFor lib s.defaultport klink with err | l
  · simp [updateLink_of_error h, Except.toOption]
  · rw [updateLink_of_ok h, ← linkFor_name h]
    by_cases hn : l.name = n
    · subst hn
      have hfd := linkFor_foreignData h
      cases l
      cases hold : s.links.lookup _ <;> simp_all [withStoredData, Except.toOption, Option.filter_some]
    · split <;> simp [Except.toOption, Option.filter_some, hn, AList.lookup_insert_ne (Ne.symm hn)]

/-- An `UpdateLink` keeps the foreign data stored under every name, so later links of a name
get what the first one found. -/
theorem withStoredData_updateLink (s : Links) (klink : KubeLink) :
    withStoredData (s.updateLink lib klink).2 = withStoredData s := by
  funext l
  simp only [withStoredData, updateLink_lookup]
  cases h : (linkFor lib s.defaultport klink).toOption.filter (·.name = l.name) with
  | none => rfl
  | some b =>
    have hb : b.name = l.name := of_decide_eq_true (Option.filter_eq_some.mp h).2
    simp only [Option.map_some', Option.or_some, Option.getD_some, withStoredData]
    rw [hb]

/-- The loop of `Setup`: under each name, the link of the last listed `KubeLink` of that name
that `LinkFor` accepts, with the foreign data the name had; a name no such `KubeLink` has
keeps its link. -/
theorem foldl_updateLink_lookup (n : String) : ∀ (list : List KubeLink) (s : Links),
    (list.foldl (fun s klink => (s.updateLink lib klink).2) s).links.lookup n =
      ((builtLinks lib s.defaultport n list).getLast?.map (withStoredData s)).or (s.links.lookup n)
  | [], _ => rfl
  | klink :: list, s => by
    rw [List.foldl_cons, foldl_updateLink_lookup n list, updateLink_defaultport, withStoredData_updateLink,
      updateLink_lookup]
    simp only [builtLinks, List.filterMap_cons]
    cases (linkFor lib s.defaultport klink).toOption.filter (·.name = n) <;>
      cases hl : (list.filterMap fun k => (linkFor lib s.defaultport k).toOption.filter (·.name = n)).getLast? <;>
      simp [List.getLast?_cons, hl]

/-- With a logger, the loop of `Setup` runs `updateLink` on every listed `KubeLink` and
returns. -/
theorem setupLoop_some (logger : LogContext) : ∀ (s : Links) (list : List KubeLink),
    setupLoop lib (some logger) s list = .returned (list.foldl (fun s klink => (s.updateLink lib klink).2) s)
  | _, [] => rfl
  | _, _ :: list => setupLoop_some logger _ list

/-- `Setup` with a logger, on a registry not yet set up, returns, and stores under each name
the link that `LinkFor` builds from the last listed `KubeLink` of that name it accepts, with
the foreign data the name had (zero for a new name). The `KubeLink`s that `LinkFor` refuses
are skipped, and a name without an accepted `KubeLink` keeps its link, or stays empty. -/
theorem setup_lookup (s : Links) (list : List KubeLink) (h : s.initialized = false) (logger : LogContext)
    (n : String) :
    ∃ s', s.setup lib (some logger) list = .returned s' ∧
      s'.links.lookup n = ((builtLinks lib s.defaultport n list).getLast?.map (withStoredData s)).or
        (s.links.lookup n) := by
  rw [setup, if_neg (by simp [h]), setupLoop_some]
  exact ⟨_, rfl, foldl_updateLink_lookup n list { s with initialized := true }⟩

/-- The link of `peerLink "a" "peer"` after `Setup` on a new registry. -/
theorem setup_lookup_peer :
    (newLinks 80).initialized = false ∧
      ∃ s', (newLinks 80).setup Library.ipv4 (some ⟨⟩) [peerLink "a" "peer"] = .returned s' ∧
        s'.links.lookup "a" =
          ((builtLinks Library.ipv4 80 "a" [peerLink "a" "peer"]).getLast?.map (withStoredData (newLinks 80))).or
            ((newLinks 80).links.lookup "a") :=
  ⟨rfl, setup_lookup _ _ rfl ⟨⟩ _⟩

end Links

end Kubelink
