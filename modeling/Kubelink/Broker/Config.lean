import Kubelink.Registry.LinkFor
import Kubelink.Net.SubIP

/-!
# The configuration of the broker

`Config.Prepare` checks the options of the broker in a fixed order and derives from them the
cluster network, the served links, the management mode of the TLS secret, the service
account and the DNS addresses; `MatchLink` then decides whether the broker serves a link.

`Prepare` calls the `Prepare`, `RequireCIDR` and `OptionalCIDR` of the embedded
`controllers.Config` and reads the constants `CLUSTER_DNS_IP` and `DNSMODE_*`, whose files
are not under src/; the model takes them, and `strings.ToLower`, as a `BrokerEnv`.

Results:
* `prepare_prepared`: a configuration that `Prepare` accepts has every property its checks
  ask for (`Prepared`).
* `prepare_optionDefaults`: the defaults of `AddOptionsToSet` (`optionDefaults`) pass every
  check once `link-address`, the one option without a default, is given.
* `matchLink_prepared`: on a prepared configuration `MatchLink` never dereferences a nil
  network, and serves exactly the responsible links whose cluster address lies in the
  cluster network.
* `prepareDNS_dnsServiceIP_error`: an invalid `dns-service-ip` is reported with the text of
  `coredns-service-ip`, the option checked before it.
* `getEndpoints_eq`: `GetEndpoints` keeps the addresses that parse of every subset with a
  port; which port it picks never matters.
-/

namespace Kubelink

/-- `MANAGE_MODE_NONE`. -/
def MANAGE_MODE_NONE : String := "none"

/-- `MANAGE_MODE_SELF`. -/
def MANAGE_MODE_SELF : String := "self"

/-- `MANAGE_MODE_CERT`. -/
def MANAGE_MODE_CERT : String := "cert"

/-- `valid_modes`. -/
def validModes : List String := [MANAGE_MODE_NONE, MANAGE_MODE_SELF, MANAGE_MODE_CERT]

/-- `unicode.IsSpace`: the white space that `strings.TrimSpace` removes. -/
def isSpace (c : Char) : Bool :=
  if c.toNat ≤ 0xFF then [0x09, 0x0A, 0x0B, 0x0C, 0x0D, 0x20, 0x85, 0xA0].contains c.toNat
  else c.toNat = 0x1680 || (0x2000 ≤ c.toNat && c.toNat ≤ 0x200A) || c.toNat = 0x2028 ||
    c.toNat = 0x2029 || c.toNat = 0x202F || c.toNat = 0x205F || c.toNat = 0x3000

/-- `strings.TrimSpace(s)`. -/
def trimSpace (s : String) : String :=
  ⟨((s.data.dropWhile isSpace).reverse.dropWhile isSpace).reverse⟩

/-- `tcp.CIDRIP(cidr, ip)`: the network of `cidr` with the address `ip`. -/
def cidrIP (cidr : IPNet) (ip : IP) : IPNet := { cidr with ip := ip }

/-- The fields of the broker's `Config` that `Prepare` and `MatchLink` read or set: the
option texts, and what `Prepare` derives from them. Where Go has a text and a parsed field
of one name (`serviceAccount` and `ServiceAccount`, `coreDNSServiceIP` and
`CoreDNSServiceIP`, `dnsServiceIP` and `DNSServiceIP`, `responsible` and `Responsible`), the
parsed one is named after what it holds. -/
structure Config where
  address : String
  service : String
  responsible : String
  clusterCIDR : Option IPNet
  clusterAddress : Option IPNet
  serviceCIDR : Option IPNet
  responsibleSet : List String
  autoConnect : Bool
  secret : String
  certFile : String
  keyFile : String
  caCertFile : String
  manageMode : String
  dnsName : String
  serviceAccount : String
  serviceAccountName : Option (String × String)
  coreDNSServiceIP : String
  coreDNSServiceAddr : Option IP
  dnsServiceIP : String
  dnsServiceAddr : Option IP
  dnsPropagation : String
deriving DecidableEq, Repr

/-- What `Prepare` uses from files that are not under src/: the result of the embedded
`controllers.Config.Prepare()`, its `RequireCIDR(s, name)` (the address and the network)
and `OptionalCIDR(s, name)` (the network, `nil` for none), `CLUSTER_DNS_IP`, the modes
`DNSMODE_KUBERNETES`, `DNSMODE_DNS` and `DNSMODE_NONE`, and `strings.ToLower`. -/
structure BrokerEnv where
  basePrepare : Except String Unit
  requireCIDR : String → String → Except String (IP × IPNet)
  optionalCIDR : String → String → Except String (Option IPNet)
  clusterDNSIP : Int
  dnsModes : List String
  toLower : String → String

/-- The errors of `Prepare`. -/
inductive ConfigError
  /-- an error of `controllers.Config.Prepare` -/
  | base (text : String)
  /-- an error of `RequireCIDR` or `OptionalCIDR` -/
  | cidr (text : String)
  /-- `auto-connect requires local service cidr` -/
  | autoConnectNeedsServiceCIDR
  /-- `auto-connect requires authenticated mode -> secret or cert file requied` -/
  | autoConnectNeedsAuth
  /-- `only secret or cert file can be specified` -/
  | secretAndCertFile
  /-- `invalid management mode (possible %s): %s` -/
  | invalidManageMode (mode : String)
  /-- `dns name required for managed TLS secret` -/
  | dnsNameRequired
  /-- `key file must be specified if cert file is set` -/
  | keyFileRequired
  /-- `ca cert file must be specified if cert file is set` -/
  | caCertFileRequired
  /-- `invalid service account name` -/
  | invalidServiceAccount
  /-- `invalid ip of coredns service: %s` -/
  | invalidCoreDNSServiceIP (text : String)
  /-- `invalid dns mode: %s` -/
  | invalidDNSMode (mode : String)
  /-- `SubIP` panics: its carry runs past the first byte of the service network -/
  | panicked
deriving DecidableEq, Repr

/-! ## `Prepare`, block by block -/

/-- `link-address`, required, gives the cluster network and the cluster address in it;
`service-cidr` is optional. -/
def prepareCIDRs (env : BrokerEnv) (c : Config) : Except ConfigError Config := do
  let (ip, cidr) ← (env.requireCIDR c.address "link-address").mapError .cidr
  let serviceCIDR ← (env.optionalCIDR c.service "service-cidr").mapError .cidr
  pure { c with clusterCIDR := some cidr, clusterAddress := some (cidrIP cidr ip), serviceCIDR := serviceCIDR }

/-- `auto-connect` needs a local service network and an authenticated mode. -/
def checkAutoConnect (c : Config) : Except ConfigError Unit :=
  if c.autoConnect then
    if c.serviceCIDR.isNone then .error .autoConnectNeedsServiceCIDR
    else if empty c.secret && empty c.certFile then .error .autoConnectNeedsAuth
    else .ok ()
  else .ok ()

/-- `utils.StringSet.Add(s)`. -/
def addString (set : List String) (s : String) : List String :=
  if s ∈ set then set else set ++ [s]

/-- `Responsible`: the comma separated names of `served-links`, trimmed, or `all` alone. -/
def responsibleSet (responsible : String) : List String :=
  let set := (responsible.split (· = ',')).foldl (fun set l => addString set (trimSpace l)) []
  if "all" ∈ set then ["all"] else set

/-- A secret and a cert file exclude each other. -/
def checkSecret (c : Config) : Except ConfigError Unit :=
  if !empty c.secret && !empty c.certFile then .error .secretAndCertFile else .ok ()

/-- The management mode: `none` when not given, and otherwise one of `valid_modes`, with a
DNS name for `self`. -/
def prepareManageMode (c : Config) : Except ConfigError Config :=
  if !empty c.manageMode then
    if c.manageMode ∉ validModes then .error (.invalidManageMode c.manageMode)
    else if c.manageMode = MANAGE_MODE_SELF ∧ c.dnsName = "" then .error .dnsNameRequired
    else .ok c
  else .ok { c with manageMode := MANAGE_MODE_NONE }

/-- A cert file needs a key file and a CA cert file. -/
def checkCertFile (c : Config) : Except ConfigError Unit :=
  if !empty c.certFile then
    if empty c.keyFile then .error .keyFileRequired
    else if empty c.caCertFile then .error .caCertFileRequired
    else .ok ()
  else .ok ()

/-- `service-account`: `name` in `kube-system`, or `namespace/name`. -/
def prepareServiceAccount (c : Config) : Except ConfigError Config :=
  if c.serviceAccount ≠ "" then
    match c.serviceAccount.splitOn "/" with
    | [ns, name] => .ok { c with serviceAccountName := some (ns, name) }
    | [name] => .ok { c with serviceAccountName := some ("kube-system", name) }
    | _ => .error .invalidServiceAccount
  else .ok c

/-- An address option of `Prepare`: when its text is given it must parse, and a text that
does not parse is reported with `errText`; otherwise the field keeps its value. -/
def parseAddressOption (lib : Library) (text errText : String) (old : Option IP) :
    Except ConfigError (Option IP) :=
  if text ≠ "" then
    match lib.parseIP text with
    | some ip => .ok (some ip)
    | none => .error (.invalidCoreDNSServiceIP errText)
  else .ok old

/-- Without a DNS address, the address `CLUSTER_DNS_IP` into the service network, if any. -/
def defaultDNSServiceIP (env : BrokerEnv) (c : Config) : Except ConfigError Config :=
  match c.dnsServiceAddr, c.serviceCIDR with
  | none, some cidr =>
    match subIP cidr env.clusterDNSIP with
    | some ip => .ok { c with dnsServiceAddr := some ip }
    | none => .error .panicked
  | _, _ => .ok c

/-- The DNS addresses: `coredns-service-ip`, then `dns-service-ip`, which Go reports with
the text of `coredns-service-ip`, then the default. -/
def prepareDNS (env : BrokerEnv) (lib : Library) (c : Config) : Except ConfigError Config := do
  let core ← parseAddressOption lib c.coreDNSServiceIP c.coreDNSServiceIP c.coreDNSServiceAddr
  let dns ← parseAddressOption lib c.dnsServiceIP c.coreDNSServiceIP c.dnsServiceAddr
  defaultDNSServiceIP env { c with coreDNSServiceAddr := core, dnsServiceAddr := dns }

/-- `dns-propagation`, lower-cased, must be one of the DNS modes. -/
def prepareDNSPropagation (env : BrokerEnv) (c : Config) : Except ConfigError Config :=
  let mode := env.toLower c.dnsPropagation
  if mode ∈ env.dnsModes then .ok { c with dnsPropagation := mode } else .error (.invalidDNSMode mode)

/-- `Prepare()`. -/
def prepare (env : BrokerEnv) (lib : Library) (c : Config) : Except ConfigError Config := do
  env.basePrepare.mapError .base
  let c ← prepareCIDRs env c
  checkAutoConnect c
  let c := { c with responsibleSet := responsibleSet c.responsible }
  checkSecret c
  let c ← prepareManageMode c
  checkCertFile c
  let c ← prepareServiceAccount c
  let c ← prepareDNS env lib c
  prepareDNSPropagation env c

/-- `MatchLink(obj)`: whether the broker serves the link, and its cluster address; `none`
where Go dereferences a nil `ClusterCIDR`. -/
def matchLink (lib : Library) (c : Config) (obj : KubeLink) : Option (Bool × Option IP) :=
  match lib.parseCIDR obj.spec.clusterAddress with
  | .error _ => some (false, none)
  | .ok (ip, _) =>
    if !c.responsibleSet.contains "all" && !c.responsibleSet.contains obj.name then some (false, none)
    else c.clusterCIDR.map fun cidr => (cidr.contains ip, some ip)

/-- `core.EndpointPort`, with the field `GetEndpoints` reads. -/
structure EndpointPort where
  name : String
deriving DecidableEq, Repr

/-- `core.EndpointSubset`: the IP texts of its addresses, and its ports. -/
structure EndpointSubset where
  addresses : List String
  ports : List EndpointPort
deriving DecidableEq, Repr

/-- The port loop of `GetEndpoints`: the first port, replaced by every later `wireguard` or
`bridge` port. -/
def selectPort (ports : List EndpointPort) : Option EndpointPort :=
  ports.foldl (fun port p => if port.isNone || p.name = "wireguard" || p.name = "bridge" then some p else port) none

/-- `GetEndpoints(obj)` on the subsets of the endpoints object: the addresses that parse of
every subset for which the loop found a port. -/
def getEndpoints (lib : Library) (subsets : List EndpointSubset) : List IP :=
  subsets.foldl (fun result sub =>
    if (selectPort sub.ports).isSome then result ++ sub.addresses.filterMap lib.parseIP else result) []

/-! ## What each block leaves -/

section Blocks

variable {env : BrokerEnv} {lib : Library} {c c' : Config}

theorem prepareCIDRs_ok (h : prepareCIDRs env c = .ok c') :
    ∃ ip cidr s, env.requireCIDR c.address "link-address" = .ok (ip, cidr) ∧
      env.optionalCIDR c.service "service-cidr" = .ok s ∧
      c' = { c with clusterCIDR := some cidr, clusterAddress := some (cidrIP cidr ip), serviceCIDR := s } := by
  unfold prepareCIDRs at h
  rcases hr : env.requireCIDR c.address "link-address" with e | ⟨ip, cidr⟩ <;>
    rcases hs : env.optionalCIDR c.service "service-cidr" with e' | s <;>
    simp [hr, hs, Except.mapError] at h
  exact ⟨ip, cidr, s, rfl, rfl, h.symm⟩

theorem checkAutoConnect_ok :
    checkAutoConnect c = .ok () ↔
      (c.autoConnect = true → c.serviceCIDR.isSome = true ∧ (empty c.secret = false ∨ empty c.certFile = false)) := by
  unfold checkAutoConnect
  cases c.autoConnect <;> cases c.serviceCIDR <;> cases empty c.secret <;> cases empty c.certFile <;> simp

theorem checkSecret_ok : checkSecret c = .ok () ↔ (empty c.secret = true ∨ empty c.certFile = true) := by
  unfold checkSecret
  cases empty c.secret <;> cases empty c.certFile <;> simp

theorem prepareManageMode_ok (h : prepareManageMode c = .ok c') :
    ∃ m, c' = { c with manageMode := m } ∧ m ∈ validModes ∧ (m = MANAGE_MODE_SELF → c.dnsName ≠ "") := by
  unfold prepareManageMode at h
  split_ifs at h with hm hv hself <;> cases h
  · exact ⟨c.manageMode, rfl, hv, fun hs hd => hself ⟨hs, hd⟩⟩
  · exact ⟨MANAGE_MODE_NONE, rfl, List.mem_cons_self _ _, fun hs => absurd hs (by decide)⟩

theorem checkCertFile_ok :
    checkCertFile c = .ok () ↔
      (empty c.certFile = false → empty c.keyFile = false ∧ empty c.caCertFile = false) := by
  unfold checkCertFile
  cases empty c.certFile <;> cases empty c.keyFile <;> cases empty c.caCertFile <;> simp

theorem prepareServiceAccount_ok (h : prepareServiceAccount c = .ok c') :
    ∃ sa, c' = { c with serviceAccountName := sa } := by
  unfold prepareServiceAccount at h
  split_ifs at h
  · split at h <;> cases h
    exacts [⟨_, rfl⟩, ⟨_, rfl⟩]
  · cases h
    exact ⟨c.serviceAccountName, rfl⟩

theorem defaultDNSServiceIP_ok (h : defaultDNSServiceIP env c = .ok c') :
    ∃ dns, c' = { c with dnsServiceAddr := dns } ∧ (c.serviceCIDR.isSome = true → dns.isSome = true) := by
  unfold defaultDNSServiceIP at h
  split at h
  · split at h <;> cases h
    exact ⟨_, rfl, fun _ => rfl⟩
  · next hne =>
    cases h
    refine ⟨c.dnsServiceAddr, rfl, fun hs => ?_⟩
    obtain ⟨cidr, hc⟩ := Option.isSome_iff_exists.mp hs
    cases hd : c.dnsServiceAddr
    · exact (hne cidr hd hc).elim
    · rfl

theorem prepareDNS_ok (h : prepareDNS env lib c = .ok c') :
    ∃ core dns, c' = { c with coreDNSServiceAddr := core, dnsServiceAddr := dns } ∧
      (c.serviceCIDR.isSome = true → dns.isSome = true) := by
  unfold prepareDNS at h
  simp only [bind_eq_ok_except] at h
  obtain ⟨core, -, dns, -, h⟩ := h
  obtain ⟨dns', rfl, hs⟩ := defaultDNSServiceIP_ok h
  exact ⟨core, dns', rfl, hs⟩

/-- An invalid `dns-service-ip` is reported with the text of `coredns-service-ip`, not its
own: when `coredns-service-ip` is not given, the error shows an empty address. -/
theorem prepareDNS_dnsServiceIP_error
    (hcore : c.coreDNSServiceIP = "" ∨ (lib.parseIP c.coreDNSServiceIP).isSome = true)
    (hdns : c.dnsServiceIP ≠ "") (hbad : lib.parseIP c.dnsServiceIP = none) :
    prepareDNS env lib c = .error (.invalidCoreDNSServiceIP c.coreDNSServiceIP) := by
  have hdns' : parseAddressOption lib c.dnsServiceIP c.coreDNSServiceIP c.dnsServiceAddr =
      .error (.invalidCoreDNSServiceIP c.coreDNSServiceIP) := by
    simp [parseAddressOption, hdns, hbad]
  obtain ⟨core, hcore'⟩ : ∃ core,
      parseAddressOption lib c.coreDNSServiceIP c.coreDNSServiceIP c.coreDNSServiceAddr = .ok core := by
    by_cases he : c.coreDNSServiceIP = ""
    · exact ⟨c.coreDNSServiceAddr, by simp [parseAddressOption, he]⟩
    · obtain ⟨ip, hip⟩ := Option.isSome_iff_exists.mp (hcore.resolve_left he)
      exact ⟨some ip, by simp [parseAddressOption, he, hip]⟩
  simp only [prepareDNS, hcore', hdns', ok_bind_except, error_bind_except]

theorem prepareDNSPropagation_ok (h : prepareDNSPropagation env c = .ok c') :
    ∃ m, c' = { c with dnsPropagation := m } ∧ m ∈ env.dnsModes := by
  unfold prepareDNSPropagation at h
  dsimp only at h
  split_ifs at h with hm
  cases h
  exact ⟨_, rfl, hm⟩

end Blocks

/-! ## A prepared configuration -/

/-- What a configuration that `Prepare` accepted satisfies: the derived fields come from the
options, and every check of `Prepare` holds. -/
structure Prepared (env : BrokerEnv) (c : Config) : Prop where
  cluster : ∃ ip cidr, env.requireCIDR c.address "link-address" = .ok (ip, cidr) ∧
    c.clusterCIDR = some cidr ∧ c.clusterAddress = some (cidrIP cidr ip)
  service : env.optionalCIDR c.service "service-cidr" = .ok c.serviceCIDR
  autoConnect : c.autoConnect = true →
    c.serviceCIDR.isSome = true ∧ (empty c.secret = false ∨ empty c.certFile = false)
  responsible : c.responsibleSet = responsibleSet c.responsible
  secret : empty c.secret = true ∨ empty c.certFile = true
  manageMode : c.manageMode ∈ validModes
  dnsName : c.manageMode = MANAGE_MODE_SELF → c.dnsName ≠ ""
  certFile : empty c.certFile = false → empty c.keyFile = false ∧ empty c.caCertFile = false
  dnsServiceAddr : c.serviceCIDR.isSome = true → c.dnsServiceAddr.isSome = true
  dnsPropagation : c.dnsPropagation ∈ env.dnsModes

/-- A configuration that `Prepare` accepts is `Prepared`. -/
theorem prepare_prepared {env : BrokerEnv} {lib : Library} {c c' : Config} (h : prepare env lib c = .ok c') :
    Prepared env c' := by
  unfold prepare at h
  simp only [bind_eq_ok_except] at h
  obtain ⟨_, -, c₁, h₁, _, h₂, _, h₃, c₂, h₄, _, h₅, c₃, h₆, c₄, h₇, h₈⟩ := h
  obtain ⟨ip, cidr, s, hr, hs, rfl⟩ := prepareCIDRs_ok h₁
  obtain ⟨m, rfl, hm, hself⟩ := prepareManageMode_ok h₄
  obtain ⟨sa, rfl⟩ := prepareServiceAccount_ok h₆
  obtain ⟨core, dns, rfl, hdns⟩ := prepareDNS_ok h₇
  obtain ⟨mode, rfl, hmode⟩ := prepareDNSPropagation_ok h₈
  exact ⟨⟨ip, cidr, hr, rfl, rfl⟩, hs, checkAutoConnect_ok.mp h₂, rfl, checkSecret_ok.mp h₃, hm, hself,
    checkCertFile_ok.mp h₅, hdns, hmode⟩

/-! ## The defaults of `AddOptionsToSet` -/

/-- The defaults `AddOptionsToSet` gives the options that `Prepare` and `MatchLink` read:
`served-links` is `all`, `secret-manage-mode` is `none` and `dns-propagation` is `none`; every
other option is empty or off, and the fields `Prepare` derives are unset. -/
def optionDefaults : Config where
  address := ""
  service := ""
  responsible := "all"
  clusterCIDR := none
  clusterAddress := none
  serviceCIDR := none
  responsibleSet := []
  autoConnect := false
  secret := ""
  certFile := ""
  keyFile := ""
  caCertFile := ""
  manageMode := MANAGE_MODE_NONE
  dnsName := ""
  serviceAccount := ""
  serviceAccountName := none
  coreDNSServiceIP := ""
  coreDNSServiceAddr := none
  dnsServiceIP := ""
  dnsServiceAddr := none
  dnsPropagation := "none"

/-- The defaults pass every check of `Prepare` once `link-address`, the one option without a
default, is given: the broker then serves all links, has no service network, manages no
TLS secret and no DNS address. -/
theorem prepare_optionDefaults {env : BrokerEnv} (lib : Library) (address : String) {ip : IP} {cidr : IPNet}
    (hbase : env.basePrepare = .ok ()) (haddr : env.requireCIDR address "link-address" = .ok (ip, cidr))
    (hservice : env.optionalCIDR "" "service-cidr" = .ok none) (hmode : env.toLower "none" ∈ env.dnsModes) :
    prepare env lib { optionDefaults with address := address } =
      .ok { optionDefaults with
        address := address
        clusterCIDR := some cidr
        clusterAddress := some (cidrIP cidr ip)
        responsibleSet := ["all"]
        dnsPropagation := env.toLower "none" } := by
  have hall : responsibleSet "all" = ["all"] := by rw [responsibleSet, String.split_of_valid]; decide
  simp only [prepare, prepareCIDRs, checkAutoConnect, checkSecret, prepareManageMode, checkCertFile,
    prepareServiceAccount, prepareDNS, parseAddressOption, defaultDNSServiceIP, prepareDNSPropagation,
    optionDefaults, hbase, haddr, hservice, hmode, hall, Except.mapError, pure_except, ok_bind_except,
    show empty "" = true from rfl, show empty MANAGE_MODE_NONE = false from rfl,
    show MANAGE_MODE_NONE ∈ validModes by decide, show MANAGE_MODE_NONE ≠ MANAGE_MODE_SELF by decide,
    Bool.and_eq_true, Bool.not_eq_eq_eq_not, Bool.not_true, Bool.false_eq_true, Bool.true_eq_false, ite_not,
    ↓reduceIte, and_self, and_true]

/-- The defaults with the link address `10.0.0.1/24`. -/
theorem prepare_prepared_defaults :
    let env : BrokerEnv := ⟨.ok (), fun _ _ => .ok (IP.ipv4 10 0 0 1, ⟨IP.ipv4 10 0 0 0, [255, 255, 255, 0]⟩),
      fun _ _ => .ok none, 10, ["none"], id⟩
    let c' : Config := { optionDefaults with
      address := "10.0.0.1/24"
      clusterCIDR := some ⟨IP.ipv4 10 0 0 0, [255, 255, 255, 0]⟩
      clusterAddress := some (cidrIP ⟨IP.ipv4 10 0 0 0, [255, 255, 255, 0]⟩ (IP.ipv4 10 0 0 1))
      responsibleSet := ["all"] }
    prepare env Library.ipv4 { optionDefaults with address := "10.0.0.1/24" } = .ok c' ∧ Prepared env c' := by
  intro env c'
  have h : prepare env Library.ipv4 { optionDefaults with address := "10.0.0.1/24" } = .ok c' :=
    prepare_optionDefaults _ _ rfl rfl rfl (by decide)
  exact ⟨h, prepare_prepared h⟩

/-- On a prepared configuration `MatchLink` never dereferences a nil network: it serves
exactly the links whose cluster address parses, that it is responsible for, and whose
cluster address lies in the cluster network. -/
theorem matchLink_prepared {env : BrokerEnv} {c : Config} (hp : Prepared env c) (lib : Library) (obj : KubeLink) :
    ∃ r, matchLink lib c obj = some r ∧
      (r.1 = true ↔ ∃ ip n, lib.parseCIDR obj.spec.clusterAddress = .ok (ip, n) ∧
        ("all" ∈ c.responsibleSet ∨ obj.name ∈ c.responsibleSet) ∧
        ∃ cidr, c.clusterCIDR = some cidr ∧ cidr.contains ip = true) := by
  obtain ⟨-, cidr, -, hc, -⟩ := hp.cluster
  unfold matchLink
  rcases hparse : lib.parseCIDR obj.spec.clusterAddress with e | ⟨ip, n⟩
  · exact ⟨_, rfl, iff_of_false Bool.false_ne_true fun ⟨_, _, h, _⟩ => nomatch h⟩
  · by_cases hr : "all" ∈ c.responsibleSet ∨ obj.name ∈ c.responsibleSet
    · have hr' : (!c.responsibleSet.contains "all" && !c.responsibleSet.contains obj.name) = false := by
        rcases hr with h | h <;> simp [List.elem_iff, h]
      refine ⟨(cidr.contains ip, some ip), by simp only [hr', hc, Bool.false_eq_true, if_false, Option.map_some'],
        fun h => ⟨ip, n, rfl, hr, cidr, hc, h⟩, fun ⟨_, _, h, _, _, hc', h'⟩ => ?_⟩
      cases h
      cases hc.symm.trans hc'
      exact h'
    · have hr' : (!c.responsibleSet.contains "all" && !c.responsibleSet.contains obj.name) = true := by
        simpa [List.elem_iff, not_or] using hr
      exact ⟨(false, none), by simp only [hr', if_true], iff_of_false Bool.false_ne_true fun ⟨_, _, _, h, _⟩ => hr h⟩

/-- The defaults with the link address `10.0.0.1/24`, on the link of `peerLink "a" "peer"`. -/
theorem matchLink_prepared_defaults :
    let env : BrokerEnv := ⟨.ok (), fun _ _ => .ok (IP.ipv4 10 0 0 1, ⟨IP.ipv4 10 0 0 0, [255, 255, 255, 0]⟩),
      fun _ _ => .ok none, 10, ["none"], id⟩
    let c : Config := { optionDefaults with
      address := "10.0.0.1/24"
      clusterCIDR := some ⟨IP.ipv4 10 0 0 0, [255, 255, 255, 0]⟩
      clusterAddress := some (cidrIP ⟨IP.ipv4 10 0 0 0, [255, 255, 255, 0]⟩ (IP.ipv4 10 0 0 1))
      responsibleSet := responsibleSet "all" }
    let obj := peerLink "a" "peer"
    Prepared env c ∧ ∃ r, matchLink Library.ipv4 c obj = some r ∧
      (r.1 = true ↔ ∃ ip n, Library.ipv4.parseCIDR obj.spec.clusterAddress = .ok (ip, n) ∧
        ("all" ∈ c.responsibleSet ∨ obj.name ∈ c.responsibleSet) ∧
        ∃ cidr, c.clusterCIDR = some cidr ∧ cidr.contains ip = true) := by
  intro env c obj
  have hp : Prepared env c := ⟨⟨_, _, rfl, rfl, rfl⟩, rfl, fun h => absurd h Bool.false_ne_true, rfl, .inl rfl,
    by decide, fun h => absurd h (by decide), fun h => absurd h (by decide), fun h => absurd h (by decide),
    by decide⟩
  exact ⟨hp, matchLink_prepared hp Library.ipv4 obj⟩

/-! ## `GetEndpoints` -/

theorem foldl_selectPort_isSome (ports : List EndpointPort) (init : Option EndpointPort) :
    (ports.foldl (fun port p => if port.isNone || p.name = "wireguard" || p.name = "bridge" then some p else port)
      init).isSome = (init.isSome || !ports.isEmpty) := by
  induction ports generalizing init with
  | nil => simp
  | cons p ps ih =>
    rw [List.foldl_cons, ih, List.isEmpty_cons, Bool.not_false, Bool.or_true, Bool.or_eq_true]
    left
    cases init with
    | none => rfl
    | some _ => split_ifs <;> rfl

theorem foldl_getEndpoints (lib : Library) (subsets : List EndpointSubset) (acc : List IP) :
    subsets.foldl (fun result sub =>
      if (selectPort sub.ports).isSome then result ++ sub.addresses.filterMap lib.parseIP else result) acc =
      acc ++ (subsets.filter (!·.ports.isEmpty)).flatMap (·.addresses.filterMap lib.parseIP) := by
  induction subsets generalizing acc with
  | nil => simp
  | cons sub subs ih =>
    have hsel : (selectPort sub.ports).isSome = !sub.ports.isEmpty :=
      (foldl_selectPort_isSome sub.ports none).trans (by simp)
    rw [List.foldl_cons, ih, List.filter_cons, hsel]
    cases sub.ports.isEmpty <;> simp

/-- `GetEndpoints` returns the addresses that parse of every subset with a port, in order:
the loop over the ports finds a port exactly when there is one, and which port it picks is
never used. -/
theorem getEndpoints_eq (lib : Library) (subsets : List EndpointSubset) :
    getEndpoints lib subsets =
      (subsets.filter (!·.ports.isEmpty)).flatMap (·.addresses.filterMap lib.parseIP) := by
  rw [getEndpoints, foldl_getEndpoints, List.nil_append]

end Kubelink
