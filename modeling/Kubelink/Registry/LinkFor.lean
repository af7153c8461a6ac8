import Kubelink.Registry.Link

/-!
# `LinkFor`: from a `KubeLink` to a `Link`

`LinkFor` parses the fields of a `KubeLink` resource in a fixed order and stops at the
first that fails: the service CIDR, the egress CIDRs, the ingress policy, the cluster
address, the endpoint and gateway, the endpoint's port, the public key. The endpoint is
split at `:` with `strings.Split`; a second part is read by `strconv.ParseInt(·, 10, 32)`,
and an endpoint with no `:` gets the registry's default port appended.

Results:
* `linkFor_eq`: once the fields other than the endpoint are valid, `LinkFor` is the
  endpoint block `endpointFor`, refusing only the empty endpoint besides.
* `endpointFor_of_not_mem`, `endpointFor_of_eq`: the endpoint block reads the host before
  the first `:` and the port between the first and the second `:`, and ignores what follows.
* `linkFor_endpoint`: the endpoints `LinkFor` accepts, and the host, port and endpoint it
  stores. It accepts `h:0`, `:80` and `h:80:x` (`linkFor_accepts_odd_endpoints`).
-/

namespace Kubelink

/-- The fields of a `KubeLinkSpec` that `LinkFor` reads. -/
structure KubeLinkSpec where
  cidr : String
  clusterAddress : String
  endpoint : String
  egress : List String
  ingress : List String
  publicKey : String
deriving DecidableEq, Repr

/-- The field of a `KubeLinkStatus` that `LinkFor` reads. -/
structure KubeLinkStatus where
  gateway : String
deriving DecidableEq, Repr

/-- `v1alpha1.KubeLink`, with its name. -/
structure KubeLink where
  name : String
  spec : KubeLinkSpec
  status : KubeLinkStatus
deriving DecidableEq, Repr

/-- Modelled from the spec: `utils.Empty` (its file is not under src/) tells an optional
field that is not given, the empty text. -/
def empty (s : String) : Bool := s.isEmpty

/-- The kind of a `strconv.NumError`: `ErrSyntax` or `ErrRange`. -/
inductive NumErrorKind
  | errSyntax
  | errRange
deriving DecidableEq, Repr

/-- `strconv.NumError`: the function, the text and the kind of error. -/
structure NumError where
  func : String
  num : String
  err : NumErrorKind
deriving DecidableEq, Repr

/-- The digit loop of `strconv.ParseUint(s, 10, bitSize)` from the value `n` read so far:
a byte that is not a decimal digit is a syntax error, a value above `maxVal` a range
error. -/
def parseUintDigits (maxVal : Nat) : Nat → List Char → Except NumErrorKind Nat
  | n, [] => .ok n
  | n, c :: cs =>
    if c.isDigit then
      if digitStep n c > maxVal then .error .errRange else parseUintDigits maxVal (digitStep n c) cs
    else .error .errSyntax

/-- `strconv.ParseUint(s, 10, bitSize)`, with the kind of its error. -/
def parseUint (s : List Char) (bitSize : Nat) : Except NumErrorKind Nat :=
  if s = [] then .error .errSyntax else parseUintDigits (2 ^ bitSize - 1) 0 s

/-- The sign that `strconv.ParseInt` picks off the text `c :: cs`: a leading `+` or `-` is
cut from the digits, and `-` makes the value negative. -/
def pickSign (c : Char) (cs : List Char) : Bool × List Char :=
  if c = '+' then (false, cs) else if c = '-' then (true, cs) else (false, c :: cs)

/-- The range check of `strconv.ParseInt(s, 10, bitSize)` on the result of `ParseUint`. A
range error of `ParseUint` is a range error here too, since `ParseUint` then returns its
bound, which is above the cutoff. -/
def signedRange (s : String) (bitSize : Nat) (neg : Bool) : Except NumErrorKind Nat → Except NumError Int
  | .error k => .error ⟨"ParseInt", s, k⟩
  | .ok un =>
    if !neg && un ≥ 2 ^ (bitSize - 1) then .error ⟨"ParseInt", s, .errRange⟩
    else if neg && un > 2 ^ (bitSize - 1) then .error ⟨"ParseInt", s, .errRange⟩
    else .ok (if neg then -(un : Int) else un)

/-- `strconv.ParseInt(s, 10, bitSize)`: an optional sign and decimal digits, within the
signed range of `bitSize` bits. -/
def parseInt (s : String) (bitSize : Nat) : Except NumError Int :=
  match s.toList with
  | [] => .error ⟨"ParseInt", s, .errSyntax⟩
  | c :: cs => signedRange s bitSize (pickSign c cs).1 (parseUint (pickSign c cs).2 bitSize)

/-- `strings.Split(s, ":")`. -/
def splitColon (s : String) : List String :=
  (s.toList.splitOn ':').map String.mk

/-- The errors of `LinkFor`, one for each `fmt.Errorf` of the source. -/
inductive LinkForError
  /-- `invalid routing cidr %q: %s`, which names `Spec.CIDR` also for a failing egress entry. -/
  | invalidRoutingCIDR (cidr : String) (err : String)
  /-- `invalid cluster ingress: %s` -/
  | invalidClusterIngress (err : IngressError)
  /-- `invalid cluster address %q: %s` -/
  | invalidClusterAddress (address : String) (err : String)
  /-- `no endpoint` -/
  | noEndpoint
  /-- `no gateway address` -/
  | noGatewayAddress
  /-- `invalid gateway address %q` -/
  | invalidGatewayAddress (gateway : String)
  /-- `invalid gateway port %q: %s`, for the port of the endpoint. -/
  | invalidGatewayPort (port : String) (err : NumError)
  /-- `invalid public wireguard key %q: %s` -/
  | invalidPublicKey (key : String) (err : String)
deriving DecidableEq, Repr

section LinkFor

variable (lib : Library)

/-- The service CIDR block of `LinkFor`: `nil` when `Spec.CIDR` is empty. -/
def serviceCIDRFor (spec : KubeLinkSpec) : Except LinkForError (Option IPNet) :=
  if !empty spec.cidr then
    match lib.parseCIDR spec.cidr with
    | .error err => .error (.invalidRoutingCIDR spec.cidr err)
    | .ok (_, cidr) => .ok (some cidr)
  else .ok none

/-- The egress loop of `LinkFor`, adding each parsed entry to `egress`. -/
def egressFor (spec : KubeLinkSpec) (egress : CIDRList) : Except LinkForError CIDRList :=
  spec.egress.foldlM (fun egress c =>
    match lib.parseNet c with
    | .error err => .error (.invalidRoutingCIDR spec.cidr err)
    | .ok cidr => .ok (egress.add [cidr])) egress

/-- The endpoint block of `LinkFor`: the host, the port and the endpoint it stores. -/
def endpointFor (defaultport : Int) (endpoint : String) : Except LinkForError (String × Int × String) :=
  let parts := splitColon endpoint
  if endpoint.length ≠ 0 ∧ endpoint ≠ "none" then
    if parts.length = 1 then .ok (parts.headD "", defaultport, endpoint ++ ":" ++ toString defaultport)
    else
      match parseInt (parts.getD 1 "") 32 with
      | .error err => .error (.invalidGatewayPort (parts.getD 1 "") err)
      | .ok i => .ok (parts.headD "", i, endpoint)
  else .ok (parts.headD "", defaultport, endpoint)

/-- The public key block of `LinkFor`: `nil` when `Spec.PublicKey` is empty. -/
def publicKeyFor (spec : KubeLinkSpec) : Except LinkForError (Option Key) :=
  if !empty spec.publicKey then
    match lib.parseKey spec.publicKey with
    | .error err => .error (.invalidPublicKey spec.publicKey err)
    | .ok key => .ok (some key)
  else .ok none

/-- `links.LinkFor(link)`, with the registry's default port. -/
def linkFor (defaultport : Int) (link : KubeLink) : Except LinkForError Link := do
  let serviceCIDR ← serviceCIDRFor lib link.spec
  let egress ← egressFor lib link.spec ((⟨none⟩ : CIDRList).add serviceCIDR.toList)
  let ingress ← (parseIPRange lib.parseNet link.spec.ingress).mapError .invalidClusterIngress
  let (ip, ccidr) ← (lib.parseCIDR link.spec.clusterAddress).mapError
    (.invalidClusterAddress link.spec.clusterAddress)
  if link.spec.endpoint = "" then throw .noEndpoint
  if link.status.gateway = "" then throw .noGatewayAddress
  let gateway ← match lib.parseIP link.status.gateway with
    | none => throw (.invalidGatewayAddress link.status.gateway)
    | some g => pure g
  let (host, port, endpoint) ← endpointFor defaultport link.spec.endpoint
  let publicKey ← publicKeyFor lib link.spec
  pure ⟨link.name, serviceCIDR, egress, ingress, { ccidr with ip := ip }, gateway, host, port,
    endpoint, publicKey, .zero⟩

end LinkFor

/-! ## `strconv.ParseInt` accepts the signed decimals of 32-bit integers -/

/-- Spec side: `p` is an optionally signed decimal numeral whose value `v` is a 32-bit
integer. -/
def IsInt32Text (p : List Char) (v : Int) : Prop :=
  ∃ sign ds u, (sign = [] ∨ sign = ['+'] ∨ sign = ['-']) ∧ p = sign ++ ds ∧
    decimal ds = some u ∧ v = (if sign = ['-'] then -(u : Int) else u) ∧ -2 ^ 31 ≤ v ∧ v < 2 ^ 31

theorem le_foldl_digitStep (ds : List Char) (n : Nat) : n ≤ ds.foldl digitStep n := by
  induction ds generalizing n with
  | nil => exact le_rfl
  | cons c cs ih => exact (show n ≤ digitStep n c by unfold digitStep; omega).trans (ih _)

/-- The digit loop reads a run of digits whose value, from `n` on, stays within `maxVal`;
since the value only grows, checking it after each digit is checking the last one. -/
theorem parseUintDigits_ok_iff (maxVal : Nat) (ds : List Char) {n v : Nat} (hn : n ≤ maxVal) :
    parseUintDigits maxVal n ds = .ok v ↔
      ds.all Char.isDigit ∧ v = ds.foldl digitStep n ∧ v ≤ maxVal := by
  induction ds generalizing n with
  | nil =>
    simp only [parseUintDigits, Except.ok.injEq, List.all_nil, List.foldl_nil, true_and]
    exact ⟨fun h => ⟨h.symm, h ▸ hn⟩, fun h => h.1.symm⟩
  | cons c cs ih =>
    by_cases hc : c.isDigit
    · by_cases hover : digitStep n c > maxVal
      · have := le_foldl_digitStep cs (digitStep n c)
        simp only [parseUintDigits, hc, hover, if_true, List.all_cons, List.foldl_cons]
        constructor
        · rintro ⟨⟩
        · omega
      · simp only [parseUintDigits, hc, hover, if_true, if_false, ih (Nat.le_of_not_gt hover),
          List.all_cons, List.foldl_cons, Bool.true_and]
    · simp [parseUintDigits, hc]

/-- `ParseUint` accepts the decimals below `2^bitSize`. -/
theorem parseUint_ok_iff (s : List Char) (bitSize u : Nat) :
    parseUint s bitSize = .ok u ↔ decimal s = some u ∧ u < 2 ^ bitSize := by
  have hpos : 1 ≤ 2 ^ bitSize := Nat.one_le_two_pow
  by_cases hs : s = []
  · simp [parseUint, decimal, hs]
  · rw [parseUint, if_neg hs, parseUintDigits_ok_iff _ _ (Nat.zero_le _)]
    simp only [decimal, hs, ne_eq, not_false_eq_true, true_and]
    by_cases hd : s.all Char.isDigit <;> simp [hd, eq_comm]; omega

theorem decimal_ne_some_of_not_digit {c : Char} (hc : c.isDigit = false) (cs : List Char) (u : Nat) :
    decimal (c :: cs) ≠ some u := by
  simp [decimal, hc]

theorem pickSign_plus (cs : List Char) : pickSign '+' cs = (false, cs) := if_pos rfl

theorem pickSign_minus (cs : List Char) : pickSign '-' cs = (true, cs) := by
  rw [pickSign, if_neg (by decide), if_pos rfl]

theorem pickSign_of_ne {c : Char} (hp : c ≠ '+') (hm : c ≠ '-') (cs : List Char) :
    pickSign c cs = (false, c :: cs) := by
  rw [pickSign, if_neg hp, if_neg hm]

/-- A split of a numeral into a sign and digits is the one `pickSign` makes, as a sign is no
digit. -/
theorem pickSign_of_split {c : Char} {cs sign ds : List Char} {u : Nat}
    (hsign : sign = [] ∨ sign = ['+'] ∨ sign = ['-']) (hp : c :: cs = sign ++ ds)
    (hu : decimal ds = some u) : ((pickSign c cs).1 = true ↔ sign = ['-']) ∧ (pickSign c cs).2 = ds := by
  rcases hsign with rfl | rfl | rfl
  · rw [List.nil_append] at hp
    subst hp
    have hd : c.isDigit = true := by
      by_contra h
      exact decimal_ne_some_of_not_digit (Bool.eq_false_iff.mpr h) cs u hu
    have hplus : c ≠ '+' := by rintro rfl; exact absurd hd (by decide)
    have hminus : c ≠ '-' := by rintro rfl; exact absurd hd (by decide)
    rw [pickSign_of_ne hplus hminus]
    exact ⟨iff_of_false Bool.false_ne_true (List.cons_ne_nil _ _).symm, rfl⟩
  · obtain ⟨rfl, rfl⟩ := List.cons_eq_cons.mp hp
    rw [pickSign_plus]
    exact ⟨iff_of_false Bool.false_ne_true (by decide), rfl⟩
  · obtain ⟨rfl, rfl⟩ := List.cons_eq_cons.mp hp
    rw [pickSign_minus]
    exact ⟨iff_of_true rfl rfl, rfl⟩

/-- `pickSign` splits a numeral into a sign and the rest. -/
theorem split_of_pickSign (c : Char) (cs : List Char) :
    ∃ sign : List Char, (sign = [] ∨ sign = ['+'] ∨ sign = ['-']) ∧ c :: cs = sign ++ (pickSign c cs).2 ∧
      ((pickSign c cs).1 = true ↔ sign = ['-']) := by
  by_cases hp : c = '+'
  · subst hp
    rw [pickSign_plus]
    exact ⟨['+'], .inr (.inl rfl), rfl, iff_of_false Bool.false_ne_true (by decide)⟩
  · by_cases hm : c = '-'
    · subst hm
      rw [pickSign_minus]
      exact ⟨['-'], .inr (.inr rfl), rfl, iff_of_true rfl rfl⟩
    · rw [pickSign_of_ne hp hm]
      exact ⟨[], .inl rfl, rfl, iff_of_false Bool.false_ne_true (List.cons_ne_nil _ _).symm⟩

/-- The first character of a numeral decides its sign. -/
theorem isInt32Text_cons (c : Char) (cs : List Char) (v : Int) :
    IsInt32Text (c :: cs) v ↔
      ∃ u, decimal (pickSign c cs).2 = some u ∧ v = (if (pickSign c cs).1 then -(u : Int) else u) ∧
        -2 ^ 31 ≤ v ∧ v < 2 ^ 31 := by
  constructor
  · rintro ⟨sign, ds, u, hsign, hp, hu, hv, hr⟩
    obtain ⟨hneg, hds⟩ := pickSign_of_split hsign hp hu
    exact ⟨u, hds ▸ hu, hv.trans (if_congr hneg.symm rfl rfl), hr⟩
  · rintro ⟨u, hu, hv, hr⟩
    obtain ⟨sign, hsign, hp, hneg⟩ := split_of_pickSign c cs
    exact ⟨sign, _, u, hsign, hp, hu, hv.trans (if_congr hneg rfl rfl), hr⟩

/-- The range check of 32 bits on a value that `ParseUint` read. -/
theorem signedRange_ok (s : String) (neg : Bool) (un : Nat) (v : Int) :
    signedRange s 32 neg (.ok un) = .ok v ↔
      v = (if neg then -(un : Int) else un) ∧ -2 ^ 31 ≤ v ∧ v < 2 ^ 31 := by
  have h31 : (2 : Nat) ^ (32 - 1) = 2147483648 := rfl
  cases neg <;> simp only [signedRange, h31, Bool.not_false, Bool.not_true, Bool.true_and, Bool.false_and,
    decide_eq_true_eq, Bool.false_eq_true, if_false, if_true] <;> split_ifs <;>
    simp only [reduceCtorEq, Except.ok.injEq, false_iff, not_and] <;> omega

/-- The range check admits the values of the signed 32-bit range. -/
theorem signedRange_ok_iff (s : String) (neg : Bool) (ds : List Char) (v : Int) :
    signedRange s 32 neg (parseUint ds 32) = .ok v ↔
      ∃ u, decimal ds = some u ∧ v = (if neg then -(u : Int) else u) ∧ -2 ^ 31 ≤ v ∧ v < 2 ^ 31 := by
  cases hu : parseUint ds 32 with
  | error k =>
    simp only [signedRange, reduceCtorEq, false_iff, not_exists, not_and]
    intro u hd hv hlo hhi
    have hlt : u < 2 ^ 32 := by
      cases neg <;> simp only [Bool.false_eq_true, if_false, if_true] at hv <;> omega
    rw [(parseUint_ok_iff ds 32 u).mpr ⟨hd, hlt⟩] at hu
    cases hu
  | ok un =>
    obtain ⟨hd, -⟩ := (parseUint_ok_iff ds 32 un).mp hu
    rw [signedRange_ok]
    simp only [hd, Option.some.injEq, exists_eq_left']

/-- `strconv.ParseInt(p, 10, 32)` accepts exactly the optionally signed decimals of 32-bit
integers: it admits `+80`, `-1` and `0`, and refuses `2147483648`. -/
theorem parseInt_ok_iff (p : List Char) (v : Int) :
    parseInt (String.mk p) 32 = .ok v ↔ IsInt32Text p v := by
  cases p with
  | nil =>
    simp only [parseInt, String.toList, reduceCtorEq, false_iff]
    rintro ⟨sign, ds, u, -, hp, hu, -⟩
    obtain ⟨-, rfl⟩ := List.append_eq_nil.mp hp.symm
    simp [decimal] at hu
  | cons c cs => rw [isInt32Text_cons, ← signedRange_ok_iff (String.mk (c :: cs))]; rfl

/-! ## The endpoint block -/

theorem splitOn_colon_of_not_mem {l : List Char} (h : ':' ∉ l) : l.splitOn ':' = [l] :=
  List.splitOnP_eq_single _ _ fun x hx hc => h (by rwa [beq_iff_eq.mp hc] at hx)

theorem splitOn_colon_first {h : List Char} (hh : ':' ∉ h) (as : List Char) :
    (h ++ ':' :: as).splitOn ':' = h :: as.splitOn ':' :=
  List.splitOnP_first _ _ (fun x hx hc => hh (by rwa [beq_iff_eq.mp hc] at hx)) ':' (by simp) as

/-- The part after the first `:` starts with the text up to the second `:`, if any. -/
theorem splitOn_colon_head {p rest : List Char} (hp : ':' ∉ p)
    (hrest : rest = [] ∨ ∃ r, rest = ':' :: r) : ∃ tl, (p ++ rest).splitOn ':' = p :: tl := by
  rcases hrest with rfl | ⟨r, rfl⟩
  · exact ⟨[], by simpa using splitOn_colon_of_not_mem hp⟩
  · exact ⟨r.splitOn ':', splitOn_colon_first hp r⟩

theorem length_ne_zero_iff {e : String} : e.length ≠ 0 ↔ e ≠ "" := by
  obtain ⟨_ | ⟨c, cs⟩⟩ := e <;> simp [String.length, String.ext_iff]

/-- An endpoint without `:` keeps the default port, and gets it appended unless it is empty
or `none`. -/
theorem endpointFor_of_not_mem (defaultport : Int) {e : String} (h : ':' ∉ e.toList) :
    endpointFor defaultport e =
      .ok (e, defaultport, if e ≠ "" ∧ e ≠ "none" then e ++ ":" ++ toString defaultport else e) := by
  have hsplit : splitColon e = [e] := by rw [splitColon, splitOn_colon_of_not_mem h]; rfl
  simp only [endpointFor, hsplit, length_ne_zero_iff, List.length_singleton, if_true,
    List.headD_cons]
  split_ifs <;> rfl

/-- An endpoint `h:p` or `h:p:…` has the host `h` and the port `ParseInt` reads from `p`. -/
theorem endpointFor_of_eq (defaultport : Int) {e : String} {h p rest : List Char}
    (hh : ':' ∉ h) (hp : ':' ∉ p) (hrest : rest = [] ∨ ∃ r, rest = ':' :: r)
    (he : e.toList = h ++ ':' :: (p ++ rest)) :
    endpointFor defaultport e =
      match parseInt (String.mk p) 32 with
      | .error err => .error (.invalidGatewayPort (String.mk p) err)
      | .ok i => .ok (String.mk h, i, e) := by
  obtain ⟨tl, htl⟩ := splitOn_colon_head hp hrest
  have hsplit : splitColon e = String.mk h :: String.mk p :: tl.map String.mk := by
    rw [splitColon, he, splitOn_colon_first hh, htl]; rfl
  have hlen : e.length ≠ 0 := by
    obtain ⟨d⟩ := e
    simp only [String.toList] at he
    simp [String.length, he]
  have hnone : e ≠ "none" := by
    rintro rfl
    exact absurd (show ':' ∈ "none".toList by rw [he]; simp) (by decide)
  simp only [endpointFor, hsplit, ne_eq, hlen, hnone, not_false_eq_true, and_self, if_true,
    List.length_cons, add_left_eq_self, add_eq_zero, List.length_map, one_ne_zero, and_false,
    if_false, List.getD_cons_succ, List.getD_cons_zero, List.headD_cons]

/-! ## `LinkFor` decides on the endpoint -/

/-- The fields of a `KubeLink` other than the endpoint pass the checks of `LinkFor`. -/
structure OtherFieldsValid (lib : Library) (link : KubeLink) : Prop where
  cidr : empty link.spec.cidr = true ∨ ∃ a n, lib.parseCIDR link.spec.cidr = .ok (a, n)
  egress : ∀ c ∈ link.spec.egress, ∃ n, lib.parseNet c = .ok n
  ingress : ∃ r, parseIPRange lib.parseNet link.spec.ingress = .ok r
  clusterAddress : ∃ ip n, lib.parseCIDR link.spec.clusterAddress = .ok (ip, n)
  gateway : link.status.gateway ≠ "" ∧ ∃ g, lib.parseIP link.status.gateway = some g
  publicKey : empty link.spec.publicKey = true ∨ ∃ k, lib.parseKey link.spec.publicKey = .ok k

section Valid

variable {lib : Library}

theorem serviceCIDRFor_ok {spec : KubeLinkSpec}
    (h : empty spec.cidr = true ∨ ∃ a n, lib.parseCIDR spec.cidr = .ok (a, n)) :
    ∃ c, serviceCIDRFor lib spec = .ok c := by
  rcases h with h | ⟨a, n, h⟩
  · exact ⟨none, by simp [serviceCIDRFor, h]⟩
  · by_cases he : empty spec.cidr
    · exact ⟨none, by simp [serviceCIDRFor, he]⟩
    · exact ⟨some n, by simp [serviceCIDRFor, he, h]⟩

theorem egressFor_ok {spec : KubeLinkSpec} (h : ∀ c ∈ spec.egress, ∃ n, lib.parseNet c = .ok n)
    (egress : CIDRList) : ∃ r, egressFor lib spec egress = .ok r := by
  unfold egressFor
  generalize spec.egress = cs at h ⊢
  induction cs generalizing egress with
  | nil => exact ⟨egress, rfl⟩
  | cons c cs ih =>
    obtain ⟨n, hn⟩ := h c (List.mem_cons_self c cs)
    obtain ⟨r, hr⟩ := ih (egress.add [n]) (fun c' hc' => h c' (List.mem_cons_of_mem c hc'))
    exact ⟨r, by simp [List.foldlM_cons, hn, hr, bind, Except.bind]⟩

theorem publicKeyFor_ok {spec : KubeLinkSpec}
    (h : empty spec.publicKey = true ∨ ∃ k, lib.parseKey spec.publicKey = .ok k) :
    ∃ k, publicKeyFor lib spec = .ok k := by
  rcases h with h | ⟨k, h⟩
  · exact ⟨none, by simp [publicKeyFor, h]⟩
  · by_cases he : empty spec.publicKey
    · exact ⟨none, by simp [publicKeyFor, he]⟩
    · exact ⟨some k, by simp [publicKeyFor, he, h]⟩

/-- The cluster address `LinkFor` stores is the network `ParseCIDR` reads from the spec's
cluster address, with the address it reads in place of the network's. -/
theorem linkFor_clusterAddress {defaultport : Int} {link : KubeLink} {l : Link}
    (h : linkFor lib defaultport link = .ok l) :
    ∃ ip n, lib.parseCIDR link.spec.clusterAddress = .ok (ip, n) ∧ l.clusterAddress = { n with ip := ip } := by
  simp only [linkFor, bind_eq_ok_except] at h
  obtain ⟨_, -, _, -, _, -, ⟨ip, n⟩, hp, h⟩ := h
  refine ⟨ip, n, ?_, ?_⟩
  · clear h
    cases hq : lib.parseCIDR link.spec.clusterAddress <;> rw [hq] at hp <;> cases hp
    rfl
  · -- the checks after the cluster address: the endpoint, the gateway text, its address
    by_cases he : link.spec.endpoint = ""
    · rw [if_pos he] at h
      simp only [throw_except, error_bind_except, reduceCtorEq] at h
    by_cases hg : link.status.gateway = ""
    · rw [if_neg he, if_pos hg] at h
      simp only [throw_except, pure_except, ok_bind_except, error_bind_except, reduceCtorEq] at h
    rw [if_neg he, if_neg hg] at h
    simp only [pure_except, ok_bind_except] at h
    split at h
    · simp only [throw_except, error_bind_except, reduceCtorEq] at h
    · simp only [pure_except, ok_bind_except, bind_eq_ok_except] at h
      obtain ⟨_, -, _, -, h⟩ := h
      cases h
      rfl

/-- Once the other fields are valid, `LinkFor` refuses only an empty endpoint and what the
endpoint block refuses, and stores the host, port and endpoint of that block. -/
theorem linkFor_eq (defaultport : Int) {link : KubeLink} (hv : OtherFieldsValid lib link) :
    ∃ mk : String × Int × String → Link,
      (∀ x, (mk x).host = x.1 ∧ (mk x).port = x.2.1 ∧ (mk x).endpoint = x.2.2) ∧
      linkFor lib defaultport link =
        if link.spec.endpoint = "" then .error .noEndpoint
        else (endpointFor defaultport link.spec.endpoint).map mk := by
  obtain ⟨sc, hsc⟩ := serviceCIDRFor_ok hv.cidr
  obtain ⟨eg, heg⟩ := egressFor_ok hv.egress ((⟨none⟩ : CIDRList).add sc.toList)
  obtain ⟨ing, hing⟩ := hv.ingress
  obtain ⟨ip, cc, hcc⟩ := hv.clusterAddress
  obtain ⟨hgw, g, hg⟩ := hv.gateway
  obtain ⟨pk, hpk⟩ := publicKeyFor_ok hv.publicKey
  refine ⟨fun x => ⟨link.name, sc, eg, ing, { cc with ip := ip }, g, x.1, x.2.1, x.2.2, pk, .zero⟩,
    fun _ => ⟨rfl, rfl, rfl⟩, ?_⟩
  simp only [linkFor, hsc, heg, hing, hcc, hg, hpk, hgw, Except.mapError, bind, Except.bind, pure,
    Except.pure, if_false]
  split_ifs
  · rfl
  · cases endpointFor defaultport link.spec.endpoint <;> rfl

/-- `LinkFor` on the endpoint `e`, once the other fields are valid. Without `:`, `e` is
accepted when it is not empty, with the default port, and stored with that port appended
unless it is `none`. As `h:p` or `h:p:…`, with `h` and `p` free of `:`, it is accepted
exactly when `p` is an optionally signed decimal of a 32-bit integer, and it is stored
unchanged, with host `h` (which may be empty) and that integer (which may be zero, negative
or above 65535) as its port; whatever follows a second `:` is ignored. -/
theorem linkFor_endpoint (lib : Library) (defaultport : Int) (link : KubeLink)
    (hv : OtherFieldsValid lib link) :
    (':' ∉ link.spec.endpoint.toList →
      ((∃ l, linkFor lib defaultport link = .ok l) ↔ link.spec.endpoint ≠ "") ∧
      ∀ l, linkFor lib defaultport link = .ok l →
        l.host = link.spec.endpoint ∧ l.port = defaultport ∧
        l.endpoint = if link.spec.endpoint = "none" then link.spec.endpoint
          else link.spec.endpoint ++ ":" ++ toString defaultport) ∧
    (∀ h p rest, ':' ∉ h → ':' ∉ p → (rest = [] ∨ ∃ r, rest = ':' :: r) →
      link.spec.endpoint.toList = h ++ ':' :: (p ++ rest) →
      ((∃ l, linkFor lib defaultport link = .ok l) ↔ ∃ v, IsInt32Text p v) ∧
      ∀ l, linkFor lib defaultport link = .ok l →
        l.host = String.mk h ∧ IsInt32Text p l.port ∧ l.endpoint = link.spec.endpoint) := by
  obtain ⟨mk, hmk, heq⟩ := linkFor_eq defaultport hv
  rw [heq]
  constructor
  · intro hno
    rw [endpointFor_of_not_mem defaultport hno]
    by_cases he : link.spec.endpoint = ""
    · rw [if_pos he]
      exact ⟨iff_of_false (fun ⟨_, h⟩ => nomatch h) fun hne => hne he, fun _ h => nomatch h⟩
    · simp only [he, if_false, Except.map, Except.ok.injEq, exists_eq', ne_eq, not_false_eq_true,
        true_and, forall_eq', hmk, true_and]
      exact ite_not _ _ _
  · intro h p rest hh hp hrest he
    have hne : link.spec.endpoint ≠ "" := by
      intro h0
      rw [h0] at he
      simp at he
    rw [if_neg hne, endpointFor_of_eq defaultport hh hp hrest he]
    cases hpi : parseInt (String.mk p) 32 with
    | error err =>
      simp only [Except.map, reduceCtorEq, exists_false, false_iff, not_exists, false_implies,
        implies_true, and_true]
      intro v hv
      rw [← parseInt_ok_iff, hpi] at hv
      cases hv
    | ok i =>
      simp only [Except.map, Except.ok.injEq, exists_eq', true_iff, forall_eq', hmk, true_and, and_true]
      exact ⟨⟨i, (parseInt_ok_iff p i).mp hpi⟩, (parseInt_ok_iff p i).mp hpi⟩

end Valid

/-- A `KubeLink` with the given name and endpoint and no service CIDR, egress, ingress or key,
at cluster address `192.168.0.12/24` behind gateway `10.0.0.1`. -/
def peerLink (name endpoint : String) : KubeLink :=
  ⟨name, ⟨"", "192.168.0.12/24", endpoint, [], [], ""⟩, ⟨"10.0.0.1"⟩⟩

theorem peerLink_valid (name e : String) : OtherFieldsValid Library.ipv4 (peerLink name e) where
  cidr := .inl rfl
  egress := by simp [peerLink]
  ingress := ⟨none, rfl⟩
  clusterAddress := ⟨IP.ipv4 192 168 0 12, ⟨[192, 168, 0, 0], [255, 255, 255, 0]⟩,
    show parseCIDRv4 "192.168.0.12/24" = _ by decide⟩
  gateway := ⟨show "10.0.0.1" ≠ "" by decide, IP.ipv4 10 0 0 1, show parseIPv4 "10.0.0.1" = _ by decide⟩
  publicKey := .inl rfl

/-- The endpoint `peer:80` gives host `peer` and port `80`. -/
theorem linkFor_endpoint_peer :
    OtherFieldsValid Library.ipv4 (peerLink "peer" "peer:80") ∧
      ∀ l, linkFor Library.ipv4 80 (peerLink "peer" "peer:80") = .ok l →
        l.host = "peer" ∧ IsInt32Text ['8', '0'] l.port ∧ l.endpoint = "peer:80" :=
  ⟨peerLink_valid _ _, ((linkFor_endpoint Library.ipv4 80 _ (peerLink_valid _ _)).2
    ['p', 'e', 'e', 'r'] ['8', '0'] [] (by decide) (by decide) (.inl rfl) rfl).2⟩

/-- `LinkFor` accepts endpoints outside `host[:port]` with a port in `1..65535`: the empty
host of `:80`, the negative port of `peer:-1`, and the third field of `peer:80:90`. -/
theorem linkFor_accepts_odd_endpoints :
    ((linkFor Library.ipv4 80 (peerLink "peer" ":80")).toOption.map fun l => (l.host, l.port)) =
        some ("", 80) ∧
      ((linkFor Library.ipv4 80 (peerLink "peer" "peer:-1")).toOption.map fun l => (l.host, l.port)) =
        some ("peer", -1) ∧
      ((linkFor Library.ipv4 80 (peerLink "peer" "peer:80:90")).toOption.map
        fun l => (l.host, l.port, l.endpoint)) = some ("peer", 80, "peer:80:90") := by
  decide

end Kubelink
