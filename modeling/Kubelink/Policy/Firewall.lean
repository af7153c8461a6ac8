import Kubelink.Registry.Link

/-!
# The firewall chain of a link

The router enforces a link's ingress policy in the kernel: `GetIngressChain` emits an
iptables chain for it, and `GetFirewallChains` sends the packets from the link's cluster
address through that chain. The broker enforces the same policy in user space with
`AllowIngress`. `runChain` is the kernel's reading of the chain: a matching jump to
`KUBELINK-MARK-DROP` sets the drop mark and goes on with the next rule, a matching `RETURN`
ends the chain, and the comment rule and a rule without `-d` match every packet.

Results:
* `runChain_ingressRules`: the chain marks a destination for dropping exactly when a
  denied network contains it or no allowed network does.
* `ingressChain_marks_iff`: against `AllowIngress`, the chain drops everything that
  user space refuses, and the two disagree exactly on destinations that no allowed
  network contains and no denied network contains (when `Allowed` is unset: the deny-only
  policies), or that an allowed network misses while `Allowed` is set.
* `ingressChain_drops_granted`: a deny-only policy makes the kernel drop an address that
  no denied network contains, which `AllowIngress` grants.
-/

namespace Kubelink

/-- `CHAIN_PREFIX + "MARK-DROP"`. -/
def MARK_DROP_CHAIN : String := "KUBELINK-MARK-DROP"

/-- `TABLE_LINK_CHAIN`, the `mangle` table. -/
def TABLE_LINK_CHAIN : String := "mangle"

/-- `CHAIN_PREFIX + "FW-"`. -/
def FW_LINK_CHAIN_PREFIX : String := "KUBELINK-FW-"

/-- The options of `iptables.Opt` that the firewall chains use. -/
inductive Opt
  /-- `-m comment --comment text` -/
  | comment (text : String)
  /-- `-d cidr` -/
  | dest (cidr : IPNet)
  /-- `-s cidr` -/
  | source (cidr : IPNet)
  /-- `-j target` -/
  | jump (target : String)
  /-- `--set-xmark value/mask`, the option of the target `MARK` -/
  | setXmark (value mask : Nat)
  /-- `-m mark --mark value/mask` -/
  | markMatch (value mask : Nat)
deriving DecidableEq, Repr

/-- `iptables.Rule`: the options of one rule. -/
abbrev Rule := List Opt

/-- `iptables.ChainRequest`, as `NewChainRequest(table, chain, rules, opt)` builds it;
`opt` is `true` in every request here. -/
structure ChainRequest where
  table : String
  chain : String
  rules : List Rule
  opt : Bool
deriving DecidableEq, Repr

/-- The rules of the chain of `GetIngressChain`: the comment, a jump to the mark-drop chain
for each denied network, a `RETURN` for each allowed network, and a final jump to the
mark-drop chain. -/
def ingressRules (name : String) (r : IPRange) : List Rule :=
  [[.comment ("firewall settings for link " ++ name)]] ++
    (r.denied.nets.getD []).map (fun i => [.dest i, .jump MARK_DROP_CHAIN]) ++
    (r.allowed.nets.getD []).map (fun i => [.dest i, .jump "RETURN"]) ++
    [[.jump MARK_DROP_CHAIN]]

/-- `l.GetIngressChain()`: `nil` for a link whose ingress is not set. The chain is named by
`encodeName`, the upper-cased base64 of the first twelve bytes of the SHA-1 of the link's
name, which the model takes as given. -/
def Link.getIngressChain (encodeName : String → String) (l : Link) : Option ChainRequest :=
  match l.ingress with
  | some r =>
    if IPRange.isSet (some r) then
      some ⟨TABLE_LINK_CHAIN, FW_LINK_CHAIN_PREFIX ++ encodeName l.name, ingressRules l.name r, true⟩
    else none
  | none => none

/-- A rule matches a packet when every `-d` option of it contains the destination. -/
def ruleMatches (d : IP) (rule : Rule) : Bool :=
  rule.all fun | .dest c => c.contains d | _ => true

/-- The target of a rule, its `-j` option. -/
def ruleTarget (rule : Rule) : Option String :=
  rule.findSome? fun | .jump t => some t | _ => none

/-- The kernel on a chain, for a packet to `d` whose drop mark is `m` on entry: the mark
when the chain ends. -/
def runChain (d : IP) : Bool → List Rule → Bool
  | m, [] => m
  | m, rule :: rules =>
    if ruleMatches d rule then
      match ruleTarget rule with
      | some t =>
        if t = MARK_DROP_CHAIN then runChain d true rules
        else if t = "RETURN" then m
        else runChain d m rules
      | none => runChain d m rules
    else runChain d m rules

theorem runChain_append (d : IP) (m : Bool) (xs ys : List Rule) (hxs : ∀ r ∈ xs, ruleTarget r ≠ some "RETURN" ∨ ruleMatches d r = false) :
    runChain d m (xs ++ ys) = runChain d (runChain d m xs) ys := by
  induction xs generalizing m with
  | nil => rfl
  | cons r rs ih =>
    have hr := hxs r (List.mem_cons_self r rs)
    have ih' := fun m => ih m (fun r' h' => hxs r' (List.mem_cons_of_mem r h'))
    simp only [List.cons_append, runChain]
    split
    · split
      · next t ht =>
        split
        · exact ih' true
        · split
          · next hret => simp_all
          · exact ih' m
      · exact ih' m
    · exact ih' m

/-- The denied rules set the mark exactly for a destination some denied network contains. -/
theorem runChain_denied (d : IP) (m : Bool) (nets : List IPNet) :
    runChain d m (nets.map fun i => [.dest i, .jump MARK_DROP_CHAIN]) =
      (m || nets.any (·.contains d)) := by
  induction nets generalizing m with
  | nil => simp [runChain]
  | cons c cs ih =>
    cases h : c.contains d <;>
      simp [runChain, ruleMatches, ruleTarget, h, ih]

/-- The allowed rules end the chain, mark untouched, at the first network containing the
destination; otherwise the chain goes on to `rest`. -/
theorem runChain_allowed (d : IP) (m : Bool) (nets : List IPNet) (rest : List Rule) :
    runChain d m ((nets.map fun i => [.dest i, .jump "RETURN"]) ++ rest) =
      if nets.any (·.contains d) then m else runChain d m rest := by
  induction nets with
  | nil => simp
  | cons c cs ih =>
    cases h : c.contains d <;>
      simp [runChain, ruleMatches, ruleTarget, h, ih, MARK_DROP_CHAIN]

/-- The emitted chain marks a destination for dropping exactly when a denied network
contains it or no allowed network does. -/
theorem runChain_ingressRules (d : IP) (name : String) (r : IPRange) :
    runChain d false (ingressRules name r) = (r.denied.contains d || !r.allowed.contains d) := by
  have hden : ∀ x ∈ [[Opt.comment ("firewall settings for link " ++ name)]] ++
      (r.denied.nets.getD []).map (fun i => [.dest i, .jump MARK_DROP_CHAIN]),
      ruleTarget x ≠ some "RETURN" ∨ ruleMatches d x = false := by
    intro x hx
    simp only [List.singleton_append, List.mem_cons, List.mem_map] at hx
    rcases hx with rfl | ⟨i, _, rfl⟩ <;> simp [ruleTarget, MARK_DROP_CHAIN]
  have hcomment : runChain d false ([[Opt.comment ("firewall settings for link " ++ name)]] ++
      (r.denied.nets.getD []).map (fun i => [.dest i, .jump MARK_DROP_CHAIN])) =
      (r.denied.nets.getD []).any (·.contains d) := by
    simp [runChain, ruleMatches, ruleTarget, runChain_denied]
  unfold ingressRules
  rw [List.append_assoc, List.append_assoc, ← List.append_assoc _ _ (List.map _ _ ++ _),
    runChain_append d false _ _ hden, runChain_allowed, hcomment]
  cases hA : (r.allowed.nets.getD []).any (·.contains d) <;>
    simp [runChain, ruleMatches, ruleTarget, CIDRList.contains, hA]

/-- For a link with an ingress policy, the chain marks a destination for dropping exactly
when `AllowIngress` refuses it or no allowed network contains it. The kernel is therefore
stricter than user space, and the two disagree on every destination outside all allowed
networks that `AllowIngress` grants. -/
theorem ingressChain_marks_iff (encodeName : String → String) (l : Link) (r : IPRange)
    (hr : l.ingress = some r) (hset : IPRange.isSet (some r) = true) (d : IP) :
    ∃ c, l.getIngressChain encodeName = some c ∧
      (runChain d false c.rules = true ↔
        (l.allowIngress d).1 = false ∨ r.allowed.contains d = false) := by
  refine ⟨⟨TABLE_LINK_CHAIN, FW_LINK_CHAIN_PREFIX ++ encodeName l.name, ingressRules l.name r, true⟩,
    by simp [Link.getIngressChain, hr, hset], ?_⟩
  rw [runChain_ingressRules, allowIngress_eq, hr]
  have hd : (r.denied.nets.getD []).any (·.contains d) = r.denied.contains d := rfl
  simp only [IPRange.contains, hd]
  cases r.allowed.isSet <;> cases r.allowed.contains d <;> cases r.denied.contains d <;> simp

/-- The policy `["10.0.0.0/8"]` of `policyLink`, on the destination `11.0.0.1`. -/
theorem ingressChain_marks_iff_policy :
    let r : IPRange := ⟨⟨some [⟨IP.ipv4 10 0 0 0, [255, 0, 0, 0]⟩]⟩, ⟨none⟩⟩
    policyLink.ingress = some r ∧ IPRange.isSet (some r) = true ∧
      ∃ c, policyLink.getIngressChain id = some c ∧
        (runChain (IP.ipv4 11 0 0 1) false c.rules = true ↔
          (policyLink.allowIngress (IP.ipv4 11 0 0 1)).1 = false ∨ r.allowed.contains (IP.ipv4 11 0 0 1) = false) :=
  ⟨rfl, rfl, ingressChain_marks_iff id policyLink _ rfl rfl _⟩

/-- A deny-only policy: the chain of `["!10.0.0.0/8"]` drops `11.0.0.1`, which no denied
network contains and which `AllowIngress` grants. -/
theorem ingressChain_drops_granted (encodeName : String → String) (l : Link) :
    let l' := { l with ingress := some ⟨⟨none⟩, ⟨some [⟨[10, 0, 0, 0], [255, 0, 0, 0]⟩]⟩⟩ }
    (l'.getIngressChain encodeName).map (fun c => runChain (IP.ipv4 11 0 0 1) false c.rules) =
        some true ∧
      l'.allowIngress (IP.ipv4 11 0 0 1) = (true, true) :=
  ⟨rfl, rfl⟩

end Kubelink
