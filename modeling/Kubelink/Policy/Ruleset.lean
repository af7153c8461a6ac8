import Kubelink.Policy.Firewall
import Kubelink.Registry.Query

/-!
# The firewall of the registry

When some link has an ingress policy, `GetFirewallChains` emits five kinds of chain: the
drop chain, which clears the drop bit of the packet mark and drops the packet; the
mark-drop chain, which sets the drop bit; the chain of every link with a policy
(`GetIngressChain`); `KUBELINK-LINKS`, which sends a packet from a link's cluster address
to that link's chain; and `KUBELINK-FIREWALL`, which sends a packet with the drop bit to
the drop chain. Go visits the links map in an arbitrary order, so the model takes the
order as an argument (`IterationOrder`).

`evalChain` runs a chain of the emitted requests on a packet as the kernel does: a matching
rule jumps to its target, a user chain returns to the next rule of its caller, `RETURN`
ends the chain, `DROP` ends the traversal, `MARK` applies `--set-xmark`. Fuel bounds the
depth of the jumps.

Results:
* `evalRules_ingressRules`: on the chain of a link, the kernel sets the drop bit exactly
  as `runChain` says, so the reading of the chain in `Firewall` is the kernel's.
* `linksChain_marks_iff`: after `KUBELINK-LINKS`, a packet carries the drop bit exactly
  when it carried it before or some stored link with a policy has the packet's source as
  its cluster address and denies the destination, or has no allowed network containing
  it; the answer does not depend on the order of the map. `firewallChains_drop_iff` adds
  `KUBELINK-FIREWALL`, which drops exactly the packets with the drop bit.
* `firewallEmbedding_never_drops`: `FirewallEmbedding` hooks `KUBELINK-LINKS` alone, since
  `DROP_ACTION` is not the mark-drop chain, so the hooks set the drop bit and never drop,
  whatever chain the name of a link chain finds (`evalRules_next`).
* `getFirewallChains_targets`: every jump of the emitted chains goes to a built-in target
  or to an emitted chain.
-/

namespace Kubelink

/-- `CHAIN_PREFIX + "LINKS"`. -/
def LINKS_CHAIN : String := "KUBELINK-LINKS"

/-- `TABLE_LINKS_CHAIN`. -/
def TABLE_LINKS_CHAIN : String := "mangle"

/-- `CHAIN_PREFIX + "FIREWALL"`. -/
def FIREWALL_CHAIN : String := "KUBELINK-FIREWALL"

/-- `TABLE_FIREWALL_CHAIN`. -/
def TABLE_FIREWALL_CHAIN : String := "filter"

/-- `CHAIN_PREFIX + "DROP"`. -/
def DROP_CHAIN : String := "KUBELINK-DROP"

/-- `TABLE_DROP_CHAIN`, the table of the firewall chain. -/
def TABLE_DROP_CHAIN : String := TABLE_FIREWALL_CHAIN

/-- `TABLE_MARK_DROP_CHAIN`, the table of the links chain. -/
def TABLE_MARK_DROP_CHAIN : String := TABLE_LINKS_CHAIN

/-- The drop bit of the packet mark, `0x2000`. -/
def dropBit : Nat := 0x2000

/-- The built-in targets of the emitted rules. -/
def builtinTargets : List String := ["RETURN", "DROP", "MARK"]

/-- Modelled from the spec: `tcp.IPtoCIDR(ip)`, whose file is not under src/, is the prefix
of the cluster IP alone, every bit of the address under the mask. -/
def ipToCIDR (ip : IP) : IPNet := ⟨ip, List.replicate ip.length 0xff⟩

/-- One link of the loop of `GetFirewallChains`: a link with an ingress chain adds the rule
of `KUBELINK-LINKS` that sends its cluster address to that chain, and the chain. -/
def firewallStep (encodeName : String → String) (acc : List Rule × List ChainRequest) (l : Link) :
    List Rule × List ChainRequest :=
  match l.getIngressChain encodeName with
  | some ing => (acc.1 ++ [[.source (ipToCIDR l.clusterAddress.ip), .jump ing.chain]], acc.2 ++ [ing])
  | none => acc

/-- The chains of `GetFirewallChains` once some link has a policy: the drop chain, the
mark-drop chain, the chains of the links, the links chain with `rules`, the firewall chain. -/
def chainRequests (rules : List Rule) (linkchains : List ChainRequest) : List ChainRequest :=
  [⟨TABLE_DROP_CHAIN, DROP_CHAIN, [[.jump "MARK", .setXmark 0x0 dropBit], [.jump "DROP"]], true⟩,
    ⟨TABLE_MARK_DROP_CHAIN, MARK_DROP_CHAIN, [[.jump "MARK", .setXmark dropBit dropBit]], true⟩] ++
    linkchains ++
    [⟨TABLE_LINKS_CHAIN, LINKS_CHAIN, rules, true⟩,
      ⟨TABLE_FIREWALL_CHAIN, FIREWALL_CHAIN, [[.markMatch dropBit dropBit, .jump DROP_CHAIN]], true⟩]

/-- `GetFirewallChains()`, visiting the links in `order`. -/
def getFirewallChains (encodeName : String → String) (order : List Link) : List ChainRequest :=
  let (rules, linkchains) := order.foldl (firewallStep encodeName) ([], [])
  if rules.length > 0 then chainRequests rules linkchains else []

/-- `RuleDef`: a rule that `FirewallEmbedding` puts into a built-in chain. -/
structure RuleDef where
  table : String
  chain : String
  rule : Rule
  before : String
deriving DecidableEq, Repr

/-- `DROP_ACTION`. -/
def DROP_ACTION : String := "DROP"

/-- `FirewallEmbedding()`: the rules that hook the emitted chains into the built-in chains. -/
def firewallEmbedding : List RuleDef :=
  let opt := Opt.comment "kubelink firewall rules"
  let before := if TABLE_LINKS_CHAIN ≠ "mangle" then "KUBE-SERVICES" else ""
  if DROP_ACTION = MARK_DROP_CHAIN then
    [⟨TABLE_LINKS_CHAIN, "PREROUTING", [opt, .jump LINKS_CHAIN], before⟩,
      ⟨TABLE_FIREWALL_CHAIN, "FORWARD", [opt, .jump FIREWALL_CHAIN], "KUBE-FORWARD"⟩,
      ⟨TABLE_FIREWALL_CHAIN, "OUTPUT", [opt, .jump FIREWALL_CHAIN], ""⟩]
  else [⟨TABLE_LINKS_CHAIN, "PREROUTING", [opt, .jump LINKS_CHAIN], before⟩]

/-! ## The kernel on the emitted chains -/

/-- A packet as the rules see it: its source, its destination and its mark. -/
structure Packet where
  src : IP
  dst : IP
  mark : Nat
deriving DecidableEq, Repr

/-- `--set-xmark value/mask`: clear the bits of `mask`, then flip those of `value`. -/
def xmark (mark value mask : Nat) : Nat := (mark ^^^ (mark &&& mask)) ^^^ value

/-- The packet carries the drop bit. -/
def marked (mark : Nat) : Bool := mark &&& dropBit == dropBit

/-- Whether a packet matches an option; an option that is not a match matches every
packet. -/
def optMatches (p : Packet) : Opt → Bool
  | .source c => c.contains p.src
  | .dest c => c.contains p.dst
  | .markMatch v m => p.mark &&& m == v
  | _ => true

/-- The mark that the target `MARK` of a rule gives, by its `--set-xmark` option. -/
def markOf (rule : Rule) (mark : Nat) : Nat :=
  match rule.findSome? fun | .setXmark v m => some (v, m) | _ => none with
  | some (v, m) => xmark mark v m
  | none => mark

/-- How a chain ends for a packet: it returns, by `RETURN` or at its end, with the packet's
mark, or the packet is dropped. -/
inductive Outcome
  | next (mark : Nat)
  | dropped
deriving DecidableEq, Repr

/-- The rules of a chain on a packet; `call` runs a user chain by name, `none` when there is
no such chain. -/
def evalRules (call : String → Packet → Option Outcome) (p : Packet) : List Rule → Outcome
  | [] => .next p.mark
  | rule :: rules =>
    if rule.all (optMatches p) then
      match ruleTarget rule with
      | none => evalRules call p rules
      | some t =>
        if t = "RETURN" then .next p.mark
        else if t = "DROP" then .dropped
        else if t = "MARK" then evalRules call { p with mark := markOf rule p.mark } rules
        else
          match call t p with
          | some (.next m) => evalRules call { p with mark := m } rules
          | some .dropped => .dropped
          | none => evalRules call p rules
    else evalRules call p rules

/-- The chain `name` of the requests `chains` on a packet, jumping at most `fuel` deep. -/
def evalChain (chains : List ChainRequest) : Nat → String → Packet → Option Outcome
  | 0, _, _ => none
  | fuel + 1, name, p =>
    (chains.find? (·.chain == name)).map fun c => evalRules (evalChain chains fuel) p c.rules

/-! ## The drop bit -/

theorem xmark_and_mask (mark mask : Nat) : xmark mark mask mask &&& mask = mask :=
  Nat.eq_of_testBit_eq fun i => by
    simp only [xmark, Nat.testBit_and, Nat.testBit_xor]
    cases mark.testBit i <;> cases mask.testBit i <;> rfl

theorem xmark_zero_and_mask (mark mask : Nat) : xmark mark 0 mask &&& mask = 0 :=
  Nat.eq_of_testBit_eq fun i => by
    simp only [xmark, Nat.testBit_and, Nat.testBit_xor, Nat.zero_testBit]
    cases mark.testBit i <;> cases mask.testBit i <;> rfl

/-- `--set-xmark 0x2000/0x2000` sets the drop bit. -/
@[simp] theorem marked_xmark_dropBit (mark : Nat) : marked (xmark mark dropBit dropBit) = true := by
  simp [marked, xmark_and_mask]

/-- `--set-xmark 0x0/0x2000` clears the drop bit. -/
@[simp] theorem marked_xmark_clear (mark : Nat) : marked (xmark mark 0 dropBit) = false := by
  simp [marked, xmark_zero_and_mask, dropBit]

/-- A chain that never jumps to `DROP`, and whose jumps to user chains never come back
dropped, never drops: it ends with some mark. -/
theorem evalRules_next {call : String → Packet → Option Outcome} :
    ∀ rules : List Rule, (∀ rule ∈ rules, ∀ t, ruleTarget rule = some t →
        t ≠ "DROP" ∧ (t ≠ "RETURN" → t ≠ "MARK" → ∀ q, call t q ≠ some .dropped)) →
      ∀ p : Packet, ∃ m, evalRules call p rules = .next m
  | [], _, p => ⟨p.mark, rfl⟩
  | rule :: rules, h, p => by
    have ih := evalRules_next rules fun r hr => h r (List.mem_cons_of_mem _ hr)
    by_cases hm : rule.all (optMatches p)
    · rcases ht : ruleTarget rule with _ | t
      · simpa [evalRules, hm, ht] using ih p
      · obtain ⟨hd, hc⟩ := h rule (List.mem_cons_self _ _) t ht
        by_cases hr : t = "RETURN"
        · exact ⟨p.mark, by simp [evalRules, hm, ht, hr]⟩
        by_cases hk : t = "MARK"
        · simpa [evalRules, hm, ht, hr, hd, hk] using ih _
        -- a user chain: it returns with a mark, or there is no such chain
        rcases hcall : call t p with _ | _ | _
        · simpa [evalRules, hm, ht, hr, hd, hk, hcall] using ih p
        · simpa [evalRules, hm, ht, hr, hd, hk, hcall] using ih _
        · exact absurd hcall (hc hr hk p)
    · simpa [evalRules, hm] using ih p

/-! ## The kernel on the chain of a link

The chain of a link only tests destinations and only jumps to `KUBELINK-MARK-DROP` or
`RETURN`. On such a chain the kernel keeps of the mark only whether the drop bit is set,
and that bit follows `runChain`. -/

/-- An option that matches on the destination alone, or on nothing. -/
def destOnly : Opt → Bool
  | .source _ => false
  | .markMatch _ _ => false
  | _ => true

/-- A rule of the chain of a link: it matches on the destination alone and jumps to the
mark-drop chain, to `RETURN` or nowhere. -/
def LinkChainRule (rule : Rule) : Prop :=
  rule.all destOnly = true ∧
    (ruleTarget rule = none ∨ ruleTarget rule = some MARK_DROP_CHAIN ∨ ruleTarget rule = some "RETURN")

theorem all_optMatches (p : Packet) (rule : Rule) (h : rule.all destOnly = true) :
    rule.all (optMatches p) = ruleMatches p.dst rule := by
  induction rule with
  | nil => rfl
  | cons o rule ih =>
    simp only [List.all_cons, Bool.and_eq_true] at h
    simp only [ruleMatches, List.all_cons] at ih ⊢
    rw [ih h.2]
    cases o <;> first | rfl | exact absurd h.1 Bool.false_ne_true

/-- A drop mark set on entry stays set to the end of the chain. -/
theorem runChain_or (d : IP) (m : Bool) (rules : List Rule) :
    runChain d m rules = (m || runChain d false rules) := by
  induction rules generalizing m with
  | nil => simp [runChain]
  | cons rule rules ih =>
    by_cases hr : ruleMatches d rule
    · rcases ht : ruleTarget rule with _ | t
      · simp only [runChain, hr, ht, if_true, ih m]
      · by_cases hmd : t = MARK_DROP_CHAIN
        · simp [runChain, hr, ht, hmd, ih true]
        · by_cases hret : t = "RETURN"
          · subst hret
            simp [runChain, hr, ht, hmd]
          · simp [runChain, hr, ht, hmd, hret, ih m]
    · simp [runChain, hr, ih m]

theorem ingressRules_linkChainRule (name : String) (r : IPRange) :
    ∀ rule ∈ ingressRules name r, LinkChainRule rule := by
  intro rule h
  simp only [ingressRules, List.mem_append, List.mem_map, List.mem_singleton] at h
  rcases h with ((rfl | ⟨i, -, rfl⟩) | ⟨i, -, rfl⟩) | rfl <;> simp [LinkChainRule, destOnly, ruleTarget]

theorem markDrop_ne_builtin : MARK_DROP_CHAIN ≠ "RETURN" ∧ MARK_DROP_CHAIN ≠ "DROP" ∧ MARK_DROP_CHAIN ≠ "MARK" := by
  decide

section LinkChain

variable {call : String → Packet → Option Outcome}
  (hcall : ∀ q : Packet, call MARK_DROP_CHAIN q = some (.next (xmark q.mark dropBit dropBit)))
include hcall

/-- On the rules of a link chain, the kernel sets the drop bit as `runChain` says. -/
theorem evalRules_linkChain : ∀ (rules : List Rule), (∀ r ∈ rules, LinkChainRule r) → ∀ p : Packet,
    ∃ m, evalRules call p rules = .next m ∧ marked m = runChain p.dst (marked p.mark) rules
  | [], _, p => ⟨p.mark, rfl, rfl⟩
  | rule :: rules, h, p => by
    obtain ⟨hdest, ht⟩ := h rule (List.mem_cons_self _ _)
    have ih := evalRules_linkChain rules fun r hr => h r (List.mem_cons_of_mem _ hr)
    have hm := all_optMatches p rule hdest
    by_cases hr : ruleMatches p.dst rule
    · rcases ht with ht | ht | ht
      · obtain ⟨m, he, hmk⟩ := ih p
        exact ⟨m, by simp [evalRules, hm, hr, ht, he], by simp [runChain, hr, ht, hmk]⟩
      · obtain ⟨m, he, hmk⟩ := ih { p with mark := xmark p.mark dropBit dropBit }
        refine ⟨m, ?_, by simpa [runChain, hr, ht] using hmk⟩
        simpa [evalRules, hm, hr, ht, hcall, markDrop_ne_builtin] using he
      · exact ⟨p.mark, by simp [evalRules, hm, hr, ht], by simp [runChain, hr, ht, markDrop_ne_builtin.1.symm]⟩
    · obtain ⟨m, he, hmk⟩ := ih p
      exact ⟨m, by simp [evalRules, hm, hr, he], by simp [runChain, hr, hmk]⟩

/-- On the chain of a link, the kernel sets the drop bit of a packet exactly when it was set
or the policy denies the destination or allows no network containing it. -/
theorem evalRules_ingressRules (name : String) (r : IPRange) (p : Packet) :
    ∃ m, evalRules call p (ingressRules name r) = .next m ∧
      marked m = (marked p.mark || r.denied.contains p.dst || !r.allowed.contains p.dst) := by
  obtain ⟨m, he, hm⟩ := evalRules_linkChain hcall _ (ingressRules_linkChainRule name r) p
  exact ⟨m, he, by rw [hm, runChain_or, runChain_ingressRules, Bool.or_assoc]⟩

end LinkChain

/-! ## The emitted chains -/

section Emitted

variable (encodeName : String → String)

/-- The rule of `KUBELINK-LINKS` for a link with an ingress chain. -/
def linksRule (l : Link) : Option Rule :=
  (l.getIngressChain encodeName).map fun ing => [.source (ipToCIDR l.clusterAddress.ip), .jump ing.chain]

theorem foldl_firewallStep : ∀ (order : List Link) (acc : List Rule × List ChainRequest),
    order.foldl (firewallStep encodeName) acc =
      (acc.1 ++ order.filterMap (linksRule encodeName), acc.2 ++ order.filterMap (·.getIngressChain encodeName))
  | [], acc => by simp
  | l :: order, acc => by
    rw [List.foldl_cons, foldl_firewallStep order]
    unfold firewallStep
    rcases h : l.getIngressChain encodeName with _ | ing <;> simp [List.filterMap_cons, linksRule, h]

theorem getFirewallChains_eq (order : List Link) :
    getFirewallChains encodeName order =
      if ∃ l ∈ order, (l.getIngressChain encodeName).isSome then
        chainRequests (order.filterMap (linksRule encodeName)) (order.filterMap (·.getIngressChain encodeName))
      else [] := by
  have hne : (order.filterMap (linksRule encodeName)).length > 0 ↔
      ∃ l ∈ order, (l.getIngressChain encodeName).isSome := by
    simp [List.length_pos, List.filterMap_eq_nil_iff, linksRule, Option.isSome_iff_ne_none]
  simp only [getFirewallChains, foldl_firewallStep, List.nil_append]
  exact if_congr hne rfl rfl

theorem getIngressChain_eq_some {l : Link} {c : ChainRequest} :
    l.getIngressChain encodeName = some c ↔ ∃ r, l.ingress = some r ∧ IPRange.isSet (some r) = true ∧
      c = ⟨TABLE_LINK_CHAIN, FW_LINK_CHAIN_PREFIX ++ encodeName l.name, ingressRules l.name r, true⟩ := by
  unfold Link.getIngressChain
  rcases l.ingress with _ | r
  · simp only [reduceCtorEq, false_and, exists_false]
  · simp only [Option.some.injEq, exists_eq_left']
    split_ifs with hs
    · simp only [Option.some.injEq, hs, true_and]
      exact eq_comm
    · simp only [reduceCtorEq, hs, false_and]

end Emitted

/-- A link chain is named apart from a name whose first twelve characters are not
`KUBELINK-FW-`. -/
theorem fwChain_ne (x : String) {t : String} (ht : t.data.take 12 ≠ FW_LINK_CHAIN_PREFIX.data) :
    FW_LINK_CHAIN_PREFIX ++ x ≠ t := by
  intro h
  apply ht
  rw [← h, String.data_append]
  exact List.take_left' (by decide)

theorem fwChain_inj {x y : String} (h : FW_LINK_CHAIN_PREFIX ++ x = FW_LINK_CHAIN_PREFIX ++ y) : x = y := by
  have := congrArg String.data h
  rw [String.data_append, String.data_append] at this
  exact String.ext (List.append_cancel_left this)

theorem find?_of_unique {α : Type} {L : List α} {p : α → Bool} {a : α} (ha : a ∈ L) (hp : p a = true)
    (hu : ∀ b ∈ L, p b = true → b = a) : L.find? p = some a := by
  rcases h : L.find? p with _ | b
  · exact absurd hp (List.find?_eq_none.mp h a ha)
  · exact congrArg some (hu b (List.mem_of_find?_eq_some h) (List.find?_some h))

section Lookup

variable {rules : List Rule} {linkchains : List ChainRequest}

theorem find_markDrop :
    (chainRequests rules linkchains).find? (·.chain == MARK_DROP_CHAIN) =
      some ⟨TABLE_MARK_DROP_CHAIN, MARK_DROP_CHAIN, [[.jump "MARK", .setXmark dropBit dropBit]], true⟩ :=
  rfl

/-- A name outside `KUBELINK-FW-…` is looked up past the link chains. -/
theorem find_chainRequests_of_ne (hlc : ∀ c ∈ linkchains, ∃ x, c.chain = FW_LINK_CHAIN_PREFIX ++ x)
    {t : String} (ht : t.data.take 12 ≠ FW_LINK_CHAIN_PREFIX.data) :
    (chainRequests rules linkchains).find? (·.chain == t) = (chainRequests rules []).find? (·.chain == t) := by
  have hnone : linkchains.find? (·.chain == t) = none := by
    refine List.find?_eq_none.mpr fun c hc => ?_
    obtain ⟨x, hx⟩ := hlc c hc
    simpa [hx] using fwChain_ne x ht
  simp only [chainRequests, List.find?_append, hnone, List.find?_nil]

theorem find_links (hlc : ∀ c ∈ linkchains, ∃ x, c.chain = FW_LINK_CHAIN_PREFIX ++ x) :
    (chainRequests rules linkchains).find? (·.chain == LINKS_CHAIN) =
      some ⟨TABLE_LINKS_CHAIN, LINKS_CHAIN, rules, true⟩ := by
  rw [find_chainRequests_of_ne hlc (by decide)]
  rfl

theorem find_firewall (hlc : ∀ c ∈ linkchains, ∃ x, c.chain = FW_LINK_CHAIN_PREFIX ++ x) :
    (chainRequests rules linkchains).find? (·.chain == FIREWALL_CHAIN) =
      some ⟨TABLE_FIREWALL_CHAIN, FIREWALL_CHAIN, [[.markMatch dropBit dropBit, .jump DROP_CHAIN]], true⟩ := by
  rw [find_chainRequests_of_ne hlc (by decide)]
  rfl

/-- A link chain is found by its name when no other link chain has that name. -/
theorem find_linkChain {c : ChainRequest} (hc : c ∈ linkchains) {x : String}
    (hx : c.chain = FW_LINK_CHAIN_PREFIX ++ x) (huniq : ∀ c' ∈ linkchains, c'.chain = c.chain → c' = c) :
    (chainRequests rules linkchains).find? (·.chain == c.chain) = some c := by
  have hdrop : (DROP_CHAIN == c.chain) = false := by
    simpa [hx] using (fwChain_ne x (t := DROP_CHAIN) (by decide)).symm
  have hmark : (MARK_DROP_CHAIN == c.chain) = false := by
    simpa [hx] using (fwChain_ne x (t := MARK_DROP_CHAIN) (by decide)).symm
  rw [chainRequests, List.find?_append, List.find?_append,
    find?_of_unique hc (by simp) fun c' hc' h => huniq c' hc' (by simpa using h)]
  simp [List.find?, hdrop, hmark]

/-! ## The kernel on the emitted chains -/

theorem evalChain_markDrop (fuel : Nat) (q : Packet) :
    evalChain (chainRequests rules linkchains) (fuel + 1) MARK_DROP_CHAIN q =
      some (.next (xmark q.mark dropBit dropBit)) := by
  rw [evalChain, find_markDrop]
  simp [evalRules, optMatches, ruleTarget, markOf]

/-- The drop chain drops every packet. -/
theorem evalChain_drop (fuel : Nat) (q : Packet) :
    evalChain (chainRequests rules linkchains) (fuel + 1) DROP_CHAIN q = some .dropped := by
  rw [evalChain, show (chainRequests rules linkchains).find? (·.chain == DROP_CHAIN) =
    some ⟨TABLE_DROP_CHAIN, DROP_CHAIN, [[.jump "MARK", .setXmark 0x0 dropBit], [.jump "DROP"]], true⟩ from rfl]
  simp [evalRules, optMatches, ruleTarget]

/-- `KUBELINK-FIREWALL` drops exactly the packets that carry the drop bit. -/
theorem evalChain_firewall (hlc : ∀ c ∈ linkchains, ∃ x, c.chain = FW_LINK_CHAIN_PREFIX ++ x)
    (fuel : Nat) (p : Packet) :
    evalChain (chainRequests rules linkchains) (fuel + 2) FIREWALL_CHAIN p =
      some (if marked p.mark then .dropped else .next p.mark) := by
  have hb : DROP_CHAIN ≠ "RETURN" ∧ DROP_CHAIN ≠ "DROP" ∧ DROP_CHAIN ≠ "MARK" := by decide
  have hmk : optMatches p (.markMatch dropBit dropBit) = marked p.mark := rfl
  have hj : optMatches p (.jump DROP_CHAIN) = true := rfl
  rw [evalChain, find_firewall hlc]
  cases hm : marked p.mark
  · simp [evalRules, hmk, hj, hm]
  · simp [evalRules, hmk, hj, hm, ruleTarget, hb, evalChain_drop]

end Lookup

/-- Since `DROP_ACTION` is `DROP` and not the mark-drop chain, `FirewallEmbedding` hooks
`KUBELINK-LINKS` alone. -/
theorem firewallEmbedding_eq :
    firewallEmbedding = [⟨TABLE_LINKS_CHAIN, "PREROUTING", [.comment "kubelink firewall rules", .jump LINKS_CHAIN], ""⟩] := by
  decide

/-! ## `KUBELINK-LINKS`

The chain of a link is found by its name, so the results from `evalChain_linkChain` on
assume that `encodeName` keeps the names of the stored links apart (`hinj`). -/

section Links

variable (encodeName : String → String)

/-- The chain of `l` marks `p`: `l` has a chain, `p` comes from the cluster address of `l`,
and the chain marks the destination of `p`. -/
def linkMarks (p : Packet) (l : Link) : Bool :=
  match l.getIngressChain encodeName with
  | some c => (ipToCIDR l.clusterAddress.ip).contains p.src && runChain p.dst false c.rules
  | none => false

/-- Which links mark a packet does not depend on its mark. -/
@[simp] theorem linkMarks_mark (p : Packet) (m : Nat) :
    linkMarks encodeName { p with mark := m } = linkMarks encodeName p :=
  rfl

theorem linkMarks_eq_true {p : Packet} {l : Link} :
    linkMarks encodeName p l = true ↔ ∃ r, l.ingress = some r ∧ IPRange.isSet (some r) = true ∧
      (ipToCIDR l.clusterAddress.ip).contains p.src = true ∧
      (r.denied.contains p.dst = true ∨ r.allowed.contains p.dst = false) := by
  unfold linkMarks
  rcases hc : l.getIngressChain encodeName with _ | c
  · simp only [Bool.false_eq_true, false_iff, not_exists, not_and]
    intro r hr hs
    simp [Link.getIngressChain, hr, hs] at hc
  · obtain ⟨r, hr, hs, rfl⟩ := (getIngressChain_eq_some encodeName).mp hc
    simp [runChain_ingressRules, hr, hs, and_assoc]

/-- The rules of `KUBELINK-LINKS` set the drop bit of a packet exactly when it was set or
the chain of some link marks it. -/
theorem evalRules_linksRules {call : String → Packet → Option Outcome} (os : List Link)
    (hcall : ∀ l ∈ os, ∀ c, l.getIngressChain encodeName = some c → ∀ q : Packet,
      ∃ m, call c.chain q = some (.next m) ∧ marked m = (marked q.mark || runChain q.dst false c.rules))
    (p : Packet) :
    ∃ m, evalRules call p (os.filterMap (linksRule encodeName)) = .next m ∧
      marked m = (marked p.mark || os.any (linkMarks encodeName p)) := by
  induction os generalizing p with
  | nil => exact ⟨p.mark, rfl, by simp⟩
  | cons l os ih =>
    have ih := ih fun l' hl' => hcall l' (List.mem_cons_of_mem _ hl')
    rcases hc : l.getIngressChain encodeName with _ | c
    · obtain ⟨m, he, hm⟩ := ih p
      exact ⟨m, by simpa [linksRule, hc] using he, by simp [hm, linkMarks, hc]⟩
    · obtain ⟨r, -, -, hcr⟩ := (getIngressChain_eq_some encodeName).mp hc
      have hb : c.chain ≠ "RETURN" ∧ c.chain ≠ "DROP" ∧ c.chain ≠ "MARK" := by
        rw [hcr]
        exact ⟨fwChain_ne _ (by decide), fwChain_ne _ (by decide), fwChain_ne _ (by decide)⟩
      have hj : optMatches p (.jump c.chain) = true := rfl
      by_cases hsrc : (ipToCIDR l.clusterAddress.ip).contains p.src
      · obtain ⟨m', hcl, hm'⟩ := hcall l (List.mem_cons_self _ _) c hc p
        obtain ⟨m, he, hm⟩ := ih { p with mark := m' }
        refine ⟨m, ?_, ?_⟩
        · simpa [linksRule, hc, evalRules, optMatches, hj, ruleTarget, hsrc, hb, hcl] using he
        · simp [hm, hm', linkMarks, hc, hsrc, Bool.or_assoc]
      · obtain ⟨m, he, hm⟩ := ih p
        exact ⟨m, by simpa [linksRule, hc, evalRules, optMatches, hsrc] using he,
          by simp [hm, linkMarks, hc, hsrc]⟩

theorem linkChain_named {order : List Link} {c : ChainRequest} (hc : c ∈ order.filterMap (·.getIngressChain encodeName)) :
    ∃ x, c.chain = FW_LINK_CHAIN_PREFIX ++ x := by
  obtain ⟨l, -, hl⟩ := List.mem_filterMap.mp hc
  obtain ⟨r, -, -, rfl⟩ := (getIngressChain_eq_some encodeName).mp hl
  exact ⟨_, rfl⟩

/-- Whichever chain the name of a link chain finds, the kernel runs it to its end: every chain
of a link only jumps to the mark-drop chain or to `RETURN`. -/
theorem evalChain_linkChain_next {order : List Link} {l : Link} (hl : l ∈ order) {c : ChainRequest}
    (hc : l.getIngressChain encodeName = some c) (rules : List Rule) (fuel : Nat) (q : Packet) :
    ∃ m, evalChain (chainRequests rules (order.filterMap (·.getIngressChain encodeName))) (fuel + 2) c.chain q =
      some (.next m) := by
  obtain ⟨r, -, -, hcr⟩ := (getIngressChain_eq_some encodeName).mp hc
  have hmem : c ∈ chainRequests rules (order.filterMap (·.getIngressChain encodeName)) := by
    simp only [chainRequests, List.mem_append]
    exact .inl (.inr (List.mem_filterMap.mpr ⟨l, hl, hc⟩))
  rcases hfind : (chainRequests rules (order.filterMap (·.getIngressChain encodeName))).find? (·.chain == c.chain)
    with _ | c'
  · exact absurd (List.find?_eq_none.mp hfind c hmem) (by simp)
  have hname : c'.chain = c.chain := by simpa using List.find?_some hfind
  -- the chain found is a link chain: the four others have names outside `KUBELINK-FW-`
  have hlink : c' ∈ order.filterMap (·.getIngressChain encodeName) := by
    have hne : ∀ t, t.data.take 12 ≠ FW_LINK_CHAIN_PREFIX.data → c'.chain ≠ t := fun t ht => by
      rw [hname, hcr]
      exact fwChain_ne _ ht
    have h' := List.mem_of_find?_eq_some hfind
    simp only [chainRequests, List.mem_append, List.mem_cons, List.mem_singleton, List.not_mem_nil,
      or_false] at h'
    rcases h' with ((rfl | rfl) | h') | rfl | rfl
    · exact absurd rfl (hne DROP_CHAIN (by decide))
    · exact absurd rfl (hne MARK_DROP_CHAIN (by decide))
    · exact h'
    · exact absurd rfl (hne LINKS_CHAIN (by decide))
    · exact absurd rfl (hne FIREWALL_CHAIN (by decide))
  obtain ⟨l', -, hl'⟩ := List.mem_filterMap.mp hlink
  obtain ⟨r', -, -, rfl⟩ := (getIngressChain_eq_some encodeName).mp hl'
  obtain ⟨m, he, -⟩ := evalRules_ingressRules (evalChain_markDrop fuel) l'.name r' q
  exact ⟨m, by rw [evalChain, hfind, Option.map_some', he]⟩

/-- The rules of `KUBELINK-LINKS` jump only to chains of links, which never drop a packet. -/
theorem linksRules_never_drop {order : List Link} (rules : List Rule) :
    ∀ rule ∈ order.filterMap (linksRule encodeName), ∀ t, ruleTarget rule = some t → t ≠ "DROP" ∧
      (t ≠ "RETURN" → t ≠ "MARK" → ∀ q,
        evalChain (chainRequests rules (order.filterMap (·.getIngressChain encodeName))) 2 t q ≠ some .dropped) := by
  intro rule hr t ht
  obtain ⟨l, hl, hlr⟩ := List.mem_filterMap.mp hr
  rcases hc : l.getIngressChain encodeName with _ | c
  · simp [linksRule, hc] at hlr
  simp only [linksRule, hc, Option.map_some', Option.some.injEq] at hlr
  subst hlr
  obtain rfl : t = c.chain := by simpa [ruleTarget] using ht.symm
  obtain ⟨r, -, -, hcr⟩ := (getIngressChain_eq_some encodeName).mp hc
  refine ⟨by rw [hcr]; exact fwChain_ne _ (by decide), fun _ _ q => ?_⟩
  obtain ⟨m, hm⟩ := evalChain_linkChain_next encodeName hl hc rules 0 q
  rw [hm]
  exact fun h => nomatch h

/-- The hooks of kubelink never drop a packet, whatever links the registry holds and in
whatever order: they only jump to `KUBELINK-LINKS`, whose rules jump to chains of links, which
only mark; `KUBELINK-FIREWALL`, the only chain that acts on the mark, is not hooked. -/
theorem firewallEmbedding_never_drops (order : List Link) (p : Packet) :
    ∀ d ∈ firewallEmbedding, ∃ m, evalRules (evalChain (getFirewallChains encodeName order) 3) p [d.rule] = .next m := by
  intro d hd
  rw [firewallEmbedding_eq, List.mem_singleton] at hd
  subst hd
  refine evalRules_next _ (fun rule hr t ht => ?_) p
  rw [List.mem_singleton] at hr
  subst hr
  obtain rfl : t = LINKS_CHAIN := by simpa [ruleTarget] using ht.symm
  refine ⟨by decide, fun _ _ q => ?_⟩
  rw [getFirewallChains_eq]
  split_ifs
  · -- `KUBELINK-LINKS`: each rule jumps to the chain of a link
    rw [evalChain, find_links fun _ => linkChain_named encodeName, Option.map_some']
    obtain ⟨m, hm⟩ := evalRules_next _ (linksRules_never_drop encodeName _) q
    rw [hm]
    exact fun h => nomatch h
  · simp [evalChain]

/-- The hook of `KUBELINK-LINKS`, with the registry of `policyLink`, on a packet from its
cluster IP. -/
theorem firewallEmbedding_never_drops_policy :
    let p : Packet := ⟨IP.ipv4 192 168 0 12, IP.ipv4 11 0 0 1, 0⟩
    let d : RuleDef := ⟨TABLE_LINKS_CHAIN, "PREROUTING", [.comment "kubelink firewall rules", .jump LINKS_CHAIN], ""⟩
    d ∈ firewallEmbedding ∧
      ∃ m, evalRules (evalChain (getFirewallChains id Links.policyRegistry.values) 3) p [d.rule] = .next m :=
  ⟨by decide, firewallEmbedding_never_drops id _ _ _ (by decide)⟩

variable {s : Links} {order : List Link} (ho : Links.IterationOrder s order)
  (hinj : ∀ n₁ n₂ l₁ l₂, s.links.lookup n₁ = some l₁ → s.links.lookup n₂ = some l₂ →
    encodeName l₁.name = encodeName l₂.name → l₁ = l₂)
include ho

theorem mem_order_iff {l : Link} : l ∈ order ↔ ∃ n, s.links.lookup n = some l :=
  ho.mem_iff.trans Links.mem_values

/-- Once some stored link has a chain, the emitted requests are the five kinds of chain. -/
theorem getFirewallChains_of_set (hset : ∃ n l, s.links.lookup n = some l ∧ (l.getIngressChain encodeName).isSome) :
    getFirewallChains encodeName order =
      chainRequests (order.filterMap (linksRule encodeName)) (order.filterMap (·.getIngressChain encodeName)) := by
  obtain ⟨n, l, hl, hs⟩ := hset
  rw [getFirewallChains_eq, if_pos ⟨l, (mem_order_iff ho).mpr ⟨n, hl⟩, hs⟩]

include hinj

/-- With names that `encodeName` keeps apart, the chain of a stored link runs its policy. -/
theorem evalChain_linkChain {l : Link} (hl : l ∈ order) {c : ChainRequest}
    (hc : l.getIngressChain encodeName = some c) (rules : List Rule) (fuel : Nat) (q : Packet) :
    ∃ m, evalChain (chainRequests rules (order.filterMap (·.getIngressChain encodeName))) (fuel + 2) c.chain q =
        some (.next m) ∧ marked m = (marked q.mark || runChain q.dst false c.rules) := by
  obtain ⟨r, -, -, hcr⟩ := (getIngressChain_eq_some encodeName).mp hc
  have huniq : ∀ c' ∈ order.filterMap (·.getIngressChain encodeName), c'.chain = c.chain → c' = c := by
    intro c' hc' heq
    obtain ⟨l', hl', hc''⟩ := List.mem_filterMap.mp hc'
    obtain ⟨r', -, -, hcr'⟩ := (getIngressChain_eq_some encodeName).mp hc''
    obtain ⟨n, hn⟩ := (mem_order_iff ho).mp hl
    obtain ⟨n', hn'⟩ := (mem_order_iff ho).mp hl'
    have hname : encodeName l'.name = encodeName l.name := fwChain_inj (by subst hcr hcr'; exact heq)
    obtain rfl := hinj n' n l' l hn' hn hname
    exact Option.some.inj (hc''.symm.trans hc)
  rw [evalChain, find_linkChain (List.mem_filterMap.mpr ⟨l, hl, hc⟩) (by rw [hcr]) huniq, Option.map_some', hcr]
  obtain ⟨m, he, hm⟩ := evalRules_ingressRules (evalChain_markDrop fuel) l.name r q
  exact ⟨m, by rw [he], by rw [hm, runChain_ingressRules, Bool.or_assoc]⟩

/-- After `KUBELINK-LINKS`, a packet carries the drop bit exactly when it carried it before
or some stored link with a policy has the packet's source as its cluster address and
denies the destination or allows no network containing it. -/
theorem linksChain_marks_iff (hset : ∃ n l, s.links.lookup n = some l ∧ (l.getIngressChain encodeName).isSome)
    (p : Packet) :
    ∃ m, evalChain (getFirewallChains encodeName order) 3 LINKS_CHAIN p = some (.next m) ∧
      (marked m = true ↔ marked p.mark = true ∨ ∃ n l r, s.links.lookup n = some l ∧ l.ingress = some r ∧
        IPRange.isSet (some r) = true ∧ (ipToCIDR l.clusterAddress.ip).contains p.src = true ∧
        (r.denied.contains p.dst = true ∨ r.allowed.contains p.dst = false)) := by
  rw [getFirewallChains_of_set encodeName ho hset, evalChain, find_links fun _ => linkChain_named encodeName, Option.map_some']
  obtain ⟨m, he, hm⟩ := evalRules_linksRules encodeName order
    (fun l hl c hc => evalChain_linkChain encodeName ho hinj hl hc _ 0) p
  refine ⟨m, by rw [he], ?_⟩
  rw [hm, Bool.or_eq_true, List.any_eq_true]
  refine or_congr_right ⟨fun ⟨l, hl, hmk⟩ => ?_, fun ⟨n, l, r, hn, hr⟩ => ?_⟩
  · obtain ⟨n, hn⟩ := (mem_order_iff ho).mp hl
    obtain ⟨r, hr⟩ := (linkMarks_eq_true encodeName).mp hmk
    exact ⟨n, l, r, hn, hr⟩
  · exact ⟨l, (mem_order_iff ho).mpr ⟨n, hn⟩, (linkMarks_eq_true encodeName).mpr ⟨r, hr⟩⟩

/-- The emitted chains together: a packet through `KUBELINK-LINKS` and then
`KUBELINK-FIREWALL` is dropped exactly when it carried the drop bit or the policy of a
stored link with the packet's source as its cluster address refuses the destination in the
kernel's reading; otherwise it goes on with its mark. -/
theorem firewallChains_drop_iff (hset : ∃ n l, s.links.lookup n = some l ∧ (l.getIngressChain encodeName).isSome)
    (p : Packet) :
    ∃ m, evalChain (getFirewallChains encodeName order) 3 LINKS_CHAIN p = some (.next m) ∧
      evalChain (getFirewallChains encodeName order) 3 FIREWALL_CHAIN { p with mark := m } =
        some (if marked m then .dropped else .next m) ∧
      (marked m = true ↔ marked p.mark = true ∨ ∃ n l r, s.links.lookup n = some l ∧ l.ingress = some r ∧
        IPRange.isSet (some r) = true ∧ (ipToCIDR l.clusterAddress.ip).contains p.src = true ∧
        (r.denied.contains p.dst = true ∨ r.allowed.contains p.dst = false)) := by
  obtain ⟨m, hl, hm⟩ := linksChain_marks_iff encodeName ho hinj hset p
  refine ⟨m, hl, ?_, hm⟩
  rw [getFirewallChains_of_set encodeName ho hset]
  exact evalChain_firewall (fun _ => linkChain_named encodeName) 1 _

omit ho hinj in
/-- The registry of `policyLink`, on a packet from its cluster IP to an address outside its
allowed network. -/
theorem firewallChains_drop_iff_policy :
    let p : Packet := ⟨IP.ipv4 192 168 0 12, IP.ipv4 11 0 0 1, 0⟩
    Links.IterationOrder Links.policyRegistry Links.policyRegistry.values ∧
      (∀ n₁ n₂ l₁ l₂, Links.policyRegistry.links.lookup n₁ = some l₁ → Links.policyRegistry.links.lookup n₂ = some l₂ →
        id l₁.name = id l₂.name → l₁ = l₂) ∧
      (∃ n l, Links.policyRegistry.links.lookup n = some l ∧ (l.getIngressChain id).isSome) ∧
      ∃ m, evalChain (getFirewallChains id Links.policyRegistry.values) 3 LINKS_CHAIN p = some (.next m) ∧
        evalChain (getFirewallChains id Links.policyRegistry.values) 3 FIREWALL_CHAIN { p with mark := m } =
          some (if marked m then .dropped else .next m) ∧
        (marked m = true ↔ marked p.mark = true ∨ ∃ n l r, Links.policyRegistry.links.lookup n = some l ∧
          l.ingress = some r ∧ IPRange.isSet (some r) = true ∧ (ipToCIDR l.clusterAddress.ip).contains p.src = true ∧
          (r.denied.contains p.dst = true ∨ r.allowed.contains p.dst = false)) := by
  intro p
  have hinj : ∀ n₁ n₂ l₁ l₂, Links.policyRegistry.links.lookup n₁ = some l₁ →
      Links.policyRegistry.links.lookup n₂ = some l₂ → id l₁.name = id l₂.name → l₁ = l₂ :=
    fun _ _ _ _ h₁ h₂ _ => (Links.lookup_policyRegistry h₁).2.trans (Links.lookup_policyRegistry h₂).2.symm
  have hset : ∃ n l, Links.policyRegistry.links.lookup n = some l ∧ (l.getIngressChain id).isSome :=
    ⟨"a", policyLink, rfl, rfl⟩
  exact ⟨List.Perm.refl _, hinj, hset, firewallChains_drop_iff id (List.Perm.refl _) hinj hset p⟩

end Links

/-! ## Every jump has a target -/

/-- Every rule of the emitted chains jumps to a built-in target or to an emitted chain. -/
theorem getFirewallChains_targets (encodeName : String → String) (order : List Link) :
    ∀ c ∈ getFirewallChains encodeName order, ∀ rule ∈ c.rules, ∀ t, ruleTarget rule = some t →
      t ∈ builtinTargets ∨ ∃ c' ∈ getFirewallChains encodeName order, c'.chain = t := by
  rw [getFirewallChains_eq]
  split_ifs with hset
  · intro c hc rule hr t ht
    simp only [chainRequests, List.mem_append, List.mem_cons, List.mem_singleton, List.not_mem_nil,
      or_false] at hc
    rcases hc with ((rfl | rfl) | hc) | rfl | rfl
    · -- `KUBELINK-DROP`: a mark, then `DROP`
      simp only [List.mem_cons, List.mem_singleton, List.not_mem_nil, or_false] at hr
      rcases hr with rfl | rfl <;> cases ht <;> exact .inl (by decide)
    · -- `KUBELINK-MARK-DROP`: a mark
      rw [List.mem_singleton.mp hr] at ht
      cases ht
      exact .inl (by decide)
    · -- a link chain: `RETURN`, `DROP` or `KUBELINK-MARK-DROP`
      obtain ⟨l, -, hl⟩ := List.mem_filterMap.mp hc
      obtain ⟨r, -, -, rfl⟩ := (getIngressChain_eq_some encodeName).mp hl
      rcases (ingressRules_linkChainRule _ r rule hr).2 with h | h | h <;> rw [h] at ht <;> cases ht
      · exact .inr ⟨_, List.mem_append_left _ (List.mem_append_left _ (.tail _ (.head _))), rfl⟩
      · exact .inl (by decide)
    · -- `KUBELINK-LINKS`: a jump to the chain of a link
      obtain ⟨l, hlo, hl⟩ := List.mem_filterMap.mp hr
      rcases hc : l.getIngressChain encodeName with _ | c
      · simp [linksRule, hc] at hl
      · simp only [linksRule, hc, Option.map_some', Option.some.injEq] at hl
        subst hl
        cases ht
        exact .inr ⟨c, List.mem_append_left _ (List.mem_append_right _ (List.mem_filterMap.mpr ⟨l, hlo, hc⟩)), rfl⟩
    · -- `KUBELINK-FIREWALL`: a jump to `KUBELINK-DROP`
      rw [List.mem_singleton.mp hr] at ht
      cases ht
      exact .inr ⟨_, List.mem_append_left _ (List.mem_append_left _ (.head _)), rfl⟩
  · exact fun c hc => absurd hc (List.not_mem_nil c)

/-- The jump of `KUBELINK-FIREWALL` to `KUBELINK-DROP`, in the chains of `policyLink`. -/
theorem getFirewallChains_targets_policy :
    let c : ChainRequest := ⟨TABLE_FIREWALL_CHAIN, FIREWALL_CHAIN, [[.markMatch dropBit dropBit, .jump DROP_CHAIN]], true⟩
    c ∈ getFirewallChains id [policyLink] ∧ [.markMatch dropBit dropBit, .jump DROP_CHAIN] ∈ c.rules ∧
      ruleTarget [.markMatch dropBit dropBit, .jump DROP_CHAIN] = some DROP_CHAIN ∧
      (DROP_CHAIN ∈ builtinTargets ∨ ∃ c' ∈ getFirewallChains id [policyLink], c'.chain = DROP_CHAIN) := by
  intro c
  have hc : c ∈ getFirewallChains id [policyLink] := by decide
  exact ⟨hc, List.mem_singleton_self _, rfl,
    getFirewallChains_targets id [policyLink] c hc _ (List.mem_singleton_self _) _ rfl⟩

end Kubelink
