import Kubelink.Net.Library

/-!
# Ingress policies: `IPRange`

A link's `ingress` field is a list of CIDRs, each optionally prefixed by `!`.
`ParseIPRange` sorts them into the `Allowed` and the `Denied` list of an `IPRange`, and
`IPRange.Contains` is the broker's user-space check of a destination address.

Results:
* `parseIPRange_eq`: on a list whose entries parse, `ParseIPRange` succeeds and its
  `Allowed` (`Denied`) list holds the networks of the entries without (with) `!`, in order;
  `parseIPRange_isSet`: the result is set exactly when the list is not empty.
* `parseIPRange_error`: otherwise it reports the first entry that does not parse, with its
  `!` cut off, and the error of `ParseNet`.
* `contains_eq_false_iff`: `Contains` refuses a destination exactly when the `Allowed`
  list is unset or contains it, and some denied network contains it. So a destination that
  an `Allowed` list does not contain is admitted (`contains_of_not_allowed`), where the
  spec's policy refuses it.
-/

namespace Kubelink

/-- `IPRange`: the allowed and the denied networks of an ingress policy. -/
structure IPRange where
  allowed : CIDRList
  denied : CIDRList
deriving DecidableEq, Repr

/-- The error of `ParseIPRange`: `invalid cidr %q: %s`, with the entry (its `!` removed)
and the error of `tcp.ParseNet`. -/
structure IngressError where
  cidr : String
  err : String
deriving DecidableEq, Repr

/-- How the loop of `ParseIPRange` reads an entry: a leading `!` marks a denied network
and is cut off. -/
def ingressEntry (c : String) : Bool × String :=
  match c.toList with
  | '!' :: rest => (true, String.mk rest)
  | _ => (false, c)

/-- One round of the loop of `ParseIPRange`: parse the entry and add it to its list. -/
def addIngressEntry (parseNet : String → Except String IPNet) (r : IPRange) (c : String) :
    Except IngressError IPRange :=
  let (deny, c) := ingressEntry c
  match parseNet c with
  | .error err => .error ⟨c, err⟩
  | .ok cidr =>
    .ok (if deny then { r with denied := r.denied.add [cidr] }
      else { r with allowed := r.allowed.add [cidr] })

/-- `ParseIPRange(list)`: `nil` (`none`) for an empty list. -/
def parseIPRange (parseNet : String → Except String IPNet) (list : List String) :
    Except IngressError (Option IPRange) :=
  if list.length > 0 then (list.foldlM (addIngressEntry parseNet) ⟨⟨none⟩, ⟨none⟩⟩).map some
  else .ok none

/-- `r.IsSet()` on a range that may be `nil`. -/
def IPRange.isSet : Option IPRange → Bool
  | none => false
  | some r => r.allowed.isSet || r.denied.isSet

/-- `r.Contains(ip)` on a range that may be `nil`: when `Allowed` is unset or contains the
address, the loop over `Denied` decides; otherwise the check falls through to `true`. -/
def IPRange.contains : Option IPRange → IP → Bool
  | none, _ => true
  | some r, ip =>
    if !r.allowed.isSet || r.allowed.contains ip then !(r.denied.nets.getD []).any (·.contains ip)
    else true

section Parse

variable (parseNet : String → Except String IPNet)

/-- The networks of the entries on one side of the policy (`deny`), in order. -/
def entryNets (deny : Bool) (list : List String) : List IPNet :=
  list.filterMap fun e =>
    if (ingressEntry e).1 = deny then (parseNet (ingressEntry e).2).toOption else none

/-- A list of networks as the slice `Add` builds from `nil`. -/
def asCIDRList : List IPNet → CIDRList
  | [] => ⟨none⟩
  | l => ⟨some l⟩

theorem CIDRList.nil_add (xs : List IPNet) : (⟨none⟩ : CIDRList).add xs = asCIDRList xs := by
  cases xs <;> rfl

theorem asCIDRList_isSet (xs : List IPNet) : (asCIDRList xs).isSet = true ↔ xs ≠ [] := by
  cases xs <;> simp [asCIDRList, CIDRList.isSet]

/-- The loop adds the network of each entry to its side, whatever range it starts from. -/
theorem foldlM_addIngressEntry (list : List String)
    (hok : ∀ e ∈ list, ∃ c, parseNet (ingressEntry e).2 = .ok c) (r : IPRange) :
    list.foldlM (addIngressEntry parseNet) r =
      .ok ⟨r.allowed.add (entryNets parseNet false list), r.denied.add (entryNets parseNet true list)⟩ := by
  induction list generalizing r with
  | nil => simp [entryNets]
  | cons e es ih =>
    obtain ⟨c, hc⟩ := hok e (List.mem_cons_self e es)
    have ih' := ih (fun e' he' => hok e' (List.mem_cons_of_mem e he'))
    rcases hentry : ingressEntry e with ⟨deny, s⟩
    rw [hentry] at hc
    cases deny <;>
      simp [List.foldlM_cons, addIngressEntry, hentry, hc, ih', entryNets, CIDRList.add_add,
        List.filterMap_cons, Except.toOption,
        bind, Except.bind]

/-- On a list whose entries parse, `ParseIPRange` succeeds and sorts the networks of the
entries without `!` into `Allowed` and those with `!` into `Denied`. -/
theorem parseIPRange_eq (list : List String)
    (hok : ∀ e ∈ list, ∃ c, parseNet (ingressEntry e).2 = .ok c) :
    parseIPRange parseNet list =
      .ok (if list = [] then none
        else some ⟨asCIDRList (entryNets parseNet false list), asCIDRList (entryNets parseNet true list)⟩) := by
  unfold parseIPRange
  cases list with
  | nil => rfl
  | cons e es =>
    rw [foldlM_addIngressEntry parseNet _ hok]
    simp [CIDRList.nil_add, Except.map]

/-- Every entry that parses lands on one side, so the range is set exactly when the list
is not empty. -/
theorem parseIPRange_isSet (list : List String)
    (hok : ∀ e ∈ list, ∃ c, parseNet (ingressEntry e).2 = .ok c) :
    ∃ r, parseIPRange parseNet list = .ok r ∧ (IPRange.isSet r = true ↔ list ≠ []) := by
  refine ⟨_, parseIPRange_eq parseNet list hok, ?_⟩
  cases list with
  | nil => simp [IPRange.isSet]
  | cons e es =>
    obtain ⟨c, hc⟩ := hok e (List.mem_cons_self e es)
    have hmem : entryNets parseNet (ingressEntry e).1 (e :: es) ≠ [] := by
      simp [entryNets, hc, Except.toOption, List.filterMap_cons]
    simp only [IPRange.isSet, if_neg (List.cons_ne_nil e es), Bool.or_eq_true, ne_eq,
      reduceCtorEq, not_false_eq_true, iff_true]
    cases h : (ingressEntry e).1 <;> rw [h] at hmem <;> simp [asCIDRList_isSet, hmem]

/-- The first entry that does not parse ends the loop: `ParseIPRange` reports it, with its
`!` cut off, together with the error of `ParseNet`, whatever follows it. -/
theorem parseIPRange_error (pre : List String) (e : String) (post : List String)
    (hok : ∀ x ∈ pre, ∃ c, parseNet (ingressEntry x).2 = .ok c) {err : String}
    (he : parseNet (ingressEntry e).2 = .error err) :
    parseIPRange parseNet (pre ++ e :: post) = .error ⟨(ingressEntry e).2, err⟩ := by
  have hlen : (pre ++ e :: post).length > 0 := by simp
  rw [parseIPRange, if_pos hlen, List.foldlM_append, foldlM_addIngressEntry parseNet pre hok]
  rcases hentry : ingressEntry e with ⟨deny, c⟩
  rw [hentry] at he
  simp [List.foldlM_cons, addIngressEntry, hentry, he, Except.map, bind, Except.bind]

/-- The entry `"!x"` is reported as `x`. -/
theorem parseIPRange_error_denied :
    (∀ x ∈ ["10.0.0.0/8"], ∃ c, Library.ipv4.parseNet (ingressEntry x).2 = .ok c) ∧
      Library.ipv4.parseNet (ingressEntry "!x").2 = .error "invalid CIDR address: x" ∧
      parseIPRange Library.ipv4.parseNet (["10.0.0.0/8"] ++ "!x" :: ["!10.0.0.0/8"]) =
        .error ⟨(ingressEntry "!x").2, "invalid CIDR address: x"⟩ := by
  have hok : ∀ x ∈ ["10.0.0.0/8"], ∃ c, Library.ipv4.parseNet (ingressEntry x).2 = .ok c := by
    simp only [List.mem_singleton, forall_eq]
    exact ⟨_, rfl⟩
  exact ⟨hok, by decide, parseIPRange_error _ ["10.0.0.0/8"] "!x" ["!10.0.0.0/8"] hok (by decide)⟩

end Parse

/-- `Contains` refuses a destination exactly when the `Allowed` list is unset or contains
it, and some denied network contains it. -/
theorem contains_eq_false_iff (r : IPRange) (ip : IP) :
    IPRange.contains (some r) ip = false ↔
      (r.allowed.isSet = false ∨ r.allowed.contains ip = true) ∧ r.denied.contains ip = true := by
  have hd : (r.denied.nets.getD []).any (·.contains ip) = r.denied.contains ip := rfl
  simp only [IPRange.contains, hd]
  cases r.allowed.isSet <;> cases r.allowed.contains ip <;> simp

/-- The fall-through of `Contains`: a set `Allowed` list that does not contain the
destination admits it, whatever `Denied` says. -/
theorem contains_of_not_allowed (r : IPRange) (ip : IP) (hset : r.allowed.isSet = true)
    (hout : r.allowed.contains ip = false) : IPRange.contains (some r) ip = true := by
  simp [IPRange.contains, hset, hout]

/-- The policy `["10.0.0.0/8"]` admits `11.0.0.1`: `ParseIPRange` puts `10.0.0.0/8` into
`Allowed`, which does not contain `11.0.0.1`, and `Contains` falls through to `true`. -/
theorem contains_outside_allowed :
    parseIPRange Library.ipv4.parseNet ["10.0.0.0/8"] =
        .ok (some ⟨⟨some [⟨[10, 0, 0, 0], [255, 0, 0, 0]⟩]⟩, ⟨none⟩⟩) ∧
      (⟨[10, 0, 0, 0], [255, 0, 0, 0]⟩ : IPNet).contains (IP.ipv4 11 0 0 1) = false ∧
      IPRange.contains (some ⟨⟨some [⟨[10, 0, 0, 0], [255, 0, 0, 0]⟩]⟩, ⟨none⟩⟩)
        (IP.ipv4 11 0 0 1) = true :=
  ⟨by decide, by decide, contains_of_not_allowed _ _ rfl (by decide)⟩

end Kubelink
