import Mathlib

/-!
# Addresses, networks and CIDR lists

The part of Go's `net` package that the broker and the link registry read, and the
`CIDRList` of `pkg/tcp/util.go`. An `IP` is its byte slice: four bytes for IPv4,
sixteen for IPv6, where an IPv4 address may also appear in its IPv4-mapped sixteen-byte
form (`net.IPv4` and `net.ParseIP` build that form). Every function follows the Go
source byte for byte, including its answers on malformed lengths.

The one modelling choice is `IP.string`: the registry keys its cluster address index by
`ip.String()`, and all it needs of that text is which addresses print alike.
`string_eq_iff_equal` states that these are exactly the addresses `IP.Equal` identifies.
-/

namespace Kubelink

/-- `net.IP`: the bytes of an address. -/
abbrev IP := List UInt8

/-- `net.IPMask`: the bytes of a mask. -/
abbrev IPMask := List UInt8

/-- `v4InV6Prefix`: the twelve bytes in front of an IPv4-mapped address. -/
def v4InV6Prefix : List UInt8 := [0, 0, 0, 0, 0, 0, 0, 0, 0, 0, 0xff, 0xff]

@[simp] theorem v4InV6Prefix_length : v4InV6Prefix.length = 12 := rfl

/-- `net.IPv4(a, b, c, d)`: the sixteen-byte form of an IPv4 address. -/
def IP.ipv4 (a b c d : UInt8) : IP := v4InV6Prefix ++ [a, b, c, d]

/-- `ip.To4()`: the four-byte form of an IPv4 address, `none` where Go returns `nil`. -/
def IP.to4 (ip : IP) : Option IP :=
  if ip.length = 4 then some ip
  else if ip.length = 16 ∧ ip.take 12 = v4InV6Prefix then some (ip.drop 12)
  else none

/-- `ip.Equal(x)`: equal bytes, or an IPv4 address and its IPv4-mapped form. -/
def IP.equal (ip x : IP) : Bool :=
  if ip.length = x.length then ip == x
  else if ip.length = 4 ∧ x.length = 16 then x.take 12 == v4InV6Prefix && ip == x.drop 12
  else if ip.length = 16 ∧ x.length = 4 then ip.take 12 == v4InV6Prefix && x == ip.drop 12
  else false

/-- `ip.String()`, as a map key. Go prints a four-byte address and its IPv4-mapped form
alike (dotted quad) and any two other byte slices differently (`<nil>`, IPv6 text, or `?`
and hex), so the text is modelled by the bytes it stands for: the mapped form of a
four-byte address, the bytes themselves otherwise. -/
def IP.string (ip : IP) : List UInt8 :=
  if ip.length = 4 then v4InV6Prefix ++ ip else ip

/-- The sixteen-byte form of an address is the mapped prefix and its four-byte tail. -/
theorem eq_prefix_append_of_take {x : IP} (ht : x.take 12 = v4InV6Prefix) :
    x = v4InV6Prefix ++ x.drop 12 := by
  conv_lhs => rw [← List.take_append_drop 12 x]
  rw [ht]

/-- A mapped address `b` prints like the four-byte `a` exactly when `IP.Equal` finds `a` in it. -/
theorem mapped_eq_iff (a b : IP) :
    v4InV6Prefix ++ a = b ↔ b.take 12 = v4InV6Prefix ∧ a = b.drop 12 := by
  constructor
  · rintro rfl
    simp [List.take_append_eq_append_take, List.drop_append_eq_append_drop]
  · rintro ⟨ht, rfl⟩
    exact (eq_prefix_append_of_take ht).symm

/-- Two addresses print alike exactly when `IP.Equal` holds between them. -/
theorem string_eq_iff_equal (a b : IP) : a.string = b.string ↔ a.equal b = true := by
  unfold IP.string IP.equal
  by_cases ha : a.length = 4 <;> by_cases hb : b.length = 4
  · rw [if_pos ha, if_pos hb, if_pos (ha.trans hb.symm)]
    simp
  · rw [if_pos ha, if_neg hb, if_neg (by omega)]
    by_cases hb16 : b.length = 16
    · rw [if_pos ⟨ha, hb16⟩]
      simpa using mapped_eq_iff a b
    · rw [if_neg (by omega), if_neg (by omega)]
      exact iff_of_false (fun h => hb16 (by simpa [ha] using (congrArg List.length h).symm)) Bool.false_ne_true
  · rw [if_neg ha, if_pos hb, if_neg (by omega), if_neg (by omega)]
    by_cases ha16 : a.length = 16
    · rw [if_pos ⟨ha16, hb⟩, eq_comm]
      simpa using mapped_eq_iff b a
    · rw [if_neg (by omega)]
      exact iff_of_false (fun h => ha16 (by simpa [hb] using congrArg List.length h)) Bool.false_ne_true
  · rw [if_neg ha, if_neg hb]
    by_cases hl : a.length = b.length
    · rw [if_pos hl]
      simp
    · rw [if_neg hl, if_neg (by omega), if_neg (by omega)]
      exact iff_of_false (fun h => hl (congrArg List.length h)) Bool.false_ne_true

/-- `net.IPNet`: a network address and its mask. -/
structure IPNet where
  ip : IP
  mask : IPMask
deriving DecidableEq, Repr

/-- The mask adjustment of `networkNumberAndMask` once the address is known. -/
def withMask (ip : IP) (m : IPMask) : IP × IPMask :=
  if m.length = 4 then (if ip.length ≠ 4 then ([], []) else (ip, m))
  else if m.length = 16 then (if ip.length = 4 then (ip, m.drop 12) else (ip, m))
  else ([], [])

/-- `networkNumberAndMask(n)`: the address and mask `Contains` compares, `nil` (the empty
list) for both when the network is malformed. -/
def networkNumberAndMask (n : IPNet) : IP × IPMask :=
  match n.ip.to4 with
  | some ip => withMask ip n.mask
  | none => if n.ip.length ≠ 16 then ([], []) else withMask n.ip n.mask

/-- The loop of `Contains`: every byte of `nn` and of `ip` agrees under the mask. -/
def maskedEqual (nn m ip : List UInt8) : Bool :=
  ((nn.zip m).zip ip).all fun ((a, k), b) => a &&& k == b &&& k

/-- `n.Contains(ip)`. -/
def IPNet.contains (n : IPNet) (ip : IP) : Bool :=
  let (nn, m) := networkNumberAndMask n
  let ip := ip.to4.getD ip
  ip.length == nn.length && maskedEqual nn m ip

/-- `allFF(b)`: every byte is `0xff`. -/
def allFF (b : List UInt8) : Bool := b.all (· == 0xff)

/-- `ip.Mask(mask)`: the address with the mask applied, `nil` when their lengths do not
fit together. -/
def IP.mask (ip : IP) (mask : IPMask) : IP :=
  let mask := if mask.length = 16 ∧ ip.length = 4 ∧ allFF (mask.take 12) then mask.drop 12 else mask
  let ip := if mask.length = 4 ∧ ip.length = 16 ∧ ip.take 12 = v4InV6Prefix then ip.drop 12 else ip
  if ip.length ≠ mask.length then [] else List.zipWith (· &&& ·) ip mask

/-- The bytes of `CIDRMask` from the byte with `n` ones left to fill. -/
def maskBytes : Nat → Nat → List UInt8
  | 0, _ => []
  | l + 1, n => (if n ≥ 8 then 0xff else ~~~((0xff : UInt8) >>> n.toUInt8)) :: maskBytes l (n - 8)

/-- `net.CIDRMask(ones, bits)`: `nil` unless `bits` is 32 or 128 and `ones` lies in `0..bits`. -/
def cidrMask (ones bits : Nat) : IPMask :=
  if bits ≠ 32 ∧ bits ≠ 128 then [] else if ones > bits then [] else maskBytes (bits / 8) ones

theorem maskBytes_length : ∀ l n, (maskBytes l n).length = l
  | 0, _ => rfl
  | l + 1, n => congrArg Nat.succ (maskBytes_length l (n - 8))

/-- A mask of `CIDRMask` has a byte for every eight bits. -/
theorem cidrMask_length {ones bits : Nat} (h : ones ≤ bits) (hb : bits = 32 ∨ bits = 128) :
    (cidrMask ones bits).length = bits / 8 := by
  rw [cidrMask, if_neg (by omega), if_neg (by omega), maskBytes_length]

/-- `tcp.CIDRList`, a slice of networks. `nets` is `none` for the `nil` slice, which
`IsSet` tells apart from an empty one. -/
structure CIDRList where
  nets : Option (List IPNet)
deriving DecidableEq, Repr

/-- `list.Add(cidrs...)`: `append` keeps a `nil` slice `nil` only when nothing is added. -/
def CIDRList.add (l : CIDRList) (cidrs : List IPNet) : CIDRList :=
  match l.nets, cidrs with
  | none, [] => l
  | nets, cidrs => ⟨some (nets.getD [] ++ cidrs)⟩

/-- `list.IsSet()`: the slice is not `nil`. -/
def CIDRList.isSet (l : CIDRList) : Bool := l.nets.isSome

/-- `list.Contains(ip)`: some network of the list contains `ip`. -/
def CIDRList.contains (l : CIDRList) (ip : IP) : Bool := (l.nets.getD []).any (·.contains ip)

@[simp] theorem CIDRList.add_nil (l : CIDRList) : l.add [] = l := by
  obtain ⟨_ | nets⟩ := l <;> simp [CIDRList.add]

theorem CIDRList.add_add (l : CIDRList) (xs ys : List IPNet) :
    (l.add xs).add ys = l.add (xs ++ ys) := by
  obtain ⟨_ | nets⟩ := l <;> cases xs <;> cases ys <;> simp [CIDRList.add]

@[simp] theorem CIDRList.add_isSet (l : CIDRList) (c : IPNet) : (l.add [c]).isSet = true := by
  obtain ⟨_ | nets⟩ := l <;> rfl

@[simp] theorem CIDRList.add_contains (l : CIDRList) (c : IPNet) (ip : IP) :
    (l.add [c]).contains ip = (l.contains ip || c.contains ip) := by
  obtain ⟨_ | nets⟩ := l <;> simp [CIDRList.add, CIDRList.contains]

end Kubelink
