import Kubelink.Registry.LinkFor

/-!
# `BroadcastAddress`

`BroadcastAddress(ipNet)` of `pkg/tunnel/net.go` copies the address and then, for each byte
of the mask, ANDs the address byte at the same index with it (`ip[i] &= b`). That is the
address under the mask, not the last address of the network, whose bytes are
`ip[i] | ^mask[i]` (`lastAddress`):

* on a network that `net.ParseCIDR` returns, of either family, it returns the network's own
  address, its first one;
* on the cluster address that `LinkFor` stores, a sixteen-byte IPv4-mapped address under a
  four-byte mask, it ANDs the four zero bytes in front and returns the address unchanged;
* a mask longer than the address makes the loop index past the copy: a panic, `none` here.

Results:
* `broadcastAddress_eq`: the bytes it returns when the mask is no longer than the address.
* `broadcastAddress_parseCIDR`: on every network `ParseCIDR` returns, the network's address,
  which the network contains; it is the last address exactly when every byte of the mask is
  `0xff` (`broadcastAddress_eq_lastAddress_iff`).
* `broadcastAddress_clusterAddress`, `broadcastAddress_linkFor`: on a cluster address, the
  address itself, which the network contains.

The file's 32-bit byte order functions `HtoNl` and `NtoHl` write a number as four bytes, the
most significant first, and read it back: `ntoHl_htoNl` and `htoNl_ntoHl` are the two round
trips, from the value of each function as a number (`htoNl_toNat`, `ntoHl_toNat`).
-/

namespace Kubelink

/-- The loop of `BroadcastAddress` over its copy of the address: `ip[i] &= b` for each byte
`b` of the mask, in order; `none` where the index passes the end of the copy, a panic. -/
def andMask : IP → IPMask → Option IP
  | ip, [] => some ip
  | [], _ :: _ => none
  | x :: ip, b :: mask => (andMask ip mask).map ((x &&& b) :: ·)

/-- `BroadcastAddress(ipNet)`. -/
def broadcastAddress (ipNet : IPNet) : Option IP := andMask ipNet.ip ipNet.mask

/-- Spec side: the last address of a network, each byte of the address with the bits outside
the mask set. -/
def lastAddress (n : IPNet) : IP := List.zipWith (fun a m => a ||| ~~~m) n.ip n.mask

/-- Spec side: `x` is at most `y` in every byte, both of one length. -/
def bytewiseLE : IP → IP → Bool
  | [], [] => true
  | a :: x, b :: y => decide (a ≤ b) && bytewiseLE x y
  | _, _ => false

/-! ## The loop -/

theorem andMask_eq : ∀ (ip : IP) (mask : IPMask), mask.length ≤ ip.length →
    andMask ip mask = some (List.zipWith (· &&& ·) ip mask ++ ip.drop mask.length)
  | ip, [], _ => by rw [andMask, List.zipWith_nil_right, List.length_nil, List.drop_zero, List.nil_append]
  | [], _ :: _, h => absurd h (Nat.not_succ_le_zero _)
  | x :: ip, b :: mask, h => by
    rw [andMask, andMask_eq ip mask (Nat.le_of_succ_le_succ h)]
    rfl

/-- `BroadcastAddress` ANDs the bytes of the address that the mask covers and keeps the
others. -/
theorem broadcastAddress_eq (n : IPNet) (h : n.mask.length ≤ n.ip.length) :
    broadcastAddress n = some (List.zipWith (· &&& ·) n.ip n.mask ++ n.ip.drop n.mask.length) :=
  andMask_eq _ _ h

/-! ## Bytes as bit vectors -/

theorem toBitVec_and_uint8 (a b : UInt8) : (a &&& b).toBitVec = a.toBitVec &&& b.toBitVec := rfl

theorem toBitVec_or_uint8 (a b : UInt8) : (a ||| b).toBitVec = a.toBitVec ||| b.toBitVec := rfl

theorem toBitVec_not_uint8 (a : UInt8) : (~~~a).toBitVec = ~~~a.toBitVec := rfl

/-- Two bytes are equal exactly when their eight bits are. -/
theorem uint8_eq_iff_bits {x y : UInt8} :
    x = y ↔ ∀ i < 8, x.toBitVec.getLsbD i = y.toBitVec.getLsbD i :=
  ⟨fun h _ _ => h ▸ rfl, fun h => UInt8.eq_of_toBitVec_eq (BitVec.eq_of_getLsbD_eq fun i => h i i.isLt)⟩

theorem and_and_self_uint8 (a m : UInt8) : a &&& m &&& m = a &&& m := by
  rw [uint8_eq_iff_bits]
  intro i _
  simp only [toBitVec_and_uint8, BitVec.getLsbD_and, Bool.and_assoc, Bool.and_self]

theorem zero_and_uint8 (m : UInt8) : 0 &&& m = 0 := by
  rw [uint8_eq_iff_bits]
  intro i _
  simp only [toBitVec_and_uint8, BitVec.getLsbD_and, show (0 : UInt8).toBitVec = 0#8 from rfl,
    BitVec.getLsbD_zero, Bool.false_and]

theorem or_not_and_uint8 (a m : UInt8) : (a ||| ~~~m) &&& m = a &&& m := by
  rw [uint8_eq_iff_bits]
  intro i hi
  simp only [toBitVec_and_uint8, toBitVec_or_uint8, toBitVec_not_uint8, BitVec.getLsbD_and,
    BitVec.getLsbD_or, BitVec.getLsbD_not, hi, decide_True, Bool.true_and]
  cases m.toBitVec.getLsbD i <;> simp

/-- A byte under the mask `m` is unchanged by setting the bits outside `m` exactly when there
are none: `m` is `0xff`. -/
theorem and_or_not_eq_iff (a m : UInt8) : (a &&& m) ||| ~~~m = a &&& m ↔ m = 0xff := by
  have hff : (0xff : UInt8).toBitVec = BitVec.allOnes 8 := by decide
  rw [uint8_eq_iff_bits, uint8_eq_iff_bits, hff]
  refine forall₂_congr fun i hi => ?_
  simp only [toBitVec_and_uint8, toBitVec_or_uint8, toBitVec_not_uint8, BitVec.getLsbD_and,
    BitVec.getLsbD_or, BitVec.getLsbD_not, BitVec.getLsbD_allOnes, hi, decide_True, Bool.true_and]
  cases a.toBitVec.getLsbD i <;> cases m.toBitVec.getLsbD i <;> simp

/-- Setting bits never lowers a byte: it stays at most the byte only when it leaves it as is. -/
theorem or_le_iff_uint8 (a c : UInt8) : a ||| c ≤ a ↔ a ||| c = a := by
  have hle : a.toBitVec.toNat ≤ (a ||| c).toBitVec.toNat := by
    rw [toBitVec_or_uint8, BitVec.toNat_or]
    exact Nat.le_of_testBit fun i hi => by simp [Nat.testBit_or, hi]
  refine ⟨fun h => UInt8.eq_of_toBitVec_eq (BitVec.eq_of_toNat_eq (Nat.le_antisymm h hle)), fun h => ?_⟩
  rw [h]
  exact Nat.le_refl _

/-! ## Lists of bytes -/

theorem zipWith_and_and_self : ∀ (a m : List UInt8),
    List.zipWith (· &&& ·) (List.zipWith (· &&& ·) a m) m = List.zipWith (· &&& ·) a m
  | [], _ => rfl
  | _ :: _, [] => rfl
  | x :: a, k :: m => by simp only [List.zipWith_cons_cons, and_and_self_uint8, zipWith_and_and_self a m]

/-- Setting the bits outside the mask leaves an address under the mask unchanged exactly when
every byte of the mask is `0xff`. -/
theorem zipWith_or_not_eq_iff : ∀ (a m : List UInt8), a.length = m.length →
    (List.zipWith (fun x k => x ||| ~~~k) (List.zipWith (· &&& ·) a m) m = List.zipWith (· &&& ·) a m ↔
      ∀ k ∈ m, k = 0xff)
  | [], [], _ => iff_of_true rfl fun _ h => absurd h (List.not_mem_nil _)
  | x :: a, k :: m, h => by
    simp only [List.zipWith_cons_cons, List.cons.injEq, and_or_not_eq_iff, List.forall_mem_cons,
      zipWith_or_not_eq_iff a m (Nat.succ.inj h)]

theorem bytewiseLE_or_not_iff : ∀ (x m : List UInt8), x.length = m.length →
    (bytewiseLE (List.zipWith (fun a k => a ||| ~~~k) x m) x = true ↔
      List.zipWith (fun a k => a ||| ~~~k) x m = x)
  | [], [], _ => iff_of_true rfl rfl
  | a :: x, k :: m, h => by
    change (decide (a ||| ~~~k ≤ a) && bytewiseLE (List.zipWith (fun a k => a ||| ~~~k) x m) x) = true ↔ _
    rw [Bool.and_eq_true, decide_eq_true_eq, or_le_iff_uint8, bytewiseLE_or_not_iff x m (Nat.succ.inj h),
      List.zipWith_cons_cons, List.cons.injEq]

theorem maskedEqual_self : ∀ (nn m : List UInt8), maskedEqual nn m nn = true
  | [], _ => rfl
  | _ :: _, [] => rfl
  | x :: nn, k :: m => by
    simp only [maskedEqual, List.zip_cons_cons, List.all_cons, beq_self_eq_true, Bool.true_and] at *
    exact maskedEqual_self nn m

theorem maskedEqual_or_not : ∀ (nn m : List UInt8),
    maskedEqual nn m (List.zipWith (fun a k => a ||| ~~~k) nn m) = true
  | [], _ => rfl
  | _ :: _, [] => rfl
  | x :: nn, k :: m => by
    simp only [maskedEqual, List.zipWith_cons_cons, List.zip_cons_cons, List.all_cons, or_not_and_uint8,
      beq_self_eq_true, Bool.true_and] at *
    exact maskedEqual_or_not nn m

/-- Comparing under a mask, a network number already under the mask compares as before. -/
theorem maskedEqual_zipWith_and : ∀ (nn m ip : List UInt8),
    maskedEqual (List.zipWith (· &&& ·) nn m) m ip = maskedEqual nn m ip
  | [], _, _ => rfl
  | _ :: _, [], _ => rfl
  | _ :: _, _ :: _, [] => rfl
  | x :: nn, k :: m, y :: ip => by
    have ih := maskedEqual_zipWith_and nn m ip
    simp only [maskedEqual, List.zipWith_cons_cons, List.zip_cons_cons, List.all_cons, and_and_self_uint8] at ih ⊢
    rw [ih]

/-- The loop leaves an address alone when its bytes under the mask are zero. -/
theorem andMask_of_zero : ∀ (ip : IP) (mask : IPMask), mask.length ≤ ip.length →
    (∀ x ∈ ip.take mask.length, x = 0) → andMask ip mask = some ip
  | ip, [], _, _ => by rw [andMask]
  | [], _ :: _, h, _ => absurd h (Nat.not_succ_le_zero _)
  | x :: ip, b :: mask, h, hz => by
    simp only [List.length_cons, List.take_succ_cons, List.forall_mem_cons] at h hz
    rw [andMask, andMask_of_zero ip mask (by omega) hz.2, hz.1, zero_and_uint8]
    rfl

/-! ## The networks of `ParseCIDR` -/

/-- A network of `ParseCIDR` holds an address under its own mask, of the mask's length: four
bytes for IPv4 text, sixteen for IPv6 text. -/
theorem parseCIDRResult_masked {ip : IP} {n : IPNet} (h : ParseCIDRResult ip n) :
    (n.mask.length = 4 ∨ n.mask.length = 16) ∧
      ∃ a, a.length = n.mask.length ∧ n.ip = List.zipWith (· &&& ·) a n.mask := by
  obtain ⟨ones, bits, hle, hlen, hfam, rfl⟩ := h
  rcases hfam with ⟨rfl, hpre⟩ | rfl
  · have hm : (cidrMask ones 32).length = 4 := cidrMask_length hle (.inl rfl)
    exact ⟨.inl hm, ip.drop 12, by simp [hlen, hm], by simp [IP.mask, hm, hlen, hpre]⟩
  · have hm : (cidrMask ones 128).length = 16 := cidrMask_length hle (.inr rfl)
    exact ⟨.inr hm, ip, hlen.trans hm.symm, by simp [IP.mask, hm, hlen]⟩

/-- A network contains its own address when the address and the mask are both four or both
sixteen bytes long. -/
theorem contains_ip {n : IPNet} (h : n.ip.length = n.mask.length) (h4 : n.ip.length = 4 ∨ n.ip.length = 16) :
    n.contains n.ip = true := by
  unfold IPNet.contains networkNumberAndMask
  rcases h4 with h4 | h16
  · simp [IP.to4, withMask, h4, ← h, maskedEqual_self]
  · by_cases hpre : n.ip.take 12 = v4InV6Prefix <;> simp [IP.to4, withMask, h16, ← h, hpre, maskedEqual_self]

/-- On every network `ParseCIDR` returns, of either family, `BroadcastAddress` returns the
network's own address, which the network contains. -/
theorem broadcastAddress_parseCIDR {ip : IP} {n : IPNet} (h : ParseCIDRResult ip n) :
    broadcastAddress n = some n.ip ∧ n.contains n.ip = true := by
  obtain ⟨hm, a, ha, hn⟩ := parseCIDRResult_masked h
  have hlen : n.ip.length = n.mask.length := by rw [hn, List.length_zipWith, ha, min_self]
  have hand : List.zipWith (· &&& ·) n.ip n.mask = n.ip := by rw [hn, zipWith_and_and_self]
  refine ⟨?_, contains_ip hlen (hlen ▸ hm)⟩
  rw [broadcastAddress_eq n hlen.ge, hand, List.drop_eq_nil_of_le hlen.le, List.append_nil]

/-- On such a network `BroadcastAddress` returns the last address exactly when every byte of
the mask is `0xff`: under a shorter prefix some byte `ip[i] | ^mask[i]` differs. -/
theorem broadcastAddress_eq_lastAddress_iff {ip : IP} {n : IPNet} (h : ParseCIDRResult ip n) :
    broadcastAddress n = some (lastAddress n) ↔ ∀ k ∈ n.mask, k = 0xff := by
  obtain ⟨-, a, ha, hn⟩ := parseCIDRResult_masked h
  rw [(broadcastAddress_parseCIDR h).1, Option.some.injEq, lastAddress, eq_comm, hn]
  exact zipWith_or_not_eq_iff a n.mask ha

/-- The network `ParseCIDR` reads from `10.0.0.0/8`. -/
theorem broadcastAddress_eq_lastAddress_iff_slash8 :
    ParseCIDRResult (IP.ipv4 10 0 0 0) ⟨[10, 0, 0, 0], [255, 0, 0, 0]⟩ ∧
      (broadcastAddress ⟨[10, 0, 0, 0], [255, 0, 0, 0]⟩ = some (lastAddress ⟨[10, 0, 0, 0], [255, 0, 0, 0]⟩) ↔
        ∀ k ∈ [(255 : UInt8), 0, 0, 0], k = 0xff) := by
  have h := (parseCIDRv4_result
    (show parseCIDRv4 "10.0.0.0/8" = .ok (IP.ipv4 10 0 0 0, ⟨[10, 0, 0, 0], [255, 0, 0, 0]⟩) from rfl)).1
  exact ⟨h, broadcastAddress_eq_lastAddress_iff h⟩

/-! ## The cluster address of a link -/

/-- On a cluster address, the address `ParseCIDR` reads from IPv4 text under the four-byte mask
of its network, `BroadcastAddress` ANDs the four zero bytes in front of the IPv4-mapped
address and returns the address itself, which the network contains. -/
theorem broadcastAddress_clusterAddress {ip : IP} {n : IPNet} (h : ParseCIDRResult ip n)
    (h4 : n.mask.length = 4) :
    broadcastAddress { n with ip := ip } = some ip ∧ ({ n with ip := ip } : IPNet).contains ip = true := by
  obtain ⟨ones, bits, hle, hlen, hfam, rfl⟩ := h
  dsimp only at h4 ⊢
  rcases hfam with ⟨rfl, hpre⟩ | rfl
  · have hzero : ip.take 4 = [0, 0, 0, 0] := by
      rw [show ip.take 4 = (ip.take 12).take 4 by simp [List.take_take], hpre]
      rfl
    refine ⟨andMask_of_zero ip (cidrMask ones 32) (by omega) (by rw [h4, hzero]; decide), ?_⟩
    simp [IPNet.contains, networkNumberAndMask, IP.to4, withMask, hlen, hpre, h4, maskedEqual_self]
  · exact absurd h4 (by rw [cidrMask_length hle (.inr rfl)]; decide)

/-- Every link that `LinkFor` builds with the IPv4 library has a cluster address on which
`BroadcastAddress` returns the address itself, which the cluster network contains. -/
theorem broadcastAddress_linkFor {defaultport : Int} {link : KubeLink} {l : Link}
    (h : linkFor Library.ipv4 defaultport link = .ok l) :
    broadcastAddress l.clusterAddress = some l.clusterAddress.ip ∧
      l.clusterAddress.contains l.clusterAddress.ip = true := by
  obtain ⟨ip, n, hp, hl⟩ := linkFor_clusterAddress h
  obtain ⟨hr, h4⟩ := parseCIDRv4_result hp
  rw [hl]
  exact broadcastAddress_clusterAddress hr h4

/-- The link of `peerLink "peer" "peer:80"`. -/
theorem broadcastAddress_linkFor_peer :
    ∃ l, linkFor Library.ipv4 80 (peerLink "peer" "peer:80") = .ok l ∧
      broadcastAddress l.clusterAddress = some l.clusterAddress.ip ∧ l.clusterAddress.contains l.clusterAddress.ip = true := by
  obtain ⟨l, h⟩ : ∃ l, linkFor Library.ipv4 80 (peerLink "peer" "peer:80") = .ok l := ⟨_, rfl⟩
  exact ⟨l, h, broadcastAddress_linkFor h⟩

/-- `BroadcastAddress` of the network `ParseCIDR` reads from `10.0.0.0/8` is `10.0.0.0`, its
first address, while the last address `10.255.255.255` lies in the network and is above it.
On the cluster address `LinkFor` stores for `192.168.0.12/24` it is `192.168.0.12` itself,
below `192.168.0.255`, which the network contains. -/
theorem broadcastAddress_first_address :
    Library.ipv4.parseCIDR "10.0.0.0/8" = .ok (IP.ipv4 10 0 0 0, ⟨[10, 0, 0, 0], [255, 0, 0, 0]⟩) ∧
      broadcastAddress ⟨[10, 0, 0, 0], [255, 0, 0, 0]⟩ = some [10, 0, 0, 0] ∧
      lastAddress ⟨[10, 0, 0, 0], [255, 0, 0, 0]⟩ = [10, 255, 255, 255] ∧
      (⟨[10, 0, 0, 0], [255, 0, 0, 0]⟩ : IPNet).contains [10, 255, 255, 255] = true ∧
      bytewiseLE [10, 255, 255, 255] [10, 0, 0, 0] = false ∧
      (linkFor Library.ipv4 80 (peerLink "peer" "peer:80")).map (·.clusterAddress) =
        .ok ⟨IP.ipv4 192 168 0 12, [255, 255, 255, 0]⟩ ∧
      broadcastAddress ⟨IP.ipv4 192 168 0 12, [255, 255, 255, 0]⟩ = some (IP.ipv4 192 168 0 12) ∧
      (⟨IP.ipv4 192 168 0 12, [255, 255, 255, 0]⟩ : IPNet).contains (IP.ipv4 192 168 0 255) = true ∧
      bytewiseLE (IP.ipv4 192 168 0 255) (IP.ipv4 192 168 0 12) = false := by
  decide

/-! ## Byte order: `HtoNl` and `NtoHl` -/

/-- `HtoNl(val)`: `binary.BigEndian.PutUint32` into four fresh bytes. -/
def htoNl (val : UInt32) : List UInt8 :=
  [(val >>> 24).toUInt8, (val >>> 16).toUInt8, (val >>> 8).toUInt8, val.toUInt8]

/-- `NtoHl(buf)`: `binary.BigEndian.Uint32(buf)`, the first four bytes; `none` where Go
panics on a shorter buffer. -/
def ntoHl : List UInt8 → Option UInt32
  | b0 :: b1 :: b2 :: b3 :: _ =>
    some (b3.toUInt32 ||| b2.toUInt32 <<< 8 ||| b1.toUInt32 <<< 16 ||| b0.toUInt32 <<< 24)
  | _ => none

theorem toNat_shiftRight_uint32 (v k : UInt32) (hk : k.toNat < 32) : (v >>> k).toNat = v.toNat / 2 ^ k.toNat := by
  show (v.toBitVec >>> (UInt32.mod k 32).toBitVec).toNat = _
  rw [BitVec.ushiftRight_eq', BitVec.toNat_ushiftRight, Nat.shiftRight_eq_div_pow,
    show (UInt32.mod k 32).toBitVec.toNat = k.toNat from Nat.mod_eq_of_lt hk]
  rfl

theorem toNat_shiftLeft_uint32 (v k : UInt32) (hk : k.toNat < 32) :
    (v <<< k).toNat = v.toNat * 2 ^ k.toNat % 2 ^ 32 := by
  show (v.toBitVec <<< (UInt32.mod k 32).toBitVec).toNat = _
  rw [BitVec.shiftLeft_eq', BitVec.toNat_shiftLeft, Nat.shiftLeft_eq,
    show (UInt32.mod k 32).toBitVec.toNat = k.toNat from Nat.mod_eq_of_lt hk]
  rfl

theorem toNat_toUInt8_uint32 (v : UInt32) : v.toUInt8.toNat = v.toNat % 256 := rfl

theorem toNat_toUInt32_uint8 (b : UInt8) : b.toUInt32.toNat = b.toNat := rfl

theorem toNat_or_uint32 (a b : UInt32) : (a ||| b).toNat = a.toNat ||| b.toNat := BitVec.toNat_or _ _

/-- A number below `2 ^ i` and a number shifted by `i` bits share no bit: their OR is their sum. -/
theorem or_mul_two_pow (a b i : Nat) (hb : b < 2 ^ i) : b ||| a * 2 ^ i = a * 2 ^ i + b := by
  rw [Nat.lor_comm, Nat.mul_comm, Nat.mul_add_lt_is_or hb]

/-- The last base-256 digit of a number, and the number without it. -/
theorem div_mod_base256 {a d : Nat} (hd : d < 256) : (a * 256 + d) / 256 = a ∧ (a * 256 + d) % 256 = d :=
  ⟨by rw [Nat.add_comm, Nat.add_mul_div_right _ _ (by decide), Nat.div_eq_of_lt hd, Nat.zero_add],
    by rw [Nat.add_comm, Nat.add_mul_mod_self_right, Nat.mod_eq_of_lt hd]⟩

/-- A number below `2 ^ 32` is the number of its four base-256 digits. -/
theorem base256_of_lt {x : Nat} (hx : x < 2 ^ 32) :
    ((x / 256 / 256 / 256 % 256 * 256 + x / 256 / 256 % 256) * 256 + x / 256 % 256) * 256 + x % 256 = x := by
  have hlt : x / 256 / 256 / 256 < 256 := by
    rw [Nat.div_div_eq_div_mul, Nat.div_div_eq_div_mul]
    exact Nat.div_lt_of_lt_mul hx
  rw [Nat.mod_eq_of_lt hlt, Nat.div_add_mod' (x / 256 / 256), Nat.div_add_mod' (x / 256), Nat.div_add_mod' x]

/-- The four base-256 digits of the number of four bytes are the bytes. -/
theorem bytes_of_base256 {b0 b1 b2 b3 : Nat} (h0 : b0 < 256) (h1 : b1 < 256) (h2 : b2 < 256) (h3 : b3 < 256) :
    let w := ((b0 * 256 + b1) * 256 + b2) * 256 + b3
    [w / 256 / 256 / 256 % 256, w / 256 / 256 % 256, w / 256 % 256, w % 256] = [b0, b1, b2, b3] := by
  simp only [(div_mod_base256 h0).2, (div_mod_base256 h1).1, (div_mod_base256 h1).2, (div_mod_base256 h2).1,
    (div_mod_base256 h2).2, (div_mod_base256 h3).1, (div_mod_base256 h3).2, Nat.mod_eq_of_lt h0]

/-- The bytes `HtoNl` writes: the base-256 digits of the number, the most significant first. -/
theorem htoNl_toNat (v : UInt32) :
    (htoNl v).map UInt8.toNat =
      [v.toNat / 256 / 256 / 256 % 256, v.toNat / 256 / 256 % 256, v.toNat / 256 % 256, v.toNat % 256] := by
  simp only [htoNl, List.map_cons, List.map_nil, toNat_toUInt8_uint32,
    toNat_shiftRight_uint32 _ _ (by decide : (24 : UInt32).toNat < 32),
    toNat_shiftRight_uint32 _ _ (by decide : (16 : UInt32).toNat < 32),
    toNat_shiftRight_uint32 _ _ (by decide : (8 : UInt32).toNat < 32), Nat.div_div_eq_div_mul]
  rfl

/-- The number `NtoHl` reads: its first four bytes as base-256 digits, the first the most
significant. -/
theorem ntoHl_toNat (b0 b1 b2 b3 : UInt8) (rest : List UInt8) :
    (ntoHl (b0 :: b1 :: b2 :: b3 :: rest)).map UInt32.toNat =
      some (((b0.toNat * 256 + b1.toNat) * 256 + b2.toNat) * 256 + b3.toNat) := by
  have h0 := b0.toNat_lt
  have h1 := b1.toNat_lt
  have h2 := b2.toNat_lt
  have h3 := b3.toNat_lt
  simp only [ntoHl, Option.map_some', toNat_or_uint32, toNat_toUInt32_uint8,
    toNat_shiftLeft_uint32 _ _ (by decide : (24 : UInt32).toNat < 32),
    toNat_shiftLeft_uint32 _ _ (by decide : (16 : UInt32).toNat < 32),
    toNat_shiftLeft_uint32 _ _ (by decide : (8 : UInt32).toNat < 32),
    show (8 : UInt32).toNat = 8 from rfl, show (16 : UInt32).toNat = 16 from rfl,
    show (24 : UInt32).toNat = 24 from rfl, Option.some.injEq]
  rw [Nat.mod_eq_of_lt (by omega), Nat.mod_eq_of_lt (by omega), Nat.mod_eq_of_lt (by omega),
    or_mul_two_pow _ _ 8 h3, or_mul_two_pow _ _ 16 (by omega), or_mul_two_pow _ _ 24 (by omega)]
  omega

/-- `NtoHl` reads back every number `HtoNl` writes. -/
theorem ntoHl_htoNl (v : UInt32) : ntoHl (htoNl v) = some v := by
  have hb := htoNl_toNat v
  simp only [htoNl, List.map_cons, List.map_nil, List.cons.injEq] at hb
  obtain ⟨h0, h1, h2, h3, -⟩ := hb
  have hw := ntoHl_toNat (v >>> 24).toUInt8 (v >>> 16).toUInt8 (v >>> 8).toUInt8 v.toUInt8 []
  rw [h0, h1, h2, h3, base256_of_lt v.toNat_lt_size] at hw
  obtain ⟨w, hw, hwv⟩ := Option.map_eq_some'.mp hw
  rw [htoNl, hw, UInt32.toNat.inj hwv]

/-- `HtoNl` writes back the four bytes from which `NtoHl` read a number. -/
theorem htoNl_ntoHl {buf : List UInt8} {v : UInt32} (h : ntoHl buf = some v) : htoNl v = buf.take 4 := by
  match buf, h with
  | b0 :: b1 :: b2 :: b3 :: rest, h =>
    have hw := ntoHl_toNat b0 b1 b2 b3 rest
    rw [h, Option.map_some', Option.some.injEq] at hw
    have hb := htoNl_toNat v
    rw [hw, bytes_of_base256 b0.toNat_lt b1.toNat_lt b2.toNat_lt b3.toNat_lt] at hb
    exact List.map_injective_iff.mpr (fun _ _ => UInt8.toNat.inj) hb

end Kubelink
