import Kubelink.Net.Addr

/-!
# `SubIP`: an address plus an offset

`tcp.SubIP(cidr, n)` copies the address of `cidr` and adds the Go `int` `n` to it, from
the last byte forward, carrying `n / 256` into the byte before. The broker computes the
cluster DNS address this way, as the service network plus `CLUSTER_DNS_IP`.

Results:
* `subIP_adds`: when the first addition `n + ip[len - 1]` stays below `2^63` and the sum
  fits in the address, `SubIP` returns an address of the same length whose value is the
  old value plus `n`, and never indexes outside the slice.
* `subIP_wraps`: for an offset near `2^63` the first addition wraps around in the 64-bit
  `int`, the carry turns negative, the loop stops early and the result is wrong.
-/

namespace Kubelink

/-- Go's 64-bit `int` arithmetic: `x` reduced to the two's complement range. -/
def wrapInt (x : Int) : Int := (x + 2 ^ 63) % 2 ^ 64 - 2 ^ 63

/-- `tcp.CloneIP(ip)`: `append(ip[:0:0], ip...)` copies the bytes into a fresh slice, so
`SubIP` never writes to the address of `cidr`. -/
def cloneIP (ip : IP) : IP := ip

/-- The carry loop of `SubIP`. The first argument counts the bytes in front of the cursor,
`i + 1` while the cursor is at index `i`; when it is zero Go evaluates `ip[-1]` and panics,
which the model returns as `none`. -/
def subIPLoop : Nat → IP → Int → Option IP
  | k, ip, n =>
    if n ≤ 0 then some ip
    else match k with
      | 0 => none
      | i + 1 =>
        match ip.get? i with
        | none => none
        | some b =>
          let n := wrapInt (n + b.toNat)
          subIPLoop i (ip.set i (UInt8.ofNat ((n.tmod 256) % 256).toNat)) (n.tdiv 256)

/-- `tcp.SubIP(cidr, n)`: the address of `cidr` plus `n`, `none` where Go panics. -/
def subIP (cidr : IPNet) (n : Int) : Option IP :=
  let ip := cloneIP cidr.ip
  subIPLoop ip.length ip n

/-- The value of an address as a big-endian number. -/
def ipValue (b : List UInt8) : Nat := b.foldl (fun acc x => acc * 256 + x.toNat) 0

@[simp] theorem ipValue_nil : ipValue [] = 0 := rfl

@[simp] theorem ipValue_concat (p : List UInt8) (x : UInt8) :
    ipValue (p ++ [x]) = ipValue p * 256 + x.toNat := by
  simp [ipValue]

theorem wrapInt_of_lt {x : Int} (h0 : 0 ≤ x) (h : x < 2 ^ 63) : wrapInt x = x := by
  unfold wrapInt
  omega

/-- One round of the loop on a positive carry whose addition does not wrap. -/
theorem subIPLoop_round {k : Nat} {p : List UInt8} (suf : List UInt8) (x : UInt8) {n : Nat}
    (hk : p.length = k) (hpos : 0 < n) (hn : n + x.toNat < 2 ^ 63) :
    subIPLoop (k + 1) (p ++ x :: suf) n =
      subIPLoop k (p ++ UInt8.ofNat ((n + x.toNat) % 256) :: suf) ((n + x.toNat) / 256 : Nat) := by
  have hx : (n : Int) + (x.toNat : Int) = ((n + x.toNat : Nat) : Int) := by push_cast; rfl
  rw [subIPLoop, if_neg (by omega)]
  simp only [List.get?_eq_getElem?, List.getElem?_append_right (Nat.le_of_eq hk), hk,
    Nat.sub_self, List.getElem?_cons_zero, List.set_append_right _ _ (Nat.le_of_eq hk)]
  rw [hx, wrapInt_of_lt (by omega) (by omega), Int.tmod_eq_emod (by omega) (by omega),
    Int.tdiv_eq_ediv (by omega) (by omega)]
  congr 2
  simp only [List.set_cons_zero, List.cons.injEq, and_true]
  congr 1
  exact Nat.mod_mod _ _

/-- The loop adds the carry `n` to the `k` bytes in front of the cursor, leaving the bytes
behind it alone, as long as the sum fits in those bytes and the first addition does not
wrap. -/
theorem subIPLoop_adds : ∀ (k : Nat) (pre suf : List UInt8) (n : Nat),
    pre.length = k → n + (pre.getLast?.getD 0).toNat < 2 ^ 63 → ipValue pre + n < 256 ^ k →
    ∃ pre', subIPLoop k (pre ++ suf) n = some (pre' ++ suf) ∧ pre'.length = k ∧
      ipValue pre' = ipValue pre + n
  | 0, pre, suf, n, hk, _, hv => by
    obtain rfl : pre = [] := List.eq_nil_of_length_eq_zero hk
    obtain rfl : n = 0 := by simpa using hv
    exact ⟨[], by simp [subIPLoop], rfl, rfl⟩
  | k + 1, pre, suf, n, hk, hn, hv => by
    obtain ⟨p, x, rfl⟩ : ∃ p x, pre = p ++ [x] := by
      rcases List.eq_nil_or_concat pre with rfl | ⟨p, x, rfl⟩
      · nomatch hk
      · exact ⟨p, x, List.concat_eq_append p x⟩
    have hp : p.length = k := by rw [List.length_append, List.length_singleton] at hk; exact Nat.succ.inj hk
    simp only [List.getLast?_append, List.getLast?_singleton, Option.or, Option.getD_some] at hn
    simp only [ipValue_concat] at hv ⊢
    rcases Nat.eq_zero_or_pos n with h0 | hpos
    · subst h0
      exact ⟨p ++ [x], by simp [subIPLoop], hk, by simp⟩
    have hx := x.toNat_lt_size
    simp only [UInt8.size] at hx
    have hcarry : ipValue p + (n + x.toNat) / 256 < 256 ^ k := by
      rw [Nat.pow_succ] at hv
      omega
    have hlast : (n + x.toNat) / 256 + ((p.getLast?.getD 0).toNat) < 2 ^ 63 := by
      have := (p.getLast?.getD 0).toNat_lt_size
      simp only [UInt8.size] at this
      omega
    obtain ⟨p', hrun, hlen, hval⟩ := subIPLoop_adds k p
      (UInt8.ofNat ((n + x.toNat) % 256) :: suf) ((n + x.toNat) / 256) hp hlast hcarry
    refine ⟨p' ++ [UInt8.ofNat ((n + x.toNat) % 256)], ?_, by simp [hlen], ?_⟩
    · rw [List.append_assoc, List.singleton_append, subIPLoop_round suf x hp hpos hn, hrun]
      simp
    · have hb : (UInt8.ofNat ((n + x.toNat) % 256)).toNat = (n + x.toNat) % 256 := by
        simp [UInt8.toNat, UInt8.ofNat, BitVec.toNat_ofNat]
      rw [ipValue_concat, hval, hb]
      omega

/-- `SubIP` adds a non-negative offset: when the first addition `n + ip[len - 1]` stays
below `2^63` and `val(ip) + n < 256^len`, it returns (without panicking) an address of the
same length whose value is `val(ip) + n`. -/
theorem subIP_adds (cidr : IPNet) (n : Nat)
    (hn : n + (cidr.ip.getLast?.getD 0).toNat < 2 ^ 63)
    (hv : ipValue cidr.ip + n < 256 ^ cidr.ip.length) :
    ∃ r, subIP cidr n = some r ∧ r.length = cidr.ip.length ∧ ipValue r = ipValue cidr.ip + n := by
  obtain ⟨r, hr, hlen, hval⟩ := subIPLoop_adds cidr.ip.length cidr.ip [] n rfl hn hv
  exact ⟨r, by simpa [subIP, cloneIP] using hr, hlen, hval⟩

/-- The carry crosses two bytes: `10.0.255.255 + 1 = 10.1.0.0`. -/
theorem subIP_adds_carry :
    ∃ r, subIP ⟨[10, 0, 255, 255], [255, 255, 0, 0]⟩ (1 : Nat) = some r ∧ r.length = 4 ∧
      ipValue r = ipValue [10, 0, 255, 255] + 1 :=
  subIP_adds _ 1 (by decide) (by decide)

/-- Near the top of the `int` range `SubIP` does not add: adding `2^63 - 1` to the address
`0.0.0.0.0.0.0.1` fits in its eight bytes, but `n + ip[7]` wraps to `-2^63`, the loop
writes `0` and stops, and `SubIP` returns `0.0.0.0.0.0.0.0` instead of the address with
value `2^63`. -/
theorem subIP_wraps :
    ipValue [0, 0, 0, 0, 0, 0, 0, 1] + (2 ^ 63 - 1) < 256 ^ 8 ∧
      subIP ⟨[0, 0, 0, 0, 0, 0, 0, 1], []⟩ (2 ^ 63 - 1) = some [0, 0, 0, 0, 0, 0, 0, 0] ∧
      ipValue [0, 0, 0, 0, 0, 0, 0, 0] ≠ ipValue [0, 0, 0, 0, 0, 0, 0, 1] + (2 ^ 63 - 1) := by
  decide

end Kubelink
