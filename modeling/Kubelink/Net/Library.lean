import Kubelink.Net.Addr

/-!
# The library functions the modelled code calls

`LinkFor` parses the fields of a `KubeLink` with Go's `net.ParseCIDR` and `net.ParseIP`,
with `wgtypes.ParseKey`, and (through `ParseIPRange`) with `tcp.ParseNet`, a function of
this repository whose file is not under src/. `serve` reads packet headers with
`ipv4.ParseHeader` of `golang.org/x/net`. The model takes these functions as a `Library`
and every theorem about the registry or the broker holds for every library.

`Library.ipv4` is one concrete library, used to run the model on concrete input: Go's
parsers on IPv4 text. It rejects IPv6 text, which no concrete run here uses, and every
public key, which no concrete run sets.
-/

namespace Kubelink

/-- Results compare, so that the model's functions can be evaluated on concrete input. -/
instance instDecidableEqExcept {ε α : Type} [DecidableEq ε] [DecidableEq α] : DecidableEq (Except ε α)
  | .error a, .error b => if h : a = b then isTrue (h ▸ rfl) else isFalse fun e => h (by injection e)
  | .ok a, .ok b => if h : a = b then isTrue (h ▸ rfl) else isFalse fun e => h (by injection e)
  | .error _, .ok _ => isFalse nofun
  | .ok _, .error _ => isFalse nofun

/-! `Except` as the error monad of the modelled Go functions: what `do` blocks reduce to. -/

@[simp] theorem throw_except {ε α : Type} (e : ε) : (throw e : Except ε α) = .error e := rfl

@[simp] theorem pure_except {ε α : Type} (a : α) : (pure a : Except ε α) = .ok a := rfl

@[simp] theorem ok_bind_except {ε α β : Type} (a : α) (f : α → Except ε β) :
    (Except.ok a >>= f : Except ε β) = f a := rfl

@[simp] theorem error_bind_except {ε α β : Type} (e : ε) (f : α → Except ε β) :
    (Except.error e >>= f : Except ε β) = .error e := rfl

theorem bind_eq_ok_except {ε α β : Type} {x : Except ε α} {f : α → Except ε β} {b : β} :
    x >>= f = .ok b ↔ ∃ a, x = .ok a ∧ f a = .ok b := by
  cases x <;> simp

/-- `ipv4.Header`, with the fields `serve` reads: the source and destination addresses,
each in the sixteen-byte form `net.IPv4` builds. -/
structure Header where
  src : IP
  dst : IP
deriving DecidableEq, Repr

/-- `wgtypes.Key`: the bytes of a public key. -/
abbrev Key := List UInt8

/-- The library functions of the model, each returning Go's error text on failure. -/
structure Library where
  /-- `net.ParseCIDR(s)`: the address and the network it lies in. -/
  parseCIDR : String → Except String (IP × IPNet)
  /-- `net.ParseIP(s)`, `none` for `nil`. -/
  parseIP : String → Option IP
  /-- `tcp.ParseNet(s)`. -/
  parseNet : String → Except String IPNet
  /-- `wgtypes.ParseKey(s)`. -/
  parseKey : String → Except String Key
  /-- `ipv4.ParseHeader(b)`. -/
  parseHeader : List UInt8 → Except String Header

/-- One step of a decimal digit loop: `n*10 + (c - '0')`. -/
def digitStep (n : Nat) (c : Char) : Nat := n * 10 + (c.toNat - '0'.toNat)

/-- The value of a non-empty run of decimal digits, `dtoi` when it reads the whole text. -/
def decimal (s : List Char) : Option Nat :=
  if s ≠ [] ∧ s.all Char.isDigit then some (s.foldl digitStep 0) else none

/-- One field of a dotted quad: at most 255 and without a leading zero. -/
def byteField (f : List Char) : Option UInt8 :=
  match decimal f with
  | some n => if n ≤ 255 ∧ (f.length = 1 ∨ f.head? ≠ some '0') then some n.toUInt8 else none
  | none => none

/-- `parseIPv4(s)`: four dotted decimal bytes, as the sixteen-byte `net.IPv4` form. -/
def parseIPv4 (s : String) : Option IP :=
  match (s.toList.splitOn '.').mapM byteField with
  | some [a, b, c, d] => some (IP.ipv4 a b c d)
  | _ => none

/-- `net.ParseCIDR(s)` on IPv4 text: the text up to the first `/` is the address, the
rest a prefix length of at most 32; the network is the address under that mask. -/
def parseCIDRv4 (s : String) : Except String (IP × IPNet) :=
  let (addr, rest) := s.toList.span (· ≠ '/')
  match rest, parseIPv4 (String.mk addr), decimal rest.tail with
  | _ :: _, some ip, some n =>
    if n ≤ 32 then .ok (ip, ⟨ip.mask (cidrMask n 32), cidrMask n 32⟩)
    else .error ("invalid CIDR address: " ++ s)
  | _, _, _ => .error ("invalid CIDR address: " ++ s)

/-- `ipv4.ParseHeader(b)`: it rejects a buffer shorter than the 20-byte header or than the
header length its first byte declares, and reads the addresses from bytes 12 to 19. -/
def parseHeaderv4 (b : List UInt8) : Except String Header :=
  if b.length < 20 then .error "header too short"
  else if b.length < ((b.headD 0 &&& 0x0f).toNat * 4) then .error "extension header length too short"
  else .ok ⟨IP.ipv4 (b.getD 12 0) (b.getD 13 0) (b.getD 14 0) (b.getD 15 0),
    IP.ipv4 (b.getD 16 0) (b.getD 17 0) (b.getD 18 0) (b.getD 19 0)⟩

/-- The concrete library of IPv4 text. `tcp.ParseNet` is modelled from the spec, which
calls its argument a CIDR: the network `net.ParseCIDR` reads from it. -/
def Library.ipv4 : Library where
  parseCIDR := parseCIDRv4
  parseIP := parseIPv4
  parseNet := fun s => (parseCIDRv4 s).map (·.2)
  parseKey := fun s => .error ("wgtypes: failed to parse base64-encoded key: " ++ s)
  parseHeader := parseHeaderv4

example : parseIPv4 "192.168.0.12" = some (IP.ipv4 192 168 0 12) := by decide
example : parseIPv4 "192.168.0.012" = none := by decide
example : parseCIDRv4 "192.168.0.12/24" =
    .ok (IP.ipv4 192 168 0 12, ⟨[192, 168, 0, 0], [255, 255, 255, 0]⟩) := by decide

/-! ## What `ParseCIDR` returns -/

/-- What Go's `net.ParseCIDR` returns for an address of `bits` bits (32 for IPv4 text, 128 for
IPv6 text) and a prefix of `ones` bits: the sixteen-byte form of the address, IPv4-mapped for
IPv4 text, and the network `{IP: ip.Mask(m), Mask: m}` with `m = CIDRMask(ones, bits)`. -/
def ParseCIDRResult (ip : IP) (n : IPNet) : Prop :=
  ∃ ones bits, ones ≤ bits ∧ ip.length = 16 ∧ (bits = 32 ∧ ip.take 12 = v4InV6Prefix ∨ bits = 128) ∧
    n = ⟨ip.mask (cidrMask ones bits), cidrMask ones bits⟩

theorem parseIPv4_eq_some {s : String} {ip : IP} (h : parseIPv4 s = some ip) :
    ∃ a b c d, ip = IP.ipv4 a b c d := by
  unfold parseIPv4 at h
  split at h
  · cases h
    exact ⟨_, _, _, _, rfl⟩
  · cases h

/-- Every network the IPv4 library's `ParseCIDR` returns is one Go's returns for IPv4 text,
with a four-byte mask. -/
theorem parseCIDRv4_result {s : String} {ip : IP} {n : IPNet} (h : parseCIDRv4 s = .ok (ip, n)) :
    ParseCIDRResult ip n ∧ n.mask.length = 4 := by
  unfold parseCIDRv4 at h
  split at h
  split at h
  · split_ifs at h with hle
    cases h
    obtain ⟨a, b, c, d, rfl⟩ := parseIPv4_eq_some ‹parseIPv4 _ = some _›
    exact ⟨⟨_, 32, hle, rfl, .inl ⟨rfl, rfl⟩, rfl⟩, cidrMask_length hle (.inl rfl)⟩
  · cases h

end Kubelink
