import Kubelink.Tunnel.Serve

/-!
# The hello handshake

`NewTunnelConnection` starts a tunnel with a handshake: each side writes its own hello as a
frame of type `PACKET_TYPE_HELLO` while it reads the hello of the other side, and then checks
the cluster network that the remote hello announces against its own mux and the link it
expects. A remote hello whose cluster address is the zero address `::` is anonymous and
passes unchecked.

The hello codec (`ConnectionHello`, its `Data` and `ParseConnectionHello`) is not under
src/; the model takes it as a parameter and assumes the round trip the spec asks of it.

Results:
* `readHello_frame`: a hello frame that fits the buffer is read back as the hello that was
  written, however the reads are split.
* `newTunnelConnection_opens`: on a received hello, the connection opens exactly when the
  hello passes the checks in the spec's words (`Accepted`); `newTunnelConnection_unexpected`:
  a first frame that is not a hello is refused, as an unexpected packet, or by `ReadPacket`
  when it is larger than the buffer.
* `connect_serve`: from end to end, a stream of the remote hello and data frames opens the
  connection, and `Serve` writes to tun exactly the admitted payloads of the rest.
* `connect_pair`: two sides that exchange their hellos receive each other's hello, agree on
  the cluster network and port of the peer, and, when neither is anonymous, check the same
  two containments, so without expected links they open together or fail together.
-/

namespace Kubelink

/-- `PACKET_TYPE_HELLO`. -/
def PACKET_TYPE_HELLO : UInt8 := 1

/-- `net.IPv6zero`, the address `::`. -/
def ipv6zero : IP := List.replicate 16 0

/-- Modelled from the spec: `ConnectionHello`, whose file is not under src/, with what the
handshake reads of it: the cluster network (`GetClusterCIDR`), the advertised port
(`GetPort`), the primary service network (`GetCIDR`) and the extension records. -/
structure ConnectionHello where
  clusterCIDR : IPNet
  port : Nat
  cidr : Option IPNet
  extensions : List (Nat × List UInt8)
deriving DecidableEq, Repr

/-- Modelled from the spec: the hello codec, whose file is not under src/: the bytes of
`hello.Data()`, the length of `ConnectionHelloHeader`, and
`ParseConnectionHello(mux, header, rest)` with its error text. -/
structure HelloCodec where
  data : ConnectionHello → List UInt8
  headerLength : Nat
  parse : List UInt8 → List UInt8 → Except String ConnectionHello

/-- The round trip the spec asks of the codec for `hello`: its data holds a header, and
parsing the header and the rest gives `hello` back. -/
def HelloCodec.RoundTrip (codec : HelloCodec) (hello : ConnectionHello) : Prop :=
  codec.headerLength ≤ (codec.data hello).length ∧
    codec.parse ((codec.data hello).take codec.headerLength) ((codec.data hello).drop codec.headerLength) =
      .ok hello

instance (codec : HelloCodec) (hello : ConnectionHello) : Decidable (codec.RoundTrip hello) :=
  inferInstanceAs (Decidable (_ ∧ _))

/-- The errors of the handshake and of `NewTunnelConnection`. -/
inductive HandshakeError
  /-- an error of `ReadPacket` or `WritePacket`, passed on -/
  | io (e : IOError)
  /-- `unexpected packet %d instead of hello handshake` -/
  | unexpectedPacket (ty : UInt8)
  /-- `hello packet too short (%d expected %d)` -/
  | tooShort (length expected : Nat)
  /-- an error of `ParseConnectionHello` -/
  | invalid (text : String)
  /-- `cannot finish connection handshake: %s` -/
  | cannotFinish (e : HandshakeError)
  /-- `cluster address mismatch: got %s but expected %s` -/
  | addressMismatch (got expected : IP)
  /-- `cluster address mismatch: own address %s not in foreign range` -/
  | ownNotInForeign (own : IP) (cidr : IPNet)
  /-- `cluster address mismatch: remote address %s not in local range` -/
  | remoteNotInLocal (remote : IP) (net : IPNet)
deriving DecidableEq, Repr

section Codec

variable (codec : HelloCodec)

/-- `createHello()`: the cluster network of the mux, its port, its first local service
network if it has one, and the extensions that the registered handlers add. The mux's port
is passed as `port`, since `Mux` keeps only the fields `serve` reads. -/
def createHello (mux : Mux) (port : Nat) (extensions : List (Nat × List UInt8)) : ConnectionHello :=
  ⟨mux.clusterAddr, port, (mux.localNets.nets.getD []).head?, extensions⟩

/-- `writeHello(hello)`. -/
def writeHello (hello : ConnectionHello) (steps : List WriteStep) :
    Except IOError Unit × List UInt8 × List WriteStep :=
  writePacket PACKET_TYPE_HELLO (codec.data hello) steps

/-- `parseHelloPacket(data)`: the header is the first `len(header)` bytes. -/
def parseHelloPacket (data : List UInt8) : Except HandshakeError ConnectionHello :=
  if data.length < codec.headerLength then .error (.tooShort data.length codec.headerLength)
  else (codec.parse (data.take codec.headerLength) (data.drop codec.headerLength)).mapError .invalid

/-- `readHello()`: one frame, which must be a hello. -/
def readHello (c : Inbound) : Except HandshakeError ConnectionHello × Inbound :=
  match readPacket BufferSize c with
  | ((_, _, .error e), c) => (.error (.io e), c)
  | ((_, ty, .ok data), c) =>
    if ty ≠ PACKET_TYPE_HELLO then (.error (.unexpectedPacket ty), c) else (parseHelloPacket codec data, c)

/-- What the handshake leaves: the remote hello or the error, the rest of the inbound
stream, the bytes written and the write steps left. -/
structure Exchange where
  remote : Except HandshakeError ConnectionHello
  inbound : Inbound
  sent : List UInt8
  steps : List WriteStep

/-- `handshake()`: write the local hello while reading the remote one. The write runs in its
own goroutine on the other direction of the connection, so the two do not interleave on one
stream; an error of the read is reported before one of the write. -/
def handshake (mux : Mux) (port : Nat) (extensions : List (Nat × List UInt8)) (c : Inbound)
    (steps : List WriteStep) : Exchange :=
  let (werr, sent, steps) := writeHello codec (createHello mux port extensions) steps
  let (remote, c) := readHello codec c
  let remote := match remote, werr with
    | .error e, _ => .error (.cannotFinish e)
    | .ok _, .error e => .error (.cannotFinish (.io e))
    | .ok hello, .ok () => .ok hello
  ⟨remote, c, sent, steps⟩

end Codec

/-- The checks of `NewTunnelConnection` on the remote hello: none for the zero address;
otherwise the expected link's cluster IP, then that the remote network holds the own cluster
IP, then that the own network holds the remote cluster IP. -/
def validate (mux : Mux) (link : Option Link) (hello : ConnectionHello) : Except HandshakeError Unit := do
  let cidr := hello.clusterCIDR
  if !ipv6zero.equal cidr.ip then
    if let some l := link then
      if !l.clusterAddress.ip.equal cidr.ip then
        throw (.addressMismatch cidr.ip l.clusterAddress.ip)
    if !cidr.contains mux.clusterAddr.ip then
      throw (.ownNotInForeign mux.clusterAddr.ip cidr)
    if !mux.clusterAddr.contains cidr.ip then
      throw (.remoteNotInLocal cidr.ip mux.clusterAddr)

/-- `NewTunnelConnection(mux, conn, link, handlers...)`: the connection or the error, and the
remote hello, which Go returns also when a check fails. -/
def newTunnelConnection (codec : HelloCodec) (mux : Mux) (port : Nat) (extensions : List (Nat × List UInt8))
    (link : Option Link) (handlers : List Nat) (c : Inbound) (steps : List WriteStep) :
    Except HandshakeError TunnelConnection × Option ConnectionHello :=
  match (handshake codec mux port extensions c steps).remote with
  | .error e => (.error e, none)
  | .ok hello =>
    match validate mux link hello with
    | .error e => (.error e, some hello)
    | .ok () => (.ok ⟨mux, handlers⟩, some hello)

/-! ## One side -/

/-- The checks of `NewTunnelConnection` in the spec's words: an anonymous hello passes;
otherwise the remote cluster IP is the expected link's, the remote network holds the own
cluster IP, and the own network holds the remote one. -/
def Accepted (mux : Mux) (link : Option Link) (hello : ConnectionHello) : Prop :=
  ipv6zero.equal hello.clusterCIDR.ip = true ∨
    ((∀ l ∈ link, l.clusterAddress.ip.equal hello.clusterCIDR.ip = true) ∧
      hello.clusterCIDR.contains mux.clusterAddr.ip = true ∧ mux.clusterAddr.contains hello.clusterCIDR.ip = true)

theorem validate_eq_ok {mux : Mux} {link : Option Link} {hello : ConnectionHello} :
    validate mux link hello = .ok () ↔ Accepted mux link hello := by
  unfold validate Accepted
  cases hz : ipv6zero.equal hello.clusterCIDR.ip
  · -- the three checks, each passing or failing, with or without an expected link
    cases h₁ : hello.clusterCIDR.contains mux.clusterAddr.ip <;>
      cases h₂ : mux.clusterAddr.contains hello.clusterCIDR.ip <;>
      rcases link with _ | l <;>
      try cases h₀ : l.clusterAddress.ip.equal hello.clusterCIDR.ip
    all_goals simp only [*, Bool.not_false, Bool.not_true, ↓reduceIte, throw_except, pure_except, ok_bind_except,
      error_bind_except, Bool.false_eq_true, Bool.true_eq_false, false_or, true_and, and_true, and_false,
      reduceCtorEq, iff_true, iff_false, true_iff, not_false_eq_true, Option.mem_def, Option.some.injEq,
      forall_eq', false_implies, implies_true]
  · simp only [hz, Bool.not_true, Bool.false_eq_true, ↓reduceIte, pure_except, true_or, iff_true]

section Exchange

variable (codec : HelloCodec)

/-- A hello frame that fits the buffer is read back as the hello that was written, however
the reads are split. -/
theorem readHello_frame {hello : ConnectionHello} (hrt : codec.RoundTrip hello)
    (hsize : (codec.data hello).length ≤ BufferSize) (cs : List (List UInt8)) (rest : List UInt8)
    (tail : Inbound) (hcs : cs.flatten = encodeFrame (PACKET_TYPE_HELLO, codec.data hello) ++ rest) :
    ∃ cs' : List (List UInt8), readHello codec (cs.map .ok ++ tail) = (.ok hello, cs'.map .ok ++ tail) ∧
      cs'.flatten = rest := by
  obtain ⟨cs', h, hflat⟩ := readPacket_frame BufferSize (PACKET_TYPE_HELLO, codec.data hello) hsize
    (show (codec.data hello).length ≤ 65535 by unfold BufferSize at hsize; omega) cs rest tail hcs
  exact ⟨cs', by simp [readHello, h, parseHelloPacket, Nat.not_lt.mpr hrt.1, hrt.2, Except.mapError], hflat⟩

/-- A first frame of another type is refused: as an unexpected packet when it fits the
buffer, and by `ReadPacket` with the buffer-too-small error when it does not. -/
theorem readHello_unexpected (f : UInt8 × List UInt8) (hty : f.1 ≠ PACKET_TYPE_HELLO)
    (hlen : f.2.length ≤ 65535) (cs : List (List UInt8)) (rest : List UInt8) (tail : Inbound)
    (hcs : cs.flatten = encodeFrame f ++ rest) :
    (readHello codec (cs.map .ok ++ tail)).1 = .error (if f.2.length ≤ BufferSize then .unexpectedPacket f.1
      else .io (.bufferTooSmall BufferSize f.2.length)) := by
  by_cases hsize : f.2.length ≤ BufferSize
  · obtain ⟨cs', h, -⟩ := readPacket_frame BufferSize f hsize hlen cs rest tail hcs
    simp [readHello, h, hty, hsize]
  · have h := readPacket_oversize BufferSize f (Nat.lt_of_not_le hsize) hlen cs rest tail hcs
    rcases hr : readPacket BufferSize (cs.map .ok ++ tail) with ⟨r, c⟩
    rw [hr] at h
    subst h
    simp [readHello, hr, hsize]

/-- The handshake of a side whose inbound stream starts with the remote hello and whose
writes do not fail: it receives that hello and sends its own as one frame. -/
theorem handshake_frames {mux : Mux} {port : Nat} {extensions : List (Nat × List UInt8)}
    {remote : ConnectionHello} (hrt : codec.RoundTrip remote)
    (hsize : (codec.data remote).length ≤ BufferSize)
    (hlen : (codec.data (createHello mux port extensions)).length ≤ 65535)
    (cs : List (List UInt8)) (rest : List UInt8) (tail : Inbound)
    (hcs : cs.flatten = encodeFrame (PACKET_TYPE_HELLO, codec.data remote) ++ rest)
    (steps : List WriteStep) (hsteps : ∀ st ∈ steps, ∃ k, st = .accept k) :
    ∃ (cs' : List (List UInt8)) (steps' : List WriteStep),
      handshake codec mux port extensions (cs.map .ok ++ tail) steps =
        ⟨.ok remote, cs'.map .ok ++ tail, encodeFrame (PACKET_TYPE_HELLO, codec.data (createHello mux port extensions)),
          steps'⟩ ∧
      cs'.flatten = rest ∧ ∀ st ∈ steps', ∃ k, st = .accept k := by
  obtain ⟨steps', hw, hs'⟩ := writePacket_eq PACKET_TYPE_HELLO _ hlen steps hsteps
  obtain ⟨cs', hr, hflat⟩ := readHello_frame codec hrt hsize cs rest tail hcs
  exact ⟨cs', steps', by simp only [handshake, writeHello, hw, hr], hflat, hs'⟩

/-- On a received hello, `NewTunnelConnection` returns it, and opens the connection exactly
when the hello passes the checks in the spec's words. -/
theorem newTunnelConnection_opens {mux : Mux} {port : Nat} {extensions : List (Nat × List UInt8)}
    (link : Option Link) (handlers : List Nat) {c : Inbound} {steps : List WriteStep} {remote : ConnectionHello}
    (hx : (handshake codec mux port extensions c steps).remote = .ok remote) :
    (newTunnelConnection codec mux port extensions link handlers c steps).2 = some remote ∧
      ((newTunnelConnection codec mux port extensions link handlers c steps).1 = .ok ⟨mux, handlers⟩ ↔
        Accepted mux link remote) := by
  rcases hv : validate mux link remote with e | ⟨⟩
  · simp only [newTunnelConnection, hx, hv, true_and, reduceCtorEq, false_iff]
    intro h
    rw [validate_eq_ok.mpr h] at hv
    cases hv
  · simp only [newTunnelConnection, hx, hv, true_and, true_iff]
    exact validate_eq_ok.mp hv

/-- A peer whose first frame is not a hello is refused, whatever the writes do, and no
hello is returned. The error is the unexpected packet when the frame fits the buffer, and
the buffer-too-small error of `ReadPacket` when it does not. -/
theorem newTunnelConnection_unexpected (mux : Mux) (port : Nat) (extensions : List (Nat × List UInt8))
    (link : Option Link) (handlers : List Nat) (f : UInt8 × List UInt8) (hty : f.1 ≠ PACKET_TYPE_HELLO)
    (hlen : f.2.length ≤ 65535) (cs : List (List UInt8)) (rest : List UInt8) (tail : Inbound)
    (hcs : cs.flatten = encodeFrame f ++ rest) (steps : List WriteStep) :
    newTunnelConnection codec mux port extensions link handlers (cs.map .ok ++ tail) steps =
      (.error (.cannotFinish (if f.2.length ≤ BufferSize then .unexpectedPacket f.1
        else .io (.bufferTooSmall BufferSize f.2.length))), none) := by
  have h := readHello_unexpected codec f hty hlen cs rest tail hcs
  rcases hr : readHello codec (cs.map .ok ++ tail) with ⟨r, c⟩
  rw [hr] at h
  subst h
  simp only [newTunnelConnection, handshake, hr]

/-- A data frame of 17001 bytes where the hello should be, in one read: `ReadPacket` refuses
it before its type is looked at. -/
theorem newTunnelConnection_unexpected_oversize :
    let a : Mux := ⟨⟨[10, 0, 0, 1], [255, 0, 0, 0]⟩, ⟨none⟩, newLinks 8088⟩
    let codec : HelloCodec := ⟨fun _ => [1], 1, fun _ _ => .ok (createHello a 8088 [])⟩
    let f : UInt8 × List UInt8 := (PACKET_TYPE_DATA, List.replicate 17001 0x45)
    f.1 ≠ PACKET_TYPE_HELLO ∧ f.2.length ≤ 65535 ∧ [encodeFrame f].flatten = encodeFrame f ++ [] ∧
      newTunnelConnection codec a 8088 [] none [] ([encodeFrame f].map .ok ++ []) [] =
        (.error (.cannotFinish (if f.2.length ≤ BufferSize then .unexpectedPacket f.1
          else .io (.bufferTooSmall BufferSize f.2.length))), none) :=
  have hcs := (List.flatten_singleton _).trans (List.append_nil _).symm
  have hlen : (List.replicate 17001 (0x45 : UInt8)).length ≤ 65535 := by rw [List.length_replicate]; omega
  ⟨by decide, hlen, hcs, newTunnelConnection_unexpected _ _ _ _ _ _ _ (by decide) hlen _ [] [] hcs []⟩

/-- The inbound side of a tunnel from end to end: a stream that carries the remote hello
and then data frames, split into any reads, with writes that do not fail. When the hello
passes the checks, `NewTunnelConnection` opens the connection, and `Serve` on the rest of
the stream writes to tun exactly the payloads that `serve` admits and ends at `io.EOF`
without a notification. -/
theorem connect_serve (lib : Library) {mux : Mux} {port : Nat} {extensions : List (Nat × List UInt8)}
    {link : Option Link} (handlers : List Nat) {remote : ConnectionHello} (hrt : codec.RoundTrip remote)
    (hsize : (codec.data remote).length ≤ BufferSize)
    (hlen : (codec.data (createHello mux port extensions)).length ≤ 65535)
    (frames : List (UInt8 × List UInt8)) (hfit : ∀ f ∈ frames, f.2.length ≤ BufferSize)
    (cs : List (List UInt8))
    (hcs : cs.flatten = encodeFrame (PACKET_TYPE_HELLO, codec.data remote) ++ frames.flatMap encodeFrame)
    (steps : List WriteStep) (hsteps : ∀ st ∈ steps, ∃ k, st = .accept k) (hacc : Accepted mux link remote) :
    (newTunnelConnection codec mux port extensions link handlers (cs.map .ok) steps).1 = .ok ⟨mux, handlers⟩ ∧
      (TunnelConnection.mk mux handlers).Serve lib (handshake codec mux port extensions (cs.map .ok) steps).inbound [] =
        some (.returned .eof,
          (frames.filter fun f => f.1 = PACKET_TYPE_DATA ∧ f.2 ≠ [] ∧ mux.Admits lib f.2).map (·.2), []) := by
  obtain ⟨cs', _, hx, hflat, -⟩ := handshake_frames codec hrt hsize hlen cs _ [] hcs steps hsteps
  simp only [List.append_nil] at hx
  refine ⟨(newTunnelConnection_opens codec link handlers (congrArg Exchange.remote hx)).2.mpr hacc, ?_⟩
  obtain ⟨cs'', hcs'', hloop⟩ := @TunnelConnection.serveFrom_frames lib ⟨mux, handlers⟩ [] frames hfit cs' [] []
    (by rw [hflat, List.append_nil])
  simp only [List.append_nil] at hloop
  simp [hx, TunnelConnection.Serve, TunnelConnection.serve, hloop,
    TunnelConnection.serveFrom_stop (TunnelConnection.serveStep_exhausted hcs''), TunnelConnection.notify]

/-- The mux of `10.0.0.1/8` receives the hello of `10.0.0.2/8` and one data frame in one read. -/
theorem connect_serve_mesh :
    let a : Mux := ⟨⟨[10, 0, 0, 1], [255, 0, 0, 0]⟩, ⟨none⟩, newLinks 8088⟩
    let b : Mux := ⟨⟨[10, 0, 0, 2], [255, 0, 0, 0]⟩, ⟨none⟩, newLinks 8088⟩
    let codec : HelloCodec := ⟨fun _ => [2], 1, fun _ _ => .ok (createHello b 8088 [])⟩
    let frames : List (UInt8 × List UInt8) := [(PACKET_TYPE_DATA, [0x45, 0])]
    let cs : List (List UInt8) :=
      [encodeFrame (PACKET_TYPE_HELLO, codec.data (createHello b 8088 [])) ++ frames.flatMap encodeFrame]
    (codec.RoundTrip (createHello b 8088 []) ∧ (codec.data (createHello b 8088 [])).length ≤ BufferSize ∧
      (codec.data (createHello a 8088 [])).length ≤ 65535 ∧ (∀ f ∈ frames, f.2.length ≤ BufferSize) ∧
      cs.flatten = encodeFrame (PACKET_TYPE_HELLO, codec.data (createHello b 8088 [])) ++ frames.flatMap encodeFrame ∧
      (∀ st ∈ ([] : List WriteStep), ∃ k, st = .accept k) ∧ Accepted a none (createHello b 8088 [])) ∧
    (newTunnelConnection codec a 8088 [] none [] (cs.map .ok) []).1 = .ok ⟨a, []⟩ ∧
      (TunnelConnection.mk a []).Serve Library.ipv4 (handshake codec a 8088 [] (cs.map .ok) []).inbound [] =
        some (.returned .eof,
          (frames.filter fun f => f.1 = PACKET_TYPE_DATA ∧ f.2 ≠ [] ∧ a.Admits Library.ipv4 f.2).map (·.2), []) := by
  intro a b codec frames cs
  have hacc : Accepted a none (createHello b 8088 []) := .inr ⟨(fun _ h => nomatch h), by decide, by decide⟩
  exact ⟨⟨by decide, by decide, by decide, by decide, List.flatten_singleton _, (fun _ h => nomatch h), hacc⟩,
    connect_serve codec Library.ipv4 [] (by decide) (by decide) (by decide) frames (by decide) cs
      (List.flatten_singleton _) [] (fun _ h => nomatch h) hacc⟩

/-! ## Two sides -/

/-- Each cluster network contains the cluster IP of the other side. -/
def MutuallyContained (a b : Mux) : Prop :=
  b.clusterAddr.contains a.clusterAddr.ip = true ∧ a.clusterAddr.contains b.clusterAddr.ip = true

theorem accepted_createHello {mux peer : Mux} {link : Option Link} {port : Nat} {extensions : List (Nat × List UInt8)}
    (hz : ipv6zero.equal peer.clusterAddr.ip = false) :
    Accepted mux link (createHello peer port extensions) ↔
      (∀ l ∈ link, l.clusterAddress.ip.equal peer.clusterAddr.ip = true) ∧ MutuallyContained mux peer := by
  simp [Accepted, createHello, MutuallyContained, hz]

/-- Two sides that exchange their hellos over a connection, each receiving the other's frame
split into any reads and writing with writes that do not fail: each sends its own hello as
one frame and receives the other's, so both agree on the cluster network and port of the
peer. When neither is anonymous, each opens exactly when its expected link, if any, has the
peer's cluster IP and the two cluster networks contain each other's IP: the range checks of
the two sides are the same, so without expected links they open together or fail together. -/
theorem connect_pair (a b : Mux) (portA portB : Nat) (extA extB : List (Nat × List UInt8))
    (linkA linkB : Option Link) (handlersA handlersB : List Nat)
    (hrtA : codec.RoundTrip (createHello a portA extA)) (hrtB : codec.RoundTrip (createHello b portB extB))
    (hsizeA : (codec.data (createHello a portA extA)).length ≤ BufferSize)
    (hsizeB : (codec.data (createHello b portB extB)).length ≤ BufferSize)
    (csA csB : List (List UInt8)) (restA restB : List UInt8) (tailA tailB : Inbound)
    (hcsA : csA.flatten = encodeFrame (PACKET_TYPE_HELLO, codec.data (createHello b portB extB)) ++ restA)
    (hcsB : csB.flatten = encodeFrame (PACKET_TYPE_HELLO, codec.data (createHello a portA extA)) ++ restB)
    (stepsA stepsB : List WriteStep) (hstepsA : ∀ st ∈ stepsA, ∃ k, st = .accept k)
    (hstepsB : ∀ st ∈ stepsB, ∃ k, st = .accept k) :
    (handshake codec a portA extA (csA.map .ok ++ tailA) stepsA).sent =
        encodeFrame (PACKET_TYPE_HELLO, codec.data (createHello a portA extA)) ∧
      (handshake codec b portB extB (csB.map .ok ++ tailB) stepsB).sent =
        encodeFrame (PACKET_TYPE_HELLO, codec.data (createHello b portB extB)) ∧
      (newTunnelConnection codec a portA extA linkA handlersA (csA.map .ok ++ tailA) stepsA).2 =
        some (createHello b portB extB) ∧
      (newTunnelConnection codec b portB extB linkB handlersB (csB.map .ok ++ tailB) stepsB).2 =
        some (createHello a portA extA) ∧
      (ipv6zero.equal a.clusterAddr.ip = false → ipv6zero.equal b.clusterAddr.ip = false →
        ((newTunnelConnection codec a portA extA linkA handlersA (csA.map .ok ++ tailA) stepsA).1 =
            .ok ⟨a, handlersA⟩ ↔
          (∀ l ∈ linkA, l.clusterAddress.ip.equal b.clusterAddr.ip = true) ∧ MutuallyContained a b) ∧
        ((newTunnelConnection codec b portB extB linkB handlersB (csB.map .ok ++ tailB) stepsB).1 =
            .ok ⟨b, handlersB⟩ ↔
          (∀ l ∈ linkB, l.clusterAddress.ip.equal a.clusterAddr.ip = true) ∧ MutuallyContained a b)) := by
  have h65535 : ∀ n, n ≤ BufferSize → n ≤ 65535 := fun n h => by unfold BufferSize at h; omega
  obtain ⟨_, _, hxA, -, -⟩ := handshake_frames codec hrtB hsizeB (h65535 _ hsizeA) csA restA tailA hcsA stepsA hstepsA
  obtain ⟨_, _, hxB, -, -⟩ := handshake_frames codec hrtA hsizeA (h65535 _ hsizeB) csB restB tailB hcsB stepsB hstepsB
  have hoA := newTunnelConnection_opens codec linkA handlersA (congrArg Exchange.remote hxA)
  have hoB := newTunnelConnection_opens codec linkB handlersB (congrArg Exchange.remote hxB)
  refine ⟨by rw [hxA], by rw [hxB], hoA.1, hoB.1, fun hza hzb => ⟨?_, ?_⟩⟩
  · rw [hoA.2, accepted_createHello hzb]
  · rw [hoB.2, accepted_createHello hza, MutuallyContained, MutuallyContained, and_comm (a := _ = true)]

end Exchange

/-- Two muxes of `10.0.0.0/8` exchange their hellos, through a codec that tells the two
hellos apart by one byte, each frame in two reads. -/
theorem connect_pair_mesh :
    let a : Mux := ⟨⟨[10, 0, 0, 1], [255, 0, 0, 0]⟩, ⟨none⟩, newLinks 8088⟩
    let b : Mux := ⟨⟨[10, 0, 0, 2], [255, 0, 0, 0]⟩, ⟨none⟩, newLinks 8088⟩
    let codec : HelloCodec := ⟨fun h => if h = createHello a 8088 [] then [1] else [2], 1,
      fun hdr _ => if hdr = [1] then .ok (createHello a 8088 []) else .ok (createHello b 8088 [])⟩
    let csA : List (List UInt8) := [[0, 1], [1, 2]]
    let csB : List (List UInt8) := [[0], [1, 1, 1]]
    (codec.RoundTrip (createHello a 8088 []) ∧ codec.RoundTrip (createHello b 8088 []) ∧
      (codec.data (createHello a 8088 [])).length ≤ BufferSize ∧
      (codec.data (createHello b 8088 [])).length ≤ BufferSize ∧
      csA.flatten = encodeFrame (PACKET_TYPE_HELLO, codec.data (createHello b 8088 [])) ++ [] ∧
      csB.flatten = encodeFrame (PACKET_TYPE_HELLO, codec.data (createHello a 8088 [])) ++ []) ∧
    (handshake codec a 8088 [] (csA.map .ok) []).sent = encodeFrame (PACKET_TYPE_HELLO, codec.data (createHello a 8088 [])) ∧
      (handshake codec b 8088 [] (csB.map .ok) []).sent = encodeFrame (PACKET_TYPE_HELLO, codec.data (createHello b 8088 [])) ∧
      (newTunnelConnection codec a 8088 [] none [] (csA.map .ok) []).2 = some (createHello b 8088 []) ∧
      (newTunnelConnection codec b 8088 [] none [] (csB.map .ok) []).2 = some (createHello a 8088 []) ∧
      (ipv6zero.equal a.clusterAddr.ip = false → ipv6zero.equal b.clusterAddr.ip = false →
        ((newTunnelConnection codec a 8088 [] none [] (csA.map .ok) []).1 = .ok ⟨a, []⟩ ↔
          (∀ l ∈ (none : Option Link), l.clusterAddress.ip.equal b.clusterAddr.ip = true) ∧ MutuallyContained a b) ∧
        ((newTunnelConnection codec b 8088 [] none [] (csB.map .ok) []).1 = .ok ⟨b, []⟩ ↔
          (∀ l ∈ (none : Option Link), l.clusterAddress.ip.equal a.clusterAddr.ip = true) ∧ MutuallyContained a b)) :=
  ⟨⟨by decide, by decide, by decide, by decide, by decide, by decide⟩,
    connect_pair _ _ _ 8088 8088 [] [] none none [] [] (by decide) (by decide) (by decide) (by decide)
      [[0, 1], [1, 2]] [[0], [1, 1, 1]] [] [] [] [] (by decide) (by decide) [] [] (by simp) (by simp)⟩

end Kubelink
