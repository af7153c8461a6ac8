import Kubelink.Net.Library
import Kubelink.Registry.Links
import Kubelink.Tunnel.Frame

/-!
# The receiving loop of a tunnel connection

`TunnelConnection.serve` reads frames with `ReadPacket` until it fails, and writes the
payload of every data frame that its filter admits to the tun device; `Serve` runs it and
then notifies the mux and every registered fail handler of the error it returned, unless
that is `io.EOF`. `RegisterStateHandler` appends fail handlers, which `notify` then reaches
after the earlier ones.

One iteration of the loop is `serveStep`: it continues (`Iter.next`) or ends the loop
(`Iter.stop`). The loop `serveLoop` runs on fuel, and `serve` gives it one unit more than
the `weight` of the stream, which every iteration that continues lowers, so the fuel never
runs out (`serveLoop_fuel`). The tun device is modelled as the writing side of a
connection is: by what each `Write` returns; past the last listed result a `Write` writes
the whole packet.

Results:
* `forward_iff_admits`: the filter of `serve` admits a packet exactly when the rules of
  `Mux.Admits` do.
* `serve_forwards_admitted`: on a stream of frames that fit the buffer, however it is split,
  `serve` writes to tun exactly the payloads of the non-empty data frames that the filter
  admits, in order, and returns `io.EOF` at the end of the stream.
* `Serve_read_failure`: when `ReadPacket` fails after such frames, whichever reads carried
  the bytes of the failed frame, `Serve` returns `io.EOF` and notifies no one if `ReadPacket`
  returned length 0 (a header read error, or a frame larger than the buffer); otherwise it
  returns the error of the payload read and notifies the mux and every handler of it,
  unless it is `io.EOF`.
* `serve_hides_oversize`: a frame larger than the buffer ends `Serve` with `io.EOF` and no
  notification, although `ReadPacket` failed with the buffer-too-small error.
-/

namespace Kubelink

/-- `BufferSize`: the receive buffer of `serve`. -/
def BufferSize : Nat := 17000

/-- `PACKET_TYPE_DATA`: the type of a frame that carries an IP packet. -/
def PACKET_TYPE_DATA : UInt8 := 0

/-- Modelled from the spec: `Mux`, whose file is not under src/, with the fields `serve`
reads: the cluster network, the local service networks (Go's field `local`) and the link
registry. -/
structure Mux where
  clusterAddr : IPNet
  localNets : CIDRList
  links : Links

/-- What one `tun.Write` returns: the number of bytes written, or an error. -/
abbrev TunStep := Except IOError Nat

/-- A call that `notify` makes: `mux.Notify`, or `Notify` of the fail handler `h`. -/
inductive Notification
  | mux (err : IOError)
  | handler (h : Nat) (err : IOError)
deriving DecidableEq, Repr

/-- The part of `TunnelConnection` that `serve` and `notify` read: the mux and the fail
handlers that `RegisterStateHandler` added, by number. -/
structure TunnelConnection where
  mux : Mux
  handlers : List Nat

/-- How `serve` ends: it returns an error, or it panics with the packet length and the
count `tun.Write` returned. -/
inductive ServeEnd
  | returned (err : IOError)
  | panicked (n o : Nat)
deriving DecidableEq, Repr

namespace Mux

/-- The filter of `serve` on a data packet, `true` when the packet goes to tun. A packet
whose version nibble is not `ipv4.Version` (4) goes to tun unchecked. -/
def forward (lib : Library) (mux : Mux) (packet : List UInt8) : Bool :=
  if (packet.headD 0).toNat >>> 4 = 4 then
    match lib.parseHeader packet with
    | .error _ => false
    | .ok header =>
      if mux.clusterAddr.contains header.src then
        match mux.links.getLinkForClusterAddress header.src with
        | none => false
        | some l =>
          let (granted, set) := l.allowIngress header.dst
          if !granted then false
          else if !set && mux.localNets.isSet && !mux.localNets.contains header.dst then false
          else true
      else header.dst.equal mux.clusterAddr.ip
  else true

/-- Spec side: the packets that reach tun. A packet whose version nibble is not 4 does; an
IPv4 packet does when `ipv4.ParseHeader` accepts it and either its source lies in the
cluster network and the link of the source grants the destination, with an ingress policy
set or the local networks unset or containing the destination, or its source lies outside
and its destination is the cluster address. -/
def Admits (lib : Library) (mux : Mux) (packet : List UInt8) : Prop :=
  (packet.headD 0).toNat / 16 ≠ 4 ∨
    ∃ header, lib.parseHeader packet = .ok header ∧
      ((mux.clusterAddr.contains header.src = true ∧
          ∃ l, mux.links.getLinkForClusterAddress header.src = some l ∧
            (l.allowIngress header.dst).1 = true ∧
            ((l.allowIngress header.dst).2 = true ∨ mux.localNets.isSet = false ∨
              mux.localNets.contains header.dst = true)) ∨
        (mux.clusterAddr.contains header.src = false ∧ header.dst.equal mux.clusterAddr.ip = true))

/-- The filter of `serve` is the rule set `Admits`. -/
theorem forward_iff_admits (lib : Library) (mux : Mux) (packet : List UInt8) :
    mux.forward lib packet = true ↔ mux.Admits lib packet := by
  have hshift : (packet.headD 0).toNat >>> 4 = (packet.headD 0).toNat / 16 :=
    Nat.shiftRight_eq_div_pow _ 4
  unfold forward Admits
  rw [hshift]
  by_cases hv : (packet.headD 0).toNat / 16 = 4
  · simp only [hv, if_true, ne_eq, not_true_eq_false, false_or]
    rcases lib.parseHeader packet with _ | header
    · -- a header that does not parse
      exact iff_of_false Bool.false_ne_true fun ⟨_, h, _⟩ => nomatch h
    · simp only [Except.ok.injEq, exists_eq_left']
      cases hc : mux.clusterAddr.contains header.src
      · -- a source outside the mesh: only to the own cluster address
        simp only [Bool.false_eq_true, if_false, false_and, false_or, true_and]
      · rcases mux.links.getLinkForClusterAddress header.src with _ | l
        · -- no link for the source
          simp only [if_true, reduceCtorEq, false_and, exists_false, Bool.true_eq_false, or_false,
            Bool.false_eq_true, and_false]
        · -- the ingress of the source's link, then the local networks
          simp only [if_true, Option.some.injEq, exists_eq_left', true_and, Bool.true_eq_false, false_and,
            or_false]
          cases (l.allowIngress header.dst).1 <;> cases (l.allowIngress header.dst).2 <;>
            cases mux.localNets.isSet <;> cases mux.localNets.contains header.dst <;> decide
  · simp only [hv, if_false, ne_eq, not_false_eq_true, true_or]

instance (lib : Library) (mux : Mux) (packet : List UInt8) : Decidable (mux.Admits lib packet) :=
  decidable_of_iff _ (forward_iff_admits lib mux packet)

end Mux

namespace TunnelConnection

/-- What one iteration of the loop of `serve` does: continue on the rest of the stream and
of tun (`next`), or end the loop (`stop`), each with the buffers it gave to `tun.Write`. -/
inductive Iter
  | next (written : List (List UInt8)) (c : Inbound) (tun : List TunStep)
  | stop (e : ServeEnd) (written : List (List UInt8))

/-- One iteration of the loop of `serve`: `ReadPacket`, the checks, then `tun.Write`. A
failed `ReadPacket` ends the loop with its error, replaced by `io.EOF` when the length it
returned is 0; the length is never negative. -/
def serveStep (lib : Library) (t : TunnelConnection) (c : Inbound) (tun : List TunStep) : Iter :=
  match readPacket BufferSize c with
  | ((n, _, .error err), _) => .stop (.returned (if n = 0 then .eof else err)) []
  | ((n, ty, .ok packet), c) =>
    if n = 0 then .next [] c tun
    else if ty ≠ PACKET_TYPE_DATA then .next [] c tun
    else if !t.mux.forward lib packet then .next [] c tun
    else
      match tun with
      | [] => .next [packet] c []
      | .error err :: _ => .stop (.returned err) [packet]
      | .ok o :: tun => if n ≠ o then .stop (.panicked n o) [packet] else .next [packet] c tun

/-- The loop of `serve` on fuel, with the buffers written to tun so far. -/
def serveLoop (lib : Library) (t : TunnelConnection) :
    Nat → Inbound → List TunStep → List (List UInt8) → Option (ServeEnd × List (List UInt8))
  | 0, _, _, _ => none
  | fuel + 1, c, tun, written =>
    match t.serveStep lib c tun with
    | .stop e ws => some (e, written ++ ws)
    | .next ws c tun => serveLoop lib t fuel c tun (written ++ ws)

/-- The weight of one chunk: one, and one more for each of its bytes. -/
def chunkWeight : Chunk → Nat
  | .ok b => b.length + 1
  | .error _ => 1

/-- The weight of a stream, which every iteration of the loop that continues lowers. -/
def weight (c : Inbound) : Nat := (c.map chunkWeight).sum

/-- The loop of `serve` from a point of the stream, with enough fuel. -/
def serveFrom (lib : Library) (t : TunnelConnection) (c : Inbound) (tun : List TunStep)
    (written : List (List UInt8)) : Option (ServeEnd × List (List UInt8)) :=
  t.serveLoop lib (weight c + 1) c tun written

/-- `serve()`: how the loop ends and the buffers it wrote to tun. -/
def serve (lib : Library) (t : TunnelConnection) (c : Inbound) (tun : List TunStep) :
    Option (ServeEnd × List (List UInt8)) :=
  t.serveFrom lib c tun []

/-- `notify(err)`: nothing for `io.EOF`; otherwise `mux.Notify`, then every handler. -/
def notify (t : TunnelConnection) (err : IOError) : List Notification :=
  if err = .eof then [] else .mux err :: t.handlers.map (Notification.handler · err)

/-- `RegisterStateHandler(handlers...)`: the handlers go after those registered before. -/
def registerStateHandler (t : TunnelConnection) (handlers : List Nat) : TunnelConnection :=
  { t with handlers := t.handlers ++ handlers }

/-- `Serve()`: `serve`, then `notify` with the error it returned. A panic in `serve` skips
`notify`. -/
def Serve (lib : Library) (t : TunnelConnection) (c : Inbound) (tun : List TunStep) :
    Option (ServeEnd × List (List UInt8) × List Notification) :=
  (t.serve lib c tun).map fun (e, written) =>
    (e, written, match e with
      | .returned err => t.notify err
      | .panicked _ _ => [])

/-! ## The loop ends -/

@[simp] theorem weight_nil : weight [] = 0 := rfl

@[simp] theorem weight_cons (x : Chunk) (c : Inbound) : weight (x :: c) = chunkWeight x + weight c := by
  simp [weight]

theorem readFull_weight_le : ∀ (m : Nat) (c : Inbound), weight (readFull m c).2 ≤ weight c
  | 0, _ => by simp [readFull]
  | _ + 1, [] => le_rfl
  | _ + 1, .error _ :: _ => by simp [readFull]
  | m + 1, .ok b :: c => by
    rw [readFull]
    split
    · have := readFull_weight_le (m + 1 - b.length) c
      simp only [Prod.map_snd, id, weight_cons, chunkWeight]
      omega
    · simp only [weight_cons, chunkWeight, List.length_drop]
      omega

/-- A `read` of at least one byte that succeeds consumes some of the stream. -/
theorem readFull_weight_lt {m : Nat} {c c' : Inbound} {bs : List UInt8}
    (h : readFull (m + 1) c = (.ok bs, c')) : weight c' < weight c := by
  match c, h with
  | [], h => simp [readFull] at h
  | .error _ :: _, h => simp [readFull] at h
  | .ok b :: c, h =>
    rw [readFull] at h
    split at h
    · have hc' : (readFull (m + 1 - b.length) c).2 = c' := congrArg Prod.snd h
      have := readFull_weight_le (m + 1 - b.length) c
      rw [hc'] at this
      simp only [weight_cons, chunkWeight]
      omega
    · obtain ⟨-, rfl⟩ := Prod.mk.inj h
      simp only [weight_cons, chunkWeight, List.length_drop]
      omega

/-- A `ReadPacket` that succeeds consumes some of the stream. -/
theorem readPacket_weight_lt {size n : Nat} {ty : UInt8} {p : List UInt8} {c c' : Inbound}
    (h : readPacket size c = ((n, ty, .ok p), c')) : weight c' < weight c := by
  unfold readPacket at h
  rcases hhdr : readFull 3 c with ⟨_ | lbuf, c₁⟩
  · simp [hhdr] at h
  · have h₁ := readFull_weight_lt hhdr
    simp only [hhdr] at h
    split_ifs at h
    · simp at h
    · have h₂ := readFull_weight_le (ntoHs (lbuf.take 2)) c₁
      rw [show (readFull (ntoHs (lbuf.take 2)) c₁).2 = c' from congrArg Prod.snd h] at h₂
      omega

/-- An iteration that continues has read a packet. -/
theorem serveStep_next {lib : Library} {t : TunnelConnection} {c c' : Inbound} {tun tun' : List TunStep}
    {ws : List (List UInt8)} (h : t.serveStep lib c tun = .next ws c' tun') :
    ∃ n ty p, readPacket BufferSize c = ((n, ty, .ok p), c') := by
  unfold serveStep at h
  rcases hr : readPacket BufferSize c with ⟨⟨n, ty, _ | p⟩, c₁⟩ <;> simp only [hr] at h
  · cases h
  · refine ⟨n, ty, p, ?_⟩
    -- the branches of the source in turn: an empty read, a packet of another type, a packet
    -- that the mux filters out, then the write to tun
    by_cases h0 : n = 0
    · rw [if_pos h0] at h; cases h; rfl
    rw [if_neg h0] at h
    by_cases hty : ty ≠ PACKET_TYPE_DATA
    · rw [if_pos hty] at h; cases h; rfl
    rw [if_neg hty] at h
    by_cases hf : (!t.mux.forward lib p) = true
    · rw [if_pos hf] at h; cases h; rfl
    rw [if_neg hf] at h
    rcases tun with _ | ⟨_ | o, tun⟩ <;> dsimp only at h
    · cases h; rfl
    · cases h
    · split_ifs at h; cases h; rfl

/-- Fuel beyond the weight of the stream does not change the loop. -/
theorem serveLoop_fuel (lib : Library) (t : TunnelConnection) :
    ∀ (f₁ f₂ : Nat) (c : Inbound) (tun : List TunStep) (w : List (List UInt8)),
      weight c < f₁ → weight c < f₂ → t.serveLoop lib f₁ c tun w = t.serveLoop lib f₂ c tun w
  | 0, _, _, _, _, h, _ => absurd h (Nat.not_lt_zero _)
  | _ + 1, 0, _, _, _, _, h => absurd h (Nat.not_lt_zero _)
  | f₁ + 1, f₂ + 1, c, tun, w, h₁, h₂ => by
    rw [serveLoop, serveLoop]
    rcases hs : t.serveStep lib c tun with ⟨ws, c', tun'⟩ | ⟨e, ws⟩
    · obtain ⟨_, _, _, hr⟩ := serveStep_next hs
      have := readPacket_weight_lt hr
      exact serveLoop_fuel lib t f₁ f₂ c' tun' _ (by omega) (by omega)
    · rfl

variable {lib : Library} {t : TunnelConnection}

theorem serveFrom_next {c c' : Inbound} {tun tun' : List TunStep} {ws : List (List UInt8)}
    (h : t.serveStep lib c tun = .next ws c' tun') (w : List (List UInt8)) :
    t.serveFrom lib c tun w = t.serveFrom lib c' tun' (w ++ ws) := by
  obtain ⟨_, _, _, hr⟩ := serveStep_next h
  rw [serveFrom, serveLoop, h]
  exact serveLoop_fuel lib t _ _ c' tun' _ (readPacket_weight_lt hr) (Nat.lt_succ_self _)

theorem serveFrom_stop {c : Inbound} {tun : List TunStep} {e : ServeEnd} {ws : List (List UInt8)}
    (h : t.serveStep lib c tun = .stop e ws) (w : List (List UInt8)) :
    t.serveFrom lib c tun w = some (e, w ++ ws) := by
  rw [serveFrom, serveLoop, h]

/-! ## A stream of frames -/

/-- An iteration on a frame that fits the buffer continues after it, and writes its
payload to tun if it is a non-empty data frame that the filter admits. -/
theorem serveStep_frame (f : UInt8 × List UInt8) (hfit : f.2.length ≤ BufferSize)
    (cs : List (List UInt8)) (rest : List UInt8) (tail : Inbound) (hcs : cs.flatten = encodeFrame f ++ rest) :
    ∃ cs' : List (List UInt8), cs'.flatten = rest ∧
      t.serveStep lib (cs.map .ok ++ tail) [] =
        .next (if f.1 = PACKET_TYPE_DATA ∧ f.2 ≠ [] ∧ t.mux.Admits lib f.2 then [f.2] else [])
          (cs'.map .ok ++ tail) [] := by
  obtain ⟨cs', hr, hcs'⟩ := readPacket_frame BufferSize f hfit (by unfold BufferSize at hfit; omega) cs rest tail hcs
  refine ⟨cs', hcs', ?_⟩
  simp only [serveStep, hr, List.length_eq_zero, ← Mux.forward_iff_admits]
  by_cases h0 : f.2 = [] <;> by_cases hty : f.1 = PACKET_TYPE_DATA <;>
    cases hfw : t.mux.forward lib f.2 <;> simp [h0, hty, hfw]

/-- The loop reads a whole stream of frames that fit the buffer, with tun writes that
succeed, and writes the admitted payloads; what is left of the stream holds the bytes `pre`
that follow the frames. -/
theorem serveFrom_frames (pre : List UInt8) :
    ∀ (frames : List (UInt8 × List UInt8)), (∀ f ∈ frames, f.2.length ≤ BufferSize) →
      ∀ (cs : List (List UInt8)) (tail : Inbound) (w : List (List UInt8)),
        cs.flatten = frames.flatMap encodeFrame ++ pre →
        ∃ cs' : List (List UInt8), cs'.flatten = pre ∧
          t.serveFrom lib (cs.map .ok ++ tail) [] w = t.serveFrom lib (cs'.map .ok ++ tail) []
            (w ++ (frames.filter fun f => f.1 = PACKET_TYPE_DATA ∧ f.2 ≠ [] ∧ t.mux.Admits lib f.2).map (·.2))
  | [], _, cs, _, _, hcs => ⟨cs, by simpa using hcs, by simp⟩
  | f :: frames, hfit, cs, tail, w, hcs => by
    rw [List.flatMap_cons, List.append_assoc] at hcs
    obtain ⟨cs₁, hcs₁, hstep⟩ := serveStep_frame f (hfit f (List.mem_cons_self _ _)) cs _ tail hcs
    obtain ⟨cs', hcs', hloop⟩ := serveFrom_frames pre frames (fun f' h => hfit f' (List.mem_cons_of_mem _ h))
      cs₁ tail (w ++ if f.1 = PACKET_TYPE_DATA ∧ f.2 ≠ [] ∧ t.mux.Admits lib f.2 then [f.2] else []) hcs₁
    refine ⟨cs', hcs', ?_⟩
    rw [serveFrom_next hstep, hloop, List.filter_cons]
    by_cases hk : f.1 = PACKET_TYPE_DATA ∧ f.2 ≠ [] ∧ t.mux.Admits lib f.2
    · rw [if_pos hk, if_pos (decide_eq_true hk)]
      simp
    · rw [if_neg hk, if_neg (fun h => hk (of_decide_eq_true h))]
      simp

/-- A stream with no bytes left ends the loop with `io.EOF`. -/
theorem serveStep_exhausted {cs : List (List UInt8)} (hcs : cs.flatten = []) :
    t.serveStep lib (cs.map .ok) [] = .stop (.returned .eof) [] := by
  have h := @readPacket_empty_chunks BufferSize cs hcs []
  rw [List.append_nil] at h
  rw [serveStep, h]
  rfl

/-- The receiving loop. On a stream of frames that fit the buffer, however it is split into
reads, and with tun writes that succeed, `serve` writes to tun exactly the payloads of the
non-empty data frames that `Admits`, in the order of the stream, and returns `io.EOF` at the
end of the stream. -/
theorem serve_forwards_admitted (lib : Library) (t : TunnelConnection) (frames : List (UInt8 × List UInt8))
    (hfit : ∀ f ∈ frames, f.2.length ≤ BufferSize) (cs : List (List UInt8))
    (hcs : cs.flatten = frames.flatMap encodeFrame) :
    t.serve lib (cs.map .ok) [] = some (.returned .eof,
      (frames.filter fun f => f.1 = PACKET_TYPE_DATA ∧ f.2 ≠ [] ∧ t.mux.Admits lib f.2).map (·.2)) := by
  obtain ⟨cs', hcs', hloop⟩ := @serveFrom_frames lib t [] frames hfit cs [] [] (by rw [hcs, List.append_nil])
  simp only [List.append_nil] at hloop
  rw [serve, hloop, serveFrom_stop (serveStep_exhausted hcs')]
  simp

/-- Four frames split across four reads: a frame of another type, an empty data frame, an
IPv4 packet that `ipv4.ParseHeader` rejects, and a packet of another version. -/
theorem serve_forwards_admitted_mixed :
    let t : TunnelConnection := ⟨⟨⟨[10, 0, 0, 0], [255, 255, 255, 0]⟩, ⟨none⟩, newLinks 80⟩, [1]⟩
    let frames : List (UInt8 × List UInt8) := [(1, [7]), (0, []), (0, [0x45]), (0, [0x60, 1])]
    let cs : List (List UInt8) := [[0, 1], [1, 7, 0, 0, 0, 0, 1], [0, 0x45, 0, 2, 0], [0x60, 1]]
    (∀ f ∈ frames, f.2.length ≤ BufferSize) ∧ cs.flatten = frames.flatMap encodeFrame ∧
      t.serve Library.ipv4 (cs.map .ok) [] = some (.returned .eof,
        (frames.filter fun f => f.1 = PACKET_TYPE_DATA ∧ f.2 ≠ [] ∧ t.mux.Admits Library.ipv4 f.2).map (·.2)) :=
  ⟨by decide, rfl, serve_forwards_admitted _ _ _ (by decide) _ rfl⟩

example : (⟨⟨⟨[10, 0, 0, 0], [255, 255, 255, 0]⟩, ⟨none⟩, newLinks 80⟩, [1]⟩ : TunnelConnection).serve
    Library.ipv4 [.ok [0, 1], .ok [1, 7, 0, 0, 0, 0, 1], .ok [0, 0x45, 0, 2, 0], .ok [0x60, 1]] [] =
      some (.returned .eof, [[0x60, 1]]) := by
  decide

/-- How `Serve` ends on a failed `ReadPacket`. After any frames that fit the buffer, and with
tun writes that succeed, let `ReadPacket` fail with the length `n` and the error `e` on the
bytes `pre` that follow them and the rest of the stream; how the frames and `pre` are split
into reads does not matter. If `n` is 0 (the header read failed, or the frame is larger than
the buffer), `Serve` returns `io.EOF` and notifies no one. Otherwise (the payload read
failed) it returns `e` and, unless `e` is `io.EOF`, notifies the mux and then every handler
of `e`. -/
theorem Serve_read_failure (lib : Library) (t : TunnelConnection) (frames : List (UInt8 × List UInt8))
    (hfit : ∀ f ∈ frames, f.2.length ≤ BufferSize) (cs : List (List UInt8)) (pre : List UInt8)
    (hcs : cs.flatten = frames.flatMap encodeFrame ++ pre) (rest : Inbound) (n : Nat) (ty : UInt8)
    (e : IOError) (c' : Inbound) (hread : readPacket BufferSize (.ok pre :: rest) = ((n, ty, .error e), c')) :
    t.Serve lib (cs.map .ok ++ rest) [] = some (.returned (if n = 0 then .eof else e),
      (frames.filter fun f => f.1 = PACKET_TYPE_DATA ∧ f.2 ≠ [] ∧ t.mux.Admits lib f.2).map (·.2),
      if n = 0 ∨ e = .eof then [] else .mux e :: t.handlers.map (Notification.handler · e)) := by
  obtain ⟨cs', hcs', hloop⟩ := @serveFrom_frames lib t pre frames hfit cs rest [] hcs
  -- the read after the frames sees the bytes of pre, however they are split
  have hr : (readPacket BufferSize (cs'.map .ok ++ rest)).1 = (n, ty, .error e) := by
    rw [readPacket_rechunk BufferSize (hcs'.trans (List.flatten_singleton pre).symm) rest]
    exact congrArg Prod.fst hread
  have hend : t.serveStep lib (cs'.map .ok ++ rest) [] = .stop (.returned (if n = 0 then .eof else e)) [] := by
    rcases hrp : readPacket BufferSize (cs'.map .ok ++ rest) with ⟨r, c₂⟩
    rw [hrp] at hr
    subst hr
    rw [serveStep, hrp]
  rw [Serve, serve, hloop, serveFrom_stop hend]
  by_cases hn : n = 0 <;> simp [hn, notify]

/-- A data frame, then a frame whose payload read fails after its header, with the header
split between the read of the data frame and the next. -/
theorem Serve_read_failure_reset :
    let t : TunnelConnection := ⟨⟨⟨[10, 0, 0, 0], [255, 255, 255, 0]⟩, ⟨none⟩, newLinks 80⟩, [1]⟩
    let frames : List (UInt8 × List UInt8) := [(0, [0x60])]
    let cs : List (List UInt8) := [[0, 1, 0, 0x60, 0, 5]]
    let rest : Inbound := [.ok [0], .error (.failed "reset")]
    (∀ f ∈ frames, f.2.length ≤ BufferSize) ∧ cs.flatten = frames.flatMap encodeFrame ++ [0, 5] ∧
      readPacket BufferSize (.ok [0, 5] :: rest) = ((5, 0, .error (.failed "reset")), []) ∧
      t.Serve Library.ipv4 (cs.map .ok ++ rest) [] = some (.returned (if 5 = 0 then .eof else .failed "reset"),
        (frames.filter fun f => f.1 = PACKET_TYPE_DATA ∧ f.2 ≠ [] ∧ t.mux.Admits Library.ipv4 f.2).map (·.2),
        if 5 = 0 ∨ IOError.failed "reset" = .eof then [] else
          .mux (.failed "reset") :: t.handlers.map (Notification.handler · (.failed "reset"))) :=
  ⟨by decide, rfl, by decide, Serve_read_failure Library.ipv4 _ [(0, [0x60])] (by decide) [[0, 1, 0, 0x60, 0, 5]]
    [0, 5] rfl [.ok [0], .error (.failed "reset")] 5 0 (.failed "reset") [] (by decide)⟩

/-- Before the payload, `Serve` hides a failed `ReadPacket`. A header that declares 17001
bytes makes `ReadPacket` fail with the buffer-too-small error, and a read error inside a
header makes it fail with that error; in both cases `Serve` returns `io.EOF` and notifies
neither the mux nor the handler. -/
theorem serve_hides_oversize :
    let t : TunnelConnection := ⟨⟨⟨[10, 0, 0, 0], [255, 255, 255, 0]⟩, ⟨none⟩, newLinks 80⟩, [1]⟩
    readPacket BufferSize [.ok [0x42, 0x69, 0]] = ((0, 0, .error (.bufferTooSmall 17000 17001)), []) ∧
      t.Serve Library.ipv4 [.ok [0x42, 0x69, 0]] [] = some (.returned .eof, [], []) ∧
      readPacket BufferSize [.ok [0], .error (.failed "reset")] = ((0, 0, .error (.failed "reset")), []) ∧
      t.Serve Library.ipv4 [.ok [0], .error (.failed "reset")] [] = some (.returned .eof, [], []) :=
  ⟨by decide, by decide, by decide, by decide⟩

end TunnelConnection

end Kubelink
