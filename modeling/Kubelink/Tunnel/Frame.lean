import Mathlib

/-!
# Tunnel frames

A tunnel carries frames `len[u16, big-endian] | type[u8] | payload[len]`. `WritePacket`
writes the 3-byte header and then the payload, each with the loop `write`, which calls
`Write` until all bytes are out; `ReadPacket` reads the header and then the payload with the
loop `read`, which calls `Read` until the buffer is full.

The connection is modelled by what its calls return. On the reading side the stream comes
as a list of chunks, each the result of one `Read` (bytes, or an error); a `Read` with a
smaller buffer takes the front of the chunk and leaves the rest, and a `Read` past the last
chunk returns `io.EOF`. On the writing side each `Write` accepts at most the bytes its step
allows, or fails; past the last step a `Write` accepts everything.

Results:
* `writePacket_eq`: a frame of at most 65535 bytes goes out as `encodeFrame`, however the
  writes are split.
* `readPacket_frame`, `readPacket_oversize`: `ReadPacket` reads back a frame that fits its
  buffer, however the reads are split, and refuses one that does not.
* `readPacket_rechunk`: what `ReadPacket` returns depends only on the bytes of the stream up
  to a failing `Read`, not on how they are split into reads.
* `frames_round_trip`: successive `WritePacket` and `ReadPacket` calls carry every frame up
  to the first that does not fit the reader's buffer, on which the reader fails.
-/

namespace Kubelink

/-- The errors of a tunnel connection. -/
inductive IOError
  /-- `io.EOF` -/
  | eof
  /-- any other error of the connection or of the tun device -/
  | failed (text : String)
  /-- `buffer too small (%d): packet size is %d` -/
  | bufferTooSmall (size length : Nat)
  /-- `packet too large (%d)` -/
  | packetTooLarge (length : Nat)
deriving DecidableEq, Repr

/-- Modelled from the spec: `tcp.HtoNs(val)`, whose file is not under src/, writes the
2-byte big-endian length, as `HtoNs` of `tunnel/net.go` does with `binary.BigEndian.PutUint16`. -/
def htoNs (val : Nat) : List UInt8 := [UInt8.ofNat (val / 256), UInt8.ofNat val]

/-- Modelled from the spec: `tcp.NtoHs(buf)`, whose file is not under src/, reads the 2-byte
big-endian length, as `NtoHs` of `tunnel/net.go` does with `binary.BigEndian.Uint16`. -/
def ntoHs (buf : List UInt8) : Nat := (buf.getD 0 0).toNat * 256 + (buf.getD 1 0).toNat

/-- What one `Read` of the connection returns: some bytes, or an error. -/
abbrev Chunk := Except IOError (List UInt8)

/-- The reading side of a connection: the chunks its `Read` calls return, in order. -/
abbrev Inbound := List Chunk

/-- `read(r, data)` for a buffer of `m` bytes: `Read` until the buffer is full. A chunk that
fits goes in front of what the rest of the loop reads (or its error). -/
def readFull : Nat → Inbound → Except IOError (List UInt8) × Inbound
  | 0, c => (.ok [], c)
  | _ + 1, [] => (.error .eof, [])
  | _ + 1, .error e :: c => (.error e, c)
  | m + 1, .ok b :: c =>
    if b.length ≤ m + 1 then (readFull (m + 1 - b.length) c).map (Except.map (b ++ ·)) id
    else (.ok (b.take (m + 1)), .ok (b.drop (m + 1)) :: c)

/-- `ReadPacket(data)` for a buffer of `size` bytes: the length, the type and the payload
read into `data[0:length]`, or the error, with Go's `(0, 0, err)` before the payload. -/
def readPacket (size : Nat) (c : Inbound) : (Nat × UInt8 × Except IOError (List UInt8)) × Inbound :=
  match readFull 3 c with
  | (.error e, c) => ((0, 0, .error e), c)
  | (.ok lbuf, c) =>
    let length := ntoHs (lbuf.take 2)
    if length > size then ((0, 0, .error (.bufferTooSmall size length)), c)
    else
      let (r, c) := readFull length c
      ((length, lbuf.getD 2 0, r), c)

/-- What one `Write` of the connection does: accept at most `k` bytes, or fail. -/
inductive WriteStep
  | accept (k : Nat)
  | fail (e : IOError)
deriving DecidableEq, Repr

/-- `write(w, data)`: `Write` until all of `data` is out. The result, the bytes that went
on the stream, and the steps left; past the last step a `Write` accepts everything. -/
def writeFull : List UInt8 → List WriteStep → Except IOError Unit × List UInt8 × List WriteStep
  | [], steps => (.ok (), [], steps)
  | d, [] => (.ok (), d, [])
  | _, .fail e :: steps => (.error e, [], steps)
  | d, .accept k :: steps =>
    let (r, sent, steps) := writeFull (d.drop k) steps
    (r, d.take k ++ sent, steps)

/-- `WritePacket(ty, data)`: the header `HtoNs(uint16(len(data))) ++ [ty]`, then the data. -/
def writePacket (ty : UInt8) (data : List UInt8) (steps : List WriteStep) :
    Except IOError Unit × List UInt8 × List WriteStep :=
  if data.length > 65535 then (.error (.packetTooLarge data.length), [], steps)
  else
    match writeFull (htoNs (data.length % 65536) ++ [ty]) steps with
    | (.error e, sent, steps) => (.error e, sent, steps)
    | (.ok (), sent, steps) =>
      let (r, sent', steps) := writeFull data steps
      (r, sent ++ sent', steps)

/-- Successive `WritePacket` calls: their results and all bytes that went on the stream. -/
def writePackets : List (UInt8 × List UInt8) → List WriteStep →
    List (Except IOError Unit) × List UInt8 × List WriteStep
  | [], steps => ([], [], steps)
  | (ty, d) :: frames, steps =>
    let (r, sent, steps) := writePacket ty d steps
    let (rs, sent', steps) := writePackets frames steps
    (r :: rs, sent ++ sent', steps)

/-- `k` successive `ReadPacket` calls with a buffer of `size` bytes. -/
def readPackets (size : Nat) : Nat → Inbound → List (Nat × UInt8 × Except IOError (List UInt8)) × Inbound
  | 0, c => ([], c)
  | k + 1, c =>
    let (r, c) := readPacket size c
    let (rs, c) := readPackets size k c
    (r :: rs, c)

/-! ## The frame on the stream -/

/-- Spec side: a frame on the stream, its payload length in two big-endian bytes, its type,
its payload. -/
def encodeFrame (f : UInt8 × List UInt8) : List UInt8 :=
  [UInt8.ofNat (f.2.length / 256), UInt8.ofNat (f.2.length % 256), f.1] ++ f.2

/-- Spec side: what successive `ReadPacket` calls with a buffer of `size` bytes return on a
stream of frames: each frame up to the first that does not fit, then the buffer-too-small
error for that one. -/
def expectedReads (size : Nat) : List (UInt8 × List UInt8) → List (Nat × UInt8 × Except IOError (List UInt8))
  | [] => []
  | (ty, d) :: frames =>
    if d.length ≤ size then (d.length, ty, .ok d) :: expectedReads size frames
    else [(0, 0, .error (.bufferTooSmall size d.length))]

theorem ntoHs_length (n : Nat) (h : n ≤ 65535) :
    ntoHs [UInt8.ofNat (n / 256), UInt8.ofNat (n % 256)] = n := by
  have hhi : (UInt8.ofNat (n / 256)).toNat = n / 256 := by
    simp only [UInt8.toNat, UInt8.ofNat, BitVec.toNat_ofNat]
    omega
  have hlo : (UInt8.ofNat (n % 256)).toNat = n % 256 := by
    simp only [UInt8.toNat, UInt8.ofNat, BitVec.toNat_ofNat]
    omega
  simp only [ntoHs, List.getD_cons_zero, List.getD_cons_succ, hhi, hlo]
  omega

/-! ## Writing -/

/-- A `write` whose steps never fail puts all of `data` on the stream. -/
theorem writeFull_ok (data : List UInt8) (steps : List WriteStep)
    (hsteps : ∀ st ∈ steps, ∃ k, st = .accept k) :
    ∃ steps', writeFull data steps = (.ok (), data, steps') ∧ ∀ st ∈ steps', ∃ k, st = .accept k := by
  induction steps generalizing data with
  | nil => cases data <;> exact ⟨[], rfl, by simp⟩
  | cons st steps ih =>
    obtain ⟨k, rfl⟩ := hsteps st (List.mem_cons_self _ _)
    have hrest := fun st' h => hsteps st' (List.mem_cons_of_mem _ h)
    cases data with
    | nil => exact ⟨_, rfl, hsteps⟩
    | cons b bs =>
      obtain ⟨steps', h, hs'⟩ := ih ((b :: bs).drop k) hrest
      exact ⟨steps', by simp [writeFull, h], hs'⟩

theorem htoNs_eq (n : Nat) (h : n ≤ 65535) :
    htoNs (n % 65536) = [UInt8.ofNat (n / 256), UInt8.ofNat (n % 256)] := by
  have hn : n % 65536 = n := Nat.mod_eq_of_lt (by omega)
  have hlo : UInt8.ofNat n = UInt8.ofNat (n % 256) := by
    apply UInt8.toNat.inj
    simp only [UInt8.toNat, UInt8.ofNat, BitVec.toNat_ofNat]
    omega
  rw [hn, htoNs, hlo]

/-- `WritePacket` puts a frame of at most 65535 bytes on the stream as `encodeFrame`,
whatever its writes accept, as long as none fails. -/
theorem writePacket_eq (ty : UInt8) (data : List UInt8) (h : data.length ≤ 65535)
    (steps : List WriteStep) (hsteps : ∀ st ∈ steps, ∃ k, st = .accept k) :
    ∃ steps', writePacket ty data steps = (.ok (), encodeFrame (ty, data), steps') ∧
      ∀ st ∈ steps', ∃ k, st = .accept k := by
  obtain ⟨s₁, h₁, hs₁⟩ := writeFull_ok (htoNs (data.length % 65536) ++ [ty]) steps hsteps
  obtain ⟨s₂, h₂, hs₂⟩ := writeFull_ok data s₁ hs₁
  refine ⟨s₂, ?_, hs₂⟩
  simp only [writePacket, if_neg (Nat.not_lt.mpr h), h₁, h₂]
  simp [htoNs_eq _ h, encodeFrame]

/-- Successive `WritePacket` calls put the frames on the stream one after the other. -/
theorem writePackets_eq (frames : List (UInt8 × List UInt8)) (hlen : ∀ f ∈ frames, f.2.length ≤ 65535)
    (steps : List WriteStep) (hsteps : ∀ st ∈ steps, ∃ k, st = .accept k) :
    (writePackets frames steps).1 = frames.map (fun _ => .ok ()) ∧
      (writePackets frames steps).2.1 = frames.flatMap encodeFrame := by
  induction frames generalizing steps with
  | nil => exact ⟨rfl, rfl⟩
  | cons f frames ih =>
    obtain ⟨steps', hw, hs'⟩ := writePacket_eq f.1 f.2 (hlen f (List.mem_cons_self _ _)) steps hsteps
    obtain ⟨ih₁, ih₂⟩ := ih (fun f' h => hlen f' (List.mem_cons_of_mem _ h)) steps' hs'
    simp [writePackets, hw, ih₁, ih₂]

/-! ## Reading -/

/-- Splitting `c ++ x = bs ++ rest` where `c` is the shorter front. -/
theorem append_split {c x bs rest : List UInt8} (h : c ++ x = bs ++ rest) (hc : c.length ≤ bs.length) :
    bs = c ++ bs.drop c.length ∧ x = bs.drop c.length ++ rest := by
  have htake := congrArg (List.take c.length) h
  have hdrop := congrArg (List.drop c.length) h
  rw [List.take_left' rfl, List.take_append_of_le_length hc] at htake
  rw [List.drop_left' rfl, List.drop_append_of_le_length hc] at hdrop
  refine ⟨?_, hdrop⟩
  conv_lhs => rw [← List.take_append_drop c.length bs]
  rw [← htake]

/-- `read` fills a buffer of `m` bytes with the next `m` bytes of the stream, however the
stream is split into chunks, and leaves the rest split into chunks, in front of any `tail`. -/
theorem readFull_ok (tail : Inbound) :
    ∀ (cs : List (List UInt8)) (bs rest : List UInt8), cs.flatten = bs ++ rest →
      ∃ cs' : List (List UInt8), readFull bs.length (cs.map .ok ++ tail) = (.ok bs, cs'.map .ok ++ tail) ∧
        cs'.flatten = rest
  | cs, [], rest, h => ⟨cs, by simp [readFull], by simpa using h⟩
  | [], _ :: _, _, h => by simp at h
  | c :: cs, b :: bs, rest, h => by
    rw [List.flatten_cons] at h
    rw [List.length_cons, List.map_cons, List.cons_append, readFull]
    by_cases hc : c.length ≤ bs.length + 1
    · obtain ⟨hbs, hcs⟩ := append_split h hc
      obtain ⟨cs', hr, hcs'⟩ := readFull_ok tail cs _ rest hcs
      refine ⟨cs', ?_, hcs'⟩
      have hlen : bs.length + 1 - c.length = ((b :: bs).drop c.length).length := by simp
      rw [if_pos hc, hlen, hr, hbs]
      simp [Except.map]
    · obtain ⟨hc', hrest⟩ := append_split h.symm (by simp only [List.length_cons]; omega)
      refine ⟨c.drop (b :: bs).length :: cs, ?_, by simp [hrest]⟩
      have htake : c.take (bs.length + 1) = b :: bs := by
        rw [hc']
        simp
      rw [if_neg hc, htake]
      rfl

/-- Chunks with no bytes in them, such as `Read` calls that return nothing, change nothing
for a `read` that wants bytes. -/
theorem readFull_empty_chunks {m : Nat} (hm : 0 < m) (tail : Inbound) :
    ∀ cs : List (List UInt8), cs.flatten = [] → readFull m (cs.map .ok ++ tail) = readFull m tail
  | [], _ => rfl
  | c :: cs, h => by
    obtain ⟨k, rfl⟩ : ∃ k, m = k + 1 := ⟨m - 1, by omega⟩
    obtain ⟨rfl, hcs⟩ := List.append_eq_nil.mp (List.flatten_cons ▸ h)
    rw [List.map_cons, List.cons_append, readFull, List.length_nil, if_pos (Nat.zero_le _), Nat.sub_zero,
      readFull_empty_chunks hm tail cs hcs]
    rcases readFull (k + 1) tail with ⟨_ | _, _⟩ <;> rfl

theorem readPacket_empty_chunks {size : Nat} {cs : List (List UInt8)} (h : cs.flatten = []) (tail : Inbound) :
    readPacket size (cs.map .ok ++ tail) = readPacket size tail := by
  rw [readPacket, readFull_empty_chunks (by decide) tail cs h, readPacket]

/-- A `read` that wants more bytes than the leading chunks hold takes all of them, then reads
the rest from what follows. -/
theorem readFull_short (tail : Inbound) : ∀ (cs : List (List UInt8)) (m : Nat), cs.flatten.length < m →
    readFull m (cs.map .ok ++ tail) = (readFull (m - cs.flatten.length) tail).map (Except.map (cs.flatten ++ ·)) id
  | [], m, _ => by
    simp only [List.map_nil, List.nil_append, List.flatten_nil, List.length_nil, Nat.sub_zero]
    rcases readFull m tail with ⟨_ | _, _⟩ <;> rfl
  | c :: cs, m, h => by
    rw [List.flatten_cons, List.length_append] at h
    obtain ⟨k, rfl⟩ : ∃ k, m = k + 1 := ⟨m - 1, by omega⟩
    rw [List.map_cons, List.cons_append, readFull, if_pos (by omega), readFull_short tail cs _ (by omega),
      List.flatten_cons, List.length_append, Nat.sub_sub]
    rcases readFull (k + 1 - (c.length + cs.flatten.length)) tail with ⟨_ | _, _⟩ <;> simp [Except.map]

/-- What a `read` returns depends on the bytes of the leading chunks and on what follows them,
not on how those bytes are split into chunks; what it leaves is again such a stream. -/
theorem readFull_rechunk (m : Nat) {cs₁ cs₂ : List (List UInt8)} (h : cs₁.flatten = cs₂.flatten) (tail : Inbound) :
    (readFull m (cs₁.map .ok ++ tail)).1 = (readFull m (cs₂.map .ok ++ tail)).1 ∧
      ∃ (cs₁' cs₂' : List (List UInt8)) (tail' : Inbound), cs₁'.flatten = cs₂'.flatten ∧
        (readFull m (cs₁.map .ok ++ tail)).2 = cs₁'.map .ok ++ tail' ∧
        (readFull m (cs₂.map .ok ++ tail)).2 = cs₂'.map .ok ++ tail' := by
  by_cases hm : m ≤ cs₁.flatten.length
  · -- the read stays within the leading chunks
    have hlen : (cs₁.flatten.take m).length = m := List.length_take_of_le hm
    obtain ⟨c₁, h₁, hf₁⟩ := readFull_ok tail cs₁ _ _ (List.take_append_drop m cs₁.flatten).symm
    have hsplit : cs₂.flatten = cs₁.flatten.take m ++ cs₁.flatten.drop m := by rw [← h, List.take_append_drop]
    obtain ⟨c₂, h₂, hf₂⟩ := readFull_ok tail cs₂ _ _ hsplit
    rw [hlen] at h₁ h₂
    exact ⟨by rw [h₁, h₂], c₁, c₂, tail, hf₁.trans hf₂.symm, by rw [h₁], by rw [h₂]⟩
  · -- the read takes all of them and goes on into the tail
    have heq : readFull m (cs₁.map .ok ++ tail) = readFull m (cs₂.map .ok ++ tail) := by
      rw [readFull_short tail cs₁ m (by omega), readFull_short tail cs₂ m (by rw [← h]; omega), h]
    exact ⟨by rw [heq], [], [], _, rfl, rfl, by rw [heq]; rfl⟩

/-- What `ReadPacket` returns depends on the bytes of the leading chunks and on what follows
them, not on how those bytes are split into chunks. -/
theorem readPacket_rechunk (size : Nat) {cs₁ cs₂ : List (List UInt8)} (h : cs₁.flatten = cs₂.flatten)
    (tail : Inbound) : (readPacket size (cs₁.map .ok ++ tail)).1 = (readPacket size (cs₂.map .ok ++ tail)).1 := by
  obtain ⟨hr, c₁, c₂, t, hf, h₁, h₂⟩ := readFull_rechunk 3 h tail
  rcases hr₁ : readFull 3 (cs₁.map .ok ++ tail) with ⟨_ | lbuf, c₁'⟩ <;>
    rcases hr₂ : readFull 3 (cs₂.map .ok ++ tail) with ⟨_ | lbuf', c₂'⟩ <;>
    rw [hr₁, hr₂] at hr <;> cases hr
  · simp only [readPacket, hr₁, hr₂]
  · -- the header is read alike; so is the payload, from what is left
    rw [hr₁] at h₁
    rw [hr₂] at h₂
    subst h₁ h₂
    simp only [readPacket, hr₁, hr₂]
    split_ifs
    · rfl
    · simp only [(readFull_rechunk (ntoHs (lbuf.take 2)) hf t).1]

/-- `ReadPacket` reads back a frame that fits its buffer, however the stream is split. -/
theorem readPacket_frame (size : Nat) (f : UInt8 × List UInt8) (hsize : f.2.length ≤ size)
    (h : f.2.length ≤ 65535) (cs : List (List UInt8)) (rest : List UInt8) (tail : Inbound)
    (hcs : cs.flatten = encodeFrame f ++ rest) :
    ∃ cs' : List (List UInt8), readPacket size (cs.map .ok ++ tail) =
      ((f.2.length, f.1, .ok f.2), cs'.map .ok ++ tail) ∧ cs'.flatten = rest := by
  have hhdr : cs.flatten = [UInt8.ofNat (f.2.length / 256), UInt8.ofNat (f.2.length % 256), f.1] ++
      (f.2 ++ rest) := by simpa [encodeFrame] using hcs
  obtain ⟨cs₁, h₁, hcs₁⟩ := readFull_ok tail cs _ _ hhdr
  obtain ⟨cs₂, h₂, hcs₂⟩ := readFull_ok tail cs₁ f.2 rest hcs₁
  refine ⟨cs₂, ?_, hcs₂⟩
  have h₁ : readFull 3 (cs.map .ok ++ tail) = _ := h₁
  simp [readPacket, h₁, ntoHs_length _ h, Nat.not_lt.mpr hsize, h₂]

/-- `ReadPacket` refuses a frame that does not fit its buffer, after reading its header. -/
theorem readPacket_oversize (size : Nat) (f : UInt8 × List UInt8) (hsize : size < f.2.length)
    (h : f.2.length ≤ 65535) (cs : List (List UInt8)) (rest : List UInt8) (tail : Inbound)
    (hcs : cs.flatten = encodeFrame f ++ rest) :
    (readPacket size (cs.map .ok ++ tail)).1 = (0, 0, .error (.bufferTooSmall size f.2.length)) := by
  have hhdr : cs.flatten = [UInt8.ofNat (f.2.length / 256), UInt8.ofNat (f.2.length % 256), f.1] ++
      (f.2 ++ rest) := by simpa [encodeFrame] using hcs
  obtain ⟨cs₁, h₁, -⟩ := readFull_ok tail cs _ _ hhdr
  have h₁ : readFull 3 (cs.map .ok ++ tail) = _ := h₁
  simp [readPacket, h₁, ntoHs_length _ h, hsize]

/-- Successive `ReadPacket` calls read the frames of the stream up to the first that does
not fit, and fail on that one. -/
theorem readPackets_frames (size : Nat) (frames : List (UInt8 × List UInt8))
    (hlen : ∀ f ∈ frames, f.2.length ≤ 65535) (cs : List (List UInt8))
    (hcs : cs.flatten = frames.flatMap encodeFrame) :
    (readPackets size (expectedReads size frames).length (cs.map .ok)).1 = expectedReads size frames := by
  induction frames generalizing cs with
  | nil => rfl
  | cons f frames ih =>
    have hf := hlen f (List.mem_cons_self _ _)
    rw [List.flatMap_cons] at hcs
    by_cases hfit : f.2.length ≤ size
    · obtain ⟨cs', hr, hcs'⟩ := readPacket_frame size f hfit hf cs _ [] hcs
      have ih' := ih (fun f' h => hlen f' (List.mem_cons_of_mem _ h)) cs' hcs'
      rw [List.append_nil, List.append_nil] at hr
      simp only [expectedReads, hfit, if_true, List.length_cons, readPackets, hr, ih']
    · have hr := readPacket_oversize size f (Nat.lt_of_not_le hfit) hf cs _ [] hcs
      rw [List.append_nil] at hr
      simp only [expectedReads, hfit, if_false, List.length_singleton, readPackets, hr]

/-- The frame codec. Successive `WritePacket` calls with frames of at most 65535 bytes put
`len | type | payload` of every frame on the stream, in order, however their writes are split
(as long as none fails); and successive `ReadPacket` calls with a buffer of `size` bytes on
that stream, however its reads are split, return each frame's length, type and payload up to
the first frame longer than `size`, on which `ReadPacket` fails with the buffer-too-small
error. -/
theorem frames_round_trip (frames : List (UInt8 × List UInt8)) (hlen : ∀ f ∈ frames, f.2.length ≤ 65535)
    (steps : List WriteStep) (hsteps : ∀ st ∈ steps, ∃ k, st = .accept k) (size : Nat) :
    (writePackets frames steps).1 = frames.map (fun _ => .ok ()) ∧
      (writePackets frames steps).2.1 = frames.flatMap encodeFrame ∧
      ∀ cs : List (List UInt8), cs.flatten = (writePackets frames steps).2.1 →
        (readPackets size (expectedReads size frames).length (cs.map .ok)).1 = expectedReads size frames := by
  obtain ⟨hr, hw⟩ := writePackets_eq frames hlen steps hsteps
  exact ⟨hr, hw, fun cs hcs => readPackets_frames size frames hlen cs (hcs.trans hw)⟩

/-- Two frames, written two bytes and then one byte at a time, read with a buffer of two
bytes: the first frame does not fit. -/
theorem frames_round_trip_split :
    let frames : List (UInt8 × List UInt8) := [(0, [69, 0, 0]), (1, [7])]
    let steps := [WriteStep.accept 2, .accept 1]
    (∀ f ∈ frames, f.2.length ≤ 65535) ∧ (∀ st ∈ steps, ∃ k, st = .accept k) ∧
      (writePackets frames steps).1 = frames.map (fun _ => .ok ()) ∧
      (writePackets frames steps).2.1 = frames.flatMap encodeFrame ∧
      ∀ cs : List (List UInt8), cs.flatten = (writePackets frames steps).2.1 →
        (readPackets 2 (expectedReads 2 frames).length (cs.map .ok)).1 = expectedReads 2 frames :=
  ⟨by decide, by simp, frames_round_trip _ (by decide) _ (by simp) 2⟩

end Kubelink
