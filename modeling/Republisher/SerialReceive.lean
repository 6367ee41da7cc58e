import Republisher.TokenUse

/-!
# Reading frames from a serial line

What is read from the line is put into a buffer, and frames are taken from its front. Bytes in front
of a frame are passed over. When the bytes behind a preamble are no frame, the first of them is
dropped, also when the frame has not been read completely: so a frame that comes in two reads is
only received when the first one ends behind its preamble.
-/

namespace BacnetTransport

/-- The most bytes that are kept of a frame. -/
def mstpMaxFrameBuf : ℕ := 1507

/-- What has been read and not been used, and when something was last read. -/
structure SerialBuffer where
  frameBuf : Bytes
  lastByteTime : ℕ
  deriving DecidableEq, Repr

/-- Takes the frames from the front of a buffer, and what is left of it then. -/
def takeFrames : ℕ → Bytes → List MstpFrame × Bytes
  | 0, buf => ([], buf)
  | fuel + 1, buf =>
    match findPreamble buf with
    | none => ([], [])
    | some preamblePos =>
        let buf := buf.drop preamblePos
        match decodeFrame buf with
        | .ok (frame, consumed) =>
            let (frames, rest) := takeFrames fuel (buf.drop consumed)
            (frame :: frames, rest)
        | .error _ => ([], if buf.length > 2 then buf.drop 1 else buf)

/-- Adds what is read to the buffer and takes the frames from it. -/
def SerialBuffer.read (tFrameAbortUs now : ℕ) (chunk : Bytes) (s : SerialBuffer) :
    SerialBuffer × List MstpFrame :=
  if chunk = [] then (s, [])
  else
    let buf := if s.frameBuf ≠ [] ∧ now - s.lastByteTime > tFrameAbortUs then [] else s.frameBuf
    if buf.length + chunk.length > mstpMaxFrameBuf then (⟨[], now⟩, [])
    else
      let (frames, rest) := takeFrames ((buf ++ chunk).length + 1) (buf ++ chunk)
      (⟨rest, now⟩, frames)

/-- The frames that are received in several reads. -/
def SerialBuffer.reads (tFrameAbortUs : ℕ) : List (ℕ × Bytes) → SerialBuffer → List MstpFrame
  | [], _ => []
  | (now, chunk) :: later, s =>
      (s.read tFrameAbortUs now chunk).2 ++
        reads tFrameAbortUs later (s.read tFrameAbortUs now chunk).1

/-! ## Frames in one read -/

/-- What a frame is written as. -/
def frameBytes (f : MstpFrame) : Bytes :=
  preamble ++ (header f ++ [crc8 (header f)]) ++ dataWithCheck f.data

/-- A frame that a station can write and another can read. -/
structure MstpFrame.Written (f : MstpFrame) : Prop extends f.WellFormed where
  short : f.data.length ≤ maxMpduData

/-- What a station writes can be read. -/
theorem MasterNode.Own.written {n : MasterNode} {f : MstpFrame} (h : n.Own f)
    (hstation : n.config.thisStation ≤ maxMaster) : f.Written :=
  ⟨⟨h.frameType, by rw [h.source]; exact hstation⟩, h.length⟩

/-- What is read begins with what the frame is written as. -/
theorem decodeFrame_eq_ok {data : Bytes} {f : MstpFrame} {consumed : ℕ} :
    decodeFrame data = .ok (f, consumed) ↔ f.Written ∧
      ∃ rest, data = frameBytes f ++ rest ∧ consumed = (frameBytes f).length := by
  constructor
  · intro h
    obtain ⟨hformed, frame, rest, hencode, hdata, hconsumed⟩ := written_of_decodeFrame h
    obtain ⟨hshort, rfl⟩ := encodeFrame_eq_ok.mp hencode
    exact ⟨⟨hformed, hshort⟩, rest, hdata, hconsumed⟩
  · rintro ⟨hwritten, rest, rfl, rfl⟩
    exact decodeFrame_written hwritten.toWellFormed
      (encodeFrame_eq_ok.mpr ⟨hwritten.short, rfl⟩) rest

/-- A frame begins with a preamble. -/
theorem frameBytes_eq (f : MstpFrame) : ∃ rest, frameBytes f = 0x55 :: 0xFF :: rest ∧
    rest = header f ++ [crc8 (header f)] ++ dataWithCheck f.data :=
  ⟨_, rfl, rfl⟩

/-- A frame has as many bytes as the buffer keeps. -/
theorem length_frameBytes {f : MstpFrame} (h : f.data.length ≤ maxMpduData) :
    8 ≤ (frameBytes f).length ∧ (frameBytes f).length ≤ mstpMaxFrameBuf := by
  have hdata : (dataWithCheck f.data).length ≤ maxMpduData + 2 := by
    unfold dataWithCheck
    split_ifs
    · exact Nat.zero_le _
    · simp only [List.length_append, List.length_cons, List.length_nil]
      omega
  have hheader : (header f).length = 5 := rfl
  have hpreamble : preamble.length = 2 := rfl
  have hlimit : mstpMaxFrameBuf = maxMpduData + 10 := rfl
  simp only [frameBytes, List.length_append, List.length_singleton, hheader, hpreamble]
  omega

/-- A frame is found behind bytes without a preamble. -/
theorem findPreamble_append {noise : Bytes} (h : findPreamble noise = none) (rest : Bytes) :
    findPreamble (noise ++ 0x55 :: 0xFF :: rest) = some noise.length := by
  induction noise with
  | nil => rfl
  | cons a noise ih =>
    cases noise with
    | nil =>
      show findPreamble (a :: 0x55 :: 0xFF :: rest) = some 1
      simp [findPreamble]
    | cons b noise =>
      rw [findPreamble] at h
      split_ifs at h with hpreamble
      have hnone : findPreamble (b :: noise) = none := Option.map_eq_none_iff.mp h
      show findPreamble (a :: b :: (noise ++ 0x55 :: 0xFF :: rest)) = _
      rw [findPreamble, if_neg hpreamble,
        show b :: (noise ++ 0x55 :: 0xFF :: rest) = b :: noise ++ 0x55 :: 0xFF :: rest from rfl,
        ih hnone]
      rfl

/-- The frame in front is taken. -/
theorem takeFrames_frameBytes {f : MstpFrame} (h : f.Written) {noise : Bytes}
    (hnoise : findPreamble noise = none) (fuel : ℕ) (rest : Bytes) :
    takeFrames (fuel + 1) (noise ++ (frameBytes f ++ rest)) =
      (f :: (takeFrames fuel rest).1, (takeFrames fuel rest).2) := by
  obtain ⟨tail, hbytes, -⟩ := frameBytes_eq f
  have hfind : findPreamble (noise ++ (frameBytes f ++ rest)) = some noise.length := by
    rw [hbytes]
    exact findPreamble_append hnoise _
  rw [takeFrames, hfind]
  dsimp only
  rw [List.drop_left, decodeFrame_eq_ok.mpr ⟨h, rest, rfl, rfl⟩]
  dsimp only
  rw [List.drop_left]

/-- Frames that are read at once are received in their order, behind bytes without a preamble. -/
theorem SerialBuffer.read_frames {s : SerialBuffer} (hs : s.frameBuf = []) {noise : Bytes}
    (hnoise : findPreamble noise = none) {frames : List MstpFrame}
    (hframes : ∀ f ∈ frames, f.Written) (hsome : frames ≠ []) (tFrameAbortUs now : ℕ)
    (hfits : (noise ++ frames.flatMap frameBytes).length ≤ mstpMaxFrameBuf) :
    s.read tFrameAbortUs now (noise ++ frames.flatMap frameBytes) = (⟨[], now⟩, frames) := by
  have htake (fuel : ℕ) (hfuel : frames.length < fuel) :
      takeFrames fuel (noise ++ frames.flatMap frameBytes) = (frames, []) := by
    clear hfits
    induction frames generalizing noise fuel with
    | nil => exact absurd rfl hsome
    | cons f frames ih =>
      obtain ⟨fuel, rfl⟩ : ∃ k, fuel = k + 1 := ⟨fuel - 1, by omega⟩
      rw [List.flatMap_cons, takeFrames_frameBytes (hframes f List.mem_cons_self) hnoise]
      cases hrest : frames with
      | nil =>
        obtain ⟨fuel, rfl⟩ : ∃ k, fuel = k + 1 := ⟨fuel - 1, by
          rw [List.length_cons] at hfuel
          omega⟩
        rfl
      | cons g later =>
        rw [← hrest]
        have hlast := ih (show findPreamble [] = none from rfl)
          (fun f hf => hframes f (List.mem_cons_of_mem _ hf))
          (by simp [hrest]) fuel (by rw [List.length_cons] at hfuel; omega)
        rw [List.nil_append] at hlast
        rw [hlast]
  have hlength : frames.length ≤ (frames.flatMap frameBytes).length := by
    clear hfits hsome htake
    induction frames with
    | nil => exact Nat.zero_le _
    | cons f frames ih =>
      have hf := (length_frameBytes (hframes f List.mem_cons_self).short).1
      have hrest := ih fun f hf => hframes f (List.mem_cons_of_mem _ hf)
      rw [List.flatMap_cons, List.length_append, List.length_cons]
      omega
  have hchunk : noise ++ frames.flatMap frameBytes ≠ [] := by
    intro hnil
    rw [List.append_eq_nil_iff] at hnil
    rw [hnil.2] at hlength
    exact hsome (List.length_eq_zero_iff.mp (Nat.le_zero.mp hlength))
  unfold SerialBuffer.read
  rw [if_neg hchunk, hs]
  dsimp only
  rw [ite_self, List.length_nil, Nat.zero_add, if_neg (Nat.not_lt_of_le hfits), List.nil_append,
    htake _ (by rw [List.length_append]; omega)]

/-- What is read at once: noise, and whole frames behind it. -/
structure Chunk where
  now : ℕ
  noise : Bytes
  frames : List MstpFrame

/-- The bytes that are read. -/
def Chunk.bytes (c : Chunk) : Bytes := c.noise ++ c.frames.flatMap frameBytes

/-- The noise has no preamble, and there are frames, which fit into the buffer. -/
structure Chunk.Whole (c : Chunk) : Prop where
  quiet : findPreamble c.noise = none
  some : c.frames ≠ []
  fits : c.bytes.length ≤ mstpMaxFrameBuf

/-- Frames that are not cut by the reads are received in their order. -/
theorem SerialBuffer.reads_chunks {chunks : List Chunk} (hwhole : ∀ c ∈ chunks, c.Whole)
    (hframes : ∀ f ∈ chunks.flatMap Chunk.frames, f.Written) (tFrameAbortUs : ℕ) {s : SerialBuffer}
    (hs : s.frameBuf = []) :
    s.reads tFrameAbortUs (chunks.map fun c => (c.now, c.bytes)) =
      chunks.flatMap Chunk.frames := by
  induction chunks generalizing s with
  | nil => rfl
  | cons c chunks ih =>
    rw [List.flatMap_cons] at hframes ⊢
    have hc := hwhole c List.mem_cons_self
    have hread := SerialBuffer.read_frames hs hc.quiet
      (fun f hf => hframes f (List.mem_append_left _ hf)) hc.some tFrameAbortUs c.now hc.fits
    have hlater := ih (fun c hc => hwhole c (List.mem_cons_of_mem _ hc))
      (fun f hf => hframes f (List.mem_append_right _ hf)) (s := ⟨[], c.now⟩) rfl
    rw [List.map_cons, SerialBuffer.reads, Chunk.bytes, hread, hlater]

/-- The frames that an event makes a station write. -/
def MasterNode.writes (n : MasterNode) : Event → List MstpFrame
  | .frame f => (n.onFrame f).2.1
  | .timeout reply => (n.onTimeout reply).2.1
  | .queue _ _ => []

/-- The frames that a station writes over a run. -/
def MasterNode.transmitted : List Event → MasterNode → List MstpFrame
  | [], _ => []
  | e :: events, n => n.writes e ++ transmitted events (n.step e)

/-- What a station writes over a run is its own. -/
theorem MasterNode.own_transmitted (events : List Event) (n : MasterNode) :
    ∀ f ∈ transmitted events n, n.Own f := by
  induction events generalizing n with
  | nil => simp [transmitted]
  | cons e events ih =>
    intro f hf
    rcases List.mem_append.mp hf with hnow | hlater
    · cases e with
      | frame frame => exact (onFrame_sends frame n).own f hnow
      | timeout reply => exact (onTimeout_expires reply n).own f hnow
      | queue dest npdu => cases hnow
    · exact (ih (n.step e) f hlater).of_config (step_queue e n).1

/-- Over any run of a station, what it writes is what another station receives, in that order,
however the frames are put together in reads and whatever noise without a preamble is in front
of them, if no read cuts a frame and none is larger than the buffer. -/
theorem MasterNode.run_heard (events : List Event) {n : MasterNode}
    (hstation : n.config.thisStation ≤ maxMaster) {chunks : List Chunk}
    (hwhole : ∀ c ∈ chunks, c.Whole) (hwritten : chunks.flatMap Chunk.frames = transmitted events n)
    (tFrameAbortUs : ℕ) {s : SerialBuffer} (hs : s.frameBuf = []) :
    s.reads tFrameAbortUs (chunks.map fun c => (c.now, c.bytes)) = transmitted events n := by
  rw [SerialBuffer.reads_chunks hwhole ?_ tFrameAbortUs hs, hwritten]
  intro f hf
  rw [hwritten] at hf
  exact (own_transmitted events n f hf).written hstation

/-- A station with one packet in its queue. -/
def lineStation : MasterNode :=
  ⟨{ thisStation := 1 }, .idle, 2, 2, 0, 0, [(2, [1, 0])], false, 0, 0, false, none, 10, 0, none⟩

/-- The token is passed to it. -/
def lineEvents : List MasterNode.Event := [.frame ⟨.token, 1, 0, []⟩]

/-- What it writes is read at once, behind a byte of noise. -/
def lineChunk : Chunk := ⟨7, [0x55], MasterNode.transmitted lineEvents lineStation⟩

/-- The packet and the token behind it are received. -/
theorem line_heard : (MasterNode.transmitted lineEvents lineStation).length = 2 ∧
    SerialBuffer.reads 6250 [(7, lineChunk.bytes)] ⟨[], 0⟩ =
      MasterNode.transmitted lineEvents lineStation :=
  ⟨by decide +kernel,
    @MasterNode.run_heard lineEvents lineStation (by decide) [lineChunk]
      (fun c hc => by
        obtain rfl := List.mem_singleton.mp hc
        exact ⟨by decide, by decide +kernel, by decide +kernel⟩)
      (List.flatMap_singleton ..) 6250 ⟨[], 0⟩ rfl⟩

/-! ## A frame in several reads -/

end BacnetTransport
