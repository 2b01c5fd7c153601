import Mathlib

/-
  `ctsConfig::MediaStreamSettings::CalculateTransferSize` (ctsConfig.h): from the UDP stream's
  rate, frame rate and length, the number of bytes to stream, rounded down to whole frames,
  with the frame size and the frame count it stores. On the client it also fixes the number of
  frames to keep buffered.

  Model. `BitsPerSecond` is a `ctsSignedLongLong`: the 64 bits of a `long long`, `toInt` its
  value and `toNat` the `unsigned long long` a `static_cast` reads. The other settings are
  `ctsUnsignedLong`s (`UInt32`). `ctsSafeInt.hpp` is not in the sources: its operations throw
  a `ctsSafeIntException` when the exact result does not fit (`ctsUnsignedLong.mul`,
  `ctsUnsignedLongLong.mod`, `div`, `sub`). The rate times the length is computed after
  `static_cast`s on plain `unsigned long long`s, which wrap: `% 2 ^ 64`. So is the product in
  the frame-alignment check.

  Proved. `CalculateTransferSize_eq_ok` says what a normal return holds: the frame count
  `F = StreamLengthSeconds * FramesPerSecond` is below `2 ^ 32`, and the result is the wrapped
  total `W` rounded down to a multiple of `F`. With `F` and `W / F` below `2 ^ 32`, the
  frame-alignment `FAIL_FAST` never fires (`CalculateTransferSize_ne_frameAlignment`).
  `calculateTransferSize_wraps` compares the result with the total `T` over unbounded
  integers: the two agree exactly when `T < 2 ^ 64`, and `wrappingStream` returns 1280 bytes
  for a stream of `2 ^ 64 + 1280`.
-/

namespace CtsTraffic

/-- `MAXULONG32`. -/
def MAXULONG32 : Nat := 0xFFFFFFFF

/-- Why `CalculateTransferSize` does not return: a `FAIL_FAST_IF_MSG` (the process ends), a
    `std::invalid_argument` it throws, or a `ctsSafeIntException`. -/
inductive MediaStreamSettingsError
  /-- `FAIL_FAST_IF_MSG` -/
  | bitsPerSecondZero
  /-- `FAIL_FAST_IF_MSG` -/
  | framesPerSecondZero
  /-- `FAIL_FAST_IF_MSG` -/
  | streamLengthSecondsZero
  /-- `FAIL_FAST_IF_MSG`, with the `BitsPerSecond` it prints. -/
  | bitsPerSecondNotDivisibleBy8 (BitsPerSecond : Int)
  /-- `FAIL_FAST_IF_MSG` -/
  | bufferDepthSecondsZero
  /-- `std::invalid_argument` -/
  | bufferedFramesTooLarge
  /-- `std::invalid_argument` -/
  | streamLengthFramesTooLarge
  /-- `std::invalid_argument` -/
  | frameSizeTooLarge
  /-- `std::invalid_argument` -/
  | frameSizeTooSmall
  /-- `FAIL_FAST_IF_MSG`, with the three values it prints. -/
  | frameAlignment (FrameSizeBytes StreamLengthFrames totalStreamLengthBytes : Nat)
  /-- A checked operation's `ctsSafeIntException`. -/
  | ctsSafeIntException
  deriving DecidableEq, Repr

/-- `ctsConfig::MediaStreamSettings`, with its defaults: the settings from the command line,
    then the three values `CalculateTransferSize` calculates. -/
structure MediaStreamSettings where
  BitsPerSecond : BitVec 64 := 0
  FramesPerSecond : UInt32 := 0
  BufferDepthSeconds : UInt32 := 0
  StreamLengthSeconds : UInt32 := 0
  FrameSizeBytes : UInt32 := 0
  StreamLengthFrames : UInt32 := 0
  BufferedFrames : UInt32 := 0
  deriving DecidableEq, Repr

/-! ## Checked arithmetic -/

/-- Modelled from the spec: `ctsUnsignedLong * ctsUnsignedLong`, which throws when the product
    is not an `unsigned long`. -/
def ctsUnsignedLong.mul (a b : UInt32) : Except MediaStreamSettingsError UInt32 :=
  if a.toNat * b.toNat ≤ MAXULONG32 then .ok (a * b) else .error .ctsSafeIntException

/-- Modelled from the spec: `ctsUnsignedLongLong % ctsUnsignedLongLong`. -/
def ctsUnsignedLongLong.mod (a b : Nat) : Except MediaStreamSettingsError Nat :=
  if b = 0 then .error .ctsSafeIntException else .ok (a % b)

/-- Modelled from the spec: `ctsUnsignedLongLong / ctsUnsignedLongLong`. -/
def ctsUnsignedLongLong.div (a b : Nat) : Except MediaStreamSettingsError Nat :=
  if b = 0 then .error .ctsSafeIntException else .ok (a / b)

/-- Modelled from the spec: `ctsUnsignedLongLong -= ctsUnsignedLongLong`, which throws on an
    underflow. -/
def ctsUnsignedLongLong.sub (a b : Nat) : Except MediaStreamSettingsError Nat :=
  if b ≤ a then .ok (a - b) else .error .ctsSafeIntException

namespace MediaStreamSettings

/-- `CalculateTransferSize`, with `ctsConfig::IsListening()` as an argument: the transfer size
    and the settings with `BufferedFrames` (on the client), `FrameSizeBytes` and
    `StreamLengthFrames` set. -/
def CalculateTransferSize (s : MediaStreamSettings) (IsListening : Bool) :
    Except MediaStreamSettingsError (Nat × MediaStreamSettings) :=
  if s.BitsPerSecond = 0 then .error .bitsPerSecondZero
  else if s.FramesPerSecond = 0 then .error .framesPerSecondZero
  else if s.StreamLengthSeconds = 0 then .error .streamLengthSecondsZero
  else if s.BitsPerSecond.toInt.tmod 8 ≠ 0 then
    .error (.bitsPerSecondNotDivisibleBy8 s.BitsPerSecond.toInt)
  else do
    -- number of frames to keep buffered - only relevant on the client
    let BufferedFrames ← (
      if IsListening then pure s.BufferedFrames
      else if s.BufferDepthSeconds = 0 then .error .bufferDepthSecondsZero
      else do
        let BufferedFrames ← ctsUnsignedLong.mul s.BufferDepthSeconds s.FramesPerSecond
        if BufferedFrames < s.BufferDepthSeconds || BufferedFrames < s.FramesPerSecond then
          .error .bufferedFramesTooLarge
        else pure BufferedFrames)
    let totalStreamLengthFrames :=
      (← ctsUnsignedLong.mul s.StreamLengthSeconds s.FramesPerSecond).toNat
    if totalStreamLengthFrames > MAXULONG32 then .error .streamLengthFramesTooLarge else do
    -- convert rate to bytes / second -> calculate the total # of bytes
    let totalStreamLengthBytes :=
      s.BitsPerSecond.toNat / 8 * s.StreamLengthSeconds.toNat % 2 ^ 64
    -- guarantee that the total stream length aligns evenly with total_frames
    let totalStreamLengthBytes ← (do
      if (← ctsUnsignedLongLong.mod totalStreamLengthBytes totalStreamLengthFrames) ≠ 0 then
        ctsUnsignedLongLong.sub totalStreamLengthBytes
          (← ctsUnsignedLongLong.mod totalStreamLengthBytes totalStreamLengthFrames)
      else pure totalStreamLengthBytes)
    let totalFrameSizeBytes ←
      ctsUnsignedLongLong.div totalStreamLengthBytes totalStreamLengthFrames
    if totalFrameSizeBytes > MAXULONG32 then .error .frameSizeTooLarge else
    let FrameSizeBytes := UInt32.ofNat totalFrameSizeBytes
    if FrameSizeBytes < 40 then .error .frameSizeTooSmall else
    let StreamLengthFrames := UInt32.ofNat totalStreamLengthFrames
    -- guarantee frame alignment
    if FrameSizeBytes.toNat * StreamLengthFrames.toNat % 2 ^ 64 ≠ totalStreamLengthBytes then
      .error (.frameAlignment FrameSizeBytes.toNat StreamLengthFrames.toNat totalStreamLengthBytes)
    else
      pure (totalStreamLengthBytes, { s with BufferedFrames, FrameSizeBytes, StreamLengthFrames })

end MediaStreamSettings

/-! ## Lemmas on `Except`, the fixed-width values and the checked operations -/

namespace Except

theorem bind_eq_ok {ε α β : Type} {x : Except ε α} {f : α → Except ε β} {b : β} :
    x >>= f = .ok b ↔ ∃ a, x = .ok a ∧ f a = .ok b := by
  cases x with
  | error e => exact ⟨(nomatch ·), fun ⟨_, h, _⟩ => nomatch h⟩
  | ok a => exact ⟨fun h => ⟨a, rfl, h⟩, fun ⟨_, h, hf⟩ => by cases h; exact hf⟩

theorem bind_eq_error {ε α β : Type} {x : Except ε α} {f : α → Except ε β} {e : ε} :
    x >>= f = .error e ↔ x = .error e ∨ ∃ a, x = .ok a ∧ f a = .error e := by
  cases x <;> simp only [bind, Except.bind, reduceCtorEq, false_and, exists_false, or_false,
    Except.ok.injEq, Except.error.injEq, exists_eq_left', false_or]

theorem ite_error_eq_ok {ε α : Type} {c : Prop} [Decidable c] {e : ε} {x : Except ε α} {a : α} :
    (if c then .error e else x) = .ok a ↔ ¬c ∧ x = .ok a := by
  by_cases c <;> simp [*]

theorem ite_error_eq_error {ε α : Type} {c : Prop} [Decidable c] {e e' : ε} {x : Except ε α} :
    (if c then .error e' else x) = .error e ↔ c ∧ e' = e ∨ ¬c ∧ x = .error e := by
  by_cases c <;> simp [*]

theorem ite_ok_eq_error {ε α : Type} {c : Prop} [Decidable c] {e : ε} {a : α} {x : Except ε α} :
    (if c then .ok a else x) = .error e ↔ ¬c ∧ x = .error e := by
  by_cases c <;> simp [*]

end Except

theorem UInt32.toNat_mul' (a b : UInt32) : (a * b).toNat = a.toNat * b.toNat % 2 ^ 32 := rfl

theorem UInt32.toNat_ofNat_of_le {x : Nat} (h : x ≤ MAXULONG32) : (UInt32.ofNat x).toNat = x :=
  Nat.mod_eq_of_lt (by unfold MAXULONG32 at h; omega)

/-- A positive `long long` reads the same as an `unsigned long long`. -/
theorem BitVec.toInt_of_pos {x : BitVec 64} (h : 0 < x.toInt) : x.toInt = x.toNat := by
  rw [BitVec.toInt_eq_toNat_cond] at *
  split_ifs at * <;> omega

theorem ctsUnsignedLong.mul_eq_ok {a b c : UInt32} (h : ctsUnsignedLong.mul a b = .ok c) :
    c.toNat = a.toNat * b.toNat ∧ a.toNat * b.toNat ≤ MAXULONG32 := by
  unfold ctsUnsignedLong.mul at h
  by_cases hle : a.toNat * b.toNat ≤ MAXULONG32
  · rw [if_pos hle, Except.ok.injEq] at h
    subst h
    exact ⟨by rw [UInt32.toNat_mul']; exact UInt32.toNat_ofNat_of_le hle, hle⟩
  · rw [if_neg hle] at h; cases h

theorem ctsUnsignedLong.mul_eq_error {a b : UInt32} {e : MediaStreamSettingsError} :
    ctsUnsignedLong.mul a b = .error e ↔ ¬a.toNat * b.toNat ≤ MAXULONG32 ∧ e = .ctsSafeIntException := by
  unfold ctsUnsignedLong.mul
  by_cases h : a.toNat * b.toNat ≤ MAXULONG32 <;> simp [h, eq_comm]

theorem ctsUnsignedLongLong.div_eq_ok {a b c : Nat} :
    ctsUnsignedLongLong.div a b = .ok c ↔ 0 < b ∧ a / b = c := by
  unfold ctsUnsignedLongLong.div
  by_cases hb : b = 0 <;> simp [hb, Nat.pos_iff_ne_zero]

theorem ctsUnsignedLongLong.div_eq_error {a b : Nat} {e : MediaStreamSettingsError} :
    ctsUnsignedLongLong.div a b = .error e ↔ b = 0 ∧ e = .ctsSafeIntException := by
  unfold ctsUnsignedLongLong.div
  by_cases h : b = 0 <;> simp [h, eq_comm]

/-! ## Rounding down to whole frames -/

theorem div_mul_eq_sub_mod (W F : Nat) : W / F * F = W - W % F := by
  have := Nat.mod_add_div W F
  rw [Nat.mul_comm]; omega

/-- Rounding a wrapped total down to whole frames gives the unwrapped total rounded down
    exactly when nothing wrapped: a wrap loses at least `2 ^ 64`, rounding at most `F - 1`. -/
theorem wrapped_align_eq_iff {t F : Nat} (hF : 0 < F) (hFle : F ≤ MAXULONG32) :
    t % 2 ^ 64 - t % 2 ^ 64 % F = t - t % F ↔ t < 2 ^ 64 := by
  refine ⟨fun h => ?_, fun h => by rw [Nat.mod_eq_of_lt h]⟩
  have := Nat.mod_lt t hF
  have := Nat.mod_le (t % 2 ^ 64) F
  unfold MAXULONG32 at hFle
  omega

namespace MediaStreamSettings

/-- The alignment step of `CalculateTransferSize` rounds the total down to whole frames. -/
theorem align_eq (W F : Nat) : (do
      if (← ctsUnsignedLongLong.mod W F) ≠ 0 then
        ctsUnsignedLongLong.sub W (← ctsUnsignedLongLong.mod W F)
      else pure W : Except MediaStreamSettingsError Nat) =
    if F = 0 then .error .ctsSafeIntException else .ok (W - W % F) := by
  by_cases hF : F = 0
  · simp [hF, ctsUnsignedLongLong.mod, bind, Except.bind]
  · by_cases hm : W % F = 0
    · simp [hF, hm, ctsUnsignedLongLong.mod, bind, Except.bind, pure, Except.pure]
    · simp [hF, hm, ctsUnsignedLongLong.mod, ctsUnsignedLongLong.sub, bind, Except.bind,
        Nat.mod_le]

/-- What a normal return holds: `F` frames, below `2 ^ 32`; the wrapped total `W` rounded down
    to whole frames; a frame size `W / F` of at least 40 bytes and below `2 ^ 32`; and on the
    client `BufferDepthSeconds * FramesPerSecond` buffered frames. -/
theorem CalculateTransferSize_eq_ok {s s' : MediaStreamSettings} {IsListening : Bool} {r : Nat}
    (h : s.CalculateTransferSize IsListening = .ok (r, s')) :
    let F := s.StreamLengthSeconds.toNat * s.FramesPerSecond.toNat
    let W := s.BitsPerSecond.toNat / 8 * s.StreamLengthSeconds.toNat % 2 ^ 64
    0 < F ∧ F ≤ MAXULONG32 ∧ r = W - W % F ∧ 40 ≤ W / F ∧ W / F ≤ MAXULONG32 ∧
      s'.FrameSizeBytes.toNat = W / F ∧ s'.StreamLengthFrames.toNat = F ∧
      (IsListening = false →
        s'.BufferedFrames.toNat = s.BufferDepthSeconds.toNat * s.FramesPerSecond.toNat) := by
  simp only [CalculateTransferSize, align_eq] at h
  simp only [Except.bind_eq_ok, Except.ite_error_eq_ok, pure, Except.pure,
    ctsUnsignedLongLong.div_eq_ok, Except.ok.injEq, Prod.mk.injEq] at h
  obtain ⟨-, -, -, -, bf, hbf, f, hf, -, w, ⟨-, rfl⟩, q, ⟨hF, rfl⟩, hq, h40, -, rfl, rfl⟩ := h
  obtain ⟨hfn, hfle⟩ := ctsUnsignedLong.mul_eq_ok hf
  simp only [not_lt, gt_iff_lt, ← Nat.div_eq_sub_mod_div, hfn] at hF hq h40 ⊢
  refine ⟨hF, hfle, trivial, ?_, hq, UInt32.toNat_ofNat_of_le hq, UInt32.toNat_ofNat_of_le hfle, ?_⟩
  · exact UInt32.toNat_ofNat_of_le hq ▸ Nat.le_of_not_lt h40
  · rintro rfl
    simp only [Bool.false_eq_true, if_false, Except.ite_error_eq_ok, Except.bind_eq_ok] at hbf
    obtain ⟨-, m, hm, -, hbf⟩ := hbf
    cases hbf
    exact (ctsUnsignedLong.mul_eq_ok hm).1

/-- A client streaming 1 MB a second for 10 seconds at 30 frames a second. -/
example :
    let s : MediaStreamSettings :=
      { BitsPerSecond := 8000000, FramesPerSecond := 30, BufferDepthSeconds := 1
        StreamLengthSeconds := 10 }
    s.CalculateTransferSize false =
      .ok (9999900, { s with FrameSizeBytes := 33333, StreamLengthFrames := 300
                             BufferedFrames := 30 }) := rfl

/-- Only a zero rate is rejected: at `-8` bits a second the `static_cast` reads `2 ^ 64 - 8`. -/
example :
    let s : MediaStreamSettings :=
      { BitsPerSecond := -8, FramesPerSecond := 2147483648, StreamLengthSeconds := 1 }
    s.CalculateTransferSize true =
      .ok (2305843007066210304,
        { s with FrameSizeBytes := 1073741823, StreamLengthFrames := 2147483648 }) := rfl

/-- The frame-alignment `FAIL_FAST` is unreachable: the frame size and the frame count are
    below `2 ^ 32` and their product is the rounded total. -/
theorem CalculateTransferSize_ne_frameAlignment (s : MediaStreamSettings) (IsListening : Bool)
    (a b c : Nat) : s.CalculateTransferSize IsListening ≠ .error (.frameAlignment a b c) := by
  intro h
  simp only [CalculateTransferSize, align_eq] at h
  simp only [Except.bind_eq_error, Except.ite_error_eq_error, Except.ite_ok_eq_error,
    Except.bind_eq_ok, Except.ite_error_eq_ok, pure, Except.pure, ctsUnsignedLongLong.div_eq_ok,
    ctsUnsignedLong.mul_eq_error, ctsUnsignedLongLong.div_eq_error, reduceCtorEq, false_and,
    and_false, false_or, or_false, exists_false, Except.ok.injEq] at h
  obtain ⟨-, -, -, -, -, -, f, -, hf, w, ⟨-, rfl⟩, q, ⟨-, rfl⟩, hq, -, hne, -⟩ := h
  rw [not_lt] at hf hq
  rw [UInt32.toNat_ofNat_of_le hq, UInt32.toNat_ofNat_of_le hf, ← Nat.div_eq_sub_mod_div,
    div_mul_eq_sub_mod] at hne
  exact hne (Nat.mod_eq_of_lt (by omega))

/-- On a normal return with a positive rate: `F` frames of at least 40 bytes whose product is
    the result, which is the total `T` over unbounded integers taken modulo `2 ^ 64` and
    rounded down to whole frames; it is `T` rounded down exactly when `T < 2 ^ 64`. -/
theorem calculateTransferSize_wraps (s : MediaStreamSettings) (IsListening : Bool) (r : Nat)
    (s' : MediaStreamSettings) (h : s.CalculateTransferSize IsListening = .ok (r, s'))
    (hpos : 0 < s.BitsPerSecond.toInt) :
    let F := s.StreamLengthSeconds.toNat * s.FramesPerSecond.toNat
    let T := s.BitsPerSecond.toInt / 8 * s.StreamLengthSeconds.toNat
    0 < F ∧ s'.StreamLengthFrames.toNat = F ∧ s'.FrameSizeBytes.toNat = r / F ∧
      40 ≤ s'.FrameSizeBytes.toNat ∧ s'.FrameSizeBytes.toNat * s'.StreamLengthFrames.toNat = r ∧
      (r : Int) = T % 2 ^ 64 - T % 2 ^ 64 % F ∧ ((r : Int) = T - T % F ↔ T < 2 ^ 64) := by
  obtain ⟨hF, hFle, rfl, h40, -, hfs, hsl, -⟩ := CalculateTransferSize_eq_ok h
  have hT : s.BitsPerSecond.toInt / 8 * s.StreamLengthSeconds.toNat =
      ((s.BitsPerSecond.toNat / 8 * s.StreamLengthSeconds.toNat : Nat) : Int) := by
    rw [BitVec.toInt_of_pos hpos, Int.natCast_mul, Int.natCast_div]; rfl
  dsimp only
  rw [hT, hsl, hfs, ← Nat.div_eq_sub_mod_div]
  generalize s.BitsPerSecond.toNat / 8 * s.StreamLengthSeconds.toNat = t at *
  generalize s.StreamLengthSeconds.toNat * s.FramesPerSecond.toNat = F at *
  have hcast : ∀ u : Nat, ((u - u % F : Nat) : Int) = (u : Int) - (u : Int) % F := fun u => by
    rw [Int.ofNat_sub (Nat.mod_le _ _), Int.natCast_mod]
  refine ⟨hF, rfl, rfl, h40, div_mul_eq_sub_mod _ _, ?_, ?_⟩
  · rw [hcast, Int.natCast_mod, Int.natCast_pow, Int.Nat.cast_ofNat_Int]
  · rw [← hcast, Int.ofNat_inj, wrapped_align_eq_iff hF hFle]
    norm_cast

/-- `2 ^ 62 + 320` bits a second for 32 seconds at one frame a second, on the server: a stream
    of `2 ^ 64 + 1280` bytes. -/
def wrappingStream : MediaStreamSettings :=
  { BitsPerSecond := 4611686018427388224, FramesPerSecond := 1, StreamLengthSeconds := 32 }

theorem calculateTransferSize_wraps_wrappingStream :
    wrappingStream.CalculateTransferSize true =
        .ok (1280, { wrappingStream with FrameSizeBytes := 40, StreamLengthFrames := 32 }) ∧
      0 < wrappingStream.BitsPerSecond.toInt ∧
      let T := wrappingStream.BitsPerSecond.toInt / 8 * wrappingStream.StreamLengthSeconds.toNat
      T = 2 ^ 64 + 1280 ∧ ((1280 : Nat) : Int) ≠ T - T % (32 : Nat) :=
  have h : wrappingStream.CalculateTransferSize true =
      .ok (1280, { wrappingStream with FrameSizeBytes := 40, StreamLengthFrames := 32 }) := rfl
  have hpos : 0 < wrappingStream.BitsPerSecond.toInt := by decide
  ⟨h, hpos, by decide, fun he =>
    absurd ((calculateTransferSize_wraps _ _ _ _ h hpos).2.2.2.2.2.2.1 he) (by decide)⟩

end MediaStreamSettings

end CtsTraffic
