import CtsTraffic.Basic

/-
  The status lines of `ctsPrintStatus.hpp`. `ctsStatusInformation::print_status` blanks a
  buffer of `OutputBufferSize` (128) characters and a terminator, and the class's
  `format_data` writes one line into it. On the console (and in the other non-CSV formats)
  each value is right-justified so that it ends at its column's `*Offset`
  (`right_justify_output`), and the line is terminated at the last offset. In CSV each value is
  appended with a comma (`append_csvoutput`), and the line ends with "\r\n".
  `ctsTcpStatusInformation` and `ctsUdpStatusInformation` differ only in their columns, so
  their `format_data` is one definition over a column table (`format_data`), applied to each
  class's constants.

  Model. The buffer is a list of 129 characters. `%lld` and `_ui64tow_s` write the decimal
  digits of `Nat.toDigits`. `_ui64tow_s` takes the `long long` as an `unsigned __int64`, that
  is modulo 2^64. The time column is `%.3f` of `static_cast<float>(_current_time) / 1000.0f`.
  Float formatting is the C runtime's, so its text is an argument (`FloatText`). The
  statistics snapshots are arguments too: `ctsStatistics.hpp` is not in the source. The
  offset arithmetic of `right_justify_output` is `unsigned long` (modulo 2^32).
  `wmemcpy_s`'s and `_snwprintf_s`'s invalid parameter handler ends the process, as a
  `FAIL_FAST` does. A write past the buffer is an error of its own (`outOfBounds`).
-/

namespace CtsTraffic

/-- `ctsConfig::StatusFormatting`. -/
inductive StatusFormatting
  | NoFormattingSet
  | WttLog
  | ClearText
  | Csv
  | ConsoleOutput
  deriving DecidableEq, Repr

/-- The `FAIL_FAST`s of `ctsStatusInformation`, with what each message prints. -/
inductive StatusFailFast
  /-- "ctsStatusInformation will only print up to %u columns - an offset of %u was given" -/
  | offsetTooLarge (offset : Nat)
  /-- "ctsStatusInformation will only print converted strings up to %u characters long - the
      number '%u' was given" -/
  | maxLengthTooLarge (max_length : Nat)
  /-- "ctsStatusInformation output was given a negative value to print (or greater than
      MAXLONGLONG): %llx" -/
  | negativeValue (value : Int)
  /-- `FAIL_FAST_IF(-1 == converted)` -/
  | converted
  /-- "_ui64tow_s failed to convert this (%p) ctsUdpStatusInformation - %lld" -/
  | ui64towFailed (value : Int)
  /-- "Counting the string built by _ui64tow_s overflowed - converted (%u) _offset (%u)" -/
  | countOverflow (converted offset : Nat)
  /-- "Counting the string built by _ui64tow_s was greater than _value_length (%u)" -/
  | longerThanValueLength (value_length : Nat)
  deriving DecidableEq, Repr

/-- What ends a status line early: a `FAIL_FAST`, the invalid parameter handler of
    `wmemcpy_s`, or a write outside `OutputBuffer`. -/
inductive StatusFailure
  | failFast (f : StatusFailFast)
  | invalidParameter
  | outOfBounds (index : Nat)
  deriving DecidableEq, Repr

/-- The text `%.3f` writes: digits, a point and possibly a sign. -/
def FloatText (t : List Char) : Prop :=
  t ≠ [] ∧ ∀ c ∈ t, c.isDigit ∨ c = '.' ∨ c = '-'

instance : DecidablePred FloatText := fun _ => inferInstanceAs (Decidable (_ ∧ _))

theorem FloatText.ne_nul {t : List Char} (h : FloatText t) : ∀ c ∈ t, c ≠ '\x00' := by
  intro c hc he
  rcases h.2 c hc with hd | hd | hd <;> rw [he] at hd <;> revert hd <;> decide

/-- `text` right-justified in `width` columns. -/
def rjust (width : Nat) (text : List Char) : List Char :=
  List.replicate (width - text.length) ' ' ++ text

theorem length_rjust {w : Nat} {t : List Char} (h : t.length ≤ w) : (rjust w t).length = w := by
  simp only [rjust, List.length_append, List.length_replicate]; omega

theorem rjust_ne_nul {w : Nat} {t : List Char} (h : ∀ c ∈ t, c ≠ '\x00') :
    ∀ c ∈ rjust w t, c ≠ '\x00' := by
  intro c hc
  rcases List.mem_append.1 hc with hc | hc
  · rw [List.eq_of_mem_replicate hc]; decide
  · exact h c hc

/-! ### Decimal digits

`%lld` and `_ui64tow_s` write the digits of `Nat.toDigits 10`: none of them is the terminator,
a blank or a comma. -/

theorem digitChar_isDigit {d : Nat} (h : d < 10) : (Nat.digitChar d).isDigit := by
  have : ∀ d : Fin 10, (Nat.digitChar d).isDigit = true := by decide
  exact this ⟨d, h⟩

theorem toDigitsCore_isDigit : ∀ (fuel n : Nat) (ds : List Char), (∀ c ∈ ds, c.isDigit) →
    ∀ c ∈ Nat.toDigitsCore 10 fuel n ds, c.isDigit
  | 0, _, _, h => h
  | fuel + 1, n, ds, h => by
    have hd : ∀ c ∈ Nat.digitChar (n % 10) :: ds, c.isDigit :=
      List.forall_mem_cons.2 ⟨digitChar_isDigit (Nat.mod_lt _ (by norm_num)), h⟩
    unfold Nat.toDigitsCore
    dsimp only
    split
    · exact hd
    · exact toDigitsCore_isDigit fuel _ _ hd

theorem toDigits_isDigit (n : Nat) : ∀ c ∈ Nat.toDigits 10 n, c.isDigit :=
  toDigitsCore_isDigit _ _ _ (by simp)

theorem toDigits_ne_nul (n : Nat) : ∀ c ∈ Nat.toDigits 10 n, c ≠ '\x00' :=
  fun c hc he => by
    have := toDigitsCore_isDigit _ _ _ (by simp) c hc
    rw [he] at this
    exact absurd this (by decide)

namespace ctsStatusInformation

/-- `OutputBufferSize`. -/
def OutputBufferSize : Nat := 128

/-- The buffer with the line `line` written and blanks after it: what `reset_buffer` leaves
    (`line = []`) and what each column written left to right keeps. -/
def blankAfter (line : List Char) : List Char :=
  line ++ List.replicate (OutputBufferSize - line.length) ' ' ++ ['\x00']

theorem length_blankAfter {line : List Char} (h : line.length ≤ OutputBufferSize) :
    (blankAfter line).length = OutputBufferSize + 1 := by
  simp only [blankAfter, List.length_append, List.length_replicate, List.length_singleton]; omega

theorem take_blankAfter {line : List Char} {k : Nat} (hk : line.length ≤ k)
    (h : k ≤ OutputBufferSize) :
    (blankAfter line).take k = line ++ List.replicate (k - line.length) ' ' := by
  simp only [blankAfter, List.append_assoc, List.take_append_eq_append_take, List.take_replicate,
    List.length_replicate, List.take_of_length_le hk, List.append_cancel_left_eq]
  rw [Nat.min_eq_left (by omega), show k - line.length - (OutputBufferSize - line.length) = 0 by
    omega, List.take_zero, List.append_nil]

theorem drop_blankAfter {line : List Char} {k : Nat} (hk : line.length ≤ k)
    (h : k ≤ OutputBufferSize) :
    (blankAfter line).drop k = List.replicate (OutputBufferSize - k) ' ' ++ ['\x00'] := by
  simp only [blankAfter, List.append_assoc, List.drop_append_eq_append_drop, List.drop_replicate,
    List.length_replicate, List.drop_eq_nil_of_le hk, List.nil_append]
  rw [show k - line.length - (OutputBufferSize - line.length) = 0 by omega, List.drop_zero,
    show OutputBufferSize - line.length - (k - line.length) = OutputBufferSize - k by omega]

theorem blankAfter_eq {line : List Char} (h : line.length + 3 ≤ OutputBufferSize) :
    blankAfter line = line ++ ' ' :: ' ' :: ' ' ::
      (List.replicate (OutputBufferSize - line.length - 3) ' ' ++ ['\x00']) := by
  have : OutputBufferSize - line.length = OutputBufferSize - line.length - 3 + 1 + 1 + 1 := by
    omega
  conv_lhs => rw [blankAfter, this]
  simp only [List.replicate_succ, List.append_assoc, List.cons_append]

/-- `reset_buffer`: `OutputBufferSize` blanks and the terminator. -/
def reset_buffer : List Char := blankAfter []

theorem length_reset_buffer : reset_buffer.length = OutputBufferSize + 1 :=
  length_blankAfter (Nat.zero_le _)

/-- `_snwprintf_s(buffer, sizeOfBuffer, count, ...)` producing `text`: the number of
    characters written, or `none` for its -1 when the text does not fit `count` characters
    and a terminator. -/
def snwprintf_s (sizeOfBuffer count : Nat) (text : List Char) : Option Nat :=
  if text.length ≤ count ∧ text.length < sizeOfBuffer then some text.length else none

/-- `wmemcpy_s(OutputBuffer + dest, destSize, src, src.length)`. -/
def wmemcpy_s (dest destSize : Nat) (src buf : List Char) : Except StatusFailure (List Char) :=
  if destSize < src.length then .error .invalidParameter
  else if buf.length < dest + src.length then .error (.outOfBounds dest)
  else .ok (buf.take dest ++ src ++ buf.drop (dest + src.length))

/-- What the `right_justify_output` overloads share: the checks on the offset and on the
    maximum length, the conversion into `CoversionBufferLength` characters, and the copy
    ending at the offset, the start computed in `unsigned long`. -/
def rightJustify (CoversionBufferLength offset max_length : Nat) (text buf : List Char) :
    Except StatusFailure (List Char) :=
  if offset > OutputBufferSize then .error (.failFast (.offsetTooLarge offset))
  else if max_length > CoversionBufferLength - 1 then
    .error (.failFast (.maxLengthTooLarge max_length))
  else
    match snwprintf_s CoversionBufferLength CoversionBufferLength text with
    | none => .error (.failFast .converted)
    | some converted =>
      let dest := (offset + 2 ^ 32 - converted) % 2 ^ 32
      wmemcpy_s dest ((OutputBufferSize + 2 ^ 32 - dest) % 2 ^ 32) text buf

theorem rightJustify_blankAfter {CoversionBufferLength offset max_length : Nat}
    {line text : List Char} (h : line.length + text.length ≤ offset)
    (ho : offset ≤ OutputBufferSize) (hc : text.length < CoversionBufferLength)
    (hm : max_length ≤ CoversionBufferLength - 1) :
    rightJustify CoversionBufferLength offset max_length text (blankAfter line) =
      .ok (blankAfter (line ++ rjust (offset - line.length) text)) := by
  have h128 : OutputBufferSize = 128 := rfl
  have hd : (offset + 2 ^ 32 - text.length) % 2 ^ 32 = offset - text.length := by omega
  have hs : (OutputBufferSize + 2 ^ 32 - (offset - text.length)) % 2 ^ 32 =
      OutputBufferSize - (offset - text.length) := by omega
  simp only [rightJustify, if_neg (show ¬ offset > OutputBufferSize by omega),
    if_neg (show ¬ max_length > CoversionBufferLength - 1 by omega), snwprintf_s,
    if_pos (And.intro hc.le hc), hd, hs, wmemcpy_s,
    length_blankAfter (show line.length ≤ OutputBufferSize by omega)]
  rw [if_neg (by omega), if_neg (by omega), take_blankAfter (by omega) (by omega),
    Nat.sub_add_cancel (by omega : text.length ≤ offset), drop_blankAfter (by omega) ho]
  simp only [blankAfter, rjust, List.append_assoc, List.length_append, List.length_replicate]
  rw [show offset - text.length - line.length = offset - line.length - text.length by omega,
    show OutputBufferSize - (line.length + (offset - line.length - text.length + text.length)) =
      OutputBufferSize - offset by omega]

/-- `right_justify_output(offset, max_length, float)`, given the text of `%.3f`. -/
def right_justify_output_float (offset max_length : Nat) (text buf : List Char) :
    Except StatusFailure (List Char) :=
  rightJustify 16 offset max_length text buf

/-- `right_justify_output(offset, max_length, long long)`: it alone refuses a negative value. -/
def right_justify_output_longlong (offset max_length : Nat) (value : Int) (buf : List Char) :
    Except StatusFailure (List Char) :=
  if value < 0 then .error (.failFast (.negativeValue value))
  else rightJustify 20 offset max_length (Nat.toDigits 10 value.toNat) buf

/-- A plain array write: past the buffer it is out of bounds. -/
def writeAt (offset : Nat) (c : Char) (buf : List Char) : Except StatusFailure (List Char) :=
  if offset < buf.length then .ok (buf.set offset c) else .error (.outOfBounds offset)

theorem ok_bind {ε α β : Type} (a : α) (f : α → Except ε β) : (Except.ok a >>= f) = f a := rfl

theorem writeAt_append {pre post : List Char} {i : Nat} (h1 : pre.length ≤ i)
    (h2 : i < pre.length + post.length) (d : Char) :
    writeAt i d (pre ++ post) = .ok (pre ++ post.set (i - pre.length) d) := by
  rw [writeAt, if_pos (by simpa using h2), List.set_append_right _ _ h1]

/-- `terminate_string`: "\n" and the terminator at the offset. -/
def terminate_string (offset : Nat) (buf : List Char) : Except StatusFailure (List Char) :=
  writeAt offset '\n' buf >>= writeAt (offset + 1) '\x00'

theorem terminate_string_at {pre R : List Char} (c : Char) (h : 1 ≤ R.length) :
    terminate_string pre.length (pre ++ c :: R) = .ok (pre ++ '\n' :: '\x00' :: R.drop 1) := by
  obtain ⟨r, R, rfl⟩ := List.exists_cons_of_length_pos h
  rw [terminate_string, writeAt_append le_rfl (by simp), ok_bind,
    writeAt_append (by simp) (by simp)]
  simp

/-- `terminate_file_string`: "\r\n" and the terminator at the offset. -/
def terminate_file_string (offset : Nat) (buf : List Char) : Except StatusFailure (List Char) :=
  writeAt offset '\r' buf >>= writeAt (offset + 1) '\n' >>= writeAt (offset + 2) '\x00'

theorem terminate_file_string_at {pre R : List Char} (c : Char) (h : 2 ≤ R.length) :
    terminate_file_string pre.length (pre ++ c :: R) =
      .ok (pre ++ '\r' :: '\n' :: '\x00' :: R.drop 2) := by
  obtain ⟨r, R, rfl⟩ := List.exists_cons_of_length_pos (by omega : 0 < R.length)
  obtain ⟨r', R, rfl⟩ := List.exists_cons_of_length_pos (by simp at h; omega : 0 < R.length)
  rw [terminate_file_string, writeAt_append le_rfl (by simp), ok_bind,
    writeAt_append (by simp) (by simp), ok_bind, writeAt_append (by simp) (by simp)]
  simp

/-- `append_csvoutput(offset, value_length, float, add_comma)`: `_snwprintf_s` with the format
    "%.3f," (or "%.3f") into what is left of the buffer, at most `value_length` characters
    and the comma. Returns the characters written. -/
def append_csvoutput_float (offset value_length : Nat) (text : List Char) (add_comma : Bool)
    (buf : List Char) : Except StatusFailure (Nat × List Char) :=
  let out := if add_comma then text ++ [','] else text
  match snwprintf_s (OutputBufferSize - offset)
      (if add_comma then value_length + 1 else value_length) out with
  | none => .error (.failFast .converted)
  | some converted =>
    .ok (converted, buf.take offset ++ out ++ ['\x00'] ++ buf.drop (offset + out.length + 1))

theorem append_csvoutput_float_eq {TimeSliceLength : Nat} {time buf : List Char}
    (h : TimeSliceLength + 2 < OutputBufferSize) :
    append_csvoutput_float 0 TimeSliceLength time true buf =
      if time.length ≤ TimeSliceLength then
        .ok (time.length + 1, time ++ ',' :: '\x00' :: buf.drop (time.length + 2))
      else .error (.failFast .converted) := by
  simp only [append_csvoutput_float, if_true, snwprintf_s, List.length_append,
    List.length_singleton, Nat.sub_zero]
  by_cases ht : time.length ≤ TimeSliceLength
  · rw [if_pos ⟨by omega, by omega⟩, if_pos ht]
    simp
  · rw [if_neg (by omega), if_neg ht]

/-- The time field and its comma are written over the blank buffer. -/
theorem append_csvoutput_float_reset {TimeSliceLength : Nat} {time : List Char}
    (h : TimeSliceLength + 2 < OutputBufferSize) (ht : time.length ≤ TimeSliceLength) :
    append_csvoutput_float 0 TimeSliceLength time true reset_buffer =
      .ok ((time ++ [',']).length,
        time ++ [','] ++ '\x00' :: reset_buffer.drop (time.length + 2)) := by
  rw [append_csvoutput_float_eq h, if_pos ht]
  simp

/-- `append_csvoutput(offset, value_length, long long, add_comma)`: `_ui64tow_s` writes the
    digits of the value taken as an `unsigned __int64`, then the loop counts the characters up
    to the terminator or a blank, and a comma replaces the terminator when asked. -/
def append_csvoutput_longlong (offset value_length : Nat) (value : Int) (add_comma : Bool)
    (buf : List Char) : Except StatusFailure (Nat × List Char) :=
  let digits := Nat.toDigits 10 (value % 2 ^ 64).toNat
  if OutputBufferSize - offset ≤ digits.length then .error (.failFast (.ui64towFailed value))
  else
    let buf := buf.take offset ++ digits ++ ['\x00'] ++ buf.drop (offset + digits.length + 1)
    -- find how many characters were printed
    let converted := ((buf.drop offset).takeWhile fun c => c != '\x00' && c != ' ').length
    if converted > OutputBufferSize - offset then
      .error (.failFast (.countOverflow converted offset))
    else if converted > value_length then .error (.failFast (.longerThanValueLength value_length))
    else if add_comma then .ok (converted + 1, buf.set (offset + converted) ',')
    else .ok (converted, buf)

theorem takeWhile_digits {W d R : List Char} (hd : ∀ c ∈ d, c.isDigit) :
    ((W ++ (d ++ '\x00' :: R)).drop W.length).takeWhile (fun c => c != '\x00' && c != ' ') = d := by
  rw [List.drop_left, List.takeWhile_append_of_pos]
  · simp
  · intro c hc
    have := hd c hc
    simp only [Bool.and_eq_true, bne_iff_ne, ne_eq]
    exact ⟨fun he => by rw [he] at this; exact absurd this (by decide),
      fun he => by rw [he] at this; exact absurd this (by decide)⟩

theorem append_csvoutput_longlong_eq {value_length : Nat} {value : Int} {add_comma : Bool}
    {W T : List Char} :
    append_csvoutput_longlong W.length value_length value add_comma (W ++ T) =
      let d := Nat.toDigits 10 (value % 2 ^ 64).toNat
      if OutputBufferSize - W.length ≤ d.length then .error (.failFast (.ui64towFailed value))
      else if d.length > value_length then .error (.failFast (.longerThanValueLength value_length))
      else if add_comma then .ok (d.length + 1, W ++ (d ++ ',' :: T.drop (d.length + 1)))
      else .ok (d.length, W ++ (d ++ '\x00' :: T.drop (d.length + 1))) := by
  simp only [append_csvoutput_longlong]
  have hdig := toDigits_isDigit (value % 2 ^ 64).toNat
  generalize Nat.toDigits 10 (value % 2 ^ 64).toNat = d at hdig ⊢
  split
  · rfl
  · rw [List.take_left, Nat.add_assoc, List.drop_append]
    simp only [List.append_assoc, List.singleton_append]
    rw [takeWhile_digits hdig, if_neg (by omega)]
    split
    · rfl
    · split
      · rw [List.set_append_right _ _ (by omega), Nat.add_sub_cancel_left,
          List.set_append_right _ _ le_rfl, Nat.sub_self, List.set_cons_zero]
      · rfl

/-- A counter column of a status line: the class's `*Offset` and `*Length` constants, and the
    value `format_data` computes for it. -/
structure StatusColumn where
  offset : Nat
  length : Nat
  value : Int
  deriving DecidableEq, Repr

/-- The counter fits its column: non-negative, with at most `length` digits. -/
def StatusColumn.Fits (c : StatusColumn) : Prop :=
  0 ≤ c.value ∧ (Nat.toDigits 10 c.value.toNat).length ≤ c.length

/-- The text `_ui64tow_s` writes for the counter: the digits of its value taken as an
    `unsigned __int64`. -/
def StatusColumn.csvDigits (c : StatusColumn) : List Char :=
  Nat.toDigits 10 (c.value % 2 ^ 64).toNat

/-- The counter fits its CSV field. -/
def StatusColumn.CsvFits (c : StatusColumn) : Prop := c.csvDigits.length ≤ c.length

instance : DecidablePred StatusColumn.Fits := fun _ => inferInstanceAs (Decidable (_ ∧ _))

instance : DecidablePred StatusColumn.CsvFits := fun _ => inferInstanceAs (Decidable (_ ≤ _))

/-- One `characters_written += append_csvoutput(characters_written, ...)` of a counter
    followed by a comma. -/
def csvStep (written : Nat × List Char) (c : StatusColumn) :
    Except StatusFailure (Nat × List Char) :=
  (append_csvoutput_longlong written.1 c.length c.value true written.2).map
    fun r => (written.1 + r.1, r.2)

theorem csvColumn_ok {c : StatusColumn} {add_comma : Bool} {W T : List Char} (hc : c.CsvFits)
    (h : W.length + c.length < OutputBufferSize) :
    append_csvoutput_longlong W.length c.length c.value add_comma (W ++ T) =
      if add_comma then .ok (c.csvDigits.length + 1,
        W ++ (c.csvDigits ++ ',' :: T.drop (c.csvDigits.length + 1)))
      else .ok (c.csvDigits.length,
        W ++ (c.csvDigits ++ '\x00' :: T.drop (c.csvDigits.length + 1))) := by
  have hd : c.csvDigits.length ≤ c.length := hc
  rw [append_csvoutput_longlong_eq]
  exact (if_neg (by unfold StatusColumn.csvDigits at hd; omega)).trans (if_neg (by
    unfold StatusColumn.csvDigits at hd; omega))

theorem csvColumn_error {c : StatusColumn} (hc : ¬ c.CsvFits) (add_comma : Bool)
    (W T : List Char) :
    ∃ e, append_csvoutput_longlong W.length c.length c.value add_comma (W ++ T) = .error e := by
  have hd : c.length < (Nat.toDigits 10 (c.value % 2 ^ 64).toNat).length := not_le.1 hc
  rw [append_csvoutput_longlong_eq]
  dsimp only
  split <;> exact ⟨_, rfl⟩

theorem csvStep_ok {c : StatusColumn} {W T : List Char} (hc : c.CsvFits)
    (h : W.length + c.length < OutputBufferSize) :
    csvStep (W.length, W ++ T) c = .ok ((W ++ (c.csvDigits ++ [','])).length,
      W ++ (c.csvDigits ++ [',']) ++ T.drop (c.csvDigits.length + 1)) := by
  simp only [csvStep, csvColumn_ok hc h, if_true]
  simp [Except.map, Nat.add_assoc]

/-- The CSV branch of `format_data`: the time, each counter with a comma, the last counter
    without one, then `terminate_file_string` after the characters written. -/
def formatCsv (TimeSliceLength : Nat) (time : List Char) (columns : List StatusColumn)
    (last : StatusColumn) (buf : List Char) : Except StatusFailure (List Char) := do
  let written ← append_csvoutput_float 0 TimeSliceLength time true buf
  let (cw, buf) ← columns.foldlM csvStep written
  let (n, buf) ← append_csvoutput_longlong cw last.length last.value false buf
  terminate_file_string (cw + n) buf

/-- The other branch of `format_data`: the time and each counter right-justified at its
    offset, then the line terminated at the last offset, with "\n" on the console and "\r\n"
    otherwise. -/
def formatColumns (format : StatusFormatting) (TimeSliceOffset TimeSliceLength : Nat)
    (time : List Char) (columns : List StatusColumn) (last : StatusColumn) (buf : List Char) :
    Except StatusFailure (List Char) := do
  let buf ← right_justify_output_float TimeSliceOffset TimeSliceLength time buf
  let buf ← (columns ++ [last]).foldlM
    (fun buf c => right_justify_output_longlong c.offset c.length c.value buf) buf
  if format = .ConsoleOutput then terminate_string last.offset buf
  else terminate_file_string last.offset buf

/-- `format_data` of both classes, over the class's columns. -/
def format_data (format : StatusFormatting) (TimeSliceOffset TimeSliceLength : Nat)
    (time : List Char) (columns : List StatusColumn) (last : StatusColumn) (buf : List Char) :
    Except StatusFailure (List Char) :=
  if format = .Csv then formatCsv TimeSliceLength time columns last buf
  else formatColumns format TimeSliceOffset TimeSliceLength time columns last buf

/-- `print_status`: `reset_buffer`, then `format_data`; the caller reads the returned buffer
    up to its terminator. `format_data` of both classes returns `PrintComplete`, so the buffer
    is always returned. -/
def print_status (format_data : List Char → Except StatusFailure (List Char)) :
    Except StatusFailure (List Char) :=
  (format_data reset_buffer).map fun buf => buf.takeWhile (· != '\x00')

theorem takeWhile_line (line rest : List Char) (h : ∀ c ∈ line, c ≠ '\x00') :
    (line ++ '\x00' :: rest).takeWhile (· != '\x00') = line := by
  rw [List.takeWhile_append_of_pos (fun c hc => by simpa using h c hc)]
  simp

end ctsStatusInformation

/-- The `ctsTcpStatistics` counters the TCP line reads. -/
structure ctsTcpStatistics where
  start_time : Int
  end_time : Int
  bytes_sent : Int
  bytes_recv : Int
  deriving DecidableEq, Repr

/-- The `ctsUdpStatistics` counters the UDP line reads. -/
structure ctsUdpStatistics where
  start_time : Int
  end_time : Int
  bits_received : Int
  successful_frames : Int
  dropped_frames : Int
  duplicate_frames : Int
  error_frames : Int
  deriving DecidableEq, Repr

/-- The `ctsConnectionStatistics` counters the lines read. -/
structure ctsConnectionStatistics where
  active_connection_count : Int
  successful_completion_count : Int
  connection_error_count : Int
  protocol_error_count : Int
  deriving DecidableEq, Repr

/-- A rate over the time slice, per second: `(time_elapsed > 0LL) ? x * 1000LL / time_elapsed
    : 0LL` in `long long`, the product wrapping to 64-bit two's complement and the division
    truncating. -/
def perSecond (x time_elapsed : Int) : Int :=
  if time_elapsed > 0 then ((x * 1000).bmod (2 ^ 64)).tdiv time_elapsed else 0

/-- A count whose `x * 1000LL` passes `MAXLONGLONG` wraps to a negative rate, unless the
    time slice is long enough to divide it down to 0. -/
theorem perSecond_neg {x t : Int} (ht : 0 < t) (h1 : 2 ^ 63 ≤ x * 1000)
    (h2 : x * 1000 + t ≤ 2 ^ 64) : perSecond x t < 0 := by
  have hw : (x * 1000).bmod (2 ^ 64) = -(2 ^ 64 - x * 1000) := by
    rw [Int.bmod_def, Int.emod_eq_of_lt (by omega) (by omega), if_neg (by norm_num; omega)]
    push_cast; ring
  have hq : 1 ≤ (2 ^ 64 - x * 1000) / t := Int.le_ediv_of_mul_le ht (by omega)
  rw [perSecond, if_pos ht, hw, Int.neg_tdiv, Int.tdiv_eq_ediv (by omega) ht.le]
  omega

namespace ctsTcpStatusInformation

open ctsStatusInformation

def TimeSliceOffset : Nat := 10
def TimeSliceLength : Nat := 10
def SendBytesPerSecondOffset : Nat := 23
def SendBytesPerSecondLength : Nat := 11
def RecvBytesPerSecondOffset : Nat := 36
def RecvBytesPerSecondLength : Nat := 11
def CurrentTransactionsOffset : Nat := 47
def CurrentTransactionsLength : Nat := 7
def CompletedTransactionsOffset : Nat := 58
def CompletedTransactionsLength : Nat := 7
def ConnectionErrorsOffset : Nat := 68
def ConnectionErrorsLength : Nat := 7
def ProtocolErrorsOffset : Nat := 79
def ProtocolErrorsLength : Nat := 7

/-- The counter columns before the last, in the order `format_data` writes them. -/
def columns (tcp_data : ctsTcpStatistics) (connection_data : ctsConnectionStatistics) :
    List StatusColumn :=
  let time_elapsed := tcp_data.end_time - tcp_data.start_time
  [⟨SendBytesPerSecondOffset, SendBytesPerSecondLength, perSecond tcp_data.bytes_sent time_elapsed⟩,
    ⟨RecvBytesPerSecondOffset, RecvBytesPerSecondLength,
      perSecond tcp_data.bytes_recv time_elapsed⟩,
    ⟨CurrentTransactionsOffset, CurrentTransactionsLength,
      connection_data.active_connection_count⟩,
    ⟨CompletedTransactionsOffset, CompletedTransactionsLength,
      connection_data.successful_completion_count⟩,
    ⟨ConnectionErrorsOffset, ConnectionErrorsLength, connection_data.connection_error_count⟩]

/-- The last column, where the line is terminated. -/
def last (connection_data : ctsConnectionStatistics) : StatusColumn :=
  ⟨ProtocolErrorsOffset, ProtocolErrorsLength, connection_data.protocol_error_count⟩

/-- `ctsTcpStatusInformation::format_data`, `time` being the `%.3f` text of the time slice. -/
def format_data (format : StatusFormatting) (time : List Char) (tcp_data : ctsTcpStatistics)
    (connection_data : ctsConnectionStatistics) : List Char → Except StatusFailure (List Char) :=
  ctsStatusInformation.format_data format TimeSliceOffset TimeSliceLength time
    (columns tcp_data connection_data) (last connection_data)

/-- `print_status` of a `ctsTcpStatusInformation`. -/
def print_status (format : StatusFormatting) (time : List Char) (tcp_data : ctsTcpStatistics)
    (connection_data : ctsConnectionStatistics) : Except StatusFailure (List Char) :=
  ctsStatusInformation.print_status (format_data format time tcp_data connection_data)

end ctsTcpStatusInformation

namespace ctsUdpStatusInformation

open ctsStatusInformation

def TimeSliceOffset : Nat := 10
def TimeSliceLength : Nat := 10
def BitsPerSecondOffset : Nat := 25
def BitsPerSecondLength : Nat := 12
def CurrentStreamsOffset : Nat := 36
def CurrentStreamsLength : Nat := 8
def CompetedFramesOffset : Nat := 48
def CompetedFramesLength : Nat := 9
def DroppedFramesOffset : Nat := 58
def DroppedFramesLength : Nat := 7
def DuplicatedFramesOffset : Nat := 69
def DuplicatedFramesLength : Nat := 7
def ErrorFramesOffset : Nat := 79
def ErrorFramesLength : Nat := 7

/-- The counter columns before the last, in the order `format_data` writes them. -/
def columns (udp_data : ctsUdpStatistics) (connection_data : ctsConnectionStatistics) :
    List StatusColumn :=
  [⟨BitsPerSecondOffset, BitsPerSecondLength,
      perSecond udp_data.bits_received (udp_data.end_time - udp_data.start_time)⟩,
    ⟨CurrentStreamsOffset, CurrentStreamsLength, connection_data.active_connection_count⟩,
    ⟨CompetedFramesOffset, CompetedFramesLength, udp_data.successful_frames⟩,
    ⟨DroppedFramesOffset, DroppedFramesLength, udp_data.dropped_frames⟩,
    ⟨DuplicatedFramesOffset, DuplicatedFramesLength, udp_data.duplicate_frames⟩]

/-- The last column, where the line is terminated. -/
def last (udp_data : ctsUdpStatistics) : StatusColumn :=
  ⟨ErrorFramesOffset, ErrorFramesLength, udp_data.error_frames⟩

/-- `ctsUdpStatusInformation::format_data`, `time` being the `%.3f` text of the time slice. -/
def format_data (format : StatusFormatting) (time : List Char) (udp_data : ctsUdpStatistics)
    (connection_data : ctsConnectionStatistics) : List Char → Except StatusFailure (List Char) :=
  ctsStatusInformation.format_data format TimeSliceOffset TimeSliceLength time
    (columns udp_data connection_data) (last udp_data)

/-- `print_status` of a `ctsUdpStatusInformation`. -/
def print_status (format : StatusFormatting) (time : List Char) (udp_data : ctsUdpStatistics)
    (connection_data : ctsConnectionStatistics) : Except StatusFailure (List Char) :=
  ctsStatusInformation.print_status (format_data format time udp_data connection_data)

end ctsUdpStatusInformation

end CtsTraffic
