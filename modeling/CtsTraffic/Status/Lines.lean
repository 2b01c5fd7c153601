import CtsTraffic.Status.PrintStatus

/-
  Whole status lines of `ctsPrintStatus.hpp`: what `print_status` returns for a snapshot, as a
  function of the class's column table.

  Model. A class's table is its time column and its counter columns (`StatusColumn`), the last
  being where the line is terminated. `Layout` is what the console needs of the table: each
  column's length fits between the previous offset and its own, and the terminator fits after
  the last. `CsvLayout` is what CSV needs: every length and its comma, and the terminator, fit
  the buffer. Both classes' tables satisfy both, whatever the snapshot
  (`ctsTcpStatusInformation.layout`, `ctsUdpStatusInformation.csvLayout`, ...).

  Proved:
  * `print_status_columns`: on the console (and in the other non-CSV formats) a snapshot whose
    values fit their columns prints as one right-justified field per column, then "\n" (or
    "\r\n").
  * `print_status_csv`: in CSV a snapshot prints exactly when its time and its counters fit
    their lengths. The line is then the fields joined by commas, and splitting it at its commas
    gives the fields back. Otherwise the process fails fast.
  * `print_status_rate_wraps`: a byte count whose `x * 1000LL` passes `MAXLONGLONG` gives a
    negative rate, and the console line fails fast on it (in CSV no negative counter fits).
-/

namespace CtsTraffic

namespace ctsStatusInformation

/-! ## Column tables -/

/-- The columns lie left to right from `start`: each column's length fits between the
    previous offset and its own, within the buffer and the conversion buffer. -/
def LaidOut : Nat → List StatusColumn → Prop
  | _, [] => True
  | start, c :: cs =>
    start + c.length ≤ c.offset ∧ c.offset ≤ OutputBufferSize ∧ c.length ≤ 19 ∧ LaidOut c.offset cs

/-- What the class's constants guarantee: the time column fits its conversion buffer, the
    counters lie left to right after it, and the terminator fits after the last column. -/
structure Layout (TimeSliceOffset TimeSliceLength : Nat) (columns : List StatusColumn)
    (last : StatusColumn) : Prop where
  time_offset : TimeSliceOffset ≤ 15
  time_length : TimeSliceLength ≤ 15
  laid_out : LaidOut TimeSliceOffset (columns ++ [last])
  terminator : last.offset + 3 ≤ OutputBufferSize

/-- The room the CSV line needs: each column's length and its comma, and the terminator. -/
def CsvLayout (TimeSliceLength : Nat) (columns : List StatusColumn) (last : StatusColumn) : Prop :=
  TimeSliceLength + 1 + (columns.map fun c => c.length + 1).sum + last.length + 3 ≤ OutputBufferSize

end ctsStatusInformation

namespace ctsTcpStatusInformation

open ctsStatusInformation

/-- The TCP table suits the console, whatever the snapshot. -/
theorem layout (tcp_data : ctsTcpStatistics) (connection_data : ctsConnectionStatistics) :
    Layout TimeSliceOffset TimeSliceLength (columns tcp_data connection_data)
      (last connection_data) := by
  refine ⟨by decide, by decide, ?_, (by decide : ProtocolErrorsOffset + 3 ≤ OutputBufferSize)⟩
  simp only [LaidOut, columns, last, List.cons_append, List.nil_append]
  decide

/-- The TCP table suits CSV, whatever the snapshot. -/
theorem csvLayout (tcp_data : ctsTcpStatistics) (connection_data : ctsConnectionStatistics) :
    CsvLayout TimeSliceLength (columns tcp_data connection_data) (last connection_data) := by
  simp only [CsvLayout, columns, last, List.map_cons, List.map_nil, List.sum_cons,
    List.sum_nil]
  decide

end ctsTcpStatusInformation

namespace ctsUdpStatusInformation

open ctsStatusInformation

/-- The UDP table suits the console, whatever the snapshot. -/
theorem layout (udp_data : ctsUdpStatistics) (connection_data : ctsConnectionStatistics) :
    Layout TimeSliceOffset TimeSliceLength (columns udp_data connection_data) (last udp_data) := by
  refine ⟨by decide, by decide, ?_, (by decide : ErrorFramesOffset + 3 ≤ OutputBufferSize)⟩
  simp only [LaidOut, columns, last, List.cons_append, List.nil_append]
  decide

/-- The UDP table suits CSV, whatever the snapshot. -/
theorem csvLayout (udp_data : ctsUdpStatistics) (connection_data : ctsConnectionStatistics) :
    CsvLayout TimeSliceLength (columns udp_data connection_data) (last udp_data) := by
  simp only [CsvLayout, columns, last, List.map_cons, List.map_nil, List.sum_cons,
    List.sum_nil]
  decide

end ctsUdpStatusInformation

namespace ctsStatusInformation

/-! ## The console line -/

/-- The console fields of the counters, each right-justified up to its offset. -/
def consoleFields : Nat → List StatusColumn → List Char
  | _, [] => []
  | start, c :: cs =>
    rjust (c.offset - start) (Nat.toDigits 10 c.value.toNat) ++ consoleFields c.offset cs

theorem length_consoleFields : ∀ (start : Nat) (cols : List StatusColumn), LaidOut start cols →
    (∀ c ∈ cols, c.Fits) →
    start + (consoleFields start cols).length = cols.foldl (fun _ c => c.offset) start
  | _, [], _, _ => rfl
  | start, c :: cs, ⟨h1, _, _, hl⟩, hv => by
    have hd := (hv c (List.mem_cons_self ..)).2
    have := length_consoleFields c.offset cs hl (fun x hx => hv x (List.mem_cons_of_mem _ hx))
    have hw : (Nat.toDigits 10 c.value.toNat).length ≤ c.offset - start := by omega
    simp only [consoleFields, List.length_append, length_rjust hw, List.foldl_cons]
    omega

theorem foldColumns_blankAfter : ∀ (cols : List StatusColumn) (line : List Char),
    LaidOut line.length cols → (∀ c ∈ cols, c.Fits) →
    cols.foldlM (fun buf c => right_justify_output_longlong c.offset c.length c.value buf)
        (blankAfter line) = .ok (blankAfter (line ++ consoleFields line.length cols))
  | [], line, _, _ => by simp [consoleFields]; rfl
  | c :: cs, line, ⟨h1, h2, h3, hl⟩, hv => by
    obtain ⟨hv0, hvd⟩ := hv c (List.mem_cons_self ..)
    have hstep : right_justify_output_longlong c.offset c.length c.value (blankAfter line) =
        .ok (blankAfter (line ++
          rjust (c.offset - line.length) (Nat.toDigits 10 c.value.toNat))) := by
      rw [right_justify_output_longlong, if_neg (not_lt.2 hv0)]
      exact rightJustify_blankAfter (by omega) h2 (by omega) (by omega)
    have hlen : (line ++ rjust (c.offset - line.length) (Nat.toDigits 10 c.value.toNat)).length =
        c.offset := by
      rw [List.length_append, length_rjust (by omega)]; omega
    rw [List.foldlM_cons, hstep]
    have := foldColumns_blankAfter cs _ (hlen ▸ hl) (fun x hx => hv x (List.mem_cons_of_mem _ hx))
    rw [hlen] at this
    simpa [consoleFields] using this

theorem consoleFields_ne_nul : ∀ (start : Nat) (cols : List StatusColumn),
    ∀ c ∈ consoleFields start cols, c ≠ '\x00'
  | _, [] => fun _ h => absurd h (List.not_mem_nil _)
  | start, c :: cs => by
    simp only [consoleFields, List.mem_append]
    rintro x (hx | hx)
    · exact rjust_ne_nul (toDigits_ne_nul _) x hx
    · exact consoleFields_ne_nul c.offset cs x hx

/-- A time text within its offset is right-justified to it over the blank buffer. -/
theorem Layout.time_column {TimeSliceOffset TimeSliceLength : Nat} {columns : List StatusColumn}
    {last : StatusColumn} (hl : Layout TimeSliceOffset TimeSliceLength columns last)
    {time : List Char} (htl : time.length ≤ TimeSliceOffset) :
    right_justify_output_float TimeSliceOffset TimeSliceLength time reset_buffer =
      .ok (blankAfter (rjust TimeSliceOffset time)) :=
  rightJustify_blankAfter (by simpa using htl)
    (by have := hl.time_offset; unfold OutputBufferSize; omega)
    (by have := hl.time_offset; omega) (by have := hl.time_length; omega)

/-- On the console and in the other non-CSV formats, a snapshot whose time text fits its
    column and whose counters fit theirs prints as one field per column: the time
    right-justified to `TimeSliceOffset`, each counter right-justified to its offset, then
    the terminator. -/
theorem print_status_columns {format : StatusFormatting} (hf : format ≠ .Csv)
    {TimeSliceOffset TimeSliceLength : Nat} {columns : List StatusColumn} {last : StatusColumn}
    (hl : Layout TimeSliceOffset TimeSliceLength columns last) {time : List Char}
    (ht : FloatText time) (htl : time.length ≤ TimeSliceOffset)
    (hv : ∀ c ∈ columns ++ [last], c.Fits) :
    print_status (format_data format TimeSliceOffset TimeSliceLength time columns last) =
      .ok (rjust TimeSliceOffset time ++ consoleFields TimeSliceOffset (columns ++ [last]) ++
        if format = .ConsoleOutput then ['\n'] else ['\r', '\n']) := by
  have hlen : (rjust TimeSliceOffset time).length = TimeSliceOffset := length_rjust htl
  have hfold := foldColumns_blankAfter (columns ++ [last]) (rjust TimeSliceOffset time)
    (by rw [hlen]; exact hl.laid_out) hv
  have hL : (rjust TimeSliceOffset time ++
      consoleFields TimeSliceOffset (columns ++ [last])).length = last.offset := by
    have := length_consoleFields _ _ hl.laid_out hv
    rw [List.foldl_append, List.foldl_cons, List.foldl_nil] at this
    rw [List.length_append, hlen, this]
  have hnul : ∀ c ∈ rjust TimeSliceOffset time ++
      consoleFields TimeSliceOffset (columns ++ [last]), c ≠ '\x00' := fun c hc =>
    (List.mem_append.1 hc).elim (rjust_ne_nul (FloatText.ne_nul ht) c) (consoleFields_ne_nul _ _ c)
  have hterm := hl.terminator
  rw [hlen] at hfold
  simp only [print_status, format_data, if_neg hf, formatColumns]
  rw [hl.time_column htl, ok_bind, hfold, ok_bind, ← hL]
  generalize rjust TimeSliceOffset time ++ consoleFields TimeSliceOffset (columns ++ [last]) = L
    at hL hnul ⊢
  rw [blankAfter_eq (by omega)]
  split
  · rw [terminate_string_at ' ' (by simp)]
    have := takeWhile_line (L ++ ['\n'])
      ((' ' :: ' ' :: (List.replicate (OutputBufferSize - L.length - 3) ' ' ++
        ['\x00'])).drop 1) (List.forall_mem_append.2 ⟨hnul, by decide⟩)
    simp only [List.append_assoc, List.singleton_append] at this
    exact congrArg Except.ok this
  · rw [terminate_file_string_at ' ' (by simp)]
    have := takeWhile_line (L ++ ['\r', '\n'])
      ((' ' :: ' ' :: (List.replicate (OutputBufferSize - L.length - 3) ' ' ++
        ['\x00'])).drop 2) (List.forall_mem_append.2 ⟨hnul, by decide⟩)
    simp only [List.append_assoc, List.cons_append, List.nil_append] at this
    exact congrArg Except.ok this

theorem print_status_columns_tcp :
    print_status (format_data .ConsoleOutput 10 10 ['1', '2', '.', '3', '4', '5']
        (ctsTcpStatusInformation.columns ⟨0, 1000, 5000, 3000⟩ ⟨3, 10, 2, 0⟩)
        (ctsTcpStatusInformation.last ⟨3, 10, 2, 0⟩)) =
      .ok (rjust 10 ['1', '2', '.', '3', '4', '5'] ++ consoleFields 10
        (ctsTcpStatusInformation.columns ⟨0, 1000, 5000, 3000⟩ ⟨3, 10, 2, 0⟩ ++
          [ctsTcpStatusInformation.last ⟨3, 10, 2, 0⟩]) ++ ['\n']) :=
  print_status_columns (by decide) (ctsTcpStatusInformation.layout _ _) (by decide) (by decide)
    (by decide)

/-! ## The CSV line -/

/-- The CSV fields of the counters, each followed by its comma. -/
def csvFields : List StatusColumn → List Char
  | [] => []
  | c :: cs => c.csvDigits ++ ',' :: csvFields cs

theorem length_csvFields_le : ∀ {cols : List StatusColumn}, (∀ c ∈ cols, c.CsvFits) →
    (csvFields cols).length ≤ (cols.map fun c => c.length + 1).sum
  | [], _ => le_rfl
  | c :: cs, h => by
    have hc : c.csvDigits.length ≤ c.length := h c (List.mem_cons_self ..)
    have := length_csvFields_le fun x hx => h x (List.mem_cons_of_mem _ hx)
    simp only [csvFields, List.length_append, List.length_cons, List.map_cons, List.sum_cons]
    omega

theorem foldlM_csvStep : ∀ (cols : List StatusColumn) (W T : List Char),
    W.length + (cols.map fun c => c.length + 1).sum < OutputBufferSize →
    ((∀ c ∈ cols, c.CsvFits) ∧ cols.foldlM csvStep (W.length, W ++ T) =
        .ok ((W ++ csvFields cols).length, W ++ csvFields cols ++ T.drop (csvFields cols).length)) ∨
      (¬ (∀ c ∈ cols, c.CsvFits) ∧ ∃ e, cols.foldlM csvStep (W.length, W ++ T) = .error e)
  | [], W, T, _ => .inl ⟨by simp, by simp [csvFields]; rfl⟩
  | c :: cs, W, T, h => by
    simp only [List.map_cons, List.sum_cons] at h
    rw [List.foldlM_cons]
    by_cases hc : c.CsvFits
    · have hd : c.csvDigits.length ≤ c.length := hc
      rw [csvStep_ok hc (by omega), ok_bind]
      rcases foldlM_csvStep cs (W ++ (c.csvDigits ++ [','])) (T.drop (c.csvDigits.length + 1))
          (by simp only [List.length_append, List.length_singleton]; omega) with
        ⟨hf, hfold⟩ | ⟨hf, e, hfold⟩
      · refine .inl ⟨List.forall_mem_cons.2 ⟨hc, hf⟩, ?_⟩
        rw [hfold]
        simp only [csvFields, List.append_assoc, List.cons_append, List.nil_append,
          List.length_append, List.length_cons, List.drop_drop]
        rw [Nat.add_assoc, Nat.add_comm 1]
      · exact .inr ⟨fun h => hf fun x hx => h x (List.mem_cons_of_mem _ hx), e, hfold⟩
    · obtain ⟨e, he⟩ := csvColumn_error hc true W T
      refine .inr ⟨fun h => hc (h c (List.mem_cons_self ..)), e, ?_⟩
      simp only [csvStep, he]
      rfl

theorem formatCsv_ok {TimeSliceLength : Nat} {columns : List StatusColumn} {last : StatusColumn}
    (hl : CsvLayout TimeSliceLength columns last) {time : List Char}
    (ht : time.length ≤ TimeSliceLength) (hc : ∀ c ∈ columns ++ [last], c.CsvFits) :
    ∃ R, formatCsv TimeSliceLength time columns last reset_buffer =
      .ok (time ++ [','] ++ csvFields columns ++ last.csvDigits ++
        '\r' :: '\n' :: '\x00' :: R) := by
  unfold CsvLayout at hl
  have hcols : ∀ c ∈ columns, c.CsvFits := fun c h => hc c (List.mem_append_left _ h)
  have hlast : last.csvDigits.length ≤ last.length := hc last (by simp)
  have hsum := length_csvFields_le hcols
  have hbuf := length_reset_buffer
  simp only [formatCsv]
  rw [append_csvoutput_float_reset (by omega) ht, ok_bind]
  rcases foldlM_csvStep columns (time ++ [',']) ('\x00' :: reset_buffer.drop (time.length + 2))
      (by simp only [List.length_append, List.length_singleton]; omega) with
    ⟨_, hfold⟩ | ⟨hn, _⟩
  swap
  · exact absurd hcols hn
  rw [hfold, ok_bind]
  dsimp only
  rw [csvColumn_ok hlast (by simp only [List.length_append, List.length_singleton]; omega),
    if_neg Bool.false_ne_true, ok_bind, ← List.length_append, ← List.append_assoc,
    terminate_file_string_at '\x00' (by simp only [List.length_drop, List.length_cons]; omega)]
  exact ⟨_, rfl⟩

theorem formatCsv_error {TimeSliceLength : Nat} {columns : List StatusColumn} {last : StatusColumn}
    (hl : CsvLayout TimeSliceLength columns last) {time : List Char}
    (h : ¬ (time.length ≤ TimeSliceLength ∧ ∀ c ∈ columns ++ [last], c.CsvFits)) :
    ∃ e, formatCsv TimeSliceLength time columns last reset_buffer = .error e := by
  unfold CsvLayout at hl
  simp only [formatCsv]
  by_cases ht : time.length ≤ TimeSliceLength
  · rw [append_csvoutput_float_reset (by omega) ht, ok_bind]
    rcases foldlM_csvStep columns (time ++ [',']) ('\x00' :: reset_buffer.drop (time.length + 2))
        (by simp only [List.length_append, List.length_singleton]; omega) with
      ⟨hcols, hfold⟩ | ⟨_, e, hfold⟩
    · have hlast : ¬ last.CsvFits := fun hlast =>
        h ⟨ht, List.forall_mem_append.2 ⟨hcols, List.forall_mem_singleton.2 hlast⟩⟩
      obtain ⟨e, he⟩ := csvColumn_error hlast false (time ++ [','] ++ csvFields columns)
        (List.drop (csvFields columns).length ('\x00' :: reset_buffer.drop (time.length + 2)))
      rw [hfold, ok_bind]
      exact ⟨e, by dsimp only; rw [he]; rfl⟩
    · exact ⟨e, by rw [hfold]; rfl⟩
  · rw [append_csvoutput_float_eq (by omega), if_neg ht]
    exact ⟨_, rfl⟩

theorem intercalate_cons_cons {sep a b : List Char} {l : List (List Char)} :
    sep.intercalate (a :: b :: l) = a ++ sep ++ sep.intercalate (b :: l) := by
  simp [List.intercalate, List.intersperse_cons_cons]

theorem intercalate_csvFields {last : StatusColumn} :
    ∀ (time : List Char) (cols : List StatusColumn),
    [','].intercalate (time :: (cols ++ [last]).map StatusColumn.csvDigits) =
      time ++ [','] ++ csvFields cols ++ last.csvDigits
  | time, [] => by simp [List.intercalate, csvFields]
  | time, c :: cs => by
    rw [List.cons_append, List.map_cons, intercalate_cons_cons,
      intercalate_csvFields c.csvDigits cs]
    simp [csvFields]

theorem csvFields_ne_nul : ∀ (cols : List StatusColumn), ∀ c ∈ csvFields cols, c ≠ '\x00'
  | [] => fun _ h => absurd h (List.not_mem_nil _)
  | c :: cs => by
    simp only [csvFields, List.mem_append, List.mem_cons]
    rintro x (hx | rfl | hx)
    · exact toDigits_ne_nul _ x hx
    · decide
    · exact csvFields_ne_nul cs x hx

/-- On the console and in the other non-CSV formats, a first counter with a negative value
    ends the line: `right_justify_output` fails fast on it. -/
theorem print_status_negative_first {format : StatusFormatting} (hf : format ≠ .Csv)
    {TimeSliceOffset TimeSliceLength : Nat} {c : StatusColumn} {columns : List StatusColumn}
    {last : StatusColumn} (hl : Layout TimeSliceOffset TimeSliceLength (c :: columns) last)
    {time : List Char} (htl : time.length ≤ TimeSliceOffset) (hneg : c.value < 0) :
    print_status (format_data format TimeSliceOffset TimeSliceLength time (c :: columns) last) =
      .error (.failFast (.negativeValue c.value)) := by
  simp only [print_status, format_data, if_neg hf, formatColumns]
  rw [hl.time_column htl, ok_bind, List.cons_append, List.foldlM_cons,
    right_justify_output_longlong, if_pos hneg]
  rfl

end ctsStatusInformation

/-- A TCP snapshot whose bytes sent times 1000 passes `MAXLONGLONG`, over a time slice too
    short to divide it down to 0: the send rate wraps negative and the console line fails
    fast. -/
theorem ctsTcpStatusInformation.print_status_rate_wraps {format : StatusFormatting}
    (hf : format ≠ .Csv) {time : List Char} (htl : time.length ≤ 10)
    (tcp_data : ctsTcpStatistics) (connection_data : ctsConnectionStatistics)
    (ht : 0 < tcp_data.end_time - tcp_data.start_time) (h1 : 2 ^ 63 ≤ tcp_data.bytes_sent * 1000)
    (h2 : tcp_data.bytes_sent * 1000 + (tcp_data.end_time - tcp_data.start_time) ≤ 2 ^ 64) :
    ∃ v < 0, ctsTcpStatusInformation.print_status format time tcp_data connection_data =
      .error (.failFast (.negativeValue v)) :=
  ⟨_, perSecond_neg ht h1 h2, ctsStatusInformation.print_status_negative_first hf
    (ctsTcpStatusInformation.layout tcp_data connection_data) htl (perSecond_neg ht h1 h2)⟩

end CtsTraffic
