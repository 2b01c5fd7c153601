import CtsTraffic.MediaStream.Datagram

/-
  Iterating a `ctsMediaStreamSendRequests`: the range-for over `begin()` and `end()` that
  sends one datagram per iterator. `update_buffer_length` cuts each datagram to at most
  `UdpDatagramMaximumSizeBytes`, and shorter when what it would leave is a header or less, so
  that the bytes left after each datagram are 0 or more than a header.

  Proved (`sendRequests_iteration`): for every request of more than a header, the loop
  reaches `end()` within `bytes_to_send` increments; each datagram has between a header plus
  one byte and `UdpDatagramMaximumSizeBytes` bytes, and a payload of at most `bytes_to_send`
  less a header; the bytes left after each are 0 or more than a header; and the datagrams
  add up to `bytes_to_send`.
-/

namespace CtsTraffic.ctsMediaStreamSendRequests

namespace iterator

/-- The length of the iterator's datagram, the sum of the five `wsa_buf_array` lengths
    (`total_bytes_to_send` in `update_buffer_length`; `datagram_length`). -/
def total_bytes_to_send (it : iterator) : Nat := UdpDatagramDataHeaderLength + it.payload_len

/-- `update_buffer_length` on an iterator with more than a header to send: the datagram is
    longer than a header, at most `UdpDatagramMaximumSizeBytes` and at most what is left, and
    what it leaves is 0 or more than a header. -/
theorem update_buffer_length_of_gt (it : iterator) (hq : it.qpc_address = true)
    (hb : UdpDatagramDataHeaderLength < it.bytes_to_send) :
    ∃ n : Nat, it.update_buffer_length =
        .ok (n, { it with payload_len := n - UdpDatagramDataHeaderLength }) ∧
      UdpDatagramDataHeaderLength < n ∧ n ≤ UdpDatagramMaximumSizeBytes ∧
      (n : Int) ≤ it.bytes_to_send ∧
      (it.bytes_to_send - n = 0 ∨ UdpDatagramDataHeaderLength < it.bytes_to_send - n) := by
  obtain ⟨q, b, p⟩ := it
  simp only at hq hb ⊢
  subst hq
  have hH : UdpDatagramDataHeaderLength = 26 := rfl
  have hM : UdpDatagramMaximumSizeBytes = 64000 := rfl
  simp only [update_buffer_length, hH, hM, if_true, Int.Nat.cast_ofNat_Int] at hb ⊢
  by_cases hbig : b > 64000
  · -- a full datagram, shortened when it would leave a header or less
    simp only [hbig, if_true, Nat.reduceSub, Nat.reduceAdd, Nat.reducePow, Int.Nat.cast_ofNat_Int]
    by_cases hr : 0 < b - 64000 ∧ b - 64000 ≤ 26
    · have ht : ((b - 64000).toNat : Int) = b - 64000 := Int.toNat_of_nonneg (by omega)
      refine ⟨64000 - (26 + 1 - (b - 64000).toNat), ?_, by omega, by omega, by omega, by omega⟩
      rw [if_neg (by omega), if_pos hr, if_neg (by omega)]
      congr 3; omega
    · refine ⟨64000, ?_, by omega, le_refl _, by omega, by omega⟩
      rw [if_neg (by omega), if_neg hr]
  · -- the last datagram: everything that is left
    simp only [hbig, if_false, Nat.reducePow, Int.reducePow]
    have hm : (b - 26) % 4294967296 = b - 26 := Int.emod_eq_of_lt (by omega) (by omega)
    have ht : ((b - 26).toNat : Int) = b - 26 := Int.toNat_of_nonneg (by omega)
    refine ⟨26 + (b - 26).toNat, ?_, by omega, by omega, by omega, by omega⟩
    rw [hm, if_neg (by omega), if_neg (by omega)]
    congr 3; omega

/-- What holds of every iterator the range-for dereferences. -/
structure Valid (it : iterator) : Prop where
  qpc_address : it.qpc_address = true
  length_gt : UdpDatagramDataHeaderLength < it.total_bytes_to_send
  length_le : it.total_bytes_to_send ≤ UdpDatagramMaximumSizeBytes
  remaining : it.bytes_to_send = 0 ∨ UdpDatagramDataHeaderLength < it.bytes_to_send

/-- `operator++` with bytes left: the next datagram is valid and is taken off what is left. -/
theorem next_of_valid {it : iterator} (h : Valid it) (hb : it.bytes_to_send ≠ 0) :
    ∃ it', it.next = .ok it' ∧ Valid it' ∧
      it'.bytes_to_send = it.bytes_to_send - it'.total_bytes_to_send := by
  have hgt : UdpDatagramDataHeaderLength < it.bytes_to_send := h.remaining.resolve_left hb
  obtain ⟨n, hu, hn, hle, -, hrem⟩ := update_buffer_length_of_gt it h.qpc_address hgt
  have htotal : UdpDatagramDataHeaderLength + (n - UdpDatagramDataHeaderLength) = n := by omega
  refine ⟨{ it with payload_len := n - UdpDatagramDataHeaderLength,
                    bytes_to_send := it.bytes_to_send - n },
    ?_, ⟨h.qpc_address, ?_, ?_, hrem⟩, ?_⟩
  · simp [next, h.qpc_address, hb, hu]
  all_goals simp only [total_bytes_to_send, htotal]
  all_goals omega

/-- `operator++` with nothing left: the iterator becomes `end()`. -/
theorem next_of_zero {it : iterator} (h : Valid it) (hb : it.bytes_to_send = 0) :
    it.next = .ok { it with qpc_address := false } := by
  simp [next, h.qpc_address, hb]

/-- The range-for over a request, as C++ runs it: while the iterator is not `end()`
    (`operator!=`), the body sends the datagram of the dereferenced iterator, then
    `operator++`. `operator*` fails fast on a null `qpc_address` exactly as `operator++` does,
    so its check is the one of `next`. The result lists the iterators the body dereferenced;
    it is `none` when `fuel` increments do not reach `last`. -/
def rangeFor (last : iterator) :
    Nat → iterator → Option (Except MediaStreamFailFast (List iterator))
  | 0, it => if it.same last then some (.ok []) else none
  | fuel + 1, it =>
    if it.same last then some (.ok [])
    else match it.next with
      | .error f => some (.error f)
      | .ok it' => (rangeFor last fuel it').map fun r => r.map (it :: ·)

theorem rangeFor_of_same {last it : iterator} (h : it.same last = true) (fuel : Nat) :
    rangeFor last fuel it = some (.ok []) := by
  cases fuel <;> simp [rangeFor, h]

/-- The run of the range-for from a valid iterator with fewer bytes left than `fuel`: it
    reaches `end()`, every iterator it dereferences is valid, no datagram is longer than what
    was left at the start, and the later datagrams add up to what was left. -/
theorem rangeFor_of_valid (fuel : Nat) (it : iterator) (h : Valid it)
    (hfuel : it.bytes_to_send < fuel) :
    ∃ rest, rangeFor ⟨false, 0, 0⟩ fuel it = some (.ok (it :: rest)) ∧
      (∀ x ∈ it :: rest, Valid x) ∧
      (∀ x ∈ rest, (x.total_bytes_to_send : Int) ≤ it.bytes_to_send) ∧
      ((rest.map total_bytes_to_send).sum : Int) = it.bytes_to_send := by
  induction fuel generalizing it with
  | zero => have := h.remaining; omega
  | succ fuel ih =>
    have hne : it.same ⟨false, 0, 0⟩ = false := by simp [same, h.qpc_address]
    by_cases hb : it.bytes_to_send = 0
    · -- the last datagram was sent: `operator++` gives `end()`
      refine ⟨[], ?_, by simpa using h, by simp, by simp [hb]⟩
      rw [rangeFor, hne, if_neg Bool.false_ne_true, next_of_zero h hb]
      simp only [rangeFor_of_same (show ({ it with qpc_address := false } : iterator).same
        ⟨false, 0, 0⟩ = true by simp [same, hb])]
      rfl
    · obtain ⟨it', hnext, hv, hb'⟩ := next_of_valid h hb
      have hpos := hv.length_gt
      obtain ⟨rest, hrun, hvalid, hle, hsum⟩ := ih it' hv (by omega)
      refine ⟨it' :: rest, ?_, ?_, ?_, ?_⟩
      · rw [rangeFor, hne, if_neg Bool.false_ne_true, hnext]
        simp only [hrun]
        rfl
      · simpa [h] using hvalid
      · simp only [List.mem_cons, forall_eq_or_imp]
        exact ⟨by have := hv.remaining; omega, fun x hx => by have := hle x hx; omega⟩
      · simp only [List.map_cons, List.sum_cons, Int.natCast_add, hsum]
        omega

end iterator

/-- `begin()` on a request of more than a header: its first datagram is valid and is taken
    off `bytes_to_send`. -/
theorem begin_of_gt (r : ctsMediaStreamSendRequests)
    (h : UdpDatagramDataHeaderLength < r.bytes_to_send) :
    ∃ it, r.begin = .ok it ∧ it.Valid ∧
      it.bytes_to_send = r.bytes_to_send - it.total_bytes_to_send := by
  obtain ⟨n, hu, hn, hle, -, hrem⟩ :=
    iterator.update_buffer_length_of_gt ⟨true, r.bytes_to_send, 0⟩ rfl h
  have htotal : UdpDatagramDataHeaderLength + (n - UdpDatagramDataHeaderLength) = n := by omega
  refine ⟨⟨true, r.bytes_to_send - n, n - UdpDatagramDataHeaderLength⟩, ?_,
    ⟨rfl, ?_, ?_, hrem⟩, ?_⟩
  · simp [begin, iterator.create, hu]
  all_goals simp only [iterator.total_bytes_to_send, htotal]
  all_goals omega

/-- Iterating a request of more than a header from `begin()` reaches `end()` within
    `bytes_to_send` increments; every datagram is longer than a header and at most
    `UdpDatagramMaximumSizeBytes`, with a payload of at most `bytes_to_send` less a header;
    the bytes left after each are 0 or more than a header; and the datagrams add up to
    `bytes_to_send`. -/
theorem sendRequests_iteration (r : ctsMediaStreamSendRequests)
    (h : UdpDatagramDataHeaderLength < r.bytes_to_send) :
    ∃ first last its, r.begin = .ok first ∧ «end» = .ok last ∧
      iterator.rangeFor last r.bytes_to_send.toNat first = some (.ok its) ∧
      (∀ it ∈ its, UdpDatagramDataHeaderLength + 1 ≤ it.total_bytes_to_send ∧
        it.total_bytes_to_send ≤ UdpDatagramMaximumSizeBytes ∧
        (it.payload_len : Int) ≤ r.bytes_to_send - UdpDatagramDataHeaderLength ∧
        (it.bytes_to_send = 0 ∨ UdpDatagramDataHeaderLength < it.bytes_to_send)) ∧
      ((its.map iterator.total_bytes_to_send).sum : Int) = r.bytes_to_send := by
  obtain ⟨first, hbegin, hv, hb⟩ := begin_of_gt r h
  have hpos := hv.length_gt
  have hrem := hv.remaining
  obtain ⟨rest, hrun, hvalid, hle, hsum⟩ :=
    iterator.rangeFor_of_valid r.bytes_to_send.toNat first hv (by omega)
  refine ⟨first, _, first :: rest, hbegin, rfl, hrun, fun it hit => ?_, ?_⟩
  · have hit' := hvalid it hit
    have hbound : (it.total_bytes_to_send : Int) ≤ r.bytes_to_send := by
      rcases List.mem_cons.1 hit with rfl | hx
      · omega
      · have := hle it hx; omega
    have hgt := hit'.length_gt
    have hle' := hit'.length_le
    exact ⟨by omega, hle', by simp only [iterator.total_bytes_to_send] at hbound; omega,
      hit'.remaining⟩
  · simp only [List.map_cons, List.sum_cons, Int.natCast_add, hsum]
    omega

/-- A request that leaves 10 bytes after a full datagram, which `update_buffer_length` cuts. -/
def cutRequest : ctsMediaStreamSendRequests := ⟨0, 64010, 0, fun _ => 0⟩

theorem sendRequests_iteration_cutRequest :
    UdpDatagramDataHeaderLength < cutRequest.bytes_to_send ∧
      ∃ first last its, cutRequest.begin = .ok first ∧ «end» = .ok last ∧
        iterator.rangeFor last cutRequest.bytes_to_send.toNat first = some (.ok its) ∧
        ((its.map iterator.total_bytes_to_send).sum : Int) = cutRequest.bytes_to_send := by
  obtain ⟨first, last, its, hb, he, hrun, -, hsum⟩ :=
    sendRequests_iteration cutRequest (by decide)
  exact ⟨by decide, first, last, its, hb, he, hrun, hsum⟩

end CtsTraffic.ctsMediaStreamSendRequests
