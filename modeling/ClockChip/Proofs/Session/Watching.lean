import ClockChip.Proofs.Session.ReadOnly
import ClockChip.Proofs.Session.TimeLine

/-!
# The times that are printed

A clock is watched by reading it over its lines again and again, with a pause between two reads.
On a host whose clock counts milliseconds and moves only in the pauses, the reads fall on a schedule
without drift: each line is the one that a single read would have printed at its time.  The reads
before it have latched other snapshots, but nothing of them goes into the next one.

A halted chip always shows the same time, next to the hundredths of its host.

## Main definitions

* `Chip.lineAt`, `Chip.linesFrom`: the line at a count of milliseconds, and the lines of a schedule.

## Main results

* `Bench.run_showMore`: the lines behind the first one, and the chip that is left.
* `Chip.exists_lineAt_of_halted`: what the lines of a halted chip have in common.
* `Bench.run_showTimes`: **a chip is watched on schedule, and stays as it was.**
-/

namespace ClockChip

namespace Report

/-- The hundredths are one piece of the line. -/
theorem exists_time_eq (seconds minutes hours yearDay weekdayMonth : UInt8) :
    ∃ front behind, ∀ hundredths, time hundredths seconds minutes hours yearDay weekdayMonth
      = front ++ packed hundredths ++ behind :=
  ⟨_, halfDay hours, fun _ => rfl⟩

end Report

namespace Chip

/-- The line of the time at a count of milliseconds of the host. -/
def lineAt (c : Chip) (ms : Int) : String := c.timeLine (ClockSource.counter ms).host

theorem time?_latchedRegisters (clock : HostClock) (c : Chip) :
    Report.time? (c.latchedRegisters clock) = some (c.timeLine clock) := rfl

/-- The lines at `n` times, one interval apart. -/
def linesFrom (c : Chip) (start : Int) (interval n : Nat) : List String :=
  (List.range n).map fun i : Nat => c.lineAt (start + (i * interval : Nat))

@[simp] theorem linesFrom_zero (c : Chip) (start : Int) (interval : Nat) :
    c.linesFrom start interval 0 = [] := rfl

/-- The snapshot is made anew for each line. -/
theorem linesFrom_withSnapshot (c : Chip) (snapshot : RegisterBytes) (responder : Responder)
    (start : Int) (interval n : Nat) :
    (c.withSnapshot snapshot responder).linesFrom start interval n
      = c.linesFrom start interval n := rfl

@[simp] theorem length_linesFrom (c : Chip) (start : Int) (interval n : Nat) :
    (c.linesFrom start interval n).length = n := by
  rw [linesFrom, List.length_map, List.length_range]

theorem getElem?_linesFrom (c : Chip) (start : Int) (interval : Nat) {i n : Nat} (hi : i < n) :
    (c.linesFrom start interval n)[i]? = some (c.lineAt (start + (i * interval : Nat))) := by
  rw [linesFrom, List.getElem?_map, List.getElem?_range hi]
  rfl

/-- One pause, and then `n` more. -/
theorem add_pause (start : Int) (interval n : Nat) :
    start + interval + (n * interval : Nat) = start + ((n + 1) * interval : Nat) := by
  rw [Nat.succ_mul]
  omega

/-- The first line, and those that start one interval behind it. -/
theorem linesFrom_succ (c : Chip) (start : Int) (interval n : Nat) :
    c.linesFrom start interval (n + 1)
      = c.lineAt start :: c.linesFrom (start + interval) interval n := by
  rw [linesFrom, List.range_succ_eq_map, List.map_cons, List.map_map, Nat.zero_mul,
    Int.natCast_zero, Int.add_zero]
  refine congrArg (List.cons _) (List.map_congr_left fun i _ => ?_)
  rw [add_pause]
  rfl

/-- The hundredths of a count of milliseconds are printed with two digits. -/
theorem packed_counter (b : Bank) (v : VirtualClock) (ms : Int) :
    Report.packed ((b.latch v (ClockSource.counter ms).host).read 1)
      = twoDigits (ms % 1000 / 10).toNat := by
  obtain ⟨k, hk⟩ := Int.eq_ofNat_of_zero_le (show 0 ≤ ms % 1000 / 10 by omega)
  have hlt : k < 100 := by omega
  have hbyte : (UInt8.ofInt (ms % 1000 / 10)).toNat = k := by
    rw [hk, ofInt_natCast (by omega), UInt8.toNat_ofNat_of_lt' (show k < 256 by omega)]
  refine (Report.packed_hundredths b v (Int64.ofInt (ms / 1000)) _).trans ?_
  rw [hbyte, hk, Int.toNat_natCast, Nat.min_eq_left (by omega)]

/-- Of a halted chip only the hundredths change from line to line. -/
theorem exists_lineAt_of_halted {c : Chip} (h : c.time.isHalted = true) :
    ∃ front behind, ∀ ms : Int,
      c.lineAt ms = front ++ twoDigits (ms % 1000 / 10).toNat ++ behind := by
  obtain ⟨latch, hmode⟩ : ∃ latch, c.time.mode = .halted latch := by
    cases hmode : c.time.mode with
    | running => simp [VirtualClock.isHalted, hmode] at h
    | halted latch => exact ⟨latch, rfl⟩
  have hnow : ∀ clock, c.now clock = latch := by
    intro clock
    rw [now, VirtualClock.now, hmode]
  -- the fields of a fixed time are the same on every host
  let still := c.bank.shown (.plain 0 0) latch
  obtain ⟨front, behind, hline⟩ :=
    Report.exists_time_eq still[2] still[3] still[4] still[5] still[6]
  refine ⟨front, behind, fun ms => ?_⟩
  have hshown : c.lineAt ms
      = Report.time ((c.bank.latch c.time (ClockSource.counter ms).host).read 1)
          still[2] still[3] still[4] still[5] still[6] := by
    rw [lineAt, timeLine, hnow]
    rfl
  rw [hshown, hline, packed_counter]

end Chip

namespace Bench

/-- The lines behind the first one come after a pause each, and the chip is left as it was but for
what its last read latched. -/
theorem run_showMore (interval n : Nat) (c : Chip) (start : Int) (files : FileTree)
    (printed : List String) :
    ∃ snapshot responder,
      (c.showMore interval n : StateM Bench _).run ⟨.counter start, files, printed⟩
        = ((.ok (), c.withSnapshot snapshot responder),
            ⟨.counter (start + (n * interval : Nat)), files,
              printed ++ c.linesFrom (start + interval) interval n⟩) := by
  induction n generalizing c start printed with
  | zero =>
    refine ⟨c.bank.snapshot, c.responder, ?_⟩
    rw [Chip.linesFrom_zero, List.append_nil, Nat.zero_mul, Int.natCast_zero, Int.add_zero]
    rfl
  | succ n ih =>
    let b : Bench := ⟨.counter start, files, printed⟩
    let later : Bench := ⟨.counter (start + interval), files, printed⟩
    have hpause : (Host.pause interval : StateM Bench Unit).run b = ((), later) := rfl
    obtain ⟨snapshot, responder, htime⟩ := run_showTime c later
    obtain ⟨snapshot', responder', hmore⟩ := ih (c.withSnapshot snapshot responder)
      (start + interval) (printed ++ [c.lineAt (start + interval)])
    refine ⟨snapshot', responder', ?_⟩
    rw [Chip.showMore, run_bind_of hpause, run_bind_of htime]
    refine hmore.trans ?_
    rw [Chip.linesFrom_withSnapshot, Chip.linesFrom_succ, List.append_assoc, Chip.add_pause]
    rfl

/-- All lines, of which the first comes without a pause. -/
theorem run_showTimes_lines (count interval : Nat) (c : Chip) (start : Int) (files : FileTree)
    (printed : List String) :
    ∃ snapshot responder,
      (c.showTimes count interval : StateM Bench _).run ⟨.counter start, files, printed⟩
        = ((.ok (), c.withSnapshot snapshot responder),
            ⟨.counter (start + ((count - 1) * interval : Nat)), files,
              printed ++ c.linesFrom start interval count⟩) := by
  cases count with
  | zero =>
    refine ⟨c.bank.snapshot, c.responder, ?_⟩
    rw [Chip.linesFrom_zero, List.append_nil, Nat.zero_sub, Nat.zero_mul, Int.natCast_zero,
      Int.add_zero]
    rfl
  | succ n =>
    let b : Bench := ⟨.counter start, files, printed⟩
    obtain ⟨snapshot, responder, htime⟩ := run_showTime c b
    obtain ⟨snapshot', responder', hmore⟩ := run_showMore interval n
      (c.withSnapshot snapshot responder) start files (printed ++ [c.lineAt start])
    refine ⟨snapshot', responder', ?_⟩
    rw [Chip.showTimes, run_bind_of htime]
    refine hmore.trans ?_
    rw [Chip.linesFrom_withSnapshot, Chip.linesFrom_succ, List.append_assoc]
    rfl

/-- **A chip is watched on schedule, and stays as it was.**  On a host that counts milliseconds,
with time passing in the pauses only, as many lines are printed as were asked for.  Each is the line
of the registers as they are latched at its time, the first at once and each other one interval
behind the one before it, with the seconds and hundredths that the count comes to.  The chip keeps
its memory and registers, its virtual clock with offset and halt, and its mode; only its snapshot
and its place in a transfer are others, and what is unsaved stays so.  The lines of a halted chip
differ in the hundredths alone. -/
theorem run_showTimes (c : Chip) (count interval : Nat) (start : Int) (files : FileTree)
    (printed : List String) :
    ∃ lines after,
      (c.showTimes count interval : StateM Bench _).run ⟨.counter start, files, printed⟩
          = ((.ok (), after),
              ⟨.counter (start + ((count - 1) * interval : Nat)), files, printed ++ lines⟩)
        ∧ lines.length = count
        ∧ (∀ i < count,
            let ms := start + (i * interval : Nat)
            lines[i]? = Report.time? (c.latchedRegisters
              (.plain (Int64.ofInt (ms / 1000)) (UInt8.ofInt (ms % 1000 / 10)))))
        ∧ (∃ snapshot responder, after = c.withSnapshot snapshot responder)
        ∧ after.hasUnsaved = c.hasUnsaved
        ∧ (c.time.isHalted = true → ∃ front behind, ∀ i < count,
            lines[i]? = some (front
              ++ twoDigits ((start + (i * interval : Nat)) % 1000 / 10).toNat ++ behind)) := by
  obtain ⟨snapshot, responder, hrun⟩ := run_showTimes_lines count interval c start files printed
  refine ⟨_, _, hrun, c.length_linesFrom start interval count, ?_, ⟨snapshot, responder, rfl⟩,
    Chip.hasUnsaved_withSnapshot c snapshot responder, ?_⟩
  · intro i hi
    rw [c.getElem?_linesFrom start interval hi]
    exact (Chip.time?_latchedRegisters _ c).symm
  · intro hhalted
    obtain ⟨front, behind, hpieces⟩ := Chip.exists_lineAt_of_halted hhalted
    refine ⟨front, behind, fun i hi => ?_⟩
    rw [c.getElem?_linesFrom start interval hi, hpieces]

/-- Three lines of a chip that was halted on a leap day and left in the middle of a byte, by a host
that counts up to the start of 1970. -/
theorem run_showTimes_halted :
    let c : Chip := ⟨"rtc", ⟨.replicate 16 0, .replicate 16 0, .replicate 240 0, true⟩,
      ⟨5, .halted (.saturate (Civil.toSeconds ⟨⟨-4, 2, 29⟩, 12, 5, 9⟩))⟩,
      ⟨false, true, .sending, 3, 0, 20⟩, .blank 240 16⟩
    c.time.isHalted = true
      ∧ ∃ lines after, (c.showTimes 3 250 : StateM Bench _).run ⟨.counter (-260), .empty, []⟩
            = ((.ok (), after), ⟨.counter 240, .empty, lines⟩)
          ∧ lines.length = 3
          ∧ lines[0]? = some "Thu 29/02 year+2 12:05:09.74 PM"
          ∧ lines[2]? = some "Thu 29/02 year+2 12:05:09.24 PM"
          ∧ after.hasUnsaved = true
          ∧ ∃ front behind, lines[1]? = some (front ++ "99" ++ behind) := by
  intro c
  have hhalted : c.time.isHalted = true := rfl
  obtain ⟨lines, after, hrun, hlen, hlines, -, hunsaved, hpieces⟩ :=
    run_showTimes c 3 250 (-260) .empty []
  obtain ⟨front, behind, hpieces⟩ := hpieces hhalted
  refine ⟨hhalted, lines, after, hrun, hlen, ?_, ?_, ?_, front, behind, ?_⟩
  · exact (hlines 0 (by decide)).trans (by decide +kernel)
  · exact (hlines 2 (by decide)).trans (by decide +kernel)
  · exact hunsaved.trans (by decide +kernel)
  · exact hpieces 1 (by decide)

end Bench

end ClockChip
