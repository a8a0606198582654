import ClockChip.Proofs.Session.ReadOnly
import ClockChip.Proofs.Session.Table

/-!
# What a dump says

A dump is a picture of the whole chip: from its table alone each byte can be read again.  The table
is taken apart here row by row, without regard to how it was made.  A row is its address in two
digits with a colon behind it, and sixteen bytes of two digits with a space in front of each; the
rows follow each other from address zero on.

Since nothing is lost in the table, two chips that give the same dump hold the same memory and the
same control and alarm registers.

## Main definitions

* `Report.readCells?`, `Report.readRow?`, `Report.readTable?`: the bytes of a row, and of a table.
* `Report.Pictures`: the lines of a dump say what the registers and the memory are.

## Main results

* `Report.readTable?_table`: a table is read back.
* `Report.dump_pictures`: a dump pictures the bytes that it was made of.
* `Bench.showAll_pictures`: **a dump pictures the chip, and tells it from any other.**
-/

namespace ClockChip

namespace Report

variable {registers ram bytes : List UInt8} {lines : List String}

/-! ### Rows that are read -/

/-- The byte of two hexadecimal digits. -/
def readPair? (high low : Char) : Option UInt8 := do
  let h ← Hex.digitValue? high
  let l ← Hex.digitValue? low
  return UInt8.ofNat (16 * h + l)

/-- Bytes of two digits with a space in front of each. -/
def readCells? : List Char → Option (List UInt8)
  | [] => some []
  | ' ' :: high :: low :: rest => do
    let b ← readPair? high low
    let bs ← readCells? rest
    return b :: bs
  | _ => none

/-- The address and the bytes of a row. -/
def readRow? : List Char → Option (UInt8 × List UInt8)
  | high :: low :: ':' :: cells => do
    let address ← readPair? high low
    let bytes ← readCells? cells
    return (address, bytes)
  | _ => none

/-- The bytes of the rows from an address on, if there are sixteen behind each sixteenth address. -/
def readTable? (address : Nat) : List String → Option (List UInt8)
  | [] => some []
  | line :: lines => do
    let (label, bytes) ← readRow? line.toList
    if label.toNat = address ∧ bytes.length = 16 then
      let rest ← readTable? (address + 16) lines
      return bytes ++ rest
    else none

theorem readPair?_byte : ∀ b : UInt8,
    readPair? (Hex.digit (b.toNat / 16)) (Hex.digit (b.toNat % 16)) = some b :=
  Byte.forall_of_lt (by decide +kernel)

/-- One byte is read from the front. -/
theorem readCells?_byte (b : UInt8) (rest : List Char) :
    readCells? (' ' :: Hex.byte b ++ rest) = (readCells? rest).map (b :: ·) := by
  show (readPair? (Hex.digit (b.toNat / 16)) (Hex.digit (b.toNat % 16)) >>= fun b =>
    readCells? rest >>= fun bs => some (b :: bs)) = _
  rw [readPair?_byte]
  cases readCells? rest <;> rfl

theorem readCells?_flatMap (bytes : List UInt8) :
    readCells? (bytes.flatMap fun b => ' ' :: Hex.byte b) = some bytes := by
  induction bytes with
  | nil => rfl
  | cons b bytes ih => rw [List.flatMap_cons, readCells?_byte, ih, Option.map_some]

/-- Pieces with a space between them are pieces with a space in front of each, but for the first
space. -/
theorem cons_intercalate {pieces : List (List Char)} (h : pieces ≠ []) (sep : Char) :
    sep :: [sep].intercalate pieces = pieces.flatMap fun piece => sep :: piece := by
  induction pieces with
  | nil => exact absurd rfl h
  | cons piece pieces ih =>
    cases pieces with
    | nil => simp
    | cons next pieces =>
      rw [List.intercalate_cons_cons, List.flatMap_cons, ← ih (List.cons_ne_nil next pieces)]
      simp

/-- The address is read from the front of a row. -/
theorem readRow?_byte (b : UInt8) (cells : List Char) :
    readRow? (Hex.byte b ++ ':' :: cells) = (readCells? cells).map (b, ·) := by
  show (readPair? (Hex.digit (b.toNat / 16)) (Hex.digit (b.toNat % 16)) >>= fun b =>
    readCells? cells >>= fun bytes => some (b, bytes)) = _
  rw [readPair?_byte]
  cases readCells? cells <;> rfl

/-- A row is read back. -/
theorem readRow?_row (address : Nat) (h : bytes ≠ []) :
    readRow? (row address bytes).toList = some (UInt8.ofNat address, bytes) := by
  have hcells : ' ' :: [' '].intercalate (bytes.map Hex.byte)
      = bytes.flatMap fun b => ' ' :: Hex.byte b := by
    rw [cons_intercalate (by simpa using h), List.flatMap_map]
  have hrow : (row address bytes).toList = Hex.byte (UInt8.ofNat address)
      ++ ':' :: bytes.flatMap fun b => ' ' :: Hex.byte b := by
    rw [toList_row, List.append_assoc, ← hcells]
    rfl
  rw [hrow, readRow?_byte, readCells?_flatMap, Option.map_some]

/-! ### Tables that are read -/

/-- A row of sixteen bytes is read, and then the rows behind it. -/
theorem readTable?_cons {address : Nat} (haddress : address < 256) (hlen : bytes.length = 16)
    (lines : List String) :
    readTable? address (row address bytes :: lines)
      = (readTable? (address + 16) lines).map (bytes ++ ·) := by
  have hne : bytes ≠ [] := List.ne_nil_of_length_pos (by omega)
  have hlabel : (UInt8.ofNat address).toNat = address := UInt8.toNat_ofNat_of_lt' haddress
  rw [readTable?, readRow?_row address hne]
  dsimp only [bind, Option.bind_some]
  rw [if_pos ⟨hlabel, hlen⟩]
  cases readTable? (address + 16) lines <;> rfl

/-- The rows from the `i`-th on are read as the bytes from there on. -/
theorem readTable?_rows {i k : Nat} (hlen : bytes.length = 16 * (i + k)) (hle : i + k ≤ 16) :
    readTable? (16 * i)
        ((List.range' i k).map fun i => row (16 * i) ((bytes.drop (16 * i)).take 16))
      = some (bytes.drop (16 * i)) := by
  induction k generalizing i with
  | zero =>
    rw [List.drop_of_length_le (by omega)]
    rfl
  | succ k ih =>
    have hrow : ((bytes.drop (16 * i)).take 16).length = 16 := by
      rw [List.length_take, List.length_drop]
      omega
    have hrest := ih (i := i + 1) (by omega) (by omega)
    rw [List.range'_succ, List.map_cons, readTable?_cons (by omega) hrow]
    rw [Nat.mul_succ] at hrest
    rw [hrest, Option.map_some, ← List.drop_drop, List.take_append_drop]

/-- **A table is read back.** -/
theorem readTable?_table (h : bytes.length = addressCount) :
    readTable? 0 (table bytes) = some bytes := by
  rw [table, List.range_eq_range']
  exact readTable?_rows (show bytes.length = 16 * (0 + 16) from h) (by omega)

/-! ### Dumps that are read -/

/-- The lines of a dump say what the registers and the memory are. -/
structure Pictures (registers ram : List UInt8) (lines : List String) : Prop where
  length : lines.length = 18
  time : lines[0]? = time? registers
  control : ∃ b note, registers.head? = some b
    ∧ lines[1]? = some ("control 0x" ++ String.ofList (Hex.byte b) ++ note)
    ∧ (note = " (halted)" ∨ note = "") ∧ (note = " (halted)" ↔ Byte.bit b haltBit = true)
  table : readTable? 0 (lines.drop 2) = some (registers ++ ram)

theorem time?_append (h : 7 ≤ registers.length) (rest : List UInt8) :
    time? (registers ++ rest) = time? registers := by
  match registers, h with
  | _ :: _ :: _ :: _ :: _ :: _ :: _ :: _, _ => rfl

/-- **A dump pictures the bytes that it was made of.** -/
theorem dump_pictures (hregisters : registers.length = registerCount)
    (hram : ram.length = ramSize) :
    ∃ lines, dump (registers ++ ram) = some lines ∧ Pictures registers ram lines := by
  have hregisters16 : registers.length = 16 := hregisters
  obtain ⟨line, htime⟩ := exists_time? (show 7 ≤ registers.length by omega)
  obtain ⟨b, rest, hcons⟩ := List.exists_cons_of_length_pos (show 0 < registers.length by omega)
  have hhead : (registers ++ ram).headD 0 = b := by rw [hcons]; rfl
  refine ⟨line :: control b :: table (registers ++ ram), ?_, ?_⟩
  · rw [dump, time?_append (by omega), htime, hhead]
    rfl
  · constructor
    · rfl
    · exact htime.symm
    · refine ⟨b, if Byte.bit b haltBit then " (halted)" else "", by rw [hcons]; rfl, rfl, ?_, ?_⟩
      · split <;> simp
      · split <;> simp_all
    · refine readTable?_table ?_
      rw [List.length_append, hregisters, hram, addressCount]

/-- What is pictured is told by the lines. -/
theorem Pictures.eq_of_lines {registers' ram' : List UInt8} (h : Pictures registers ram lines)
    (h' : Pictures registers' ram' lines) (hlen : registers.length = registers'.length) :
    registers = registers' ∧ ram = ram' :=
  List.append_inj (Option.some.inj (h.table.symm.trans h'.table)) hlen

end Report

namespace Chip

variable {c d : Chip} {clock clock' : HostClock}

theorem length_latchedRegisters (clock : HostClock) (c : Chip) :
    (c.latchedRegisters clock).length = registerCount := Vector.length_toList

/-- All bytes are the registers and the memory behind them. -/
theorem latched_addressCount (h : c.bank.ram.length = ramSize) (clock : HostClock) :
    c.latched clock addressCount = c.latchedRegisters clock ++ c.bank.ram := by
  have hregisters : (c.latchedRegisters clock).length = 16 := length_latchedRegisters clock c
  refine List.ext_getElem ?_ fun i hi hi' => ?_
  · rw [length_latched, List.length_append, hregisters, h]
    rfl
  · rw [length_latched] at hi
    simp only [latched, List.getElem_map, List.getElem_range, Nat.mod_eq_of_lt hi, Bank.read,
      List.getElem_append, hregisters]
    split
    case isTrue => rfl
    case isFalse =>
      have hram : c.bank.ram.length = 240 := h
      have hlast : i < 256 := hi
      show c.bank.ram.getD (i - 16) 0 = _
      rw [List.getD_eq_getElem?_getD, List.getElem?_eq_getElem (by omega), Option.getD_some]

/-- Of the registers that are latched, some are those that are stored. -/
theorem stored_eq_of_latchedRegisters (h : c.latchedRegisters clock = d.latchedRegisters clock')
    {i : Nat} (hi : i < 16) (hkeeps : Keeps i) : c.bank.stored[i] = d.bank.stored[i] := by
  have hsnapshot : (c.bank.latch c.time clock).snapshot = (d.bank.latch d.time clock').snapshot :=
    Vector.toList_inj.mp h
  have hstored : ∀ (e : Chip) (clock : HostClock),
      (e.bank.latch e.time clock).snapshot[i] = e.bank.stored[i] := by
    intro e clock
    have hread : (e.bank.latch e.time clock).read i = e.bank.kept i :=
      Bank.read_latch hkeeps e.time clock
    rwa [Bank.read, Bank.kept, dif_pos hi, dif_pos hi] at hread
  rw [← hstored c clock, ← hstored d clock', hsnapshot]

end Chip

namespace Bench

/-- The lines that are printed picture the chip. -/
theorem run_showAll_pictures {c : Chip} (h : c.bank.ram.length = ramSize) (b : Bench) :
    ∃ lines bit shift, (c.showAll : StateM Bench _).run b
        = ((.ok (), c.withSnapshot (c.bank.shown b.source.host (c.now b.source.host))
              ⟨true, true, .idle, bit, shift, 255⟩), { b with printed := b.printed ++ lines })
      ∧ Report.Pictures (c.latchedRegisters b.source.host) c.bank.ram lines := by
  obtain ⟨bit, shift, hrun⟩ := run_showAll c b
  obtain ⟨lines, hlines, hpictures⟩ := Report.dump_pictures
    (Chip.length_latchedRegisters b.source.host c) h
  rw [Chip.latched_addressCount h, hlines, Option.getD_some] at hrun
  exact ⟨lines, bit, shift, hrun, hpictures⟩

/-- **A dump pictures the chip, and tells it from any other.**  Whatever the chip is in the middle
of, as long as its memory has its size, eighteen lines are printed.  The first is the line of the
registers as they are latched at that moment, the second shows the control register and whether it
halts, and the other sixteen read as the latched registers and the memory behind them.  The chip
keeps its memory and registers, its virtual clock with offset and halt, and its mode; its pointer is
left at the last byte, and what is unsaved stays so.  A chip with the same dump holds the same
memory and the same control and alarm registers, whatever its time and its host's. -/
theorem showAll_pictures {c : Chip} (h : c.bank.ram.length = ramSize) (b : Bench) :
    ∃ lines after,
      (c.showAll : StateM Bench _).run b
          = ((.ok (), after), { b with printed := b.printed ++ lines })
        ∧ Report.Pictures (c.latchedRegisters b.source.host) c.bank.ram lines
        ∧ (∃ snapshot responder, after = c.withSnapshot snapshot responder
            ∧ responder.pointer = 255)
        ∧ after.hasUnsaved = c.hasUnsaved
        ∧ ∀ (d : Chip) (b' : Bench), d.bank.ram.length = ramSize →
            ((d.showAll : StateM Bench _).run b').2.printed = b'.printed ++ lines →
            d.bank.ram = c.bank.ram
              ∧ ∀ i (hi : i < 16), Keeps i → d.bank.stored[i] = c.bank.stored[i] := by
  obtain ⟨lines, bit, shift, hrun, hpictures⟩ := run_showAll_pictures h b
  refine ⟨lines, _, hrun, hpictures, ⟨_, _, rfl, rfl⟩, rfl, ?_⟩
  intro d b' hram hsame
  obtain ⟨lines', bit', shift', hrun', hpictures'⟩ := run_showAll_pictures hram b'
  rw [hrun'] at hsame
  obtain rfl : lines' = lines := List.append_cancel_left hsame
  obtain ⟨hregisters, hmemory⟩ := hpictures'.eq_of_lines hpictures
    (by rw [Chip.length_latchedRegisters, Chip.length_latchedRegisters])
  exact ⟨hmemory, fun i hi hkeeps => Chip.stored_eq_of_latchedRegisters hregisters hi hkeeps⟩

/-- A chip that runs five seconds ahead of its host was left in the middle of a byte.  Another one,
halted at the same time behind a later host, gives the same dump. -/
theorem showAll_pictures_twins :
    let bank : Bank := ⟨.ofFn fun i => if i = 0 then 0x81 else 0, .replicate 16 0,
      (List.range 240).map UInt8.ofNat, true⟩
    let c : Chip := ⟨"rtc", bank, .running 5, ⟨false, true, .receiving, 3, 0x20, 17⟩, .blank 240 16⟩
    let d : Chip := ⟨"other", { bank with snapshot := .replicate 16 7 }, ⟨9, .halted 5⟩, .released,
      .blank 240 16⟩
    c.bank.ram.length = ramSize ∧ d.bank.ram.length = ramSize
      ∧ ∃ lines after, (c.showAll : StateM Bench _).run ⟨.manual 0 0, .empty, ["first"]⟩
            = ((.ok (), after), ⟨.manual 0 0, .empty, "first" :: lines⟩)
          ∧ lines.length = 18 ∧ lines[1]? = some "control 0x81 (halted)"
          ∧ after.hasUnsaved = true
          ∧ ((d.showAll : StateM Bench _).run ⟨.manual 1000 0, .empty, []⟩).2.printed = lines
          ∧ d.bank.ram = c.bank.ram
          ∧ ∀ i (hi : i < 16), Keeps i → d.bank.stored[i] = c.bank.stored[i] := by
  intro bank c d
  have hc : c.bank.ram.length = ramSize := by simp [c, bank, ramSize]
  have hd : d.bank.ram.length = ramSize := hc
  obtain ⟨lines, after, hrun, hpictures, -, hunsaved, htwin⟩ :=
    showAll_pictures hc ⟨.manual 0 0, .empty, ["first"]⟩
  have hsame : ((d.showAll : StateM Bench _).run ⟨.manual 1000 0, .empty, []⟩).2.printed
      = lines := by
    have hlatched : d.latched (ClockSource.manual 1000 0).host addressCount
        = c.latched (ClockSource.manual 0 0).host addressCount := by decide +kernel
    obtain ⟨_, _, hrun'⟩ := run_showAll c ⟨.manual 0 0, .empty, ["first"]⟩
    obtain ⟨_, _, hdump⟩ := run_showAll d ⟨.manual 1000 0, .empty, []⟩
    have hprinted : "first" :: lines = "first" :: _ :=
      congrArg (fun out => out.2.printed) (hrun.symm.trans hrun')
    rw [hdump, (List.cons.inj hprinted).2]
    exact congrArg (fun bytes => (Report.dump bytes).getD []) hlatched
  obtain ⟨b, note, hhead, hline, -, hnote⟩ := hpictures.control
  obtain rfl : 0x81 = b := Option.some.inj hhead
  obtain rfl : note = " (halted)" := hnote.mpr (by decide)
  refine ⟨hc, hd, lines, after, hrun, hpictures.length, hline, ?_, hsame, ?_⟩
  · exact hunsaved.trans (by decide +kernel)
  · exact htwin d _ hd hsame

end Bench

end ClockChip
