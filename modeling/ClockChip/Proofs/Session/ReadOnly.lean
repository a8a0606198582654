import ClockChip.Proofs.Chip.LinearMemory
import ClockChip.Proofs.Session.Bench

/-!
# Sessions that only look

A session that prints a chip, once or again and again, and one that pokes with saving switched off,
leaves every file and directory as it was.  A chip that was just powered up has nothing unsaved,
whatever it started from, and reading it over its lines changes nothing that its battery would
keep, so that there is nothing to save at the end.  On the way there only files are read, so that
a session that ends early has changed nothing either.

## Main definitions

* `Command.Looks`: the commands that only show the chip.
* `Chip.latched`, `Chip.latchedRegisters`: the bytes that they are shown.
* `Chip.timeLine`: the line of the time that is printed of them.
* `Chip.withSnapshot`: a chip that was read.
* `Bench.Shown`: what showing a chip leaves as it was.

## Main results

* `Bench.run_showAll`, `Bench.run_showTime`: what is printed, and the chip that is left.
* `Bench.perform_shown`: showing a chip leaves files and unsaved changes as they were.
* `Bench.files_carryOut`: so does a command that looks, or that is carried out without saving.
* `Bench.files_session`: **a session that looks, or does not save, leaves the files as they were.**
-/

namespace ClockChip

/-- The commands that only show the chip. -/
def Command.Looks : Command → Prop
  | dump => True
  | watch _ _ => True
  | poke _ _ => False

namespace Chip

/-- A chip that was just powered up has nothing to save, whatever it started from. -/
theorem hasUnsaved_ofContext (device : String) {saved : Context}
    (h : saved.Fits ramSize registerCount) : (ofContext device saved).hasUnsaved = false := by
  rw [hasUnsaved, context_ofContext device h]
  exact bne_self_eq_false _

/-- The first `n` bytes, as a START under a host clock latches them. -/
def latched (clock : HostClock) (n : Nat) (c : Chip) : List UInt8 :=
  (List.range n).map fun i => (c.bank.latch c.time clock).read (i % addressCount)

theorem length_latched (clock : HostClock) (n : Nat) (c : Chip) :
    (c.latched clock n).length = n := by
  rw [latched, List.length_map, List.length_range]

/-- An address that keeps its byte shows it. -/
theorem getElem_latched {clock : HostClock} {n : Nat} {c : Chip} {a : Nat}
    (ha : a < (c.latched clock n).length) (hlow : a < addressCount) (hkeeps : Keeps a) :
    (c.latched clock n)[a] = c.bank.kept a := by
  simp only [latched, List.getElem_map, List.getElem_range]
  rw [Nat.mod_eq_of_lt hlow, Bank.read_latch hkeeps]

/-- The sixteen registers, as a START under a host clock latches them. -/
def latchedRegisters (clock : HostClock) (c : Chip) : List UInt8 :=
  (c.bank.latch c.time clock).snapshot.toList

/-- The chip with another snapshot and another place in a transfer. -/
def withSnapshot (c : Chip) (snapshot : RegisterBytes) (responder : Responder) : Chip :=
  { c with bank := { c.bank with snapshot := snapshot }, responder := responder }

@[simp] theorem hasUnsaved_withSnapshot (c : Chip) (snapshot : RegisterBytes)
    (responder : Responder) : (c.withSnapshot snapshot responder).hasUnsaved = c.hasUnsaved := rfl

/-- The line of the time that a START under a host clock latches. -/
def timeLine (clock : HostClock) (c : Chip) : String :=
  let shown := c.bank.shown clock (c.now clock)
  Report.time shown[1] shown[2] shown[3] shown[4] shown[5] shown[6]

theorem time?_timeRegisters (clock : HostClock) (c : Chip) :
    Report.time? (c.latched clock timeRegisters) = some (c.timeLine clock) := rfl

/-- A burst of reads from address zero on, which leaves nothing but its snapshot. -/
theorem readBurst_eq_latched (clock : HostClock) (n : Nat) (c : Chip) :
    ∃ bit shift, (wire clock).readBurst 0 n c
      = (.ok (c.latched clock n), c.withSnapshot (c.bank.shown clock (c.now clock))
          ⟨true, true, .idle, bit, shift, (n - 1) % addressCount⟩) := by
  obtain ⟨bit, shift, hread, -, -⟩ := readBurst_eq_shown clock 0 n c
  have hpointer : (if n = 0 then (0 : UInt8).toNat
      else ((0 : UInt8).toNat + n - 1) % addressCount) = (n - 1) % addressCount := by
    split
    case isTrue hn =>
      subst hn
      rfl
    case isFalse => rw [UInt8.toNat_zero, Nat.zero_add]
  rw [hpointer] at hread
  simp only [UInt8.toNat_zero, Nat.zero_add] at hread
  exact ⟨bit, shift, hread⟩

end Chip

namespace Bench

variable {b : Bench} {c : Chip}

/-! ### Showing a chip -/

/-- What showing a chip leaves as it was: the files, and what of the chip is unsaved. -/
structure Shown (c : Chip) (b : Bench) (out : (Except TransferError Unit × Chip) × Bench) :
    Prop where
  files_eq : out.2.files = b.files
  hasUnsaved_eq : out.1.2.hasUnsaved = c.hasUnsaved

theorem shown_self (result : Except TransferError Unit) : Shown c b ((result, c), b) := ⟨rfl, rfl⟩

theorem Shown.trans {out out' : (Except TransferError Unit × Chip) × Bench}
    (h : Shown c b out) (h' : Shown out.1.2 out.2 out') : Shown c b out' :=
  ⟨h'.files_eq.trans h.files_eq, h'.hasUnsaved_eq.trans h.hasUnsaved_eq⟩

/-- The clock may have moved before. -/
theorem Shown.of_later {out : (Except TransferError Unit × Chip) × Bench} {source : ClockSource}
    (h : Shown c { b with source := source } out) : Shown c b out :=
  ⟨h.files_eq, h.hasUnsaved_eq⟩

/-- The first registers are read as they are latched. -/
theorem run_readAll (n : Nat) (c : Chip) (b : Bench) :
    ∃ bit shift, (c.readAll n : StateM Bench _).run b
      = ((.ok (c.latched b.source.host n),
          c.withSnapshot (c.bank.shown b.source.host (c.now b.source.host))
            ⟨true, true, .idle, bit, shift, (n - 1) % addressCount⟩), b) := by
  obtain ⟨bit, shift, hread⟩ := Chip.readBurst_eq_latched b.source.host n c
  refine ⟨bit, shift, ?_⟩
  rw [← hread]
  rfl

/-- All bytes are printed, behind what was printed before. -/
theorem run_showAll (c : Chip) (b : Bench) :
    ∃ bit shift, (c.showAll : StateM Bench _).run b
      = ((.ok (), c.withSnapshot (c.bank.shown b.source.host (c.now b.source.host))
            ⟨true, true, .idle, bit, shift, 255⟩),
          { b with printed := b.printed
            ++ (Report.dump (c.latched b.source.host addressCount)).getD [] }) := by
  obtain ⟨bit, shift, hread⟩ := run_readAll addressCount c b
  refine ⟨bit, shift, ?_⟩
  rw [Chip.showAll, run_bind_of hread]
  dsimp only
  rw [run_bind_of (run_printLines _ b)]
  rfl

/-- The line of the time is printed, behind what was printed before. -/
theorem run_showTime (c : Chip) (b : Bench) :
    ∃ snapshot responder, (c.showTime : StateM Bench _).run b
      = ((.ok (), c.withSnapshot snapshot responder),
          { b with printed := b.printed ++ [c.timeLine b.source.host] }) := by
  obtain ⟨bit, shift, hread⟩ := run_readAll Chip.timeRegisters c b
  refine ⟨c.bank.shown b.source.host (c.now b.source.host), ⟨true, true, .idle, bit, shift, 6⟩, ?_⟩
  rw [Chip.showTime, run_bind_of hread]
  dsimp only
  rw [Chip.time?_timeRegisters, run_bind_of (run_printLines _ b)]
  rfl

theorem run_dump (c : Chip) (b : Bench) :
    (Command.dump.perform c : StateM Bench _).run b = (c.showAll : StateM Bench _).run b := rfl

theorem showAll_shown (c : Chip) (b : Bench) : Shown c b ((c.showAll : StateM Bench _).run b) := by
  obtain ⟨bit, shift, hrun⟩ := run_showAll c b
  rw [hrun]
  exact ⟨rfl, rfl⟩

theorem showTime_shown (c : Chip) (b : Bench) :
    Shown c b ((c.showTime : StateM Bench _).run b) := by
  obtain ⟨snapshot, responder, hrun⟩ := run_showTime c b
  rw [hrun]
  exact ⟨rfl, rfl⟩

theorem showMore_shown (interval n : Nat) (c : Chip) (b : Bench) :
    Shown c b ((c.showMore interval n : StateM Bench _).run b) := by
  induction n generalizing c b with
  | zero => exact shown_self _
  | succ n ih =>
    let later : Bench := { b with source := b.source.pause interval }
    have hpause : (Host.pause interval : StateM Bench Unit).run b = ((), later) := rfl
    rw [Chip.showMore, run_bind_of hpause]
    have hshown := showTime_shown c later
    rcases htime : (c.showTime : StateM Bench _).run later with ⟨⟨result, c'⟩, b'⟩
    rw [htime] at hshown
    rw [run_bind_of htime]
    cases result with
    | error e => exact hshown.of_later
    | ok _ => exact hshown.of_later.trans (ih c' b')

theorem showTimes_shown (count interval : Nat) (c : Chip) (b : Bench) :
    Shown c b ((c.showTimes count interval : StateM Bench _).run b) := by
  cases count with
  | zero => exact shown_self _
  | succ n =>
    have hshown := showTime_shown c b
    rcases htime : (c.showTime : StateM Bench _).run b with ⟨⟨result, c'⟩, b'⟩
    rw [htime] at hshown
    rw [Chip.showTimes, run_bind_of htime]
    cases result with
    | error e => exact hshown
    | ok _ => exact hshown.trans (showMore_shown interval n c' b')

/-- **A command that looks at a chip leaves files and unsaved changes as they were.** -/
theorem perform_shown {command : Command} (h : command.Looks) (c : Chip) (b : Bench) :
    Shown c b ((command.perform c : StateM Bench _).run b) := by
  cases command with
  | dump => exact showAll_shown c b
  | watch count interval => exact showTimes_shown count interval c b
  | poke address vals => exact h.elim

/-- A poke is one burst of writes at the host's present time. -/
theorem run_poke (address : UInt8) (vals : List UInt8) (c : Chip) (b : Bench) :
    ((Command.poke address vals).perform c : StateM Bench _).run b
      = ((Chip.wire b.source.host).writeBurst address vals c, b) := rfl

/-- No command touches the files while it is carried out. -/
theorem files_perform (command : Command) (c : Chip) (b : Bench) :
    ((command.perform c : StateM Bench _).run b).2.files = b.files := by
  by_cases h : command.Looks
  · exact (perform_shown h c b).files_eq
  · cases command with
    | dump => exact absurd trivial h
    | watch count interval => exact absurd trivial h
    | poke address vals => rw [run_poke]

/-! ### Sessions -/

/-- Powering up only reads, and a chip that comes of it has nothing to save. -/
theorem run_powerUp (s : Settings) (b : Bench) :
    ∃ r, (Chip.powerUp (SaveDirectory.store s.savesDir) s.device : StateM Bench _).run b = (r, b)
      ∧ ∀ c, r = .ok c → c.hasUnsaved = false := by
  have hload : ((SaveDirectory.store s.savesDir).load s.device ramSize registerCount :
      StateM Bench _).run b = _ := run_load s.savesDir s.device ramSize registerCount b
  rw [Chip.powerUp, run_bind_of hload]
  rcases ((SaveDirectory.load s.savesDir s.device ramSize registerCount :
    StateM FileTree _).run b.files).1 with e | found
  · exact ⟨.error e, rfl, fun c hc => by cases hc⟩
  · refine ⟨_, rfl, fun c hc => ?_⟩
    cases hc
    exact Chip.hasUnsaved_ofContext s.device (Chip.adopted_fits found)

/-- Powering down leaves the files as they were if there is nothing to save, or saving is off. -/
theorem files_powerDown {saving : Bool} (h : c.hasUnsaved = false ∨ saving = false)
    (store : Store (StateM Bench)) (b : Bench) :
    ((c.powerDown store saving).run b).2.files = b.files := by
  cases saving with
  | false => rfl
  | true =>
    have hsaved := Chip.saveChanges_of_saved store (h.resolve_right (by simp)) b
    rw [run_powerDown_of_saveChanges hsaved]

/-- **A command leaves the files as they were if it only looks, or if saving is off.** -/
theorem files_carryOut {s : Settings} {command : Command}
    (h : command.Looks ∨ s.saveOnExit = false) (b : Bench) :
    ((Session.carryOut s command : StateM Bench _).run b).2.files = b.files := by
  obtain ⟨r, hopen, hfresh⟩ := run_powerUp s b
  cases r with
  | error e => rw [run_carryOut_of_unopened hopen]
  | ok c =>
    have hfiles := files_perform command c b
    have hunsaved : command.Looks → ((command.perform c : StateM Bench _).run b).1.2.hasUnsaved
        = c.hasUnsaved := fun hlooks => (perform_shown hlooks c b).hasUnsaved_eq
    rcases hperform : (command.perform c : StateM Bench _).run b with ⟨⟨result, c'⟩, b'⟩
    rw [hperform] at hfiles hunsaved
    cases result with
    | error e =>
      rw [run_carryOut_of_failed hopen hperform]
      exact hfiles
    | ok _ =>
      have hsaved := h.imp_left fun hlooks => (hunsaved hlooks).trans (hfresh c rfl)
      have hleft := files_powerDown hsaved (SaveDirectory.store s.savesDir) b'
      rcases hdown : (c'.powerDown (SaveDirectory.store s.savesDir) s.saveOnExit :
        StateM Bench _).run b' with ⟨saved, b''⟩
      rw [hdown] at hleft
      rw [run_carryOut_of_performed hopen hperform hdown]
      exact hleft.trans hfiles

/-- **A session that only looks leaves every file and directory as it was, and so does one that
pokes without saving**, however it ends and whatever the files are.  Saving is off by an option of
the command line, or by the settings file. -/
theorem files_session (words : List String) (b : Bench)
    (h : ∀ i address vals, Invocation.parse words = .ok i → i.command = .poke address vals →
      i.noSave = true
        ∨ ∀ s, ((Settings.load i.configFile : StateM FileTree _).run b.files).1 = .ok s →
          s.saveOnExit = false) :
    (b.session words).2.files = b.files := by
  rw [session, Session.run]
  rcases hparse : Invocation.parse words with e | i
  · rfl
  · have hsettings := run_settings i b
    dsimp only
    rw [run_bind_of hsettings]
    rcases hload : ((Settings.load i.configFile : StateM FileTree _).run b.files).1 with e | s
    · rfl
    · refine files_carryOut ?_ b
      cases hcommand : i.command with
      | dump => exact .inl trivial
      | watch count interval => exact .inl trivial
      | poke address vals =>
        right
        rcases h i address vals hparse hcommand with hoff | hoff
        · simp [Invocation.adjust, hoff]
        · simp [Invocation.adjust, hoff s hload]

/-- A poke next to a directory that has no save file yet.  Without saving it is carried out and
leaves the files as they were; with saving the same poke writes the save file. -/
theorem files_session_noSave :
    let b : Bench := ⟨.manual 0 0, ⟨[(["saves"], .directory)]⟩, []⟩
    let poke := ["poke", "0x10", "7"]
    (∀ i address vals, Invocation.parse ("--no-save" :: poke) = .ok i →
      i.command = .poke address vals → i.noSave = true
        ∨ ∀ s, ((Settings.load i.configFile : StateM FileTree _).run b.files).1 = .ok s →
          s.saveOnExit = false)
      ∧ (b.session ("--no-save" :: poke)).1.toOption = some false
      ∧ (b.session ("--no-save" :: poke)).2.files = b.files
      ∧ (b.session poke).1.toOption = some true
      ∧ (b.session poke).2.files ≠ b.files := by
  intro b poke
  have hparse : Invocation.parse ("--no-save" :: poke)
      = .ok ⟨"./pcf8583.toml", none, none, true, .poke 0x10 [7]⟩ := by rfl
  have hoff : ∀ i address vals, Invocation.parse ("--no-save" :: poke) = .ok i →
      i.command = .poke address vals → i.noSave = true
        ∨ ∀ s, ((Settings.load i.configFile : StateM FileTree _).run b.files).1 = .ok s →
          s.saveOnExit = false := by
    intro i address vals hi _
    rw [hparse] at hi
    cases hi
    exact .inl rfl
  have hdone : (b.session ("--no-save" :: poke)).1.toOption = some false := by decide +kernel
  have hsaved : (b.session poke).1.toOption = some true := by decide +kernel
  have hwritten : (b.session poke).2.files ≠ b.files := by decide +kernel
  exact ⟨hoff, hdone, files_session _ b hoff, hsaved, hwritten⟩

end Bench

end ClockChip
