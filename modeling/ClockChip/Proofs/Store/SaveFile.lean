import ClockChip.Proofs.Byte.Canonical
import ClockChip.Proofs.File.Tree
import ClockChip.Proofs.Program
import ClockChip.Store.Directory

/-!
# What a save file says

The bytes of a save file may be anything, since a file can be cut short, be left from another
program or have been written for a chip of another size.  What is loaded from a file depends on the
context that its bytes start with.  There is never more than one, and what follows it does not
matter: if it fits it is loaded, if not there is nothing usable, and a file that starts with no
context cannot be decoded.

The length of a list is written in eight bytes, so this is about lists that are short enough to be
counted in them, which all lists in a machine's memory are.

## Main definitions

* `Context.Counted`: the lengths in a context can be counted in eight bytes.

## Main results

* `Context.decode_eq_ok_iff`, `Context.decode_eq_error_iff`: what is decoded from bytes.
* `Context.decode_of_truncated`: no context is decoded from bytes that end within one.
* `SaveDirectory.load_iff_startsWith`: **what is loaded from a file of any bytes.**
-/

namespace ClockChip

open Decoder

variable {bs rest : List UInt8}

/-! ### Contexts at the front of bytes -/

namespace Context

variable {c : Context}

/-- The lengths of memory and registers can be counted in eight bytes. -/
structure Counted (c : Context) : Prop where
  ram : c.ram.length < countBound
  registers : c.registers.length < countBound

theorem reads (h : c.Counted) : Reads decoder c.encode c := by
  rw [encode, List.append_assoc]
  exact (reads_bytes h.ram).bind ((reads_bytes h.registers).bind ((reads_int64 c.offset).last _))

theorem takesOnly : TakesOnly decoder encode := by
  intro bs c rest h
  obtain ⟨ram, bs₁, hram, h⟩ := run_bind_eq_ok.mp h
  obtain ⟨registers, bs₂, hregisters, h⟩ := run_bind_eq_ok.mp h
  obtain ⟨offset, bs₃, hoffset, h⟩ := run_bind_eq_ok.mp h
  obtain ⟨rfl, rfl⟩ := run_pure_eq_ok.mp h
  rw [takesOnly_bytes hram, takesOnly_bytes hregisters, takesOnly_int64 hoffset]
  simp only [encode, List.append_assoc]

theorem counted_of_run (h : decoder.run bs = .ok (c, rest)) : c.Counted := by
  obtain ⟨ram, bs₁, hram, h⟩ := run_bind_eq_ok.mp h
  obtain ⟨registers, bs₂, hregisters, h⟩ := run_bind_eq_ok.mp h
  obtain ⟨offset, bs₃, hoffset, h⟩ := run_bind_eq_ok.mp h
  obtain ⟨rfl, -⟩ := run_pure_eq_ok.mp h
  exact ⟨length_lt_of_run_bytes hram, length_lt_of_run_bytes hregisters⟩

theorem failsAtEnd : decoder.FailsAtEnd :=
  failsAtEnd_bytes.bind fun _ => failsAtEnd_bytes.bind fun _ => failsAtEnd_int64.bind fun _ =>
    .pure _

/-- The context that is decoded is the one that the bytes start with. -/
theorem decode_eq_ok_iff : decoder.decode bs = .ok c ↔ c.Counted ∧ c.encode <+: bs := by
  constructor
  · intro h
    refine ⟨?_, takesOnly.encode_of_decode h⟩
    rw [decode] at h
    rcases hrun : decoder.run bs with e | ⟨a, rest⟩
    · rw [hrun] at h
      cases h
    · rw [hrun] at h
      cases h
      exact counted_of_run hrun
  · rintro ⟨hcounted, rest, rfl⟩
    exact (reads hcounted).decode rest

/-- Bytes start with one context at most. -/
theorem eq_of_encode_isPrefix {c' : Context} (h : c.Counted ∧ c.encode <+: bs)
    (h' : c'.Counted ∧ c'.encode <+: bs) : c = c' := by
  have hsame := (decode_eq_ok_iff.mpr h).symm.trans (decode_eq_ok_iff.mpr h')
  exact Except.ok.inj hsame

/-- Bytes that start with no context are too short for one. -/
theorem decode_eq_error_iff {e : DecodeError} :
    decoder.decode bs = .error e
      ↔ e = .endOfData ∧ ¬ ∃ c : Context, c.Counted ∧ c.encode <+: bs := by
  rcases hdecode : decoder.decode bs with e' | c
  · have hend : e' = .endOfData := by
      rw [decode] at hdecode
      rcases hrun : decoder.run bs with e'' | ⟨a, rest⟩
      · rw [hrun] at hdecode
        cases hdecode
        exact failsAtEnd bs _ hrun
      · rw [hrun] at hdecode
        cases hdecode
    constructor
    · intro h
      cases h
      refine ⟨hend, ?_⟩
      rintro ⟨c, hc⟩
      rw [decode_eq_ok_iff.mpr hc] at hdecode
      cases hdecode
    · rintro ⟨rfl, -⟩
      rw [hend]
  · constructor
    · intro h
      cases h
    · rintro ⟨-, hnone⟩
      exact absurd ⟨c, decode_eq_ok_iff.mp hdecode⟩ hnone

/-- Bytes that end within a context start with no other one. -/
theorem decode_of_truncated (h : c.Counted) (htruncated : bs <+: c.encode) (hne : bs ≠ c.encode) :
    decoder.decode bs = .error .endOfData := by
  refine decode_eq_error_iff.mpr ⟨rfl, ?_⟩
  rintro ⟨c', hcounted, hpre⟩
  have hsame : c' = c := eq_of_encode_isPrefix ⟨hcounted, hpre.trans htruncated⟩
    ⟨h, List.prefix_rfl⟩
  subst hsame
  exact hne (htruncated.eq_of_length_le hpre.length_le)

end Context

/-! ### Files -/

namespace SaveDirectory

/-- Loading only looks at the file of the device. -/
theorem run_load (t : FileTree) (dir device : String) (m n : Nat) :
    (load dir device m n : StateM FileTree _).run t =
      (match t.readFile (path dir device) with
        | .ok content => interpret (path dir device) m n content
        | .error (.opening .notFound) => .ok none
        | .error (.opening e) => .error (.cannotOpen (path dir device) e)
        | .error (.transfer e) => .error (.cannotTransfer e), t) := by
  rw [load, run_bind_of (FileTree.run_readFile t (path dir device))]
  rcases t.readFile (path dir device) with (e | e) | content
  · cases e <;> rfl
  · rfl
  · rfl

theorem interpret_of_ok {file : String} {content : List UInt8} {c : Context}
    (h : Context.decoder.decode content = .ok c) (m n : Nat) :
    interpret file m n content = .ok (if c.Fits m n then some c else none) := by
  rw [interpret, h, ← Context.fitting_some]

theorem interpret_of_error {file : String} {content : List UInt8} {e : DecodeError}
    (h : Context.decoder.decode content = .error e) (m n : Nat) :
    interpret file m n content = .error (.cannotDecode file e) := by
  rw [interpret, h]

section

variable {file : String} {content : List UInt8} {m n : Nat}

/-- The context in the bytes is given out if it fits. -/
theorem interpret_eq_some_iff {c : Context} :
    interpret file m n content = .ok (some c)
      ↔ (c.Counted ∧ c.encode <+: content) ∧ c.Fits m n := by
  rw [← Context.decode_eq_ok_iff]
  rcases hdecode : Context.decoder.decode content with e | c'
  · rw [interpret_of_error hdecode]
    simp
  · rw [interpret_of_ok hdecode]
    by_cases hfits : c'.Fits m n
    · rw [if_pos hfits]
      constructor
      · intro h
        cases h
        exact ⟨rfl, hfits⟩
      · rintro ⟨h, -⟩
        cases h
        rfl
    · rw [if_neg hfits]
      constructor
      · intro h
        cases h
      · rintro ⟨h, hfits'⟩
        cases h
        exact absurd hfits' hfits

/-- A context in the bytes that does not fit is nothing usable. -/
theorem interpret_eq_none_iff :
    interpret file m n content = .ok none
      ↔ ∃ c : Context, (c.Counted ∧ c.encode <+: content) ∧ ¬ c.Fits m n := by
  simp only [← Context.decode_eq_ok_iff]
  rcases hdecode : Context.decoder.decode content with e | c
  · rw [interpret_of_error hdecode]
    simp
  · rw [interpret_of_ok hdecode]
    by_cases hfits : c.Fits m n
    · rw [if_pos hfits]
      constructor
      · intro h
        cases h
      · rintro ⟨c', h, hfits'⟩
        cases h
        exact absurd hfits hfits'
    · rw [if_neg hfits]
      exact iff_of_true rfl ⟨c, rfl, hfits⟩

/-- Bytes that start with no context cannot be decoded. -/
theorem interpret_eq_error_iff :
    interpret file m n content = .error (.cannotDecode file .endOfData)
      ↔ ¬ ∃ c : Context, c.Counted ∧ c.encode <+: content := by
  rcases hdecode : Context.decoder.decode content with e | c
  · obtain ⟨rfl, hnone⟩ := Context.decode_eq_error_iff.mp hdecode
    rw [interpret_of_error hdecode]
    exact iff_of_true rfl hnone
  · have hstart := Context.decode_eq_ok_iff.mp hdecode
    rw [interpret_of_ok hdecode]
    exact iff_of_false (by simp) (not_not_intro ⟨c, hstart⟩)

end

/-- **What is loaded from a file of any bytes.**  A context is loaded exactly if the bytes start
with it and it fits the sizes that are wanted; nothing usable is found exactly if they start with
one that does not fit; and the file cannot be decoded exactly if they start with none, as whenever
they end within one.  A context starts with its memory and its registers, each behind its length in
eight bytes, and ends with its offset in eight bytes, the lowest byte of each number first. -/
theorem load_iff_startsWith (t : FileTree) (dir device : String) (m n : Nat) (d : List UInt8)
    (hfile : t.readFile (path dir device) = .ok d) :
    ∃ loaded, (load dir device m n : StateM FileTree _).run t = (loaded, t)
      ∧ (∀ c : Context, loaded = .ok (some c) ↔ (c.Counted ∧ c.encode <+: d) ∧ c.Fits m n)
      ∧ (loaded = .ok none ↔ ∃ c : Context, (c.Counted ∧ c.encode <+: d) ∧ ¬ c.Fits m n)
      ∧ (loaded = .error (.cannotDecode (path dir device) .endOfData)
          ↔ ¬ ∃ c : Context, c.Counted ∧ c.encode <+: d)
      ∧ (∀ c : Context, c.Counted → d <+: c.encode → d ≠ c.encode →
          loaded = .error (.cannotDecode (path dir device) .endOfData))
      ∧ ∀ c : Context, c.encode
          = littleEndian 8 c.ram.length ++ c.ram
            ++ (littleEndian 8 c.registers.length ++ c.registers)
            ++ littleEndian 8 c.offset.toUInt64.toNat := by
  refine ⟨interpret (path dir device) m n d, ?_, fun c => interpret_eq_some_iff,
    interpret_eq_none_iff, interpret_eq_error_iff, ?_, fun c => rfl⟩
  · rw [run_load, hfile]
  · intro c hcounted htruncated hne
    exact interpret_of_error (Context.decode_of_truncated hcounted htruncated hne) m n

/-- Of a file with one byte behind its context, and of the same file cut off in the offset, what is
loaded for a chip of the context's size and for a larger one. -/
theorem load_iff_startsWith_leftover :
    let c : Context := ⟨[0x5a], [1, 2], -3600⟩
    let t : FileTree := ⟨[(["saves"], .directory),
      (["saves", "rtc.rtc"], .file (c.encode ++ [0xff])),
      (["saves", "cut.rtc"], .file (c.encode.take 20))]⟩
    t.readFile (path "saves" "rtc") = .ok (c.encode ++ [0xff])
      ∧ t.readFile (path "saves" "cut") = .ok (c.encode.take 20)
      ∧ (load "saves" "rtc" 1 2 : StateM FileTree _).run t = (.ok (some c), t)
      ∧ (load "saves" "rtc" 8 2 : StateM FileTree _).run t = (.ok none, t)
      ∧ (load "saves" "cut" 1 2 : StateM FileTree _).run t
          = (.error (.cannotDecode (path "saves" "cut") .endOfData), t) := by
  intro c t
  have hwhole : t.readFile (path "saves" "rtc") = .ok (c.encode ++ [0xff]) := by rfl
  have hcut : t.readFile (path "saves" "cut") = .ok (c.encode.take 20) := by rfl
  have hcounted : c.Counted := ⟨by decide, by decide⟩
  have hstart : c.encode <+: c.encode ++ [0xff] := List.prefix_append _ _
  obtain ⟨small, hsmall, hsome, -⟩ := load_iff_startsWith t "saves" "rtc" 1 2 _ hwhole
  obtain ⟨large, hlarge, -, hnone, -⟩ := load_iff_startsWith t "saves" "rtc" 8 2 _ hwhole
  obtain ⟨cut, hload, -, -, -, hshort, -⟩ := load_iff_startsWith t "saves" "cut" 1 2 _ hcut
  rw [hsmall, hlarge, hload, (hsome c).mpr ⟨⟨hcounted, hstart⟩, by decide⟩,
    hnone.mpr ⟨c, ⟨hcounted, hstart⟩, by decide⟩,
    hshort c hcounted (List.take_prefix 20 _) (by decide)]
  exact ⟨hwhole, hcut, rfl, rfl, rfl⟩

end SaveDirectory

end ClockChip
