import Mathlib.Data.List.Basic
import Mathlib.Data.Nat.Notation

/-!
# Packet filters

A classic packet filter is a list of instructions with one accumulator and with jumps forward
only. It says how many bytes of a packet are kept, none when the packet is dropped. There is one
rule for every instruction, by which a program is run on a packet that is not known.
-/

namespace PacketFilter

/-- An instruction: its code, how many instructions are skipped when its test holds and when it
does not, and its operand. -/
structure Instruction where
  code : UInt16
  jt : UInt8
  jf : UInt8
  k : UInt32
  deriving DecidableEq, Repr

/-! ## The parts of a code -/

/-- Loads the accumulator. -/
def BPF_LD : UInt16 := 0x00
/-- Two bytes. -/
def BPF_H : UInt16 := 0x08
/-- One byte. -/
def BPF_B : UInt16 := 0x10
/-- At an offset of the packet. -/
def BPF_ABS : UInt16 := 0x20
/-- Computes with the accumulator. -/
def BPF_ALU : UInt16 := 0x04
/-- Bitwise and. -/
def BPF_AND : UInt16 := 0x50
/-- Jumps. -/
def BPF_JMP : UInt16 := 0x05
/-- When the accumulator is greater. -/
def BPF_JGT : UInt16 := 0x20
/-- When the accumulator is equal. -/
def BPF_JEQ : UInt16 := 0x10
/-- Returns. -/
def BPF_RET : UInt16 := 0x06
/-- The operand is a constant. -/
def BPF_K : UInt16 := 0x00

/-! ## Running -/

/-- What an instruction does: it returns, or it goes on with an accumulator behind so many
instructions. -/
inductive Outcome
  | done (kept : ℕ)
  | next (accumulator : UInt32) (skip : ℕ)
  deriving DecidableEq, Repr

/-- Goes on when the bytes that are loaded are there, and drops the packet otherwise. -/
def load (value : Option UInt32) : Outcome :=
  match value with
  | some a => .next a 0
  | none => .done 0

/-- The byte at an offset. -/
def byteAt? (packet : List UInt8) (offset : ℕ) : Option UInt32 :=
  packet[offset]?.map UInt8.toUInt32

/-- The two bytes at an offset, in network order. -/
def halfAt? (packet : List UInt8) (offset : ℕ) : Option UInt32 :=
  match packet[offset]?, packet[offset + 1]? with
  | some hi, some lo => some (UInt32.ofNat (hi.toNat * 256 + lo.toNat))
  | _, _ => none

/-- Executes an instruction, when it is one of those that are known. -/
def exec (packet : List UInt8) (a : UInt32) (i : Instruction) : Option Outcome :=
  if i.code = BPF_LD ||| BPF_H ||| BPF_ABS then some (load (halfAt? packet i.k.toNat))
  else if i.code = BPF_LD ||| BPF_B ||| BPF_ABS then some (load (byteAt? packet i.k.toNat))
  else if i.code = BPF_ALU ||| BPF_AND ||| BPF_K then some (.next (a &&& i.k) 0)
  else if i.code = BPF_JMP ||| BPF_JGT ||| BPF_K then
    some (.next a (if i.k < a then i.jt.toNat else i.jf.toNat))
  else if i.code = BPF_JMP ||| BPF_JEQ ||| BPF_K then
    some (.next a (if a = i.k then i.jt.toNat else i.jf.toNat))
  else if i.code = BPF_RET ||| BPF_K then some (.done i.k.toNat)
  else none

/-- Runs a program behind instructions that are skipped. There is no result when the program is
left or has an unknown instruction. -/
def run (packet : List UInt8) : List Instruction → ℕ → UInt32 → Option ℕ
  | [], _, _ => none
  | _ :: rest, skip + 1, a => run packet rest skip a
  | i :: rest, 0, a =>
      match exec packet a i with
      | some (.done kept) => some kept
      | some (.next b skip) => run packet rest skip b
      | none => none

/-! ## One instruction at a time -/

section Rules

variable (packet : List UInt8) (rest : List Instruction) (a k : UInt32) (jt jf : UInt8)

/-- An instruction that is not skipped is executed. -/
theorem run_cons (i : Instruction) : run packet (i :: rest) 0 a =
    match exec packet a i with
    | some (.done kept) => some kept
    | some (.next b skip) => run packet rest skip b
    | none => none := rfl

/-- Two bytes are loaded when they are there. -/
theorem run_loadHalf {b : UInt32} (h : halfAt? packet k.toNat = some b) :
    run packet (⟨BPF_LD ||| BPF_H ||| BPF_ABS, jt, jf, k⟩ :: rest) 0 a = run packet rest 0 b := by
  rw [run_cons]
  unfold exec
  dsimp only
  rw [if_pos rfl, h]
  rfl

/-- A byte is loaded when it is there. -/
theorem run_loadByte {b : UInt32} (h : byteAt? packet k.toNat = some b) :
    run packet (⟨BPF_LD ||| BPF_B ||| BPF_ABS, jt, jf, k⟩ :: rest) 0 a = run packet rest 0 b := by
  rw [run_cons]
  unfold exec
  dsimp only
  rw [if_neg (by decide), if_pos rfl, h]
  rfl

/-- The packet is dropped when the bytes are not there. -/
theorem run_loadHalf_none (h : halfAt? packet k.toNat = none) :
    run packet (⟨BPF_LD ||| BPF_H ||| BPF_ABS, jt, jf, k⟩ :: rest) 0 a = some 0 := by
  rw [run_cons]
  unfold exec
  dsimp only
  rw [if_pos rfl, h]
  rfl

/-- The packet is dropped when the byte is not there. -/
theorem run_loadByte_none (h : byteAt? packet k.toNat = none) :
    run packet (⟨BPF_LD ||| BPF_B ||| BPF_ABS, jt, jf, k⟩ :: rest) 0 a = some 0 := by
  rw [run_cons]
  unfold exec
  dsimp only
  rw [if_neg (by decide), if_pos rfl, h]
  rfl

/-- The accumulator is masked. -/
theorem run_and : run packet (⟨BPF_ALU ||| BPF_AND ||| BPF_K, jt, jf, k⟩ :: rest) 0 a =
    run packet rest 0 (a &&& k) := by
  rw [run_cons]
  unfold exec
  dsimp only
  rw [if_neg (by decide), if_neg (by decide), if_pos rfl]

/-- A jump on a greater accumulator. -/
theorem run_jgt : run packet (⟨BPF_JMP ||| BPF_JGT ||| BPF_K, jt, jf, k⟩ :: rest) 0 a =
    run packet rest (if k < a then jt.toNat else jf.toNat) a := by
  rw [run_cons]
  unfold exec
  dsimp only
  rw [if_neg (by decide), if_neg (by decide), if_neg (by decide), if_pos rfl]

/-- A jump on an equal accumulator. -/
theorem run_jeq : run packet (⟨BPF_JMP ||| BPF_JEQ ||| BPF_K, jt, jf, k⟩ :: rest) 0 a =
    run packet rest (if a = k then jt.toNat else jf.toNat) a := by
  rw [run_cons]
  unfold exec
  dsimp only
  rw [if_neg (by decide), if_neg (by decide), if_neg (by decide), if_neg (by decide), if_pos rfl]

end Rules

end PacketFilter
