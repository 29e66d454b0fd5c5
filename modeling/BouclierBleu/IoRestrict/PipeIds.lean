/- GID: BouclierBleu/IoRestrict/PipeIds
   source: bpf/io_restrict.bpf.c
   digest: The identifier of a pipe keeps all of its address XOR its inode number, and no more. -/

import BouclierBleu.IoRestrict.Pipes
import BouclierBleu.Library.WordMixers

set_option autoImplicit false
set_option relaxedAutoImplicit false

namespace BouclierBleu.IoRestrict.PipeIds

open BouclierBleu.IoRestrict.Hooks (generateOpaquePipeId)
open BouclierBleu.IoRestrict.Pipes
open BouclierBleu.Library.Trace (Reachable)
open BouclierBleu.Library.WordMixers

section Mixer

/-- The rounds of `generate_opaque_pipe_id` behind its XOR. -/
def finalizer : List (Round 64) := [
  .xorShift 33 (by decide), .multiply 0xff51afd7ed558ccd (by decide),
  .xorShift 33 (by decide), .multiply 0xc4ceb9fe1a85ec53 (by decide),
  .xorShift 33 (by decide)]

theorem generateOpaquePipeId_toBitVec (pipePtr ino : UInt64) :
    (generateOpaquePipeId pipePtr ino).toBitVec = mix finalizer (pipePtr ^^^ ino).toBitVec := rfl

/-- The rounds keep different words apart, so what two identifiers share is the XOR. -/
theorem sameId_iff (p i q j : UInt64) :
    generateOpaquePipeId p i = generateOpaquePipeId q j ↔ p ^^^ i = q ^^^ j := by
  rw [← UInt64.toBitVec_inj, generateOpaquePipeId_toBitVec, generateOpaquePipeId_toBitVec,
    (mix_injective finalizer).eq_iff, UInt64.toBitVec_inj]

theorem sameInode_injective (i : UInt64) :
    Function.Injective fun p => generateOpaquePipeId p i := fun p q same =>
  (UInt64.xor_left_inj i).mp ((sameId_iff p i q i).mp same)

theorem sameAddress_injective (p : UInt64) : Function.Injective (generateOpaquePipeId p) :=
  fun i j same => (UInt64.xor_right_inj p).mp ((sameId_iff p i p j).mp same)

/-- Every word is the identifier of one inode number at an address. -/
theorem sameAddress_bijective (p : UInt64) : Function.Bijective (generateOpaquePipeId p) := by
  refine ⟨sameAddress_injective p, fun id => ?_⟩
  obtain ⟨x, mixed⟩ := (mix_bijective finalizer).2 id.toBitVec
  refine ⟨p ^^^ UInt64.ofBitVec x, ?_⟩
  rw [← UInt64.toBitVec_inj, generateOpaquePipeId_toBitVec, ← UInt64.xor_assoc, UInt64.xor_self,
    UInt64.zero_xor]
  exact mixed

end Mixer

section Pipes

variable {s : State} {p q : Nat} {pipe other : Pipe}

theorem pipe_id_eq_iff :
    pipe.id = other.id ↔
      pipe.addr ^^^ pipe.inode.iIno = other.addr ^^^ other.inode.iIno :=
  sameId_iff _ _ _ _

/-- Live pipes share an entry of `pipe_taint_map` only if their inode numbers differ as well as
their addresses. -/
theorem live_ids_apart (reached : Reachable Step Initial s) (live : s.pipes p = some pipe)
    (liveOther : s.pipes q = some other) (distinct : p ≠ q) (shared : pipe.id = other.id) :
    pipe.addr ≠ other.addr ∧ pipe.inode.iIno ≠ other.inode.iIno := by
  have addresses : pipe.addr ≠ other.addr := fun same =>
    distinct ((WellFormed.of_reachable reached).apart p q pipe other live liveOther same)
  refine ⟨addresses, fun same => addresses ?_⟩
  rw [pipe_id_eq_iff, same] at shared
  exact (UInt64.xor_left_inj other.inode.iIno).mp shared

end Pipes

/-- Two identifiers are the same exactly if the XORs are; at one address they tell the inode
numbers apart, and for one inode number the addresses. -/
theorem generateOpaquePipeId_lossless :
    (∀ p i q j : UInt64,
      generateOpaquePipeId p i = generateOpaquePipeId q j ↔ p ^^^ i = q ^^^ j) ∧
      (∀ p : UInt64, Function.Injective (generateOpaquePipeId p)) ∧
      ∀ i : UInt64, Function.Injective fun p => generateOpaquePipeId p i :=
  ⟨sameId_iff, sameAddress_injective, sameInode_injective⟩

example : generateOpaquePipeId 0 1 = 0xb456bcfc34c2cb2c := by decide

end BouclierBleu.IoRestrict.PipeIds
