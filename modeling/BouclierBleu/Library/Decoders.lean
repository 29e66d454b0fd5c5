/- GID: BouclierBleu/Library/Decoders
   source: none (general)
   digest: Fallible stateful readers and the relation between what they consume and return. -/

import Mathlib.Data.List.Basic
import Mathlib.Tactic.Common

set_option autoImplicit false
set_option relaxedAutoImplicit false

namespace BouclierBleu.Library.Decoders

universe u v w

variable {R : Type u} {E : Type v} {B : Type w} {A C : Type u}

/-- `p` returns `a` after consuming exactly `chunk`, wherever `remaining` input starts with
it. -/
def Reads (remaining : R → List B) (p : StateT R (Except E) A) (chunk : List B) (a : A) : Prop :=
  ∀ r rest, remaining r = chunk ++ rest → ∃ r', p.run r = .ok (a, r') ∧ remaining r' = rest

variable {remaining : R → List B} {p : StateT R (Except E) A} {chunk more : List B} {a : A}

theorem Reads.pure (a : A) :
    Reads remaining (Pure.pure a : StateT R (Except E) A) [] a := by
  intro r rest shape
  exact ⟨r, rfl, shape⟩

theorem Reads.bind {f : A → StateT R (Except E) C} {c : C} (first : Reads remaining p chunk a)
    (second : Reads remaining (f a) more c) : Reads remaining (p >>= f) (chunk ++ more) c := by
  intro r rest shape
  rw [List.append_assoc] at shape
  obtain ⟨r₁, read, left⟩ := first r (more ++ rest) shape
  obtain ⟨r₂, done, final⟩ := second r₁ rest left
  refine ⟨r₂, ?_, final⟩
  rw [StateT.run_bind, read]
  exact done

/-- The last read of a chain. -/
theorem Reads.bind_pure {f : A → C} (only : Reads remaining p chunk a) :
    Reads remaining (p >>= fun x => Pure.pure (f x)) chunk (f a) := by
  intro r rest shape
  obtain ⟨r₁, read, left⟩ := only r rest shape
  refine ⟨r₁, ?_, left⟩
  rw [StateT.run_bind, read]
  rfl

/-- Run on an input that starts with what it consumes, the reader returns its value. -/
theorem Reads.run' {rest : List B} (reads : Reads remaining p chunk a) {r : R}
    (shape : remaining r = chunk ++ rest) : p.run' r = .ok a := by
  obtain ⟨r', done, _⟩ := reads r rest shape
  change (fun x => x.1) <$> p.run r = .ok a
  rw [done]
  rfl

end BouclierBleu.Library.Decoders
