import SoundEffect.Proofs.Program.Editing
import SoundEffect.Store

namespace SoundEffect

namespace Edit

theorem run_error {edit : Edit} {program left : Program} {fault : Error}
    (h : edit.run.run.run program = (.error fault, left)) : left = program := by
  cases applied : edit.applied program with
  | ok edited =>
      obtain ⟨answer, ran⟩ := run_of_ok applied
      rw [ran] at h
      cases h
  | error refused =>
      rw [run_of_error applied] at h
      exact (Prod.mk.inj h).2.symm

end Edit

namespace Store

variable {store next : Store} {edit : Edit}

theorem revision_edit_ok {answer : Option Segment}
    (h : store.edit edit.run = (.ok answer, next)) : next.revision = store.revision + 1 := by
  simp only [Store.edit] at h
  split at h <;> simp at h
  rw [← h.2]

theorem edit_error {fault : Error} (h : store.edit edit.run = (.error fault, next)) :
    next = store := by
  simp only [Store.edit] at h
  split at h <;> simp at h
  rename_i run
  rw [← h.2, Edit.run_error run]

end Store

end SoundEffect
