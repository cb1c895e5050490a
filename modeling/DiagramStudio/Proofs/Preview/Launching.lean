import DiagramStudio.Preview.Process
import DiagramStudio.Proofs.Files.Growth

/-!
Jobs that are done by programs, whatever starts these. A job that could not be begun leaves the file system as it
was. Of one that was, nothing is left of the directory that held its files, and everything else is as the program
left it (`ofStarter_leaves`).
-/

namespace DiagramStudio

namespace Disk

variable {d : Disk}

theorem numberAt?_remove {place : Place} (notRoot : place ≠ []) (other : Place) :
    (d.remove place).numberAt? other = if place.isPrefixOf other then none else d.numberAt? other := by
  rw [remove, numberAt?_stamp]
  unfold numberAt?
  by_cases inside : place.isPrefixOf other = true
  · have some_ : other ≠ [] := by
      rintro rfl
      cases place with
      | nil => exact notRoot rfl
      | cons => cases inside
    rw [if_pos inside, if_neg some_]
    refine entryFor?_eq_none fun e member => ?_
    rintro rfl
    simp [inside] at member
  · rw [if_neg inside]
    split
    · rfl
    · exact entryFor?_filter (fun other => !place.isPrefixOf other) (by rw [Bool.eq_false_iff.mpr inside]; rfl) d.places

/-- Nothing is left at a place or below it, and everything else is as it was. -/
theorem at?_remove {place : Place} (notRoot : place ≠ []) (other : Place) :
    (d.remove place).at? other = if place.isPrefixOf other then none else d.at? other := by
  have number := numberAt?_remove (d := d) notRoot other
  rw [remove, numberAt?_stamp] at number
  rw [remove, at?_stamp, at?, nodeAt?, number]
  split <;> rfl

end Disk

namespace Launcher

/-- What is left of a job that a program was to do. -/
inductive Left (start : Starter) (job : Job) (disk : Disk) : Except LaunchFault Ending × Disk → Prop where
  /-- It could not be begun, or its program could not be started, and nothing has changed. -/
  | nothing {fault : LaunchFault} : Left start job disk (.error fault, disk)
  /-- The program has ended. Nothing is left of the directory of the job, and everything else is as the program left
      it. -/
  | ended {prepared after cleared : Disk} {status : Nat} {complaint : List UInt8}
    (begun : prepare disk job = .ok prepared)
    (ran : start job.command (job.words scratchPath) prepared = .ok (status, complaint, after))
    (gone : ∀ place, scratch.isPrefixOf place = true → cleared.at? place = none)
    (kept : ∀ place, scratch.isPrefixOf place = false → cleared.at? place = after.at? place) :
    Left start job disk (.ok ⟨status == 0, complaint, after.read (Job.outputPath scratchPath).toList⟩, cleared)

theorem ofStarter_leaves (start : Starter) (job : Job) (disk : Disk) :
    Left start job disk (ofStarter start job disk) := by
  rw [ofStarter]
  split
  · exact .nothing
  next prepared begun =>
  split
  · exact .nothing
  next status complaint after ran =>
  have notRoot : scratch ≠ [] := List.cons_ne_nil _ _
  have cleared := Disk.at?_remove (d := after) notRoot
  refine .ended begun ran (fun place inside => ?_) (fun place outside => ?_)
  · rw [cleared, if_pos inside]
  · rw [cleared, if_neg (by rw [outside]; exact Bool.false_ne_true)]

end Launcher

end DiagramStudio
