/-
  Wiring.Proofs.Publication.Folder

  Publishing into a folder whose files may fail to be written. A folder is told apart from the file
  system here: all that is known of a write is whether it succeeds, and any write may fail. The name
  of an artifact is used up by the first call, whatever comes of the write. So a folder refuses a
  name that it has never published if the first write under the name has failed, and only then.
-/

import Wiring.Proofs.Listing.Distinct
import Wiring.Proofs.Publication.Calls
import Wiring.Publication.Folder

namespace Wiring

namespace Folder

/-- A call to publish an artifact, and whether its file can be written if it comes to that. -/
structure Attempt where
  artifact : Artifact
  canWrite : Bool
deriving DecidableEq

/-- The name under which an artifact is to be published. -/
def Attempt.name (c : Attempt) : String := c.artifact.name

/-- What comes of writing the file of an artifact. -/
def written (f : Folder) (c : Attempt) : Except Failure Unit :=
  if c.canWrite then .ok () else .error (.unwritable (f.pathOf c.name))

/-- Publishes an artifact into a folder of which only the used names are kept track of. -/
def attempt (f : Folder) (c : Attempt) : Outcome Folder Unit :=
  let published := f.publishWith c.name () ((), f.written c)
  (published.1.2, published.2)

/-- Publishing a file is an attempt that succeeds if the file can be written. -/
theorem attempt_eq_publishInto (t : FileTree) (f : Folder) (a : Artifact) :
    f.attempt ⟨a, (t.write (f.pathOf a.name) a.contents).isSome⟩ =
      ((t.publishInto f a).1.2, (t.publishInto f a).2) := by
  unfold attempt FileTree.publishInto publishWith written Attempt.name FileTree.save
  cases t.write (f.pathOf a.name) a.contents <;> dsimp only <;> split <;> rfl

variable {f : Folder} {c : Attempt} {name : String}

/-! ## One call -/

/-- A name that is used up is refused. -/
theorem attempt_of_mem (h : c.name ∈ f.used) :
    f.attempt c = (f, .error (.duplicateArtifact c.name)) := by
  unfold attempt publishWith
  rw [if_pos (List.contains_iff_mem.mpr h)]

/-- Any other name is used up, and the answer is what comes of the write. -/
theorem attempt_of_not_mem (h : c.name ∉ f.used) :
    f.attempt c = ({ f with used := c.name :: f.used }, f.written c) := by
  unfold attempt publishWith
  rw [if_neg (mt List.contains_iff_mem.mp h)]

theorem written_ne_duplicate : f.written c ≠ .error (.duplicateArtifact name) := by
  unfold written
  split <;> simp

theorem attempt_refuses_iff :
    (f.attempt c).2 = .error (.duplicateArtifact c.name) ↔ c.name ∈ f.used := by
  by_cases hused : c.name ∈ f.used
  · rw [attempt_of_mem hused]
    exact iff_of_true rfl hused
  · rw [attempt_of_not_mem hused]
    exact iff_of_false written_ne_duplicate hused

theorem mem_used_attempt_iff :
    name ∈ (f.attempt c).1.used ↔ name = c.name ∨ name ∈ f.used := by
  by_cases hused : c.name ∈ f.used
  · rw [attempt_of_mem hused]
    exact ⟨.inr, fun h => h.elim (fun heq => heq ▸ hused) id⟩
  · rw [attempt_of_not_mem hused, List.mem_cons]

/-- A write that fails is carried out for a name that is not used up. -/
theorem attempt_eq_unwritable {path : String} (h : (f.attempt c).2 = .error (.unwritable path)) :
    c.name ∉ f.used ∧ c.canWrite = false := by
  by_cases hused : c.name ∈ f.used
  · rw [attempt_of_mem hused] at h
    cases h
  · rw [attempt_of_not_mem hused, written] at h
    split at h
    · cases h
    · rename_i hfails
      exact ⟨hused, Bool.eq_false_iff.mpr hfails⟩

/-! ## Calls one by one -/

/-- A name is used up by any call, whatever comes of it. -/
theorem mem_used_afterCalls_iff (f : Folder) (calls : List Attempt) :
    name ∈ (afterCalls attempt f calls).used ↔ (∃ c ∈ calls, c.name = name) ∨ name ∈ f.used := by
  induction calls generalizing f with
  | nil => simp [afterCalls]
  | cons c rest ih =>
      rw [afterCalls_cons, ih, mem_used_attempt_iff, List.exists_mem_cons_iff, or_left_comm,
        ← or_assoc, eq_comm]

/-- The calls that succeed are those that are the first of their names and can be written. -/
theorem succeeding_attempt (f : Folder) (calls : List Attempt) :
    succeeding attempt f calls =
      (List.distinctOnFrom Attempt.name f.used calls).filter (·.canWrite) := by
  induction calls generalizing f with
  | nil => rfl
  | cons c rest ih =>
      rw [List.distinctOnFrom]
      by_cases hused : c.name ∈ f.used
      · rw [succeeding_cons_error (attempt_of_mem hused), ih,
          if_pos (List.contains_iff_mem.mpr hused)]
      · rw [if_neg (mt List.contains_iff_mem.mp hused), List.filter_cons]
        have hcall := attempt_of_not_mem hused
        rw [written] at hcall
        split
        · rename_i hwrites
          rw [if_pos hwrites] at hcall
          rw [succeeding_cons_ok hcall, ih]
        · rename_i hfails
          rw [if_neg hfails] at hcall
          rw [succeeding_cons_error hcall, ih]

/-- What a caller who may have to try again relies on: a name is refused only if an artifact of the
    name has been published, and a write that fails leaves the names as they are. -/
structure AllowsRetry (f : Folder) (published : List Attempt) (c : Attempt) : Prop where
  refused : (f.attempt c).2 = .error (.duplicateArtifact c.name) →
    ∃ b ∈ published, b.name = c.name
  kept : ∀ path, (f.attempt c).2 = .error (.unwritable path) →
    ∀ name, name ∈ (f.attempt c).1.used ↔ name ∈ f.used

/-- A call can be made again if its name is used up by an artifact only, and if its write succeeds
    where it is carried out. -/
theorem allowsRetry_iff {published : List Attempt} :
    f.AllowsRetry published c ↔
      (c.name ∈ f.used → ∃ b ∈ published, b.name = c.name) ∧
        (c.name ∉ f.used → c.canWrite = true) := by
  refine ⟨fun h => ⟨fun hused => h.refused (attempt_refuses_iff.mpr hused), fun hnew => ?_⟩,
    fun ⟨hpublished, hwrites⟩ => ⟨fun h => hpublished (attempt_refuses_iff.mp h), ?_⟩⟩
  · -- A write that fails uses up the name
    by_contra hfails
    have hfailed : (f.attempt c).2 = .error (.unwritable (f.pathOf c.name)) := by
      rw [attempt_of_not_mem hnew]
      exact if_neg hfails
    exact hnew ((h.kept _ hfailed c.name).mp (mem_used_attempt_iff.mpr (.inl rfl)))
  · intro path hfailed
    obtain ⟨hnew, hfails⟩ := attempt_eq_unwritable hfailed
    rw [hwrites hnew] at hfails
    cases hfails

/-- The first call of a name is one that no call before it shares the name with. -/
theorem mem_distinctOn_name_iff {calls : List Attempt} :
    c ∈ calls.distinctOn Attempt.name ↔
      ∃ before after, calls = before ++ c :: after ∧ ∀ b ∈ before, b.name ≠ c.name := by
  rw [List.mem_distinctOn_iff, List.find?_eq_some_iff_append]
  simp

/-- Where a call comes first of its name, it does so if more calls follow. -/
theorem mem_distinctOn_name_append {before after : List Attempt}
    (h : c ∈ before.distinctOn Attempt.name) : c ∈ (before ++ after).distinctOn Attempt.name := by
  obtain ⟨earlier, later, rfl, hnone⟩ := mem_distinctOn_name_iff.mp h
  exact mem_distinctOn_name_iff.mpr ⟨earlier, later ++ after, by simp, hnone⟩

end Folder

open Folder

/-- A folder refuses the names of all calls made before, whatever came of them. So calls can be made
    again after a failure exactly if there is none: if every write succeeds that is carried out,
    which is the first one of each name. -/
theorem folder_allows_retry_iff (root : String) (calls : List Attempt) :
    (∀ before c after, calls = before ++ c :: after →
      (((afterCalls attempt { root } before).attempt c).2 = .error (.duplicateArtifact c.name) ↔
        ∃ b ∈ before, b.name = c.name)) ∧
    ((∀ before c after, calls = before ++ c :: after →
        (afterCalls attempt { root } before).AllowsRetry
          (succeeding attempt { root } before) c) ↔
      ∀ c ∈ calls.distinctOn Attempt.name, c.canWrite = true) := by
  have hused : ∀ before name, name ∈ (afterCalls attempt { root } before).used ↔
      ∃ b ∈ before, b.name = name := by
    intro before name
    rw [mem_used_afterCalls_iff]
    exact or_iff_left List.not_mem_nil
  refine ⟨fun before c _ _ => attempt_refuses_iff.trans (hused before c.name), ?_⟩
  simp only [allowsRetry_iff, hused, succeeding_attempt]
  refine ⟨fun hallows c hc => ?_, ?_⟩
  · obtain ⟨before, after, hsplit, hfirst⟩ := mem_distinctOn_name_iff.mp hc
    exact (hallows before c after hsplit).2 fun ⟨b, hb, hname⟩ => hfirst b hb hname
  · rintro hwrites before c after rfl
    refine ⟨fun ⟨b, hb, hname⟩ => ?_, fun hnew => ?_⟩
    · -- The first call of the name was carried out, so it has succeeded
      obtain ⟨e, he, hsame⟩ := List.exists_mem_distinctOn Attempt.name hb
      have hwritten := hwrites e (mem_distinctOn_name_append he)
      exact ⟨e, List.mem_filter.mpr ⟨he, hwritten⟩, hsame.trans hname⟩
    · exact hwrites c (mem_distinctOn_name_iff.mpr
        ⟨before, after, rfl, fun b hb hname => hnew ⟨b, hb, hname⟩⟩)

/-- A note for a folder inside of the one that is published into. -/
def note : Artifact := ⟨.bootstrap, "no/dir.txt", "x"⟩

/-- If the first write succeeds then the calls are answered as a caller relies on. -/
theorem note_allows_retry :
    (∀ c ∈ [Attempt.mk note true, ⟨note, false⟩].distinctOn Attempt.name, c.canWrite = true) ∧
      (afterCalls attempt { root := "out" } [⟨note, true⟩]).AllowsRetry
        (succeeding attempt { root := "out" } [⟨note, true⟩]) ⟨note, false⟩ := by
  have hwrites : ∀ c ∈ [Attempt.mk note true, ⟨note, false⟩].distinctOn Attempt.name,
      c.canWrite = true := by decide
  have hallows := (folder_allows_retry_iff "out" [⟨note, true⟩, ⟨note, false⟩]).2.mpr hwrites
  exact ⟨hwrites, hallows [⟨note, true⟩] ⟨note, false⟩ [] rfl⟩

/-- If the first write fails then the second call is refused, although nothing has been published.
    So it is where the folder of the note is missing at first: once that has been made, the note can
    be published into another folder of the same path, but not into this one. -/
theorem note_refused_after_failure :
    (¬ ∀ before c after, [Attempt.mk note false, ⟨note, true⟩] = before ++ c :: after →
        (afterCalls attempt { root := "out" } before).AllowsRetry
          (succeeding attempt { root := "out" } before) c) ∧
      let missing : FileTree := { folders := [["out"]] }
      let made : FileTree := { folders := [["out"], ["out", "no"]] }
      let first := missing.publishInto { root := "out" } note
      first.2 = .error (.unwritable "out/no/dir.txt") ∧
        (made.publishInto { root := "out" } note).2 = .ok () ∧
        (made.publishInto first.1.2 note).2 = .error (.duplicateArtifact "no/dir.txt") := by
  refine ⟨fun hallows => ?_, by decide, by decide, by decide⟩
  have hnone : succeeding attempt { root := "out" } [⟨note, false⟩] = [] := by decide
  obtain ⟨b, hb, -⟩ := (hallows [⟨note, false⟩] ⟨note, true⟩ [] rfl).refused (by decide)
  rw [hnone] at hb
  cases hb

end Wiring
