/-
  Wiring.Proofs.Publication.Calls

  Calls that are made one after the other on a place for artifacts. A call starts from what the
  calls before it have left, whether these succeeded or not; artifacts that are published in a row
  come to an end at the first failure.
-/

import Wiring.Publication.Shelf

namespace Wiring

variable {σ κ : Type}

/-- The place after some calls, whether they succeed or not. -/
def afterCalls (call : σ → κ → Outcome σ Unit) (s : σ) (calls : List κ) : σ :=
  calls.foldl (fun s c => (call s c).1) s

/-- The calls that succeed, in the order in which they are made. -/
def succeeding (call : σ → κ → Outcome σ Unit) (s : σ) : List κ → List κ
  | [] => []
  | c :: rest =>
    match call s c with
    | (next, .ok ()) => c :: succeeding call next rest
    | (next, .error _) => succeeding call next rest

variable {call : σ → κ → Outcome σ Unit} {s t : σ} {c : κ}

theorem afterCalls_cons (rest : List κ) :
    afterCalls call s (c :: rest) = afterCalls call (call s c).1 rest := rfl

theorem succeeding_cons_ok (h : call s c = (t, .ok ())) (rest : List κ) :
    succeeding call s (c :: rest) = c :: succeeding call t rest := by
  rw [succeeding, h]

theorem succeeding_cons_error {failure : Failure} (h : call s c = (t, .error failure))
    (rest : List κ) : succeeding call s (c :: rest) = succeeding call t rest := by
  rw [succeeding, h]

/-- Artifacts that are published in a row with success are followed by the next. -/
theorem publishAll_append {publish : σ → Artifact → Outcome σ Unit} {before after : List Artifact}
    (h : publishAll publish s before = (t, .ok ())) :
    publishAll publish s (before ++ after) = publishAll publish t after := by
  induction before generalizing s with
  | nil =>
      cases h
      rfl
  | cons a rest ih =>
      rw [publishAll] at h
      rw [List.cons_append, publishAll]
      split at h
      · exact ih h
      · cases h

end Wiring
