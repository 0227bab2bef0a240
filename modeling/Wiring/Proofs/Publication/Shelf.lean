/-
  Wiring.Proofs.Publication.Shelf

  What is on a shelf. An artifact is put there if its name is not taken and refused otherwise, so
  after any calls a shelf holds the first artifact of each name. Of artifacts that are published in
  a row those are put there that come before the first whose name is taken.
-/

import Wiring.Proofs.Listing.Distinct
import Wiring.Proofs.Listing.Sorted
import Wiring.Proofs.Publication.Calls
import Wiring.Publication.Site
import Mathlib.Data.List.Induction

namespace List

variable {α : Type}

/-- What holds of no elements holds of a whole list, or up to an element with which it fails. -/
theorem holds_or_exists_first {P : List α → Prop} (hnil : P []) (xs : List α) :
    P xs ∨ ∃ before x after, xs = before ++ x :: after ∧ P before ∧ ¬ P (before ++ [x]) := by
  induction xs using List.reverseRecOn with
  | nil => exact .inl hnil
  | append_singleton xs x ih =>
      rcases ih with hxs | ⟨before, y, after, rfl, hbefore, hfails⟩
      · by_cases hall : P (xs ++ [x])
        · exact .inl hall
        · exact .inr ⟨xs, x, [], rfl, hxs, hall⟩
      · exact .inr ⟨before, y, after ++ [x], by simp, hbefore, hfails⟩

end List

namespace Wiring

namespace Shelf

variable {s : Shelf} {a : Artifact} {artifacts : List Artifact} {name : String}

/-! ## Names -/

theorem mem_names_iff : name ∈ s.names ↔ name ∈ s.artifacts.map (·.name) := List.mem_sortBy

theorem isSome_find?_iff : (s.find? name).isSome = true ↔ name ∈ s.names := by
  simp only [find?, List.find?_isSome, mem_names_iff, List.mem_map, beq_iff_eq]

/-- The names of a shelf on which each is used once increase strictly. -/
theorem pairwise_names (h : (s.artifacts.map (·.name)).Nodup) : s.names.Pairwise (· < ·) := by
  have hdistinct : ((s.artifacts.map (·.name)).map id).Nodup := by rwa [List.map_id]
  exact (List.pairwise_lt_sortBy compare hdistinct).imp compareOfLessAndEq_eq_lt.mp

/-! ## One call -/

/-- A shelf with more artifacts, the last of them on top. -/
def adding (s : Shelf) (artifacts : List Artifact) : Shelf := ⟨artifacts.reverse ++ s.artifacts⟩

theorem adding_adding (s : Shelf) (before after : List Artifact) :
    (s.adding before).adding after = s.adding (before ++ after) := by
  simp [adding]

theorem mem_names_adding_iff :
    name ∈ (s.adding artifacts).names ↔ name ∈ artifacts.map (·.name) ∨ name ∈ s.names := by
  simp [mem_names_iff, adding]

/-- An artifact whose name is taken is refused. -/
theorem publish_of_mem (h : a.name ∈ s.names) :
    s.publish a = (s, .error (.duplicateArtifact a.name)) :=
  if_pos (isSome_find?_iff.mpr h)

/-- An artifact whose name is not taken is put on the shelf. -/
theorem publish_of_not_mem (h : a.name ∉ s.names) : s.publish a = (s.adding [a], .ok ()) :=
  if_neg (mt isSome_find?_iff.mp h)

theorem publish_refuses_iff :
    (s.publish a).2 = .error (.duplicateArtifact a.name) ↔ a.name ∈ s.names := by
  by_cases htaken : a.name ∈ s.names
  · simp [publish_of_mem htaken, htaken]
  · simp [publish_of_not_mem htaken, htaken]

theorem publish_accepts_iff : (s.publish a).2 = .ok () ↔ a.name ∉ s.names := by
  by_cases htaken : a.name ∈ s.names
  · simp [publish_of_mem htaken, htaken]
  · simp [publish_of_not_mem htaken, htaken]

/-- A call that fails leaves the shelf as it is. -/
theorem publish_unchanged {failure : Failure} (h : (s.publish a).2 = .error failure) :
    (s.publish a).1 = s := by
  by_cases htaken : a.name ∈ s.names
  · rw [publish_of_mem htaken]
  · rw [publish_of_not_mem htaken] at h
    cases h

/-! ## Calls one by one -/

/-- The calls that succeed are the first ones of each name that is not taken before. -/
theorem succeeding_publish (s : Shelf) (calls : List Artifact) :
    succeeding publish s calls =
      List.distinctOnFrom (·.name) (s.artifacts.map (·.name)) calls := by
  induction calls generalizing s with
  | nil => rfl
  | cons a rest ih =>
      rw [List.distinctOnFrom]
      by_cases htaken : a.name ∈ s.names
      · have hseen := List.contains_iff_mem.mpr (mem_names_iff.mp htaken)
        rw [succeeding_cons_error (publish_of_mem htaken), ih, if_pos hseen]
      · have hnew := mt (mem_names_iff.mpr ∘ List.contains_iff_mem.mp) htaken
        rw [succeeding_cons_ok (publish_of_not_mem htaken), ih, if_neg hnew]
        rfl

/-- What succeeds is put on the shelf, and nothing else is. -/
theorem afterCalls_publish (s : Shelf) (calls : List Artifact) :
    afterCalls publish s calls = s.adding (succeeding publish s calls) := by
  induction calls generalizing s with
  | nil => rfl
  | cons a rest ih =>
      rw [afterCalls_cons, ih]
      by_cases htaken : a.name ∈ s.names
      · rw [succeeding_cons_error (publish_of_mem htaken), publish_of_mem htaken]
      · rw [succeeding_cons_ok (publish_of_not_mem htaken), publish_of_not_mem htaken,
          adding_adding, List.singleton_append]

/-- All that a shelf tells of the artifacts that have been published on it: the names that it
    refuses, the contents that are found, and the names in order. -/
structure Keeps (s : Shelf) (published : List Artifact) : Prop where
  refuses_iff : ∀ a : Artifact, (s.publish a).2 = .error (.duplicateArtifact a.name) ↔
    ∃ b ∈ published, b.name = a.name
  accepts_iff : ∀ a : Artifact, (s.publish a).2 = .ok () ↔ ∀ b ∈ published, b.name ≠ a.name
  unchanged : ∀ a failure, (s.publish a).2 = .error failure → (s.publish a).1 = s
  get_eq : ∀ name, s.get name = (published.find? (·.name == name)).map (·.contents)
  increasing : s.names.Pairwise (· < ·)
  names_iff : ∀ name, name ∈ s.names ↔ ∃ b ∈ published, b.name = name

/-- A shelf keeps the artifacts that are put on it, if their names are different. -/
theorem keeps_adding (hnodup : (artifacts.map (·.name)).Nodup) :
    (Shelf.adding {} artifacts).Keeps artifacts := by
  have hheld : (Shelf.adding {} artifacts).artifacts = artifacts.reverse :=
    List.append_nil artifacts.reverse
  have hnames : ∀ name, name ∈ (Shelf.adding {} artifacts).names ↔
      ∃ b ∈ artifacts, b.name = name := by
    intro name
    rw [mem_names_iff, hheld, List.map_reverse, List.mem_reverse, List.mem_map]
  constructor
  case refuses_iff =>
    intro a
    rw [publish_refuses_iff, hnames]
  case accepts_iff =>
    intro a
    rw [publish_accepts_iff, hnames]
    exact ⟨fun h b hb hname => h ⟨b, hb, hname⟩, fun h ⟨b, hb, hname⟩ => h b hb hname⟩
  case unchanged => exact fun a failure => publish_unchanged
  case get_eq =>
    intro name
    -- The last artifact is on top, but there is one at most of each name
    have hnodup' : (artifacts.reverse.map (·.name)).Nodup := by
      rwa [List.map_reverse, List.nodup_reverse]
    rw [get, find?, hheld, artifacts.reverse_perm.find?_eq (List.eq_of_nodup_map hnodup')]
  case increasing =>
    refine pairwise_names ?_
    rwa [hheld, List.map_reverse, List.nodup_reverse]
  case names_iff => exact hnames

/-! ## Publishing in a row -/

/-- Artifacts that can be published together: their names are different, and none is taken. -/
def Admits (s : Shelf) (artifacts : List Artifact) : Prop :=
  (artifacts.map (·.name)).Nodup ∧ ∀ a ∈ artifacts, a.name ∉ s.names

theorem admits_nil (s : Shelf) : s.Admits [] := ⟨.nil, fun _ h => absurd h List.not_mem_nil⟩

/-- One more can be published with others if its name is not taken by then. -/
theorem admits_append_singleton_iff :
    s.Admits (artifacts ++ [a]) ↔ s.Admits artifacts ∧ a.name ∉ (s.adding artifacts).names := by
  unfold Admits
  rw [mem_names_adding_iff, List.map_append, List.map_singleton, ← List.concat_eq_append,
    List.nodup_concat, List.forall_mem_append, List.forall_mem_singleton, not_or]
  tauto

/-- Artifacts that can be published together are put on the shelf. -/
theorem publishAll_of_admits (h : s.Admits artifacts) :
    publishAll publish s artifacts = (s.adding artifacts, .ok ()) := by
  induction artifacts using List.reverseRecOn with
  | nil => rfl
  | append_singleton before a ih =>
      obtain ⟨hbefore, hnew⟩ := admits_append_singleton_iff.mp h
      rw [publishAll_append (ih hbefore), publishAll, publish_of_not_mem hnew, adding_adding]
      rfl

/-- Publishing ends at an artifact whose name is taken by then. -/
theorem publishAll_of_mem {before after : List Artifact} (hbefore : s.Admits before)
    (htaken : a.name ∈ (s.adding before).names) :
    publishAll publish s (before ++ a :: after) =
      (s.adding before, .error (.duplicateArtifact a.name)) := by
  rw [publishAll_append (publishAll_of_admits hbefore), publishAll, publish_of_mem htaken]

/-- What comes of publishing artifacts in a row: all of them are put on the shelf, or those before
    the first whose name is taken, by the shelf or by one of them. -/
structure PutsUntilTaken (s : Shelf) (artifacts : List Artifact) (outcome : Outcome Shelf Unit) :
    Prop where
  ok_iff : outcome.2 = .ok () ↔ s.Admits artifacts
  put : outcome.2 = .ok () → outcome.1 = s.adding artifacts
  stopped : ∀ failure, outcome.2 = .error failure → ∃ before a after,
    artifacts = before ++ a :: after ∧ s.Admits before ∧
      (a.name ∈ before.map (·.name) ∨ a.name ∈ s.names) ∧
      failure = .duplicateArtifact a.name ∧ outcome.1 = s.adding before

theorem putsUntilTaken_publishAll (s : Shelf) (artifacts : List Artifact) :
    s.PutsUntilTaken artifacts (publishAll publish s artifacts) := by
  rcases List.holds_or_exists_first s.admits_nil artifacts with
    hall | ⟨before, a, after, rfl, hbefore, hlast⟩
  · -- No name is taken
    rw [publishAll_of_admits hall]
    constructor
    case ok_iff => exact iff_of_true rfl hall
    case put => exact fun _ => rfl
    case stopped =>
      intro failure h
      cases h
  · have htaken : a.name ∈ (s.adding before).names := by
      rwa [admits_append_singleton_iff, and_iff_right hbefore, not_not] at hlast
    have hstops : publishAll publish s (before ++ a :: after) = _ :=
      publishAll_of_mem hbefore htaken
    constructor
    case ok_iff =>
      refine ⟨fun h => ?_, fun hadmits => ?_⟩
      · rw [hstops] at h
        cases h
      · rw [publishAll_of_admits hadmits]
    case put =>
      intro h
      rw [hstops] at h
      cases h
    case stopped =>
      intro failure h
      rw [hstops] at h ⊢
      exact ⟨before, a, after, rfl, hbefore, mem_names_adding_iff.mp htaken,
        (Except.error.inj h).symm, rfl⟩

end Shelf

/-- On a site whose destination is a shelf, artifacts are published on that shelf. -/
theorem Site.publishAll_shelf (s : Shelf) (files : FileTree) (artifacts : List Artifact) :
    publishAll Site.publish ⟨.shelf s, files⟩ artifacts =
      (⟨.shelf (publishAll Shelf.publish s artifacts).1, files⟩,
        (publishAll Shelf.publish s artifacts).2) := by
  induction artifacts generalizing s with
  | nil => rfl
  | cons a rest ih =>
      by_cases htaken : a.name ∈ s.names
      · simp only [publishAll, Site.publish, Shelf.publish_of_mem htaken]
      · simp only [publishAll, Site.publish, Shelf.publish_of_not_mem htaken, ih]

/-- The first publication of a name counts. After any calls, a shelf keeps those artifacts that were
    published with success, which are the first of each name; and the artifacts of a pass are put on
    a shelf up to the first whose name is taken. -/
theorem publication_keeps_first :
    (∀ calls : List Artifact,
      (afterCalls Shelf.publish {} calls).Keeps (succeeding Shelf.publish {} calls) ∧
        succeeding Shelf.publish {} calls = calls.distinctOn (·.name)) ∧
    ∀ (s : Shelf) (files : FileTree) (pass : Generation), ∃ outcome,
      Site.publishRun ⟨.shelf s, files⟩ pass = (⟨.shelf outcome.1, files⟩, outcome.2) ∧
        s.PutsUntilTaken pass.artifacts outcome := by
  refine ⟨fun calls => ?_, fun s files pass => ?_⟩
  · have hfirst : succeeding Shelf.publish {} calls = calls.distinctOn (·.name) :=
      Shelf.succeeding_publish {} calls
    refine ⟨?_, hfirst⟩
    rw [Shelf.afterCalls_publish, hfirst]
    exact Shelf.keeps_adding (List.nodup_map_distinctOn _ calls)
  · exact ⟨_, Site.publishAll_shelf s files pass.artifacts,
      Shelf.putsUntilTaken_publishAll s pass.artifacts⟩

/-- Three reports, the last one under the name of the first. -/
def threeReports : List Artifact :=
  [⟨.report, "a.txt", "one"⟩, ⟨.report, "b.txt", "two"⟩, ⟨.report, "a.txt", "three"⟩]

/-- Called one by one, the first two are kept; in a row, the third one ends the publication. -/
theorem threeReports_keep_first :
    (afterCalls Shelf.publish {} threeReports).Keeps (threeReports.take 2) ∧
      (afterCalls Shelf.publish {} threeReports).get "a.txt" = some "one" ∧
      ∃ outcome, Site.publishRun ⟨.shelf {}, {}⟩ ⟨{ current := "App" }, threeReports⟩ =
          (⟨.shelf outcome.1, {}⟩, outcome.2) ∧
        Shelf.PutsUntilTaken {} threeReports outcome ∧ outcome.2 ≠ .ok () := by
  obtain ⟨hcalls, hpasses⟩ := publication_keeps_first
  obtain ⟨hkeeps, hfirst⟩ := hcalls threeReports
  have htwo : threeReports.distinctOn (·.name) = threeReports.take 2 := by decide
  rw [hfirst, htwo] at hkeeps
  obtain ⟨outcome, hrun, hputs⟩ := hpasses {} {} ⟨{ current := "App" }, threeReports⟩
  refine ⟨hkeeps, hkeeps.get_eq "a.txt", outcome, hrun, hputs, fun hok => ?_⟩
  -- One name is there twice
  exact absurd (hputs.ok_iff.mp hok).1 (by decide)

end Wiring
