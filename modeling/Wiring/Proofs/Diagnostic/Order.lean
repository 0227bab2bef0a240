/-
  Wiring.Proofs.Diagnostic.Order

  The order of diagnostics is a total order: it is transitive, and it tells diagnostics apart. It
  goes by severity, problem, place and arguments, each of which counts where those before it are the
  same. So the diagnostics reported depend on which ones are found, and not on when or how often.
-/

import Wiring.Diagnostic.Basic
import Wiring.Proofs.Listing.Sorted

namespace Wiring

open Std

/-! ## Ranks -/

theorem Severity.rank_injective {a b : Severity} (h : a.rank = b.rank) : a = b := by
  cases a <;> cases b <;> first | rfl | cases h

theorem Problem.rank_injective {a b : Problem} (h : a.rank = b.rank) : a = b := by
  cases a <;> cases b <;> first | rfl | cases h

/-! ## Places -/

namespace DiagnosticPlace

instance : TransCmp order := by
  unfold order
  infer_instance

instance : LawfulEqCmp order where
  eq_of_compare {p q} h := by
    simp only [order, compareLex_eq_eq, compareOn, Std.compare_eq_iff_eq] at h
    obtain ⟨hrank, hname, hline, hcolumn⟩ := h
    cases p <;> cases q
    case source.source l l' =>
      obtain ⟨file, line, column⟩ := l
      obtain ⟨file', line', column'⟩ := l'
      have hl : line = line' := UInt32.toNat_inj.mp hline
      have hc : column = column' := UInt32.toNat_inj.mp hcolumn
      have hf : file = file' := hname
      rw [hf, hl, hc]
    case codeModule.codeModule m m' =>
      have hm : m = m' := hname
      rw [hm]
    all_goals cases hrank

/-- Locations come by file, line and column, and before the modules, which come by name. -/
def IsBefore : DiagnosticPlace → DiagnosticPlace → Prop
  | .source l, .source m =>
    l.file < m.file ∨ l.file = m.file ∧ (l.line < m.line ∨ l.line = m.line ∧ l.column < m.column)
  | .source _, .codeModule _ => True
  | .codeModule _, .source _ => False
  | .codeModule name, .codeModule other => name < other

theorem order_eq_lt_iff {p q : DiagnosticPlace} : order p q = .lt ↔ p.IsBefore q := by
  have htext : ∀ s t : String, compare s t = .lt ↔ s < t := fun _ _ => compareOfLessAndEq_eq_lt
  have hnumber : ∀ m n : UInt32, compare m.toNat n.toNat = .lt ↔ m < n := fun _ _ =>
    Nat.compare_eq_lt.trans UInt32.lt_iff_toNat_lt.symm
  cases p <;> cases q
  case source.source l m =>
    simp [order, compareLex, compareOn, Ordering.then_eq_lt, rank, name, line, column, IsBefore,
      htext, hnumber, UInt32.toNat_inj]
  case source.codeModule => exact iff_of_true rfl trivial
  case codeModule.source => exact iff_of_false nofun id
  case codeModule.codeModule =>
    simp [order, compareLex, compareOn, rank, name, line, column, IsBefore, htext]

end DiagnosticPlace

/-! ## Diagnostics -/

namespace Diagnostic

instance : TransCmp order := by
  have hplace := List.transCmp_on DiagnosticPlace.order Diagnostic.place
  unfold order
  infer_instance

instance : LawfulEqCmp order where
  eq_of_compare {d e} h := by
    simp only [order, compareLex_eq_eq, compareOn, Std.compare_eq_iff_eq] at h
    obtain ⟨hseverity, hproblem, hplace, hargs⟩ := h
    cases d
    cases e
    rw [mk.injEq]
    exact ⟨Problem.rank_injective hproblem, Severity.rank_injective hseverity, hargs,
      LawfulEqCmp.eq_of_compare hplace⟩

/-- The most severe come first, then it goes by problem, by place and by arguments. -/
def IsBefore (d e : Diagnostic) : Prop :=
  d.severity.rank < e.severity.rank ∨
  d.severity = e.severity ∧ d.problem.rank < e.problem.rank ∨
  d.severity = e.severity ∧ d.problem = e.problem ∧ d.place.IsBefore e.place ∨
  d.severity = e.severity ∧ d.problem = e.problem ∧ d.place = e.place ∧ d.args < e.args

theorem compare_args_eq_lt_iff {args others : List String} :
    compare args others = .lt ↔ args < others := by
  induction args generalizing others with
  | nil => cases others <;> simp
  | cons arg rest ih =>
      cases others with
      | nil => simp
      | cons other others =>
          have hfirst : compare arg other = .lt ↔ arg < other := compareOfLessAndEq_eq_lt
          rw [List.compare_cons_cons, Ordering.then_eq_lt, List.cons_lt_cons_iff, hfirst, ih,
            Std.compare_eq_iff_eq]

theorem order_eq_lt_iff {d e : Diagnostic} : order d e = .lt ↔ d.IsBefore e := by
  have hseverity : d.severity.rank = e.severity.rank ↔ d.severity = e.severity :=
    ⟨Severity.rank_injective, congrArg Severity.rank⟩
  have hproblem : d.problem.rank = e.problem.rank ↔ d.problem = e.problem :=
    ⟨Problem.rank_injective, congrArg Problem.rank⟩
  have hplace : DiagnosticPlace.order d.place e.place = .eq ↔ d.place = e.place :=
    LawfulEqCmp.compare_eq_iff_eq
  simp only [order, compareLex, compareOn, Ordering.then_eq_lt, Nat.compare_eq_lt,
    Nat.compare_eq_eq, hseverity, hproblem, DiagnosticPlace.order_eq_lt_iff, hplace,
    compare_args_eq_lt_iff, IsBefore, and_or_left]

instance : IsStrictTotalOrder Diagnostic IsBefore :=
  List.isStrictTotalOrder_of_lt_iff order fun _ _ => order_eq_lt_iff

/-- The diagnostics reported depend on nothing but which ones are found. -/
theorem inOrder_eq_of_mem_iff {found other : List Diagnostic} (h : ∀ d, d ∈ found ↔ d ∈ other) :
    inOrder found = inOrder other :=
  List.sortDistinct_eq_of_mem_iff h

/-- A list has what is found, each diagnostic once and behind those that come before it. -/
structure ListsOnce (listed found : List Diagnostic) : Prop where
  increasing : listed.Pairwise IsBefore
  members : ∀ d, d ∈ listed ↔ d ∈ found

theorem listsOnce_inOrder (found : List Diagnostic) : ListsOnce (inOrder found) found where
  increasing := (List.pairwise_sortDistinct order found).imp order_eq_lt_iff.mp
  members _ := List.mem_sortDistinct

/-- The diagnostics reported are those found, strictly increasing in a total order. So what is
    reported is the same exactly if the same diagnostics are found, in whatever order and however
    often. -/
theorem inOrder_reports_members (found : List Diagnostic) :
    IsStrictTotalOrder Diagnostic IsBefore ∧ ListsOnce (inOrder found) found ∧
      ∀ other, inOrder found = inOrder other ↔ ∀ d, d ∈ found ↔ d ∈ other := by
  refine ⟨inferInstance, listsOnce_inOrder found, fun other => ⟨fun h d => ?_, ?_⟩⟩
  · rw [← (listsOnce_inOrder found).members, h, (listsOnce_inOrder other).members]
  · exact inOrder_eq_of_mem_iff

end Diagnostic
end Wiring
