/-
  Wiring.Proofs.TypeRef.Instance

  Matching and replacing type parameters as inverses. A reference is an instance of an open one if
  some replacement of the type parameters makes the open one the same type. Matching with an
  instance finds the replacement; but a type parameter inside an argument takes the place of what
  the parameter was bound to before, so matching can also succeed where there is no instance. The
  main statements are that what matching finds makes the references the same type exactly for
  instances, and that it finds the one replacement that makes them equal whenever there is one.
-/

import Wiring.Proofs.TypeRef.Matched
import Wiring.Proofs.TypeRef.SameType
import Wiring.Proofs.TypeRef.Substitution
import Mathlib.Data.List.Forall2

namespace Wiring
namespace TypeRef

/-- The reference is of the same type as `a` when all type parameters of `a` are replaced in some
    way. -/
def IsInstanceOf (ref a : TypeRef) : Prop :=
  ∃ s : TypeBindings, (∀ name ∈ a.freeParameters, name ∈ s.map Prod.fst) ∧
    (a.substitute s).sameType ref = true

/-! ## Likeness, argument by argument -/

/-- A likeness of references that is a likeness of their arguments. -/
structure IsCongruence (r : TypeRef → TypeRef → Prop) : Prop where
  args : ∀ {a b : TypeRef}, r a b → List.Forall₂ r a.args b.args
  of_args : ∀ (name : String) (kind : TypeKind) (nullable : Bool) {as bs : List TypeRef},
    List.Forall₂ r as bs → r ⟨name, kind, as, nullable⟩ ⟨name, kind, bs, nullable⟩

theorem isCongruence_eq : IsCongruence (· = ·) where
  args := by
    rintro a _ rfl
    exact List.forall₂_same.mpr fun _ _ => rfl
  of_args := by
    intro name kind nullable as bs h
    rw [List.forall₂_eq_eq_eq] at h
    rw [h]

theorem sameTypes_iff_forall₂ {as bs : List TypeRef} :
    sameTypes as bs = true ↔ List.Forall₂ (fun a b => a.sameType b = true) as bs := by
  induction as generalizing bs with
  | nil => cases bs <;> simp [sameTypes]
  | cons a as ih =>
      cases bs with
      | nil => simp [sameTypes]
      | cons b bs => rw [sameTypes, Bool.and_eq_true, ih, List.forall₂_cons]

theorem sameType_iff_args {a b : TypeRef} :
    a.sameType b = true ↔ a.name = b.name ∧ sameTypes a.args b.args = true := by
  cases a
  cases b
  rw [sameType, Bool.and_eq_true, beq_iff_eq]

theorem isCongruence_sameType : IsCongruence (fun a b => a.sameType b = true) where
  args h := sameTypes_iff_forall₂.mp (sameType_iff_args.mp h).2
  of_args _ _ _ _ _ h := sameType_iff_args.mpr ⟨rfl, sameTypes_iff_forall₂.mpr h⟩

/-! ## Replacing type parameters -/

variable {s t known found : TypeBindings} {a b ref : TypeRef} {as bs : List TypeRef}
  {r : TypeRef → TypeRef → Prop}

theorem substitute_of_lookup (hkind : a.kind = .typeParameter)
    (hlookup : s.lookup a.name = some ref) : a.substitute s = ref := by
  cases a
  rw [substitute, if_pos hkind, hlookup, Option.getD_some]

theorem substitute_of_kind_ne (hkind : a.kind ≠ .typeParameter) :
    a.substitute s = { a with args := substituteAll s a.args } := by
  cases a
  rw [substitute, if_neg hkind]

mutual

/-- Replacing all type parameters by like references gives like references. -/
theorem substitute_congr (hr : IsCongruence r) : ∀ a : TypeRef,
    (∀ name ∈ a.freeParameters, ∃ x y, s.lookup name = some x ∧ t.lookup name = some y ∧ r x y) →
      r (a.substitute s) (a.substitute t)
  | ⟨name, kind, args, nullable⟩, h => by
    by_cases hkind : kind = .typeParameter
    · -- The parameter goes as a whole on both sides
      rw [freeParameters, if_pos hkind] at h
      obtain ⟨x, y, hx, hy, hxy⟩ := h name (List.mem_singleton.mpr rfl)
      rw [substitute, substitute, if_pos hkind, if_pos hkind, hx, hy]
      exact hxy
    · rw [freeParameters, if_neg hkind] at h
      rw [substitute, substitute, if_neg hkind, if_neg hkind]
      exact hr.of_args name kind nullable (substituteAll_congr hr args h)

/-- Replacing all type parameters of a list by like references gives like lists. -/
theorem substituteAll_congr (hr : IsCongruence r) : ∀ as : List TypeRef,
    (∀ name ∈ freeParametersAll as,
      ∃ x y, s.lookup name = some x ∧ t.lookup name = some y ∧ r x y) →
      List.Forall₂ r (substituteAll s as) (substituteAll t as)
  | [], _ => .nil
  | a :: as, h => by
    rw [freeParametersAll] at h
    rw [substituteAll, substituteAll]
    refine .cons (substitute_congr hr a fun name hname => ?_)
      (substituteAll_congr hr as fun name hname => ?_)
    · exact h name (List.mem_append_left _ hname)
    · exact h name (List.mem_append_right _ hname)

end

mutual

/-- What closes a reference replaces all of its type parameters. -/
theorem mem_names_of_closed_substitute : ∀ a : TypeRef, (a.substitute s).isOpen = false →
    ∀ name ∈ a.freeParameters, name ∈ s.map Prod.fst
  | ⟨name, kind, args, nullable⟩, hclosed, other, hother => by
    by_cases hkind : kind = .typeParameter
    · rw [freeParameters, if_pos hkind] at hother
      obtain rfl := List.mem_singleton.mp hother
      rw [substitute, if_pos hkind] at hclosed
      cases hlookup : s.lookup other with
      | some ref => exact List.mem_map_of_mem (TypeBindings.exists_of_lookup_eq_some hlookup)
      | none =>
          -- The parameter would still be there
          rw [hlookup, Option.getD_none] at hclosed
          exact absurd hkind (kind_ne_of_closed hclosed)
    · rw [freeParameters, if_neg hkind] at hother
      rw [substitute, if_neg hkind] at hclosed
      exact mem_names_of_closed_substituteAll args (anyOpen_args_of_closed hclosed) other hother

theorem mem_names_of_closed_substituteAll : ∀ as : List TypeRef,
    anyOpen (substituteAll s as) = false →
      ∀ name ∈ freeParametersAll as, name ∈ s.map Prod.fst
  | [], _, _, hname => nomatch hname
  | a :: as, hclosed, name, hname => by
    rw [substituteAll, anyOpen, Bool.or_eq_false_iff] at hclosed
    rw [freeParametersAll, List.mem_append] at hname
    rcases hname with ha | has
    · exact mem_names_of_closed_substitute a hclosed.1 name ha
    · exact mem_names_of_closed_substituteAll as hclosed.2 name has

end

end TypeRef

/-! ## What matching finds of a replacement -/

namespace TypeBindings

variable {r : TypeRef → TypeRef → Prop} {known more s : TypeBindings} {name : String}
  {ref : TypeRef}

/-- What is bound is like what a replacement makes of the names. -/
def Agrees (r : TypeRef → TypeRef → Prop) (known s : TypeBindings) : Prop :=
  ∀ entry ∈ known, ∃ ref, s.lookup entry.1 = some ref ∧ r ref entry.2

theorem agrees_nil : Agrees r [] s := nofun

theorem Agrees.bind {old : TypeRef} (h : known.Agrees r s) (hlookup : s.lookup name = some old)
    (hlike : r old ref) : (known.bind name ref).Agrees r s := by
  intro entry hentry
  rcases eq_or_mem_of_mem_bind hentry with rfl | hmem
  · exact ⟨old, hlookup, hlike⟩
  · exact h entry hmem

theorem Agrees.bindAll (h : known.Agrees r s) (hmore : more.Agrees r s) :
    (known.bindAll more).Agrees r s := by
  intro entry hentry
  rcases mem_or_mem_of_mem_bindAll hentry with hnew | hold
  · exact hmore entry hnew
  · exact h entry hold

/-- A name that is bound is replaced by something like it. -/
theorem Agrees.exists_lookup (h : known.Agrees r s) (hname : name ∈ known.map Prod.fst) :
    ∃ x y, s.lookup name = some x ∧ known.lookup name = some y ∧ r x y := by
  obtain ⟨y, hy⟩ := exists_lookup_of_mem_names hname
  obtain ⟨x, hx, hxy⟩ := h _ (exists_of_lookup_eq_some hy)
  exact ⟨x, y, hx, hy, hxy⟩

end TypeBindings

namespace TypeRef

open TypeBindings

variable {s known found : TypeBindings} {a b : TypeRef} {as bs : List TypeRef}
  {r : TypeRef → TypeRef → Prop}

/-- If a replacement makes the arguments like those they are matched with, matching binds to what
    the replacement puts in. -/
theorem Matched.agrees (h : Matched known as bs found) (hr : IsCongruence r)
    (hlike : List.Forall₂ r (substituteAll s as) bs)
    (hbinds : ∀ name ∈ freeParametersAll as, name ∈ s.map Prod.fst) (hknown : known.Agrees r s) :
    found.Agrees r s := by
  -- Every step keeps the agreement, which is all that the next one has to know
  induction h with
  | done => exact hknown
  | again _ _ _ ih =>
      rw [substituteAll, List.forall₂_cons] at hlike
      rw [freeParametersAll, List.forall_mem_append] at hbinds
      exact ih hlike.2 hbinds.2 hknown
  | @new _ _ a _ _ _ parameter _ _ ih =>
      rw [substituteAll, List.forall₂_cons] at hlike
      rw [freeParametersAll, freeParameters_of_kind_eq parameter, List.forall_mem_append,
        List.forall_mem_singleton] at hbinds
      -- The replacement puts something like the reference in place of the parameter
      obtain ⟨ref, hlookup⟩ := exists_lookup_of_mem_names hbinds.1
      rw [substitute_of_lookup parameter hlookup] at hlike
      exact ih hlike.2 hbinds.2 (hknown.bind hlookup hlike.1)
  | @inside _ _ _ a _ _ _ plain _ _ _ _ ihargs ihrest =>
      rw [substituteAll, List.forall₂_cons, substitute_of_kind_ne plain] at hlike
      rw [freeParametersAll, freeParameters_of_kind_ne plain, List.forall_mem_append] at hbinds
      have hinner := ihargs (hr.args hlike.1) hbinds.1 agrees_nil
      exact ihrest hlike.2 hbinds.2 (hknown.bindAll hinner)
  | alike _ _ _ ih =>
      rw [substituteAll, List.forall₂_cons] at hlike
      rw [freeParametersAll, List.forall_mem_append] at hbinds
      exact ih hlike.2 hbinds.2 hknown

/-! ## Instances -/

/-- Where no type parameter occurs twice, what matching finds makes the arguments the same types. -/
theorem Matched.sameTypes_substituteAll (h : Matched known as bs found)
    (hnodup : (freeParametersAll as).Nodup)
    (hfresh : ∀ name ∈ freeParametersAll as, known.lookup name = none) :
    sameTypes (substituteAll found as) bs = true := by
  -- What is still to come is not bound yet, so no step replaces a binding that an earlier one made
  induction h with
  | done => rfl
  | again parameter bound _ _ =>
      rw [freeParametersAll, freeParameters_of_kind_eq parameter] at hfresh
      exact nomatch bound.symm.trans (hfresh _ (.head _))
  | @new known found a b as bs parameter _ rest ih =>
      rw [freeParametersAll, freeParameters_of_kind_eq parameter, List.singleton_append,
        List.nodup_cons] at hnodup
      rw [freeParametersAll, freeParameters_of_kind_eq parameter, List.forall_mem_append] at hfresh
      -- No later argument mentions the parameter
      have hlookup : found.lookup a.name = some b := by
        rw [rest.lookup_eq_of_not_mem hnodup.1, lookup_bind, if_pos rfl]
      have hrest := ih hnodup.2 fun name hname => by
        have hne : name ≠ a.name := fun heq => hnodup.1 (heq ▸ hname)
        rw [lookup_bind, if_neg hne]
        exact hfresh.2 name hname
      rw [substituteAll, sameTypes, substitute_of_lookup parameter hlookup, sameType_self, hrest]
      rfl
  | @inside known inner found a b as bs plain _ hname args rest ihargs ihrest =>
      rw [freeParametersAll, freeParameters_of_kind_ne plain, List.nodup_append] at hnodup
      rw [freeParametersAll, freeParameters_of_kind_ne plain, List.forall_mem_append] at hfresh
      obtain ⟨hnodupArgs, hnodupRest, hapart⟩ := hnodup
      have hmem : ∀ name, name ∈ inner.map Prod.fst ↔ name ∈ freeParametersAll a.args := by
        intro name
        rw [args.mem_names_iff, List.map_nil]
        exact or_iff_right List.not_mem_nil
      -- The bindings found inside the argument are kept to the end
      have hkept : ∀ name ∈ a.freeParameters, ∃ x y,
          found.lookup name = some x ∧ inner.lookup name = some y ∧ x = y := by
        intro name hfree
        rw [freeParameters_of_kind_ne plain] at hfree
        have hbound := (hmem name).mpr hfree
        obtain ⟨x, hx⟩ := exists_lookup_of_mem_names hbound
        refine ⟨x, x, ?_, hx, rfl⟩
        rw [rest.lookup_eq_of_not_mem fun hlater => hapart name hfree name hlater rfl,
          lookup_bindAll_of_mem (args.nodup_names .nil) hbound, hx]
      have hhead : (a.substitute found).sameType b = true := by
        rw [substitute_congr isCongruence_eq a hkept, substitute_of_kind_ne plain]
        exact sameType_iff_args.mpr ⟨hname, ihargs hnodupArgs fun _ _ => rfl⟩
      have hrest := ihrest hnodupRest fun name hlater => by
        have hnot := mt (hmem name).mp fun hfree => hapart name hfree name hlater rfl
        rw [lookup_bindAll_of_not_mem hnot]
        exact hfresh.2 name hlater
      rw [substituteAll, sameTypes, hhead, hrest]
      rfl
  | alike closed same _ ih =>
      rw [freeParametersAll, (freeParameters_eq_nil_iff _).mpr closed, List.nil_append]
        at hnodup hfresh
      rw [substituteAll, sameTypes, substitute_of_closed _ _ closed, same, ih hnodup hfresh]
      rfl

/-- What matching finds makes the open reference the same type as the other exactly if the other is
    an instance of it; where no type parameter occurs twice, it always is. -/
theorem sameType_substitute_iff_isInstanceOf (a b : TypeRef) (bindings : TypeBindings)
    (hplain : a.kind ≠ .typeParameter) (hbind : a.bindAgainst b = some bindings) :
    ((a.substitute bindings).sameType b = true ↔ b.IsInstanceOf a) ∧
      (a.freeParameters.Nodup → (a.substitute bindings).sameType b = true) := by
  obtain ⟨hname, hmatched⟩ := bindAgainst_eq_some_iff.mp hbind
  have hfree := freeParameters_of_kind_ne hplain
  have hbound : ∀ name ∈ a.freeParameters, name ∈ bindings.map Prod.fst :=
    fun name hmem => hmatched.mem_names_iff.mpr (.inr (hfree ▸ hmem))
  refine ⟨⟨fun hsame => ⟨bindings, hbound, hsame⟩, ?_⟩, fun hnodup => ?_⟩
  · -- What is found agrees with the replacement that makes the other an instance
    rintro ⟨s, hbinds, hinstance⟩
    have hargs := isCongruence_sameType.args hinstance
    rw [substitute_of_kind_ne hplain] at hargs
    have hagrees := hmatched.agrees isCongruence_sameType hargs (hfree ▸ hbinds) agrees_nil
    have hlike := substitute_congr isCongruence_sameType a fun name hmem =>
      hagrees.exists_lookup (hbound name hmem)
    rw [sameType_iff] at hinstance hlike ⊢
    exact hlike.symm.trans hinstance
  · rw [substitute_of_kind_ne hplain]
    have hargs := hmatched.sameTypes_substituteAll (hfree ▸ hnodup) fun _ _ => rfl
    exact sameType_iff_args.mpr ⟨hname, hargs⟩

/-- A pair of something and a list of something. -/
def pairWithList (first item : TypeRef) : TypeRef :=
  ((ofInterface "App.IPair").withArg first).withArg ((ofInterface "App.IList").withArg item)

/-- The pairs of something and a list of the same. -/
def uniformPair : TypeRef := pairWithList (parameter "T") (parameter "T")

/-- The pairs of something and a list of something else. -/
def loosePair : TypeRef := pairWithList (parameter "K") (parameter "V")

/-- A pair of an order and a list of orders. -/
def orderPair : TypeRef := pairWithList (ofClass "App.Order") (ofClass "App.Order")

/-- A pair of an order and a list of bills. -/
def mixedPair : TypeRef := pairWithList (ofClass "App.Order") (ofClass "App.Bill")

/-- A pair with a list of the same is matched as the instance that it is. Where the open pair names
    no parameter twice, a pair with a list of something else will do. -/
theorem pairs_sameType_substitute_iff :
    (uniformPair.kind ≠ .typeParameter ∧
      uniformPair.bindAgainst orderPair = some [("T", ofClass "App.Order")] ∧
      ((uniformPair.substitute [("T", ofClass "App.Order")]).sameType orderPair = true ↔
        orderPair.IsInstanceOf uniformPair)) ∧
    loosePair.kind ≠ .typeParameter ∧
      loosePair.bindAgainst mixedPair =
        some [("K", ofClass "App.Order"), ("V", ofClass "App.Bill")] ∧
      loosePair.freeParameters.Nodup ∧
      (loosePair.substitute [("K", ofClass "App.Order"), ("V", ofClass "App.Bill")]).sameType
        mixedPair = true := by
  have hbind : uniformPair.bindAgainst orderPair = some [("T", ofClass "App.Order")] := by decide
  have hloose : loosePair.bindAgainst mixedPair =
      some [("K", ofClass "App.Order"), ("V", ofClass "App.Bill")] := by
    decide
  have hnodup : loosePair.freeParameters.Nodup := by decide
  obtain ⟨hiff, -⟩ := sameType_substitute_iff_isInstanceOf _ _ _ (by decide) hbind
  obtain ⟨-, hsame⟩ := sameType_substitute_iff_isInstanceOf _ _ _ (by decide) hloose
  exact ⟨⟨by decide, hbind, hiff⟩, by decide, hloose, hnodup, hsame hnodup⟩

/-- Matching takes a pair of an order and a list of bills for a pair with a list of the same, and
    makes a bill and a list of bills of it. -/
theorem mixedPair_matched_not_sameType :
    uniformPair.kind ≠ .typeParameter ∧
      ∃ bindings, uniformPair.bindAgainst mixedPair = some bindings ∧
        (uniformPair.substitute bindings).sameType mixedPair = false :=
  ⟨by decide, [("T", ofClass "App.Bill")], by decide, by decide⟩

/-! ## Equal instances -/

mutual

/-- A reference whose type parameters are replaced can be matched with what becomes of it. -/
theorem exists_matched_args_substitute : ∀ a : TypeRef,
    (∀ name ∈ freeParametersAll a.args, name ∈ s.map Prod.fst) →
      ∃ found, Matched [] a.args (substituteAll s a.args) found
  | ⟨_, _, args, _⟩, hbinds => exists_matched_substituteAll args hbinds agrees_nil

/-- Arguments whose type parameters are replaced can be matched with what becomes of them, whatever
    is known of the replacement. -/
theorem exists_matched_substituteAll : ∀ (as : List TypeRef) {known : TypeBindings},
    (∀ name ∈ freeParametersAll as, name ∈ s.map Prod.fst) → known.Agrees (· = ·) s →
      ∃ found, Matched known as (substituteAll s as) found
  | [], known, _, _ => ⟨known, .done⟩
  | a :: as, known, hbinds, hknown => by
    rw [freeParametersAll, List.forall_mem_append] at hbinds
    rw [substituteAll]
    by_cases hkind : a.kind = .typeParameter
    · rw [freeParameters_of_kind_eq hkind, List.forall_mem_singleton] at hbinds
      obtain ⟨ref, hlookup⟩ := exists_lookup_of_mem_names hbinds.1
      rw [substitute_of_lookup hkind hlookup]
      cases hbound : known.lookup a.name with
      | some bound =>
          -- It was bound to what the replacement makes of it
          obtain ⟨ref', hlookup', rfl⟩ := hknown _ (exists_of_lookup_eq_some hbound)
          obtain rfl := Option.some.inj (hlookup.symm.trans hlookup')
          obtain ⟨found, hrest⟩ := exists_matched_substituteAll as hbinds.2 hknown
          exact ⟨found, .again hkind hbound hrest⟩
      | none =>
          obtain ⟨found, hrest⟩ :=
            exists_matched_substituteAll as hbinds.2 (hknown.bind hlookup rfl)
          exact ⟨found, .new hkind hbound hrest⟩
    · rw [freeParameters_of_kind_ne hkind] at hbinds
      cases hopen : a.isOpen with
      | true =>
          obtain ⟨inner, hargs⟩ := exists_matched_args_substitute a hbinds.1
          have hinner : inner.Agrees (· = ·) s := by
            refine hargs.agrees isCongruence_eq ?_ hbinds.1 agrees_nil
            exact List.forall₂_same.mpr fun _ _ => rfl
          obtain ⟨found, hrest⟩ :=
            exists_matched_substituteAll as hbinds.2 (hknown.bindAll hinner)
          rw [substitute_of_kind_ne hkind]
          exact ⟨found, .inside hkind hopen rfl hargs hrest⟩
      | false =>
          obtain ⟨found, hrest⟩ := exists_matched_substituteAll as hbinds.2 hknown
          rw [substitute_of_closed s a hopen]
          exact ⟨found, .alike hopen (sameType_self a) hrest⟩

end

/-- If replacing type parameters makes a reference equal to a closed one, matching finds the
    replacement: it binds each type parameter of the reference once, to what the replacement makes
    of it, and nothing else. Arguments of a type parameter are replaced along with it, so the
    parameters in them do not count. -/
theorem bindAgainst_finds_replacement (a closed : TypeRef) (s : TypeBindings)
    (hplain : a.kind ≠ .typeParameter) (hclosed : closed.isOpen = false)
    (hequal : a.substitute s = closed) :
    ∃ bindings, a.bindAgainst closed = some bindings ∧ (bindings.map Prod.fst).Nodup ∧
      (∀ name, name ∈ bindings.map Prod.fst ↔ name ∈ a.freeParameters) ∧
      (∀ name ∈ a.freeParameters, bindings.lookup name = s.lookup name) ∧
      a.substitute bindings = closed := by
  subst hequal
  have hbinds := mem_names_of_closed_substitute a hclosed
  have hfree := freeParameters_of_kind_ne hplain
  -- Matching succeeds, and what it finds agrees with the replacement
  obtain ⟨bindings, hmatched⟩ := exists_matched_args_substitute a (hfree ▸ hbinds)
  have hmem : ∀ name, name ∈ bindings.map Prod.fst ↔ name ∈ a.freeParameters := by
    intro name
    rw [hmatched.mem_names_iff, List.map_nil, hfree]
    exact or_iff_right List.not_mem_nil
  have hagrees : bindings.Agrees (· = ·) s := by
    refine hmatched.agrees isCongruence_eq ?_ (hfree ▸ hbinds) agrees_nil
    exact List.forall₂_same.mpr fun _ _ => rfl
  have hlookups : ∀ name ∈ a.freeParameters,
      ∃ x y, s.lookup name = some x ∧ bindings.lookup name = some y ∧ x = y :=
    fun name hname => hagrees.exists_lookup ((hmem name).mpr hname)
  refine ⟨bindings, bindAgainst_eq_some_iff.mpr ?_, hmatched.nodup_names .nil, hmem, ?_, ?_⟩
  · rw [substitute_of_kind_ne hplain]
    exact ⟨rfl, hmatched⟩
  · intro name hname
    obtain ⟨x, _, hx, hy, rfl⟩ := hlookups name hname
    rw [hx, hy]
  · exact (substitute_congr isCongruence_eq a hlookups).symm

theorem bindAgainst_finds_order :
    uniformPair.kind ≠ .typeParameter ∧ orderPair.isOpen = false ∧
      uniformPair.substitute [("T", ofClass "App.Order")] = orderPair ∧
      ∃ bindings, uniformPair.bindAgainst orderPair = some bindings ∧
        (bindings.map Prod.fst).Nodup ∧
        (∀ name, name ∈ bindings.map Prod.fst ↔ name ∈ uniformPair.freeParameters) ∧
        (∀ name ∈ uniformPair.freeParameters,
          bindings.lookup name = List.lookup name [("T", ofClass "App.Order")]) ∧
        uniformPair.substitute bindings = orderPair := by
  have hequal : uniformPair.substitute [("T", ofClass "App.Order")] = orderPair := by decide
  exact ⟨by decide, by decide, hequal,
    bindAgainst_finds_replacement _ _ _ (by decide) (by decide) hequal⟩

end TypeRef
end Wiring
