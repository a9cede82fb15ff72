import Mathlib.Data.List.Cycle
import RefLint.Proofs.ReachablePointers

/-!
# Cycles of pointers

A closed walk goes through reachable pointers, each of which leads to the next and
the last to the first. A resolution that preserves cycles keeps only pointers that
lie on a cycle, and there is no closed walk on which it keeps none.
-/

namespace RefLint

set_option autoImplicit false

/-- Reachable pointers in a circle, each leading to the next one. -/
structure ClosedWalk (root value : Value) (walk : Cycle String) : Prop where
  nonempty : walk ≠ .nil
  leads : walk.Chain (Edge root)
  reachable : ∀ pointer ∈ walk, Reachable root value pointer

section Paths

variable {root value : Value} {source last pointer : String}

/-- A way from one pointer to another can be taken without visiting a pointer twice. -/
theorem simple_path_of_path (path : Relation.ReflTransGen (Edge root) source last) :
    ∃ rest, (source :: rest).IsChain (Edge root) ∧ (source :: rest).getLast? = some last ∧
      (source :: rest).Nodup := by
  induction path using Relation.ReflTransGen.head_induction_on with
  | refl => exact ⟨[], by simp⟩
  | @head source next edge _ ih =>
      obtain ⟨rest, chain, ends, distinct⟩ := ih
      by_cases revisited : source ∈ next :: rest
      · -- The way from the later visit on is a way from the source.
        obtain ⟨skipped, onward, split⟩ := List.append_of_mem revisited
        rw [split] at chain ends distinct
        refine ⟨onward, chain.right_of_append, ?_, (List.nodup_append.1 distinct).2.1⟩
        rwa [List.getLast?_append_cons] at ends
      · exact ⟨next :: rest, .cons_cons edge chain, by simpa using ends,
          List.nodup_cons.2 ⟨revisited, distinct⟩⟩

theorem cycle_of_reaches (reachable : Reachable root value pointer)
    (cyclic : Reaches root pointer pointer) :
    ∃ cycle, ClosedWalk root value cycle ∧ cycle.Nodup ∧ pointer ∈ cycle := by
  obtain ⟨next, edge, back⟩ := Relation.TransGen.head'_iff.1 cyclic
  obtain ⟨rest, chain, ends, distinct⟩ := simple_path_of_path back
  refine ⟨(next :: rest : List String), ⟨by simp, ?_, ?_⟩, distinct, List.mem_of_getLast? ends⟩
  · rw [Cycle.chain_coe_cons, ← List.cons_append]
    refine chain.append (List.isChain_singleton next) fun final isFinal first isFirst => ?_
    obtain rfl : final = pointer := Option.some.inj (isFinal.symm.trans ends)
    obtain rfl : first = next := by simpa using isFirst.symm
    exact edge
  · exact chain.induction _ _ (fun _ _ edge before => before.tail edge)
      fun _ => reachable.tail edge

theorem ClosedWalk.exists_mem {walk : Cycle String} (closed : ClosedWalk root value walk) :
    ∃ pointer, pointer ∈ walk := by
  cases walk using Cycle.induction_on with
  | nil => exact absurd rfl closed.nonempty
  | cons pointer rest => exact ⟨pointer, Cycle.mem_coe_iff.2 List.mem_cons_self⟩

theorem walk_from {walk : Cycle String} (present : pointer ∈ walk) :
    ∃ rest : List String, walk = (pointer :: rest : List String) := by
  obtain ⟨listed, rfl⟩ := Quotient.exists_rep walk
  obtain ⟨before, after, rfl⟩ := List.append_of_mem (Cycle.mem_coe_iff.1 present)
  exact ⟨after ++ before, Cycle.coe_eq_coe.2 List.isRotated_append⟩

theorem ClosedWalk.onward {walk : Cycle String} (closed : ClosedWalk root value walk)
    (present : pointer ∈ walk) : ∃ next ∈ walk, Edge root pointer next := by
  obtain ⟨rest, rfl⟩ := walk_from present
  have leads := closed.leads
  rw [Cycle.chain_coe_cons] at leads
  cases rest with
  | nil => exact ⟨pointer, present, leads.rel_head? rfl⟩
  | cons next others => exact ⟨next, by simp, leads.rel_head? rfl⟩

end Paths

section Preserved

variable {value root : Value} {options : RefOptions} {resolution : Resolution}

/-- Each pointer that stays in place lies on a cycle, and each cycle has a pointer that
stays in place. Where cycles are refused there are neither. -/
theorem preserved_pointers_cut_cycles
    (resolved : resolveRefs value root options = .ok resolution) :
    (∀ pointer ∈ resolution.preserved, ∃ cycle, ClosedWalk root value cycle ∧ cycle.Nodup ∧
        pointer ∈ cycle) ∧
      ∀ walk, ClosedWalk root value walk → ∃ pointer ∈ walk, pointer ∈ resolution.preserved := by
  have searched := searched_of_resolved resolved
  constructor
  · intro pointer kept
    obtain ⟨_, reachable, cyclic⟩ := searched.preserved pointer kept
    exact cycle_of_reaches reachable cyclic
  · intro walk closed
    obtain ⟨first, present⟩ := closed.exists_mem
    obtain ⟨kept, preserved, onWalk⟩ := searched.meets (· ∈ walk) closed.reachable
      (fun pointer => closed.onward) first present
    exact ⟨kept, onWalk, preserved⟩

/-- Of the two cycles each keeps the pointer that closes it. -/
theorem nested_cycles_cut :
    resolveRefs (.object (referenceTo "#/components/a")) nestedDocument { onCycle := .preserve } =
        .ok nestedResolution ∧
      (∀ pointer ∈ nestedResolution.preserved, ∃ cycle,
        ClosedWalk nestedDocument (.object (referenceTo "#/components/a")) cycle ∧ cycle.Nodup ∧
          pointer ∈ cycle) ∧
      ∀ walk, ClosedWalk nestedDocument (.object (referenceTo "#/components/a")) walk →
        ∃ pointer ∈ walk, pointer ∈ nestedResolution.preserved :=
  ⟨nested_resolution, preserved_pointers_cut_cycles nested_resolution⟩

end Preserved

end RefLint
