import LetLang.Program.Basic
import LetLang.Proofs.Outcome
import Mathlib.Data.List.Nodup

/-! Names in a program that grows: what a name finds, it finds for good. -/
namespace LetLang

namespace Program

variable {program : Program} {node : Node} {name : String} {declared : Variable}

theorem declaration_of_find? (found : program.find? name = some declared) :
    ∃ index : Nat, program.body[index]? = some (.declaration declared) ∧
      declared.name? = some name := by
  have member := List.mem_of_find?_eq_some found
  have same := List.find?_some found
  rcases List.mem_filterMap.mp member with ⟨node, present, declares⟩
  rcases List.mem_iff_getElem?.mp present with ⟨index, stands⟩
  cases node with
  | declaration cell =>
      cases declares
      exact ⟨index, stands, beq_iff_eq.mp same⟩
  | call made => cases declares

theorem find?_of_declared (distinct : (program.body.map Node.name?).Nodup)
    (stored : .declaration declared ∈ program.body) (named : declared.name? = some name) :
    program.find? name = some declared := by
  have member : declared ∈ program.body.filterMap Node.declared? :=
    List.mem_filterMap.mpr ⟨_, stored, rfl⟩
  have some : (program.find? name).isSome :=
    List.find?_isSome.mpr ⟨declared, member, beq_iff_eq.mpr named⟩
  rcases Option.isSome_iff_exists.mp some with ⟨other, found⟩
  rcases declaration_of_find? found with ⟨index, stands, same⟩
  have equal := List.inj_on_of_nodup_map distinct stored (List.mem_of_getElem? stands)
    (named.trans same.symm)
  cases equal
  exact found

theorem find?_push (found : program.find? name = some declared) (node : Node) :
    (program.push node).find? name = some declared := by
  have kept : (program.body.filterMap Node.declared?).find? (·.name? == some name) =
      some declared := found
  simp only [find?, push, List.filterMap_append, List.find?_append, kept, Option.some_or]

theorem mem_push {stored : Node} :
    stored ∈ (program.push node).body ↔ stored ∈ program.body ∨ stored = node := by
  rw [push, List.mem_append, List.mem_singleton]

theorem getElem?_push {index : Nat} {stored : Node} (stands : program.body[index]? = some stored) :
    (program.push node).body[index]? = some stored := by
  rcases List.getElem?_eq_some_iff.mp stands with ⟨before, _⟩
  rw [push, List.getElem?_append_left before]
  exact stands

theorem getElem?_push_cases {index : Nat} {stored : Node}
    (stands : (program.push node).body[index]? = some stored) :
    program.body[index]? = some stored ∨ index = program.body.length ∧ stored = node := by
  by_cases before : index < program.body.length
  · left
    rw [← stands]
    exact (List.getElem?_append_left before).symm
  · right
    have after : program.body.length ≤ index := Nat.le_of_not_lt before
    rw [push, List.getElem?_append_right after] at stands
    rcases List.getElem?_eq_some_iff.mp stands with ⟨bound, same⟩
    have last : index = program.body.length := by
      simp only [List.length_singleton] at bound
      omega
    simp only [last, Nat.sub_self, List.getElem_cons_zero] at same
    exact ⟨last, same.symm⟩

theorem containsName_eq_false :
    program.containsName name = false ↔ some name ∉ program.body.map Node.name? := by
  rw [← Bool.not_eq_true]
  apply not_congr
  simp only [containsName, List.any_eq_true, List.mem_map, beq_iff_eq]

theorem nodup_push (distinct : (program.body.map Node.name?).Nodup)
    (named : node.name? = some name) (fresh : program.containsName name = false) :
    ((program.push node).body.map Node.name?).Nodup := by
  rw [push, List.map_append, List.map_singleton, named]
  apply List.nodup_append.mpr
  refine ⟨distinct, List.pairwise_singleton _ _, ?_⟩
  intro taken member same last equal
  rw [List.mem_singleton.mp last] at equal
  rw [equal] at member
  exact containsName_eq_false.mp fresh member

end Program

namespace Reference

theorem resolve_eq_ok {reference : Reference} {program : Program} {found : Variable} :
    reference.resolve program = .ok found ↔ program.find? reference.name = some found := by
  rw [resolve]
  cases program.find? reference.name with
  | none => simp
  | some declared => simp

theorem new_eq_ok {name : String} {program : Program} {made : Reference} :
    new name program = .ok made ↔ (∃ found, program.find? name = some found) ∧ made = ⟨name⟩ := by
  rw [new, resolve]
  cases program.find? name with
  | none => simp [bind, Except.bind]
  | some declared => simp [bind, Except.bind, pure, Except.pure, eq_comm]

end Reference
end LetLang
