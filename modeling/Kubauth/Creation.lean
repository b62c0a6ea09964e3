import Mathlib.Data.List.Nodup

/-!
# Records created under their keys

A record is created only if no other has its key.  Each of a list of records is
tried in turn, and a refusal changes nothing.  All of them are there afterwards
exactly if their keys are distinct, and new.
-/

namespace Creation

variable {α : Type u} {κ : Type v} {key : α → κ} {records created : List α}
  {record : α}

/-- No key is taken, and no two are the same. -/
structure Fresh (key : α → κ) (records created : List α) : Prop where
  distinct : (created.map key).Nodup
  unused : ∀ record ∈ created, key record ∉ records.map key

theorem fresh_cons :
    Fresh key records (record :: created) ↔
      key record ∉ records.map key ∧ Fresh key (records ++ [record]) created := by
  constructor
  · rintro ⟨distinct, unused⟩
    rw [List.map_cons, List.nodup_cons] at distinct
    refine ⟨unused record List.mem_cons_self, distinct.2, ?_⟩
    intro later member taken
    rw [List.map_append, List.mem_append] at taken
    rcases taken with before | same
    · exact unused later (List.mem_cons_of_mem record member) before
    · rw [← List.eq_of_mem_singleton same] at distinct
      exact distinct.1 (List.mem_map_of_mem member)
  · rintro ⟨free, distinct, unused⟩
    have apart : key record ∉ created.map key := by
      intro taken
      obtain ⟨later, member, same⟩ := List.mem_map.mp taken
      apply unused later member
      rw [same, List.map_append]
      exact List.mem_append_right _ List.mem_cons_self
    refine ⟨List.nodup_cons.mpr ⟨apart, distinct⟩, ?_⟩
    intro later member taken
    rcases List.mem_cons.mp member with rfl | further
    · exact free taken
    · apply unused later further
      rw [List.map_append]
      exact List.mem_append_left _ taken

variable [DecidableEq κ]

/-- The records once one more is created, if its key is not taken. -/
def create (key : α → κ) (records : List α) (record : α) : Option (List α) :=
  if key record ∈ records.map key then none else some (records ++ [record])

/-- The records after trying to create each of a list. -/
def createAll (key : α → κ) (records created : List α) : List α :=
  created.foldl
    (fun present record => (create key present record).getD present) records

theorem create_of_mem (taken : key record ∈ records.map key) :
    create key records record = none :=
  if_pos taken

theorem create_of_not_mem (free : key record ∉ records.map key) :
    create key records record = some (records ++ [record]) :=
  if_neg free

theorem createAll_cons_of_mem (taken : key record ∈ records.map key) :
    createAll key records (record :: created) =
      createAll key records created := by
  rw [createAll, List.foldl_cons, create_of_mem taken]
  rfl

theorem createAll_cons_of_not_mem (free : key record ∉ records.map key) :
    createAll key records (record :: created) =
      createAll key (records ++ [record]) created := by
  rw [createAll, List.foldl_cons, create_of_not_mem free]
  rfl

theorem length_createAll_le (key : α → κ) (records created : List α) :
    (createAll key records created).length ≤
      records.length + created.length := by
  induction created generalizing records with
  | nil => exact Nat.le_refl _
  | cons record created induction =>
      by_cases taken : key record ∈ records.map key
      · rw [createAll_cons_of_mem taken, List.length_cons]
        have bound := induction records
        omega
      · rw [createAll_cons_of_not_mem taken, List.length_cons]
        have bound := induction (records ++ [record])
        rw [List.length_append, List.length_singleton] at bound
        omega

theorem Fresh.createAll_eq (fresh : Fresh key records created) :
    createAll key records created = records ++ created := by
  induction created generalizing records with
  | nil => exact (List.append_nil records).symm
  | cons record created induction =>
      obtain ⟨free, rest⟩ := fresh_cons.mp fresh
      rw [createAll_cons_of_not_mem free, induction rest, List.append_assoc]
      rfl

theorem fresh_of_length_createAll
    (all : (createAll key records created).length =
      records.length + created.length) :
    Fresh key records created := by
  induction created generalizing records with
  | nil => exact ⟨List.nodup_nil, fun _ member => nomatch member⟩
  | cons record created induction =>
      rw [List.length_cons] at all
      by_cases taken : key record ∈ records.map key
      · rw [createAll_cons_of_mem taken] at all
        have bound := length_createAll_le key records created
        omega
      · rw [createAll_cons_of_not_mem taken] at all
        refine fresh_cons.mpr ⟨taken, induction ?_⟩
        rw [all, List.length_append, List.length_singleton]
        omega

end Creation
