import Kubauth.Upstreams

/-!
# Renamed claims

The renaming rules of an upstream are applied one after the other to the same
map, so that a rule sees what the rules before it have moved.  A rule only
writes a value that it has read; it loses one by overwriting it, which takes a
new name that is a key already.
-/

namespace Kubauth.Upstream

/-! ## One rule -/

/-- A rule that is incomplete, or whose claim is missing, is skipped. -/
theorem applyRenaming_cases (out : Claims) (rule : ClaimRenamingSpec) :
    applyRenaming out rule = out ∨
      ∃ value, GoMap.get out rule.oldName = some value ∧
        (rule.operation = .copy ∧
            applyRenaming out rule = GoMap.set out rule.newName value ∨
          rule.operation ≠ .copy ∧
            applyRenaming out rule =
              GoMap.set (GoMap.delete out rule.oldName) rule.newName
                value) := by
  unfold applyRenaming
  split
  · exact .inl rfl
  · split
    · exact .inl rfl
    · next value found =>
        refine .inr ⟨value, found, ?_⟩
        split
        · next copied => exact .inl ⟨copied, rfl⟩
        · next moved => exact .inr ⟨moved, rfl⟩

theorem exists_get_of_applyRenaming {out : Claims} {rule : ClaimRenamingSpec}
    {key : String} {value : Value}
    (found : GoMap.get (applyRenaming out rule) key = some value) :
    ∃ source, GoMap.get out source = some value := by
  obtain same | ⟨moved, read, ⟨-, same⟩ | ⟨-, same⟩⟩ :=
    applyRenaming_cases out rule
  · rw [same] at found
    exact ⟨key, found⟩
  · rw [same, GoMap.get_set] at found
    split at found
    · exact ⟨rule.oldName, read.trans found⟩
    · exact ⟨key, found⟩
  · rw [same, GoMap.get_set, GoMap.get_delete] at found
    split at found
    · exact ⟨rule.oldName, read.trans found⟩
    · split at found
      · cases found
      · exact ⟨key, found⟩

theorem isSome_get_applyRenaming {out : Claims} {rule : ClaimRenamingSpec}
    (copy : rule.operation = .copy) {key : String}
    (present : (GoMap.get out key).isSome) :
    (GoMap.get (applyRenaming out rule) key).isSome := by
  obtain same | ⟨moved, -, ⟨-, same⟩ | ⟨other, -⟩⟩ :=
    applyRenaming_cases out rule
  · rw [same]
    exact present
  · rw [same, GoMap.get_set]
    split
    · rfl
    · exact present
  · exact absurd copy other

/-! ## Moves to new names -/

/-- The map has one entry for each of its keys, and the new names of the rules
are distinct and none of its keys. -/
structure NewNamesFresh (rules : List ClaimRenamingSpec) (out : Claims) :
    Prop where
  keys : (out.map Prod.fst).Nodup
  names : (rules.map ClaimRenamingSpec.newName).Nodup
  absent : ∀ rule ∈ rules, rule.newName ∉ out.map Prod.fst

section

variable {rule : ClaimRenamingSpec} {rules : List ClaimRenamingSpec}
  {out : Claims}

theorem NewNamesFresh.applyRenaming_eq
    (fresh : NewNamesFresh (rule :: rules) out)
    (moves : rule.operation ≠ .copy) :
    applyRenaming out rule = out ∨
      ∃ value, GoMap.get out rule.oldName = some value ∧
        applyRenaming out rule =
          GoMap.delete out rule.oldName ++ [(rule.newName, value)] := by
  obtain same | ⟨value, read, ⟨copy, -⟩ | ⟨-, same⟩⟩ :=
    applyRenaming_cases out rule
  · exact .inl same
  · exact absurd copy moves
  · refine .inr ⟨value, read, ?_⟩
    have absent : rule.newName ∉
        (GoMap.delete out rule.oldName).map Prod.fst := by
      intro member
      exact fresh.absent rule List.mem_cons_self
        ((GoMap.keys_delete_sublist out rule.oldName).subset member)
    rw [same, GoMap.set_of_notMem absent]

theorem NewNamesFresh.applyRenaming
    (fresh : NewNamesFresh (rule :: rules) out)
    (moves : rule.operation ≠ .copy) :
    NewNamesFresh rules (applyRenaming out rule) := by
  have names := fresh.names
  rw [List.map_cons, List.nodup_cons] at names
  have older : ∀ later ∈ rules, later.newName ∉ out.map Prod.fst :=
    fun later member => fresh.absent later (List.mem_cons_of_mem _ member)
  obtain same | ⟨value, -, same⟩ := fresh.applyRenaming_eq moves
  · rw [same]
    exact ⟨fresh.keys, names.2, older⟩
  · have kept := GoMap.keys_delete_sublist out rule.oldName
    have keys : (Upstream.applyRenaming out rule).map Prod.fst =
        (GoMap.delete out rule.oldName).map Prod.fst ++ [rule.newName] := by
      rw [same, List.map_append]
      rfl
    refine ⟨?_, names.2, ?_⟩
    · rw [keys, List.nodup_append_comm, List.singleton_append,
        List.nodup_cons]
      exact ⟨fun member => fresh.absent rule List.mem_cons_self
        (kept.subset member), fresh.keys.sublist kept⟩
    · intro later member
      rw [keys, List.mem_append, List.mem_singleton, not_or]
      refine ⟨fun present => older later member (kept.subset present), ?_⟩
      intro reused
      exact names.1 (reused ▸ List.mem_map_of_mem member)

theorem NewNamesFresh.values_perm
    (fresh : NewNamesFresh (rule :: rules) out)
    (moves : rule.operation ≠ .copy) :
    ((Upstream.applyRenaming out rule).map Prod.snd).Perm
      (out.map Prod.snd) := by
  obtain same | ⟨value, read, same⟩ := fresh.applyRenaming_eq moves
  · rw [same]
  · have taken := (GoMap.perm_cons_delete fresh.keys read).map Prod.snd
    rw [same, List.map_append]
    exact (List.perm_append_singleton _ _).trans taken.symm

end

/-! ## All rules -/

section

variable {rules : List ClaimRenamingSpec} {out : Claims}

theorem exists_get_of_foldl {key : String} {value : Value}
    (found : GoMap.get (rules.foldl applyRenaming out) key = some value) :
    ∃ source, GoMap.get out source = some value := by
  induction rules generalizing out with
  | nil => exact ⟨key, found⟩
  | cons rule rules induction =>
      obtain ⟨between, held⟩ := induction found
      exact exists_get_of_applyRenaming held

theorem isSome_get_foldl (copies : ∀ rule ∈ rules, rule.operation = .copy)
    {key : String} (present : (GoMap.get out key).isSome) :
    (GoMap.get (rules.foldl applyRenaming out) key).isSome := by
  induction rules generalizing out with
  | nil => exact present
  | cons rule rules induction =>
      rw [List.forall_mem_cons] at copies
      exact induction copies.2 (isSome_get_applyRenaming copies.1 present)

theorem NewNamesFresh.foldl (fresh : NewNamesFresh rules out)
    (moves : ∀ rule ∈ rules, rule.operation ≠ .copy) :
    ((rules.foldl Upstream.applyRenaming out).map Prod.fst).Nodup ∧
      ((rules.foldl Upstream.applyRenaming out).map Prod.snd).Perm
        (out.map Prod.snd) := by
  induction rules generalizing out with
  | nil => exact ⟨fresh.keys, .refl _⟩
  | cons rule rules induction =>
      rw [List.forall_mem_cons] at moves
      obtain ⟨keys, values⟩ :=
        induction (fresh.applyRenaming moves.1) moves.2
      exact ⟨keys, values.trans (fresh.values_perm moves.1)⟩

end

theorem foldl_applyRenaming_nil (rules : List ClaimRenamingSpec) :
    rules.foldl applyRenaming [] = [] := by
  induction rules with
  | nil => rfl
  | cons rule rules induction =>
      obtain same | ⟨value, read, -⟩ := applyRenaming_cases [] rule
      · rw [List.foldl_cons, same, induction]
      · cases read

theorem entries_performRenaming (upstream : Upstream) (claims : ClaimSet) :
    (upstream.performRenaming claims).entries =
      upstream.spec.claimRenamings.foldl applyRenaming claims.entries := by
  cases claims with
  | none => exact (foldl_applyRenaming_nil _).symm
  | some out => rfl

/-- Keys that no rule names keep their values, every value comes from the
input, copies lose no key, and moves to names that are new and distinct lose no
value. -/
theorem performRenaming_keepsClaims (upstream : Upstream)
    (claims : ClaimSet) :
    (∀ key,
      (∀ rule ∈ upstream.spec.claimRenamings,
        rule.oldName ≠ key ∧ rule.newName ≠ key) →
      GoMap.get (upstream.performRenaming claims).entries key =
        GoMap.get claims.entries key) ∧
    (∀ key value,
      GoMap.get (upstream.performRenaming claims).entries key = some value →
      ∃ source, GoMap.get claims.entries source = some value) ∧
    ((∀ rule ∈ upstream.spec.claimRenamings, rule.operation = .copy) →
      ∀ key, (GoMap.get claims.entries key).isSome →
        (GoMap.get (upstream.performRenaming claims).entries key).isSome) ∧
    ((claims.entries.map Prod.fst).Nodup →
      (upstream.spec.claimRenamings.map ClaimRenamingSpec.newName).Nodup →
      (∀ rule ∈ upstream.spec.claimRenamings,
        rule.newName ∉ claims.entries.map Prod.fst) →
      (∀ rule ∈ upstream.spec.claimRenamings, rule.operation ≠ .copy) →
      ((upstream.performRenaming claims).entries.map Prod.fst).Nodup ∧
        ((upstream.performRenaming claims).entries.map Prod.snd).Perm
          (claims.entries.map Prod.snd)) := by
  refine ⟨fun key unnamed => get_performRenaming upstream claims unnamed,
    ?_, ?_, ?_⟩
  · intro key value found
    rw [entries_performRenaming] at found
    exact exists_get_of_foldl found
  · intro copies key present
    rw [entries_performRenaming]
    exact isSome_get_foldl copies present
  · intro keys names absent moves
    have fresh : NewNamesFresh upstream.spec.claimRenamings claims.entries :=
      ⟨keys, names, absent⟩
    rw [entries_performRenaming]
    exact fresh.foldl moves

end Kubauth.Upstream
