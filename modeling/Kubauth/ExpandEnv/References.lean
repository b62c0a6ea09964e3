import Kubauth.Delimited.Exposed
import Kubauth.ExpandEnv.Factorization

/-!
# References that are not expanded

A dollar that ends an unfinished reference is not looked at again, so that the
reference which begins there is copied as it is, and nobody is told when its
variable is missing.  This is all that can go wrong: the references that are
found are the exposed ones.
-/

namespace Kubauth.ExpandEnv

/-- A reference to the variable stands in the text after `before`. -/
def Refers (s before name : Bytes) : Prop :=
  delimiters.IsName name ∧
    ∃ after, s = before ++ delimiters.reference name ++ after

/-- No reference is copied, and it is an error if a variable that is referred to
is missing. -/
structure ExpandsAll (getenv : Bytes → Bytes) (s : Bytes) : Prop where
  copied : ∀ output, expandPieces getenv s = .ok output →
    ∀ chunk, .copied chunk ∈ output →
      ∀ name, delimiters.IsName name →
        ¬delimiters.reference name <:+: chunk
  missing : (∃ failure, expandEnv getenv s = .error (.missing failure)) ↔
    ∃ before name, Refers s before name ∧ getenv name = []

section

variable {getenv : Bytes → Bytes} {s : Bytes}

theorem copied_mem_pieces {found : List (Bytes × Bytes)} {chunk : Bytes} :
    .copied chunk ∈ pieces getenv found ↔ chunk ∈ found.map Prod.fst := by
  induction found with
  | nil => simp [pieces]
  | cons part rest induction =>
      rw [pieces, List.flatMap_cons, ← pieces]
      simp [induction]

theorem copied_mem_iff {chunk : Bytes} :
    .copied chunk ∈ pieces getenv (delimiters.parse s).found ++
        [.copied ((delimiters.parse s).literal ++
          delimiters.pending (delimiters.parse s).mode)] ↔
      chunk ∈ delimiters.literals (delimiters.parse s) := by
  rw [Delimiters.literals, List.mem_append, List.mem_append,
    copied_mem_pieces, List.mem_singleton, List.mem_singleton,
    Piece.copied.injEq]

theorem found_iff_refers {name : Bytes} :
    (∃ literal, (literal, name) ∈ (delimiters.parse s).found) ↔
      ∃ before, Refers s before name ∧ delimiters.Exposed before := by
  rw [Delimiters.mem_found_iff]
  constructor
  · rintro ⟨valid, before, after, same, exposed⟩
    exact ⟨before, ⟨valid, after, same⟩, exposed⟩
  · rintro ⟨before, ⟨valid, after, same⟩, exposed⟩
    exact ⟨valid, before, after, same, exposed⟩

theorem Misses.refers {before name : Bytes}
    (misses : Misses getenv s before name) :
    ∃ start, Refers s start name ∧ delimiters.Exposed start := by
  rw [← found_iff_refers]
  obtain ⟨after, split⟩ := misses.split
  have next : delimiters.parse (before ++ [rightBrace]) = _ :=
    delimiters.parse_closing misses.named
  have later := delimiters.found_prefix_foldl_next
    (delimiters.parse (before ++ [rightBrace])) after
  rw [← delimiters.parse_append, List.append_assoc, List.singleton_append,
    ← split, next] at later
  exact ⟨(delimiters.parse before).literal,
    later.subset (List.mem_append_right _ List.mem_cons_self)⟩

/-- It is an error if and only if the variable of an exposed reference is
missing. -/
theorem missing_iff_exposed :
    (∃ failure, expandEnv getenv s = .error (.missing failure)) ↔
      ∃ before name, Refers s before name ∧ delimiters.Exposed before ∧
        getenv name = [] := by
  rw [expandEnv]
  obtain ⟨defined, expands⟩ | ⟨before, name, misses, stops⟩ :=
    expandPieces_cases getenv s
  · rw [expands]
    refine iff_of_false ?_ ?_
    · rintro ⟨failure, fails⟩
      cases fails
    · rintro ⟨before, name, refers, exposed, missing⟩
      obtain ⟨literal, member⟩ := found_iff_refers.mpr
        ⟨before, refers, exposed⟩
      exact defined _ member missing
  · rw [stops]
    obtain ⟨start, refers, exposed⟩ := misses.refers
    exact iff_of_true ⟨_, rfl⟩
      ⟨start, name, refers, exposed, misses.missing⟩

theorem not_refers_copied_iff {output : List Piece}
    (expands : expandPieces getenv s = .ok output) :
    (∀ chunk, .copied chunk ∈ output → ∀ name, delimiters.IsName name →
        ¬delimiters.reference name <:+: chunk) ↔
      ∀ before name, Refers s before name → delimiters.Exposed before := by
  obtain ⟨-, same⟩ | ⟨before, name, -, stops⟩ := expandPieces_cases getenv s
  · rw [same] at expands
    cases expands
    simp only [copied_mem_iff]
    rw [Delimiters.literals_free_iff]
    constructor
    · rintro exposed before name ⟨valid, after, split⟩
      exact exposed before name after valid split
    · intro exposed before name after valid split
      exact exposed before name ⟨valid, after, split⟩
  · rw [stops] at expands
    cases expands

end

/-- Every reference is expanded or reported if and only if one that is exposed is
reported or all of them are exposed. -/
theorem expandsAll_iff (getenv : Bytes → Bytes) (s : Bytes) :
    ExpandsAll getenv s ↔
      (∃ before name, Refers s before name ∧ delimiters.Exposed before ∧
        getenv name = []) ∨
      ∀ before name, Refers s before name → delimiters.Exposed before := by
  constructor
  · intro expandsAll
    obtain ⟨defined, expands⟩ | ⟨before, name, misses, stops⟩ :=
      expandPieces_cases getenv s
    · exact .inr ((not_refers_copied_iff expands).mp
        (expandsAll.copied _ expands))
    · obtain ⟨start, refers, exposed⟩ := misses.refers
      exact .inl ⟨start, name, refers, exposed, misses.missing⟩
  · rintro (⟨before, name, refers, exposed, missing⟩ | exposed)
    · have reported := missing_iff_exposed.mpr
        ⟨before, name, refers, exposed, missing⟩
      refine ⟨?_, iff_of_true reported ⟨before, name, refers, missing⟩⟩
      intro output expands
      obtain ⟨failure, fails⟩ := reported
      rw [expandEnv, expands] at fails
      cases fails
    · refine ⟨fun output expands =>
        (not_refers_copied_iff expands).mpr exposed, ?_⟩
      rw [missing_iff_exposed]
      constructor
      · rintro ⟨before, name, refers, -, missing⟩
        exact ⟨before, name, refers, missing⟩
      · rintro ⟨before, name, refers, missing⟩
        exact ⟨before, name, refers, exposed before name refers, missing⟩

/-- A reference after a dollar is copied, whether its variable is defined or
not. -/
theorem reference_after_dollar_copied :
    expandEnv (fun _ => ascii "/root") (ascii "$$\x7bHOME\x7d") =
        .ok (ascii "$$\x7bHOME\x7d") ∧
      expandEnv (fun _ => []) (ascii "$$\x7bHOME\x7d") =
        .ok (ascii "$$\x7bHOME\x7d") ∧
      ¬ExpandsAll (fun _ => ascii "/root") (ascii "$$\x7bHOME\x7d") ∧
      ¬ExpandsAll (fun _ => []) (ascii "$$\x7bHOME\x7d") := by
  refine ⟨by decide, by decide, ?_, ?_⟩
  · intro expandsAll
    exact expandsAll.copied [.copied (ascii "$$\x7bHOME\x7d")] (by decide)
      _ List.mem_cons_self (ascii "HOME") (by decide)
      ⟨[dollar], [], by decide⟩
  · intro expandsAll
    obtain ⟨failure, fails⟩ := expandsAll.missing.mpr
      ⟨[dollar], ascii "HOME", ⟨by decide, [], by decide⟩, rfl⟩
    cases fails

end Kubauth.ExpandEnv
