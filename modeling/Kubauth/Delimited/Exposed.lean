import Kubauth.Delimited
import Mathlib.Algebra.Group.Nat.Even
import Mathlib.Data.List.Infix

/-!
# The references that a scanner finds

A symbol that ends an unfinished reference is read with it, so a marker that
does this starts no reference of its own.  The references that are found are
therefore those with an even number of unfinished ones directly before them,
which is said here without the scanner.  All others stay in the literal texts.
-/

namespace Delimiters

section

variable {α : Type u} (delimiters : Delimiters α)

/-- `Trailing number text`: the text ends with so many unfinished references,
one directly after the other. -/
inductive Trailing : Nat → List α → Prop where
  | none {text : List α}
      (ended : ∀ rest candidate, delimiters.Unfinished candidate →
        text ≠ rest ++ candidate) :
      Trailing 0 text
  | more {number : Nat} {rest candidate : List α}
      (before : Trailing number rest)
      (unfinished : delimiters.Unfinished candidate) :
      Trailing (number + 1) (rest ++ candidate)

/-- The unfinished references at the end of the text are even in number. -/
def Exposed (text : List α) : Prop :=
  ∃ number, delimiters.Trailing number text ∧ Even number

variable {delimiters}

theorem Unfinished.ne_nil {candidate : List α}
    (unfinished : delimiters.Unfinished candidate) : candidate ≠ [] := by
  cases unfinished with
  | marked => exact List.cons_ne_nil _ _
  | named valid => exact List.cons_ne_nil _ _

theorem IsName.marker_notMem {name : List α}
    (valid : delimiters.IsName name) : delimiters.marker ∉ name := by
  intro member
  have marked := valid _ member
  rw [delimiters.marker_not_name] at marked
  cases marked

/-- The marker is the first symbol of what it starts, and no other. -/
theorem Unfinished.eq_cons {candidate : List α}
    (unfinished : delimiters.Unfinished candidate) :
    ∃ rest, candidate = delimiters.marker :: rest ∧
      delimiters.marker ∉ rest := by
  cases unfinished with
  | marked => exact ⟨[], rfl, List.not_mem_nil⟩
  | @named name valid =>
      refine ⟨_, rfl, ?_⟩
      rw [List.mem_cons, not_or]
      exact ⟨delimiters.marker_ne_opening, valid.marker_notMem⟩

theorem IsName.marker_notMem_tail {name : List α}
    (valid : delimiters.IsName name) :
    delimiters.marker ∉
      delimiters.opening :: (name ++ [delimiters.closing]) := by
  rw [List.mem_cons, List.mem_append, List.mem_singleton, not_or, not_or]
  exact ⟨delimiters.marker_ne_opening, valid.marker_notMem,
    delimiters.marker_ne_closing⟩

variable (delimiters) in
theorem exists_trailing (text : List α) :
    ∃ number, delimiters.Trailing number text := by
  by_cases ended : ∀ rest candidate, delimiters.Unfinished candidate →
      text ≠ rest ++ candidate
  · exact ⟨0, .none ended⟩
  · push Not at ended
    obtain ⟨rest, candidate, unfinished, same⟩ := ended
    have shorter : rest.length < text.length := by
      have nonempty := List.length_pos_iff.mpr unfinished.ne_nil
      rw [same, List.length_append]
      omega
    obtain ⟨number, before⟩ := exists_trailing rest
    exact ⟨number + 1, same ▸ .more before unfinished⟩
termination_by text.length

end

section

variable {α : Type u} {delimiters : Delimiters α} [DecidableEq α]

/-! ## Reading on -/

variable {progress : Progress α}

theorem foldl_next_of_free {text : List α} (plain : progress.mode = .plain)
    (free : delimiters.marker ∉ text) :
    text.foldl delimiters.next progress =
      { progress with literal := progress.literal ++ text } := by
  induction text generalizing progress with
  | nil =>
      rw [List.foldl_nil, List.append_nil]
  | cons symbol rest induction =>
      rw [List.mem_cons, not_or] at free
      have copied : delimiters.next progress symbol =
          { progress with literal := progress.literal ++ [symbol] } := by
        rw [next_of_plain delimiters plain, if_neg (Ne.symm free.1)]
      have later := @induction
        { progress with literal := progress.literal ++ [symbol] } plain free.2
      rw [List.foldl_cons, copied, later]
      simp only [List.append_assoc, List.singleton_append]

theorem foldl_next_name {before name : List α}
    (named : progress.mode = .named before)
    (valid : delimiters.IsName name) :
    name.foldl delimiters.next progress =
      { progress with mode := .named (before ++ name) } := by
  induction name generalizing progress before with
  | nil =>
      rw [List.foldl_nil, List.append_nil, ← named]
  | cons symbol rest induction =>
      have accepted := valid symbol List.mem_cons_self
      have continues : symbol ≠ delimiters.closing := by
        intro same
        rw [same, delimiters.closing_not_name] at accepted
        cases accepted
      have longer : delimiters.next progress symbol =
          { progress with mode := .named (before ++ [symbol]) } := by
        rw [next_of_named delimiters named, if_neg continues,
          if_pos accepted]
      rw [List.foldl_cons, longer, induction rfl fun other member =>
        valid other (List.mem_cons_of_mem _ member)]
      simp only [List.append_assoc, List.singleton_append]

theorem foldl_next_opening {name : List α} (plain : progress.mode = .plain)
    (valid : delimiters.IsName name) :
    (delimiters.marker :: delimiters.opening :: name).foldl delimiters.next
        progress =
      { progress with mode := .named name } := by
  have marks : delimiters.next progress delimiters.marker =
      { progress with mode := .marked } := by
    rw [next_of_plain delimiters plain, if_pos rfl]
  have opens : delimiters.next { progress with mode := .marked }
      delimiters.opening = { progress with mode := .named [] } :=
    if_pos rfl
  rw [List.foldl_cons, marks, List.foldl_cons, opens,
    foldl_next_name rfl valid, List.nil_append]

theorem foldl_next_reference {name : List α} (plain : progress.mode = .plain)
    (valid : delimiters.IsName name) :
    (delimiters.reference name).foldl delimiters.next progress =
      { found := progress.found ++ [(progress.literal, name)]
        literal := []
        mode := .plain } := by
  rw [← pending_named_closing, List.foldl_append, pending_named,
    foldl_next_opening plain valid]
  exact if_pos rfl

/-- Where something is started, a marker ends it and starts nothing. -/
theorem foldl_next_of_started {rest : List α}
    (started : progress.mode ≠ .plain) (free : delimiters.marker ∉ rest) :
    (delimiters.marker :: rest).foldl delimiters.next progress =
      { found := progress.found
        literal := progress.literal ++ delimiters.pending progress.mode ++
          delimiters.marker :: rest
        mode := .plain } := by
  have ended : delimiters.next progress delimiters.marker =
      { found := progress.found
        literal := progress.literal ++ delimiters.pending progress.mode ++
          [delimiters.marker]
        mode := .plain } := by
    obtain ⟨found, literal, mode⟩ := progress
    cases mode with
    | plain => exact absurd rfl started
    | marked =>
        rw [next]
        simp only [if_neg delimiters.marker_ne_opening, pending_marked,
          List.append_assoc, List.singleton_append]
    | named name =>
        have rejected : ¬delimiters.isName delimiters.marker = true := by
          rw [delimiters.marker_not_name]
          exact Bool.false_ne_true
        rw [next]
        simp only [if_neg delimiters.marker_ne_closing, if_neg rejected,
          pending_named, List.append_assoc, List.cons_append]
  rw [List.foldl_cons, ended, foldl_next_of_free rfl free]
  simp only [List.append_assoc, List.singleton_append]

/-! ## What is started after a text -/

/-- Of the unfinished references at the end of a text, the scanner starts every
second one. -/
theorem Trailing.mode_eq_plain_iff {number : Nat} {text : List α}
    (trailing : delimiters.Trailing number text) :
    (delimiters.parse text).mode = .plain ↔ Even number := by
  induction trailing with
  | @none text ended =>
      refine iff_of_true ?_ Even.zero
      have reads := delimiters.parse_reads text
      obtain plain | unfinished := reads.started
      · exact plain
      · exact absurd reads.text_eq.symm (ended _ _ unfinished)
  | @more number rest candidate before unfinished induction =>
      rw [Nat.even_add_one, ← induction, parse_append]
      by_cases plain : (delimiters.parse rest).mode = .plain
      · refine iff_of_false ?_ (not_not_intro plain)
        cases unfinished with
        | marked =>
            rw [List.foldl_cons, next_of_plain delimiters plain, if_pos rfl]
            exact Mode.marked_ne_plain
        | named valid =>
            rw [foldl_next_opening plain valid]
            exact Mode.named_ne_plain _
      · obtain ⟨tail, rfl, free⟩ := unfinished.eq_cons
        rw [foldl_next_of_started plain free]
        exact iff_of_true rfl plain

variable (delimiters) in
theorem exposed_iff (text : List α) :
    delimiters.Exposed text ↔ (delimiters.parse text).mode = .plain := by
  constructor
  · rintro ⟨number, trailing, even⟩
    exact trailing.mode_eq_plain_iff.mpr even
  · intro plain
    obtain ⟨number, trailing⟩ := delimiters.exists_trailing text
    exact ⟨number, trailing, trailing.mode_eq_plain_iff.mp plain⟩

/-! ## The references that are found -/

variable (delimiters) in
/-- At the end of each literal text the scanner has started nothing and knows
the references before it. -/
structure Replays (progress : Progress α) : Prop where
  last : delimiters.parse
      (delimiters.written progress.found ++ progress.literal) =
    { progress with mode := .plain }
  earlier : ∀ before literal name after,
    progress.found = before ++ (literal, name) :: after →
    delimiters.parse (delimiters.written before ++ literal) =
      { found := before, literal := literal, mode := .plain }

variable (delimiters) in
theorem parse_replays (text : List α) :
    delimiters.Replays (delimiters.parse text) := by
  induction text using List.reverseRecOn with
  | nil =>
      refine ⟨rfl, ?_⟩
      intro before literal name after same
      exact absurd same.symm (by simp [parse])
  | append_singleton text symbol induction =>
      -- where nothing is started, the literal text ends with the whole text
      have whole : (delimiters.parse (text ++ [symbol])).mode = .plain →
          delimiters.parse (delimiters.written
              (delimiters.parse (text ++ [symbol])).found ++
            (delimiters.parse (text ++ [symbol])).literal) =
          { delimiters.parse (text ++ [symbol]) with mode := .plain } := by
        intro plain
        have read := (delimiters.parse_reads (text ++ [symbol])).text_eq
        rw [plain, pending_plain, List.append_nil] at read
        rw [read, ← plain]
      rw [parse_concat] at whole ⊢
      obtain ⟨mode, -, -, -, same⟩ | ⟨name, -, -, same⟩ | same :=
        delimiters.next_cases (delimiters.parse text) symbol
      · rw [same]
        exact ⟨induction.last, induction.earlier⟩
      · rw [same] at whole ⊢
        refine ⟨whole rfl, ?_⟩
        intro before literal other after split
        obtain rfl | ⟨others, final, rfl⟩ := List.eq_nil_or_concat after
        · obtain ⟨rfl, pair⟩ := List.append_inj' split rfl
          cases pair
          exact induction.last
        · rw [List.concat_eq_append, ← List.cons_append,
            ← List.append_assoc] at split
          exact induction.earlier before literal other others
            (List.append_inj' split rfl).1
      · rw [same] at whole ⊢
        exact ⟨whole rfl, induction.earlier⟩

variable (delimiters) in
theorem found_prefix_foldl_next (progress : Progress α) (text : List α) :
    progress.found <+: (text.foldl delimiters.next progress).found := by
  induction text generalizing progress with
  | nil => exact List.prefix_rfl
  | cons symbol rest induction =>
      refine List.IsPrefix.trans ?_ (induction _)
      obtain ⟨mode, -, -, -, same⟩ | ⟨name, -, -, same⟩ | same :=
        delimiters.next_cases progress symbol
      · rw [same]
      · rw [same]
        exact List.prefix_append _ _
      · rw [same]

theorem exists_found_of_exposed {before name : List α}
    (exposed : delimiters.Exposed before)
    (valid : delimiters.IsName name) (after : List α) :
    ∃ later,
      (delimiters.parse
        (before ++ delimiters.reference name ++ after)).found =
      (delimiters.parse before).found ++
        ((delimiters.parse before).literal, name) :: later := by
  have plain := (delimiters.exposed_iff before).mp exposed
  rw [parse_append, parse_append, foldl_next_reference plain valid]
  obtain ⟨later, more⟩ := delimiters.found_prefix_foldl_next
    { found := (delimiters.parse before).found ++
        [((delimiters.parse before).literal, name)]
      literal := []
      mode := .plain } after
  exact ⟨later, more.symm.trans (List.append_assoc _ [_] later)⟩

theorem length_le_of_exposed {before name : List α}
    (exposed : delimiters.Exposed before)
    (valid : delimiters.IsName name) (after : List α) :
    (before ++ delimiters.reference name).length ≤
      (delimiters.written (delimiters.parse
        (before ++ delimiters.reference name ++ after)).found).length := by
  obtain ⟨later, found⟩ := exists_found_of_exposed exposed valid after
  have read := (delimiters.parse_reads before).text_eq
  rw [(delimiters.exposed_iff before).mp exposed, pending_plain,
    List.append_nil] at read
  rw [found, List.append_cons, written_append, written_concat, read]
  exact (List.prefix_append _ _).length_le

theorem mem_found_iff {text name : List α} :
    (∃ literal, (literal, name) ∈ (delimiters.parse text).found) ↔
      delimiters.IsName name ∧ ∃ before after,
        text = before ++ delimiters.reference name ++ after ∧
          delimiters.Exposed before := by
  constructor
  · rintro ⟨literal, member⟩
    have reads := delimiters.parse_reads text
    refine ⟨reads.names _ member, ?_⟩
    obtain ⟨earlier, later, split⟩ := List.append_of_mem member
    have start := (delimiters.parse_replays text).earlier _ _ _ _ split
    refine ⟨delimiters.written earlier ++ literal,
      delimiters.written later ++ (delimiters.parse text).literal ++
        delimiters.pending (delimiters.parse text).mode, ?_, ?_⟩
    · have read := reads.text_eq
      rw [split, List.append_cons, written_append, written_concat] at read
      refine read.symm.trans ?_
      simp only [List.append_assoc]
    · rw [exposed_iff, start]
  · rintro ⟨valid, before, after, rfl, exposed⟩
    obtain ⟨later, found⟩ := exists_found_of_exposed exposed valid after
    refine ⟨(delimiters.parse before).literal, ?_⟩
    rw [found]
    exact List.mem_append_right _ List.mem_cons_self

/-! ## The references that are not found -/

/-- The symbols are part of a literal text that no reference will take. -/
def Held (piece : List α) (progress : Progress α) : Prop :=
  (∃ part ∈ progress.found, piece <:+: part.1) ∨ piece <:+: progress.literal

variable (delimiters) in
theorem Held.foldl_next {piece : List α} {progress : Progress α}
    (held : Held piece progress) (text : List α) :
    Held piece (text.foldl delimiters.next progress) := by
  induction text generalizing progress with
  | nil => exact held
  | cons symbol rest induction =>
      refine induction ?_
      obtain ⟨mode, -, -, -, same⟩ | ⟨name, -, -, same⟩ | same :=
        delimiters.next_cases progress symbol
      · rw [same]
        exact held
      · rw [same]
        left
        obtain ⟨part, member, within⟩ | within := held
        · exact ⟨part, List.mem_append_left _ member, within⟩
        · exact ⟨(progress.literal, name),
            List.mem_append_right _ List.mem_cons_self, within⟩
      · rw [same]
        obtain taken | within := held
        · exact .inl taken
        · refine .inr (within.trans ?_)
          dsimp only
          rw [List.append_assoc]
          exact (List.prefix_append _ _).isInfix

omit [DecidableEq α] in
variable (delimiters) in
theorem Held.exists_literal {piece : List α} {progress : Progress α}
    (held : Held piece progress) :
    ∃ literal ∈ delimiters.literals progress, piece <:+: literal := by
  obtain ⟨part, member, within⟩ | within := held
  · exact ⟨part.1, List.mem_append_left _ (List.mem_map_of_mem member),
      within⟩
  · exact ⟨_, List.mem_append_right _ List.mem_cons_self,
      within.trans (List.prefix_append _ _).isInfix⟩

theorem exists_literal_of_not_exposed {before name : List α}
    (hidden : ¬delimiters.Exposed before)
    (valid : delimiters.IsName name) (after : List α) :
    ∃ literal ∈ delimiters.literals (delimiters.parse
        (before ++ delimiters.reference name ++ after)),
      delimiters.reference name <:+: literal := by
  rw [exposed_iff] at hidden
  have held : Held (delimiters.reference name)
      (delimiters.parse (before ++ delimiters.reference name)) := by
    rw [parse_append, reference,
      foldl_next_of_started hidden valid.marker_notMem_tail]
    exact .inr (List.suffix_append _ _).isInfix
  rw [parse_append]
  exact (held.foldl_next delimiters after).exists_literal delimiters

/-- If the scanner is at `found` after a literal text, then no reference in the
text was exposed. -/
theorem exists_not_exposed_of_within {found : List (List α × List α)}
    {literal name : List α}
    (known : (delimiters.parse
      (delimiters.written found ++ literal)).found = found)
    (valid : delimiters.IsName name)
    (within : delimiters.reference name <:+: literal) (more : List α) :
    ∃ before after,
      delimiters.written found ++ literal ++ more =
        before ++ delimiters.reference name ++ after ∧
      ¬delimiters.Exposed before := by
  obtain ⟨start, rest, rfl⟩ := within
  refine ⟨delimiters.written found ++ start, rest ++ more, ?_, ?_⟩
  · simp only [List.append_assoc]
  · intro exposed
    have position := length_le_of_exposed exposed valid rest
    simp only [List.append_assoc] at known
    simp only [List.append_assoc, known] at position
    simp only [reference, List.length_append, List.length_cons] at position
    omega

theorem exists_not_exposed_of_literal {text literal name : List α}
    (member : literal ∈ delimiters.literals (delimiters.parse text))
    (valid : delimiters.IsName name)
    (within : delimiters.reference name <:+: literal) :
    ∃ before after, text = before ++ delimiters.reference name ++ after ∧
      ¬delimiters.Exposed before := by
  have read := (delimiters.parse_reads text).text_eq
  obtain earlier | last := List.mem_append.mp member
  · obtain ⟨⟨part, next⟩, found, rfl⟩ := List.mem_map.mp earlier
    obtain ⟨before, after, split⟩ := List.append_of_mem found
    have known : (delimiters.parse
        (delimiters.written before ++ part)).found = before := by
      rw [(delimiters.parse_replays text).earlier _ _ _ _ split]
    obtain ⟨start, rest, same, hidden⟩ :=
      exists_not_exposed_of_within known valid within
        (delimiters.reference next ++ delimiters.written after ++
          (delimiters.parse text).literal ++
          delimiters.pending (delimiters.parse text).mode)
    refine ⟨start, rest, ?_, hidden⟩
    rw [split, List.append_cons, written_append, written_concat] at read
    rw [← same]
    refine read.symm.trans ?_
    simp only [List.append_assoc]
  · rw [List.mem_singleton.mp last] at within
    rw [List.append_assoc] at read
    obtain ⟨start, rest, same, hidden⟩ :=
      exists_not_exposed_of_within
        (congrArg (fun text => (delimiters.parse text).found) read) valid
        within []
    rw [List.append_nil, read] at same
    exact ⟨start, rest, same, hidden⟩

/-- The literal texts are free of references if and only if every reference is
exposed. -/
theorem literals_free_iff {text : List α} :
    (∀ literal ∈ delimiters.literals (delimiters.parse text),
      ∀ name, delimiters.IsName name →
        ¬delimiters.reference name <:+: literal) ↔
      ∀ before name after, delimiters.IsName name →
        text = before ++ delimiters.reference name ++ after →
        delimiters.Exposed before := by
  constructor
  · intro free before name after valid same
    by_contra hidden
    obtain ⟨literal, member, within⟩ :=
      exists_literal_of_not_exposed hidden valid after
    exact free literal (same ▸ member) name valid within
  · intro exposed literal member name valid within
    obtain ⟨before, after, same, hidden⟩ :=
      exists_not_exposed_of_literal member valid within
    exact hidden (exposed before name after valid same)

end

end Delimiters
