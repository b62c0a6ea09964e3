import Mathlib.Data.List.Induction

/-!
# Texts with delimited references

A reference is a marker, an opening, a name and a closing.  A scanner that
never goes back reads a text in one pass: what it has started either becomes a
reference or is literal text, together with the symbol that ended it.
-/

/-- How references are written. -/
structure Delimiters (α : Type u) where
  marker : α
  opening : α
  closing : α
  isName : α → Bool
  marker_not_name : isName marker = false
  closing_not_name : isName closing = false
  marker_ne_opening : marker ≠ opening
  marker_ne_closing : marker ≠ closing

namespace Delimiters

section

variable {α : Type u} (delimiters : Delimiters α)

def IsName (name : List α) : Prop :=
  ∀ symbol ∈ name, delimiters.isName symbol = true

instance : DecidablePred delimiters.IsName := fun name =>
  inferInstanceAs (Decidable (∀ symbol ∈ name, _))

def reference (name : List α) : List α :=
  delimiters.marker :: delimiters.opening :: (name ++ [delimiters.closing])

/-- Literal texts, each followed by a reference. -/
def written (parts : List (List α × List α)) : List α :=
  parts.flatMap fun part => part.1 ++ delimiters.reference part.2

/-- A reference that has been started and not finished. -/
inductive Unfinished : List α → Prop where
  | marked : Unfinished [delimiters.marker]
  | named {name : List α} (valid : delimiters.IsName name) :
      Unfinished (delimiters.marker :: delimiters.opening :: name)

theorem written_append (first second : List (List α × List α)) :
    delimiters.written (first ++ second) =
      delimiters.written first ++ delimiters.written second :=
  List.flatMap_append

theorem written_concat (parts : List (List α × List α))
    (literal name : List α) :
    delimiters.written (parts ++ [(literal, name)]) =
      delimiters.written parts ++ literal ++ delimiters.reference name := by
  rw [written_append, List.append_assoc]
  exact congrArg _ (List.append_nil _)

variable {delimiters}

theorem Unfinished.isName {name : List α}
    (unfinished : delimiters.Unfinished
      (delimiters.marker :: delimiters.opening :: name)) :
    delimiters.IsName name := by
  cases unfinished with
  | named valid => exact valid

end

/-! ## The scanner -/

/-- What the scanner has started. -/
inductive Mode (α : Type u) where
  | plain
  | marked
  | named (name : List α)

theorem Mode.marked_ne_plain {α : Type u} : (Mode.marked : Mode α) ≠ .plain := by
  intro same
  cases same

theorem Mode.named_ne_plain {α : Type u} (name : List α) :
    Mode.named name ≠ .plain := by
  intro same
  cases same

/-- How far the scanner is: the literal texts and the names of the references
that it has found, the literal text after them, and what it has started. -/
structure Progress (α : Type u) where
  found : List (List α × List α)
  literal : List α
  mode : Mode α

section

variable {α : Type u} (delimiters : Delimiters α)

/-- The symbols that have been read of a reference. -/
def pending : Mode α → List α
  | .plain => []
  | .marked => [delimiters.marker]
  | .named name => delimiters.marker :: delimiters.opening :: name

@[simp] theorem pending_plain : delimiters.pending .plain = [] := rfl

@[simp] theorem pending_marked :
    delimiters.pending .marked = [delimiters.marker] := rfl

@[simp] theorem pending_named (name : List α) :
    delimiters.pending (.named name) =
      delimiters.marker :: delimiters.opening :: name := rfl

theorem pending_named_closing (name : List α) :
    delimiters.pending (.named name) ++ [delimiters.closing] =
      delimiters.reference name := rfl

/-- The texts between the references that have been found. -/
def literals (progress : Progress α) : List (List α) :=
  progress.found.map Prod.fst ++
    [progress.literal ++ delimiters.pending progress.mode]

/-- The symbols read so far are literal texts and references with valid names,
and what is started may still become a reference. -/
structure Reads (progress : Progress α) (text : List α) : Prop where
  text_eq : delimiters.written progress.found ++ progress.literal ++
    delimiters.pending progress.mode = text
  names : ∀ part ∈ progress.found, delimiters.IsName part.2
  started : progress.mode = .plain ∨
    delimiters.Unfinished (delimiters.pending progress.mode)

variable [DecidableEq α]

/-- One symbol.  What does not continue a reference becomes literal text,
together with the symbols of the reference. -/
def next (progress : Progress α) (symbol : α) : Progress α :=
  match progress.mode with
  | .plain =>
      if symbol = delimiters.marker then { progress with mode := .marked }
      else { progress with literal := progress.literal ++ [symbol] }
  | .marked =>
      if symbol = delimiters.opening then
        { progress with mode := .named [] }
      else
        { progress with
          literal := progress.literal ++ [delimiters.marker, symbol]
          mode := .plain }
  | .named name =>
      if symbol = delimiters.closing then
        { found := progress.found ++ [(progress.literal, name)]
          literal := []
          mode := .plain }
      else if delimiters.isName symbol then
        { progress with mode := .named (name ++ [symbol]) }
      else
        { progress with
          literal := progress.literal ++
            delimiters.marker :: delimiters.opening :: (name ++ [symbol])
          mode := .plain }

def parse (text : List α) : Progress α :=
  text.foldl delimiters.next { found := [], literal := [], mode := .plain }

theorem parse_append (text more : List α) :
    delimiters.parse (text ++ more) =
      more.foldl delimiters.next (delimiters.parse text) :=
  List.foldl_append

theorem parse_concat (text : List α) (symbol : α) :
    delimiters.parse (text ++ [symbol]) =
      delimiters.next (delimiters.parse text) symbol :=
  delimiters.parse_append text [symbol]

section

variable {progress : Progress α}

theorem next_of_plain (plain : progress.mode = .plain) (symbol : α) :
    delimiters.next progress symbol =
      if symbol = delimiters.marker then { progress with mode := .marked }
      else { progress with literal := progress.literal ++ [symbol] } := by
  rw [next, plain]

theorem next_of_marked (marked : progress.mode = .marked) (symbol : α) :
    delimiters.next progress symbol =
      if symbol = delimiters.opening then
        { progress with mode := .named [] }
      else
        { progress with
          literal := progress.literal ++ [delimiters.marker, symbol]
          mode := .plain } := by
  rw [next, marked]

theorem next_of_named {name : List α} (named : progress.mode = .named name)
    (symbol : α) :
    delimiters.next progress symbol =
      if symbol = delimiters.closing then
        { found := progress.found ++ [(progress.literal, name)]
          literal := []
          mode := .plain }
      else if delimiters.isName symbol then
        { progress with mode := .named (name ++ [symbol]) }
      else
        { progress with
          literal := progress.literal ++
            delimiters.marker :: delimiters.opening :: (name ++ [symbol])
          mode := .plain } := by
  rw [next, named]

end

theorem parse_closing {text name : List α}
    (named : (delimiters.parse text).mode = .named name) :
    delimiters.parse (text ++ [delimiters.closing]) =
      { found := (delimiters.parse text).found ++
          [((delimiters.parse text).literal, name)]
        literal := []
        mode := .plain } := by
  rw [parse_concat, next_of_named delimiters named, if_pos rfl]

variable {delimiters}

/-- A symbol continues what is started, or finishes a reference, or becomes
literal text with all that is started. -/
theorem next_cases (progress : Progress α) (symbol : α) :
    (∃ mode, mode ≠ .plain ∧
      delimiters.pending mode =
        delimiters.pending progress.mode ++ [symbol] ∧
      (progress.mode = .plain ∨
          delimiters.Unfinished (delimiters.pending progress.mode) →
        delimiters.Unfinished (delimiters.pending mode)) ∧
      delimiters.next progress symbol = { progress with mode := mode }) ∨
    (∃ name, progress.mode = .named name ∧ symbol = delimiters.closing ∧
      delimiters.next progress symbol =
        { found := progress.found ++ [(progress.literal, name)]
          literal := []
          mode := .plain }) ∨
    delimiters.next progress symbol =
      { found := progress.found
        literal := progress.literal ++ delimiters.pending progress.mode ++
          [symbol]
        mode := .plain } := by
  obtain ⟨found, literal, mode⟩ := progress
  cases mode with
  | plain =>
      rw [next]
      by_cases marks : symbol = delimiters.marker
      · subst marks
        exact .inl ⟨.marked, Mode.marked_ne_plain, rfl, fun _ => .marked,
          if_pos rfl⟩
      · refine .inr (.inr ?_)
        simp only [if_neg marks, pending_plain, List.append_nil]
  | marked =>
      rw [next]
      by_cases opens : symbol = delimiters.opening
      · subst opens
        exact .inl ⟨.named [], Mode.named_ne_plain [], rfl,
          fun _ => .named (List.forall_mem_nil _), if_pos rfl⟩
      · refine .inr (.inr ?_)
        simp only [if_neg opens, pending_marked, List.append_assoc,
          List.singleton_append]
  | named name =>
      rw [next]
      by_cases closes : symbol = delimiters.closing
      · exact .inr (.inl ⟨name, rfl, closes, if_pos closes⟩)
      · by_cases valid : delimiters.isName symbol = true
        · refine .inl ⟨.named (name ++ [symbol]), Mode.named_ne_plain _, rfl,
            ?_, ?_⟩
          · rintro (plain | unfinished)
            · cases plain
            · refine .named ?_
              intro other member
              obtain older | last := List.mem_append.mp member
              · exact unfinished.isName other older
              · rw [List.mem_singleton.mp last]
                exact valid
          · simp only [if_neg closes, if_pos valid]
        · refine .inr (.inr ?_)
          simp only [if_neg closes, if_neg valid, pending_named,
            List.append_assoc, List.cons_append]

theorem Reads.next {progress : Progress α} {text : List α}
    (reads : delimiters.Reads progress text) (symbol : α) :
    delimiters.Reads (delimiters.next progress symbol)
      (text ++ [symbol]) := by
  obtain ⟨mode, -, longer, unfinished, same⟩ | ⟨name, named, rfl, same⟩ |
    same := delimiters.next_cases progress symbol
  · rw [same]
    refine ⟨?_, reads.names, .inr (unfinished reads.started)⟩
    dsimp only
    rw [longer, ← List.append_assoc, reads.text_eq]
  · rw [same]
    have started := reads.started
    have text_eq := reads.text_eq
    rw [named] at started text_eq
    refine ⟨?_, ?_, .inl rfl⟩
    · simp only [pending_plain, List.append_nil]
      rw [← text_eq, written_concat, List.append_assoc _ _ [_],
        pending_named_closing]
    · intro part member
      obtain older | last := List.mem_append.mp member
      · exact reads.names part older
      · rw [List.mem_singleton.mp last]
        obtain plain | unfinished := started
        · cases plain
        · exact unfinished.isName
  · rw [same]
    refine ⟨?_, reads.names, .inl rfl⟩
    simp only [pending_plain, List.append_nil]
    rw [← List.append_assoc, ← List.append_assoc, reads.text_eq]

variable (delimiters) in
theorem parse_reads (text : List α) :
    delimiters.Reads (delimiters.parse text) text := by
  induction text using List.reverseRecOn with
  | nil =>
      refine ⟨rfl, ?_, .inl rfl⟩
      intro part member
      cases member
  | append_singleton text symbol induction =>
      rw [parse_concat]
      exact induction.next symbol

end

end Delimiters
