import Kubauth.ExpandEnv

/-!
# Texts and their expansions

The scanner of the source is the scanner for delimited references, which gives
its indexes a meaning: a chunk begins after the last reference that was found
and ends where a reference is started.  So the bounds of every slice are
positions of the text in the right order, the chunks are the literal texts
between the references, and nothing is lost or copied twice.
-/

namespace Kubauth.ExpandEnv

/-- What is appended to the output for references and the texts before them. -/
def pieces (getenv : Bytes → Bytes) (found : List (Bytes × Bytes)) :
    List Piece :=
  found.flatMap fun part => [.copied part.1, .expanded (getenv part.2)]

theorem pieces_concat (getenv : Bytes → Bytes) (found : List (Bytes × Bytes))
    (literal name : Bytes) :
    pieces getenv (found ++ [(literal, name)]) =
      pieces getenv found ++ [.copied literal, .expanded (getenv name)] := by
  rw [pieces, List.flatMap_append]
  rfl

/-- The local variables that depend on what is started. -/
def Awaits (scanner : Scanner) (progress : Delimiters.Progress UInt8) :
    Prop :=
  let chunkEnd := (delimiters.written progress.found ++
    progress.literal).length
  match progress.mode with
  | .plain => scanner.state = .nominal ∧ scanner.chunkEnd = -1
  | .marked =>
      scanner.state = .afterToken ∧ scanner.chunkEnd = chunkEnd
  | .named name =>
      scanner.state = .inVar ∧ scanner.chunkEnd = chunkEnd ∧
        scanner.variableName = name

/-- The local variables after the bytes `before`, where no reference to a
missing variable was found. -/
structure Tracks (getenv : Bytes → Bytes) (scanner : Scanner)
    (before : Bytes) : Prop where
  output : scanner.output = pieces getenv (delimiters.parse before).found
  chunkStart : scanner.chunkStart =
    (delimiters.written (delimiters.parse before).found).length
  line : scanner.line = 1 + before.count newline
  awaits : Awaits scanner (delimiters.parse before)
  defined : ∀ part ∈ (delimiters.parse before).found, getenv part.2 ≠ []

section

variable {getenv : Bytes → Bytes} {s before after : Bytes} {byte : UInt8}
  {scanner : Scanner}

theorem tracks_start (getenv : Bytes → Bytes) : Tracks getenv .start [] where
  output := rfl
  chunkStart := rfl
  line := rfl
  awaits := ⟨rfl, rfl⟩
  defined := by
    intro part member
    cases member

theorem Tracks.keep (tracks : Tracks getenv scanner before) {next : Scanner}
    {progress : Delimiters.Progress UInt8}
    (moves : delimiters.next (delimiters.parse before) byte = progress)
    (found : progress.found = (delimiters.parse before).found)
    (awaits : Awaits next progress)
    (output : next.output = scanner.output)
    (chunkStart : next.chunkStart = scanner.chunkStart)
    (line : next.line = (scanner.countLine byte).line) :
    Tracks getenv next (before ++ [byte]) := by
  rw [← delimiters.parse_concat] at moves
  subst moves
  refine ⟨?_, ?_, ?_, awaits, ?_⟩
  · rw [output, found]
    exact tracks.output
  · rw [chunkStart, found]
    exact tracks.chunkStart
  · rw [line]
    exact Scanner.line_countLine tracks.line byte
  · rw [found]
    exact tracks.defined

theorem Tracks.nominal (tracks : Tracks getenv scanner before)
    (plain : (delimiters.parse before).mode = .plain) :
    scanner.state = .nominal ∧
      Tracks getenv (nominalStep (scanner.countLine byte) before.length byte)
        (before ++ [byte]) := by
  have awaits := tracks.awaits
  rw [Awaits, plain] at awaits
  refine ⟨awaits.1, ?_⟩
  have moves := delimiters.next_of_plain plain byte
  rw [nominalStep]
  by_cases marks : byte = dollar
  · -- nothing is started, so the chunk ends with the bytes that are read
    have position := (delimiters.parse_reads before).text_eq
    rw [plain, Delimiters.pending_plain, List.append_nil] at position
    have chunkEnd : (before.length : Int) =
        (delimiters.written (delimiters.parse before).found ++
          (delimiters.parse before).literal).length := by
      rw [position]
    rw [if_pos marks]
    exact tracks.keep (moves.trans (if_pos marks)) rfl ⟨rfl, chunkEnd⟩
      rfl rfl rfl
  · have still : Awaits (scanner.countLine byte)
        { delimiters.parse before with
          literal := (delimiters.parse before).literal ++ [byte] } := by
      rw [Awaits, plain]
      exact awaits
    rw [if_neg marks]
    exact tracks.keep (moves.trans (if_neg marks)) rfl still rfl rfl rfl

theorem Tracks.afterToken (tracks : Tracks getenv scanner before)
    (marked : (delimiters.parse before).mode = .marked) :
    scanner.state = .afterToken ∧
      Tracks getenv (afterTokenStep (scanner.countLine byte) byte)
        (before ++ [byte]) := by
  have awaits := tracks.awaits
  rw [Awaits, marked] at awaits
  refine ⟨awaits.1, ?_⟩
  have moves := delimiters.next_of_marked marked byte
  rw [afterTokenStep]
  by_cases opens : byte = leftBrace
  · rw [if_pos opens]
    exact tracks.keep (moves.trans (if_pos opens)) rfl ⟨rfl, awaits.2, rfl⟩
      rfl rfl rfl
  · rw [if_neg opens]
    exact tracks.keep (moves.trans (if_neg opens)) rfl ⟨rfl, rfl⟩
      rfl rfl rfl

theorem Tracks.slice_eq (tracks : Tracks getenv scanner before)
    {name : Bytes} (named : (delimiters.parse before).mode = .named name)
    (split : s = before ++ byte :: after) :
    slice s scanner.chunkStart scanner.chunkEnd =
      .ok (delimiters.parse before).literal := by
  have awaits := tracks.awaits
  rw [Awaits, named] at awaits
  have read := (delimiters.parse_reads before).text_eq
  have whole : s =
      delimiters.written (delimiters.parse before).found ++
        (delimiters.parse before).literal ++
        (delimiters.pending (delimiters.parse before).mode ++
          byte :: after) := by
    rw [split, ← List.append_assoc, read]
  rw [tracks.chunkStart, awaits.2.1, whole]
  exact slice_middle _ _ _

theorem Tracks.close (tracks : Tracks getenv scanner before) {name : Bytes}
    (named : (delimiters.parse before).mode = .named name)
    (present : getenv name ≠ []) :
    Tracks getenv
      { scanner.countLine rightBrace with
        output := scanner.output ++
          [.copied (delimiters.parse before).literal,
            .expanded (getenv name)]
        chunkStart := before.length + 1
        chunkEnd := -1
        state := .nominal }
      (before ++ [rightBrace]) := by
  have next : delimiters.parse (before ++ [rightBrace]) = _ :=
    delimiters.parse_closing named
  have read := (delimiters.parse_reads (before ++ [rightBrace])).text_eq
  rw [next, Delimiters.pending_plain, List.append_nil, List.append_nil]
    at read
  refine ⟨?_, ?_, Scanner.line_countLine tracks.line rightBrace, ?_, ?_⟩
  · rw [next, pieces_concat, tracks.output]
  · rw [next, read, List.length_append]
    rfl
  · rw [next]
    exact ⟨rfl, rfl⟩
  · rw [next]
    intro part member
    obtain older | last := List.mem_append.mp member
    · exact tracks.defined part older
    · rw [List.mem_singleton.mp last]
      exact present

theorem Tracks.inVar (tracks : Tracks getenv scanner before) {name : Bytes}
    (named : (delimiters.parse before).mode = .named name)
    (split : s = before ++ byte :: after) :
    scanner.state = .inVar ∧
      ((∃ next,
          inVarStep getenv s (scanner.countLine byte) before.length byte =
            .ok next ∧ Tracks getenv next (before ++ [byte])) ∨
        byte = rightBrace ∧ getenv name = [] ∧
          inVarStep getenv s (scanner.countLine byte) before.length byte =
            .error (.missing
              { line := 1 + before.count newline
                variableName := name })) := by
  have awaits := tracks.awaits
  rw [Awaits, named] at awaits
  obtain ⟨state, chunkEnd, rfl⟩ := awaits
  refine ⟨state, ?_⟩
  rw [inVarStep, Scanner.variableName_countLine]
  by_cases closes : byte = rightBrace
  · subst closes
    rw [if_pos rfl]
    dsimp only
    by_cases missing : getenv scanner.variableName = []
    · refine .inr ⟨rfl, missing, ?_⟩
      have line := Scanner.line_countLine tracks.line rightBrace
      rw [List.count_append, show [rightBrace].count newline = 0 from rfl,
        Nat.add_zero] at line
      rw [if_pos missing, line]
    · refine .inl ⟨_, ?_, tracks.close named missing⟩
      rw [if_neg missing]
      have chunk : slice s (scanner.countLine rightBrace).chunkStart
          (scanner.countLine rightBrace).chunkEnd =
            .ok (delimiters.parse before).literal :=
        tracks.slice_eq named split
      rw [chunk]
      rfl
  · have moves := (delimiters.next_of_named named byte).trans (if_neg closes)
    rw [if_neg closes]
    by_cases valid : isAlphanumeric byte = true
    · rw [if_pos valid]
      exact .inl ⟨_, rfl, tracks.keep (moves.trans (if_pos valid)) rfl
        ⟨state, chunkEnd, rfl⟩ rfl rfl rfl⟩
    · rw [if_neg valid]
      exact .inl ⟨_, rfl, tracks.keep (moves.trans (if_neg valid)) rfl
        ⟨rfl, rfl⟩ rfl rfl rfl⟩

/-! ## The whole text -/

/-- The first reference to a missing variable is complete with the byte after
`before`. -/
structure Misses (getenv : Bytes → Bytes) (s before name : Bytes) :
    Prop where
  split : ∃ after, s = before ++ rightBrace :: after
  named : (delimiters.parse before).mode = .named name
  missing : getenv name = []
  defined : ∀ part ∈ (delimiters.parse before).found, getenv part.2 ≠ []

theorem Tracks.step (tracks : Tracks getenv scanner before)
    (split : s = before ++ byte :: after) :
    (∃ next, step getenv s scanner before.length byte = .ok next ∧
      Tracks getenv next (before ++ [byte])) ∨
    ∃ name, Misses getenv s before name ∧
      step getenv s scanner before.length byte =
        .error (.missing
          { line := 1 + before.count newline, variableName := name }) := by
  have counted : (scanner.countLine byte).state = scanner.state := rfl
  rw [ExpandEnv.step, counted]
  cases mode : (delimiters.parse before).mode with
  | plain =>
      obtain ⟨state, next⟩ := tracks.nominal mode
      rw [state]
      exact .inl ⟨_, rfl, next⟩
  | marked =>
      obtain ⟨state, next⟩ := tracks.afterToken mode
      rw [state]
      exact .inl ⟨_, rfl, next⟩
  | named name =>
      obtain ⟨state, next | ⟨closes, missing, stops⟩⟩ :=
        tracks.inVar mode split
      · rw [state]
        exact .inl next
      · rw [state]
        exact .inr ⟨name, ⟨⟨after, closes ▸ split⟩, mode, missing,
          tracks.defined⟩, stops⟩

theorem Tracks.scan (tracks : Tracks getenv scanner before)
    (split : s = before ++ after) :
    (∃ final, scan getenv s scanner before.length after = .ok final ∧
      Tracks getenv final s) ∨
    ∃ read name, Misses getenv s read name ∧
      scan getenv s scanner before.length after =
        .error (.missing
          { line := 1 + read.count newline, variableName := name }) := by
  induction after generalizing scanner before with
  | nil =>
      rw [List.append_nil] at split
      exact .inl ⟨scanner, rfl, split ▸ tracks⟩
  | cons byte after induction =>
      rw [ExpandEnv.scan]
      obtain ⟨next, steps, tracked⟩ | ⟨name, misses, stops⟩ :=
        tracks.step split
      · rw [steps]
        have rest := induction tracked (split.trans (List.append_cons ..))
        rw [List.length_append] at rest
        exact rest
      · rw [stops]
        exact .inr ⟨before, name, misses, rfl⟩

end

/-- Either all the variables that are found are defined, and the literal texts
are copied between their values, or the first one that is not is reported. -/
theorem expandPieces_cases (getenv : Bytes → Bytes) (s : Bytes) :
    ((∀ part ∈ (delimiters.parse s).found, getenv part.2 ≠ []) ∧
      expandPieces getenv s =
        .ok (pieces getenv (delimiters.parse s).found ++
          [.copied ((delimiters.parse s).literal ++
            delimiters.pending (delimiters.parse s).mode)])) ∨
    ∃ before name, Misses getenv s before name ∧
      expandPieces getenv s =
        .error (.missing
          { line := 1 + before.count newline, variableName := name }) := by
  rw [expandPieces]
  obtain ⟨final, scanned, tracks⟩ | ⟨before, name, misses, stops⟩ :=
    (tracks_start getenv).scan (List.nil_append s).symm
  · have read := (delimiters.parse_reads s).text_eq
    rw [List.append_assoc] at read
    have chunk := slice_middle
      (delimiters.written (delimiters.parse s).found)
      ((delimiters.parse s).literal ++
        delimiters.pending (delimiters.parse s).mode) []
    rw [read, List.append_nil, ← tracks.chunkStart] at chunk
    refine .inl ⟨tracks.defined, ?_⟩
    rw [List.length_nil] at scanned
    rw [scanned]
    dsimp only
    rw [chunk, tracks.output]
  · refine .inr ⟨before, name, misses, ?_⟩
    rw [List.length_nil] at stops
    rw [stops]

theorem Misses.before_eq {getenv : Bytes → Bytes} {s before name : Bytes}
    (misses : Misses getenv s before name) :
    before = delimiters.written (delimiters.parse before).found ++
      (delimiters.parse before).literal ++ dollar :: leftBrace :: name := by
  have read := (delimiters.parse_reads before).text_eq
  rw [misses.named] at read
  exact read.symm

theorem Misses.isName {getenv : Bytes → Bytes} {s before name : Bytes}
    (misses : Misses getenv s before name) : delimiters.IsName name := by
  have started := (delimiters.parse_reads before).started
  rw [misses.named] at started
  obtain plain | unfinished := started
  · cases plain
  · exact unfinished.isName

theorem flatMap_bytes_pieces (getenv : Bytes → Bytes)
    (found : List (Bytes × Bytes)) :
    (pieces getenv found).flatMap Piece.bytes =
      found.flatMap fun part => part.1 ++ getenv part.2 := by
  induction found with
  | nil => rfl
  | cons part rest induction =>
      rw [pieces, List.flatMap_cons, List.flatMap_append, ← pieces, induction,
        List.flatMap_cons]
      simp only [List.flatMap_cons, List.flatMap_nil, List.append_nil,
        Piece.bytes]

/-- A text that is expanded is literal texts and references to variables that
are defined, and its expansion has their values in the place of the references.
Otherwise the error and its text have the name of a variable that is not
defined, and the line of the closing brace of a reference to it.  No slice is
out of range. -/
theorem expandEnv_factorization (getenv : Bytes → Bytes) (s : Bytes) :
    match expandEnv getenv s with
    | .ok output =>
        ∃ parts last,
          s = delimiters.written parts ++ last ∧
          (∀ part ∈ parts, delimiters.IsName part.2 ∧ getenv part.2 ≠ []) ∧
          output = (parts.flatMap fun part => part.1 ++ getenv part.2) ++ last
    | .error (.missing failure) =>
        ∃ parts literal after,
          let before := delimiters.written parts ++ literal ++
            dollar :: leftBrace :: failure.variableName
          s = before ++ rightBrace :: after ∧
          (∀ part ∈ parts, delimiters.IsName part.2 ∧ getenv part.2 ≠ []) ∧
          delimiters.IsName failure.variableName ∧
          getenv failure.variableName = [] ∧
          failure.line = 1 + before.count newline ∧
          failure.error =
            ascii "environment variable '" ++ failure.variableName ++
              ascii ("' at line " ++ toString (1 + before.count newline) ++
                " is not defined")
    | .error .outOfRange => False := by
  rw [expandEnv]
  obtain ⟨defined, expands⟩ | ⟨before, name, misses, stops⟩ :=
    expandPieces_cases getenv s
  · rw [expands]
    have reads := delimiters.parse_reads s
    refine ⟨(delimiters.parse s).found, (delimiters.parse s).literal ++
      delimiters.pending (delimiters.parse s).mode, ?_, ?_, ?_⟩
    · rw [← List.append_assoc]
      exact reads.text_eq.symm
    · intro part member
      exact ⟨reads.names part member, defined part member⟩
    · dsimp only
      rw [List.flatMap_append, flatMap_bytes_pieces]
      simp only [List.flatMap_cons, List.flatMap_nil, List.append_nil,
        Piece.bytes]
  · rw [stops]
    obtain ⟨after, split⟩ := misses.split
    refine ⟨(delimiters.parse before).found,
      (delimiters.parse before).literal, after, ?_⟩
    dsimp only
    rw [← misses.before_eq]
    refine ⟨split, ?_, misses.isName, misses.missing, rfl, rfl⟩
    intro part member
    exact ⟨(delimiters.parse_reads before).names part member,
      misses.defined part member⟩

end Kubauth.ExpandEnv
