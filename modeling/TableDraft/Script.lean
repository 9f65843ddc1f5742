import TableDraft.Sql.Ident
import TableDraft.Text.Case
import TableDraft.Text.Letter
import TableDraft.Text.Lines

namespace TableDraft.Script
open TableDraft.Text TableDraft.Sql

def isComment (line : List Char) : Bool :=
  "--".toList.isPrefixOf (trim line)

/-- The script without its comment lines, every line break now a line feed. -/
def body (script : List Char) : List Char :=
  ['\n'].intercalate ((lines script).filter fun l => !isComment l)

def isQuote (c : Char) : Bool :=
  c == apostrophe || c == '"' || c == backQuote

/-- Reads on from an opening quote `q` to the end of what it quotes, or of the text. A doubled quote
does not close, and except between back quotes a backslash keeps the next character from closing. -/
def literal (q : Char) : List Char → List Char × List Char
  | [] => ([], [])
  | [c] => ([c], [])
  | c :: d :: r =>
    if c = '\\' ∧ q ≠ backQuote then
      let (inside, rest) := literal q r
      (c :: d :: inside, rest)
    else if c = q then
      if d = q then
        let (inside, rest) := literal q r
        (c :: d :: inside, rest)
      else ([c], d :: r)
    else
      let (inside, rest) := literal q (d :: r)
      (c :: inside, rest)

theorem literal_append (q : Char) (s : List Char) : (literal q s).1 ++ (literal q s).2 = s := by
  fun_induction literal q s <;> simp_all

theorem literal_length_le (q : Char) (s : List Char) : (literal q s).2.length ≤ s.length := by
  have h := congrArg List.length (literal_append q s)
  simp only [List.length_append] at h
  omega

/-- The next word after at least one blank. -/
structure Following where
  gap : List Char
  word : List Char
  rest : List Char

def following? (s : List Char) : Option Following :=
  let gap := s.takeWhile isBlank
  let r := s.dropWhile isBlank
  let word := r.takeWhile isWordChar
  if gap.isEmpty || word.isEmpty then none else some ⟨gap, word, r.dropWhile isWordChar⟩

/-- Whether a `BEGIN` before `s` starts a transaction and opens no block. -/
def startsTransaction (s : List Char) : Bool :=
  match s.dropWhile isBlank with
  | [] => true
  | c :: r => c == ';' || match afterWord? "WORK".toList (c :: r) with
    | some rest => atWordEnd rest
    | none => false

/-- The words that close a block which neither `BEGIN` nor `CASE` opened. -/
def flowWords : List (List Char) :=
  ["IF".toList, "LOOP".toList, "WHILE".toList, "REPEAT".toList]

/-- What is read in one go outside quotes and blocks' ends: the characters taken, those left, and
the number of blocks open after them. -/
structure Lexeme where
  taken : List Char
  rest : List Char
  depth : Nat

/-- A word opens a block, closes one, or does neither. The word that `END` closes with is taken
along, so that it opens nothing. -/
def wordLexeme (depth : Nat) (word rest : List Char) : Lexeme :=
  let capitals := upper word
  if capitals = "BEGIN".toList then ⟨word, rest, if startsTransaction rest then depth else depth + 1⟩
  else if capitals = "CASE".toList then ⟨word, rest, depth + 1⟩
  else if capitals = "END".toList ∧ 0 < depth then
    match following? rest with
    | some f =>
      let closes := upper f.word
      if flowWords.contains closes then ⟨word ++ f.gap ++ f.word, f.rest, depth⟩
      else if closes = "CASE".toList then ⟨word ++ f.gap ++ f.word, f.rest, depth - 1⟩
      else ⟨word, rest, depth - 1⟩
    | none => ⟨word, rest, depth - 1⟩
  else ⟨word, rest, depth⟩

def lexeme (depth : Nat) (c : Char) (r : List Char) : Lexeme :=
  if isQuote c then
    let (inside, rest) := literal c r
    ⟨c :: inside, rest, depth⟩
  else if isLetter c || c == '_' then
    wordLexeme depth (c :: r.takeWhile isWordChar) (r.dropWhile isWordChar)
  else ⟨[c], r, depth⟩

theorem following?_append {s : List Char} {f : Following} (h : following? s = some f) :
    f.gap ++ f.word ++ f.rest = s := by
  unfold following? at h
  simp only at h
  split at h
  · cases h
  · cases h
    simp [List.takeWhile_append_dropWhile]

/-- Reading loses nothing. -/
theorem wordLexeme_append (depth : Nat) (word rest : List Char) :
    (wordLexeme depth word rest).taken ++ (wordLexeme depth word rest).rest = word ++ rest := by
  unfold wordLexeme
  simp only
  split
  · rfl
  split
  · rfl
  split
  · split
    next f hf =>
      have h := following?_append hf
      split
      · simp only [← h, List.append_assoc]
      split
      · simp only [← h, List.append_assoc]
      · rfl
    next => rfl
  · rfl

theorem lexeme_append (depth : Nat) (c : Char) (r : List Char) :
    (lexeme depth c r).taken ++ (lexeme depth c r).rest = c :: r := by
  unfold lexeme
  split
  · simp [literal_append]
  split
  · rw [wordLexeme_append]
    simp [List.takeWhile_append_dropWhile]
  · rfl

theorem wordLexeme_length_le (depth : Nat) (word rest : List Char) :
    (wordLexeme depth word rest).rest.length ≤ rest.length := by
  unfold wordLexeme
  simp only
  split
  · exact Nat.le_refl _
  split
  · exact Nat.le_refl _
  split
  · split
    next f hf =>
      have h := congrArg List.length (following?_append hf)
      simp only [List.length_append] at h
      split
      · simp only; omega
      split
      · simp only; omega
      · exact Nat.le_refl _
    next => exact Nat.le_refl _
  · exact Nat.le_refl _

theorem lexeme_length_le (depth : Nat) (c : Char) (r : List Char) :
    (lexeme depth c r).rest.length ≤ r.length := by
  unfold lexeme
  split
  · exact literal_length_le c r
  split
  · exact Nat.le_trans (wordLexeme_length_le _ _ _) (List.dropWhile_sublist _).length_le
  · exact Nat.le_refl _

/-- Puts characters in front of the first fragment. -/
def onFirst (taken : List Char) : List (List Char) → List (List Char)
  | [] => [taken]
  | f :: fs => (taken ++ f) :: fs

/-- The pieces of a text between the semicolons that are outside quotes and blocks. -/
def fragments (depth : Nat) : List Char → List (List Char)
  | [] => [[]]
  | c :: r =>
    if c = ';' ∧ depth = 0 then [] :: fragments 0 r
    else
      let x := lexeme depth c r
      onFirst x.taken (fragments x.depth x.rest)
  termination_by s => s.length
  decreasing_by
    · simp
    · have := lexeme_length_le depth c r
      simp only [List.length_cons]
      omega

/-- The trimmed fragments of a text, without the empty ones. -/
def statementsOf (text : List Char) : List (List Char) :=
  ((fragments 0 text).map trim).filter fun s => !s.isEmpty

/-- The statements of a script, without their semicolons. -/
def split (script : String) : List String :=
  (statementsOf (body script.toList)).map String.ofList

end TableDraft.Script
