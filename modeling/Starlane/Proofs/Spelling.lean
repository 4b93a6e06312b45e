import Mathlib.Data.List.TakeWhile
import Starlane.Json.Record

/-!
# What is written can be read back

The text of a value, read again, is the value with its control characters
spelled as units. Strings and integers do not notice the difference: a reader
of typed fields finds in the text what was written.
-/

namespace Starlane.Json

/-! ## Numbers -/

theorem isDigit_of_mem_digits {n : Nat} {c : Char} (listed : c ∈ digits n) : c.isDigit = true :=
  Nat.isDigit_of_mem_toDigits (by decide) (by decide) listed

/-- Only zero is spelled with a zero in front. -/
theorem head?_digits {n : Nat} (positive : 0 < n) : (digits n).head? ≠ some '0' := by
  induction n using Nat.strongRecOn with
  | _ n ih =>
    unfold digits at *
    rw [Nat.toDigits_eq_if (by decide)]
    split
    · next small =>
      have spelled : ∀ m < 10, 0 < m → Nat.digitChar m ≠ '0' := by decide
      simpa using spelled n small positive
    · next large =>
      have front := ih (n / 10) (by omega) (by omega)
      cases first : (Nat.toDigits 10 (n / 10)).head? with
      | none => exact absurd (List.head?_eq_none_iff.mp first) Nat.toDigits_ne_nil
      | some c =>
        rw [List.head?_append, first]
        rwa [first] at front

theorem isDigits_digits (n : Nat) : isDigits (digits n) = true := by
  simp only [isDigits, Bool.and_eq_true, Bool.not_eq_true', List.isEmpty_eq_false_iff,
    List.all_eq_true]
  exact ⟨Nat.toDigits_ne_nil, fun c listed => isDigit_of_mem_digits listed⟩

theorem isUnsigned_digits (n : Nat) : isUnsigned (digits n) = true := by
  have all : ∀ c ∈ digits n, c.isDigit = true := fun c listed => isDigit_of_mem_digits listed
  have whole : isWhole (digits n) = true := by
    simp only [isWhole, isDigits_digits, Bool.true_and, Bool.or_eq_true, beq_iff_eq, bne_iff_ne]
    rcases Nat.eq_zero_or_pos n with rfl | positive
    · exact .inl rfl
    · exact .inr (head?_digits positive)
  unfold isUnsigned
  rw [List.takeWhile_eq_self_iff.mpr all, List.dropWhile_eq_nil_iff.mpr all, whole]
  rfl

theorem isRunChar_of_isDigit {c : Char} (digit : c.isDigit = true) : isRunChar c = true := by
  simp [isRunChar, Char.isAlphanum, digit]

/-- Whether some characters are a run that means a token. -/
structure Spells (chars : List Char) (token : Token) : Prop where
  means : runToken? chars = some token
  run : ∀ c ∈ chars, isRunChar c = true
  filled : chars ≠ []

/-- A run that is looked at character by character. -/
theorem spells_word {chars : List Char} {token : Token} (means : runToken? chars = some token)
    (run : chars.all isRunChar = true) (filled : chars ≠ []) : Spells chars token :=
  ⟨means, List.all_eq_true.mp run, filled⟩

theorem runToken?_number {chars : List Char} (number : isNumber chars = true)
    (start : chars.head?.any (fun c => c.isDigit || c == '-') = true) :
    runToken? chars = some (.number chars) := by
  have word : ∀ word : List Char, word.head?.any (fun c => c.isDigit || c == '-') = false →
      chars ≠ word := by
    rintro word other rfl
    rw [start] at other
    cases other
  unfold runToken?
  rw [if_neg (word _ (by decide)), if_neg (word _ (by decide)), if_neg (word _ (by decide)),
    if_pos number]

theorem spells_digits (n : Nat) : Spells (digits n) (.number (digits n)) where
  means := by
    cases spelled : digits n with
    | nil => exact absurd spelled Nat.toDigits_ne_nil
    | cons c rest =>
      have digit : c.isDigit = true := isDigit_of_mem_digits (by rw [spelled]; exact .head _)
      refine runToken?_number ?_ (by simp [digit])
      have unsigned := isUnsigned_digits n
      rw [spelled] at unsigned
      unfold isNumber
      split
      · next same =>
        rw [(List.cons.inj same).1] at digit
        cases digit
      · exact unsigned
  run c listed := isRunChar_of_isDigit (isDigit_of_mem_digits listed)
  filled := Nat.toDigits_ne_nil

theorem spells_negative (n : Nat) :
    Spells ('-' :: digits n) (.number ('-' :: digits n)) where
  means := runToken?_number (isUnsigned_digits n) rfl
  run c listed := by
    rcases List.mem_cons.mp listed with rfl | digit
    · rfl
    · exact isRunChar_of_isDigit (isDigit_of_mem_digits digit)
  filled := List.cons_ne_nil _ _

/-! ## Texts -/

/-- An element of a text as it is read back. -/
def Piece.reread : Piece → Piece
  | .char c => if charText c = unitText c.toNat then .unit c.toNat else .char c
  | .unit code => .unit code

/-- Whether an element of a text can be written. -/
def Piece.Legible : Piece → Prop
  | .char _ => True
  | .unit code => code < 65536

theorem tokensFrom?_cons {c : Char} {mode next : Mode} {tokens : List Token}
    (goes : advance? c mode = some (tokens, next)) (rest : List Char) :
    tokensFrom? mode (c :: rest) = (tokensFrom? next rest).map (tokens ++ ·) := by
  rw [tokensFrom?, goes]
  cases tokens with
  | nil => simp
  | cons token tokens => rfl

theorem hexValue?_hexDigit (n : Nat) : hexValue? (hexDigit n) = some (n % 16) := by
  have all : ∀ digit < 16, hexValue? (Nat.digitChar digit) = some digit := by decide
  exact all (n % 16) (Nat.mod_lt _ (by decide))

/-- A digit of a unit that is not its last. -/
theorem advance?_hexDigit (n : Nat) (pieces : List Piece) (missing sum : Nat) :
    advance? (hexDigit n) (.unit pieces (missing + 2) sum) =
      some ([], .unit pieces (missing + 1) (sum * 16 + n % 16)) := by
  simp [advance?, hexValue?_hexDigit]

/-- The last digit of a unit. -/
theorem advance?_lastHexDigit (n : Nat) (pieces : List Piece) (sum : Nat) :
    advance? (hexDigit n) (.unit pieces 1 sum) =
      some ([], .quoted (.unit (sum * 16 + n % 16) :: pieces)) := by
  simp [advance?, hexValue?_hexDigit]

/-- A unit in its escaped form. -/
theorem tokensFrom?_unitText {code : Nat} (small : code < 65536) (pieces : List Piece)
    (rest : List Char) :
    tokensFrom? (.quoted pieces) (unitText code ++ rest) =
      tokensFrom? (.quoted (.unit code :: pieces)) rest := by
  have whole : (((0 * 16 + code / 4096 % 16) * 16 + code / 256 % 16) * 16 + code / 16 % 16) * 16 +
      code % 16 = code := by omega
  simp only [unitText, List.cons_append, List.nil_append]
  rw [tokensFrom?_cons (show advance? '\\' (.quoted pieces) = some ([], .escaped pieces) from rfl),
    tokensFrom?_cons (show advance? 'u' (.escaped pieces) = some ([], .unit pieces 4 0) from rfl),
    tokensFrom?_cons (advance?_hexDigit _ _ 2 _), tokensFrom?_cons (advance?_hexDigit _ _ 1 _),
    tokensFrom?_cons (advance?_hexDigit _ _ 0 _), tokensFrom?_cons (advance?_lastHexDigit _ _ _),
    whole]
  simp

/-- A letter escaped by another one. -/
theorem tokensFrom?_escaped {c letter : Char} (plain : letter ≠ 'u')
    (stands : escape? letter = some c) (pieces : List Piece) (rest : List Char) :
    tokensFrom? (.quoted pieces) ('\\' :: letter :: rest) =
      tokensFrom? (.quoted (.char c :: pieces)) rest := by
  rw [tokensFrom?_cons (show advance? '\\' (.quoted pieces) = some ([], .escaped pieces) from rfl),
    tokensFrom?_cons (show advance? letter (.escaped pieces) =
      some ([], .quoted (.char c :: pieces)) by simp [advance?, plain, stands])]
  simp

/-- The three forms of a character in quotes: a letter behind a backslash, a
unit, and itself. -/
theorem charText_cases (c : Char) :
    (∃ letter, letter ≠ 'u' ∧ escape? letter = some c ∧ charText c = ['\\', letter]) ∨
    (c.toNat < 32 ∧ charText c = unitText c.toNat) ∨
    (charText c = [c] ∧ c ≠ '"' ∧ c ≠ '\\' ∧ ¬c.toNat < 32) := by
  unfold charText
  split_ifs with quote backslash backspace tab newline feed carriage control
  · exact .inl ⟨'"', by decide, by rw [quote]; decide, rfl⟩
  · exact .inl ⟨'\\', by decide, by rw [backslash]; decide, rfl⟩
  · exact .inl ⟨'b', by decide, by rw [backspace]; decide, rfl⟩
  · exact .inl ⟨'t', by decide, by rw [tab]; decide, rfl⟩
  · exact .inl ⟨'n', by decide, by rw [newline]; decide, rfl⟩
  · exact .inl ⟨'f', by decide, by rw [feed]; decide, rfl⟩
  · exact .inl ⟨'r', by decide, by rw [carriage]; decide, rfl⟩
  · exact .inr (.inl ⟨control, rfl⟩)
  · exact .inr (.inr ⟨rfl, quote, backslash, control⟩)

/-- An element of a text, read in quotes. -/
theorem tokensFrom?_pieceText {piece : Piece} (legible : piece.Legible) (pieces : List Piece)
    (rest : List Char) :
    tokensFrom? (.quoted pieces) (pieceText piece ++ rest) =
      tokensFrom? (.quoted (piece.reread :: pieces)) rest := by
  cases piece with
  | unit code => exact tokensFrom?_unitText legible pieces rest
  | char c =>
    rw [pieceText]
    rcases charText_cases c with ⟨letter, plain, stands, text⟩ | ⟨small, text⟩ |
      ⟨text, quote, backslash, control⟩
    · have reread : (Piece.char c).reread = .char c := by
        simp [Piece.reread, text, unitText]
      rw [text, reread]
      exact tokensFrom?_escaped plain stands pieces rest
    · have reread : (Piece.char c).reread = .unit c.toNat := by
        rw [Piece.reread, if_pos text]
      rw [text, reread]
      exact tokensFrom?_unitText (by omega) pieces rest
    · have reread : (Piece.char c).reread = .char c := by
        simp [Piece.reread, text, unitText]
      have read : advance? c (.quoted pieces) = some ([], .quoted (.char c :: pieces)) := by
        simp [advance?, quote, backslash, control]
      rw [text, reread, List.singleton_append, tokensFrom?_cons read]
      simp

/-- The elements of a text up to its closing quote. -/
theorem tokensFrom?_pieces {pieces : List Piece} (legible : ∀ piece ∈ pieces, piece.Legible)
    (before : List Piece) (rest : List Char) :
    tokensFrom? (.quoted before) (pieces.flatMap pieceText ++ '"' :: rest) =
      (tokensFrom? .between rest).map
        (Token.text (before.reverse ++ pieces.map Piece.reread) :: ·) := by
  induction pieces generalizing before with
  | nil =>
    rw [List.flatMap_nil, List.nil_append, tokensFrom?_cons (show advance? '"' (.quoted before) =
      some ([.text before.reverse], .between) from rfl)]
    simp
  | cons piece pieces ih =>
    rw [List.flatMap_cons, List.append_assoc,
      tokensFrom?_pieceText (legible piece (.head _)),
      ih (fun other member => legible other (.tail _ member))]
    simp

/-- A text in quotes is one token. -/
theorem tokensFrom?_quote {pieces : List Piece} (legible : ∀ piece ∈ pieces, piece.Legible)
    (rest : List Char) :
    tokensFrom? .between (quote pieces ++ rest) =
      (tokensFrom? .between rest).map (Token.text (pieces.map Piece.reread) :: ·) := by
  rw [quote, List.cons_append, List.append_assoc, tokensFrom?_cons (show advance? '"' .between =
    some ([], .quoted []) from rfl), List.singleton_append, tokensFrom?_pieces legible]
  exact Option.map_map _ _ _

/-! ## Runs -/

/-- Whether a text goes on with something that ends a run. -/
def Delimits (rest : List Char) : Prop :=
  ∀ c ∈ rest.head?, isRunChar c = false

theorem delimits_cons {c : Char} (other : isRunChar c = false) (rest : List Char) :
    Delimits (c :: rest) := by
  rintro _ ⟨rfl⟩
  exact other

/-- A run up to what ends it. -/
theorem tokensFrom?_run {chars before rest : List Char} {token : Token}
    (means : runToken? (before.reverse ++ chars) = some token)
    (run : ∀ c ∈ chars, isRunChar c = true) (delimits : Delimits rest) :
    tokensFrom? (.run before) (chars ++ rest) = (tokensFrom? .between rest).map (token :: ·) := by
  induction chars generalizing before with
  | nil =>
    rw [List.append_nil] at means
    cases rest with
    | nil => simp [tokensFrom?, finish?, means]
    | cons c rest =>
      have ends : isRunChar c = false := delimits c rfl
      cases entered : enter? c with
      | none => simp [tokensFrom?, advance?, ends, means, entered]
      | some step =>
        obtain ⟨tokens, next⟩ := step
        rw [List.nil_append,
          tokensFrom?_cons (show advance? c (.run before) = some (token :: tokens, next) by
            simp [advance?, ends, means, entered]),
          tokensFrom?_cons (show advance? c .between = some (tokens, next) from entered)]
        simp [Function.comp_def]
  | cons c chars ih =>
    have goes : advance? c (.run before) = some ([], .run (c :: before)) := by
      simp [advance?, run c (.head _)]
    rw [List.cons_append, tokensFrom?_cons goes,
      ih (by simpa using means) fun other member => run other (.tail _ member)]
    exact Option.map_map _ _ _

/-- A run between other tokens. -/
theorem Spells.scan {chars rest : List Char} {token : Token} (spells : Spells chars token)
    (delimits : Delimits rest) :
    tokensFrom? .between (chars ++ rest) = (tokensFrom? .between rest).map (token :: ·) := by
  obtain ⟨means, run, filled⟩ := spells
  cases chars with
  | nil => exact absurd rfl filled
  | cons c chars =>
    have starts : isRunChar c = true := run c (.head _)
    have solid : isSpace c = false := by
      by_contra space
      have spaces : ∀ space : Char, isRunChar space = false → c ≠ space := by
        rintro space other rfl
        rw [starts] at other
        cases other
      simp [isSpace, spaces ' ' (by decide), spaces '\t' (by decide), spaces '\n' (by decide),
        spaces '\r' (by decide)] at space
    have unquoted : c ≠ '"' := by
      rintro rfl
      cases starts
    have enters : advance? c .between = some ([], .run [c]) := by
      simp [advance?, enter?, solid, unquoted, starts]
    rw [List.cons_append, tokensFrom?_cons enters,
      tokensFrom?_run (by simpa using means) (fun other member => run other (.tail _ member))
        delimits]
    exact Option.map_map _ _ _

end Starlane.Json
