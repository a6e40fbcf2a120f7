import CardEffects.Token

/-!
# Cutting a text into tokens

A scanner reads the text of one instruction character by character. It is in one of three modes:
between quotes and parentheses, where blanks separate words; inside quotes, where every character up
to the next quote is literal; or inside parentheses, which nest, and where quotes are ordinary
characters. What a mode has collected but not yet turned into a token is its pending text.

* `Scanner.step`: what one character does.
* `Token.scan`: the tokens of a whole text, or the delimiter that is out of balance and its offset.

Offsets count characters from the start of the text.
-/

namespace CardEffects

/-- The ways in which the delimiters of a text can fail to match. -/
inductive Imbalance
  /-- An opening parenthesis is never closed. -/
  | unclosedGroup
  /-- A quote is never closed. -/
  | unterminatedQuote
  /-- A closing parenthesis closes nothing. -/
  | unmatchedClose
deriving DecidableEq, Repr

/-- What an imbalance is called in an error message. -/
def Imbalance.description : Imbalance → String
  | unclosedGroup => "unclosed parenthesis"
  | unterminatedQuote => "unterminated quote"
  | unmatchedClose => "unmatched closing parenthesis"

/-- An imbalance together with the offset of the delimiter to blame. -/
structure ScanError where
  /-- How the delimiters fail to match. -/
  imbalance : Imbalance
  /-- The number of characters before the delimiter to blame. -/
  offset : Nat
deriving DecidableEq, Repr

/-- The same error in a text that has `count` more characters in front. -/
def ScanError.shift (error : ScanError) (count : Nat) : ScanError :=
  { error with offset := error.offset + count }

/-- Where a scanner stands: outside of all delimiters, inside quotes, or inside parentheses. The
pending text of each mode is held with its last character first. -/
inductive Scanner.Mode
  /-- Outside: the characters of the current word. -/
  | bare (pending : List Char)
  /-- Inside quotes: the offset of the opening quote and the characters since. -/
  | quoted (start : Nat) (pending : List Char)
  /-- Inside parentheses: the offset of the outermost one, how many more are open inside it, and the
  characters since, with one blank for each inner parenthesis. -/
  | grouped (start : Nat) (inner : Nat) (pending : List Char)
deriving DecidableEq, Repr

/-- A scanner in the middle of a text. -/
structure Scanner where
  /-- The number of characters read. -/
  position : Nat
  /-- The tokens completed so far, the last one first. -/
  tokens : List Token
  /-- Where the scanner stands and what is pending there. -/
  mode : Scanner.Mode
deriving DecidableEq, Repr

namespace Scanner

/-- A scanner before the first character. -/
def start : Scanner := ⟨0, [], .bare []⟩

/-- The tokens after the end of a bare word, of which there is none if nothing is pending. -/
def flushBare (tokens : List Token) (pending : List Char) : List Token :=
  if pending.isEmpty then tokens else .bare (String.ofList pending.reverse) :: tokens

/-- The tokens after a closing quote. The literal loses the blanks at its ends, and a literal of
blanks alone is no token. -/
def flushQuoted (tokens : List Token) (pending : List Char) : List Token :=
  let text := Text.trim pending.reverse
  if text.isEmpty then tokens else .quoted (String.ofList text) :: tokens

/-- The tokens after the last closing parenthesis of a group. -/
def flushGroup (tokens : List Token) (pending : List Char) : List Token :=
  .group (.ofText pending.reverse) :: tokens

/-- Read one character. -/
def step (scanner : Scanner) (c : Char) : Except ScanError Scanner :=
  let next (tokens : List Token) (mode : Mode) : Except ScanError Scanner :=
    .ok ⟨scanner.position + 1, tokens, mode⟩
  match scanner.mode with
  | .bare pending =>
    if c = '"' then
      next (flushBare scanner.tokens pending) (.quoted scanner.position [])
    else if c = '(' then
      next (flushBare scanner.tokens pending) (.grouped scanner.position 0 [])
    else if c = ')' then
      .error ⟨.unmatchedClose, scanner.position⟩
    else if Text.isBlank c then
      next (flushBare scanner.tokens pending) (.bare [])
    else
      next scanner.tokens (.bare (c :: pending))
  | .quoted opening pending =>
    if c = '"' then
      next (flushQuoted scanner.tokens pending) (.bare [])
    else
      next scanner.tokens (.quoted opening (c :: pending))
  | .grouped opening inner pending =>
    if c = '(' then
      next scanner.tokens (.grouped opening (inner + 1) (' ' :: pending))
    else if c = ')' then
      match inner with
      | 0 => next (flushGroup scanner.tokens pending) (.bare [])
      | inner + 1 => next scanner.tokens (.grouped opening inner (' ' :: pending))
    else
      next scanner.tokens (.grouped opening inner (c :: pending))

/-- Read a text. -/
def run (scanner : Scanner) (text : List Char) : Except ScanError Scanner :=
  text.foldlM step scanner

/-- Reading no text changes nothing. -/
@[simp]
theorem run_nil (scanner : Scanner) : scanner.run [] = .ok scanner := rfl

/-- Reading a text is reading its first character and then the others. -/
theorem run_cons (scanner : Scanner) (c : Char) (text : List Char) :
    scanner.run (c :: text) = (scanner.step c).bind (·.run text) := rfl

/-- Reading two texts in a row is reading the first and then the second. -/
theorem run_append (scanner : Scanner) (first second : List Char) :
    scanner.run (first ++ second) = (scanner.run first).bind (·.run second) :=
  List.foldlM_append

/-- The tokens at the end of a text. Quotes and parentheses must be closed by then. -/
def finish (scanner : Scanner) : Except ScanError (List Token) :=
  match scanner.mode with
  | .bare pending => .ok (flushBare scanner.tokens pending).reverse
  | .quoted opening _ => .error ⟨.unterminatedQuote, opening⟩
  | .grouped opening _ _ => .error ⟨.unclosedGroup, opening⟩

end Scanner

/-- The tokens of a text in order, or the delimiter that is out of balance. -/
def Token.scan (text : List Char) : Except ScanError (List Token) :=
  (Scanner.start.run text).bind Scanner.finish

end CardEffects
