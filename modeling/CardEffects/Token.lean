import CardEffects.Text.Blank

/-!
# Tokens

The pieces that the text of one instruction is cut into. A token is a bare word, a quoted literal or
a parenthesised group of words. A bare word and a quoted literal both have a text, but only a bare
word is ever read as a target or a scope.

* `Group.ofText`: the words of the inside of a group.
* `Token.text?`, `Token.bare?`, `Token.group?`: the three views of a token.
* `Token.render`: a token as it is written in an instruction.
-/

namespace CardEffects

/-- The flat list of words between two parentheses. A group is an expression that is kept as it
stands and evaluated when the instruction is carried out. -/
structure Group where
  /-- The words in the order in which they are written. -/
  words : List String
deriving DecidableEq, Repr, Inhabited

namespace Group

/-- The group whose inside is the given text. -/
def ofText (text : List Char) : Group :=
  ⟨(Text.words text).map String.ofList⟩

/-- The number of words of a group. -/
def size (group : Group) : Nat := group.words.length

/-- Whether a group holds no word. -/
def isEmpty (group : Group) : Bool := group.words.isEmpty

/-- A group as it is written: its words, one space apart, between parentheses. -/
def render (group : Group) : String :=
  "(" ++ " ".intercalate group.words ++ ")"

end Group

/-- One piece of the text of an instruction. -/
inductive Token
  /-- A word outside quotes and parentheses. -/
  | bare (word : String)
  /-- The inside of a pair of quotes. -/
  | quoted (text : String)
  /-- The inside of a pair of parentheses. -/
  | group (group : Group)
deriving DecidableEq, Repr

namespace Token

/-- The text of a word or of a quoted literal. -/
def text? : Token → Option String
  | bare word => some word
  | quoted text => some text
  | group _ => none

/-- The word of a bare word. -/
def bare? : Token → Option String
  | bare word => some word
  | _ => none

/-- The group of a group token. -/
def group? : Token → Option Group
  | group g => some g
  | _ => none

/-- Whether a token is a quoted literal. -/
def isQuoted : Token → Bool
  | quoted _ => true
  | _ => false

/-- A token as it is written in an instruction. -/
def render : Token → String
  | bare word => word
  | quoted text => "\"" ++ text ++ "\""
  | group g => g.render

end Token

end CardEffects
