/-!
# Symbols

The sixteen operators and delimiters of the language. Each has one spelling, of one or two
characters. `ofChar?` knows the fourteen of one character, without looking at spellings, and
`spelling_ofChar?` says that the two agree.
-/

namespace MonkeyScan

/-- Operators and delimiters. -/
inductive Symbol where
  | assign | plus | minus | asterisk | bang | slash | lt | gt | notEq | eq
  | comma | semicolon | lParen | rParen | lBrace | rBrace
deriving DecidableEq

namespace Symbol

def spelling : Symbol → String
  | assign => "="
  | plus => "+"
  | minus => "-"
  | asterisk => "*"
  | bang => "!"
  | slash => "/"
  | lt => "<"
  | gt => ">"
  | notEq => "!="
  | eq => "=="
  | comma => ","
  | semicolon => ";"
  | lParen => "("
  | rParen => ")"
  | lBrace => "\x7b"
  | rBrace => "\x7d"

def name : Symbol → String
  | assign => "ASSIGN"
  | plus => "PLUS"
  | minus => "MINUS"
  | asterisk => "ASTERISK"
  | bang => "BANG"
  | slash => "SLASH"
  | lt => "LT"
  | gt => "GT"
  | notEq => "NOT_EQ"
  | eq => "EQ"
  | comma => "COMMA"
  | semicolon => "SEMICOLON"
  | lParen => "LPAREN"
  | rParen => "RPAREN"
  | lBrace => "LBRACE"
  | rBrace => "RBRACE"

def all : List Symbol :=
  [assign, plus, minus, asterisk, bang, slash, lt, gt, notEq, eq,
    comma, semicolon, lParen, rParen, lBrace, rBrace]

@[simp] theorem mem_all (s : Symbol) : s ∈ all := by cases s <;> decide

/-- The symbol that a single character spells. -/
def ofChar? : Char → Option Symbol
  | '=' => some assign
  | '+' => some plus
  | '-' => some minus
  | '*' => some asterisk
  | '!' => some bang
  | '/' => some slash
  | '<' => some lt
  | '>' => some gt
  | ',' => some comma
  | ';' => some semicolon
  | '(' => some lParen
  | ')' => some rParen
  | '{' => some lBrace
  | '}' => some rBrace
  | _ => none

theorem spelling_ofChar? {c : Char} {s : Symbol} (h : ofChar? c = some s) :
    s.spelling.toList = [c] := by
  unfold ofChar? at h
  split at h <;> cases h <;> rfl

end Symbol

end MonkeyScan
