import AgentManifest.Toml.Fault

/-! The tokens of a TOML text. Every text has tokens: what is wrong with a token is said when it is
looked at. The texts of the tokens, put together, are the text. -/

namespace AgentManifest.Toml

inductive TokenKind where
  | dot
  | equals
  | comma
  | leftSquare
  | rightSquare
  | leftCurly
  | rightCurly
  | blank
  | newline
  | comment
  | string (form : StringForm)
  | atom
  | textEnd
  deriving DecidableEq, Repr

structure Token where
  kind : TokenKind
  text : List Char
  first : Nat
  deriving DecidableEq, Repr

def byteLength (cs : List Char) : Nat := cs.foldr (fun c n => c.utf8Size + n) 0

def Token.behind (t : Token) : Nat := t.first + byteLength t.text

namespace Token

def endsAtom (c : Char) : Bool := ".=,[]\x7b\x7d \t#\r\n".toList.contains c

/-- The length of a string that ends at its quote, or in front of the end of its line. -/
def literalLength : List Char → Nat
  | [] => 0
  | c :: rest => if c = '\'' then 1 else if c = '\n' then 0 else literalLength rest + 1

/-- The length of a string in which a backslash keeps a quote or a backslash behind it. -/
def basicLength : List Char → Nat
  | [] => 0
  | '\\' :: '"' :: rest => basicLength rest + 2
  | '\\' :: '\\' :: rest => basicLength rest + 2
  | c :: rest => if c = '"' then 1 else if c = '\n' then 0 else basicLength rest + 1

def extraQuotes (quote : Char) (cs : List Char) : Nat :=
  ((cs.take 2).takeWhile (· = quote)).length

/-- The length of a multi-line string behind its opening: up to three quotes, and up to two more
that follow at once. -/
def multiLiteralLength : List Char → Nat
  | [] => 0
  | '\'' :: '\'' :: '\'' :: rest => 3 + extraQuotes '\'' rest
  | _ :: rest => multiLiteralLength rest + 1

def multiBasicLength : List Char → Nat
  | [] => 0
  | '\\' :: '"' :: rest => multiBasicLength rest + 2
  | '\\' :: '\\' :: rest => multiBasicLength rest + 2
  | '"' :: '"' :: '"' :: rest => 3 + extraQuotes '"' rest
  | _ :: rest => multiBasicLength rest + 1

def firstOf : List Char → TokenKind × Nat
  | [] => (.textEnd, 0)
  | c :: rest =>
    match c with
    | '.' => (.dot, 1)
    | '=' => (.equals, 1)
    | ',' => (.comma, 1)
    | '[' => (.leftSquare, 1)
    | ']' => (.rightSquare, 1)
    | '{' => (.leftCurly, 1)
    | '}' => (.rightCurly, 1)
    | '\n' => (.newline, 1)
    | '\r' => (.newline, if rest.head? == some '\n' then 2 else 1)
    | '#' => (.comment, 1 + (rest.takeWhile (fun d => d ≠ '\n' && d ≠ '\r')).length)
    | '\'' =>
      if rest.take 2 = ['\'', '\''] then
        (.string .multiLiteral, 3 + multiLiteralLength (rest.drop 2))
      else (.string .literal, 1 + literalLength rest)
    | '"' =>
      if rest.take 2 = ['"', '"'] then (.string .multiBasic, 3 + multiBasicLength (rest.drop 2))
      else (.string .basic, 1 + basicLength rest)
    | _ =>
      if c = ' ' || c = '\t' then
        (.blank, 1 + (rest.takeWhile (fun d => d = ' ' || d = '\t')).length)
      else (.atom, 1 + (rest.takeWhile (fun d => !endsAtom d)).length)

/-- The tokens of a text that begins at an offset; the last one is its end. -/
def scanFrom : Nat → Nat → List Char → List Token
  | 0, offset, _ => [⟨.textEnd, [], offset⟩]
  | fuel + 1, offset, cs =>
    if cs.isEmpty then [⟨.textEnd, [], offset⟩]
    else
      let (kind, count) := firstOf cs
      let taken := cs.take count
      ⟨kind, taken, offset⟩ :: scanFrom fuel (offset + byteLength taken) (cs.drop count)

/-- The tokens of a text. A byte order mark at its start is passed over. -/
def scan (cs : List Char) : List Token :=
  match cs with
  | '\ufeff' :: rest => scanFrom rest.length 3 rest
  | _ => scanFrom cs.length 0 cs

end Token
end AgentManifest.Toml
