import PipeShell.Line.Expand

/-!
# `PipeShell.Script.Statement`: small scripts as they are written

The scripts that the host's own shell can run: plain commands with
quoting, variables and redirected output, and loops over words. Reading
goes through tokens; both steps count down from the length of what is
left, since every round takes something away.
-/

set_option autoImplicit false

namespace PipeShell.Script

/-- A part of a word: a text, a variable, or all arguments of the
script. What is quoted is not divided into fields. -/
inductive Part where
  | text (s : String)
  | var (name : String) (quoted : Bool)
  | args (quoted : Bool)
deriving Repr, DecidableEq

/-- A word before its variables are replaced. -/
abbrev Word := List Part

/-- The word with one more character. -/
def Word.push (w : Word) (c : Char) : Word :=
  match w.getLast? with
  | some (.text s) => w.dropLast ++ [.text (s.push c)]
  | _ => w ++ [.text (String.singleton c)]

/-- Where the output of a command goes. -/
inductive Target where
  | out
  | err
  | file (name : Word)
deriving Repr, DecidableEq

/-- A statement of a script. -/
inductive Statement where
  | command (words : List Word) (target : Target)
  | loop (var : String) (among : List Word) (body : List Statement)

/-! ### Tokens -/

/-- A piece of a script that means something. -/
inductive Token where
  | word (w : Word)
  | stop
  | toFile
  | toErr
deriving Repr, DecidableEq

/-- What a dollar sign means before the given characters, and the
characters after that. -/
def dollar (quoted : Bool) : List Char → Part × List Char
  | '@' :: rest => (.args quoted, rest)
  | '$' :: rest => (.var "$" quoted, rest)
  | cs =>
      let name := cs.takeWhile Line.isNameChar
      if name.isEmpty then (.text "$", cs)
      else (.var (String.ofList name) quoted, cs.dropWhile Line.isNameChar)

/-- The word under way as a token. -/
def flush : Option Word → List Token
  | none => []
  | some w => [.word w]

/-- The tokens of the rest of a script; `word` is the word under way and
`quote` the quote that is open. -/
def lex : (fuel : Nat) → (word : Option Word) → (quote : Option Char) → List Char → List Token
  | 0, word, _, _ => flush word
  | _, word, _, [] => flush word
  | n + 1, word, some q, c :: cs =>
      let w := word.getD []
      if c == q then lex n (some (if w.isEmpty then [.text ""] else w)) none cs
      else if q == '"' && c == '$' then
        let (part, rest) := dollar true cs
        lex n (some (w ++ [part])) (some q) rest
      else match c, cs with
        | '\\', e :: rest =>
            if q == '"' && ['$', '"', '\\'].contains e then lex n (some (w.push e)) (some q) rest
            else lex n (some (w.push c)) (some q) cs
        | _, _ => lex n (some (w.push c)) (some q) cs
  | n + 1, word, none, c :: cs =>
      if c == '\n' || c == ';' then flush word ++ .stop :: lex n none none cs
      else if c == ' ' || c == '\t' then flush word ++ lex n none none cs
      else if c == '#' && word.isNone then lex n none none (cs.dropWhile (· != '\n'))
      else if c == '\'' || c == '"' then lex n (some (word.getD [])) (some c) cs
      else if c == '$' then
        let (part, rest) := dollar false cs
        lex n (some (word.getD [] ++ [part])) none rest
      else match c, cs with
        | '\\', e :: rest => lex n (some ((word.getD []).push e)) none rest
        | '>', '&' :: '2' :: rest => flush word ++ .toErr :: lex n none none rest
        | '>', rest => flush word ++ .toFile :: lex n none none rest
        | _, _ => lex n (some ((word.getD []).push c)) none cs

/-! ### Statements -/

/-- A word that is a plain text. -/
def Token.isPlain (s : String) : Token → Bool
  | .word [.text t] => t == s
  | _ => false

/-- The words among tokens. -/
def wordsOf (ts : List Token) : List Word :=
  ts.filterMap fun
    | .word w => some w
    | _ => none

/-- The words of a command and where its output goes. -/
def splitTarget : List Token → List Word × Target
  | [] => ([], .out)
  | .word w :: ts => let (ws, t) := splitTarget ts; (w :: ws, t)
  | .toErr :: ts => ((splitTarget ts).1, .err)
  | .toFile :: .word w :: ts => ((splitTarget ts).1, .file w)
  | _ :: ts => splitTarget ts

/-- The statements up to the end of a loop or of the script, and what is
left after that. -/
def readStatements : (fuel : Nat) → List Token → List Statement × List Token
  | 0, ts => ([], ts)
  | _, [] => ([], [])
  | n + 1, .stop :: ts => readStatements n ts
  | n + 1, t :: ts =>
      if t.isPlain "done" then ([], ts)
      else if t.isPlain "do" then readStatements n ts
      else
        let line := (t :: ts).takeWhile (· != .stop)
        let rest := (t :: ts).dropWhile (· != .stop)
        match t.isPlain "for", line with
        | true, _ :: .word [.text var] :: _ :: among =>
            let (body, after) := readStatements n rest
            let (more, left) := readStatements n after
            (.loop var (wordsOf among) body :: more, left)
        | _, _ =>
            let (words, target) := splitTarget line
            let (more, left) := readStatements n rest
            (.command words target :: more, left)

/-- The statements of a script. -/
def read (text : String) : List Statement :=
  let ts := lex text.length none none text.toList
  (readStatements (ts.length + 1) ts).1

end PipeShell.Script
