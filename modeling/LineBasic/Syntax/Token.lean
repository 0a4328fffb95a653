/-!
The tokens of a source line.
-/
namespace LineBasic

inductive Symbol where
  | plus
  | minus
  | times
  | divide
  | open
  | close
  | equal
  | comma
  | semicolon
  | colon
  | less
  | greater
  | notEqual
  | atMost
  | atLeast
  deriving DecidableEq, Repr

def Symbol.spelling : Symbol → String
  | plus => "+"
  | minus => "-"
  | times => "*"
  | divide => "/"
  | .open => "("
  | close => ")"
  | equal => "="
  | comma => ","
  | semicolon => ";"
  | colon => ":"
  | less => "<"
  | greater => ">"
  | notEqual => "<>"
  | atMost => "<="
  | atLeast => ">="

inductive Lexeme where
  | endOfLine
  | number (spelling : String)
  | text (contents : String)
  | name (spelling : String)
  | symbol (s : Symbol)
  deriving DecidableEq, Repr

namespace Lexeme

def requote (contents : String) : String :=
  String.ofList
    ('"' :: contents.toList.flatMap (fun c => if c = '"' then ['"', '"'] else [c]) ++ ['"'])

def shown : Lexeme → String
  | endOfLine => "end of line"
  | number spelling => spelling
  | text contents => requote contents
  | name spelling => spelling
  | symbol s => s.spelling

def endsOperand : Lexeme → Bool
  | number _ => true
  | text _ => true
  | name _ => true
  | symbol s => s == .close
  | endOfLine => false

end Lexeme

structure Token where
  lexeme : Lexeme
  pos : Nat
  deriving DecidableEq, Repr

def Token.shown (t : Token) : String := t.lexeme.shown

end LineBasic
