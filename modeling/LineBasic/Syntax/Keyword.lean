import LineBasic.Text.Case

/-!
The words that start a statement, and the words inside one.
-/
namespace LineBasic

inductive Keyword where
  | printKw
  | letKw
  | inputKw
  | ifKw
  | gotoKw
  | gosubKw
  | returnKw
  | forKw
  | nextKw
  | dimKw
  | randomizeKw
  | endKw
  | stopKw
  | remKw
  deriving DecidableEq, Repr

namespace Keyword

def spelling : Keyword → String
  | printKw => "PRINT"
  | letKw => "LET"
  | inputKw => "INPUT"
  | ifKw => "IF"
  | gotoKw => "GOTO"
  | gosubKw => "GOSUB"
  | returnKw => "RETURN"
  | forKw => "FOR"
  | nextKw => "NEXT"
  | dimKw => "DIM"
  | randomizeKw => "RANDOMIZE"
  | endKw => "END"
  | stopKw => "STOP"
  | remKw => "REM"

def all : List Keyword :=
  [printKw, letKw, inputKw, ifKw, gotoKw, gosubKw, returnKw, forKw, nextKw, dimKw, randomizeKw,
    endKw, stopKw, remKw]

def ofUpper? (name : String) : Option Keyword := all.find? fun k => k.spelling == name

end Keyword

def isKeyword (name : String) : Bool := (Keyword.ofUpper? (Text.upper name)).isSome

inductive Connective where
  | thenWord
  | toWord
  | stepWord
  deriving DecidableEq, Repr

def Connective.spelling : Connective → String
  | thenWord => "THEN"
  | toWord => "TO"
  | stepWord => "STEP"

def Connective.matches (w : Connective) (name : String) : Bool := Text.upper name == w.spelling

end LineBasic
