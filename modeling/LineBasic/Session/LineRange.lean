import LineBasic.Text.Integer
import LineBasic.Text.Quoted

/-!
Ranges of lines as they are typed: a line, a line and a later one, or one of them with a dash.
-/
namespace LineBasic

structure LineRange where
  low : Int
  high : Int
  deriving DecidableEq, Repr

namespace LineRange

inductive RangeFault where
  | badNumber (text : String)
  | backwards (text : String)
  deriving DecidableEq, Repr

def RangeFault.message : RangeFault → String
  | badNumber text => "Illegal line number " ++ Text.quote text
  | backwards text => "Illegal range " ++ text

def all : LineRange := ⟨1, Text.maxInteger⟩

def readBound (cs : List Char) : Except RangeFault Int :=
  match Text.readInteger cs with
  | .ok n => if n ≤ 0 then .error (.badNumber (String.ofList cs)) else .ok n
  | .error _ => .error (.badNumber (String.ofList cs))

def readSide (absent : Int) (cs : List Char) : Except RangeFault Int :=
  if cs.isEmpty then .ok absent else readBound cs

def parse (text : String) : Except RangeFault LineRange :=
  let cs := text.toList.filter (· != ' ')
  let before := cs.takeWhile (· != '-')
  match cs.drop before.length with
  | _ :: after => do
    let low ← readSide all.low before
    let high ← readSide all.high after
    if high < low then .error (.backwards text) else .ok ⟨low, high⟩
  | [] => do
    if before.isEmpty then .ok all
    else
      let n ← readBound before
      .ok ⟨n, n⟩

end LineRange

end LineBasic
