import ClusterCensus.Fault

/-!
# Values as plain text

The text of a value is what a quantity parser sees when a limit or a capacity is not a string: a
text is itself, a truth value is a capitalised word, a number is written in decimal. Inside a list
or an object texts are quoted. Integers with too many digits have no text.
-/
namespace ClusterCensus.Value

open ClusterCensus.Text

/-- The decimal text of an integer that is not too long. -/
def integerText (n : Int) : Except Fault (List Char) :=
  if Numeral.isTooLong n then .error .longInteger else .ok (Numeral.integerDigits n)

def commaJoined (parts : List (List Char)) : List Char :=
  List.intercalate [',', ' '] parts

/-- One byte as it stands between the given quotes. -/
def quoteByte (mark : Char) (byte : UInt8) : List Char :=
  let c := Char.ofNat byte.toNat
  if c.toNat < 128 then quoteChar mark c else '\\' :: 'x' :: hexDigits 2 c.toNat

/-- The quoted bytes of a text. -/
def quoteBytes (s : String) : List Char :=
  let mark := quoteFor s.toList
  'b' :: mark :: s.toUTF8.toList.flatMap (quoteByte mark) ++ [mark]

mutual

/-- The text of a value inside a list or an object. -/
def literal : Value → Except Fault (List Char)
  | null => .ok "None".toList
  | bool b => .ok (if b then "True".toList else "False".toList)
  | int n => integerText n
  | float x => .ok x.text
  | text s => .ok (quote s.toList)
  | bytes s => .ok (quoteBytes s)
  | list items => (literals items).map fun parts => '[' :: commaJoined parts ++ [']']
  | object fields => (fieldLiterals fields).map fun parts => '\x7b' :: commaJoined parts ++ ['\x7d']

def literals : List Value → Except Fault (List (List Char))
  | [] => .ok []
  | item :: rest => do
    let head ← literal item
    let tail ← literals rest
    return head :: tail

def fieldLiterals : List (String × Value) → Except Fault (List (List Char))
  | [] => .ok []
  | (name, value) :: rest => do
    let head ← literal value
    let tail ← fieldLiterals rest
    return (quote name.toList ++ ':' :: ' ' :: head) :: tail

end

/-- The plain text of a value. -/
def display : Value → Except Fault (List Char)
  | text s => .ok s.toList
  | value => literal value

end ClusterCensus.Value
