import ClusterCensus.Value.Display

/-!
# Record lines

A record is written as one line of JSON inside an envelope, without spaces. Every character
outside the printable ASCII range is escaped, those beyond the basic plane as a pair of
surrogates, so a line never holds a line break. The first value without a written form, in the
order of the line, makes the whole record unwritable.
-/
namespace ClusterCensus.Value

open ClusterCensus.Text

/-- The escape of one sixteen bit unit. -/
def escapeUnit (unit : Nat) : List Char :=
  '\\' :: 'u' :: hexDigits 4 unit

/-- One character inside a JSON string. -/
def escapeChar (c : Char) : List Char :=
  if c == '"' then ['\\', '"']
  else if c == '\\' then ['\\', '\\']
  else if c == '\n' then ['\\', 'n']
  else if c == '\r' then ['\\', 'r']
  else if c == '\t' then ['\\', 't']
  else if c.toNat = 8 then ['\\', 'b']
  else if c.toNat = 12 then ['\\', 'f']
  else if 32 ≤ c.toNat && c.toNat < 127 then [c]
  else if c.toNat < 0x10000 then escapeUnit c.toNat
  else
    let offset := c.toNat - 0x10000
    escapeUnit (0xD800 + offset / 0x400) ++ escapeUnit (0xDC00 + offset % 0x400)

def encodeText (s : String) : List Char :=
  '"' :: s.toList.flatMap escapeChar ++ ['"']

mutual

def encode : Value → Except Fault (List Char)
  | null => .ok ['n', 'u', 'l', 'l']
  | bool true => .ok ['t', 'r', 'u', 'e']
  | bool false => .ok ['f', 'a', 'l', 's', 'e']
  | int n => integerText n
  | float x => if x.isFinite then .ok x.text else .error .unwritableFloat
  | text s => .ok (encodeText s)
  | bytes _ => .error (.unwritableKind .bytes)
  | list items => (encodeItems items).map fun parts => '[' :: List.intercalate [','] parts ++ [']']
  | object fields =>
    (encodeFields fields).map fun parts => '\x7b' :: List.intercalate [','] parts ++ ['\x7d']

def encodeItems : List Value → Except Fault (List (List Char))
  | [] => .ok []
  | item :: rest => do
    let head ← encode item
    let tail ← encodeItems rest
    return head :: tail

def encodeFields : List (String × Value) → Except Fault (List (List Char))
  | [] => .ok []
  | (name, value) :: rest => do
    let head ← encode value
    let tail ← encodeFields rest
    return (encodeText name ++ ':' :: head) :: tail

end

/-- The line of a record in its envelope. -/
def line (record : Value) : Except Fault String :=
  (object [("kube", record)]).encode.map String.ofList

end ClusterCensus.Value
