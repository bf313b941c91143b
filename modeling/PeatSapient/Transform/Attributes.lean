/-! The JSON bags of the transforms. Only strings and arrays of strings are put
into them, and serde_json prints a map compactly, in the order of its keys. -/

namespace PeatSapient

inductive Attribute where
  | string (text : String)
  | array (texts : List String)

abbrev Attributes := List (String × Attribute)

namespace Attributes

def hexDigit (value : Nat) : Char := "0123456789abcdef".toList.getD value '0'

def escapeChar (char : Char) : List Char :=
  match char.toNat with
  | 34 => ['\\', '"']
  | 92 => ['\\', '\\']
  | 8 => ['\\', 'b']
  | 12 => ['\\', 'f']
  | 10 => ['\\', 'n']
  | 13 => ['\\', 'r']
  | 9 => ['\\', 't']
  | code =>
      if code < 32 then
        ['\\', 'u', '0', '0', hexDigit (code / 16), hexDigit (code % 16)]
      else [char]

def quoted (text : String) : String :=
  String.ofList ('"' :: text.toList.flatMap escapeChar ++ ['"'])

def printAttribute : Attribute → String
  | .string text => quoted text
  | .array texts => "[" ++ ",".intercalate (texts.map quoted) ++ "]"

def printEntry (entry : String × Attribute) : String :=
  quoted entry.1 ++ ":" ++ printAttribute entry.2

/-- `serde_json::to_string`; the keys of a bag are distinct. -/
def print (attributes : Attributes) : String :=
  let sorted := attributes.mergeSort fun left right => decide (left.1 ≤ right.1)
  "\x7b" ++ ",".intercalate (sorted.map printEntry) ++ "\x7d"

end Attributes

end PeatSapient
