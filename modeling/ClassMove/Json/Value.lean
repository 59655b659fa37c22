/-!
# JSON values and how they are written

The values that are written are built from texts, natural numbers and truth
values.  `Json.compact` writes a value on one line, `Json.pretty` with two spaces
of indentation for each level.  Strings are written as they are, except for the
quote, the backslash and the control characters below the space.
-/

namespace ClassMove

/-- A value to be written. -/
inductive Json where
  | null
  | bool (value : Bool)
  | number (value : Nat)
  | string (value : String)
  | array (items : List Json)
  | object (fields : List (String × Json))

namespace Json

/-! ## Strings -/

/-- The two lower-case hexadecimal digits of a number below 256. -/
def hexByte (n : Nat) : List Char :=
  [Nat.digitChar (n / 16), Nat.digitChar (n % 16)]

/-- How a character is written inside quotes. -/
def escapeChar (c : Char) : List Char :=
  if c = '"' then ['\\', '"']
  else if c = '\\' then ['\\', '\\']
  else if c = '\n' then ['\\', 'n']
  else if c = '\r' then ['\\', 'r']
  else if c = '\t' then ['\\', 't']
  else if c.toNat = 0x08 then ['\\', 'b']
  else if c.toNat = 0x0C then ['\\', 'f']
  else if c.toNat < 0x20 then ['\\', 'u', '0', '0'] ++ hexByte c.toNat
  else [c]

/-- A string in quotes. -/
def quote (value : String) : String :=
  String.ofList ('"' :: value.toList.flatMap escapeChar ++ ['"'])

/-! ## Values -/

mutual

/-- The value on one line, without spaces. -/
def compact : Json → String
  | .null => "null"
  | .bool true => "true"
  | .bool false => "false"
  | .number value => Nat.repr value
  | .string value => quote value
  | .array items => "[" ++ ",".intercalate (compactItems items) ++ "]"
  | .object fields => "\x7b" ++ ",".intercalate (compactFields fields) ++ "\x7d"

/-- The items of an array, each on one line. -/
def compactItems : List Json → List String
  | [] => []
  | item :: rest => item.compact :: compactItems rest

/-- The fields of an object, each on one line. -/
def compactFields : List (String × Json) → List String
  | [] => []
  | (key, value) :: rest => (quote key ++ ":" ++ value.compact) :: compactFields rest

end

/-- The space in front of a line at the given depth. -/
def margin (depth : Nat) : String :=
  String.ofList (List.replicate (2 * depth) ' ')

/-- Lines between two brackets, or the brackets alone around nothing. -/
def block (depth : Nat) (opening closing : String) (lines : List String) : String :=
  if lines.isEmpty then opening ++ closing
  else
    opening ++ "\n" ++ ",\n".intercalate (lines.map (margin (depth + 1) ++ ·)) ++ "\n" ++
      margin depth ++ closing

mutual

/-- The value on as many lines as it has parts, at the given depth. -/
def prettyAt (depth : Nat) : Json → String
  | .array items => block depth "[" "]" (prettyItems (depth + 1) items)
  | .object fields => block depth "\x7b" "\x7d" (prettyFields (depth + 1) fields)
  | .null => "null"
  | .bool true => "true"
  | .bool false => "false"
  | .number value => Nat.repr value
  | .string value => quote value

/-- The items of an array, each on lines of its own. -/
def prettyItems (depth : Nat) : List Json → List String
  | [] => []
  | item :: rest => item.prettyAt depth :: prettyItems depth rest

/-- The fields of an object, each on lines of its own. -/
def prettyFields (depth : Nat) : List (String × Json) → List String
  | [] => []
  | (key, value) :: rest =>
    (quote key ++ ": " ++ value.prettyAt depth) :: prettyFields depth rest

end

/-- The value with two spaces of indentation for each level. -/
def pretty (value : Json) : String :=
  value.prettyAt 0

/-! ## Building values -/

/-- An array of strings. -/
def strings (values : List String) : Json :=
  .array (values.map .string)

/-- A field that is left out when there is nothing to say. -/
def field? (key : String) (value : Option Json) : List (String × Json) :=
  match value with
  | some value => [(key, value)]
  | none => []

end Json

end ClassMove
