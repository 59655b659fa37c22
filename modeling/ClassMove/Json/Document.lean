import ClassMove.Text.Basic

/-!
# Reading JSON

A document keeps what its reader may still have to decide: numbers stay the digits
that were written, and a string that holds half of a surrogate pair has no text.
Everything else is strict: no comments, no trailing commas, no leading zeros, no
control characters in strings, and nothing behind the value.
-/

namespace ClassMove

/-- A JSON value that was read. -/
inductive Document where
  | null
  | bool (value : Bool)
  | number (literal : Text)
  | string (text? : Option Text)
  | array (items : List Document)
  | object (fields : List (Option Text × Document))

namespace Document

/-- The white space between the parts of a document. -/
def isSpace (c : Char) : Bool :=
  c == ' ' || c == '\t' || c == '\n' || c == '\r'

/-- What follows the white space. -/
def skipSpace (text : Text) : Text :=
  text.dropWhile isSpace

/-! ## Strings -/

/-- A character of a string, or half of a surrogate pair. -/
inductive Symbol where
  | char (c : Char)
  | surrogate (unit : Nat)

/-- The value of a hexadecimal digit. -/
def hexDigit? (c : Char) : Option Nat :=
  if c.isDigit then some (c.toNat - '0'.toNat)
  else if 'a' ≤ c ∧ c ≤ 'f' then some (c.toNat - 'a'.toNat + 10)
  else if 'A' ≤ c ∧ c ≤ 'F' then some (c.toNat - 'A'.toNat + 10)
  else none

/-- The symbol with the code unit of four hexadecimal digits. -/
def unit? (digits : List Char) : Option Symbol := do
  let values ← digits.mapM hexDigit?
  let unit := values.foldl (fun value digit => value * 16 + digit) 0
  some (if 0xD800 ≤ unit ∧ unit < 0xE000 then .surrogate unit else .char (Char.ofNat unit))

/-- The character that a backslash and one more character stand for. -/
def escaped? (c : Char) : Option Char :=
  match c with
  | '"' => some '"'
  | '\\' => some '\\'
  | '/' => some '/'
  | 'b' => some '\x08'
  | 'f' => some '\x0C'
  | 'n' => some '\n'
  | 'r' => some '\r'
  | 't' => some '\t'
  | _ => none

/-- The symbols up to the closing quote, and what follows it. -/
def readSymbols : Text → Option (List Symbol × Text)
  | [] => none
  | '"' :: rest => some ([], rest)
  | '\\' :: 'u' :: a :: b :: c :: d :: rest => do
    let symbol ← unit? [a, b, c, d]
    let (symbols, behind) ← readSymbols rest
    some (symbol :: symbols, behind)
  | '\\' :: c :: rest => do
    let symbol ← escaped? c
    let (symbols, behind) ← readSymbols rest
    some (.char symbol :: symbols, behind)
  | c :: rest =>
    if c.toNat < 0x20 then none
    else do
      let (symbols, behind) ← readSymbols rest
      some (.char c :: symbols, behind)

/-- The text of symbols whose surrogates come in pairs. -/
def assemble : List Symbol → Option Text
  | [] => some []
  | .char c :: rest => (assemble rest).map (c :: ·)
  | .surrogate high :: .surrogate low :: rest =>
    if high < 0xDC00 ∧ 0xDC00 ≤ low then
      (assemble rest).map
        (Char.ofNat (0x10000 + (high - 0xD800) * 0x400 + (low - 0xDC00)) :: ·)
    else none
  | .surrogate _ :: _ => none

/-! ## Numbers -/

/-- The digits at the start of a text, of which there has to be one. -/
def readDigits (text : Text) : Option (Text × Text) :=
  match text.takeWhile Char.isDigit with
  | [] => none
  | digits => some (digits, text.dropWhile Char.isDigit)

/-- A whole number without a sign.  Only the number zero starts with a zero. -/
def readWhole (text : Text) : Option (Text × Text) := do
  let (digits, rest) ← readDigits text
  match digits with
  | '0' :: _ :: _ => none
  | _ => some (digits, rest)

/-- A point and digits, if there is a point. -/
def readFraction (text : Text) : Option (Text × Text) :=
  match text with
  | '.' :: rest => (readDigits rest).map fun (digits, behind) => ('.' :: digits, behind)
  | _ => some ([], text)

/-- A sign, if there is one. -/
def readSign (signs : List Char) (text : Text) : Text × Text :=
  match text with
  | [] => ([], [])
  | c :: rest => if signs.contains c then ([c], rest) else ([], text)

/-- An exponent, if there is one. -/
def readExponent (text : Text) : Option (Text × Text) :=
  match text with
  | [] => some ([], [])
  | c :: rest =>
    if c = 'e' ∨ c = 'E' then do
      let (sign, behind) := readSign ['+', '-'] rest
      let (digits, behind) ← readDigits behind
      some (c :: sign ++ digits, behind)
    else some ([], text)

/-- The number at the start of a text. -/
def readNumber (text : Text) : Option (Text × Text) := do
  let (sign, rest) := readSign ['-'] text
  let (whole, rest) ← readWhole rest
  let (fraction, rest) ← readFraction rest
  let (exponent, rest) ← readExponent rest
  some (sign ++ whole ++ fraction ++ exponent, rest)

/-! ## Values -/

/-- A value that is one of the three words. -/
def readWord (text : Text) : Option (Document × Text) :=
  match Text.after? "null".toList text with
  | some rest => some (.null, rest)
  | none =>
    match Text.after? "true".toList text with
    | some rest => some (.bool true, rest)
    | none => (Text.after? "false".toList text).map fun rest => (.bool false, rest)

mutual

/-- The value at the start of a text, reading at most `fuel` values and separators deep. -/
def readValue : (fuel : Nat) → Text → Option (Document × Text)
  | 0, _ => none
  | fuel + 1, text =>
    match skipSpace text with
    | [] => none
    | c :: rest =>
      if c = '"' then do
        let (symbols, behind) ← readSymbols rest
        some (.string (assemble symbols), behind)
      else if c = '[' then
        match skipSpace rest with
        | ']' :: behind => some (.array [], behind)
        | _ => (readItems fuel rest).map fun (items, behind) => (.array items, behind)
      else if c = '\x7b' then
        match skipSpace rest with
        | '\x7d' :: behind => some (.object [], behind)
        | _ => (readFields fuel rest).map fun (fields, behind) => (.object fields, behind)
      else if c = '-' ∨ c.isDigit then
        (readNumber (c :: rest)).map fun (literal, behind) => (.number literal, behind)
      else readWord (c :: rest)

/-- The items up to the closing bracket. -/
def readItems : (fuel : Nat) → Text → Option (List Document × Text)
  | 0, _ => none
  | fuel + 1, text => do
    let (item, rest) ← readValue fuel text
    match skipSpace rest with
    | ']' :: behind => some ([item], behind)
    | ',' :: behind =>
      let (items, behind) ← readItems fuel behind
      some (item :: items, behind)
    | _ => none

/-- The fields up to the closing brace. -/
def readFields : (fuel : Nat) → Text → Option (List (Option Text × Document) × Text)
  | 0, _ => none
  | fuel + 1, text =>
    match skipSpace text with
    | '"' :: rest => do
      let (symbols, rest) ← readSymbols rest
      match skipSpace rest with
      | ':' :: rest =>
        let (value, rest) ← readValue fuel rest
        match skipSpace rest with
        | '\x7d' :: behind => some ([(assemble symbols, value)], behind)
        | ',' :: behind =>
          let (fields, behind) ← readFields fuel behind
          some ((assemble symbols, value) :: fields, behind)
        | _ => none
      | _ => none
    | _ => none

end

/-- Read a whole text.  Every step but the entry into a value takes a character away, so twice the
length is enough. -/
def ofText? (text : Text) : Option Document :=
  match readValue (2 * text.length + 2) text with
  | some (document, rest) => if skipSpace rest = [] then some document else none
  | none => none

/-! ## Decoding -/

/-- The text of a string. -/
def text? : Document → Option Text
  | .string text? => text?
  | _ => none

/-- The texts of an array of strings. -/
def texts? : Document → Option (List Text)
  | .array items => items.mapM text?
  | _ => none

/-- A whole number that fits 64 bits, written with digits only. -/
def natural? : Document → Option Nat
  | .number literal =>
    if literal.all Char.isDigit then
      let value := literal.foldl (fun value c => value * 10 + (c.toNat - '0'.toNat)) 0
      if value < UInt64.size then some value else none
    else none
  | _ => none

/-- The values of a record with the given keys.  It is written as an object, where other keys do
not matter and none of the given ones may come twice, or as an array in the order of the keys,
where those at the end may be missing. -/
def record? (keys : List Text) : Document → Option (List (Option Document))
  | .object fields =>
    if fields.all (·.1.isSome) &&
        keys.all (fun key => fields.countP (fun field => field.1 == some key) ≤ 1) then
      some (keys.map fun key =>
        (fields.find? fun field => field.1 == some key).map Prod.snd)
    else none
  | .array items =>
    if items.length ≤ keys.length then
      some ((List.range keys.length).map fun index => items[index]?)
    else none
  | _ => none

/-- Decode a value that may be missing. -/
def orDefault {α : Type} (default : α) (decode : Document → Option α) :
    Option Document → Option α
  | none => some default
  | some document => decode document

end Document

end ClassMove
