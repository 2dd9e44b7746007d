import PgStatement.Double.Layout
import PgStatement.Text.Quoted

/-!
# JSON documents

A document is null, a truth value, a number, a string, an array or an object. Numbers are of two
kinds that never equal each other: integers, and floating-point numbers – `1` and `1.0` are
different documents. The members of an object stand in the order of their keys, character by
character, and no key occurs twice: `Json.insertMember` keeps both and lets the last value of a key
win.

A document has two texts. `Json.text` is the compact document itself; `Json.inspect` shows its
structure and is what messages print.
-/

namespace PgStatement

/-- **A JSON document.** -/
inductive Json where
  /-- Null. -/
  | null
  /-- A truth value. -/
  | bool (b : Bool)
  /-- An integer, in the range of signed or unsigned sixty-four bits. -/
  | int (i : Int)
  /-- A floating-point number. -/
  | float (d : Double)
  /-- A string. -/
  | string (s : String)
  /-- An array. -/
  | array (items : List Json)
  /-- An object, with its members in the order of their keys. -/
  | object (members : List (String × Json))

namespace Json

/-- A member put in its place among members in order; one with the same key gives way. -/
def insertMember (key : String) (value : Json) :
    List (String × Json) → List (String × Json)
  | [] => [(key, value)]
  | (k, v) :: rest =>
    if key < k then (key, value) :: (k, v) :: rest
    else if key = k then (key, value) :: rest
    else (k, v) :: insertMember key value rest

/-! ## Equality -/

mutual

/-- Equality of documents. Floating-point numbers are compared as numbers. -/
def equals : Json → Json → Bool
  | .null, .null => true
  | .bool a, .bool b => a == b
  | .int a, .int b => a == b
  | .float a, .float b => a.equals b
  | .string a, .string b => a == b
  | .array as, .array bs => equalItems as bs
  | .object as, .object bs => equalMembers as bs
  | _, _ => false

/-- Equality of arrays. -/
def equalItems : List Json → List Json → Bool
  | [], [] => true
  | a :: as, b :: bs => equals a b && equalItems as bs
  | _, _ => false

/-- Equality of objects, whose members are in order. -/
def equalMembers : List (String × Json) → List (String × Json) → Bool
  | [], [] => true
  | (k, a) :: as, (l, b) :: bs => k == l && equals a b && equalMembers as bs
  | _, _ => false

end

/-! ## The compact text -/

/-- One character of a string in a document. -/
def escapedChar (c : Char) : List Char :=
  match c with
  | '"' => ['\\', '"']
  | '\\' => ['\\', '\\']
  | '\x08' => ['\\', 'b']
  | '\t' => ['\\', 't']
  | '\n' => ['\\', 'n']
  | '\x0c' => ['\\', 'f']
  | '\r' => ['\\', 'r']
  | c =>
    if c.toNat < 0x20 then
      ['\\', 'u', '0', '0', Text.hexDigit (c.toNat / 16), Text.hexDigit (c.toNat % 16)]
    else [c]

/-- A string as it stands in a document. -/
def stringText (s : String) : String :=
  String.ofList ('"' :: s.toList.flatMap escapedChar ++ ['"'])

mutual

/-- **The document as compact text.** -/
def text : Json → String
  | .null => "null"
  | .bool true => "true"
  | .bool false => "false"
  | .int i => Text.signedDecimal i
  | .float d => d.text Layout.json
  | .string s => stringText s
  | .array items => "[" ++ ",".intercalate (itemTexts items) ++ "]"
  | .object members => "\x7b" ++ ",".intercalate (memberTexts members) ++ "\x7d"

/-- The texts of the items of an array. -/
def itemTexts : List Json → List String
  | [] => []
  | item :: items => text item :: itemTexts items

/-- The texts of the members of an object. -/
def memberTexts : List (String × Json) → List String
  | [] => []
  | (key, value) :: members => (stringText key ++ ":" ++ text value) :: memberTexts members

end

/-! ## The inspected text -/

mutual

/-- **The structure of the document**, as messages show it. -/
def inspect : Json → String
  | .null => "Null"
  | .bool b => "Bool(" ++ (if b then "true" else "false") ++ ")"
  | .int i => "Number(" ++ Text.signedDecimal i ++ ")"
  | .float d => "Number(" ++ d.text Layout.json ++ ")"
  | .string s => "String(" ++ Text.quoted s ++ ")"
  | .array items => "Array [" ++ ", ".intercalate (inspectItems items) ++ "]"
  | .object members => "Object \x7b" ++ ", ".intercalate (inspectMembers members) ++ "\x7d"

/-- The inspected items of an array. -/
def inspectItems : List Json → List String
  | [] => []
  | item :: items => inspect item :: inspectItems items

/-- The inspected members of an object. -/
def inspectMembers : List (String × Json) → List String
  | [] => []
  | (key, value) :: members =>
    (Text.quoted key ++ ": " ++ inspect value) :: inspectMembers members

end

end Json

end PgStatement
