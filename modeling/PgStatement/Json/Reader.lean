import PgStatement.Json.Token

/-!
# Reading JSON documents

Tokens are read one by one into a `Reading`: what must come next, and the arrays and objects that
are open around it. As a reading is a state and its step a function, reading a whole document is a
fold, and the depth of nesting is the number of open containers; there may be at most `maxDepth`.
-/

namespace PgStatement.Json

/-- A container that is open, with what was read of it. -/
inductive Frame where
  /-- An array, its items in reverse. -/
  | array (reversed : List Json)
  /-- An object at the value of a key. -/
  | member (members : List (String × Json)) (key : String)

/-- What must come next. -/
inductive Expected where
  /-- A value. -/
  | value
  /-- The first item of an array, or its end. -/
  | firstItem
  /-- The first key of an object, or its end. -/
  | firstKey
  /-- A further key, of an object with members. -/
  | key (members : List (String × Json))
  /-- The colon after a key. -/
  | colon (members : List (String × Json)) (key : String)
  /-- A comma or the end of an array. -/
  | afterItem (reversed : List Json)
  /-- A comma or the end of an object. -/
  | afterMember (members : List (String × Json))
  /-- Nothing: the document is complete. -/
  | nothing (document : Json)

/-- **A document being read**: the open containers, innermost first, and what must come next. -/
structure Reading where
  /-- The containers around the place of reading, without the innermost one if no value of it is
  under way. -/
  frames : List Frame
  /-- What must come next. -/
  expected : Expected

namespace Reading

/-- How many containers may be open at once. -/
def maxDepth : Nat := 127

/-- The reading after a complete value. -/
def complete (frames : List Frame) (value : Json) : Reading :=
  match frames with
  | [] => ⟨[], .nothing value⟩
  | .array reversed :: frames => ⟨frames, .afterItem (value :: reversed)⟩
  | .member members key :: frames => ⟨frames, .afterMember (insertMember key value members)⟩

/-- The reading after a token where a value may start. -/
def startValue (frames : List Frame) : Token → Option Reading
  | .scalar value => some (complete frames value)
  | .string s => some (complete frames (.string s))
  | .openArray => if frames.length < maxDepth then some ⟨frames, .firstItem⟩ else none
  | .openObject => if frames.length < maxDepth then some ⟨frames, .firstKey⟩ else none
  | _ => none

/-- **The reading after one more token**; none if the token must not come there. -/
def step (r : Reading) (token : Token) : Option Reading :=
  match r.expected, token with
  | .value, token => startValue r.frames token
  | .firstItem, .closeArray => some (complete r.frames (.array []))
  | .firstItem, token => startValue (.array [] :: r.frames) token
  | .firstKey, .closeObject => some (complete r.frames (.object []))
  | .firstKey, .string key => some ⟨r.frames, .colon [] key⟩
  | .key members, .string key => some ⟨r.frames, .colon members key⟩
  | .colon members key, .colon => some ⟨.member members key :: r.frames, .value⟩
  | .afterItem reversed, .comma => some ⟨.array reversed :: r.frames, .value⟩
  | .afterItem reversed, .closeArray => some (complete r.frames (.array reversed.reverse))
  | .afterMember members, .comma => some ⟨r.frames, .key members⟩
  | .afterMember members, .closeObject => some (complete r.frames (.object members))
  | _, _ => none

/-- The document, if it is complete. -/
def document? (r : Reading) : Option Json :=
  match r.expected with
  | .nothing document => some document
  | _ => none

end Reading

/-- **The document that a text stands for.** -/
def ofText? (s : String) : Option Json := do
  let tokens ← tokens? s
  let reading ← tokens.foldlM Reading.step ⟨[], .value⟩
  reading.document?

end PgStatement.Json
