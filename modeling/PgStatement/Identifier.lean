import PgStatement.Error
import PgStatement.Text.Blank

/-!
# Identifiers

Names of tables, columns and constraints are written into statements without quotes, so only bare
identifiers are let in: parts joined by single points, each a letter or underscore followed by
letters, digits, underscores and dollar signs, all of ASCII. A name that is not one is refused with
the first thing wrong with it, from left to right.

Fields of conditions, selections and orderings are expressions and not names. Of them it is only
asked that they are not blank.
-/

namespace PgStatement

namespace Identifier

/-- Whether a character may start a part of an identifier. -/
def isStart (c : Char) : Bool := c == '_' || c.isAlpha

/-- Whether a character may follow in a part of an identifier. -/
def isFollowing (c : Char) : Bool := c == '_' || c == '$' || c.isAlphanum

/-- What is wrong with a name. -/
inductive Fault where
  /-- It is empty. -/
  | empty
  /-- There is nothing before, after or between points. -/
  | emptyPart
  /-- A part starts with a character that may not start one. -/
  | badStart (c : Char)
  /-- A part holds a character that no identifier has. -/
  | badCharacter (c : Char)
  deriving DecidableEq

/-- The text of a fault of a name in a role. -/
def Fault.message (role name : String) : Fault → String
  | .empty => role ++ " name cannot be empty"
  | .emptyPart => role ++ " name '" ++ name ++ "' has an empty part"
  | .badStart c =>
    "invalid " ++ role ++ " name '" ++ name ++ "': invalid start character '" ++ c.toString ++ "'"
  | .badCharacter c =>
    "invalid " ++ role ++ " name '" ++ name ++ "': invalid character '" ++ c.toString ++ "'"

/-- The parts of a name, which points separate. There is always at least one. -/
def parts : List Char → List (List Char)
  | [] => [[]]
  | c :: cs =>
    if c = '.' then [] :: parts cs
    else
      match parts cs with
      | [] => [[c]]
      | part :: rest => (c :: part) :: rest

/-- What is wrong with a part. -/
def partFault? : List Char → Option Fault
  | [] => some .emptyPart
  | c :: cs =>
    if isStart c then (cs.find? fun c => !isFollowing c).map .badCharacter else some (.badStart c)

/-- What is wrong with a name, the leftmost thing first. -/
def fault? (name : String) : Option Fault :=
  if name.isEmpty then some .empty else (parts name.toList).findSome? partFault?

/-- **Lets a name in** or says what is wrong with it in its role. -/
def check (role name : String) : Except Error Unit :=
  match fault? name with
  | none => .ok ()
  | some fault => .error (.invalidArgument (fault.message role name))

end Identifier

/-- Lets an expression in that is not blank. -/
def checkField (role field : String) : Except Error Unit :=
  if Text.isBlankText field then .error (.invalidArgument (role ++ " cannot be empty")) else .ok ()

end PgStatement
