import PgStatement.Error
import PgStatement.Text.Quoted

/-!
# Configuration

What a manager needs to know before it connects: where the database is, under which name events of
the manager are logged, how long to wait and how to introduce itself to the server. The address may
hold a password, and is therefore left out when a configuration is shown.
-/

namespace PgStatement

/-- **The settings of a manager.** -/
structure Config where
  /-- The address of the database. -/
  databaseUrl : String
  /-- The name in log events. -/
  name : String
  /-- How long to wait for a connection, in milliseconds. -/
  connectTimeout? : Option Nat
  /-- The name the manager gives to the server. -/
  applicationName? : Option String
  deriving DecidableEq

namespace Config

/-- The settings for an address, with nothing else said. -/
def ofUrl (url : String) : Config := ⟨url, "default", none, none⟩

/-- The settings with another name in log events. -/
def withName (c : Config) (name : String) : Config := { c with name := name }

/-- The settings with a time to wait for a connection. -/
def withConnectTimeout (c : Config) (milliseconds : Nat) : Config :=
  { c with connectTimeout? := some milliseconds }

/-- The settings with a name that is given to the server. -/
def withApplicationName (c : Config) (name : String) : Config :=
  { c with applicationName? := some name }

/-- The environment variable that holds the address. -/
def environmentVariable : String := "DATABASE_URL"

/-- The settings from the value of the environment variable. -/
def fromEnvironment : Option String → Except Error Config
  | some url => .ok (ofUrl url)
  | none => .error (.configuration (environmentVariable ++ " is not set"))

/-! ## Showing settings -/

/-- The decimal places of a number of thousandths, without trailing zeros. -/
def thousandthsText (n : Nat) : String :=
  if n = 0 then ""
  else
    let digits := Text.paddedChars 3 n
    "." ++ String.ofList (digits.reverse.dropWhile (· == '0')).reverse

/-- A time in milliseconds, in seconds if it is at least one. -/
def durationText (milliseconds : Nat) : String :=
  if milliseconds = 0 then "0ns"
  else if milliseconds < 1000 then Text.decimal milliseconds ++ "ms"
  else Text.decimal (milliseconds / 1000) ++ thousandthsText (milliseconds % 1000) ++ "s"

/-- A setting that may be missing. -/
def optionText : Option String → String
  | none => "None"
  | some text => "Some(" ++ text ++ ")"

/-- **The settings as they are shown**, without the address. -/
def inspect (c : Config) : String :=
  "ManagerConfig \x7b name: " ++ Text.quoted c.name
    ++ ", connect_timeout: " ++ optionText (c.connectTimeout?.map durationText)
    ++ ", application_name: " ++ optionText (c.applicationName?.map Text.quoted) ++ ", .. \x7d"

/-- **The address is not shown**: settings that differ in nothing else look alike. -/
theorem inspect_databaseUrl (c : Config) (url : String) :
    ({ c with databaseUrl := url } : Config).inspect = c.inspect := rfl

end Config

end PgStatement
