import Entitlement.ClientError
import Entitlement.Url.Host

/-!
Why there is no usable configuration: a setting has the wrong type or is missing, or the settings do
not fit.
-/

namespace Entitlement

/-- Where a value stands that was given as it is. -/
inductive SettingOrigin
  | file (name : String)
  | environment
  deriving DecidableEq, Repr

/-- What was found in place of a value of the right type. -/
inductive Misplaced
  | nothing
  | integer (i : Int64)
  | text (s : String)
  | list
  | table
  deriving DecidableEq, Repr

inductive Wanted
  | text
  | integer
  | unsignedInteger
  | boolean
  deriving DecidableEq, Repr

inductive ConfigError
  /-- No such file, or no settings in it. -/
  | unreadable (fileName : String)
  | wrongType (found : Misplaced) (wanted : Wanted) (key : String) (origin : Option SettingOrigin)
  | missing (key : String)
  /-- A text that must not be blank is. -/
  | required (key : String)
  | invalidUrl (e : Url.ParseError)
  | schemeNotAllowed (scheme : String)
  /-- A length of time is zero. -/
  | notPositive (key : String)
  deriving DecidableEq, Repr

def Misplaced.message : Misplaced → String
  | nothing => "unit value"
  | integer i => "64-bit integer \x60" ++ Decimal.ofInt64 i ++ "\x60"
  | text s => "string " ++ Text.quoted s
  | list => "sequence"
  | table => "map"

def Wanted.message : Wanted → String
  | text => "a string"
  | integer => "an integer"
  | unsignedInteger => "an unsigned 64 bit or less integer"
  | boolean => "a boolean"

def SettingOrigin.message : SettingOrigin → String
  | file name => name
  | environment => "the environment"

namespace ConfigError

def message : ConfigError → String
  | unreadable fileName => "configuration file \"" ++ fileName ++ "\" cannot be read"
  | wrongType found wanted key origin =>
    "invalid type: " ++ found.message ++ ", expected " ++ wanted.message ++
      " for key \x60" ++ key ++ "\x60" ++ (origin.elim "" fun o => " in " ++ o.message)
  | missing key => "missing field \x60" ++ key ++ "\x60"
  | required key => key ++ " is required"
  | invalidUrl e => "invalid authority_url: " ++ e.message
  | schemeNotAllowed scheme => "authority_url must use http or https, got " ++ scheme
  | notPositive key => key ++ " must be greater than zero"

/-- The text of the error depends on the name of a file. -/
def namesFile : ConfigError → Bool
  | unreadable _ => true
  | wrongType _ _ _ (some (.file _)) => true
  | _ => false

end ConfigError

def ClientError.ofConfig (e : ConfigError) : ClientError := .config e.message

end Entitlement
