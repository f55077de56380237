import BooleanSearch.Settings.Basic
import BooleanSearch.Text.Blank

/-! Credentials: the name and the password that the environment holds for the backend. -/

namespace BooleanSearch

/-- The variables of an environment. -/
abbrev Environment := List (String × String)

/-- What a variable holds, without the blanks around it; a blank name holds nothing. -/
def Environment.held (environment : Environment) (name : String) : String :=
  if Text.trim name == "" then ""
  else Text.trim ((environment.lookup name).getD "")

/-- A name and a password. -/
structure Credentials where
  /-- The user's name. -/
  username : String
  /-- The user's password. -/
  password : String
deriving Repr, DecidableEq

/-- The credentials for the backend, if the environment holds both parts. -/
def BackendSettings.credentials? (backend : BackendSettings) (environment : Environment) :
    Option Credentials :=
  let username := environment.held backend.usernameVariable
  let password := environment.held backend.passwordVariable
  if username != "" && password != "" then some ⟨username, password⟩ else none

end BooleanSearch
