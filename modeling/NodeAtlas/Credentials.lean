import NodeAtlas.Error
import NodeAtlas.Text.Blank
import NodeAtlas.Text.Shown

/-!
# Credentials and session tokens

A username with its password, and the rules that they and a session token obey before they are sent.
-/

namespace NodeAtlas

open NodeAtlas.Text

/-- A username and its password. -/
structure Credentials where
  /-- The name of the user. -/
  username : String
  /-- The password; no text for logs shows it. -/
  password : String
  deriving DecidableEq, Repr, Inhabited

namespace Credentials

/-- Neither half is set. -/
def none : Credentials := ⟨"", ""⟩

/-- Neither half is set. -/
def isEmpty (c : Credentials) : Bool := c.username.isEmpty && c.password.isEmpty

/-- The credentials as shown in logs, with the password withheld. -/
def describe (c : Credentials) : String :=
  shownRecord "Credentials" [("username", quoted c.username), ("password", quoted "<redacted>")]

end Credentials

/-- A username has 1 to 128 bytes and neither blank nor control characters. -/
def validateUsername (username : String) : Except ValidationError Unit :=
  if username.isEmpty then .error (.field "user" "Username cannot be empty")
  else if 128 < username.utf8ByteSize then
    .error (.format ("Username cannot exceed 128 characters (got " ++
      toString username.utf8ByteSize ++ ")"))
  else if username.toList.any (fun c => isBlank c || isControl c) then
    .error (.format "Username cannot contain whitespace or control characters")
  else .ok ()

/-- A password is not empty. -/
def validatePassword (password : String) : Except ValidationError Unit :=
  if password.isEmpty then .error (.field "password" "Password cannot be empty") else .ok ()

/-- A session token has neither blank nor control characters and is not empty. -/
def validateToken (token : String) : Except ValidationError Unit :=
  if isBlankText token then .error (.field "token" "Token cannot be empty")
  else if token.toList.any (fun c => isBlank c || isControl c) then
    .error (.format "Token cannot contain whitespace")
  else .ok ()

end NodeAtlas
