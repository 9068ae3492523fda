import NodeAtlas.Config.Basic
import NodeAtlas.Endpoint

/-!
# Concealed passwords

A configuration in which only the presence of each password can be told. Two configurations differ in
passwords alone, and have one in the same places, if they are the same once the passwords are concealed.
-/

namespace NodeAtlas

/-- What stands for a password. -/
def conceal (password : String) : String := if password.isEmpty then "" else "*"

def Credentials.concealed (k : Credentials) : Credentials := { k with password := conceal k.password }

def Endpoint.concealed (e : Endpoint) : Endpoint := { e with credentials := e.credentials.concealed }

namespace Config

def Global.concealed (g : Global) : Global := { g with password := conceal g.password }

def Section.concealed (s : Section) : Section := { s with password := conceal s.password }

/-- The configuration with all its passwords concealed. -/
def concealed (c : Config) : Config :=
  { c with global := c.global.concealed, sections := c.sections.map Section.concealed }

end Config

end NodeAtlas
