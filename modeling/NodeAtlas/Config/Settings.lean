import NodeAtlas.Config.Environment

/-!
# Settings and their variables

Which variables of the environment give the settings of a configuration their values. A setting is what
is given as a whole: mostly one field of a record, but name and namespace of a section's secret are one
setting, as they are taken together or not at all.
-/

namespace NodeAtlas.Config

open NodeAtlas.Net

/-- A part of a record to which variables give a value. -/
structure Setting (ρ : Type) where
  Value : Type
  get : ρ → Value
  /-- The value that the variables give, if they do. -/
  given : (look : String → Option String) → Option Value

namespace Setting

variable {ρ : Type}

def text (name : String) (get : ρ → String) : Setting ρ := ⟨String, get, fun look => look name⟩

/-- A flag is given only if its value can be read. -/
def flag (name : String) (get : ρ → Bool) : Setting ρ :=
  ⟨Bool, get, fun look => (look name).bind readFlag?⟩

def port (name : String) (get : ρ → Option UInt16) : Setting ρ :=
  ⟨Option UInt16, get, fun look => (look name).bind fun v => (parsePort v).toOption.map some⟩

/-- A secret is given only if both its name and its namespace are. -/
def secret (name space : String) (get : ρ → String × String) : Setting ρ :=
  ⟨String × String, get, fun look => (look name).bind fun n => (look space).map fun s => (n, s)⟩

end Setting

/-- The second record has the given values, and otherwise those of the first one. -/
def Overlaid {ρ : Type} (settings : List (Setting ρ)) (look : String → Option String)
    (before after : ρ) : Prop :=
  ∀ x ∈ settings, x.get after = (x.given look).getD (x.get before)

/-- The global settings that variables can give; lifetime and limits of sessions are not among them. -/
def Global.settings : List (Setting Global) :=
  [.text "ICS_ICENTER" server, .port "ICS_ICENTER_PORT" port, .text "ICS_USER" user,
    .text "ICS_PASSWORD" password, .text "ICS_DATACENTER" datacenters,
    .text "ICS_SECRET_NAME" secretName, .text "ICS_SECRET_NAMESPACE" secretNamespace,
    .flag "ICS_INSECURE" insecure, .flag "ICS_API_DISABLE" apiDisable,
    .text "ICS_API_BINDING" apiBinding, .text "ICS_SECRETS_DIRECTORY" secretsDirectory,
    .text "ICS_IP_FAMILY" ipFamily]

def Labels.settings : List (Setting Labels) :=
  [.text "ICS_LABEL_REGION" region, .text "ICS_LABEL_ZONE" zone]

/-- The settings of a section, by the last parts of the names of their variables. -/
def Section.settings : List (Setting Section) :=
  [.text "USERNAME" user, .text "PASSWORD" password, .text "SERVER" server, .port "PORT" port,
    .flag "INSECURE" insecure, .text "DATACENTERS" datacenters,
    .secret "SECRET_NAME" "SECRET_NAMESPACE" fun s => (s.secretName, s.secretNamespace),
    .text "IP_FAMILY" ipFamily]

/-- The last parts of the names of a section's variables. -/
def sectionFields : List String :=
  ["USERNAME", "PASSWORD", "SERVER", "PORT", "INSECURE", "DATACENTERS", "SECRET_NAME",
    "SECRET_NAMESPACE", "IP_FAMILY"]

/-- The section of an endpoint of which nothing but the global settings is known. -/
def Section.inherited (g : Global) : Section :=
  { user := g.user
    password := g.password
    port := g.port
    datacenters := g.datacenters
    ipFamily := g.ipFamily }

/-! ## Names of variables -/

/-- The variable that names the tenant of an id. -/
def tenantVariable (id : String) : String := "ICS_ICENTER_" ++ id

def sectionVariable (id field : String) : String := "ICENTER_" ++ id ++ "_" ++ field

/-- The value that the environment has for a field of the section of an id. -/
def Environment.field? (env : Environment) (id field : String) : Option String :=
  env.value? (sectionVariable id field)

/-- The environment names a tenant by an id. The id that would be that of the global port is none. -/
def Environment.Names (env : Environment) (id tenant : String) : Prop :=
  id ≠ "" ∧ id ≠ "PORT" ∧ env.value? (tenantVariable id) = some tenant

end NodeAtlas.Config
