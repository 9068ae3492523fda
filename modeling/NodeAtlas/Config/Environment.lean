import NodeAtlas.Config.Basic
import NodeAtlas.Text.Ascii
import NodeAtlas.Text.Blank

/-!
# Environment overlay

Variables of the environment replace settings of the configuration. A variable without value counts
as absent. Every variable `ICS_ICENTER_<id>` names a tenant, whose section is then built from the
variables `ICENTER_<id>_…` and the global settings.
-/

namespace NodeAtlas.Config

open NodeAtlas.Net NodeAtlas.Text

/-- The variables of an environment by name. -/
abbrev Environment := Dict String

/-- The value of a variable, unless it is empty. -/
def Environment.value? (env : Environment) (name : String) : Option String :=
  (env.find? name).filter fun v => !v.isEmpty

/-- Reads a flag; what is none is ignored. -/
def readFlag? (value : String) : Option Bool :=
  let v := asciiLower (trim value)
  if v = "1" ∨ v = "t" ∨ v = "true" then some true
  else if v = "0" ∨ v = "f" ∨ v = "false" then some false
  else none

/-- The global settings of the overlay other than address and port of the endpoint. -/
def overlayGlobal (env : Environment) (g : Global) : Global :=
  { g with
    user := (env.value? "ICS_USER").getD g.user
    password := (env.value? "ICS_PASSWORD").getD g.password
    datacenters := (env.value? "ICS_DATACENTER").getD g.datacenters
    secretName := (env.value? "ICS_SECRET_NAME").getD g.secretName
    secretNamespace := (env.value? "ICS_SECRET_NAMESPACE").getD g.secretNamespace
    insecure := ((env.value? "ICS_INSECURE").bind readFlag?).getD g.insecure
    apiDisable := ((env.value? "ICS_API_DISABLE").bind readFlag?).getD g.apiDisable
    apiBinding := (env.value? "ICS_API_BINDING").getD g.apiBinding
    secretsDirectory := (env.value? "ICS_SECRETS_DIRECTORY").getD g.secretsDirectory
    ipFamily := (env.value? "ICS_IP_FAMILY").getD g.ipFamily }

/-- The tag categories of the overlay. -/
def overlayLabels (env : Environment) (l : Labels) : Labels :=
  { region := (env.value? "ICS_LABEL_REGION").getD l.region
    zone := (env.value? "ICS_LABEL_ZONE").getD l.zone }

/-- The port that a variable sets, if it is there. -/
def readPort (value : Option String) (fallback : Option UInt16) :
    Except ValidationError (Option UInt16) :=
  match value with
  | none => .ok fallback
  | some v => (parsePort v).map some

/-- The section that the variables of an id describe. -/
def sectionOf (env : Environment) (g : Global) (id : String) : Except ValidationError Section :=
  let field (name : String) : Option String := env.value? ("ICENTER_" ++ id ++ "_" ++ name)
  match readPort (field "PORT") g.port with
  | .error e => .error e
  | .ok port =>
    let secret : String × String :=
      match field "SECRET_NAME", field "SECRET_NAMESPACE" with
      | some name, some space => (name, space)
      | _, _ => ("", "")
    .ok {
      user := (field "USERNAME").getD g.user
      password := (field "PASSWORD").getD g.password
      server := (field "SERVER").getD ""
      port := port
      insecure := ((field "INSECURE").bind readFlag?).getD false
      datacenters := (field "DATACENTERS").getD g.datacenters
      secretName := secret.1
      secretNamespace := secret.2
      ipFamily := (field "IP_FAMILY").getD g.ipFamily }

/-- The id in the name of a variable that names a tenant. -/
def sectionId? (name : String) : Option String :=
  (dropLead? "ICS_ICENTER_" name).filter fun id => id ≠ "" ∧ id ≠ "PORT"

/-- Adds the sections that the variables name, in the order of their names, up to the first bad
port. -/
def overlaySections (env : Environment) (g : Global) (sections : Dict Section) :
    List (String × String) → Dict Section × Except ValidationError Unit
  | [] => (sections, .ok ())
  | (name, tenant) :: vars =>
    match sectionId? name with
    | none => overlaySections env g sections vars
    | some id =>
      if tenant.isEmpty then overlaySections env g sections vars
      else
        match sectionOf env g id with
        | .error e => (sections, .error e)
        | .ok s => overlaySections env g (sections.insert tenant s) vars

/-- The configuration with the variables applied. A bad port ends the overlay; what was applied
before it stays. -/
def overlay (c : Config) (env : Environment) : Config × Result Unit :=
  let g := { c.global with server := (env.value? "ICS_ICENTER").getD c.global.server }
  match readPort (env.value? "ICS_ICENTER_PORT") g.port with
  | .error e => ({ c with global := g }, .error (.validation e))
  | .ok port =>
    let g := overlayGlobal env { g with port := port }
    let r := overlaySections env g c.sections env.entries
    ({ c with global := g, labels := overlayLabels env c.labels, sections := r.1 },
      r.2.mapError .validation)

/-- The configuration that the environment alone describes. -/
def ofEnvironment (env : Environment) : Result Config :=
  match overlay {} env with
  | (c, .ok ()) => .ok c
  | (_, .error e) => .error e

end NodeAtlas.Config
