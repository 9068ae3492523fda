/-!
# Errors

Everything that can go wrong while endpoints are configured, connected and searched. Each error
names its kind and carries the detail that its text ends with.
-/

namespace NodeAtlas

/-- Why a value is refused by a validator. -/
inductive ValidationError where
  /-- One named field has no acceptable value. -/
  | field (name detail : String)
  /-- The text does not have the required form. -/
  | format (detail : String)
  /-- The value has the right form but exceeds a bound. -/
  | constraint (detail : String)
  deriving DecidableEq, Repr

namespace ValidationError

/-- The validation error in words. -/
def message : ValidationError → String
  | field name detail => "Field '" ++ name ++ "' validation failed: " ++ detail
  | format detail => "Format error: " ++ detail
  | constraint detail => "Domain constraint violation: " ++ detail

end ValidationError

/-- The errors of the library. -/
inductive Error where
  /-- No endpoint is configured or indexed under the given name. -/
  | endpointNotFound (name : String)
  /-- The datacenter does not exist on the endpoint or in the index. -/
  | datacenterNotFound (name : String)
  /-- No virtual machine matches. -/
  | vmNotFound (key : String)
  /-- No disk matches. -/
  | diskNotFound (key : String)
  /-- No place carries the zone and region asked for. -/
  | zoneRegionNotFound (detail : String)
  /-- No credential manager is registered under the secret reference. -/
  | credentialManagerNotFound (secretRef : String)
  /-- The configuration cannot be used. -/
  | invalidConfiguration (detail : String)
  /-- An endpoint could not be reached or answered badly; the attempt may be repeated. -/
  | connection (detail : String)
  /-- An endpoint refused the credentials or the session. -/
  | invalidCredentials (detail : String)
  /-- A value was refused by a validator. -/
  | validation (cause : ValidationError)
  deriving DecidableEq, Repr

namespace Error

/-- The error in words. -/
def message : Error → String
  | endpointNotFound name => "iCenter not found: " ++ name
  | datacenterNotFound name => "Datacenter not found: " ++ name
  | vmNotFound key => "No VM found: " ++ key
  | diskNotFound key => "No disk ID/Name found: " ++ key
  | zoneRegionNotFound detail => "Unable to find the Zone/Region pair: " ++ detail
  | credentialManagerNotFound secretRef =>
    "Unable to find credential manager for secret reference: " ++ secretRef
  | invalidConfiguration detail => "Invalid configuration: " ++ detail
  | connection detail => "Connection error: " ++ detail
  | invalidCredentials detail => "Invalid credentials: " ++ detail
  | validation cause => "Validation error: " ++ cause.message

/-- The errors that say that a look-up came back empty. -/
def isNotFound : Error → Bool
  | endpointNotFound _ | datacenterNotFound _ | vmNotFound _ | diskNotFound _
  | zoneRegionNotFound _ => true
  | _ => false

/-- The endpoint refused the credentials or the session. -/
def isInvalidCredentials : Error → Bool
  | invalidCredentials _ => true
  | _ => false

/-- The failure may go away by itself, so the attempt is worth repeating. -/
def isTransient : Error → Bool
  | connection _ => true
  | _ => false

end Error

/-- The outcome of an operation that can fail. -/
abbrev Result (α : Type) := Except Error α

namespace Result

variable {α β γ δ : Type}

theorem bind_eq_ok_iff {r : Result α} {f : α → Result β} {b : β} :
    (r >>= f) = .ok b ↔ ∃ a, r = .ok a ∧ f a = .ok b := by
  cases r with
  | error err =>
    constructor
    · intro h
      cases h
    · rintro ⟨a, h, -⟩
      cases h
  | ok a =>
    constructor
    · intro h
      exact ⟨a, rfl, h⟩
    · rintro ⟨a', ha, h⟩
      cases ha
      exact h

theorem exists_of_isOk {r : Result α} (h : r.isOk = true) : ∃ a, r = .ok a := by
  cases r with
  | error err => cases h
  | ok a => exact ⟨a, rfl⟩

/-- Two results fail alike, or both succeed with related values. -/
inductive Alike (R : α → β → Prop) : Result α → Result β → Prop where
  | error (err : Error) : Alike R (.error err) (.error err)
  | ok {a : α} {b : β} (h : R a b) : Alike R (.ok a) (.ok b)

theorem Alike.refl (r : Result α) : Alike (· = ·) r r := by
  cases r with
  | error err => exact .error err
  | ok a => exact .ok rfl

theorem Alike.bind {R : α → β → Prop} {S : γ → δ → Prop} {r : Result α} {q : Result β}
    {f : α → Result γ} {g : β → Result δ} (h : Alike R r q)
    (hnext : ∀ a b, R a b → Alike S (f a) (g b)) : Alike S (r >>= f) (q >>= g) := by
  cases h with
  | error err => exact .error err
  | ok hab => exact hnext _ _ hab

theorem alike_of_map_eq {r : Result α} {q : Result β} {f : α → γ} {g : β → γ}
    (h : r.map f = q.map g) : Alike (fun a b => f a = g b) r q := by
  cases r with
  | error err =>
    cases q with
    | error err' =>
      cases h
      exact .error err
    | ok b => cases h
  | ok a =>
    cases q with
    | error err' => cases h
    | ok b => exact .ok (Except.ok.inj h)

end Result

end NodeAtlas
