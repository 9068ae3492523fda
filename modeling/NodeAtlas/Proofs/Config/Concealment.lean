import NodeAtlas.Config.Concealed
import NodeAtlas.Config.Resolve
import NodeAtlas.Dict.Lemmas

/-!
# Resolution without passwords

The resolution looks at passwords only to see whether they are there: it fails alike, and finds the same
endpoints but for their passwords, when the passwords are concealed before.
-/

namespace NodeAtlas.Config

open NodeAtlas.Net NodeAtlas.Text

theorem isEmpty_conceal (password : String) : (conceal password).isEmpty = password.isEmpty := by
  unfold conceal
  cases hempty : password.isEmpty with
  | true => rfl
  | false => rfl

theorem orElse_conceal (value fallback : String) :
    orElse (conceal value) (conceal fallback) = conceal (orElse value fallback) := by
  unfold orElse
  rw [isEmpty_conceal]
  split
  · rfl
  · rfl

theorem plainCredentials_concealed (g : Global) (tenant : String) (s : Section) :
    plainCredentials g.concealed tenant s.concealed =
      (plainCredentials g tenant s).map Credentials.concealed := by
  have huser : orElse s.concealed.user g.concealed.user = orElse s.user g.user := rfl
  have hpassword : orElse s.concealed.password g.concealed.password =
      conceal (orElse s.password g.password) := orElse_conceal _ _
  unfold plainCredentials
  rw [huser, hpassword]
  dsimp only
  rw [isEmpty_conceal]
  split
  · rfl
  · split
    · rfl
    · rfl

theorem access_concealed (g : Global) (tenant : String) (s : Section) :
    access g.concealed tenant s.concealed =
      (access g tenant s).map fun a => (a.1.concealed, a.2) := by
  have hsection : s.concealed.providesSecret = s.providesSecret := rfl
  have hglobal : g.concealed.providesSecret = g.providesSecret := rfl
  unfold access
  rw [hsection, hglobal, plainCredentials_concealed]
  split
  · rfl
  · split
    · rfl
    · cases plainCredentials g tenant s with
      | error err => rfl
      | ok k => rfl

theorem withFamilies_concealed (e : Endpoint) (families : List Family) :
    e.concealed.withFamilies families = (e.withFamilies families).concealed := by
  unfold Endpoint.withFamilies
  split
  · rfl
  · rfl

theorem resolveSection_concealed (g : Global) (tenant : String) (s : Section) :
    resolveSection g.concealed tenant s.concealed =
      (resolveSection g tenant s).map Endpoint.concealed := by
  unfold resolveSection
  rw [access_concealed]
  cases isBlankText tenant with
  | true => rfl
  | false =>
    cases access g tenant s with
    | error err => rfl
    | ok a =>
      have hfamilies : orElse s.concealed.ipFamily g.concealed.familyList =
        orElse s.ipFamily g.familyList := rfl
      have hserver : orElse s.concealed.server tenant = orElse s.server tenant := rfl
      have hport : s.concealed.port.or g.concealed.port = s.port.or g.port := rfl
      rw [hfamilies, hserver, hport]
      cases Family.parseList (orElse s.ipFamily g.familyList) with
      | error err => rfl
      | ok families =>
        cases Endpoint.create tenant (orElse s.server tenant)
            ((s.port.or g.port).getD defaultPort) with
        | error err => rfl
        | ok e =>
          let e' : Endpoint :=
            { e with credentials := a.1, secretRef := a.2, insecure := s.insecure || g.insecure }
          exact congrArg Except.ok (withFamilies_concealed
            (e'.withDatacenters (orElse s.datacenters g.datacenters)) families)

theorem resolveAll_concealed (g : Global) (sections : List (String × Section)) :
    resolveAll g.concealed (sections.map fun x => (x.1, x.2.concealed)) =
      (resolveAll g sections).map fun es => es.map Endpoint.concealed := by
  induction sections with
  | nil => rfl
  | cons x sections ih =>
    rw [List.map_cons, resolveAll, resolveAll, resolveSection_concealed, ih]
    cases resolveSection g x.1 x.2 with
    | error err => rfl
    | ok e =>
      cases resolveAll g sections with
      | error err => rfl
      | ok es => rfl

theorem allSections_concealed (c : Config) :
    allSections c.concealed = (allSections c).map Section.concealed := by
  have hserver : c.concealed.global.server = c.global.server := rfl
  have hsections : c.concealed.sections = c.sections.map Section.concealed := rfl
  have hglobal : c.concealed.global.asSection = c.global.asSection.concealed := rfl
  unfold allSections
  rw [hserver, hsections, hglobal, Dict.contains_map]
  split
  · rfl
  · exact (Dict.map_insert ..).symm

/-- Resolving looks at no password, but only whether it is there. -/
theorem resolve_concealed (c : Config) :
    resolve c.concealed = (resolve c).map fun es => es.map Endpoint.concealed := by
  have hdiscovery : c.concealed.discovery = c.discovery := rfl
  have hfamilies : c.concealed.global.familyList = c.global.familyList := rfl
  have hempty : ((allSections c).map Section.concealed).isEmpty = (allSections c).isEmpty :=
    List.isEmpty_map
  have hall := resolveAll_concealed c.global (allSections c).entries
  unfold resolve
  rw [hdiscovery, hfamilies, allSections_concealed]
  cases checkDiscovery c.discovery with
  | error err => rfl
  | ok u =>
    cases Family.parseList c.global.familyList with
    | error err => rfl
    | ok families =>
      cases hsome : (allSections c).isEmpty with
      | true =>
        rw [hsome] at hempty
        simp only [bind, Except.bind, hempty, hsome, if_true]
        rfl
      | false =>
        rw [hsome] at hempty
        simp only [bind, Except.bind, hempty, hsome, Bool.false_eq_true, if_false]
        exact hall

end NodeAtlas.Config
