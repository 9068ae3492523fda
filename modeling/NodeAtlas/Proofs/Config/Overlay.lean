import NodeAtlas.Proofs.Config.Sections

/-!
# What an overlay sets and keeps

An overlay that succeeds gives each global setting the value of its variables, if they have one, and
otherwise leaves it as it was. Sections that no variable names stay untouched; a named one has the values
of the variables of its id.
-/

namespace NodeAtlas.Config

open NodeAtlas.Net

variable {c : Config} {env : Environment} {n : Option UInt16}

/-! ## The two ways of an overlay -/

/-- The global settings of the overlay with the port that was read. -/
def globalOf (env : Environment) (g : Global) (port : Option UInt16) : Global :=
  overlayGlobal env { g with server := (env.value? "ICS_ICENTER").getD g.server, port := port }

theorem overlay_of_bad_port {e : ValidationError}
    (h : readPort (env.value? "ICS_ICENTER_PORT") c.global.port = .error e) :
    overlay c env =
      ({ c with
          global := { c.global with server := (env.value? "ICS_ICENTER").getD c.global.server } },
        .error (.validation e)) := by
  unfold overlay
  dsimp only
  rw [h]

theorem overlay_of_port (h : readPort (env.value? "ICS_ICENTER_PORT") c.global.port = .ok n) :
    overlay c env =
      ({ c with
          global := globalOf env c.global n
          labels := overlayLabels env c.labels
          sections := c.sections.insertAll
            (sectionsOf env (globalOf env c.global n) (named env.entries)).1 },
        (sectionsOf env (globalOf env c.global n) (named env.entries)).2.mapError .validation) := by
  unfold overlay
  dsimp only
  rw [h]
  dsimp only
  rw [overlaySections_eq]
  rfl

/-- An overlay that succeeds reads the global port and the sections of all names. -/
theorem exists_port_of_overlay_ok (h : (overlay c env).2 = .ok ()) :
    ∃ port, readPort (env.value? "ICS_ICENTER_PORT") c.global.port = .ok port ∧
      (sectionsOf env (globalOf env c.global port) (named env.entries)).2 = .ok () := by
  cases hport : readPort (env.value? "ICS_ICENTER_PORT") c.global.port with
  | error e =>
    rw [overlay_of_bad_port hport] at h
    cases h
  | ok port =>
    refine ⟨port, rfl, ?_⟩
    rw [overlay_of_port hport] at h
    cases hs : (sectionsOf env (globalOf env c.global port) (named env.entries)).2 with
    | error e =>
      rw [hs] at h
      cases h
    | ok u => rfl

/-! ## Global settings -/

section Overlaid

variable {ρ : Type} {settings : List (Setting ρ)} {look : String → Option String} {before after : ρ}
  {name : String}

theorem Overlaid.text {get : ρ → String} (h : Overlaid settings look before after)
    (hmem : .text name get ∈ settings) : get after = (look name).getD (get before) :=
  h _ hmem

theorem Overlaid.flag {get : ρ → Bool} (h : Overlaid settings look before after)
    (hmem : .flag name get ∈ settings) :
    get after = ((look name).bind readFlag?).getD (get before) :=
  h _ hmem

theorem Overlaid.port {get : ρ → Option UInt16} (h : Overlaid settings look before after)
    (hmem : .port name get ∈ settings) :
    get after = ((look name).bind fun v => (parsePort v).toOption.map some).getD (get before) :=
  h _ hmem

/-- What gives all settings twice gives them once. -/
theorem Overlaid.again {last : ρ} (h : Overlaid settings look before after)
    (hlast : Overlaid settings look after last) : ∀ x ∈ settings, x.get last = x.get after := by
  intro x hx
  rw [hlast x hx, h x hx]
  cases x.given look <;> rfl

end Overlaid

theorem overlaid_globalOf {g : Global}
    (h : readPort (env.value? "ICS_ICENTER_PORT") g.port = .ok n) :
    Overlaid Global.settings env.value? g (globalOf env g n) := by
  intro x hx
  simp only [Global.settings, List.mem_cons, List.not_mem_nil, or_false] at hx
  rcases hx with rfl | rfl | rfl | rfl | rfl | rfl | rfl | rfl | rfl | rfl | rfl | rfl
  case inr.inl => exact eq_getD_of_readPort h
  all_goals rfl

theorem overlaid_labels (l : Labels) : Overlaid Labels.settings env.value? l (overlayLabels env l) := by
  intro x hx
  simp only [Labels.settings, List.mem_cons, List.not_mem_nil, or_false] at hx
  rcases hx with rfl | rfl <;> rfl

/-- Nothing of the global section but lifetime and limits of sessions is left out of its settings. -/
theorem global_eq_of_settings {g g' : Global} (h : ∀ x ∈ Global.settings, x.get g = x.get g')
    (hlifetime : g.sessionLifetime = g'.sessionLifetime) (hlimit : g.rateLimit = g'.rateLimit) :
    g = g' := by
  simp only [Global.settings, List.forall_mem_cons] at h
  obtain ⟨hserver, hport, huser, hpassword, hdatacenters, hname, hspace, hinsecure, hdisable, hbinding,
    hdirectory, hfamily, -⟩ := h
  cases g
  cases g'
  simp_all [Setting.text, Setting.flag, Setting.port]

/-! ## The whole configuration -/

/-- After an overlay that succeeds, global settings and tag categories have the values of their variables
and otherwise those from before, and no section is changed that no variable names. A named section has
the values that the variables of its last id give. If it is new, all else in it comes from the global
settings or is left empty. -/
theorem overlay_keeps_unset (c : Config) (env : Environment) (h : (overlay c env).2 = .ok ()) :
    Overlaid Global.settings env.value? c.global (overlay c env).1.global ∧
    (overlay c env).1.global.sessionLifetime = c.global.sessionLifetime ∧
    (overlay c env).1.global.rateLimit = c.global.rateLimit ∧
    Overlaid Labels.settings env.value? c.labels (overlay c env).1.labels ∧
    (overlay c env).1.nodes = c.nodes ∧ (overlay c env).1.discovery = c.discovery ∧
    (∀ tenant, (∀ id, ¬ env.Names id tenant) →
      (overlay c env).1.sections.find? tenant = c.sections.find? tenant) ∧
    ∀ id tenant, env.Names id tenant →
      ∃ last s, env.Names last tenant ∧
        (∀ id', env.Names id' tenant → tenantVariable id' ≤ tenantVariable last) ∧
        (overlay c env).1.sections.find? tenant = some s ∧
        (∀ x ∈ Section.settings, ∀ v, x.given (env.field? last) = some v → x.get s = v) ∧
        (c.sections.find? tenant = none →
          Overlaid Section.settings (env.field? last) (.inherited (overlay c env).1.global) s) := by
  obtain ⟨port, hport, hok⟩ := exists_port_of_overlay_ok h
  rw [overlay_of_port hport]
  refine ⟨overlaid_globalOf hport, rfl, rfl, overlaid_labels _, rfl, rfl, ?_, ?_⟩
  · intro tenant hnone
    refine find?_of_not_named ?_
    rintro ⟨id, tenant'⟩ hmem rfl
    exact hnone id (mem_named_iff.mp hmem)
  · intro id tenant hnames
    obtain ⟨last, s, hlast, hmax, hs, hfind⟩ := exists_last_id (d := c.sections)
      (pairwise_named env) hok (mem_named_iff.mpr hnames)
    have hoverlaid := overlaid_of_sectionOf hs
    refine ⟨last, s, mem_named_iff.mp hlast, fun id' hid' => hmax id' (mem_named_iff.mpr hid'), hfind,
      ?_, fun _ => hoverlaid⟩
    intro x hx v hv
    rw [hoverlaid x hx, hv]
    rfl

/-- A configuration with one section and one global address. -/
def filed : Config :=
  { global := { server := "10.0.0.9", port := some 8443 }
    sections := .ofList [("a", { server := "10.0.0.1" })] }

theorem overlay_keeps_unset_filed :
    let env : Environment := .ofList [("ICS_USER", "admin"), ("ICS_INSECURE", "maybe"),
      ("ICS_ICENTER_B", "b"), ("ICENTER_B_SERVER", "10.0.0.2")]
    (overlay filed env).2 = .ok () ∧
      (overlay filed env).1.global.user = "admin" ∧
      (overlay filed env).1.global.server = "10.0.0.9" ∧
      (overlay filed env).1.global.insecure = false ∧
      (overlay filed env).1.sections.find? "a" = filed.sections.find? "a" ∧
      ∃ s, (overlay filed env).1.sections.find? "b" = some s ∧ s.server = "10.0.0.2" ∧
        s.user = "admin" ∧ s.port = some 8443 := by
  intro env
  have hok : (overlay filed env).2 = .ok () := rfl
  obtain ⟨hglobal, -, -, -, -, -, hkept, hnamed⟩ := overlay_keeps_unset filed env hok
  have hids : named env.entries = [("B", "b")] := by decide +kernel
  have hnames : ∀ id tenant, env.Names id tenant ↔ id = "B" ∧ tenant = "b" := by
    intro id tenant
    rw [← mem_named_iff, hids, List.mem_singleton, Prod.mk.injEq]
  have huser : (overlay filed env).1.global.user = "admin" := by
    have hset : .text "ICS_USER" Global.user ∈ Global.settings := by simp [Global.settings]
    rw [hglobal.text hset]
    decide +kernel
  have hserver : (overlay filed env).1.global.server = "10.0.0.9" := by
    have hset : .text "ICS_ICENTER" Global.server ∈ Global.settings := by simp [Global.settings]
    rw [hglobal.text hset]
    decide +kernel
  have hinsecure : (overlay filed env).1.global.insecure = false := by
    have hset : .flag "ICS_INSECURE" Global.insecure ∈ Global.settings := by simp [Global.settings]
    rw [hglobal.flag hset]
    decide +kernel
  refine ⟨hok, huser, hserver, hinsecure, ?_, ?_⟩
  · refine hkept "a" fun id hid => ?_
    exact absurd ((hnames id "a").mp hid).2 (by decide)
  · obtain ⟨last, s, hlast, -, hs, -, hnew⟩ := hnamed "B" "b" ((hnames _ _).mpr ⟨rfl, rfl⟩)
    obtain ⟨rfl, -⟩ := (hnames _ _).mp hlast
    have hfresh := hnew (by decide +kernel)
    refine ⟨s, hs, ?_, ?_, ?_⟩
    · have hset : .text "SERVER" Section.server ∈ Section.settings := by simp [Section.settings]
      rw [hfresh.text hset]
      decide +kernel
    · have hset : .text "USERNAME" Section.user ∈ Section.settings := by simp [Section.settings]
      rw [hfresh.text hset]
      decide +kernel
    · have hset : .port "PORT" Section.port ∈ Section.settings := by simp [Section.settings]
      rw [hfresh.port hset]
      decide +kernel

/-- Variables that name a tenant of that configuration and give half a secret. -/
def halfSecret : Environment :=
  .ofList [("ICS_ICENTER_A", "a"), ("ICENTER_A_SECRET_NAME", "login")]

/-- A section from before that is named has its address no more, though no variable gives another one,
and half a secret is not taken. -/
theorem overlay_drops_address :
    (overlay filed halfSecret).2 = .ok () ∧
      halfSecret.Names "A" "a" ∧ (∀ id, halfSecret.Names id "a" → id = "A") ∧
      halfSecret.field? "A" "SERVER" = none ∧ halfSecret.field? "A" "SECRET_NAME" = some "login" ∧
      (filed.sections.find? "a").map (fun s => s.server) = some "10.0.0.1" ∧
      ((overlay filed halfSecret).1.sections.find? "a").map (fun s => (s.server, s.secretName)) =
        some ("", "") := by
  have hids : named halfSecret.entries = [("A", "a")] := by decide +kernel
  refine ⟨rfl, ?_, ?_, ?_, ?_, ?_, ?_⟩
  · rw [← mem_named_iff, hids]
    exact List.mem_singleton_self _
  · intro id hid
    have hmem := mem_named_iff.mpr hid
    rw [hids, List.mem_singleton] at hmem
    exact (Prod.mk.inj hmem).1
  all_goals decide +kernel

end NodeAtlas.Config
