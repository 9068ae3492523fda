import NodeAtlas.Proofs.Config.Overlay

/-!
# The overlay as a function of the variables

The order in which variables are given does not matter to an overlay, and a second overlay with the same
variables changes nothing, whether the first one succeeded or stopped at a bad port. The variables for the
section of one id leave all else alone.
-/

namespace NodeAtlas.Config

open NodeAtlas.Net

variable {c : Config} {env env' : Environment} {id tenant : String} {n : Option UInt16}

/-! ## Twice the same variables -/

/-- A port that was read once is read again, as the given one or as the new fallback. -/
theorem readPort_again {value : Option String} {fallback : Option UInt16}
    (h : readPort value fallback = .ok n) : readPort value n = .ok n := by
  cases value with
  | none => rfl
  | some v => exact h

theorem readPort_error_iff {value : Option String} {fallback fallback' : Option UInt16}
    {e : ValidationError} : readPort value fallback = .error e ↔ readPort value fallback' = .error e := by
  cases value with
  | none => exact ⟨nofun, nofun⟩
  | some v => exact Iff.rfl

theorem globalOf_again {g : Global} (h : readPort (env.value? "ICS_ICENTER_PORT") g.port = .ok n) :
    globalOf env (globalOf env g n) n = globalOf env g n :=
  global_eq_of_settings
    ((overlaid_globalOf h).again (overlaid_globalOf (readPort_again h))) rfl rfl

theorem overlayLabels_again (l : Labels) :
    overlayLabels env (overlayLabels env l) = overlayLabels env l := by
  have htwice : ∀ (given : Option String) (v : String), given.getD (given.getD v) = given.getD v := by
    rintro (_ | _) _ <;> rfl
  simp only [overlayLabels, htwice]

/-- What an overlay sets, one with the same variables finds already set. -/
theorem overlay_again (c : Config) (env : Environment) :
    overlay (overlay c env).1 env = overlay c env := by
  cases hport : readPort (env.value? "ICS_ICENTER_PORT") c.global.port with
  | error e =>
    rw [overlay_of_bad_port hport, overlay_of_bad_port (readPort_error_iff.mp hport)]
    cases env.value? "ICS_ICENTER" <;> rfl
  | ok n =>
    rw [overlay_of_port hport, overlay_of_port (n := n) (readPort_again hport)]
    simp only [globalOf_again hport, overlayLabels_again, Dict.insertAll_insertAll]

/-! ## The variables of one id -/

/-- Two environments differ at most in the variables for the section of an id. -/
def DifferAt (id : String) (env env' : Environment) : Prop :=
  ∀ name, (∀ f ∈ sectionFields, name ≠ sectionVariable id f) → env.find? name = env'.find? name

theorem differAt_insert {f : String} (hf : f ∈ sectionFields) (v : String) :
    DifferAt id env (env.insert (sectionVariable id f) v) :=
  fun _ hname => (Dict.find?_insert_of_ne env v (hname f hf)).symm

theorem DifferAt.value? (h : DifferAt id env env') {name : String} (hname : IsShared name) :
    env.value? name = env'.value? name :=
  value?_congr (h name fun _ _ => hname.ne_sectionVariable)

theorem DifferAt.field? (h : DifferAt id env env') {b f : String} (hb : b ≠ id)
    (hf : f ∈ sectionFields) : env.field? b f = env'.field? b f := by
  refine value?_congr (h _ fun g hg heq => ?_)
  exact hb (sectionVariable_inj hf hg heq).1

theorem DifferAt.names_iff (h : DifferAt id env env') {b : String} :
    env.Names b tenant ↔ env'.Names b tenant := by
  unfold Environment.Names
  rw [h.value? (isShared_tenantVariable b)]

theorem DifferAt.globalOf_eq (h : DifferAt id env env') (g : Global) :
    globalOf env g n = globalOf env' g n := by
  unfold globalOf overlayGlobal
  simp (disch := decide) only [h.value?]

theorem DifferAt.overlayLabels_eq (h : DifferAt id env env') (l : Labels) :
    overlayLabels env l = overlayLabels env' l := by
  unfold overlayLabels
  simp (disch := decide) only [h.value?]

theorem DifferAt.named_eq (h : DifferAt id env env') : named env.entries = named env'.entries := by
  have hinj : Function.Injective fun x : String × String => (tenantVariable x.1, x.2) := by
    intro x y heq
    obtain ⟨hname, htenant⟩ := Prod.mk.inj heq
    exact Prod.ext (tenantVariable_inj.mp hname) htenant
  have hmem : ∀ x, x ∈ named env.entries ↔ x ∈ named env'.entries := by
    rintro ⟨b, s⟩
    rw [mem_named_iff, mem_named_iff, h.names_iff]
  refine List.map_injective_iff.mpr hinj (Dict.entries_eq_of_mem_iff ?_ ?_ fun e => ?_)
  · exact List.pairwise_map.mpr (pairwise_named env)
  · exact List.pairwise_map.mpr (pairwise_named env')
  · simp only [List.mem_map, hmem]

theorem DifferAt.sectionOf_eq (h : DifferAt id env env') {b : String} (hb : b ≠ id) (g : Global) :
    sectionOf env g b = sectionOf env' g b :=
  sectionOf_congr fun _ hf => h.field? hb hf

/-- Overlays that succeed with environments that differ in the variables of one id differ at most in the
section of its tenant. -/
theorem DifferAt.overlay_eq (h : DifferAt id env env') (hok : (overlay c env).2 = .ok ())
    (hok' : (overlay c env').2 = .ok ()) :
    (∃ sections, (overlay c env').1 = { (overlay c env).1 with sections := sections }) ∧
      ∀ tenant, ¬ env.Names id tenant →
        (overlay c env').1.sections.find? tenant = (overlay c env).1.sections.find? tenant := by
  obtain ⟨n, hport, hsections⟩ := exists_port_of_overlay_ok hok
  obtain ⟨n', hport', hsections'⟩ := exists_port_of_overlay_ok hok'
  have hn : n = n' := by
    rw [h.value? (by decide), hport'] at hport
    exact (Except.ok.inj hport).symm
  subst hn
  rw [overlay_of_port hport, overlay_of_port hport']
  rw [← h.globalOf_eq, ← h.named_eq] at hsections' ⊢
  refine ⟨⟨_, by rw [h.overlayLabels_eq]⟩, fun tenant htenant => ?_⟩
  refine (find?_sectionsOf_congr (fun x _ hx => h.sectionOf_eq hx _) hsections hsections' ?_ rfl).symm
  exact fun hmem => htenant (mem_named_iff.mp hmem)

/-- An overlay does not depend on the order of variables with different names, and repeating it changes
nothing. Every variable of a section belongs to one id and one field, and where only the variables for one
id are changed, the overlays agree in all but the section of its tenant. -/
theorem overlay_determined (c : Config) :
    (∀ vars vars' : List (String × String), (vars.map (·.1)).Nodup → vars.Perm vars' →
      overlay c (.ofList vars) = overlay c (.ofList vars')) ∧
    (∀ env, overlay (overlay c env).1 env = overlay c env) ∧
    (∀ a b, ∀ f ∈ sectionFields, ∀ g ∈ sectionFields,
      sectionVariable a f = sectionVariable b g → a = b ∧ f = g) ∧
    ∀ env env' id, DifferAt id env env' →
      (overlay c env).2 = .ok () → (overlay c env').2 = .ok () →
      (∃ sections, (overlay c env').1 = { (overlay c env).1 with sections := sections }) ∧
        ∀ tenant, ¬ env.Names id tenant →
          (overlay c env').1.sections.find? tenant = (overlay c env).1.sections.find? tenant := by
  refine ⟨fun vars vars' hnodup hperm => ?_, overlay_again c, ?_, ?_⟩
  · rw [Dict.ofList_eq_of_perm hperm hnodup]
  · exact fun a b f hf g hg heq => sectionVariable_inj hf hg heq
  · exact fun env env' id h hok hok' => h.overlay_eq hok hok'

/-- Two ids of which one is the beginning of the other, with the name of a field behind it. -/
def entwined : List (String × String) :=
  [("ICS_ICENTER_A", "a"), ("ICS_ICENTER_A_PORT", "b"), ("ICENTER_A_PORT", "443"),
    ("ICENTER_A_PORT_PORT", "8443")]

/-- They with another port for the shorter id. -/
def entwinedAnew : Environment := (Dict.ofList entwined).insert (sectionVariable "A" "PORT") "1"

theorem overlay_determined_entwined :
    overlay {} (.ofList entwined) = overlay {} (.ofList entwined.reverse) ∧
      DifferAt "A" (.ofList entwined) entwinedAnew ∧
      (overlay {} (.ofList entwined)).2 = .ok () ∧ (overlay {} entwinedAnew).2 = .ok () ∧
      (overlay {} entwinedAnew).1.sections.find? "b" =
        (overlay {} (.ofList entwined)).1.sections.find? "b" := by
  obtain ⟨horder, -, -, hids⟩ := overlay_determined {}
  have hdiffer : DifferAt "A" (.ofList entwined) entwinedAnew := differAt_insert (by decide) "1"
  have hok : (overlay {} (.ofList entwined)).2 = .ok () := rfl
  have hok' : (overlay {} entwinedAnew).2 = .ok () := rfl
  refine ⟨horder _ _ (by decide) (List.reverse_perm _).symm, hdiffer, hok, hok', ?_⟩
  refine (hids _ _ "A" hdiffer hok hok').2 "b" fun hnames => ?_
  obtain ⟨-, -, hvalue⟩ := hnames
  exact absurd hvalue (by decide +kernel)

end NodeAtlas.Config
