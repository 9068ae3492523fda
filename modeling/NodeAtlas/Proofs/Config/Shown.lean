import NodeAtlas.Config.Concealed
import NodeAtlas.Config.Shown
import NodeAtlas.Dict.Lemmas
import NodeAtlas.Proofs.Text.Quoting

/-!
# Passwords in the text of a configuration

The text of a configuration gives all of its passwords away: of two configurations that differ in
passwords alone, the texts differ as well.
-/

namespace NodeAtlas.Config

open NodeAtlas.Text

theorem Global.eq_of_concealed {g g' : Global} (h : g.concealed = g'.concealed) :
    g' = { g with password := g'.password } :=
  congrArg (fun x : Global => { x with password := g'.password }) h.symm

theorem Section.eq_of_concealed {s s' : Section} (h : s.concealed = s'.concealed) :
    s' = { s with password := s'.password } :=
  congrArg (fun x : Section => { x with password := s'.password }) h.symm

theorem Global.exists_describe_eq (g : Global) :
    ∃ a b, ∀ password, ({ g with password := password } : Global).describe =
      a ++ quoted password ++ b := by
  unfold Global.describe
  dsimp only
  exact exists_shownRecord_eq _ _ _ _

theorem Section.exists_describe_eq (s : Section) :
    ∃ a b, ∀ password, ({ s with password := password } : Section).describe =
      a ++ quoted password ++ b := by
  unfold Section.describe
  dsimp only
  exact exists_shownRecord_eq _ _ _ _

theorem Global.describe_append_inj {g g' : Global} (h : g.concealed = g'.concealed) {t t' : String}
    (ht : g.describe ++ t = g'.describe ++ t') : g = g' ∧ t = t' := by
  obtain ⟨a, b, hab⟩ := g.exists_describe_eq
  have hdescribe : g.describe = a ++ quoted g.password ++ b := hab g.password
  have hdescribe' : g'.describe = a ++ quoted g'.password ++ b := by
    rw [eq_of_concealed h, hab]
  rw [hdescribe, hdescribe'] at ht
  obtain ⟨hpassword, rfl⟩ := quoted_between_inj ht
  rw [eq_of_concealed h, ← hpassword]
  exact ⟨rfl, rfl⟩

theorem Section.describe_append_inj {s s' : Section} (h : s.concealed = s'.concealed) {t t' : String}
    (ht : s.describe ++ t = s'.describe ++ t') : s = s' ∧ t = t' := by
  obtain ⟨a, b, hab⟩ := s.exists_describe_eq
  have hdescribe : s.describe = a ++ quoted s.password ++ b := hab s.password
  have hdescribe' : s'.describe = a ++ quoted s'.password ++ b := by
    rw [eq_of_concealed h, hab]
  rw [hdescribe, hdescribe'] at ht
  obtain ⟨hpassword, rfl⟩ := quoted_between_inj ht
  rw [eq_of_concealed h, ← hpassword]
  exact ⟨rfl, rfl⟩

/-- The sections of two dictionaries are the same but for their passwords. -/
def AlikeEntry (x y : String × Section) : Prop := x.1 = y.1 ∧ x.2.concealed = y.2.concealed

theorem alikeEntry_inj {x y : String × Section} {t t' : String} (h : AlikeEntry x y)
    (ht : quoted x.1 ++ ": " ++ x.2.describe ++ t = quoted y.1 ++ ": " ++ y.2.describe ++ t') :
    x = y ∧ t = t' := by
  obtain ⟨tenant, s⟩ := x
  obtain ⟨tenant', s'⟩ := y
  obtain ⟨rfl, hs⟩ := h
  simp only [String.append_assoc] at ht
  obtain ⟨-, hrest⟩ := quoted_append_inj ht
  obtain ⟨rfl, rfl⟩ := Section.describe_append_inj hs ((String.append_right_inj ": ").mp hrest)
  exact ⟨rfl, rfl⟩

theorem forall₂_of_concealed {c c' : Config} (h : c.concealed = c'.concealed) :
    List.Forall₂ AlikeEntry c.sections.entries c'.sections.entries := by
  have hentries := congrArg (fun c : Config => c.sections.entries) h
  have hmaps : c.sections.entries.map (fun x => (x.1, x.2.concealed)) =
      c'.sections.entries.map fun x => (x.1, x.2.concealed) := hentries
  rw [← List.forall₂_eq_eq_eq, List.forall₂_map_left_iff, List.forall₂_map_right_iff] at hmaps
  exact hmaps.imp fun x y hxy => Prod.mk.inj hxy

theorem eq_of_concealed {c c' : Config} (h : c.concealed = c'.concealed) :
    c' = { c with global := c'.global, sections := c'.sections } :=
  congrArg (fun x : Config => { x with global := c'.global, sections := c'.sections }) h.symm

/-- The texts of the global settings and of the sections stand between texts that do not depend on
them. -/
theorem exists_describe_eq (c : Config) :
    ∃ a b z, ∀ (g : Global) (sections : Dict Section),
      ({ c with global := g, sections := sections } : Config).describe =
        a ++ (g.describe ++ (b ++ (", ".intercalate
          (sections.entries.map fun x => quoted x.1 ++ ": " ++ x.2.describe) ++ z))) := by
  refine ⟨"CloudConfig" ++ " \x7b " ++ "global: ", ", " ++ "icenters: " ++ "\x7b",
    "\x7d" ++ ", " ++ ", ".intercalate ([("nodes", c.nodes.describe), ("labels", c.labels.describe),
      ("discovery", c.discovery.describe)].map shownField) ++ " \x7d", fun g sections => ?_⟩
  have hglobal : shownField ("global", g.describe) = "global: " ++ g.describe := rfl
  have hsections (d : String) : shownField ("icenters", d) = "icenters: " ++ d := rfl
  unfold describe shownRecord
  simp only [List.map_cons, String.intercalate_cons_cons, hglobal, hsections, shownDict, List.map_map,
    String.append_assoc]
  rfl

/-- Configurations that differ in passwords alone have different texts. -/
theorem describe_eq_iff {c c' : Config} (h : c.concealed = c'.concealed) :
    c.describe = c'.describe ↔ c = c' := by
  constructor
  · intro ht
    obtain ⟨a, b, z, hab⟩ := c.exists_describe_eq
    have hdescribe := hab c.global c.sections
    have hdescribe' := hab c'.global c'.sections
    rw [← eq_of_concealed h] at hdescribe'
    rw [hdescribe, hdescribe', String.append_right_inj] at ht
    -- From here on the texts are read from the left, so that the rest of one is the rest of the other.
    have hglobals : c.global.concealed = c'.global.concealed := congrArg Config.global h
    obtain ⟨hglobal, hrest⟩ := Global.describe_append_inj hglobals ht
    obtain ⟨hentries, -⟩ := intercalate_append_inj ", "
      (fun x y t t' hxy => alikeEntry_inj hxy) (forall₂_of_concealed h)
      ((String.append_right_inj b).mp hrest)
    have hsections : c.sections = c'.sections := Dict.ext_entries hentries
    rw [eq_of_concealed h, ← hglobal, ← hsections]
  · rintro rfl
    rfl

end NodeAtlas.Config
