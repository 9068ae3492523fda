import NodeAtlas.Config.Settings
import NodeAtlas.Dict.Lemmas

/-!
# The names of variables

Ids are any texts, so that one can be the beginning of another or contain the name of a field. Still no
variable has two meanings: a variable for a field tells its id and its field, it names no tenant, and it
is none of the global ones.
-/

namespace NodeAtlas.Config

open NodeAtlas.Text

variable {env env' : Environment} {id a b f g name : String}

theorem value?_eq_some_iff {v : String} :
    env.value? name = some v ↔ env.find? name = some v ∧ v ≠ "" := by
  unfold Environment.value?
  rw [Option.filter_eq_some_iff]
  simp

theorem value?_congr (h : env.find? name = env'.find? name) : env.value? name = env'.value? name := by
  unfold Environment.value?
  rw [h]

theorem sectionId?_eq_some_iff :
    sectionId? name = some id ↔ name = tenantVariable id ∧ id ≠ "" ∧ id ≠ "PORT" := by
  unfold sectionId? tenantVariable
  rw [Option.filter_eq_some_iff, dropLead?_eq_some]
  simp

theorem tenantVariable_inj : tenantVariable a = tenantVariable b ↔ a = b := by
  unfold tenantVariable
  exact String.append_right_inj _

/-! ## Beginnings -/

/-- The name begins as those of all variables but the ones for fields of sections. -/
def IsShared (name : String) : Prop := "ICS_".toList <+: name.toList

instance : Decidable (IsShared name) := inferInstanceAs (Decidable (_ <+: _))

theorem isShared_tenantVariable (id : String) : IsShared (tenantVariable id) := by
  refine ⟨"ICENTER_".toList ++ id.toList, ?_⟩
  rw [tenantVariable, String.toList_append, ← List.append_assoc]
  rfl

theorem IsShared.ne_sectionVariable (h : IsShared name) : name ≠ sectionVariable id f := by
  rintro rfl
  obtain ⟨rest, hrest⟩ := h
  simp [sectionVariable] at hrest

/-! ## Fields -/

/-- No field, with the line before it, is the end of another one. -/
theorem eq_of_suffix : ∀ f ∈ sectionFields, ∀ g ∈ sectionFields,
    '_' :: g.toList <:+ '_' :: f.toList → f = g := by
  decide

/-- A variable for a field has only one id and one field. -/
theorem sectionVariable_inj (hf : f ∈ sectionFields) (hg : g ∈ sectionFields)
    (h : sectionVariable a f = sectionVariable b g) : a = b ∧ f = g := by
  have hchars : a.toList ++ '_' :: f.toList = b.toList ++ '_' :: g.toList := by
    have hlist := congrArg String.toList h
    simpa [sectionVariable] using hlist
  have hfg : f = g := by
    rcases List.append_eq_append_iff.mp hchars with ⟨cs, -, hrest⟩ | ⟨cs, -, hrest⟩
    · exact eq_of_suffix f hf g hg ⟨cs, hrest.symm⟩
    · exact (eq_of_suffix g hg f hf ⟨cs, hrest.symm⟩).symm
  subst hfg
  exact ⟨String.toList_inj.mp (List.append_cancel_right hchars), rfl⟩

end NodeAtlas.Config
