import NodeAtlas.Config.Tenancy
import NodeAtlas.Proofs.Text.Trim

/-!
# Family lists

A list of address families is read if every entry that is not blank names a family. Its families then
come in the order of their first entries, each of them once, and there is always one.
-/

namespace NodeAtlas.Net.Family

open NodeAtlas.Text

theorem isEmpty_trim (s : String) : (trim s).isEmpty = isBlankText s := by
  rw [Bool.eq_iff_iff, String.isEmpty_iff, trim_eq_empty_iff]

theorem named?_of_blank {token : String} (h : isBlankText token = true) : named? token = none := by
  have hempty : trim token = "" := trim_eq_empty_iff.mpr h
  unfold named?
  rw [hempty]
  decide

theorem parse_of_named {token : String} {f : Family} (h : named? token = some f) :
    parse token = .ok f := by
  have hname : f.name = asciiLower (trim token) := by simpa using List.find?_some h
  unfold parse
  rw [← hname]
  cases f <;> decide

theorem parse_of_unnamed {token : String} (h : named? token = none) : ∃ err, parse token = .error err := by
  have hother : ∀ f ∈ [ipv4, ipv6], f.name ≠ asciiLower (trim token) := by
    simpa [named?] using h
  have h4 : asciiLower (trim token) ≠ "ipv4" := fun heq => hother ipv4 (by simp) heq.symm
  have h6 : asciiLower (trim token) ≠ "ipv6" := fun heq => hother ipv6 (by simp) heq.symm
  unfold parse
  simp only [if_neg h4, if_neg h6]
  exact ⟨_, rfl⟩

/-- Tokens add the families that they name, unless these were found before. -/
theorem collect_eq_ok_iff {found fs : List Family} {tokens : List String} :
    collect found tokens = .ok fs ↔
      (∀ t ∈ tokens, isBlankText t = false → (named? t).isSome = true) ∧
        fs = found ++ ((tokens.filterMap named?).filter (· ∉ found)).eraseDups := by
  induction tokens generalizing found with
  | nil =>
    rw [collect, Except.ok.injEq]
    constructor
    · rintro rfl
      simp
    · rintro ⟨-, rfl⟩
      simp
  | cons t ts ih =>
    rw [collect, isEmpty_trim, List.forall_mem_cons, List.filterMap_cons]
    cases hblank : isBlankText t with
    | true => simp [named?_of_blank hblank, ih]
    | false =>
      cases hnamed : named? t with
      | none =>
        obtain ⟨err, herr⟩ := parse_of_unnamed hnamed
        simp [herr]
      | some f =>
        rw [parse_of_named hnamed]
        by_cases hf : f ∈ found
        · simp [hf, ih]
        · have hkept : (ts.filterMap named?).filter (· ∉ found ++ [f]) =
              ((ts.filterMap named?).filter (· ∉ found)).filter (fun x => !x == f) := by
            rw [List.filter_filter]
            refine List.filter_congr fun x _ => ?_
            by_cases hx : x = f <;> simp [hx]
          have hrest : ((f :: ts.filterMap named?).filter (· ∉ found)).eraseDups =
              f :: ((ts.filterMap named?).filter (· ∉ found ++ [f])).eraseDups := by
            rw [List.filter_cons_of_pos (by simpa using hf), List.eraseDups_cons, hkept]
          simp only [Bool.false_eq_true, if_false, if_neg hf]
          rw [ih, hrest, List.append_assoc, List.singleton_append]
          simp

theorem parseList_eq_ok_iff {list : String} {fs : List Family} :
    parseList list = .ok fs ↔ Readable list ∧ fs = priority list := by
  have hcollect (gs : List Family) : collect [] (split ',' list) = .ok gs ↔
      Readable list ∧ gs = ((split ',' list).filterMap named?).eraseDups := by
    rw [collect_eq_ok_iff, Readable, List.nil_append]
    simp
  have hdefault : priority list =
      if ((split ',' list).filterMap named?).eraseDups = [] then [ipv4]
      else ((split ',' list).filterMap named?).eraseDups := by
    unfold priority
    cases (split ',' list).filterMap named? with
    | nil => rfl
    | cons g gs => simp [List.eraseDups_cons]
  unfold parseList parsePriority
  cases hgs : collect [] (split ',' list) with
  | error err =>
    have hnot : ¬ Readable list := fun hread => by
      rw [(hcollect _).mpr ⟨hread, rfl⟩] at hgs
      cases hgs
    simp [hnot]
  | ok gs =>
    obtain ⟨hread, rfl⟩ := (hcollect gs).mp hgs
    rw [hdefault]
    cases ((split ',' list).filterMap named?).eraseDups with
    | nil => simp [hread, eq_comm]
    | cons g gs => simp [hread, eq_comm]

theorem nodup_eraseDups (fs : List Family) : fs.eraseDups.Nodup := by
  induction hn : fs.length using Nat.strong_induction_on generalizing fs with
  | h n ih =>
    cases fs with
    | nil => exact .nil
    | cons f fs =>
      have hshort : (fs.filter fun x => !x == f).length < n := by
        have hle := List.length_filter_le (fun x => !x == f) fs
        rw [List.length_cons] at hn
        omega
      rw [List.eraseDups_cons, List.nodup_cons]
      exact ⟨by simp, ih _ hshort _ rfl⟩

theorem priority_ne_nil (list : String) : priority list ≠ [] := by
  unfold priority
  cases (split ',' list).filterMap named? with
  | nil => simp
  | cons f fs => simp [List.eraseDups_cons]

theorem nodup_priority (list : String) : (priority list).Nodup := by
  unfold priority
  split
  · simp
  · exact nodup_eraseDups _

end NodeAtlas.Net.Family
