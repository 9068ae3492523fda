import Mathlib.Tactic.SplitIfs
import NodeAtlas.Http.Trace
import NodeAtlas.Proofs.Http.Calls

/-!
# Turns at logging in

A caller may log in, and put something in the place of the session, only while it has the lock and after
it has seen there that the session cannot be used: there is none, it is too old, or its token was
refused to this caller. All calls on a session keep to this.
-/

namespace NodeAtlas.Http

open Protocol NodeAtlas.Json

/-- Where a caller stands with respect to the lock. -/
inductive Stage where
  | outside
  /-- It has the lock. -/
  | inside
  /-- It has the lock and has seen that the session cannot be used. -/
  | entitled
  deriving DecidableEq

/-- What a caller may do. -/
structure Turn where
  stage : Stage := .outside
  /-- The tokens that were refused to it. -/
  refused : List String := []

namespace Turn

variable {g : Turn} {x : Client} {α β : Type}

def Allows (g : Turn) : Call → Prop
  | .send q => q.isLogin = true → g.stage = .entitled
  | .setAuth _ => g.stage = .entitled
  | .lock => g.stage = .outside
  | _ => True

/-- Who has the lock is entitled after a look at the session that cannot be used. -/
def look (g : Turn) (unusable : Bool) : Turn :=
  if g.stage = .inside ∧ unusable = true then { g with stage := .entitled } else g

def after (g : Turn) : interface.Exchange → Turn
  | ⟨.send q, r⟩ => { g with refused := (refused? ⟨.send q, r⟩).toList ++ g.refused }
  | ⟨.auth, a⟩ => g.look (a.all fun a => a.token ∈ g.refused)
  | ⟨.isLive, live⟩ => g.look !live
  | ⟨.setAuth _, _⟩ => { g with stage := if g.stage = .entitled then .inside else g.stage }
  | ⟨.lock, _⟩ => { g with stage := .inside }
  | ⟨.unlock, _⟩ => { g with stage := .outside }
  | _ => g

theorem stage_look_eq_outside_iff {b : Bool} :
    (g.look b).stage = .outside ↔ g.stage = .outside := by
  unfold look
  split_ifs with h
  · simp [h.1]
  · rfl

/-- The rules for callers. -/
def rules : Discipline interface turns Turn where
  allows := Allows
  leads g x g' := g' = g.after x
  holds g := g.stage ≠ .outside
  not_holds_of_takes {g c} hallowed htakes := by
    cases c with
    | lock => exact fun hholds => hholds hallowed
    | _ => cases htakes
  holds_of_takes {g c r g'} htakes hleads := by
    cases c with
    | lock =>
      subst hleads
      simp [after]
    | _ => cases htakes
  not_holds_of_gives {g c r g'} _ hgives hleads := by
    cases c with
    | unlock =>
      subst hleads
      simp [after]
    | _ => cases hgives
  holds_iff {g c r g'} htakes hgives hleads := by
    subst hleads
    cases c with
    | lock => cases htakes
    | unlock => cases hgives
    | auth => exact not_congr stage_look_eq_outside_iff
    | isLive => exact not_congr stage_look_eq_outside_iff
    | setAuth a => cases hg : g.stage <;> simp [after, hg]
    | _ => exact .rfl

/-! ## Calls of a client -/

/-- A protocol leads from a turn to some turn of the given stage. -/
abbrev Ends (p : Protocol interface α) (g : Turn) (stage : Stage) : Prop :=
  p.Keeps rules (fun _ g' => g'.stage = stage) g

theorem keeps_ask_iff {c : Call} {f : Reply c → Protocol interface α} {Q : α → Turn → Prop} :
    (ask c >>= f).Keeps rules Q g ↔
      g.Allows c ∧ ∀ r, (f r).Keeps rules Q (g.after ⟨c, r⟩) := by
  rw [keeps_ask_bind_iff]
  refine and_congr_right' ?_
  constructor
  · intro h r
    exact h r _ rfl
  · rintro h r g' rfl
    exact h r

theorem ends_login (hg : g.stage = .entitled) (c : Credentials) : Ends (x.login c) g .entitled := by
  unfold Client.login
  split
  · exact hg
  · exact hg
  · rw [Ends, keeps_ask_iff]
    refine ⟨fun _ => hg, fun r => ?_⟩
    cases r with
    | none => exact hg
    | some r => exact hg

/-- Whatever becomes of the login, the caller has made use of its right. -/
theorem ends_refresh (hg : g.stage = .entitled) : Ends x.refresh g .inside := by
  unfold Client.refresh
  rw [Ends, keeps_ask_iff]
  refine ⟨trivial, fun c => ?_⟩
  rw [keeps_bind_iff]
  refine (ends_login (g := g.after ⟨.credentials, c⟩) hg c).mono fun r g' hg' => ?_
  cases r with
  | ok a =>
    rw [keeps_ask_iff]
    exact ⟨hg', fun _ => if_pos hg'⟩
  | error e =>
    rw [keeps_ask_iff]
    exact ⟨hg', fun _ => if_pos hg'⟩

theorem ends_unlock (r : α) : Ends (do ask .unlock; return r) g .outside := by
  rw [Ends, keeps_ask_iff]
  exact ⟨trivial, fun _ => rfl⟩

theorem look_inside (hg : g.stage = .inside) : (g.look true).stage = .entitled := by
  unfold look
  rw [if_pos ⟨hg, rfl⟩]

theorem ends_ensure (hg : g.stage = .outside) : Ends x.ensure g .outside := by
  unfold Client.ensure
  rw [Ends, keeps_ask_iff]
  refine ⟨trivial, fun live => ?_⟩
  cases live with
  | true => exact stage_look_eq_outside_iff.mpr hg
  | false =>
    -- A look from outside gives no right to log in, as the session may be another one inside.
    simp only [Bool.false_eq_true, if_false]
    rw [keeps_ask_iff]
    refine ⟨stage_look_eq_outside_iff.mpr hg, fun _ => ?_⟩
    rw [keeps_ask_iff]
    refine ⟨trivial, fun live => ?_⟩
    cases live with
    | true => exact ends_unlock _
    | false =>
      simp only [Bool.false_eq_true, if_false]
      rw [keeps_bind_iff]
      refine (ends_refresh (look_inside rfl)).mono fun r g' _ => ends_unlock r

theorem keeps_currentToken_iff {f : Option String → Protocol interface α} {Q : α → Turn → Prop} :
    (currentToken >>= f).Keeps rules Q g ↔
      ∀ a : Option Auth, (f (a.map (·.token))).Keeps rules Q (g.after ⟨.auth, a⟩) := by
  rw [currentToken, LawfulMonad.bind_assoc, keeps_ask_iff]
  exact and_iff_right trivial

/-- A caller that was refused may log in again, unless it finds another token. -/
theorem ends_relogin (hg : g.stage = .outside) {rejected : Option String}
    (hrejected : ∀ token, rejected = some token → token ∈ g.refused) :
    Ends (x.relogin rejected) g .outside := by
  unfold Client.relogin
  rw [Ends, keeps_ask_iff]
  refine ⟨hg, fun _ => ?_⟩
  rw [keeps_currentToken_iff]
  intro a
  split
  · exact ends_unlock _
  · rename_i hsame
    -- The token that is held, if any, is the refused one.
    have hunusable : (a.all fun a => decide (a.token ∈ g.refused)) = true := by
      cases a with
      | none => rfl
      | some a =>
        have hrejects : rejected = some a.token := by
          by_contra hne
          exact hsame ⟨rfl, Ne.symm hne⟩
        simpa using hrejected _ hrejects
    have hentitled : ((g.after ⟨.lock, ()⟩).after ⟨.auth, a⟩).stage = .entitled := by
      change (look { g with stage := .inside } (a.all fun a => decide (a.token ∈ g.refused))).stage = _
      rw [hunusable]
      exact look_inside rfl
    rw [keeps_bind_iff]
    exact (ends_refresh hentitled).mono fun r g' _ => ends_unlock r

theorem ends_logout (hg : g.stage = .outside) : Ends x.logout g .outside := by
  unfold Client.logout
  rw [Ends, keeps_ask_iff]
  refine ⟨trivial, fun a => ?_⟩
  cases a with
  | none => exact hg
  | some a =>
    simp only
    split
    · exact hg
    · rw [keeps_ask_iff]
      refine ⟨nofun, fun r => ?_⟩
      cases r with
      | none => exact hg
      | some r => exact hg

/-- A request for data is no login; if it is refused, the caller knows it. -/
theorem keeps_get (hg : g.stage = .outside) (url : Net.Url) (query : List (String × String))
    (token : Option String) :
    (get url query token).Keeps rules (fun r g' => g'.stage = .outside ∧
      (r.any (·.status == 401) = true → ∀ t, token = some t → t ∈ g'.refused)) g := by
  unfold get ask
  rw [keeps_call_iff]
  refine ⟨nofun, ?_⟩
  rintro r g' rfl
  refine ⟨hg, fun hrefused t ht => ?_⟩
  cases r with
  | none => cases hrefused
  | some r =>
    have hstatus : (r.status == 401) = true := hrefused
    simp [after, refused?, hstatus, ht]

theorem ends_data (hg : g.stage = .outside) (read : Json → Option β) (path : String)
    (query : List (String × String)) : Ends (x.data read path query) g .outside := by
  unfold Client.data
  rw [Ends, keeps_bind_iff]
  refine (ends_ensure hg).mono fun r g₁ hg₁ => ?_
  cases r with
  | error e => exact hg₁
  | ok _ =>
    simp only
    split
    · exact hg₁
    · rename_i url _
      rw [keeps_currentToken_iff]
      intro a
      rw [keeps_bind_iff]
      have hlook : (g₁.after ⟨.auth, a⟩).stage = .outside := stage_look_eq_outside_iff.mpr hg₁
      refine (keeps_get hlook url query _).mono fun r g₂ ⟨hg₂, hrefused⟩ => ?_
      split
      · rename_i hstatus
        rw [keeps_bind_iff]
        refine (ends_relogin hg₂ (hrefused hstatus)).mono fun res g₃ hg₃ => ?_
        cases res with
        | error e => exact hg₃
        | ok _ =>
          simp only
          rw [keeps_currentToken_iff]
          intro a
          rw [keeps_bind_iff]
          have hlook : (g₃.after ⟨.auth, a⟩).stage = .outside :=
            stage_look_eq_outside_iff.mpr hg₃
          exact (keeps_get hlook url query _).mono fun r g₄ ⟨hg₄, _⟩ => hg₄
      · exact hg₂

/-! ## Calls on a session -/

theorem stays_outside (x : Client) : x.Stays rules fun g => g.stage = .outside where
  ensure := ends_ensure
  logout := ends_logout
  isLive hg := ⟨trivial, fun _ _ hg' => hg' ▸ stage_look_eq_outside_iff.mpr hg⟩
  setCredentials _ _ hg := ⟨trivial, fun _ _ hg' => hg' ▸ hg⟩
  data read path query _ hg := ends_data hg read path query

/-- Whatever a caller does with its session, it keeps to the rules, and at its end it is outside. -/
theorem ends_interpret (hg : g.stage = .outside) (p : Protocol Session.interface α) :
    Ends (p.interpret x.answer) g .outside :=
  (stays_outside x).interpret hg p

end Turn

end NodeAtlas.Http
