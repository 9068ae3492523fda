import NodeAtlas.Http.Session
import NodeAtlas.Protocol.Discipline

/-!
# Calls on a session

Whatever is called on a session, a client logs in or out, requests data or makes a single call of its own.
If all of these lead from positions of one kind to positions of the same kind, so does every call on the
session, and so does everything that is done with it.
-/

namespace NodeAtlas.Http

open Protocol NodeAtlas.Json

variable {l : Locking interface} {G α : Type} {d : Discipline interface l G} {P : G → Prop} {g : G}
  {x : Client}

theorem keeps_ask_bind_iff {c : Call} {f : Reply c → Protocol interface α} {Q : α → G → Prop} :
    (ask c >>= f).Keeps d Q g ↔
      d.allows g c ∧ ∀ r g', d.leads g ⟨c, r⟩ g' → (f r).Keeps d Q g' := .rfl

/-- What a client does of its own leads from positions of one kind to positions of the same kind. -/
structure Client.Stays (x : Client) (d : Discipline interface l G) (P : G → Prop) : Prop where
  ensure : ∀ {g}, P g → x.ensure.Keeps d (fun _ g' => P g') g
  logout : ∀ {g}, P g → x.logout.Keeps d (fun _ g' => P g') g
  isLive : ∀ {g}, P g → (ask .isLive).Keeps d (fun _ g' => P g') g
  setCredentials : ∀ c {g}, P g → (ask (.setCredentials c)).Keeps d (fun _ g' => P g') g
  data : ∀ {β : Type} (read : Json → Option β) (path : String) (query : List (String × String)) {g},
    P g → (x.data read path query).Keeps d (fun _ g' => P g') g

namespace Client.Stays

theorem datacenters (h : x.Stays d P) (hg : P g) :
    x.datacenters.Keeps d (fun _ g' => P g') g := by
  unfold Client.datacenters
  rw [keeps_bind_iff]
  refine (h.data _ _ _ hg).mono fun r g' hg' => ?_
  cases r <;> exact hg'

theorem tagsOf (h : x.Stays d P) (hg : P g) (targets : List (String × String)) (tags : List Tag) :
    (x.tagsOf tags targets).Keeps d (fun _ g' => P g') g := by
  induction targets generalizing g tags with
  | nil => exact hg
  | cons target targets ih =>
    obtain ⟨kind, id⟩ := target
    unfold Client.tagsOf
    split
    · exact ih hg tags
    · rw [keeps_bind_iff]
      refine (h.data _ _ _ hg).mono fun r g' hg' => ?_
      cases r with
      | error e => exact hg'
      | ok found => exact ih hg' _

theorem answer (h : x.Stays d P) (hg : P g) (c : Session.Call) :
    (x.answer c).Keeps d (fun _ g' => P g') g := by
  cases c with
  | connect => exact h.ensure hg
  | logout => exact h.logout hg
  | isConnected => exact h.isLive hg
  | updateCredentials c => exact h.setCredentials c hg
  | listDatacenters => exact h.datacenters hg
  | getDatacenter name =>
    unfold Client.answer Client.datacenter
    rw [keeps_bind_iff]
    refine (h.datacenters hg).mono fun r g' hg' => ?_
    cases r with
    | error e => exact hg'
    | ok ds =>
      simp only
      split <;> exact hg'
  | findMachine lookup d key =>
    unfold Client.answer Client.machine
    rw [keeps_bind_iff]
    refine (h.data _ _ _ hg).mono fun r g' hg' => ?_
    cases r with
    | error e => exact hg'
    | ok vms =>
      simp only
      split <;> exact hg'
  | listHosts d =>
    unfold Client.answer Client.hosts
    rw [keeps_bind_iff]
    refine (h.data _ _ _ hg).mono fun r g' hg' => ?_
    cases r <;> exact hg'
  | hostTags id =>
    unfold Client.answer Client.hostTags
    rw [keeps_bind_iff]
    refine (h.data _ _ _ hg).mono fun r g' hg' => ?_
    rcases r with e | (_ | host)
    · exact hg'
    · exact hg'
    · exact h.tagsOf hg' _ _

theorem interpret (h : x.Stays d P) (hg : P g) (p : Protocol Session.interface α) :
    (p.interpret x.answer).Keeps d (fun _ g' => P g') g :=
  keeps_interpret (fun c _ hg => h.answer hg c) p hg

end Client.Stays

end NodeAtlas.Http
