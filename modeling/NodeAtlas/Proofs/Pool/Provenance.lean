import Mathlib.Logic.Function.Basic
import NodeAtlas.Proofs.Pool.Connect
import NodeAtlas.Proofs.Pool.Strands

/-!
# Where credentials come from

However operations and searches go on side by side, and whatever sessions and managers answer, the
credentials of a tenant are the configured ones or come from its own manager, and one strand at a time
connects.
-/

namespace NodeAtlas.Pool

open Protocol

/-! ## Sources -/

/-- Credentials that an endpoint may have after exchanges. -/
inductive Sourced (p : Pool) (e : Endpoint) (xs : List interface.Exchange) : Credentials → Prop where
  | configured : Sourced p e xs e.credentials
  /-- The manager of the endpoint has given them for its server. -/
  | managed {c : Credentials} (hmanager : p.managers.contains e.secretRef = true)
      (hc : ⟨.secret e.secretRef e.host, .ok c⟩ ∈ xs) : Sourced p e xs c

/-- The credentials in a position come from a manager. -/
def Position.Backed (p : Pool) (xs : List interface.Exchange) : Position → Prop
  | .outside | .locked => True
  | .armed secretRef address c =>
    p.managers.contains secretRef = true ∧ ⟨.secret secretRef address, .ok c⟩ ∈ xs

section

variable {p : Pool} {e : Endpoint} {xs ys : List interface.Exchange} {g : Position}
  {c : Strand.Call} {r : Strand.Reply c}

theorem Sourced.mono {k : Credentials} (h : Sourced p e xs k) (hsub : xs ⊆ ys) :
    Sourced p e ys k := by
  cases h with
  | configured => exact .configured
  | managed hmanager hc => exact .managed hmanager (hsub hc)

theorem Position.Backed.mono (h : g.Backed p xs) (hsub : xs ⊆ ys) : g.Backed p ys := by
  cases g with
  | armed => exact ⟨h.1, hsub h.2⟩
  | _ => trivial

/-- What an exchange leads to is backed by the exchanges up to it. -/
theorem Position.Backed.after (h : g.Backed p xs) (hallowed : Allowed p g c) :
    (g.after ⟨c, r⟩).Backed p (xs ++ (seen? ⟨c, r⟩).toList) := by
  have hsub : xs ⊆ xs ++ (seen? ⟨c, r⟩).toList := List.subset_append_left ..
  cases hallowed with
  | calm hc =>
    rw [after_of_isCalm hc]
    exact h.mono hsub
  | secret hmanager =>
    cases r with
    | ok k => exact ⟨hmanager, List.mem_append_right _ List.mem_cons_self⟩
    | error err => trivial
  | _ => trivial

theorem stored_append (tenant : String) (first : Credentials) (xs ys : List interface.Exchange) :
    stored tenant first (xs ++ ys) = stored tenant (stored tenant first xs) ys :=
  List.foldl_append ..

theorem stored_seen?_update (tenant t : String) (first d : Credentials) (r : Unit) :
    stored tenant first (seen? ⟨.pool (.session t (.updateCredentials d)), r⟩).toList =
      if t = tenant then d else first := rfl

/-- No other call replaces credentials. -/
theorem stored_seen?_of_ne (hc : ∀ t d, c ≠ .pool (.session t (.updateCredentials d)))
    (tenant : String) (first : Credentials) :
    stored tenant first (seen? ⟨c, r⟩).toList = first := by
  cases c with
  | pool c =>
    cases c with
    | session t c =>
      cases c with
      | updateCredentials d => exact absurd rfl (hc t d)
      | _ => rfl
    | _ => rfl
  | _ => rfl

/-- An exchange that is allowed leaves an endpoint with credentials of its own. -/
theorem Sourced.after (he : p.endpoint e.tenant = .ok e) {k : Credentials} (h : Sourced p e xs k)
    (hallowed : Allowed p g c) (hg : g.Backed p xs) :
    Sourced p e (xs ++ (seen? ⟨c, r⟩).toList) (stored e.tenant k (seen? ⟨c, r⟩).toList) := by
  have hsub : xs ⊆ xs ++ (seen? ⟨c, r⟩).toList := List.subset_append_left ..
  by_cases hc : ∃ t d, c = .pool (.session t (.updateCredentials d))
  · obtain ⟨t, d, rfl⟩ := hc
    cases hallowed with
    | calm hc => cases hc
    | update he' =>
      rename_i e'
      by_cases ht : t = e.tenant
      · -- The endpoint that the credentials were asked for is this one.
        subst ht
        obtain rfl : e' = e := Except.ok.inj (he'.symm.trans he)
        rw [stored_seen?_update, if_pos rfl]
        exact .managed hg.1 (hsub hg.2)
      · rw [stored_seen?_update, if_neg ht]
        exact h.mono hsub
  · rw [stored_seen?_of_ne (fun t d h => hc ⟨t, d, h⟩)]
    exact h.mono hsub

end

/-! ## Strands in their positions -/

/-- Every strand is in a position, and one of them at most holds the lock. -/
structure Tracked (p : Pool) (xs : List interface.Exchange) {ι : Type} (F : ι → Option Strand)
    (pos : ι → Position) : Prop where
  keeps : ∀ x q, F x = some q → q.Keeps (manners p) (fun _ g => g = .outside) (pos x)
  backed : ∀ x, (pos x).Backed p xs
  alone : ∀ x y q q', F x = some q → F y = some q' → (pos x).holds → (pos y).holds → x = y

section

variable {p : Pool} {xs ys : List interface.Exchange} {ι : Type} {F F' : ι → Option Strand}
  {pos : ι → Position} {x : ι} {q : Strand} {g : Position}

theorem Others.eq_some_of_ne (h : Others x F F') {y : ι} (hy : y ≠ x) (hq : F' y = some q) :
    F y = some q := by
  rcases h y hy with hsame | hnone
  · exact hsame.symm.trans hq
  · cases hnone.symm.trans hq

namespace Tracked

theorem allowed (h : Tracked p xs F pos) {c : Strand.Call} {next : Strand.Reply c → Strand}
    (hx : F x = some (.call c next)) : Allowed p (pos x) c := (h.keeps x _ hx).1

theorem holds_iff (h : Tracked p xs F pos) (hx : F x = some q) :
    q.Holds Strand.turns ↔ (pos x).holds := holds_iff_of_keeps (h.keeps x q hx)

/-- One strand moves to a position. It may hold the lock there if no other one does. -/
theorem move [DecidableEq ι] (h : Tracked p xs F pos) (hothers : Others x F F') (hx : F' x = some q)
    (hq : q.Keeps (manners p) (fun _ g => g = .outside) g) (hg : g.Backed p (xs ++ ys))
    (halone : g.holds → ∀ y q, y ≠ x → F y = some q → ¬ (pos y).holds) :
    Tracked p (xs ++ ys) F' (Function.update pos x g) where
  keeps y q' hy := by
    by_cases hne : y = x
    · subst hne
      obtain rfl := Option.some.inj (hx.symm.trans hy)
      rw [Function.update_self]
      exact hq
    · rw [Function.update_of_ne hne]
      exact h.keeps y q' (hothers.eq_some_of_ne hne hy)
  backed y := by
    by_cases hne : y = x
    · subst hne
      rw [Function.update_self]
      exact hg
    · rw [Function.update_of_ne hne]
      exact (h.backed y).mono (List.subset_append_left ..)
  alone y z q' q'' hy hz hy' hz' := by
    by_cases hyx : y = x
    · by_cases hzx : z = x
      · rw [hyx, hzx]
      · rw [hyx, Function.update_self] at hy'
        rw [Function.update_of_ne hzx] at hz'
        exact absurd hz' (halone hy' z q'' hzx (hothers.eq_some_of_ne hzx hz))
    · rw [Function.update_of_ne hyx] at hy'
      have hy := hothers.eq_some_of_ne hyx hy
      by_cases hzx : z = x
      · rw [hzx, Function.update_self] at hz'
        exact absurd hy' (halone hz' y q' hyx hy)
      · rw [Function.update_of_ne hzx] at hz'
        exact h.alone y z q' q'' hy (hothers.eq_some_of_ne hzx hz) hy' hz'

/-- A change moves at most one strand to another position. -/
theorem change [DecidableEq ι] {allows : Call → Prop} {y : Option interface.Exchange}
    (h : Tracked p xs F pos) (hchange : Change p allows F F' y)
    (hlock : allows .lock → ∀ x q, F x = some q → ¬ q.Holds Strand.turns) :
    ∃ pos', Tracked p (xs ++ y.toList) F' pos' := by
  cases hchange with
  | called hx hc r hx' hothers =>
    rename_i x c next
    have hallowed := h.allowed hx
    refine ⟨_, h.move hothers hx' ((h.keeps x _ hx).2 r _ ⟨hallowed, rfl⟩)
      ((h.backed x).after hallowed) fun hholds y q hy hq hholds' => ?_⟩
    by_cases htakes : Strand.turns.takes c = true
    · obtain rfl := takes_eq_true_iff.mp htakes
      exact hlock (hc _ rfl) y q hq ((h.holds_iff hq).mpr hholds')
    · -- Who has not just taken the lock held it before.
      rw [Bool.not_eq_true] at htakes
      have hgives : Strand.turns.gives c = false := by
        refine Bool.eq_false_iff.mpr fun hgives => ?_
        exact (manners p).not_holds_of_gives htakes hgives (g := pos x) ⟨hallowed, rfl⟩ hholds
      have hheld := ((manners p).holds_iff htakes hgives ⟨hallowed, rfl⟩).mp hholds
      exact hy (h.alone y x q _ hq hx hholds' hheld)
  | born hx hq hx' hothers => exact ⟨_, h.move hothers hx' hq trivial fun hholds => hholds.elim⟩
  | left hothers =>
    have hbefore {y : ι} {q : Strand} (hq : F' y = some q) : F y = some q := by
      rcases hothers y with hsame | hnone
      · exact hsame.symm.trans hq
      · cases hnone.symm.trans hq
    rw [Option.toList_none, List.append_nil]
    exact ⟨pos, fun y q hq => h.keeps y q (hbefore hq), h.backed,
      fun y z q q' hq hq' => h.alone y z q q' (hbefore hq) (hbefore hq')⟩

end Tracked

end

/-! ## Runs -/

section

variable {p : Pool} {w : World interface} {world : w.State} {s s' : Crowd w.State}
  {xs : List interface.Exchange} {y : Option interface.Exchange}

/-- What holds of every crowd after exchanges. -/
structure Crowd.Sound (p : Pool) (xs : List interface.Exchange) (s : Crowd w.State) : Prop where
  tracked : ∃ pos, Tracked p xs s.strand pos
  owns : s.OwnsQueued p
  sourced : ∀ e, p.endpoint e.tenant = .ok e → Sourced p e xs (stored e.tenant e.credentials xs)

theorem sound_empty : (Crowd.empty world).Sound p [] where
  tracked := by
    refine ⟨fun _ => .outside, fun x q hq => ?_, fun _ => trivial, fun _ _ _ _ _ _ hholds _ => ?_⟩
    · cases hq
    · exact hholds.elim
  owns _ ha := absurd ha List.not_mem_nil
  sourced _ _ := .configured

theorem Crowd.Sound.step (h : s.Sound p xs) (hkeyed : Keyed p.endpoints)
    (hstep : Crowd.Step p w s y s') : s'.Sound p (xs ++ y.toList) := by
  obtain ⟨pos, htracked⟩ := h.tracked
  have hchange := change_of_step hkeyed h.owns hstep
  refine ⟨htracked.change hchange fun hlock => hlock rfl, ?_, fun e he => ?_⟩
  · refine owns_of_step h.owns (fun x e next hx => ?_) hstep
    generalize hg : pos x = g
    cases hg ▸ htracked.allowed hx with
    | calm hc => cases hc
    | push he => exact he
  · rw [stored_append]
    cases hchange with
    | called hx _ r => exact (h.sourced e he).after he (htracked.allowed hx) (htracked.backed _)
    | born | left =>
      rw [Option.toList_none, List.append_nil]
      exact h.sourced e he

theorem sound_of_steps (hkeyed : Keyed p.endpoints) (h : Crowd.Steps p w (.empty world) xs s) :
    s.Sound p xs := by
  induction h with
  | refl => exact sound_empty
  | tail _ hstep ih => exact ih.step hkeyed hstep

/-- Who connects holds the lock. -/
theorem Crowd.Sound.eq_of_connecting (h : s.Sound p xs) {x z : Nat × Seat} (hx : s.Connecting x)
    (hz : s.Connecting z) : x = z := by
  obtain ⟨pos, htracked⟩ := h.tracked
  have hheld {x : Nat × Seat} (hx : s.Connecting x) :
      ∃ q, s.strand x = some q ∧ (pos x).holds := by
    obtain ⟨tenant, next, hx⟩ := hx
    refine ⟨_, hx, ?_⟩
    generalize hg : pos x = g
    cases hg ▸ htracked.allowed hx with
    | calm hc => cases hc
    | connect => trivial
  obtain ⟨q, hq, hholds⟩ := hheld hx
  obtain ⟨q', hq', hholds'⟩ := hheld hz
  exact htracked.alone x z q q' hq hq' hholds hholds'

/-- The world changes by exchanges only. -/
theorem answers_of_search {I : Interface} {T R : Type} {f : Search I T R} {v : World I}
    {t t' : Search.State I T R v.State} {e : Search.Event I T R} (h : Search.Step f v t e t') :
    Search.answered? e = none ∧ t'.world = t.world ∨
      ∃ c r, Search.answered? e = some ⟨c, r⟩ ∧ v.answers t.world c r t'.world := by
  cases h with
  | answered _ hw => exact .inr ⟨_, _, rfl, hw⟩
  | worked _ hw => exact .inr ⟨_, _, rfl, hw⟩
  | _ => exact .inl ⟨rfl, rfl⟩

theorem answers_of_step (h : Crowd.Step p w s y s') :
    y = none ∧ s'.world = s.world ∨ ∃ c r, y = some ⟨c, r⟩ ∧ w.answers s.world c r s'.world := by
  cases h with
  | called _ _ hw => exact .inr ⟨_, _, rfl, hw.2⟩
  | searched _ _ hstep =>
    rcases answers_of_search hstep with ⟨hy, hworld⟩ | ⟨c, r, hy, hw⟩
    · exact .inl ⟨hy, hworld⟩
    · exact .inr ⟨c, r, hy, hw.2⟩
  | _ => exact .inl ⟨rfl, rfl⟩

theorem Stores.of_steps {tenant : String} {credentials : w.State → Credentials}
    (h : Stores w tenant credentials) (hs : Crowd.Steps p w s xs s') :
    credentials s'.world = stored tenant (credentials s.world) xs := by
  induction hs with
  | refl => rfl
  | tail _ hstep ih =>
    rw [stored_append, ← ih]
    rcases answers_of_step hstep with ⟨rfl, hworld⟩ | ⟨c, r, rfl, hw⟩
    · rw [hworld]
      rfl
    · exact h _ _ _ _ hw

end

/-! ## Attempts -/

/-- An attempt to connect stores nothing, or the credentials that the manager gives in it for the
endpoint. -/
theorem stored_of_attempt {p : Pool} {e : Endpoint} {xs : List interface.Exchange} {r : Result Unit}
    (h : Attempt p e xs r) : (∀ tenant first, stored tenant first xs = first) ∨
      ∃ d c, xs = [⟨.lock, ()⟩, ⟨.session e.tenant .connect, .error (.invalidCredentials d)⟩,
          ⟨.secret e.secretRef e.host, .ok c⟩, ⟨.session e.tenant (.updateCredentials c), ()⟩,
          ⟨.session e.tenant .connect, r⟩, ⟨.unlock, ()⟩] ∧
        ∀ tenant first, stored tenant first xs = if e.tenant = tenant then c else first := by
  cases h with
  | settled => exact .inl fun _ _ => rfl
  | refreshed d h =>
    cases h with
    | unmanaged => exact .inl fun _ _ => rfl
    | refused => exact .inl fun _ _ => rfl
    | replaced _ c => exact .inr ⟨d, c, rfl, fun _ _ => rfl⟩

/-- An attempt connects once, or twice with the credentials that the manager of the endpoint gives in
between. In a crowd, every session has the configured credentials or some that its own manager has given
for its own server, and one strand at a time connects. -/
theorem credentials_from_own_manager {σ : Type} {endpoints : List Endpoint}
    {factory : Endpoint → Result σ} {managers : List String} {discovery : Config.Discovery} {p : Pool}
    {sessions : Dict σ} (h : create endpoints factory managers discovery = .ok (p, sessions)) :
    (∀ e xs r, (p.connectEndpoint e).Yields xs r ↔ Attempt p e xs r) ∧
    (∀ e xs r, (p.connectEndpoint e).Yields xs r →
      (∀ tenant first, stored tenant first xs = first) ∨
      ∃ d c, xs = [⟨.lock, ()⟩, ⟨.session e.tenant .connect, .error (.invalidCredentials d)⟩,
          ⟨.secret e.secretRef e.host, .ok c⟩, ⟨.session e.tenant (.updateCredentials c), ()⟩,
          ⟨.session e.tenant .connect, r⟩, ⟨.unlock, ()⟩] ∧
        ∀ tenant first, stored tenant first xs = if e.tenant = tenant then c else first) ∧
    ∀ (w : World interface) (world : w.State) xs s, Crowd.Steps p w (.empty world) xs s →
      (∀ e ∈ endpoints, Sourced p e xs (stored e.tenant e.credentials xs)) ∧
      (∀ tenant credentials, Stores w tenant credentials →
        credentials s.world = stored tenant (credentials world) xs) ∧
      ∀ x y, s.Connecting x → s.Connecting y → x = y := by
  refine ⟨fun e xs r => yields_connectEndpoint_iff, fun e xs r hr => ?_, fun w world xs s hs => ?_⟩
  · exact stored_of_attempt (attempt_of_yields hr)
  · have hsound := sound_of_steps (keyed_of_create h) hs
    refine ⟨fun e he => hsound.sourced e ?_, fun _ _ hw => hw.of_steps hs, fun x y => ?_⟩
    · exact (perm_list_of_create h).2 e he
    · exact hsound.eq_of_connecting

/-- The world in which every reply is possible and the sessions store credentials. -/
def storing : World interface :=
  ⟨String → Credentials, fun s c r s' => s' = fun tenant => renewed tenant (s tenant) ⟨c, r⟩⟩

/-- An endpoint with credentials that have been changed. -/
def ward : Endpoint := ⟨"a", "10.0.0.1", 443, ⟨"admin", "old"⟩, "vault", false, [], [.ipv4]⟩

def wardPool : Pool := ⟨.ofList [("a", ward)], ["vault"], {}⟩

/-- While another operation waits, credentials are refused and replaced, and the session is connected
again. -/
theorem exists_steps_ward : ∃ xs s,
    Crowd.Steps wardPool storing (.empty fun _ => ward.credentials) xs s ∧
      s.world "a" = ⟨"admin", "new"⟩ ∧ s.Connecting (0, .own) ∧
      ∃ next, s.strand (1, .own) = some (.call (.pool .lock) next) := by
  have hfree : Crowd.Allows ⟨fun _ : String => ward.credentials,
      [{ own := some ((Operation.connect "a").strand wardPool) }]⟩ .lock := by
    rintro - ⟨_ | i, z⟩ q hq
    · cases z with
      | own =>
        obtain rfl := Option.some.inj hq
        rintro (h | h)
        · cases h
        · cases h
      | producer => cases hq
      | worker j => cases hq
    · cases hq
  have hstart := Crowd.Steps.tail (p := wardPool) (w := storing)
    (.refl (.empty fun _ => ward.credentials)) (.started (.connect "a"))
  have hlocked := hstart.tail (.called (i := 0) (r := ()) rfl rfl ⟨hfree, rfl⟩)
  have hwaiting := hlocked.tail (.started .verify)
  have hrefused := hwaiting.tail
    (.called (i := 0) (c := .session "a" .connect) (r := .error (.invalidCredentials "")) rfl rfl
      ⟨nofun, rfl⟩)
  have hgiven := hrefused.tail
    (.called (i := 0) (c := .secret "vault" "10.0.0.1") (r := .ok ⟨"admin", "new"⟩) rfl rfl
      ⟨nofun, rfl⟩)
  have hstored := hgiven.tail (.called (i := 0) (r := ()) rfl rfl ⟨nofun, rfl⟩)
  exact ⟨_, _, hstored, rfl, ⟨"a", _, rfl⟩, _, rfl⟩

/-- They come from the manager, and only the operation that has asked for them connects. -/
theorem credentials_from_own_manager_ward :
    ∃ sessions : Dict Unit, create [ward] (fun _ => .ok ()) ["vault"] {} = .ok (wardPool, sessions) ∧
    ∃ xs s, Crowd.Steps wardPool storing (.empty fun _ => ward.credentials) xs s ∧
      s.world "a" = ⟨"admin", "new"⟩ ∧ Sourced wardPool ward xs ⟨"admin", "new"⟩ ∧
      s.Connecting (0, .own) ∧ ∀ x, s.Connecting x → x = (0, .own) := by
  obtain ⟨sessions, hcreate⟩ : ∃ sessions : Dict Unit,
      create [ward] (fun _ => .ok ()) ["vault"] {} = .ok (wardPool, sessions) := ⟨_, rfl⟩
  obtain ⟨xs, s, hs, hworld, hconnecting, -⟩ := exists_steps_ward
  obtain ⟨-, -, hrun⟩ := credentials_from_own_manager hcreate
  obtain ⟨hsourced, hstored, halone⟩ := hrun storing _ xs s hs
  have hstores : Stores storing "a" fun s => s "a" := fun _ _ _ _ hw => congrFun hw "a"
  have hnew : stored "a" ward.credentials xs = ⟨"admin", "new"⟩ :=
    (hstored "a" _ hstores).symm.trans hworld
  refine ⟨sessions, hcreate, xs, s, hs, hworld, ?_, hconnecting, fun x hx => ?_⟩
  · exact hnew ▸ hsourced ward List.mem_cons_self
  · exact halone x _ hx hconnecting

end NodeAtlas.Pool
