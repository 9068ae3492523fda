import Mathlib.Data.List.Induction
import Mathlib.Tactic.SplitIfs
import NodeAtlas.Proofs.Machines.Find
import NodeAtlas.Proofs.Pool.Connect
import NodeAtlas.Search.Zones

/-!
# Zone and region by tags

A lookup reads the tags of a host one after another. Of several tags of a category each takes the place of
the one before it, and when there is one of both categories the lookup ends. So a lookup for one category
gives its last tag, while a lookup for both gives the last ones in the shortest front part of the tags that
has both categories.
-/

namespace NodeAtlas

open Protocol

namespace ZoneRegion

variable {labels : Config.Labels} {label host : String} {ts us pre : List Tag} {t : Tag}

/-- A tag of the category is among them. -/
def Described (label : String) (ts : List Tag) : Prop := ∃ t ∈ ts, t.description = label

/-- The name of the last tag of the category. -/
def lastName (label : String) (ts : List Tag) : Option String :=
  (ts.filter (·.description == label)).getLast?.map (·.name)

/-- The shortest front part of the tags that has both categories. -/
structure Decisive (labels : Config.Labels) (ts pre : List Tag) : Prop where
  front : pre <+: ts
  zone : Described labels.zone pre
  region : Described labels.region pre
  shortest : ∀ us, us <+: ts → Described labels.zone us → Described labels.region us → pre <+: us

theorem Decisive.unique (h : Decisive labels ts pre) (h' : Decisive labels ts us) : pre = us := by
  have hle : pre <+: us := h.shortest us h'.front h'.zone h'.region
  have hge : us <+: pre := h'.shortest pre h.front h.zone h.region
  exact hle.eq_of_length (Nat.le_antisymm hle.length_le hge.length_le)

/-! ## Tags of one category -/

theorem Described.mono (h : Described label us) (hsub : us <+: ts) : Described label ts := by
  obtain ⟨t, ht, hlabel⟩ := h
  exact ⟨t, hsub.subset ht, hlabel⟩

theorem lastName_concat (label : String) (ts : List Tag) (t : Tag) :
    lastName label (ts ++ [t]) = if t.description = label then some t.name else lastName label ts := by
  unfold lastName
  rw [List.filter_append]
  split_ifs with h
  · simp [h]
  · simp [h]

theorem lastName_append (label : String) (ts us : List Tag) :
    lastName label (ts ++ us) = (lastName label us).or (lastName label ts) := by
  unfold lastName
  rw [List.filter_append, List.getLast?_append]
  cases (us.filter (·.description == label)).getLast? with
  | none => simp
  | some t => simp

/-- The tags that follow change the last name unless they name nothing else. -/
theorem lastName_eq_append_iff : lastName label ts = lastName label (ts ++ us) ↔
    ∀ n, lastName label us = some n → lastName label ts = some n := by
  rw [lastName_append]
  cases lastName label us with
  | none => simp
  | some n => simp

theorem lastName_isSome_iff : (lastName label ts).isSome = true ↔ Described label ts := by
  unfold lastName Described
  rw [Option.isSome_map, List.getLast?_isSome, ne_eq, List.filter_eq_nil_iff]
  simp

theorem lastName_eq_none_iff : lastName label ts = none ↔ ¬ Described label ts := by
  rw [← lastName_isSome_iff, Option.not_isSome_iff_eq_none]

/-! ## One tag after another -/

/-- What has been seen after some tags, if the lookup has not ended before. -/
def seen (labels : Config.Labels) (ts : List Tag) : ZoneRegion :=
  ts.foldl (fun zr t => zr.see labels t) {}

/-- The tags have both categories, and these are told apart. -/
structure Complete (labels : Config.Labels) (ts : List Tag) : Prop where
  zoneGiven : labels.zone ≠ ""
  regionGiven : labels.region ≠ ""
  distinct : labels.region ≠ labels.zone
  zone : Described labels.zone ts
  region : Described labels.region ts

theorem Complete.mono (h : Complete labels us) (hsub : us <+: ts) : Complete labels ts :=
  ⟨h.zoneGiven, h.regionGiven, h.distinct, h.zone.mono hsub, h.region.mono hsub⟩

theorem zone_see (labels : Config.Labels) (t : Tag) (zr : ZoneRegion) :
    (zr.see labels t).zone =
      if labels.zone ≠ "" ∧ t.description = labels.zone then some t.name else zr.zone := by
  unfold see
  by_cases hz : labels.zone = "" <;> by_cases ht : t.description = labels.zone <;>
    simp [hz, ht] <;> split_ifs <;> rfl

/-- A tag of both categories counts for the zone only. -/
theorem region_see (labels : Config.Labels) (t : Tag) (zr : ZoneRegion) :
    (zr.see labels t).region =
      if (labels.region ≠ "" ∧ labels.region ≠ labels.zone) ∧ t.description = labels.region then
        some t.name
      else zr.region := by
  unfold see
  by_cases hz : labels.zone ≠ "" ∧ t.description = labels.zone
  · have hother : ¬ ((labels.region ≠ "" ∧ labels.region ≠ labels.zone) ∧
        t.description = labels.region) := by
      rintro ⟨⟨-, hne⟩, hr⟩
      exact hne (hr.symm.trans hz.2)
    rw [if_pos (by simpa using hz), if_neg hother]
  · rw [if_neg (by simpa using hz)]
    by_cases hr : labels.region ≠ "" ∧ t.description = labels.region
    · have hne : labels.region ≠ labels.zone := by
        intro heq
        exact hz ⟨heq ▸ hr.1, heq ▸ hr.2⟩
      rw [if_pos (by simpa using hr), if_pos ⟨⟨hr.1, hne⟩, hr.2⟩]
    · have hnot : ¬ ((labels.region ≠ "" ∧ labels.region ≠ labels.zone) ∧
          t.description = labels.region) := fun h => hr ⟨h.1.1, h.2⟩
      rw [if_neg (by simpa using hr), if_neg hnot]

theorem seen_concat (labels : Config.Labels) (ts : List Tag) (t : Tag) :
    seen labels (ts ++ [t]) = (seen labels ts).see labels t := by
  simp [seen]

theorem zone_seen (labels : Config.Labels) (ts : List Tag) :
    (seen labels ts).zone = if labels.zone ≠ "" then lastName labels.zone ts else none := by
  induction ts using List.reverseRecOn with
  | nil => simp [seen, lastName]
  | append_singleton ts t ih =>
    rw [seen_concat, zone_see, ih, lastName_concat]
    by_cases hz : labels.zone = "" <;> simp [hz]

theorem region_seen (labels : Config.Labels) (ts : List Tag) :
    (seen labels ts).region =
      if labels.region ≠ "" ∧ labels.region ≠ labels.zone then lastName labels.region ts else none := by
  induction ts using List.reverseRecOn with
  | nil => simp [seen, lastName]
  | append_singleton ts t ih =>
    rw [seen_concat, region_see, ih, lastName_concat]
    by_cases hr : labels.region ≠ "" ∧ labels.region ≠ labels.zone
    · simp [hr]
    · simp [hr]

/-- The lookup ends when it has seen both categories. -/
theorem ends_iff : ((seen labels ts).zone.isSome && (seen labels ts).region.isSome) = true ↔
    Complete labels ts := by
  rw [Bool.and_eq_true, zone_seen, region_seen]
  constructor
  · rintro ⟨hzone, hregion⟩
    split_ifs at hzone hregion with hz hr
    · exact ⟨hz, hr.1, hr.2, lastName_isSome_iff.mp hzone, lastName_isSome_iff.mp hregion⟩
    all_goals contradiction
  · intro h
    rw [if_pos h.zoneGiven, if_pos ⟨h.regionGiven, h.distinct⟩]
    exact ⟨lastName_isSome_iff.mpr h.zone, lastName_isSome_iff.mpr h.region⟩

/-! ## The end of a lookup -/

/-- Without tags of both categories all tags are read. -/
theorem ofTags_of_not_complete (h : ¬ Complete labels (pre ++ ts)) :
    ofTags labels (seen labels pre) ts = seen labels (pre ++ ts) := by
  induction ts generalizing pre with
  | nil => simp [ofTags]
  | cons t ts ih =>
    rw [List.append_cons] at h ⊢
    have hgoes : ¬ Complete labels (pre ++ [t]) := fun hc => h (hc.mono (List.prefix_append _ _))
    rw [ofTags, ← seen_concat, if_neg (fun hends => hgoes (ends_iff.mp hends))]
    exact ih h

/-- With tags of both categories only the shortest front part that has them is read. -/
theorem exists_decisive_ofTags (hpre : ¬ Complete labels pre) (h : Complete labels (pre ++ ts)) :
    ∃ us, Decisive labels (pre ++ ts) us ∧ ofTags labels (seen labels pre) ts = seen labels us := by
  induction ts generalizing pre with
  | nil =>
    rw [List.append_nil] at h
    exact absurd h hpre
  | cons t ts ih =>
    rw [List.append_cons] at h ⊢
    rw [ofTags, ← seen_concat]
    by_cases hends : Complete labels (pre ++ [t])
    · rw [if_pos (ends_iff.mpr hends)]
      refine ⟨pre ++ [t], ⟨List.prefix_append _ _, hends.zone, hends.region, ?_⟩, rfl⟩
      intro us hus hzone hregion
      -- A shorter front part would lie within what was read before, which is not complete.
      rcases List.prefix_or_prefix_of_prefix (List.prefix_append (pre ++ [t]) ts) hus with hlong | hshort
      · exact hlong
      · rcases List.prefix_concat_iff.mp hshort with rfl | hshort
        · exact List.prefix_rfl
        · have hus' : Complete labels us := ⟨h.zoneGiven, h.regionGiven, h.distinct, hzone, hregion⟩
          exact absurd (hus'.mono hshort) hpre
    · rw [if_neg (fun hstop => hends (ends_iff.mp hstop))]
      exact ih hends h

theorem not_complete_nil : ¬ Complete labels [] := by
  intro h
  obtain ⟨t, ht, -⟩ := h.zone
  cases ht

/-- A lookup has read all tags, or the shortest front part that has both categories. -/
theorem cases_of_ofTags (labels : Config.Labels) (ts : List Tag) :
    (¬ Complete labels ts ∧ ofTags labels {} ts = seen labels ts) ∨
      Complete labels ts ∧ ∃ pre, Decisive labels ts pre ∧ ofTags labels {} ts = seen labels pre := by
  by_cases h : Complete labels ([] ++ ts)
  · exact .inr ⟨h, exists_decisive_ofTags not_complete_nil h⟩
  · exact .inl ⟨h, ofTags_of_not_complete h⟩

theorem zone_eq_none_iff :
    (ofTags labels {} ts).zone = none ↔ labels.zone = "" ∨ ¬ Described labels.zone ts := by
  rcases cases_of_ofTags labels ts with ⟨-, heq⟩ | ⟨hc, pre, hpre, heq⟩
  · rw [heq, zone_seen]
    by_cases hz : labels.zone = "" <;> simp [hz, lastName_eq_none_iff]
  · rw [heq, zone_seen, if_pos hc.zoneGiven, lastName_eq_none_iff]
    simp [hc.zoneGiven, hc.zone, hpre.zone]

theorem region_eq_none_iff : (ofTags labels {} ts).region = none ↔
    labels.region = "" ∨ labels.region = labels.zone ∨ ¬ Described labels.region ts := by
  rcases cases_of_ofTags labels ts with ⟨-, heq⟩ | ⟨hc, pre, hpre, heq⟩
  · rw [heq, region_seen]
    by_cases hr : labels.region = "" <;> by_cases hne : labels.region = labels.zone <;>
      simp [hr, hne, lastName_eq_none_iff]
  · rw [heq, region_seen, if_pos ⟨hc.regionGiven, hc.distinct⟩, lastName_eq_none_iff]
    simp [hc.regionGiven, hc.distinct, hc.region, hpre.region]

/-! ## The result of a lookup -/

theorem zone_found (hz : labels.zone ≠ "" → Described labels.zone ts) :
    ¬ (labels.zone ≠ "" ∧ (ofTags labels {} ts).zone = none) := by
  rw [zone_eq_none_iff]
  rintro ⟨hgiven, hempty | hno⟩
  · exact hgiven hempty
  · exact hno (hz hgiven)

theorem region_found
    (hr : labels.region ≠ "" → labels.region ≠ labels.zone ∧ Described labels.region ts) :
    ¬ (labels.region ≠ "" ∧ (ofTags labels {} ts).region = none) := by
  rw [region_eq_none_iff]
  rintro ⟨hgiven, hempty | hsame | hno⟩
  · exact hgiven hempty
  · exact (hr hgiven).1 hsame
  · exact hno (hr hgiven).2

theorem check_of_no_region (hr : labels.region ≠ "")
    (hnone : labels.region = labels.zone ∨ ¬ Described labels.region ts) :
    (ofTags labels {} ts).check labels host = .error (.zoneRegionNotFound
      ("region category " ++ labels.region ++ " does not match any tags for host " ++ host)) := by
  have hmissing : (ofTags labels {} ts).region = none := region_eq_none_iff.mpr (.inr hnone)
  unfold check
  rw [if_pos (by simp [hr, hmissing])]

theorem check_of_no_zone (hz : labels.zone ≠ "") (hnone : ¬ Described labels.zone ts)
    (hr : labels.region ≠ "" → labels.region ≠ labels.zone ∧ Described labels.region ts) :
    (ofTags labels {} ts).check labels host = .error (.zoneRegionNotFound
      ("zone category " ++ labels.zone ++ " does not match any tags for host " ++ host)) := by
  have hmissing : (ofTags labels {} ts).zone = none := zone_eq_none_iff.mpr (.inr hnone)
  have hregion := region_found hr
  unfold check
  rw [if_neg (by simpa using hregion), if_pos (by simp [hz, hmissing])]

theorem check_of_described (hz : labels.zone ≠ "" → Described labels.zone ts)
    (hr : labels.region ≠ "" → labels.region ≠ labels.zone ∧ Described labels.region ts) :
    (ofTags labels {} ts).check labels host = .ok (ofTags labels {} ts) := by
  have hzone := zone_found hz
  have hregion := region_found hr
  unfold check
  rw [if_neg (by simpa using hregion), if_neg (by simpa using hzone)]

/-- A lookup succeeds exactly if every category that is looked up has a tag and the two are told apart. -/
theorem check_eq_ok_iff {zr : ZoneRegion} : (ofTags labels {} ts).check labels host = .ok zr ↔
    (labels.zone ≠ "" → Described labels.zone ts) ∧
      (labels.region ≠ "" → labels.region ≠ labels.zone ∧ Described labels.region ts) ∧
        zr = ofTags labels {} ts := by
  constructor
  · intro h
    have hr : labels.region ≠ "" → labels.region ≠ labels.zone ∧ Described labels.region ts := by
      intro hgiven
      by_contra hnone
      rw [check_of_no_region hgiven (by tauto)] at h
      cases h
    have hz : labels.zone ≠ "" → Described labels.zone ts := by
      intro hgiven
      by_contra hnone
      rw [check_of_no_zone hgiven hnone hr] at h
      cases h
    rw [check_of_described hz hr] at h
    exact ⟨hz, hr, (Except.ok.inj h).symm⟩
  · rintro ⟨hz, hr, rfl⟩
    exact check_of_described hz hr

/-- What a lookup gives if every category that is looked up has a tag. A category that is not looked up has
no value, and one that is looked up alone the name of its last tag. Two categories have the names of their
last tags in the shortest front part that has tags of both. -/
structure Latest (labels : Config.Labels) (ts : List Tag) (zr : ZoneRegion) : Prop where
  noZone : labels.zone = "" → zr.zone = none
  noRegion : labels.region = "" → zr.region = none
  loneZone : labels.zone ≠ "" → labels.region = "" → zr.zone = lastName labels.zone ts
  loneRegion : labels.zone = "" → labels.region ≠ "" → zr.region = lastName labels.region ts
  both : labels.zone ≠ "" → labels.region ≠ "" → ∃ pre, Decisive labels ts pre ∧
    zr.zone = lastName labels.zone pre ∧ zr.region = lastName labels.region pre

theorem zone_of_lone (hz : labels.zone ≠ "") (hr : labels.region = "") :
    (ofTags labels {} ts).zone = lastName labels.zone ts := by
  rcases cases_of_ofTags labels ts with ⟨-, heq⟩ | ⟨hc, -⟩
  · rw [heq, zone_seen, if_pos hz]
  · exact absurd hr hc.regionGiven

theorem region_of_lone (hz : labels.zone = "") (hr : labels.region ≠ "") :
    (ofTags labels {} ts).region = lastName labels.region ts := by
  rcases cases_of_ofTags labels ts with ⟨-, heq⟩ | ⟨hc, -⟩
  · rw [heq, region_seen, if_pos ⟨hr, fun hsame => hr (hsame.trans hz)⟩]
  · exact absurd hz hc.zoneGiven

theorem exists_decisive (hc : Complete labels ts) : ∃ pre, Decisive labels ts pre ∧
    (ofTags labels {} ts).zone = lastName labels.zone pre ∧
      (ofTags labels {} ts).region = lastName labels.region pre := by
  rcases cases_of_ofTags labels ts with ⟨hnot, -⟩ | ⟨-, pre, hpre, heq⟩
  · exact absurd hc hnot
  · refine ⟨pre, hpre, ?_, ?_⟩
    · rw [heq, zone_seen, if_pos hc.zoneGiven]
    · rw [heq, region_seen, if_pos ⟨hc.regionGiven, hc.distinct⟩]

theorem latest_ofTags (hz : labels.zone ≠ "" → Described labels.zone ts)
    (hr : labels.region ≠ "" → labels.region ≠ labels.zone ∧ Described labels.region ts) :
    Latest labels ts (ofTags labels {} ts) where
  noZone hzone := zone_eq_none_iff.mpr (.inl hzone)
  noRegion hregion := region_eq_none_iff.mpr (.inl hregion)
  loneZone := zone_of_lone
  loneRegion := region_of_lone
  both hzone hregion := exists_decisive ⟨hzone, hregion, (hr hregion).1, hz hzone, (hr hregion).2⟩

end ZoneRegion

namespace Pool

open ZoneRegion

variable {p : Pool} {tenant host : String} {e : Endpoint} {ys : List interface.Exchange} {ts : List Tag}
  {labels : Config.Labels} {r : Result ZoneRegion}

/-- A lookup of zone and region that connects to the endpoint by these exchanges and is then told these tags
of the host returns this. -/
def Reads (p : Pool) (tenant : String) (e : Endpoint) (ys : List interface.Exchange) (host : String)
    (ts : List Tag) (labels : Config.Labels) (r : Result ZoneRegion) : Prop :=
  (p.zoneOfHost tenant host labels).Yields (ys ++ [⟨.session e.tenant (.hostTags host), .ok ts⟩]) r

theorem reads_iff (he : p.endpoint tenant = .ok e) (hconnect : (p.connectEndpoint e).Yields ys (.ok ())) :
    Reads p tenant e ys host ts labels r ↔
      r = (ofTags labels {} ts).check labels host := by
  unfold Reads zoneOfHost
  rw [he]
  constructor
  · intro h
    obtain ⟨xs, reached, zs, hreach, hrest, hsplit⟩ := yields_bind_iff.mp h
    obtain ⟨-, rfl, rfl⟩ := hconnect.append_inj hreach hsplit
    obtain ⟨_, told, _, htold, hret, heq⟩ := yields_bind_iff.mp hrest
    rw [yields_ask_iff.mp htold] at heq
    obtain ⟨hfirst, -⟩ := List.cons.inj heq
    cases hfirst
    exact (yields_pure_iff.mp hret).2
  · rintro rfl
    refine yields_bind_iff.mpr ⟨ys, .ok (), _, hconnect, ?_, rfl⟩
    exact yields_bind_iff.mpr ⟨_, .ok ts, [], yields_ask_iff.mpr rfl, .ret _, rfl⟩

/-- The tags of a host determine the result of a lookup at an endpoint that can be connected, if the two
categories differ or one of them is not looked up. It succeeds exactly if every category that is looked up
has a tag; otherwise it names the region if that has none, and else the zone. -/
theorem reads_latest (he : p.endpoint tenant = .ok e) (hconnect : (p.connectEndpoint e).Yields ys (.ok ()))
    (hlabels : labels.zone ≠ labels.region ∨ labels.zone = "" ∨ labels.region = "") :
    ∃ res, (∀ r, Reads p tenant e ys host ts labels r ↔ r = res) ∧
      ((∃ zr, res = .ok zr) ↔
        ∀ label ∈ [labels.zone, labels.region], label ≠ "" → Described label ts) ∧
      (labels.region ≠ "" → ¬ Described labels.region ts →
        res = .error (.zoneRegionNotFound
          ("region category " ++ labels.region ++ " does not match any tags for host " ++ host))) ∧
      (labels.zone ≠ "" → ¬ Described labels.zone ts →
        (labels.region ≠ "" → Described labels.region ts) →
        res = .error (.zoneRegionNotFound
          ("zone category " ++ labels.zone ++ " does not match any tags for host " ++ host))) ∧
      ∀ zr, res = .ok zr → Latest labels ts zr := by
  refine ⟨_, fun r => reads_iff he hconnect, ?_, ?_, ?_, ?_⟩
  · simp only [check_eq_ok_iff, List.mem_cons, List.not_mem_nil, or_false, forall_eq_or_imp,
      forall_eq]
    constructor
    · rintro ⟨zr, hz, hr, -⟩
      exact ⟨hz, fun hgiven => (hr hgiven).2⟩
    · rintro ⟨hz, hr⟩
      refine ⟨_, hz, fun hgiven => ⟨?_, hr hgiven⟩, rfl⟩
      rintro hsame
      rcases hlabels with hne | hzone | hregion
      · exact hne hsame.symm
      · exact hgiven (hsame.trans hzone)
      · exact hgiven hregion
  · intro hgiven hnone
    exact check_of_no_region hgiven (.inr hnone)
  · intro hgiven hnone hr
    refine check_of_no_zone hgiven hnone fun hregion => ⟨?_, hr hregion⟩
    intro hsame
    exact hnone (hsame ▸ hr hregion)
  · intro zr hok
    obtain ⟨hz, hr, rfl⟩ := check_eq_ok_iff.mp hok
    exact latest_ofTags hz hr

/-- The exchanges by which an endpoint is connected at once. -/
def connected : List interface.Exchange :=
  [⟨.lock, ()⟩, ⟨.session "a" .connect, .ok ()⟩, ⟨.unlock, ()⟩]

theorem yields_connected :
    (pair.connectEndpoint (endpointAt "a" "10.0.0.1")).Yields connected (.ok ()) :=
  yields_connectEndpoint_iff.mpr (.settled (.ok ()) nofun)

/-- The tags of a host in two zones of a region. -/
def twoZones : List Tag :=
  [⟨"zone-1", "k8s-zone"⟩, ⟨"region-1", "k8s-region"⟩, ⟨"zone-2", "k8s-zone"⟩]

/-- Of two zones the host has the one that its tags name before its region. -/
theorem reads_latest_twoZones :
    ∃ res, (∀ r, Reads pair "a" (endpointAt "a" "10.0.0.1") connected "host-1" twoZones
        ⟨"k8s-zone", "k8s-region"⟩ r ↔ r = res) ∧
      res = .ok ⟨some "zone-1", some "region-1"⟩ ∧
        Latest ⟨"k8s-zone", "k8s-region"⟩ twoZones ⟨some "zone-1", some "region-1"⟩ := by
  obtain ⟨res, hres, -, -, -, hlatest⟩ := @reads_latest pair "a" "host-1" _ _ twoZones
    ⟨"k8s-zone", "k8s-region"⟩ rfl yields_connected (.inl (by decide))
  have hok : res = .ok ⟨some "zone-1", some "region-1"⟩ :=
    ((hres _).mp ((reads_iff rfl yields_connected).mpr rfl)).symm
  exact ⟨res, hres, hok, hlatest _ hok⟩

/-! ## Two categories and each alone -/

section Each

variable {z r : String}

theorem mk_of_parts {zr : ZoneRegion} {a b : Option String} (hzone : zr.zone = a) (hregion : zr.region = b) :
    zr = ⟨a, b⟩ := by
  subst hzone hregion
  rfl

theorem reads_zone_iff {a : ZoneRegion} (he : p.endpoint tenant = .ok e)
    (hconnect : (p.connectEndpoint e).Yields ys (.ok ())) (hz : z ≠ "") :
    Reads p tenant e ys host ts ⟨z, ""⟩ (.ok a) ↔
      Described z ts ∧ a = ⟨lastName z ts, none⟩ := by
  rw [reads_iff he hconnect, eq_comm, check_eq_ok_iff]
  have hvalue : ofTags ⟨z, ""⟩ {} ts = ⟨lastName z ts, none⟩ :=
    mk_of_parts (zone_of_lone hz rfl) (region_eq_none_iff.mpr (.inl rfl))
  simp [hz, hvalue]

theorem reads_region_iff {b : ZoneRegion} (he : p.endpoint tenant = .ok e)
    (hconnect : (p.connectEndpoint e).Yields ys (.ok ())) (hr : r ≠ "") :
    Reads p tenant e ys host ts ⟨"", r⟩ (.ok b) ↔
      Described r ts ∧ b = ⟨none, lastName r ts⟩ := by
  rw [reads_iff he hconnect, eq_comm, check_eq_ok_iff]
  have hvalue : ofTags ⟨"", r⟩ {} ts = ⟨none, lastName r ts⟩ :=
    mk_of_parts (zone_eq_none_iff.mpr (.inl rfl)) (region_of_lone rfl hr)
  simp [hr, hvalue]

theorem reads_both_iff {zr : ZoneRegion} (he : p.endpoint tenant = .ok e)
    (hconnect : (p.connectEndpoint e).Yields ys (.ok ())) (hz : z ≠ "") (hr : r ≠ "") :
    Reads p tenant e ys host ts ⟨z, r⟩ (.ok zr) ↔
      z ≠ r ∧ ∃ pre, Decisive ⟨z, r⟩ ts pre ∧
        zr = ⟨lastName z pre, lastName r pre⟩ := by
  rw [reads_iff he hconnect, eq_comm, check_eq_ok_iff]
  constructor
  · rintro ⟨hzone, hregion, rfl⟩
    obtain ⟨hne, hregion⟩ := hregion hr
    have hc : Complete ⟨z, r⟩ ts := ⟨hz, hr, hne, hzone hz, hregion⟩
    obtain ⟨pre, hpre, hz', hr'⟩ := exists_decisive hc
    exact ⟨Ne.symm hne, pre, hpre, mk_of_parts hz' hr'⟩
  · rintro ⟨hne, pre, hpre, rfl⟩
    have hzone : Described z ts := hpre.zone.mono hpre.front
    have hregion : Described r ts := hpre.region.mono hpre.front
    have hc : Complete ⟨z, r⟩ ts := ⟨hz, hr, Ne.symm hne, hzone, hregion⟩
    obtain ⟨pre', hpre', hz', hr'⟩ := exists_decisive hc
    obtain rfl : pre = pre' := hpre.unique hpre'
    exact ⟨fun _ => hzone, fun _ => ⟨Ne.symm hne, hregion⟩, (mk_of_parts hz' hr').symm⟩

/-- A lookup for two categories goes on until both have a tag, and gives what the lookups for each of them
give for the tags up to there. It succeeds if both succeed, unless the two are one and the same category:
then the region is always missing. A value is that of the lookup for its category alone exactly if the tags
that follow name no other value. -/
theorem reads_both (he : p.endpoint tenant = .ok e) (hconnect : (p.connectEndpoint e).Yields ys (.ok ()))
    (hz : z ≠ "") (hr : r ≠ "") :
    ((∃ zr, Reads p tenant e ys host ts ⟨z, r⟩ (.ok zr)) ↔
      z ≠ r ∧ (∃ a, Reads p tenant e ys host ts ⟨z, ""⟩ (.ok a)) ∧
        ∃ b, Reads p tenant e ys host ts ⟨"", r⟩ (.ok b)) ∧
    (z = r → Reads p tenant e ys host ts ⟨z, r⟩ (.error (.zoneRegionNotFound
      ("region category " ++ r ++ " does not match any tags for host " ++ host)))) ∧
    ∀ zr a b, Reads p tenant e ys host ts ⟨z, r⟩ (.ok zr) →
      Reads p tenant e ys host ts ⟨z, ""⟩ (.ok a) → Reads p tenant e ys host ts ⟨"", r⟩ (.ok b) →
      ∃ pre rest, ts = pre ++ rest ∧ Decisive ⟨z, r⟩ ts pre ∧
        Reads p tenant e ys host pre ⟨z, ""⟩ (.ok ⟨zr.zone, none⟩) ∧
        Reads p tenant e ys host pre ⟨"", r⟩ (.ok ⟨none, zr.region⟩) ∧
        (zr.zone = a.zone ↔ ∀ n, lastName z rest = some n → zr.zone = some n) ∧
        (zr.region = b.region ↔ ∀ n, lastName r rest = some n → zr.region = some n) := by
  refine ⟨?_, ?_, ?_⟩
  · constructor
    · rintro ⟨zr, hboth⟩
      obtain ⟨hne, pre, hpre, -⟩ := (reads_both_iff he hconnect hz hr).mp hboth
      refine ⟨hne, ⟨_, (reads_zone_iff he hconnect hz).mpr ⟨?_, rfl⟩⟩,
        ⟨_, (reads_region_iff he hconnect hr).mpr ⟨?_, rfl⟩⟩⟩
      · exact hpre.zone.mono hpre.front
      · exact hpre.region.mono hpre.front
    · rintro ⟨hne, ⟨a, ha⟩, ⟨b, hb⟩⟩
      have hc : Complete ⟨z, r⟩ ts := ⟨hz, hr, Ne.symm hne,
        ((reads_zone_iff he hconnect hz).mp ha).1, ((reads_region_iff he hconnect hr).mp hb).1⟩
      obtain ⟨pre, hpre, -⟩ := exists_decisive hc
      exact ⟨_, (reads_both_iff he hconnect hz hr).mpr ⟨hne, pre, hpre, rfl⟩⟩
  · rintro rfl
    have hmissing : (ofTags ⟨z, z⟩ {} ts).check ⟨z, z⟩ host =
        .error (.zoneRegionNotFound
          ("region category " ++ z ++ " does not match any tags for host " ++ host)) :=
      check_of_no_region hz (.inl rfl)
    exact (reads_iff he hconnect).mpr hmissing.symm
  · intro zr a b hboth ha hb
    obtain ⟨hne, pre, hpre, rfl⟩ := (reads_both_iff he hconnect hz hr).mp hboth
    obtain ⟨-, rfl⟩ := (reads_zone_iff he hconnect hz).mp ha
    obtain ⟨-, rfl⟩ := (reads_region_iff he hconnect hr).mp hb
    obtain ⟨rest, rfl⟩ := hpre.front
    refine ⟨pre, rest, rfl, hpre, ?_, ?_, lastName_eq_append_iff, lastName_eq_append_iff⟩
    · exact (reads_zone_iff he hconnect hz).mpr ⟨hpre.zone, rfl⟩
    · exact (reads_region_iff he hconnect hr).mpr ⟨hpre.region, rfl⟩

/-- With a region only the tags before the last zone count, and a category that is both never has a
region. -/
theorem reads_both_twoZones :
    (∃ pre rest, twoZones = pre ++ rest ∧ Decisive ⟨"k8s-zone", "k8s-region"⟩ twoZones pre ∧
      Reads pair "a" (endpointAt "a" "10.0.0.1") connected "host-1" pre ⟨"k8s-zone", ""⟩
        (.ok ⟨some "zone-1", none⟩) ∧
      ∃ n, lastName "k8s-zone" rest = some n ∧ n ≠ "zone-1") ∧
    Reads pair "a" (endpointAt "a" "10.0.0.1") connected "host-1" twoZones ⟨"k8s-zone", "k8s-zone"⟩
      (.error (.zoneRegionNotFound
        "region category k8s-zone does not match any tags for host host-1")) := by
  have he : pair.endpoint "a" = .ok (endpointAt "a" "10.0.0.1") := rfl
  have hboth : Reads pair "a" (endpointAt "a" "10.0.0.1") connected "host-1" twoZones
      ⟨"k8s-zone", "k8s-region"⟩ (.ok ⟨some "zone-1", some "region-1"⟩) :=
    (reads_iff he yields_connected).mpr rfl
  have hzone : Reads pair "a" (endpointAt "a" "10.0.0.1") connected "host-1" twoZones
      ⟨"k8s-zone", ""⟩ (.ok ⟨some "zone-2", none⟩) := (reads_iff he yields_connected).mpr rfl
  have hregion : Reads pair "a" (endpointAt "a" "10.0.0.1") connected "host-1" twoZones
      ⟨"", "k8s-region"⟩ (.ok ⟨none, some "region-1"⟩) := (reads_iff he yields_connected).mpr rfl
  obtain ⟨-, -, hfront⟩ := @reads_both pair "a" "host-1" _ _ twoZones "k8s-zone" "k8s-region" he
    yields_connected (by decide) (by decide)
  obtain ⟨pre, rest, hsplit, hpre, hfirst, -, hagree, -⟩ := hfront _ _ _ hboth hzone hregion
  obtain ⟨-, hsame, -⟩ := @reads_both pair "a" "host-1" _ _ twoZones "k8s-zone" "k8s-zone" he
    yields_connected (by decide) (by decide)
  refine ⟨⟨pre, rest, hsplit, hpre, hfirst, ?_⟩, hsame rfl⟩
  by_contra hnone
  push Not at hnone
  have hone : some "zone-1" = some "zone-2" := hagree.mpr fun n hn => congrArg some (hnone n hn).symm
  exact absurd hone (by decide)

/-- Two categories are not looked up independently. The region of a host can change its zone, and a category
that is found both as zone and as region is not found as both at once. -/
theorem exists_reads_apart :
    (Reads pair "a" (endpointAt "a" "10.0.0.1") connected "host-1" twoZones ⟨"k8s-zone", ""⟩
        (.ok ⟨some "zone-2", none⟩) ∧
      Reads pair "a" (endpointAt "a" "10.0.0.1") connected "host-1" twoZones ⟨"", "k8s-region"⟩
        (.ok ⟨none, some "region-1"⟩) ∧
      Reads pair "a" (endpointAt "a" "10.0.0.1") connected "host-1" twoZones
        ⟨"k8s-zone", "k8s-region"⟩ (.ok ⟨some "zone-1", some "region-1"⟩)) ∧
    Reads pair "a" (endpointAt "a" "10.0.0.1") connected "host-1" twoZones ⟨"", "k8s-zone"⟩
        (.ok ⟨none, some "zone-2"⟩) ∧
      ¬ ∃ zr, Reads pair "a" (endpointAt "a" "10.0.0.1") connected "host-1" twoZones
        ⟨"k8s-zone", "k8s-zone"⟩ (.ok zr) := by
  have he : pair.endpoint "a" = .ok (endpointAt "a" "10.0.0.1") := rfl
  refine ⟨⟨?_, ?_, ?_⟩, ?_, ?_⟩
  · exact (reads_iff he yields_connected).mpr rfl
  · exact (reads_iff he yields_connected).mpr rfl
  · exact (reads_iff he yields_connected).mpr rfl
  · exact (reads_iff he yields_connected).mpr rfl
  · rintro ⟨zr, h⟩
    cases (reads_iff he yields_connected).mp h

end Each

end Pool

end NodeAtlas
