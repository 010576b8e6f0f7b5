import ParkFusion.Proofs.EffectiveOrder
import ParkFusion.Proofs.Ranking
import ParkFusion.Proofs.WellFormed

namespace ParkFusion

/-- What every source replies when it is asked for live data on a park, and where the questions that
were asked stand, each as the source and the id of the park. -/
structure LiveScript (σ : Type) where
  reply (source park : String) : Except Failure LiveReport
  asked : σ → List (String × String)

/-- A source that replies by the script, and whose questions are all recorded. -/
structure Adapter.Follows {σ : Type} (script : LiveScript σ) (a : Adapter (StateM σ)) : Prop where
  reply : ∀ park s, ((a.live park).run s).1 = script.reply a.id park
  asked : ∀ park s, script.asked ((a.live park).run s).2 = script.asked s ++ [(a.id, park)]

namespace LiveScript

variable {σ : Type} (script : LiveScript σ) (ids : List (String × String))

/-- The report of a source on a park, if the source has an id for the park and answers. -/
def report? (source : String) : Option LiveReport :=
  (ids.lookup source).bind fun park ↦ (script.reply source park).toOption

def answers (source : String) : Bool :=
  (script.report? ids source).isSome

/-- The reports that some sources give. -/
def reports (adapters : List (Adapter (StateM σ))) : List (String × LiveReport) :=
  adapters.filterMap fun a ↦ (script.report? ids a.id).map (a.id, ·)

variable {script ids} {adapters survivors : List (Adapter (StateM σ))}

theorem reports_ids : (script.reports ids adapters).map (·.1) =
    (adapters.map (·.id)).filter (script.answers ids) := by
  induction adapters with
  | nil => rfl
  | cons a adapters ih =>
    cases hr : script.report? ids a.id with
    | none =>
      have hsilent : ¬ script.answers ids a.id := by simp [answers, hr]
      rw [List.map_cons, List.filter_cons_of_neg hsilent, ← ih, reports, reports,
        List.filterMap_cons_none (by rw [hr]; rfl)]
    | some report =>
      have hanswers : script.answers ids a.id := by simp [answers, hr]
      rw [List.map_cons, List.filter_cons_of_pos hanswers, ← ih, reports, reports,
        List.filterMap_cons_some (by rw [hr]; rfl), List.map_cons]

theorem reports_nodup (hd : (adapters.map (·.id)).Nodup) :
    ((script.reports ids adapters).map (·.1)).Nodup := by
  rw [reports_ids]
  exact hd.filter (script.answers ids)

theorem reports_answers {entry : String × LiveReport} (he : entry ∈ script.reports ids adapters) :
    script.answers ids entry.1 := by
  have hm : entry.1 ∈ (adapters.map (·.id)).filter (script.answers ids) := by
    rw [← reports_ids]
    exact List.mem_map_of_mem he
  exact (List.mem_filter.mp hm).2

theorem reports_eq_nil :
    script.reports ids adapters = [] ↔ ∀ a ∈ adapters, ¬ script.answers ids a.id := by
  rw [← List.map_eq_nil_iff, reports_ids, List.filter_eq_nil_iff, List.forall_mem_map]

theorem reports_filter : script.reports ids (adapters.filter (script.answers ids ·.id)) =
    script.reports ids adapters := by
  rw [reports, reports, List.filterMap_filter]
  refine List.filterMap_congr fun a _ ↦ ?_
  cases hr : script.report? ids a.id with
  | none => simp [answers, hr]
  | some report => simp [answers, hr]

theorem reports_perm (hp : survivors.Perm (adapters.filter (script.answers ids ·.id))) :
    (script.reports ids survivors).Perm (script.reports ids adapters) := by
  have hfilter : script.reports ids (adapters.filter (script.answers ids ·.id)) =
      script.reports ids adapters := reports_filter
  rw [← hfilter]
  exact hp.filterMap _

end LiveScript

namespace Hub

variable {σ : Type} {script : LiveScript σ} {hub : Hub (StateM σ)} {ids : List (String × String)}

def liveReplies (hub : Hub (StateM σ)) (ids : List (String × String)) :
    StateM σ (List (String × Except Failure LiveReport)) :=
  (knowing ids hub.adapters).mapM fun (a, park) ↦ return (a.id, ← a.live park)

theorem mem_knowing {call : Adapter (StateM σ) × String} {adapters : List (Adapter (StateM σ))} :
    call ∈ knowing ids adapters ↔ call.1 ∈ adapters ∧ ids.lookup call.1.id = some call.2 := by
  simp only [knowing, List.mem_filterMap, Option.map_eq_some_iff]
  constructor
  · rintro ⟨a, ha, park, hl, rfl⟩
    exact ⟨ha, hl⟩
  · rintro ⟨ha, hl⟩
    exact ⟨call.1, ha, call.2, hl, rfl⟩

/-- The questions that some sources are asked about a park. -/
def calls (ids : List (String × String)) (adapters : List (Adapter (StateM σ))) :
    List (String × String) :=
  (knowing ids adapters).map fun call ↦ (call.1.id, call.2)

theorem mem_calls {adapters : List (Adapter (StateM σ))} {source park : String} :
    (source, park) ∈ calls ids adapters ↔
      source ∈ adapters.map (·.id) ∧ ids.lookup source = some park := by
  simp only [calls, List.mem_map, mem_knowing, Prod.mk.injEq]
  constructor
  · rintro ⟨call, ⟨ha, hl⟩, rfl, rfl⟩
    exact ⟨⟨call.1, ha, rfl⟩, hl⟩
  · rintro ⟨⟨a, ha, rfl⟩, hl⟩
    exact ⟨(a, park), ⟨ha, hl⟩, rfl, rfl⟩

theorem calls_sources_nodup {adapters : List (Adapter (StateM σ))}
    (hd : (adapters.map (·.id)).Nodup) : ((calls ids adapters).map (·.1)).Nodup := by
  rw [calls, List.map_map]
  exact (knowing_ids_sublist ids adapters).nodup hd

theorem liveReplies_reply
    (hr : ∀ a ∈ hub.adapters, ∀ park s, ((a.live park).run s).1 = script.reply a.id park) (s : σ) :
    ((hub.liveReplies ids).run s).1 =
      (knowing ids hub.adapters).map fun call ↦ (call.1.id, script.reply call.1.id call.2) := by
  rw [← List.map_id ((hub.liveReplies ids).run s).1]
  refine run_mapM_map (fun call hc s ↦ ?_) s
  have hreply := hr call.1 (mem_knowing.mp hc).1 call.2 s
  exact congrArg (call.1.id, ·) hreply

theorem liveReplies_asked (hf : ∀ a ∈ hub.adapters, a.Follows script) (s : σ) :
    script.asked ((hub.liveReplies ids).run s).2 =
      script.asked s ++ calls ids hub.adapters := by
  refine run_mapM_record (fun call hc s ↦ ?_) s
  exact (hf call.1 (mem_knowing.mp hc).1).asked call.2 s

theorem reports_of_knowing (adapters : List (Adapter (StateM σ))) :
    ((knowing ids adapters).map fun call ↦ (call.1.id, script.reply call.1.id call.2)).filterMap
      (fun (id, reply) ↦ reply.toOption.map (id, ·)) = script.reports ids adapters := by
  rw [List.filterMap_map, knowing, List.filterMap_filterMap, LiveScript.reports]
  refine List.filterMap_congr fun a _ ↦ ?_
  rw [LiveScript.report?]
  cases ids.lookup a.id with
  | none => rfl
  | some park => rfl

theorem resolve_asked (hf : ∀ a ∈ hub.adapters, a.Follows script) (park : String) (s : σ) :
    script.asked ((hub.resolve park ids).run s).2 =
      script.asked s ++ calls ids hub.adapters :=
  liveReplies_asked hf s

theorem resolve_reports
    (hr : ∀ a ∈ hub.adapters, ∀ park s, ((a.live park).run s).1 = script.reply a.id park)
    (park : String) (s : σ) :
    ((hub.resolve park ids).run s).1 =
      if (script.reports ids hub.adapters).isEmpty then .error ⟨park⟩
      else Merge.resolve hub.policy hub.ranking (script.reports ids hub.adapters) := by
  have hrun : ((hub.resolve park ids).run s).1 =
      let reports := ((hub.liveReplies ids).run s).1.filterMap
        fun (id, reply) ↦ reply.toOption.map (id, ·)
      if reports.isEmpty then .error ⟨park⟩ else Merge.resolve hub.policy hub.ranking reports := rfl
  rw [hrun, liveReplies_reply hr, reports_of_knowing]

/-- Either nobody answers and there is no data, or the answers are merged. -/
theorem resolve_cases (hd : (hub.adapters.map (·.id)).Nodup)
    (hf : ∀ a ∈ hub.adapters, a.Follows script) (park : String) (ids : List (String × String))
    (s : σ) :
    ((∀ a ∈ hub.adapters, ¬ script.answers ids a.id) ∧
      ((hub.resolve park ids).run s).1 = .error ⟨park⟩) ∨
    ((∃ a ∈ hub.adapters, script.answers ids a.id) ∧
      ∃ resolution, ((hub.resolve park ids).run s).1 = .ok resolution) := by
  rw [resolve_reports fun a ha ↦ (hf a ha).reply]
  by_cases hnil : script.reports ids hub.adapters = []
  · rw [hnil]
    exact Or.inl ⟨LiveScript.reports_eq_nil.mp hnil, rfl⟩
  · have hanswers : ∃ a ∈ hub.adapters, script.answers ids a.id := by
      simpa [LiveScript.reports_eq_nil] using hnil
    have hempty : ¬ (script.reports ids hub.adapters).isEmpty := by simpa using hnil
    rw [if_neg hempty]
    exact Or.inr ⟨hanswers, Merge.resolve_ok (LiveScript.reports_nodup hd) hnil⟩

theorem resolve_survivors {hub' : Hub (StateM σ)} (hd : (hub.adapters.map (·.id)).Nodup)
    (hf : ∀ a ∈ hub.adapters, a.Follows script) (hpolicy : hub'.policy = hub.policy)
    (hp : hub'.adapters.Perm (hub.adapters.filter (script.answers ids ·.id)))
    (park : String) (s s' : σ) :
    ((hub'.resolve park ids).run s').1 = ((hub.resolve park ids).run s).1 := by
  have hf' : ∀ a ∈ hub'.adapters, a.Follows script :=
    fun a ha ↦ hf a (List.mem_of_mem_filter (hp.subset ha))
  have hreports := LiveScript.reports_perm hp
  have hempty : (script.reports ids hub'.adapters).isEmpty =
      (script.reports ids hub.adapters).isEmpty := hreports.isEmpty_eq
  have hmerge : Merge.resolve hub.policy (hub.ranking.filter (script.answers ids))
      (script.reports ids hub'.adapters) =
      Merge.resolve hub.policy hub.ranking (script.reports ids hub.adapters) := by
    refine Merge.resolve_filter (LiveScript.reports_nodup hd) hreports fun entry he ↦ ?_
    exact LiveScript.reports_answers he
  rw [resolve_reports fun a ha ↦ (hf' a ha).reply, resolve_reports fun a ha ↦ (hf a ha).reply,
    hempty, hpolicy, ranking_filter hd hp hpolicy, hmerge]

/-- What a question for live data comes to, whichever of the sources answer it. -/
structure Isolates (script : LiveScript σ) (settings : Settings)
    (adapters : List (Adapter (StateM σ))) (park : String) (ids : List (String × String)) (s : σ) :
    Prop where
  /-- Each source that has an id for the park is asked once, by this id, and no other is. -/
  asked : ∃ calls,
    script.asked (((ofAdapters settings adapters).resolve park ids).run s).2 =
        script.asked s ++ calls ∧
      (calls.map (·.1)).Nodup ∧
      ∀ source id, (source, id) ∈ calls ↔
        source ∈ adapters.map (·.id) ∧ ids.lookup source = some id
  noData : (((ofAdapters settings adapters).resolve park ids).run s).1 = .error ⟨park⟩ ↔
    ∀ a ∈ adapters, ¬ script.answers ids a.id
  merged : (∃ a ∈ adapters, script.answers ids a.id) →
    ∃ resolution, (((ofAdapters settings adapters).resolve park ids).run s).1 = .ok resolution
  /-- The sources that failed might as well not have been registered. -/
  survivors : ∀ (survivors : List (Adapter (StateM σ))) (s' : σ),
    survivors.Perm (adapters.filter (script.answers ids ·.id)) →
      (((ofAdapters settings survivors).resolve park ids).run s').1 =
        (((ofAdapters settings adapters).resolve park ids).run s).1

theorem resolve_isolates (settings : Settings) {adapters : List (Adapter (StateM σ))}
    (hd : (adapters.map (·.id)).Nodup) (hf : ∀ a ∈ adapters, a.Follows script)
    (park : String) (ids : List (String × String)) (s : σ) :
    Isolates script settings adapters park ids s := by
  have hadapters := ofAdapters_adapters settings hd
  have hd' : ((ofAdapters settings adapters).adapters.map (·.id)).Nodup :=
    ofAdapters_ids_nodup settings adapters
  have hf' : ∀ a ∈ (ofAdapters settings adapters).adapters, a.Follows script := by
    rwa [hadapters]
  have hcases := resolve_cases hd' hf' park ids s
  rw [hadapters] at hcases
  constructor
  case asked =>
    have hasked : script.asked (((ofAdapters settings adapters).resolve park ids).run s).2 =
        script.asked s ++ calls ids (ofAdapters settings adapters).adapters :=
      resolve_asked hf' park s
    rw [hadapters] at hasked
    exact ⟨_, hasked, calls_sources_nodup hd, fun _ _ ↦ mem_calls⟩
  case noData =>
    constructor
    · intro herror
      rcases hcases with ⟨hsilent, -⟩ | ⟨-, resolution, hok⟩
      · exact hsilent
      · cases herror.symm.trans hok
    · intro hsilent
      rcases hcases with ⟨-, herror⟩ | ⟨⟨a, ha, hanswers⟩, -⟩
      · exact herror
      · exact absurd hanswers (hsilent a ha)
  case merged =>
    rintro ⟨a, ha, hanswers⟩
    rcases hcases with ⟨hsilent, -⟩ | ⟨-, hok⟩
    · exact absurd hanswers (hsilent a ha)
    · exact hok
  case survivors =>
    intro survivors s' hp
    have hids : (survivors.map (·.id)).Nodup :=
      (hp.map (·.id)).nodup_iff.mpr (hd.sublist (List.filter_sublist.map _))
    refine resolve_survivors hd' hf' ?_ ?_ park s s'
    · rw [ofAdapters_policy, ofAdapters_policy]
    · rwa [hadapters, ofAdapters_adapters settings hids]

/-- One source is out of order; the others report on every park that they are asked for. -/
def outage : LiveScript (List (String × String)) where
  reply source park :=
    if source = "themeparks-wiki" then .error (.rejected source 503 "maintenance")
    else .ok { source := source, parkExternalId := park, fetchedAt := .epoch }
  asked := id

/-- A source that replies by the script and writes down what it was asked. -/
def recorded (id : String) : Adapter (StateM (List (String × String))) :=
  { Adapter.fixed id (.ok []) with
    live := fun park ↦ do
      modify (· ++ [(id, park)])
      return outage.reply id park }

/-- The source that is out of order, one that answers, and one that does not know the park. -/
def outageSources : List (Adapter (StateM (List (String × String)))) :=
  [recorded "themeparks-wiki", recorded "queue-times", recorded "wartezeiten"]

def outageIds : List (String × String) :=
  [("queue-times", "56"), ("themeparks-wiki", "phantasialand")]

theorem recorded_follows (id : String) : (recorded id).Follows outage :=
  ⟨fun _ _ ↦ rfl, fun _ _ ↦ rfl⟩

theorem resolve_isolates_outage :
    (outageSources.map (·.id)).Nodup ∧ (∀ a ∈ outageSources, a.Follows outage) ∧
      (∃ a ∈ outageSources, outage.answers outageIds a.id) ∧
      (∃ a ∈ outageSources, ¬ outage.answers outageIds a.id) ∧
      Isolates outage {} outageSources "phl" outageIds [] := by
  have hids : (outageSources.map (·.id)).Nodup := by decide
  have hfollows : ∀ a ∈ outageSources, a.Follows outage := by
    simp [outageSources, recorded_follows]
  have hanswers : ∃ a ∈ outageSources, outage.answers outageIds a.id :=
    ⟨recorded "queue-times", by simp [outageSources], by decide⟩
  have hsilent : ∃ a ∈ outageSources, ¬ outage.answers outageIds a.id :=
    ⟨recorded "themeparks-wiki", by simp [outageSources], by decide⟩
  exact ⟨hids, hfollows, hanswers, hsilent, resolve_isolates {} hids hfollows "phl" outageIds []⟩

end Hub

end ParkFusion
