import ParkFusion.Proofs.Tries
import ParkFusion.Provider.Wartezeiten

namespace ParkFusion.Wartezeiten

open Document Quota Session

variable {service : Service} {α : Type} {g : Governor} {s : SourceSettings} {seat : Nat}
variable {t t₁ t₂ t₃ : Session service} {e : Entry} {park : String} {f : Failure}

def client (s : SourceSettings) : Http.Client :=
  ⟨Provider.wartezeiten.id, Http.trimSlashes (s.baseUrl.getD Provider.wartezeiten.defaultUrl)⟩

def headers (park : Option String) : List (String × String) :=
  (match park with
    | some id => [("park", id)]
    | none => []) ++ [("language", language)]

/-- The request for a path, if the address and the headers can be sent. -/
def request? (s : SourceSettings) (path : String) (park : Option String) : Option Http.Request :=
  (client s).request? path (headers park)

theorem exists_of_governor? (h : governor? s seat = some g) : ∃ secs, s.blockSecs? = some secs ∧
    g.source = Provider.wartezeiten.id ∧ g.block = secs.toNat * 1000 := by
  obtain ⟨secs, hsecs, rfl⟩ := Option.map_eq_some_iff.mp h
  exact ⟨secs, hsecs, rfl, rfl⟩

theorem ask_asks (hs : 1 ≤ s.maxAttempts) (hg : g.source = Provider.wartezeiten.id)
    (decode : Document → Option α) (path : String) (park : Option String) :
    Asks g (request? s path park) decode s.maxAttempts.toNat
      (ask g s decode path park : Call service α) := by
  have hcount : s.backoff.attempts - 1 + 1 = s.maxAttempts.toNat := by
    have hpos : 1 ≤ s.maxAttempts.toNat := UInt32.le_iff_toNat_le.mp hs
    change max s.maxAttempts.toNat 1 - 1 + 1 = _
    omega
  have hcall : Asks g (request? s path park) decode 1
      (g.call ((client s).get decode path (headers park)) : Call service α) :=
    call_asks hg.symm path (headers park) decode
  rw [← hcount]
  exact persist_asks hcall _ _

theorem ask_of_lease (he : g.lease t.store = some e) (h : t.now < e.expiry)
    (decode : Document → Option α) (path : String) (park : Option String) :
    ∃ f, (ask g s decode path park : Call service α).run t = (.error f, t) := by
  have hacquire := Governor.acquire_of_lease (w := t) he h
  exact ⟨_, Backoff.persist_of_final (Governor.call_of_refused hacquire _) rfl _ _⟩

theorem askParks_of_lease (he : g.lease t.store = some e) (h : t.now < e.expiry) :
    ∃ f, (askParks g s : Call service (List ListedPark)).run t = (.error f, t) :=
  ask_of_lease he h ..

theorem askWaits_of_lease (he : g.lease t.store = some e) (h : t.now < e.expiry)
    (park : String) :
    ∃ f, (askWaits g s park : Call service (List WaitEntry)).run t = (.error f, t) :=
  ask_of_lease he h ..

theorem askHealth_of_lease (he : g.lease t.store = some e) (h : t.now < e.expiry) :
    (askHealth g s : Call service Bool).run t =
      (.error (.quotaExceeded g.source (e.expiry - t.now)), t) := by
  have hopen : g.ensureOpen t.now t.store = _ := Governor.ensureOpen_of_lease he h
  have hcheck : (g.checkOpen : StateM (Session service) (Except Failure Unit)).run t =
      (g.ensureOpen t.now t.store, t) := g.checkOpen_run t
  unfold askHealth
  rw [StateT.run_bind, hcheck, hopen]
  rfl

theorem askLive_of_error
    (h : (askWaits g s park : Call service (List WaitEntry)).run t = (.error f, t₁)) :
    (askLive g s park : Call service LiveReport).run t = (.error f, t₁) := by
  unfold askLive
  rw [StateT.run_bind, h]
  rfl

theorem askLive_of_ok {waits : List WaitEntry} {crowd : Except Failure CrowdLevel}
    {times : Except Failure (List OpeningEntry)}
    (hwaits : (askWaits g s park : Call service (List WaitEntry)).run t = (.ok waits, t₁))
    (hcrowd : (ask g s crowdLevelOfDocument? "/v1/crowdlevel" (some park) :
      Call service CrowdLevel).run t₁ = (crowd, t₂))
    (htimes : (ask g s (list? OpeningEntry.ofDocument?) "/v1/openingtimes" (some park) :
      Call service (List OpeningEntry)).run t₂ = (times, t₃)) :
    (askLive g s park : Call service LiveReport).run t = (.ok {
      source := Provider.wartezeiten.id
      parkExternalId := park
      entities := waits.map WaitEntry.toLive
      crowdLevel := crowd.toOption
      openingHours := times.toOption.bind hoursOf
      fetchedAt := service.date t₃.now }, t₃) := by
  unfold askLive
  rw [StateT.run_bind, hwaits]
  change StateT.run (ask g s crowdLevelOfDocument? "/v1/crowdlevel" (some park) >>= _) t₁ = _
  rw [StateT.run_bind, hcrowd]
  change StateT.run
    (ask g s (list? OpeningEntry.ofDocument?) "/v1/openingtimes" (some park) >>= _) t₂ = _
  rw [StateT.run_bind, htimes]
  rfl

/-- What is asked of any adapter that shares the store, or the time that passes in between. -/
inductive Operation
  | wait (duration : Nat)
  | parks (s : SourceSettings) (seat : Nat)
  | entities (s : SourceSettings) (seat : Nat) (park : String)
  | live (s : SourceSettings) (seat : Nat) (park : String)
  | healthy (s : SourceSettings) (seat : Nat)

namespace Operation

def duration : Operation → Nat
  | wait duration => duration
  | _ => 0

/-- Asks the adapter with the settings, if there is one. -/
def onAdapter (t : Session service) (s : SourceSettings) (seat : Nat)
    (ask : Adapter (StateM (Session service)) → Session service) : Session service :=
  match governor? s seat with
  | some g => ask (adapter g s)
  | none => t

def apply (t : Session service) : Operation → Session service
  | wait duration => t.wait duration
  | parks s seat => onAdapter t s seat fun a ↦ (a.parks.run t).2
  | entities s seat park => onAdapter t s seat fun a ↦ ((a.entities park).run t).2
  | live s seat park => onAdapter t s seat fun a ↦ ((a.live park).run t).2
  | healthy s seat => onAdapter t s seat fun a ↦ (a.healthy.run t).2

def run (t : Session service) (ops : List Operation) : Session service :=
  ops.foldl apply t

theorem onAdapter_of_idle {ask : Adapter (StateM (Session service)) → Session service}
    (h : ∀ g, g.source = Provider.wartezeiten.id → ask (adapter g s) = t) :
    onAdapter t s seat ask = t := by
  unfold onAdapter
  split
  · rename_i g hg
    obtain ⟨-, -, hsource, -⟩ := exists_of_governor? hg
    exact h g hsource
  · rfl

/-- While the source is blocked, all that happens is that time passes. -/
theorem apply_of_lease (hg : g.source = Provider.wartezeiten.id) (he : g.lease t.store = some e)
    (h : t.now < e.expiry) (op : Operation) : op.apply t = t.wait op.duration := by
  have he' : ∀ g' : Governor, g'.source = Provider.wartezeiten.id → g'.lease t.store = some e :=
    fun g' hg' ↦ (Governor.lease_congr (hg'.trans hg.symm) t.store).trans he
  cases op with
  | wait duration => rfl
  | parks s seat =>
    change onAdapter t s seat (fun a ↦ (a.parks.run t).2) = t
    refine onAdapter_of_idle fun g' hg' ↦ ?_
    obtain ⟨f, hask⟩ := askParks_of_lease (s := s) (he' g' hg') h
    change (StateT.run ((askParks g' s : Call service (List ListedPark)) >>= _) t).2 = t
    rw [StateT.run_bind, hask]
    rfl
  | entities s seat park =>
    change onAdapter t s seat (fun a ↦ ((a.entities park).run t).2) = t
    refine onAdapter_of_idle fun g' hg' ↦ ?_
    obtain ⟨f, hask⟩ := askWaits_of_lease (s := s) (he' g' hg') h park
    change (StateT.run ((askWaits g' s park : Call service (List WaitEntry)) >>= _) t).2 = t
    rw [StateT.run_bind, hask]
    rfl
  | live s seat park =>
    change onAdapter t s seat (fun a ↦ ((a.live park).run t).2) = t
    refine onAdapter_of_idle fun g' hg' ↦ ?_
    obtain ⟨f, hask⟩ := askWaits_of_lease (s := s) (he' g' hg') h park
    exact congrArg Prod.snd (askLive_of_error hask)
  | healthy s seat =>
    change onAdapter t s seat (fun a ↦ (a.healthy.run t).2) = t
    exact onAdapter_of_idle fun g' hg' ↦ congrArg Prod.snd (askHealth_of_lease (he' g' hg') h)

theorem run_of_lease {ops : List Operation} (hg : g.source = Provider.wartezeiten.id)
    (he : g.lease t.store = some e)
    (h : t.now + (ops.map duration).sum < e.expiry) :
    run t ops = t.wait (ops.map duration).sum := by
  induction ops generalizing t with
  | nil => rfl
  | cons op ops ih =>
    rw [List.map_cons, List.sum_cons] at h ⊢
    have hnow : (t.wait op.duration).now = t.now + op.duration := rfl
    have hrest : run (t.wait op.duration) ops = _ := ih he (by omega)
    change run (op.apply t) ops = _
    rw [apply_of_lease hg he (by omega), hrest, wait_wait]

end Operation

/-- The tries to get what stands at a path are as few as the settings allow, and there is one of
them if the source is ready and there is something to send. -/
structure Sends (s : SourceSettings) (path park : String) (ready : Prop) (tries : List Exchange) :
    Prop where
  length_le : tries.length ≤ s.maxAttempts.toNat
  request : ∀ x ∈ tries, request? s path (some park) = some x.request
  asked : ready → (request? s path (some park)).isSome → tries ≠ []

theorem Sends.mono {path : String} {ready ready' : Prop} {tries : List Exchange}
    (h : Sends s path park ready tries) (hready : ready' → ready) :
    Sends s path park ready' tries :=
  { h with asked := fun h' ↦ h.asked (hready h') }

theorem Sends.none {ready : Prop} (h : ¬ ready) (path : String) : Sends s path park ready [] where
  length_le := Nat.zero_le _
  request := nofun
  asked hready := absurd hready h

/-- The value in the first reply that has one. -/
def firstValue? (decode : Document → Option α) (tries : List Exchange) : Option α :=
  tries.findSome? (·.value? Provider.wartezeiten.id decode)

/-- What a fetch of a park's live data sends and what it gives: there is a report if and only if the
waits can be had, and what says that the quota was exceeded is the last that is sent, by whatever
adapter, while the source is blocked. -/
structure FetchesLive (s : SourceSettings) (g : Governor) (park : String) (t : Session service)
    (result : Except Failure LiveReport) (t' : Session service)
    (waits crowd times : List Exchange) : Prop where
  log : t'.log = t.log ++ (waits ++ crowd ++ times)
  sentWaits : Sends s "/v1/waitingtimes" park (g.Ready t.now t.store) waits
  sentCrowd : Sends s "/v1/crowdlevel" park
    (g.Ready t.now t.store ∧ result.isOk) crowd
  sentTimes : Sends s "/v1/openingtimes" park (g.Ready t.now t.store ∧
    result.isOk ∧ ∀ x ∈ crowd, x.exceedsQuota = false) times
  report : result.toOption =
    (firstValue? (list? WaitEntry.ofDocument?) waits).map fun entries ↦ {
      source := Provider.wartezeiten.id
      parkExternalId := park
      entities := entries.map WaitEntry.toLive
      crowdLevel := firstValue? crowdLevelOfDocument? crowd
      openingHours := (firstValue? (list? OpeningEntry.ofDocument?) times).bind hoursOf
      fetchedAt := service.date t'.now }
  halts : s.blockSecs? ≠ some 0 → Halts g t' (waits ++ crowd ++ times)
  silent (e : Entry) : g.lease t'.store = some e → ∀ ops : List Operation,
    t'.now + (ops.map Operation.duration).sum < e.expiry → (Operation.run t' ops).log = t'.log

theorem ask_tries (hs : 1 ≤ s.maxAttempts) (hg : g.source = Provider.wartezeiten.id) (decode : Document → Option α)
    (path park : String) (t : Session service) :
    ∃ tries result t',
      (ask g s decode path (some park) : Call service α).run t = (result, t') ∧
        Sends s path park (g.Ready t.now t.store) tries ∧
          result.toOption = firstValue? decode tries ∧
            Tries g (request? s path (some park)) decode t result t' tries := by
  obtain ⟨tries, hlength, htries⟩ := ask_asks hs hg decode path (some park) t
  have hvalue := htries.value
  rw [hg] at hvalue
  exact ⟨tries, _, _, rfl, ⟨hlength, htries.sent, htries.asked⟩, hvalue, htries⟩

theorem ask_idle {result : Except Failure α} {decode : Document → Option α} {path : String}
    {park : Option String}
    (hrun : (ask g s decode path park : Call service α).run t = (result, t₁))
    (h : ¬ g.IsOpen t.now t.store) : t₁ = t := by
  unfold Governor.IsOpen at h
  push Not at h
  obtain ⟨e, he, hlive⟩ := h
  obtain ⟨f, hask⟩ := ask_of_lease he hlive decode path park
  rw [hrun] at hask
  exact congrArg Prod.snd hask

theorem block_pos (hg : governor? s seat = some g) (h : s.blockSecs? ≠ some 0) : 0 < g.block := by
  obtain ⟨secs, hsecs, -, hblock⟩ := exists_of_governor? hg
  have hpos : 0 < secs.toNat := by
    refine Nat.pos_of_ne_zero fun hzero ↦ h (hsecs.trans (congrArg some ?_))
    exact UInt64.toNat_inj.mp hzero
  omega

theorem silent_of_lease (hg : g.source = Provider.wartezeiten.id)
    (he : g.lease t.store = some e) {ops : List Operation}
    (h : t.now + (ops.map Operation.duration).sum < e.expiry) :
    (Operation.run t ops).log = t.log := by
  rw [Operation.run_of_lease hg he h]
  rfl

theorem live_stopsAtQuota (s : SourceSettings) (seat : Nat) (park : String)
    (hs : 1 ≤ s.maxAttempts) (hg : governor? s seat = some g) (t : Session service) :
    ∃ result t' waits crowd times,
      ((adapter g s).live park : Call service LiveReport).run t = (result, t') ∧
        FetchesLive s g park t result t' waits crowd times := by
  obtain ⟨-, -, hsource, -⟩ := exists_of_governor? hg
  change ∃ result t' waits crowd times,
    (askLive g s park : Call service LiveReport).run t = (result, t') ∧ _
  obtain ⟨waits, asked, t₁, hwaits, hsends, hvalue, htries⟩ :=
    ask_tries hs hsource (list? WaitEntry.ofDocument?) "/v1/waitingtimes" park t
  cases asked with
  | error f =>
    refine ⟨.error f, t₁, waits, [], [], askLive_of_error hwaits, ?_⟩
    constructor
    case log => rw [List.append_nil, List.append_nil, htries.log]
    case sentWaits => exact hsends
    case sentCrowd => exact .none (fun h ↦ nomatch h.2) _
    case sentTimes => exact .none (fun h ↦ nomatch h.2.1) _
    case report =>
      rw [← hvalue]
      rfl
    case halts =>
      rw [List.append_nil, List.append_nil]
      exact fun _ ↦ htries.toHalts
    case silent => exact fun e he ops ↦ silent_of_lease hsource he
  | ok entries =>
    obtain ⟨crowd, level, t₂, hcrowd, hsends₂, hvalue₂, htries₂⟩ :=
      ask_tries hs hsource crowdLevelOfDocument? "/v1/crowdlevel" park t₁
    obtain ⟨times, hours, t₃, htimes, hsends₃, hvalue₃, htries₃⟩ :=
      ask_tries hs hsource (list? OpeningEntry.ofDocument?) "/v1/openingtimes" park t₂
    have hready : g.Ready t.now t.store → g.Ready t₁.now t₁.store :=
      fun h ↦ htries.ready h htries.not_exceeded
    refine ⟨_, t₃, waits, crowd, times, askLive_of_ok hwaits hcrowd htimes, ?_⟩
    constructor
    case log =>
      rw [htries₃.log, htries₂.log, htries.log, List.append_assoc, List.append_assoc,
        List.append_assoc]
    case sentWaits => exact hsends
    case sentCrowd => exact hsends₂.mono fun h ↦ hready h.1
    case sentTimes => exact hsends₃.mono fun h ↦ htries₂.ready (hready h.1) h.2.2
    case report =>
      rw [← hvalue, ← hvalue₂, ← hvalue₃]
      rfl
    case halts =>
      intro hblock
      have hpos := block_pos hg hblock
      exact (htries.toHalts.append_tries hpos htries₂ (ask_idle hcrowd)).append_tries hpos htries₃
        (ask_idle htimes)
    case silent => exact fun e he ops ↦ silent_of_lease hsource he

/-- Out of order at first, and out of quota when it is asked for the crowd level. -/
def crowded : Service where
  answer log _ :=
    (some (match log.length with
      | 0 => { status := 503 }
      | 1 => { status := 200, body := "[]" }
      | _ => { status := 429 }), 40)
  date _ := .epoch

/-- The governor of an adapter with no settings of its own. -/
def usual : Governor :=
  .ofQuota "wartezeiten" 60 900000 0

theorem live_stopsAtQuota_crowded :
    1 ≤ ({} : SourceSettings).maxAttempts ∧ governor? {} 0 = some usual ∧
    ∃ result t' waits crowd times,
      ((adapter usual {}).live "phantasialand" : Call crowded LiveReport).run {} = (result, t') ∧
        FetchesLive {} usual "phantasialand" {} result t' waits crowd times ∧
          t'.log.map (·.exceedsQuota) = [false, false, true] := by
  have hs : 1 ≤ ({} : SourceSettings).maxAttempts := by decide
  have hg : governor? {} 0 = some usual := rfl
  obtain ⟨result, t', waits, crowd, times, hrun, hfetches⟩ :=
    live_stopsAtQuota {} 0 "phantasialand" hs hg ({} : Session crowded)
  refine ⟨hs, hg, result, t', waits, crowd, times, hrun, hfetches, ?_⟩
  have ht' : (((adapter usual {}).live "phantasialand" : Call crowded LiveReport).run {}).2 = t' :=
    congrArg Prod.snd hrun
  rw [← ht']
  simp only [adapter, askLive, askWaits, ask, Governor.call, Governor.acquire_eq]
  decide +kernel

end ParkFusion.Wartezeiten
