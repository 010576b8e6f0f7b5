import ParkFusion.Hub.Providers
import ParkFusion.Proofs.Retries
import ParkFusion.World

namespace ParkFusion

namespace Backoff

section Within

variable {m : Type → Type} [Monad m] [Clock m] {α : Type}

/-- The same attempts with a wait of limited range. There is no outcome once doubling leaves it. -/
def persistWithin (limit : ℕ) (attempt : m (Except Failure α)) :
    ℕ → ℕ → m (Option (Except Failure α))
  | 0, _ => return some (← attempt)
  | left + 1, delay => do
    match ← attempt with
    | .error f =>
      if f.isTransient then
        Clock.pause delay
        if 2 * delay < limit then persistWithin limit attempt left (2 * delay)
        else return none
      else return some (.error f)
    | result => return some result

def runWithin (limit : ℕ) (b : Backoff) (attempt : m (Except Failure α)) :
    m (Option (Except Failure α)) :=
  persistWithin limit attempt (b.attempts - 1) b.delay

end Within

section Run

variable {σ α : Type} [Clock (StateM σ)] {attempt : StateM σ (Except Failure α)}
variable {outcome : Except Failure α} {w w' : σ} {f : Failure} {limit delay : ℕ}

theorem persistWithin_of_final (h : attempt.run w = (outcome, w'))
    (hfinal : mayPass outcome = false) (left delay : ℕ) :
    (persistWithin limit attempt left delay).run w = (some outcome, w') := by
  cases left with
  | zero =>
    rw [persistWithin, StateT.run_bind, h]
    rfl
  | succ left =>
    rw [persistWithin, StateT.run_bind, h]
    cases outcome with
    | ok a => rfl
    | error f =>
      have hf : f.isTransient = false := hfinal
      change StateT.run (if f.isTransient then _ else _) w' = _
      rw [hf]
      rfl

theorem persistWithin_of_transient (h : attempt.run w = (.error f, w')) (hf : f.isTransient)
    (left delay : ℕ) : (persistWithin limit attempt (left + 1) delay).run w =
      if 2 * delay < limit then
        (persistWithin limit attempt left (2 * delay)).run (sleep delay w')
      else (none, sleep delay w') := by
  rw [persistWithin, StateT.run_bind, h]
  change StateT.run (if f.isTransient then _ else _) w' = _
  rw [if_pos hf, StateT.run_bind]
  change StateT.run (if 2 * delay < limit then _ else _) (sleep delay w') = _
  split
  · rfl
  · rfl

theorem persistWithin_run (attempt : StateM σ (Except Failure α)) (h : delay < limit)
    (left : ℕ) (w : σ) :
    ∃ n, IsLast left (fun i ↦ (attempt.run (before attempt delay w i)).1) n ∧
      (delay * 2 ^ n < limit → (persistWithin limit attempt left delay).run w =
        ((persist attempt left delay).run w).map some id) ∧
      (limit ≤ delay * 2 ^ n → ((persistWithin limit attempt left delay).run w).1 = none) := by
  induction left generalizing delay w with
  | zero =>
    refine ⟨0, .zero (.inl rfl), fun _ ↦ rfl, fun hle ↦ ?_⟩
    omega
  | succ left ih =>
    rcases hrun : attempt.run w with ⟨outcome, w'⟩
    cases hpasses : mayPass outcome with
    | false =>
      refine ⟨0, .zero (.inr ?_), fun _ ↦ ?_, fun hle ↦ ?_⟩
      · rwa [before, hrun]
      · rw [persistWithin_of_final hrun hpasses, persist_of_final hrun hpasses]
        rfl
      · omega
    | true =>
      obtain ⟨f, rfl, hf⟩ := exists_of_mayPass hpasses
      have hw' : (attempt.run w).2 = w' := congrArg Prod.snd hrun
      have hpow (n : ℕ) : delay * 2 ^ (n + 1) = 2 * delay * 2 ^ n := by ring
      have hfirst : mayPass (attempt.run (before attempt delay w 0)).1 := by rwa [before, hrun]
      rw [persistWithin_of_transient hrun hf, persist_of_transient hrun hf]
      by_cases hfits : 2 * delay < limit
      · obtain ⟨n, hlast, heq, hnone⟩ := ih hfits (sleep delay w')
        simp only [← hw', ← before_succ] at hlast
        refine ⟨n + 1, hlast.succ hfirst, ?_⟩
        rw [if_pos hfits, hpow]
        exact ⟨heq, hnone⟩
      · -- out of range after the first sleep, and all the more at the last attempt
        obtain ⟨n, hlast, -⟩ := persist_run attempt left (2 * delay) (sleep delay w')
        simp only [← hw', ← before_succ] at hlast
        have hgrows : 2 * delay ≤ 2 * delay * 2 ^ n := Nat.le_mul_of_pos_right _ (Nat.two_pow_pos n)
        refine ⟨n + 1, hlast.succ hfirst, fun hlt ↦ ?_, fun _ ↦ ?_⟩
        · rw [hpow] at hlt
          omega
        · rw [if_neg hfits]

end Run

/-- Nothing but failures that may pass uses up all attempts. -/
theorem isLast_of_mayPass {α : Type} {left n : ℕ} {outcomes : ℕ → Except Failure α}
    (h : IsLast left outcomes n) (hpasses : ∀ i, mayPass (outcomes i)) : n = left := by
  by_contra hne
  have hfinal := h.final (lt_of_le_of_ne h.le hne)
  rw [hpasses n] at hfinal
  cases hfinal

/-- The wait stays in range in every run exactly if it does so when all attempts are used up. -/
theorem runWithin_eq_run_iff (α : Type) (b : Backoff) {limit : ℕ} (h : b.delay < limit) :
    (∀ (σ : Type) [Clock (StateM σ)] (attempt : StateM σ (Except Failure α)) (w : σ),
      (b.runWithin limit attempt).run w = ((b.run attempt).run w).map some id) ↔
        b.delay * 2 ^ (b.attempts - 1) < limit := by
  constructor
  · intro hall
    let outcomes (_ : ℕ) : Except Failure α := .error (.unavailable "" "")
    obtain ⟨n, hlast, -, hnone⟩ :=
      persistWithin_run (scripted outcomes) h (b.attempts - 1) {}
    simp only [before_scripted, scripted_run] at hlast
    obtain rfl := isLast_of_mayPass hlast fun _ ↦ rfl
    by_contra hle
    have hsome := congrArg Prod.fst (hall (Diary α) (scripted outcomes) {})
    rw [runWithin, hnone (Nat.le_of_not_lt hle)] at hsome
    cases hsome
  · intro hfits σ _ attempt w
    obtain ⟨n, hlast, heq, -⟩ := persistWithin_run attempt h (b.attempts - 1) w
    have hpow : 2 ^ n ≤ 2 ^ (b.attempts - 1) := Nat.pow_le_pow_right Nat.two_pos hlast.le
    exact heq ((Nat.mul_le_mul_left _ hpow).trans_lt hfits)

end Backoff

namespace SourceSettings

/-- Durations count their seconds with 64 bits. -/
def durationLimit : ℕ := 2 ^ 64 * 1000

variable (s : SourceSettings)

variable {s} in
/-- A block that is not out of range has all its minutes. -/
theorem toNat_of_blockSecs? {secs : UInt64} (h : s.blockSecs? = some secs) :
    secs.toNat = 60 * s.blockMinutes.toNat := by
  have hfits : s.blockMinutes.toNat * 60 < UInt64.size := by
    by_contra hover
    rw [blockSecs?, if_neg hover] at h
    cases h
  rw [blockSecs?, if_pos hfits] at h
  obtain rfl := Option.some.inj h
  rw [UInt64.toNat_mul, Nat.mul_comm 60]
  exact Nat.mod_eq_of_lt hfits

theorem blockSecs?_eq_none_iff :
    s.blockSecs? = none ↔ 307445734561825860 < s.blockMinutes.toNat := by
  have hsize : UInt64.size = 18446744073709551616 := rfl
  unfold blockSecs?
  split
  · exact iff_of_false (Option.some_ne_none _) (by omega)
  · exact iff_of_true rfl (by omega)

theorem delay_lt_durationLimit : s.backoff.delay < durationLimit := by
  have hlt : s.initialBackoffMs.toNat < 2 ^ 64 := s.initialBackoffMs.toNat_lt
  change s.initialBackoffMs.toNat < 2 ^ 64 * 1000
  omega

/-- No wait between attempts is out of range, however these end, exactly if this bound is kept. -/
theorem backoff_fits_iff (α : Type) :
    (∀ (σ : Type) [Clock (StateM σ)] (attempt : StateM σ (Except Failure α)) (w : σ),
      (s.backoff.runWithin durationLimit attempt).run w =
        ((s.backoff.run attempt).run w).map some id) ↔
        s.initialBackoffMs.toNat * 2 ^ (s.maxAttempts.toNat - 1) < durationLimit := by
  have hleft : s.backoff.attempts - 1 = s.maxAttempts.toNat - 1 := by
    change max s.maxAttempts.toNat 1 - 1 = _
    omega
  rw [Backoff.runWithin_eq_run_iff α s.backoff s.delay_lt_durationLimit, hleft]
  rfl

end SourceSettings

namespace Settings

/-- The settings with other ones for one source. -/
def modify (s : Settings) (f : SourceSettings → SourceSettings) (p : Provider) : Settings :=
  { s with sources := s.sources.modify f p }

theorem faults_modify (s : Settings) (p : Provider) {f : SourceSettings → SourceSettings}
    (hattempts : ∀ source, (f source).maxAttempts = source.maxAttempts)
    (hrequests : ∀ source, (f source).requestsPerMinute = source.requestsPerMinute) :
    (s.modify f p).faults = s.faults := by
  have hget (q : Provider) :
      ((s.sources.modify f p).get q).maxAttempts = (s.sources.get q).maxAttempts ∧
        ((s.sources.modify f p).get q).requestsPerMinute =
          (s.sources.get q).requestsPerMinute := by
    cases p <;> cases q <;> simp [SourceTable.modify, SourceTable.get, hattempts, hrequests]
  unfold faults
  congr 2
  funext q
  obtain ⟨ha, hr⟩ := hget q
  simp only [modify, ha, hr]

/-- Whether settings are accepted does not depend on the times in them. -/
theorem check_times (s : Settings) (p : Provider) (block delay : UInt64) :
    (s.modify (fun source ↦ { source with blockMinutes := block, initialBackoffMs := delay })
      p).check.isOk = s.check.isOk := by
  unfold check
  rw [faults_modify]
  · cases s.faults with
    | nil => rfl
    | cons fault rest => rfl
  · exact fun _ ↦ rfl
  · exact fun _ ↦ rfl

theorem mapM_eq_none_iff {α β : Type} {f : α → Option β} {items : List α} :
    items.mapM f = none ↔ ∃ item ∈ items, f item = none := by
  induction items with
  | nil => simp
  | cons item items ih =>
    cases hitem : f item with
    | none => simp [hitem]
    | some value =>
      cases hrest : items.mapM f with
      | none => simpa [hitem, hrest] using ih.mp hrest
      | some values => simpa [hitem, hrest] using ih

/-- There is no hub exactly if a source is enabled whose block is out of range. -/
theorem ofProviders?_eq_none_iff {m : Type → Type} [Monad m] [Clock m] [Network m]
    [MonadStateOf Quota.Memory m] (s : Settings) :
    (Hub.ofProviders? s : Option (Hub m)) = none ↔
      s.sources.wartezeiten.enabled ∧ s.sources.wartezeiten.blockSecs? = none := by
  have hhub : (Hub.ofProviders? s : Option (Hub m)) = none ↔ ∃ p ∈ s.enabled,
      (p.adapter? 0 (s.sources.get p) : Option (Adapter m)) = none := by
    rw [← mapM_eq_none_iff]
    unfold Hub.ofProviders?
    exact Option.bind_eq_none_iff.trans (by simp [Option.eq_none_iff_forall_ne_some])
  rw [hhub]
  constructor
  · rintro ⟨p, hp, hnone⟩
    have henabled := (List.mem_filter.mp hp).2
    cases p with
    | wartezeiten => exact ⟨henabled, Option.map_eq_none_iff.mp (Option.map_eq_none_iff.mp hnone)⟩
    | _ => cases hnone
  · rintro ⟨henabled, hblock⟩
    refine ⟨.wartezeiten, List.mem_filter.mpr ⟨by decide, henabled⟩, ?_⟩
    exact Option.map_eq_none_iff.mpr (Option.map_eq_none_iff.mpr hblock)

/-- One minute more than 64 bits can hold in seconds, and the longest wait there is. -/
def longTimes : Settings where
  sources := { wartezeiten := {
    blockMinutes := 307445734561825861
    initialBackoffMs := 18446744073709551615
    maxAttempts := 11 } }

theorem longTimes_outOfRange :
    longTimes.check.isOk ∧ (Hub.ofProviders? longTimes : Option (Hub (StateM World))) = none ∧
      ((longTimes.sources.wartezeiten.backoff.runWithin SourceSettings.durationLimit
        (Backoff.scripted fun _ ↦ (.error (.unavailable "" "") : Except Failure Unit))).run {}).1 =
          none := by
  refine ⟨by decide +kernel, ?_, by decide +kernel⟩
  rw [ofProviders?_eq_none_iff, SourceSettings.blockSecs?_eq_none_iff]
  decide +kernel

end Settings

end ParkFusion
