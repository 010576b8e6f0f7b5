import Mathlib.Data.List.Induction
import ParkFusion.Proofs.MinuteBound

namespace ParkFusion.Quota

namespace Window

variable {w w' : Window} {limit now delay start : Nat}

theorem claim_eq_error_iff : w.claim limit now = .error delay ↔
    ∃ start, w.started = some start ∧ now < start + length ∧ limit ≤ w.count ∧
      now + delay = start + length := by
  constructor
  · intro h
    have hrunning : w.isRunning now := by
      by_contra hover
      rw [claim_of_not_isRunning hover] at h
      cases h
    obtain ⟨start, hstarted, hnow⟩ := isRunning_iff.mp hrunning
    obtain ⟨start', hstarted', hcount, hdelay⟩ := claim_eq_error h
    obtain rfl := Option.some.inj (hstarted.symm.trans hstarted')
    exact ⟨start, hstarted, hnow, hcount, hdelay⟩
  · rintro ⟨start, hstarted, hnow, hcount, hdelay⟩
    have hfinish : w.finish = start + length := by rw [finish, hstarted]
    have hspent : (w.isRunning now && decide (limit ≤ w.count)) = true := by
      rw [Bool.and_eq_true, decide_eq_true_iff]
      exact ⟨isRunning_iff.mpr ⟨start, hstarted, hnow⟩, hcount⟩
    rw [claim, if_pos hspent, hfinish]
    exact congrArg Except.error (by omega)

/-- A slot is one more of the running window, or the first one of a new window. -/
theorem claim_eq_ok (h : w.claim limit now = .ok w') :
    (∃ start, w.started = some start ∧ w' = ⟨some start, w.count + 1⟩) ∨ w' = ⟨some now, 1⟩ := by
  have htake : w.takeSlot now = w' := by
    unfold claim at h
    split at h
    · cases h
    · exact Except.ok.inj h
  rw [← htake, takeSlot]
  split
  · rename_i hrunning
    obtain ⟨start, hstarted, -⟩ := isRunning_iff.mp hrunning
    rw [hstarted]
    exact Or.inl ⟨start, rfl, rfl⟩
  · exact Or.inr rfl

theorem claim_of_over (hstarted : w.started = some start) (hover : start + length ≤ now)
    (limit : Nat) : w.claim limit now = .ok ⟨some now, 1⟩ := by
  have hnot : ¬ w.isRunning now := by
    rw [isRunning_iff]
    rintro ⟨start', hstarted', hnow⟩
    obtain rfl := Option.some.inj (hstarted.symm.trans hstarted')
    omega
  rw [claim_of_not_isRunning hnot, takeSlot, if_neg hnot]

end Window

/-- A window, with all slots that were ever taken, latest first. -/
structure Tally where
  window : Window := {}
  taken : List Nat := []
  deriving DecidableEq, Repr

namespace Tally

/-- A claim that is denied leaves everything as it is. -/
def claim (limit : Nat) (tally : Tally) (now : Nat) : Tally :=
  match tally.window.claim limit now with
  | .ok w => ⟨w, now :: tally.taken⟩
  | .error _ => tally

def ofClaims (limit : Nat) (times : List Nat) : Tally :=
  times.foldl (claim limit) {}

/-- Whatever the window counts was taken since its start, and nothing is taken ahead of time. -/
structure Covers (limit now : Nat) (tally : Tally) : Prop where
  logs : tally.window.Logs limit now tally.taken
  past : ∀ t ∈ tally.taken, t ≤ now
  counted : ∀ start, tally.window.started = some start →
    tally.window.count ≤ since start tally.taken

/-- A denial that is called for. The window has no slot left, all of them having been taken since
its start, and the delay goes on until it is over and no longer. -/
structure Denies (limit now delay : Nat) (tally : Tally) : Prop where
  positive : 0 < delay
  le_length : delay ≤ Window.length
  length_le : Window.length ≤ now + delay
  spent : tally.taken.countP (fun t ↦ now + delay - Window.length ≤ t ∧ t ≤ now) = limit
  unchanged : tally.claim limit now = tally
  /-- A caller whose claim is denied leaves the whole memory as it is. -/
  asleep : ∀ (g : Governor) (mem : Memory), g.limit = limit → mem.window g.seat = tally.window →
    g.contend now mem = (.asleep delay, mem)
  denied : ∀ t, now ≤ t → t < now + delay →
    tally.window.claim limit t = .error (now + delay - t)
  granted : tally.window.claim limit (now + delay) = .ok ⟨some (now + delay), 1⟩

section Claims

variable {limit start now later delay : Nat} {w : Window} {tally : Tally} {times : List Nat}

theorem claim_of_ok (h : tally.window.claim limit now = .ok w) :
    tally.claim limit now = ⟨w, now :: tally.taken⟩ := by
  rw [claim, h]

theorem claim_of_error (h : tally.window.claim limit now = .error delay) :
    tally.claim limit now = tally := by
  rw [claim, h]

theorem ofClaims_concat (limit : Nat) (times : List Nat) (now : Nat) :
    ofClaims limit (times ++ [now]) = (ofClaims limit times).claim limit now := by
  rw [ofClaims, List.foldl_append]
  rfl

theorem Covers.mono (h : Covers limit now tally) (hle : now ≤ later) : Covers limit later tally :=
  ⟨h.logs.mono hle, fun t ht ↦ (h.past t ht).trans hle, h.counted⟩

theorem Covers.count_eq (h : Covers limit now tally)
    (hstarted : tally.window.started = some start) :
    start ≤ now ∧ tally.window.count ≤ limit ∧ since start tally.taken = tally.window.count := by
  have hlogs := h.logs
  unfold Window.Logs at hlogs
  rw [hstarted] at hlogs
  obtain ⟨hstart, hspaced⟩ := hlogs
  exact ⟨hstart, hspaced.count_le, hspaced.present.antisymm (h.counted start hstarted)⟩

theorem Covers.claim (h : Covers limit now tally) (hlimit : 0 < limit) (hle : now ≤ later) :
    Covers limit later (tally.claim limit later) := by
  have hlater := h.mono hle
  cases hclaim : tally.window.claim limit later with
  | error delay =>
    rw [claim_of_error hclaim]
    exact hlater
  | ok w =>
    rw [claim_of_ok hclaim]
    refine ⟨hlater.logs.claim hlimit hclaim, ?_, fun start hstart ↦ ?_⟩
    · intro t ht
      rcases List.mem_cons.mp ht with rfl | ht
      · exact Nat.le_refl t
      · exact hlater.past t ht
    · rw [since_cons]
      rcases Window.claim_eq_ok hclaim with ⟨begun, hbegun, rfl⟩ | rfl
      -- the slot is at or after the start in both cases, so that it is counted on both sides
      · obtain rfl := Option.some.inj hstart
        have hcounted := hlater.counted begun hbegun
        rw [if_pos (hlater.count_eq hbegun).1]
        exact Nat.succ_le_succ hcounted
      · obtain rfl := Option.some.inj hstart
        rw [if_pos (Nat.le_refl later)]
        exact Nat.le_add_left 1 _

theorem ofClaims_covers (hlimit : 0 < limit) (hsorted : (times ++ [now]).Pairwise (· ≤ ·)) :
    Covers limit now (ofClaims limit times) := by
  -- at each claim the invariant is taken up to the time of the next one
  induction times using List.reverseRecOn generalizing now with
  | nil => exact ⟨rfl, by simp [ofClaims], by simp [ofClaims]⟩
  | append_singleton times last ih =>
    obtain ⟨hbefore, -, hnow⟩ := List.pairwise_append.mp hsorted
    have hlast : last ≤ now := hnow last (by simp) now (by simp)
    rw [ofClaims_concat]
    exact ((ih hbefore).claim hlimit (Nat.le_refl last)).mono hlast

theorem Covers.denies (h : Covers limit now tally)
    (hdenied : tally.window.claim limit now = .error delay) : Denies limit now delay tally := by
  obtain ⟨start, hstarted, hnow, hcount, hdelay⟩ := Window.claim_eq_error_iff.mp hdenied
  obtain ⟨hstart, hle, hsince⟩ := h.count_eq hstarted
  have hspent : since start tally.taken = limit := hsince.trans (hle.antisymm hcount)
  have hback : now + delay - Window.length = start := by omega
  refine ⟨by omega, by omega, by omega, ?_, claim_of_error hdenied, ?_, ?_, ?_⟩
  · rw [hback, ← hspent]
    refine List.countP_congr fun t ht ↦ ?_
    simp [h.past t ht]
  · rintro g mem rfl hwindow
    exact Governor.contend_of_spent (hwindow ▸ hdenied)
  · intro t ht hlt
    exact Window.claim_eq_error_iff.mpr ⟨start, hstarted, by omega, hcount, by omega⟩
  · exact Window.claim_of_over hstarted (by omega) limit

/-- Whatever was claimed before, a claim is denied only when the window is full, and the delay is
what is left of it. -/
theorem ofClaims_denies (hlimit : 0 < limit) (hsorted : (times ++ [now]).Pairwise (· ≤ ·))
    (hdenied : (ofClaims limit times).window.claim limit now = .error delay) :
    Denies limit now delay (ofClaims limit times) :=
  (ofClaims_covers hlimit hsorted).denies hdenied

/-- A window that has rolled over once is full again. -/
theorem ofClaims_denies_rollover :
    (0 < 2 ∧ ([0, 20000, 30000, 61000, 70000] ++ [80000]).Pairwise (· ≤ ·) ∧
      (ofClaims 2 [0, 20000, 30000, 61000, 70000]).window.claim 2 80000 = .error 41000) ∧
    Denies 2 80000 41000 (ofClaims 2 [0, 20000, 30000, 61000, 70000]) := by
  have hsorted : ([0, 20000, 30000, 61000, 70000] ++ [80000]).Pairwise (· ≤ ·) := by decide
  have hdenied : (ofClaims 2 [0, 20000, 30000, 61000, 70000]).window.claim 2 80000 =
      .error 41000 := by
    rfl
  exact ⟨⟨by decide, hsorted, hdenied⟩, ofClaims_denies (by decide) hsorted hdenied⟩

end Claims

end Tally

end ParkFusion.Quota
