import ParkFusion.Proofs.Fleet

namespace ParkFusion.Quota

/-! Programs of callers that share a memory, as they look to whoever interleaves them: each is run
on all that its caller has learnt so far, and so comes to the move that the caller makes next. -/

/-- What a caller does that others can notice. -/
inductive Move
  | step (change : Nat → Memory → Memory)
  | pause (duration : Nat)
  | request

/-- What a caller learns by a move. -/
inductive Notice (ρ : Type)
  | seen (now : Nat) (mem : Memory)
  | rested
  | replied (reply : ρ)

/-- A program that reads notices. It ends with a result, or with the move of which it has no notice
yet. -/
abbrev Replay (ρ : Type) := StateT (List (Notice ρ)) (Except Move)

namespace Replay

variable {ρ : Type}

instance : Atomic (Replay ρ) where
  step f
    | .seen now mem :: notices => .ok ((f now mem).1, notices)
    | _ => .error (.step fun now mem ↦ (f now mem).2)

instance : Clock (Replay ρ) where
  now := Atomic.step fun now mem ↦ (now, mem)
  pause duration
    | .rested :: notices => .ok (⟨⟩, notices)
    | _ => .error (.pause duration)

/-- The request that the caller is there for. -/
def request : Replay ρ ρ
  | .replied reply :: notices => .ok (reply, notices)
  | _ => .error .request

end Replay

namespace Governor

variable {ρ β α : Type} {g : Governor}

theorem await_bind (g : Governor) (next : Except Failure Unit → Replay ρ β) :
    (g.await : Replay ρ (Except Failure Unit)) >>= next =
      Atomic.step g.contend >>= fun turn ↦
        match turn with
        | .released => next (.ok ())
        | .refused f => next (.error f)
        | .asleep delay => Clock.pause delay >>= fun _ ↦ g.await >>= next := by
  conv_lhs =>
    unfold await
    rw [repeatM_eq_of_monadTail]
    unfold repeatM.body
  rw [bind_assoc, bind_assoc]
  refine bind_congr fun turn ↦ ?_
  cases turn with
  | released => rfl
  | refused f => rfl
  | asleep delay =>
    dsimp only
    rw [bind_assoc]
    rfl

theorem acquire_bind (g : Governor) (next : Except Failure Unit → Replay ρ β) :
    (g.acquire : Replay ρ (Except Failure Unit)) >>= next =
      g.checkOpen >>= fun opened ↦
        match opened with
        | .error f => next (.error f)
        | .ok () => g.await >>= next := by
  unfold acquire
  rw [bind_assoc]
  refine bind_congr fun opened ↦ ?_
  cases opened with
  | error f => rfl
  | ok _ => rfl

section Run

variable (g : Governor) (next : Except Failure Unit → Replay ρ β)
variable (now : Nat) (mem : Memory) (later : List (Notice ρ))

theorem acquire_run_nil : ((g.acquire : Replay ρ _) >>= next).run [] =
    .error (.step fun _ mem ↦ mem) := by
  rw [acquire_bind]
  rfl

theorem acquire_run_seen : ((g.acquire : Replay ρ _) >>= next).run (.seen now mem :: later) =
    match g.ensureOpen now mem.store with
    | .error f => (next (.error f)).run later
    | .ok () => (g.await >>= next).run later := by
  rw [acquire_bind]
  change StateT.run (match g.ensureOpen now mem.store with
    | .error f => next (.error f)
    | .ok () => g.await >>= next) later = _
  cases g.ensureOpen now mem.store <;> rfl

theorem await_run_nil : ((g.await : Replay ρ _) >>= next).run [] =
    .error (.step fun now mem ↦ (g.contend now mem).2) := by
  rw [await_bind]
  rfl

theorem await_run_seen : ((g.await : Replay ρ _) >>= next).run (.seen now mem :: later) =
    match (g.contend now mem).1 with
    | .released => (next (.ok ())).run later
    | .refused f => (next (.error f)).run later
    | .asleep delay => (Clock.pause delay >>= fun _ ↦ g.await >>= next).run later := by
  conv_lhs => rw [await_bind]
  change StateT.run (match (g.contend now mem).1 with
    | .released => next (.ok ())
    | .refused f => next (.error f)
    | .asleep delay => Clock.pause delay >>= fun _ ↦ g.await >>= next) later = _
  cases (g.contend now mem).1 <;> rfl

end Run

end Governor

end ParkFusion.Quota
