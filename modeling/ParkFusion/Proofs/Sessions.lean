import ParkFusion.Http.Client
import ParkFusion.Proofs.GovernorRuns

namespace ParkFusion

open Quota

structure Exchange where
  request : Http.Request
  reply : Option Http.Reply

/-- What is replied to a request after all that came before, and how long that takes; and the date
at any time. -/
structure Service where
  answer : List Exchange → Http.Request → Option Http.Reply × Nat
  date : Nat → Instant

/-- A world with such a service, in which all exchanges are kept. -/
structure Session (service : Service) where
  now : Nat := 0
  memory : Memory := {}
  log : List Exchange := []

/-- A computation in such a world that may fail. -/
abbrev Session.Call (service : Service) (α : Type) :=
  StateM (Session service) (Except Failure α)

namespace Exchange

def exceedsQuota (x : Exchange) : Bool :=
  x.reply.any (·.status = 429)

variable {α : Type}

def result (source : String) (decode : Document → Option α) (x : Exchange) : Except Failure α :=
  match x.reply with
  | some reply => reply.read source decode
  | none => .error (.unavailable source "there was no reply")

def value? (source : String) (decode : Document → Option α) (x : Exchange) : Option α :=
  (x.result source decode).toOption

theorem failureOf_isBlocked (source : String) (status : Nat) (retryAfter : Option Nat)
    (body : String) :
    (Http.failureOf source status retryAfter body).isBlocked = decide (status = 429) := by
  unfold Http.failureOf
  dsimp only
  split
  · rename_i h
    exact (decide_eq_true h).symm
  · rename_i h
    rw [decide_eq_false h]
    split <;> rfl

theorem isBlocked_of_result {x : Exchange} {source : String} {decode : Document → Option α}
    {f : Failure} (hf : x.result source decode = .error f) : f.isBlocked = x.exceedsQuota := by
  unfold result at hf
  unfold exceedsQuota
  cases hr : x.reply with
  | none =>
    rw [hr] at hf
    cases hf
    rfl
  | some reply =>
    rw [hr] at hf
    rw [Option.any_some]
    dsimp only at hf
    unfold Http.Reply.read at hf
    split at hf
    · rename_i hsuccess
      have hne : reply.status ≠ 429 := by
        rintro hs
        rw [hs] at hsuccess
        cases hsuccess
      rw [decide_eq_false hne]
      split at hf <;> cases hf
      rfl
    · cases hf
      exact failureOf_isBlocked ..

theorem result_of_exceedsQuota {x : Exchange} (h : x.exceedsQuota) (source : String)
    (decode : Document → Option α) : ∃ f, x.result source decode = .error f := by
  unfold exceedsQuota at h
  unfold result
  cases hr : x.reply with
  | none =>
    rw [hr] at h
    cases h
  | some reply =>
    rw [hr, Option.any_some, decide_eq_true_iff] at h
    dsimp only
    rw [Http.Reply.read, h]
    exact ⟨_, rfl⟩

end Exchange

namespace Session

variable {service : Service} {α : Type}

def exchange (t : Session service) (request : Http.Request) : Exchange :=
  ⟨request, (service.answer t.log request).1⟩

def after (t : Session service) (request : Http.Request) : Session service :=
  { t with
    now := t.now + (service.answer t.log request).2
    log := t.log ++ [t.exchange request] }

def wait (t : Session service) (duration : Nat) : Session service :=
  { t with now := t.now + duration }

instance : Clock (StateM (Session service)) where
  now := return (← getThe (Session service)).now
  pause duration := modifyThe (Session service) (wait · duration)

instance : Network (StateM (Session service)) where
  send request := modifyGetThe (Session service) fun t ↦
    ((t.exchange request).reply, t.after request)
  today := return service.date (← getThe (Session service)).now

instance : MonadStateOf Memory (StateM (Session service)) where
  get := return (← getThe (Session service)).memory
  set memory := modifyThe (Session service) fun t ↦ { t with memory }
  modifyGet f := modifyGetThe (Session service) fun t ↦
    let (a, memory) := f t.memory
    (a, { t with memory })

def store (t : Session service) : Store :=
  t.memory.store

theorem wait_wait (t : Session service) (duration duration' : Nat) :
    (t.wait duration).wait duration' = t.wait (duration + duration') := by
  unfold wait
  rw [Nat.add_assoc]

instance : Surroundings (Session service) where
  now t := t.now
  memory t := t.memory
  become t now memory := { t with now, memory }
  now_become _ _ _ := rfl
  memory_become _ _ _ := rfl
  become_self _ := rfl
  become_become _ _ _ _ _ := rfl
  now_run _ := rfl
  pause_run _ _ := rfl
  modifyGet_run _ _ := rfl

theorem send_run (request : Http.Request) (t : Session service) :
    (Network.send request : StateM (Session service) (Option Http.Reply)).run t =
      ((t.exchange request).reply, t.after request) := rfl

end Session

namespace Http.Client

variable {service : Service} {α : Type} {c : Client} {path : String}
variable {headers : List (String × String)}

def request? (c : Client) (path : String) (headers : List (String × String)) : Option Request :=
  if headers.all (isHeaderText ·.2) then
    (Url.parse? (c.base ++ path)).map fun url ↦
      ⟨url, headers.map fun (name, value) ↦ (name, headerValue value)⟩
  else none

theorem session_get_of_none (h : c.request? path headers = none) (decode : Document → Option α)
    (t : Session service) : ∃ reason,
      (c.get decode path headers : Session.Call service α).run t =
        (.error (.unavailable c.source reason), t) := by
  unfold request? at h
  unfold get
  cases hurl : Url.parse? (c.base ++ path) with
  | none => exact ⟨_, rfl⟩
  | some url =>
    rw [hurl] at h
    split at h
    · cases h
    · rename_i hheaders
      refine ⟨"a header is invalid", ?_⟩
      dsimp only
      rw [if_neg hheaders]
      rfl

theorem session_get_of_some {request : Request} (h : c.request? path headers = some request)
    (decode : Document → Option α) (t : Session service) :
    (c.get decode path headers : Session.Call service α).run t =
      ((t.exchange request).result c.source decode, t.after request) := by
  unfold request? at h
  split at h
  · rename_i hheaders
    obtain ⟨url, hurl, rfl⟩ := Option.map_eq_some_iff.mp h
    unfold get
    rw [hurl]
    dsimp only
    rw [if_pos hheaders, Exchange.result]
    let request : Request := ⟨url, headers.map fun (name, value) ↦ (name, headerValue value)⟩
    change StateT.run (Network.send request >>= _) t = _
    rw [StateT.run_bind, Session.send_run]
    change StateT.run _ (t.after request) = _
    cases hreply : (t.exchange request).reply with
    | none => rfl
    | some reply => rfl
  · cases h

end Http.Client

end ParkFusion
