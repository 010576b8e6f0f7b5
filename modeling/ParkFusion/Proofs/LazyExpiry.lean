import ParkFusion.Proofs.StoreCalls

namespace ParkFusion.Quota

/-- The answers to calls, each made at its time, and what is left of the store. -/
def runCalls {σ : Type} (perform : σ → Nat → Operation → Answer × σ) (x : σ) :
    List (Nat × Operation) → List Answer × σ
  | [] => ([], x)
  | (now, op) :: calls =>
    ((perform x now op).1 :: (runCalls perform (perform x now op).2 calls).1,
      (runCalls perform (perform x now op).2 calls).2)

/-- Of some entries those that exist at a time. -/
def existing (entries : String → Option Entry) (now : Nat) : String → Option Entry :=
  fun key ↦ (entries key).filter (Store.isLive now)

theorem existing_existing {now t : Nat} (ht : now ≤ t) (entries : String → Option Entry) :
    existing (existing entries now) t = existing entries t := by
  funext key
  rw [existing, existing, Option.filter_filter]
  congr 1
  funext e
  simp only [Store.isLive, ← Bool.decide_and, decide_eq_decide]
  omega

/-- All that was ever written, the latest first. -/
abbrev Ledger := List (String × Entry)

namespace Ledger

def perform (writes : Ledger) (now : Nat) (op : Operation) : Answer × Ledger :=
  let found := existing (writes.lookup ·) now op.key
  (op.answer now found,
    match op.write? now found with
    | none => writes
    | some e => (op.key, e) :: writes)

theorem lawful : Lawful (fun writes : Ledger ↦ existing (writes.lookup ·)) perform where
  answer _ _ _ := rfl
  written writes now op e t _ he := by
    simp only [perform, he]
    rw [existing, List.lookup_cons, beq_self_eq_true]
  unwritten writes now op t _ hn := by
    simp only [perform, hn]
  other writes now op t key _ hk := by
    unfold perform
    dsimp only
    split
    · rfl
    · rw [existing, existing, List.lookup_cons, beq_false_of_ne hk]

end Ledger

def lastWrite (calls : List (Nat × Operation)) (key : String) : Option Entry :=
  (runCalls Ledger.perform [] calls).2.lookup key

/-- A store that holds no entry past its expiry. -/
structure Eager where
  now : Nat
  entries : String → Option Entry
  current : ∀ key e, entries key = some e → now < e.expiry

namespace Eager

def empty : Eager :=
  ⟨0, fun _ ↦ none, nofun⟩

def keep (entries : String → Option Entry) (now : Nat) : Eager where
  now := now
  entries := existing entries now
  current _ _ he := of_decide_eq_true (Option.filter_eq_some_iff.mp he).2

def perform (s : Eager) (now : Nat) (op : Operation) : Answer × Eager :=
  let held := keep s.entries now
  (op.answer now (held.entries op.key),
    match op.write? now (held.entries op.key) with
    | none => held
    | some e => keep (Function.update held.entries op.key (some e)) now)

theorem existing_keep {now t : Nat} (ht : now ≤ t) (entries : String → Option Entry) :
    existing (keep entries now).entries t = existing entries t :=
  existing_existing ht entries

theorem lawful : Lawful (fun s ↦ existing s.entries) perform where
  answer _ _ _ := rfl
  written s now op e t ht he := by
    have he : op.write? now ((keep s.entries now).entries op.key) = some e := he
    simp only [perform, he]
    rw [existing_keep ht, existing, Function.update_self]
  unwritten s now op t ht hn := by
    have hn : op.write? now ((keep s.entries now).entries op.key) = none := hn
    simp only [perform, hn]
    rw [existing_keep ht]
  other s now op t key ht hk := by
    unfold perform
    dsimp only
    split
    · rw [existing_keep ht]
    · rw [existing_keep ht, existing, Function.update_of_ne hk, ← existing, existing_keep ht]

end Eager

namespace Store

variable {a b s : Store} {now start : Nat} {calls : List (Nat × Operation)} {answers : List Answer}

/-- Some entries that have expired are removed. -/
def Sweeps (now : Nat) (a b : Store) : Prop :=
  ∀ key, b.entries.lookup key = a.entries.lookup key ∨
    b.entries.lookup key = none ∧ a.live? now key = none

/-- Calls with removals of expired entries in between, whichever and whenever. -/
inductive Runs : Store → List (Nat × Operation) → List Answer → Store → Prop
  | done (s : Store) : Runs s [] [] s
  | call {a b s : Store} {now : Nat} {op : Operation} {calls : List (Nat × Operation)}
      {answers : List Answer} (hsweeps : Sweeps now a b)
      (hrest : Runs (b.perform now op).2 calls answers s) :
      Runs a ((now, op) :: calls) ((b.perform now op).1 :: answers) s

theorem runs_runCalls (s : Store) (calls : List (Nat × Operation)) :
    Runs s calls (runCalls perform s calls).1 (runCalls perform s calls).2 := by
  induction calls generalizing s with
  | nil => exact .done s
  | cons call calls ih => exact .call (fun _ ↦ Or.inl rfl) (ih _)

theorem Sweeps.live?_eq (h : Sweeps now a b) {t : Nat} (ht : now ≤ t) (key : String) :
    b.live? t key = a.live? t key := by
  rcases h key with hk | ⟨hb, ha⟩
  · rw [live?, hk, live?]
  · rw [live?_eq_none_of_le ha ht, live?, hb]
    rfl

variable {σ : Type} {found : σ → Nat → String → Option Entry}
variable {f : σ → Nat → Operation → Answer × σ} {x : σ}

/-- From `start` on, the same entries exist. -/
def Agrees (found : σ → Nat → String → Option Entry) (start : Nat) (s : Store) (x : σ) : Prop :=
  ∀ t, start ≤ t → ∀ key, s.live? t key = found x t key

theorem Agrees.step (hl : Lawful found f) (h : Agrees found now s x) (op : Operation) :
    (s.perform now op).1 = (f x now op).1 ∧
      Agrees found now (s.perform now op).2 (f x now op).2 := by
  have hfound := h now le_rfl op.key
  refine ⟨by rw [lawful.answer, hl.answer, hfound], fun t ht key ↦ ?_⟩
  by_cases hk : key = op.key
  · rw [hk]
    cases hw : op.write? now (found x now op.key) with
    | some e => rw [lawful.written s now op e t ht (hfound ▸ hw), hl.written x now op e t ht hw]
    | none =>
      rw [lawful.unwritten s now op t ht (hfound ▸ hw), hl.unwritten x now op t ht hw,
        h t ht op.key]
  · rw [lawful.other s now op t key ht hk, hl.other x now op t key ht hk, h t ht key]

theorem Runs.agrees (hl : Lawful found f) (hr : Runs s calls answers b)
    (hcalls : calls.Pairwise fun call call' ↦ call.1 ≤ call'.1)
    (hstart : ∀ call ∈ calls, start ≤ call.1) (h : Agrees found start s x) :
    answers = (runCalls f x calls).1 ∧ ∀ now, start ≤ now → (∀ call ∈ calls, call.1 ≤ now) →
      Agrees found now b (runCalls f x calls).2 := by
  induction hr generalizing start x with
  | done s => exact ⟨rfl, fun now hnow _ t ht ↦ h t (hnow.trans ht)⟩
  | @call a b s now op calls answers hsweeps hrest ih =>
    have hnow : start ≤ now := hstart (now, op) List.mem_cons_self
    -- the sweep took nothing that exists, so that the other store need not follow it
    have hb : Agrees found now b x := by
      intro t ht key
      rw [hsweeps.live?_eq ht, h t (hnow.trans ht) key]
    obtain ⟨hanswer, hagrees⟩ := hb.step hl op
    have hlater := List.pairwise_cons.mp hcalls
    obtain ⟨hanswers, hend⟩ := ih hlater.2 hlater.1 hagrees
    refine ⟨by rw [runCalls, hanswer, hanswers], fun t ht hall ↦ ?_⟩
    exact hend t (hall (now, op) List.mem_cons_self) fun call hcall ↦
      hall call (List.mem_cons_of_mem _ hcall)

/-- What calls tell and do at a time, by the entry that exists under their key. -/
structure Shows (s : Store) (now : Nat) (found : String → Option Entry) : Prop where
  get : ∀ key, (s.get now key).1 = (found key).map (·.value)
  ttl : ∀ key, s.ttl now key = (found key).map (·.expiry - now)
  setIfAbsent : ∀ key value lifetime, s.setIfAbsent now key value lifetime =
    if (found key).isNone then (true, s.set now key value lifetime) else (false, s)
  created : ∀ key lifetime, found key = none →
    s.increment now key lifetime = .ok (1, s.set now key "1" lifetime)
  counted : ∀ key lifetime e n, found key = some e → Counter.Denotes e.value n →
    n + 1 < UInt64.size →
      s.increment now key lifetime = .ok (n + 1, s.insert key ⟨(n + 1).repr, e.expiry⟩)
  refused : ∀ key lifetime e, found key = some e →
    (∀ n < UInt64.size, ¬ Counter.Denotes e.value n) → ∃ fault : CounterFault,
      s.increment now key lifetime =
        .error (.sharedState ("counter " ++ key ++ ": " ++ fault.message)) ∧
      (s.perform now (.increment key lifetime)).2 = s

theorem shows_of_live? {found : String → Option Entry} (h : ∀ key, s.live? now key = found key) :
    s.Shows now found where
  get key := by
    unfold Store.get
    rw [h]
    cases found key <;> rfl
  ttl key := by rw [Store.ttl, h]
  setIfAbsent key value lifetime := by
    unfold Store.setIfAbsent
    rw [h]
    cases found key <;> rfl
  created key lifetime hf := by
    unfold increment
    rw [h, hf]
  counted key lifetime e n hf hn hlt := by
    have hread : Counter.read e.value = .ok n :=
      Counter.read_eq_ok_iff.mpr ⟨hn, (Nat.lt_succ_self n).trans hlt⟩
    have hnext : Counter.next n = n + 1 := Nat.mod_eq_of_lt hlt
    simp only [increment, h, hf, hread, hnext]
  refused key lifetime e hf hnone := by
    cases hread : Counter.read e.value with
    | ok n =>
      obtain ⟨hn, hlt⟩ := Counter.read_eq_ok_iff.mp hread
      exact absurd hn (hnone n hlt)
    | error fault =>
      have hfails : s.increment now key lifetime =
          .error (.sharedState ("counter " ++ key ++ ": " ++ fault.message)) := by
        simp only [increment, h, hf, hread]
      exact ⟨fault, hfails, by simp only [perform, hfails]⟩

theorem runs_asEager (h : calls.Pairwise fun call call' ↦ call.1 ≤ call'.1) :
    Runs {} calls (runCalls perform {} calls).1 (runCalls perform {} calls).2 ∧
    ∀ answers s, Runs {} calls answers s →
      answers = (runCalls Eager.perform .empty calls).1 ∧
      ∀ now, (∀ call ∈ calls, call.1 ≤ now) →
        s.Shows now fun key ↦ (lastWrite calls key).filter fun e ↦ now < e.expiry := by
  refine ⟨runs_runCalls {} calls, fun answers s hr ↦ ⟨?_, fun now hnow ↦ ?_⟩⟩
  · exact (hr.agrees Eager.lawful h (fun _ _ ↦ Nat.zero_le _) fun _ _ _ ↦ rfl).1
  · have hends := (hr.agrees Ledger.lawful h (fun _ _ ↦ Nat.zero_le _) fun _ _ _ ↦ rfl).2
    exact shows_of_live? fun key ↦ hends now (Nat.zero_le now) hnow now le_rfl key

/-- Calls at the very expiry of an entry, a lifetime of zero, and a count of what is no number. -/
def brink : List (Nat × Operation) :=
  [(0, .set "k" "v" 10), (9, .ttl "k"), (10, .get "k"), (10, .setIfAbsent "k" "w" 0),
    (10, .setIfAbsent "k" "429" 5), (14, .setIfAbsent "k" "x" 60), (15, .increment "k" 60),
    (20, .increment "k" 7), (20, .set "n" "many" 5), (21, .increment "n" 5)]

theorem runs_asEager_brink : (brink.Pairwise fun call call' ↦ call.1 ≤ call'.1) ∧
    (runCalls perform {} brink).1 = [.done, .left (some 1), .value none, .wasAbsent true,
      .wasAbsent true, .wasAbsent false, .count (.ok 1), .count (.ok 2), .done,
      .count (.error (.sharedState "counter n: invalid digit found in string"))] ∧
    (runCalls perform {} brink).2.ttl 74 "k" = some 1 ∧
    (runCalls perform {} brink).2.ttl 75 "k" = none := by
  have htimes : brink.Pairwise fun call call' ↦ call.1 ≤ call'.1 := by decide
  obtain ⟨hruns, hall⟩ := runs_asEager htimes
  obtain ⟨hanswers, hshows⟩ := hall _ _ hruns
  refine ⟨htimes, hanswers.trans rfl, ?_, ?_⟩
  · rw [(hshows 74 (by decide)).ttl]
    rfl
  · rw [(hshows 75 (by decide)).ttl]
    rfl

end Store

end ParkFusion.Quota
